import AcpBridge.Lib.Text

/-! The authority of a URI in the generic syntax: user information, then a bracketed address
or a registered name, then an optional port. -/
namespace Uri

def isUnreserved (c : Char) : Bool := c.isAlphanum || ['-', '.', '_', '~'].contains c

def isSubDelim (c : Char) : Bool := "!$&'()*+,;=".toList.contains c

def isHexDigit (c : Char) : Bool :=
  c.isDigit || ('a' ≤ c && c ≤ 'f') || ('A' ≤ c && c ≤ 'F')

/-- Unreserved characters, sub-delimiters and percent-encoded bytes. -/
def isRegName : Str → Bool
  | [] => true
  | '%' :: a :: b :: rest => isHexDigit a && isHexDigit b && isRegName rest
  | c :: rest => (isUnreserved c || isSubDelim c) && isRegName rest

/-- A number up to 255 without leading zeros. -/
def isDecOctet (s : Str) : Bool :=
  s.all Char.isDigit && (s.length == 1 || ((s.length == 2 || s.length == 3) &&
    s.head? != some '0' && Nat.ofDigitChars 10 s 0 ≤ 255))

def isIpv4 (s : Str) : Bool :=
  let octets := s.splitOn '.'
  octets.length == 4 && octets.all isDecOctet

/-- One group of an address, 16 bits in hexadecimal. -/
def isGroup (s : Str) : Bool := s != [] && s.length ≤ 4 && s.all isHexDigit

/-- Number of groups spelled by the pieces; a dotted address stands for the last two. -/
def countGroups : List Str → Option ℕ
  | [] => some 0
  | [last] => if isGroup last then some 1 else if isIpv4 last then some 2 else none
  | piece :: rest => if isGroup piece then (countGroups rest).map (· + 1) else none

def pieces (s : Str) : List Str := if s = [] then [] else s.splitOn ':'

/-- Eight groups, or fewer around one `::`. -/
def isIpv6 (s : Str) : Bool :=
  match Str.splitOnce s [':', ':'] with
  | none => countGroups (pieces s) == some 8
  | some (left, right) => (pieces left).all isGroup &&
      (countGroups (pieces right)).any fun n => (pieces left).length + n ≤ 7

def isIpFuture : Str → Bool
  | [] => false
  | v :: rest =>
    (v == 'v' || v == 'V') &&
      match Str.splitOnce rest ['.'] with
      | none => false
      | some (version, address) => version != [] && version.all isHexDigit && address != [] &&
          address.all fun c => isUnreserved c || isSubDelim c || c == ':'

def isIpLiteral (s : Str) : Bool := isIpv6 s || isIpFuture s

/-- Nothing, or a colon and the digits of a port, possibly none. -/
def isPortSuffix : Str → Bool
  | [] => true
  | c :: port => c == ':' && port.all Char.isDigit

/-- What stands between `://` and the path, query or fragment. -/
def authority (uri : Str) : Option Str :=
  (Str.splitOnce uri [':', '/', '/']).map fun parts => Str.splitFirst parts.2 ['/', '?', '#']

/-- The authority without its user information. -/
def hostPort (authority : Str) : Str :=
  match Str.rsplitOnce authority ['@'] with
  | none => authority
  | some (_, rest) => rest

/-- The host of an authority, a literal without its brackets. -/
def host (authority : Str) : Option Str :=
  match Str.stripPrefix (hostPort authority) ['['] with
  | some bracketed =>
    match Str.splitOnce bracketed [']'] with
    | none => none
    | some (literal, rest) =>
      if isIpLiteral literal && isPortSuffix rest then some literal else none
  | none =>
    let name := Str.splitFirst (hostPort authority) [':']
    if isRegName name && isPortSuffix ((hostPort authority).drop name.length) then some name
    else none

section Lemmas
variable {a h s : Str} {c : Char}

theorem not_mem_portSuffix (hs : isPortSuffix s = true) (hc : c ≠ ':') (hd : c.isDigit = false) :
    c ∉ s := by
  cases s with
  | nil => simp
  | cons d port =>
    simp only [isPortSuffix, Bool.and_eq_true, beq_iff_eq, List.all_eq_true] at hs
    intro hmem
    rcases List.mem_cons.mp hmem with rfl | hmem
    · exact hc hs.1
    · exact absurd (hs.2 c hmem) (by simp [hd])

theorem head_portSuffix (hs : isPortSuffix s = true) : ∀ c, s.head? = some c → c ∈ [':'] := by
  cases s with
  | nil => simp
  | cons d port =>
    simp only [isPortSuffix, Bool.and_eq_true, beq_iff_eq] at hs
    simp [hs.1]

theorem not_mem_regName (hs : isRegName s = true) (hu : isUnreserved c = false)
    (hd : isSubDelim c = false) (hx : isHexDigit c = false) (hp : c ≠ '%') : c ∉ s := by
  induction s using isRegName.induct with
  | case1 => simp
  | case2 a b rest ih =>
    simp only [isRegName, Bool.and_eq_true] at hs
    obtain ⟨⟨ha, hb⟩, hrest⟩ := hs
    simp only [List.mem_cons, not_or]
    refine ⟨hp, ?_, ?_, ih hrest⟩
    · rintro rfl
      simp [hx] at ha
    · rintro rfl
      simp [hx] at hb
  | case3 d rest hne ih =>
    rw [isRegName] at hs
    · simp only [Bool.and_eq_true, Bool.or_eq_true] at hs
      simp only [List.mem_cons, not_or]
      refine ⟨?_, ih hs.2⟩
      rintro rfl
      simp [hu, hd] at hs
    · exact hne

theorem hostPort_of_not_mem (ha : '@' ∉ a) : hostPort a = a := by
  rw [hostPort, Str.rsplitOnce_eq_none ha]

theorem hostPort_append (hs : '@' ∉ s) : hostPort (a ++ '@' :: s) = s := by
  have hlast : Str.rsplitOnce (a ++ ['@'] ++ s) ['@'] = some (a, s) :=
    Str.rsplitOnce_append (by simp) hs
  rw [List.append_assoc, List.singleton_append] at hlast
  rw [hostPort, hlast]

/-- A host is a literal in brackets or a registered name, and all that follows it is a port. -/
theorem host_eq_some_iff : host a = some h ↔
    (∃ rest, hostPort a = '[' :: (h ++ ']' :: rest) ∧ ']' ∉ h ∧ isIpLiteral h = true ∧
      isPortSuffix rest = true) ∨
    ∃ rest, hostPort a = h ++ rest ∧ isRegName h = true ∧ isPortSuffix rest = true := by
  unfold host
  generalize hostPort a = hp
  constructor
  · intro heq
    cases hstrip : Str.stripPrefix hp ['['] with
    | some bracketed =>
      left
      cases ho : Str.splitOnce bracketed [']'] with
      | none => simp [hstrip, ho] at heq
      | some parts =>
        obtain ⟨literal, rest⟩ := parts
        simp only [hstrip, ho] at heq
        split_ifs at heq with hif
        obtain rfl := Option.some.inj heq
        rw [Bool.and_eq_true] at hif
        have hb := (Str.splitOnce_eq_some.mp ho).1
        refine ⟨rest, ?_, Str.splitOnce_not_mem ho, hif.1, hif.2⟩
        rw [Str.stripPrefix_eq_some.mp hstrip, hb]
        simp
    | none =>
      right
      simp only [hstrip] at heq
      split_ifs at heq with hif
      obtain rfl := Option.some.inj heq
      rw [Bool.and_eq_true] at hif
      have hrest : hp = Str.splitFirst hp [':'] ++ hp.drop (Str.splitFirst hp [':']).length :=
        (List.prefix_iff_eq_append.mp (List.takeWhile_prefix _)).symm
      exact ⟨_, hrest, hif.1, hif.2⟩
  · rintro (⟨rest, rfl, hmem, hlit, hport⟩ | ⟨rest, rfl, hname, hport⟩)
    · have hsplit : Str.splitOnce (h ++ [']'] ++ rest) [']'] = some (h, rest) :=
        Str.splitOnce_append hmem
      rw [List.append_assoc, List.singleton_append] at hsplit
      have hstrip : Str.stripPrefix ('[' :: (h ++ ']' :: rest)) ['['] = some (h ++ ']' :: rest) :=
        Str.stripPrefix_eq_some.mpr rfl
      simp only [hstrip, hsplit, hlit, hport, Bool.and_self, if_true]
    · have hcolon : ':' ∉ h :=
        not_mem_regName hname (by decide) (by decide) (by decide) (by decide)
      have hbracket : '[' ∉ h ++ rest := by
        rw [List.mem_append, not_or]
        exact ⟨not_mem_regName hname (by decide) (by decide) (by decide) (by decide),
          not_mem_portSuffix hport (by decide) (by decide)⟩
      have hstrip : Str.stripPrefix (h ++ rest) ['['] = none := by
        by_contra hne
        obtain ⟨t, ht⟩ := Option.ne_none_iff_exists'.mp hne
        rw [Str.stripPrefix_eq_some.mp ht] at hbracket
        simp at hbracket
      have hfirst : Str.splitFirst (h ++ rest) [':'] = h := by
        refine Str.splitFirst_append ?_ (head_portSuffix hport)
        intro c hc hcm
        rw [List.mem_singleton.mp hcm] at hc
        exact hcolon hc
      simp only [hstrip, hfirst, List.drop_left, hname, hport, Bool.and_self, if_true]

end Lemmas

example : host "user:pw@[::1]:80".toList = some "::1".toList := by decide
example : isIpv6 "2001:db8::192.0.2.1".toList = true := by decide

end Uri
