import Mathlib.Data.List.Basic
import AcpBridge.Lib.Usize

/-! String slices as lists of Unicode scalar values: affixes, the first and the last
occurrence of a pattern, whitespace, line splitting and decimal parsing. -/

/-- A string slice. -/
abbrev Str := List Char

namespace Str

def startsWith (s pre : Str) : Bool := pre.isPrefixOf s

def endsWith (s suf : Str) : Bool := suf.isSuffixOf s

def stripPrefix (s pre : Str) : Option Str := s.dropPrefix? pre

def stripSuffix (s suf : Str) : Option Str := s.dropSuffix? suf

/-- Split around the first occurrence of `pat`. -/
def splitOnce (s pat : Str) : Option (Str × Str) := s.dropInfix? pat

/-- Split around the last occurrence of `pat`. -/
def rsplitOnce (s pat : Str) : Option (Str × Str) :=
  (s.reverse.dropInfix? pat.reverse).map fun p => (p.2.reverse, p.1.reverse)

/-- First piece of the split at any character of `seps`. -/
def splitFirst (s seps : Str) : Str := s.takeWhile fun c => !seps.contains c

/-- The Unicode `White_Space` property. -/
def isWhitespace (c : Char) : Bool :=
  (9 ≤ c.val && c.val ≤ 13) || c.val == 0x20 || c.val == 0x85 || c.val == 0xA0 ||
    c.val == 0x1680 || (0x2000 ≤ c.val && c.val ≤ 0x200A) || c.val == 0x2028 ||
    c.val == 0x2029 || c.val == 0x202F || c.val == 0x205F || c.val == 0x3000

def trimStart (s : Str) : Str := s.dropWhile isWhitespace

def trim (s : Str) : Str := (s.trimStart.reverse.dropWhile isWhitespace).reverse

/-- The UTF-8 encoding. -/
def bytes (s : Str) : List UInt8 := s.flatMap String.utf8EncodeChar

/-- Length in bytes of the UTF-8 encoding. -/
def len (s : Str) : ℕ := s.bytes.length

/-- Drop the carriage return of a line ended by CRLF. -/
def stripCr (line : Str) : Str := (line.stripSuffix ['\r']).getD line

private def linesFrom : Str → Str → List Str
  | line, [] => if line.isEmpty then [] else [line.reverse]
  | line, c :: rest =>
    if c = '\n' then stripCr line.reverse :: linesFrom [] rest else linesFrom (c :: line) rest

/-- Lines without their terminators; the last terminator is optional. -/
def lines (s : Str) : List Str := linesFrom [] s

/-- No line break in it. -/
def Inline (s : Str) : Prop := ∀ c ∈ s, c ≠ '\n' ∧ c ≠ '\r'

instance (s : Str) : Decidable (Inline s) := List.decidableBAll _ s

/-- Decimal `usize`, with an optional plus sign. -/
def parseUsize (s : Str) : Option Usize :=
  let digits := match s with
    | '+' :: rest => rest
    | _ => s
  if digits ≠ [] ∧ digits.all Char.isDigit then
    let n := Nat.ofDigitChars 10 digits 0
    if h : n < 2 ^ 64 then some ⟨n, h⟩ else none
  else none

/-- Decimal `u16`, with an optional plus sign. -/
def parseU16 (s : Str) : Option UInt16 :=
  s.parseUsize.bind fun n => if n.val < 65536 then some (.ofNat n.val) else none

theorem length_le_len (s : Str) : s.length ≤ s.len := by
  induction s with
  | nil => exact Nat.le_refl 0
  | cons c s ih =>
    have hpos : 0 < (String.utf8EncodeChar c).length := by
      rw [String.length_utf8EncodeChar]
      exact Char.utf8Size_pos c
    simp only [len, bytes, List.flatMap_cons, List.length_append, List.length_cons] at ih ⊢
    omega

section Affixes
variable {s t pre suf pat a b : Str}

theorem stripPrefix_eq_some : stripPrefix s pre = some t ↔ s = pre ++ t := by
  simp [stripPrefix, List.dropPrefix?_eq_some_iff]

theorem stripSuffix_eq_some : stripSuffix s suf = some t ↔ s = t ++ suf := by
  simp [stripSuffix, List.dropSuffix?_eq_some_iff]

@[simp] theorem stripPrefix_append : stripPrefix (pre ++ t) pre = some t :=
  stripPrefix_eq_some.mpr rfl

@[simp] theorem stripSuffix_append : stripSuffix (t ++ suf) suf = some t :=
  stripSuffix_eq_some.mpr rfl

theorem startsWith_iff : startsWith s pre = true ↔ ∃ t, s = pre ++ t := by
  rw [startsWith, List.isPrefixOf_iff_prefix]
  exact ⟨fun ⟨t, h⟩ => ⟨t, h.symm⟩, fun ⟨t, h⟩ => ⟨t, h.symm⟩⟩

theorem endsWith_iff : endsWith s suf = true ↔ ∃ t, s = t ++ suf := by
  rw [endsWith, List.isSuffixOf_iff_suffix]
  exact ⟨fun ⟨t, h⟩ => ⟨t, h.symm⟩, fun ⟨t, h⟩ => ⟨t, h.symm⟩⟩

/-- The first occurrence is the one no shorter prefix is followed by. -/
theorem splitOnce_eq_some : splitOnce s pat = some (a, b) ↔
    s = a ++ pat ++ b ∧ ∀ a' b', s = a' ++ pat ++ b' → a.length ≤ a'.length := by
  simp only [splitOnce, List.dropInfix?_eq_some_iff, beq_iff_eq, exists_eq_right, ge_iff_le]
  refine and_congr_right fun _ => ⟨fun h a' b' hs => h a' pat b' hs rfl, ?_⟩
  rintro h a' pat' b' hs rfl
  exact h a' b' hs

/-- A pattern whose head does not occur in front of it is found first. -/
theorem splitOnce_append {c : Char} {pat : Str} (ha : c ∉ a) :
    splitOnce (a ++ (c :: pat) ++ b) (c :: pat) = some (a, b) := by
  refine splitOnce_eq_some.mpr ⟨rfl, fun a' b' h => ?_⟩
  by_contra hlt
  have hmem : c ∈ (a' ++ (c :: pat) ++ b').take a.length := by
    rw [List.append_assoc, List.take_append, List.mem_append]
    apply Or.inr
    obtain ⟨n, hn⟩ : ∃ n, a.length - a'.length = n + 1 := ⟨a.length - a'.length - 1, by omega⟩
    simp [hn]
  rw [← h, List.append_assoc, List.take_left' rfl] at hmem
  exact ha hmem

theorem splitOnce_not_mem {c : Char} (h : splitOnce s [c] = some (a, b)) : c ∉ a := by
  obtain ⟨hs, hfirst⟩ := splitOnce_eq_some.mp h
  intro hmem
  obtain ⟨l, r, rfl⟩ := List.append_of_mem hmem
  have hle := hfirst l (r ++ c :: b) (by rw [hs]; simp)
  rw [List.length_append, List.length_cons] at hle
  omega

theorem rsplitOnce_eq_some : rsplitOnce s pat = some (a, b) ↔
    s = a ++ pat ++ b ∧ ∀ a' b', s = a' ++ pat ++ b' → b.length ≤ b'.length := by
  have hrev : ∀ x y : Str, s.reverse = y.reverse ++ pat.reverse ++ x.reverse ↔
      s = x ++ pat ++ y := by
    intro x y
    rw [← List.reverse_inj]
    simp
  have hs : rsplitOnce s pat = some (a, b) ↔
      splitOnce s.reverse pat.reverse = some (b.reverse, a.reverse) := by
    simp only [rsplitOnce, splitOnce, Option.map_eq_some_iff, Prod.mk.injEq, Prod.exists]
    constructor
    · rintro ⟨x, y, h, rfl, rfl⟩; simpa using h
    · intro h; exact ⟨_, _, h, by simp, by simp⟩
  rw [hs, splitOnce_eq_some, hrev]
  refine and_congr_right fun _ => ⟨fun h a' b' hb => ?_, fun h a' b' hb => ?_⟩
  · simpa using h b'.reverse a'.reverse ((hrev a' b').mpr hb)
  · have hb' := (hrev b'.reverse a'.reverse).mp (by simpa using hb)
    simpa using h b'.reverse a'.reverse hb'

/-- A pattern whose head does not occur behind it is found last. -/
theorem rsplitOnce_append {c : Char} {pat : Str} (hp : c ∉ pat) (hb : c ∉ b) :
    rsplitOnce (a ++ (c :: pat) ++ b) (c :: pat) = some (a, b) := by
  refine rsplitOnce_eq_some.mpr ⟨rfl, fun a' b' h => ?_⟩
  by_contra hlt
  have hl := congrArg List.length h
  simp only [List.length_append, List.length_cons] at hl
  have hd := congrArg (List.drop (a.length + 1)) h
  have hleft : (a ++ (c :: pat) ++ b).drop (a.length + 1) = pat ++ b := by
    simp [List.append_assoc, List.drop_append]
  have hmem : c ∈ (a' ++ (c :: pat) ++ b').drop (a.length + 1) := by
    rw [List.append_assoc, List.drop_append_of_le_length (by omega)]
    simp
  rw [← hd, hleft, List.mem_append] at hmem
  exact hmem.elim hp hb

theorem exists_last {c : Char} (h : c ∈ s) : ∃ a b, s = a ++ c :: b ∧ c ∉ b := by
  obtain ⟨b, a, hs, hb⟩ := List.eq_append_cons_of_mem (List.mem_reverse.mpr h)
  refine ⟨a.reverse, b.reverse, ?_, by simpa using hb⟩
  rw [← List.reverse_inj, hs]
  simp

theorem rsplitOnce_eq_none {c : Char} (h : c ∉ s) : rsplitOnce s [c] = none := by
  by_contra hne
  obtain ⟨⟨a, b⟩, hab⟩ := Option.ne_none_iff_exists'.mp hne
  rw [(rsplitOnce_eq_some.mp hab).1] at h
  simp at h

/-- Cutting at a separator gives back the text in front of it. -/
theorem splitFirst_append {seps : Str} (ha : ∀ c ∈ a, c ∉ seps)
    (hb : ∀ c, b.head? = some c → c ∈ seps) : splitFirst (a ++ b) seps = a := by
  have hall : ∀ c ∈ a, (!seps.contains c) = true := fun c hc => by simpa using ha c hc
  rw [splitFirst, List.takeWhile_append_of_pos hall]
  cases b with
  | nil => simp
  | cons c b =>
    have hc : c ∈ seps := hb c rfl
    simp [hc]

theorem splitFirst_eq (s seps : Str) : ∃ rest, s = splitFirst s seps ++ rest ∧
    (∀ c ∈ splitFirst s seps, c ∉ seps) ∧ ∀ c, rest.head? = some c → c ∈ seps := by
  refine ⟨s.dropWhile fun c => !seps.contains c, List.takeWhile_append_dropWhile.symm, ?_, ?_⟩
  · intro c hc
    simpa using List.all_eq_true.mp List.all_takeWhile c hc
  · intro c hc
    have hstop := List.head?_dropWhile_not (fun c => !seps.contains c) s
    rw [hc] at hstop
    simpa using hstop

/-- What stands around the last occurrence of a pattern is determined by the text. -/
theorem append_inj_last {a' b' : Str} {c : Char} (pat : Str) (hp : c ∉ pat) (hb : c ∉ b)
    (hb' : c ∉ b') (h : a ++ (c :: pat) ++ b = a' ++ (c :: pat) ++ b') : a = a' ∧ b = b' := by
  have hlast : rsplitOnce (a ++ (c :: pat) ++ b) (c :: pat) = some (a, b) := rsplitOnce_append hp hb
  rw [h, rsplitOnce_append hp hb'] at hlast
  have hpair := Option.some.inj hlast
  exact ⟨(congrArg Prod.fst hpair).symm, (congrArg Prod.snd hpair).symm⟩

end Affixes

section Bytes

/-- The first byte of a character outside ASCII has the top bit set. -/
theorem encode_ascii {c : Char} (h : ∀ b ∈ String.utf8EncodeChar c, b < 128) :
    String.utf8EncodeChar c = [c.val.toUInt8] ∧ c.val < 128 := by
  have htop : ∀ x m : UInt8, 128 ≤ m → ¬ x ||| m < 128 := by
    intro x m hm hlt
    have hle : m.toNat ≤ (x ||| m).toNat := by
      rw [UInt8.toNat_or]
      exact Nat.right_le_or
    rw [UInt8.lt_iff_toNat_lt] at hlt
    rw [UInt8.le_iff_toNat_le] at hm
    omega
  rcases c.utf8Size_eq with hs | hs | hs | hs
  · have hle := Char.utf8Size_eq_one_iff.mp hs
    rw [UInt32.le_iff_toNat_le] at hle
    refine ⟨String.utf8EncodeChar_eq_singleton hs, ?_⟩
    rw [UInt32.lt_iff_toNat_lt]
    exact Nat.lt_succ_of_le hle
  · rw [String.utf8EncodeChar_eq_cons_cons hs] at h
    exact absurd (h _ List.mem_cons_self) (htop _ _ (by decide))
  · rw [String.utf8EncodeChar_eq_cons_cons_cons hs] at h
    exact absurd (h _ List.mem_cons_self) (htop _ _ (by decide))
  · rw [String.utf8EncodeChar_eq_cons_cons_cons_cons hs] at h
    exact absurd (h _ List.mem_cons_self) (htop _ _ (by decide))

theorem bytes_of_ascii {s : Str} (h : ∀ c ∈ s, c.val < 128) : bytes s = s.map (·.val.toUInt8) := by
  induction s with
  | nil => rfl
  | cons c s ih =>
    obtain ⟨hc, hs⟩ := List.forall_mem_cons.mp h
    have hsize : c.utf8Size = 1 := Char.utf8Size_eq_one_iff.mpr (by
      rw [UInt32.lt_iff_toNat_lt] at hc
      rw [UInt32.le_iff_toNat_le]
      exact Nat.le_of_lt_succ hc)
    rw [bytes, List.flatMap_cons, String.utf8EncodeChar_eq_singleton hsize, List.map_cons, ← ih hs]
    rfl

theorem bytes_ascii {s : Str} (h : ∀ b ∈ bytes s, b < 128) :
    bytes s = s.map (·.val.toUInt8) ∧ ∀ c ∈ s, c.val < 128 := by
  have hascii : ∀ c ∈ s, c.val < 128 := fun c hc =>
    (encode_ascii fun b hb => h b (List.mem_flatMap.mpr ⟨c, hc, hb⟩)).2
  exact ⟨bytes_of_ascii hascii, hascii⟩

/-- A table of bytes decides a property of an ASCII character. -/
theorem ascii_of_byte {c : Char} (hc : c.val < 128) {P : Char → Prop} {q : UInt8 → Bool}
    (htable : ∀ n < 128, q (UInt8.ofNat n) = true → P (Char.ofNat n))
    (h : q c.val.toUInt8 = true) : P c := by
  rw [UInt32.lt_iff_toNat_lt] at hc
  have hn := htable c.toNat hc h
  rwa [Char.ofNat_toNat] at hn

end Bytes

section Trim
variable {s : Str} {c : Char}

theorem trim_cons (hc : isWhitespace c = false) : ∃ t, trim (c :: s) = c :: t := by
  have hstart : trimStart (c :: s) = c :: s := by simp [trimStart, hc]
  rw [trim, hstart, List.reverse_cons, List.dropWhile_append]
  split_ifs with he
  · exact ⟨[], by simp [hc]⟩
  · exact ⟨(s.reverse.dropWhile isWhitespace).reverse, by simp⟩

theorem trim_append_white (hc : isWhitespace c = true) : trim (s ++ [c]) = trim s := by
  rw [trim, trim, trimStart, trimStart, List.dropWhile_append]
  split_ifs with he
  · simp [hc, List.isEmpty_iff.mp he]
  · simp [hc]

@[simp] theorem trim_stripCr : trim (stripCr s) = trim s := by
  rw [stripCr]
  cases h : stripSuffix s ['\r'] with
  | none => rfl
  | some t =>
    obtain rfl := stripSuffix_eq_some.mp h
    exact (trim_append_white (by decide)).symm

theorem exists_stripCr_append (s : Str) : ∃ t, s = stripCr s ++ t := by
  rw [stripCr]
  cases h : stripSuffix s ['\r'] with
  | none => exact ⟨[], by simp⟩
  | some t => exact ⟨_, stripSuffix_eq_some.mp h⟩

theorem stripCr_append (h : c ≠ '\r') : stripCr (s ++ [c]) = s ++ [c] := by
  rw [stripCr, Option.getD_eq_iff]
  refine .inr ⟨?_, rfl⟩
  by_contra hne
  obtain ⟨t, ht⟩ := Option.ne_none_iff_exists'.mp hne
  obtain ⟨_, hc⟩ := List.append_inj' (stripSuffix_eq_some.mp ht) rfl
  exact h (List.singleton_inj.mp hc)

end Trim

section Lines
variable {l s : Str}

private theorem linesFrom_append {acc : Str} (h : '\n' ∉ l) :
    linesFrom acc (l ++ '\n' :: s) = stripCr (acc.reverse ++ l) :: linesFrom [] s := by
  induction l generalizing acc with
  | nil => simp [linesFrom]
  | cons c l ih =>
    simp only [List.mem_cons, not_or] at h
    simp [linesFrom, Ne.symm h.1, ih h.2]

private theorem linesFrom_of_not_mem {acc : Str} (h : '\n' ∉ l) :
    linesFrom acc l = if acc.reverse ++ l = [] then [] else [acc.reverse ++ l] := by
  induction l generalizing acc with
  | nil => simp [linesFrom]
  | cons c l ih =>
    simp only [List.mem_cons, not_or] at h
    simp [linesFrom, Ne.symm h.1, ih h.2]

theorem inline_append {t : Str} : Inline (s ++ t) ↔ Inline s ∧ Inline t := List.forall_mem_append

theorem Inline.not_mem (h : Inline l) : '\n' ∉ l := fun hm => (h _ hm).1 rfl

theorem Inline.stripCr (h : Inline l) : Str.stripCr l = l := by
  rcases List.eq_nil_or_concat l with rfl | ⟨t, c, rfl⟩
  · rfl
  · rw [List.concat_eq_append] at h ⊢
    exact stripCr_append (h c (by simp)).2

theorem inline_toString (n : ℕ) : Inline (toString n).toList := by
  intro c hc
  rw [Nat.toString_eq_repr, Nat.toList_repr] at hc
  have hdigit := Nat.isDigit_of_mem_toDigits (by decide) (by decide) hc
  constructor <;> rintro rfl <;> simp at hdigit

theorem lines_append (h : '\n' ∉ l) : lines (l ++ '\n' :: s) = stripCr l :: lines s :=
  linesFrom_append h

/-- Terminated lines are read back. -/
theorem lines_terminated {ls : List Str} (h : ∀ l ∈ ls, Inline l) :
    lines (ls.flatMap (· ++ ['\n'])) = ls := by
  induction ls with
  | nil => rfl
  | cons l ls ih =>
    obtain ⟨hl, hls⟩ := List.forall_mem_cons.mp h
    rw [List.flatMap_cons, List.append_assoc, List.singleton_append, lines_append hl.not_mem,
      hl.stripCr, ih hls]

/-- An empty last line is not a line. -/
theorem lines_of_not_mem (h : '\n' ∉ l) : lines l = if l = [] then [] else [l] :=
  linesFrom_of_not_mem h

private theorem intercalate_cons {l m : Str} {rest : List Str} :
    ['\n'].intercalate (l :: m :: rest) = l ++ '\n' :: ['\n'].intercalate (m :: rest) := by
  simp [List.intercalate, List.intersperse]

/-- Every line but the last loses its terminator and a carriage return before it. -/
theorem lines_intercalate {init last : List Str} (h : ∀ l ∈ init, '\n' ∉ l) (hlast : last ≠ []) :
    lines (['\n'].intercalate (init ++ last)) =
      init.map stripCr ++ lines (['\n'].intercalate last) := by
  induction init with
  | nil => rfl
  | cons l init ih =>
    have hne : init ++ last ≠ [] := List.append_ne_nil_of_right_ne_nil init hlast
    obtain ⟨m, rest, hm⟩ := List.exists_cons_of_ne_nil hne
    have hcons : ['\n'].intercalate (l :: (init ++ last)) =
        l ++ '\n' :: ['\n'].intercalate (init ++ last) := by
      rw [hm, intercalate_cons]
    simp only [List.cons_append, List.map_cons]
    have hinit : ∀ k ∈ init, '\n' ∉ k := fun k hk => h k (List.mem_cons_of_mem _ hk)
    rw [hcons, lines_append (h l List.mem_cons_self), ih hinit]

theorem mem_lines_intercalate {ls : List Str} (h : ∀ l ∈ ls, '\n' ∉ l)
    (hs : s ∈ lines (['\n'].intercalate ls)) : ∃ l ∈ ls, s = l ∨ s = stripCr l := by
  induction ls with
  | nil => simp [List.intercalate, lines, linesFrom] at hs
  | cons l rest ih =>
    rw [List.forall_mem_cons] at h
    cases rest with
    | nil =>
      rw [show ['\n'].intercalate [l] = l by simp [List.intercalate], lines_of_not_mem h.1] at hs
      split_ifs at hs
      · simp at hs
      · exact ⟨l, List.mem_cons_self, .inl (List.mem_singleton.mp hs)⟩
    | cons m rest =>
      rw [intercalate_cons, lines_append h.1] at hs
      rcases List.mem_cons.mp hs with rfl | hs
      · exact ⟨l, List.mem_cons_self, .inr rfl⟩
      · obtain ⟨k, hk, hs⟩ := ih h.2 hs
        exact ⟨k, List.mem_cons_of_mem _ hk, hs⟩

/-- A line that is not empty and ends in no carriage return is read back as written. -/
theorem lines_intercalate_mid {init behind : List Str} (h : ∀ k ∈ init ++ l :: behind, '\n' ∉ k)
    (hne : l ≠ []) (hcr : stripCr l = l) : ∃ behind',
    lines (['\n'].intercalate (init ++ l :: behind)) = init.map stripCr ++ l :: behind' := by
  have hl : '\n' ∉ l := h l (by simp)
  rw [lines_intercalate (fun k hk => h k (List.mem_append_left _ hk)) (List.cons_ne_nil _ _)]
  cases behind with
  | nil =>
    refine ⟨[], ?_⟩
    rw [show ['\n'].intercalate [l] = l by simp [List.intercalate], lines_of_not_mem hl, if_neg hne]
  | cons m rest =>
    refine ⟨lines (['\n'].intercalate (m :: rest)), ?_⟩
    rw [intercalate_cons, lines_append hl, hcr]

/-- A line that is not empty is read back, up to a carriage return, and what follows it is read
as a text of its own. -/
theorem lines_intercalate_cons {init : List Str} (behind : List Str)
    (hinit : ∀ k ∈ init, '\n' ∉ k) (hl : '\n' ∉ l) (hne : l ≠ []) : ∃ l',
    (l' = l ∨ l' = stripCr l) ∧
      lines (['\n'].intercalate (init ++ l :: behind)) =
        init.map stripCr ++ l' :: lines (['\n'].intercalate behind) := by
  rw [lines_intercalate hinit (List.cons_ne_nil _ _)]
  cases behind with
  | nil =>
    refine ⟨l, .inl rfl, ?_⟩
    rw [show ['\n'].intercalate [l] = l by simp [List.intercalate], lines_of_not_mem hl,
      if_neg hne]
    rfl
  | cons m rest => exact ⟨stripCr l, .inr rfl, by rw [intercalate_cons, lines_append hl]⟩

end Lines

end Str
