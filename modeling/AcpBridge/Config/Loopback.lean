import AcpBridge.Config
import AcpBridge.Lib.Uri

/-! The loopback test against the real host of a URL: which authorities the scanner takes for
loopback, and on which of them it is right. -/
namespace AcpBridge

def loopbackHosts : List Str := ["127.0.0.1".toList, "localhost".toList, "::1".toList]

/-- The host as the loopback test cuts it out of an authority. -/
def scannedHost (authority : Str) : Str :=
  match Str.stripPrefix authority ['['] with
  | some bracketed => Str.splitFirst bracketed [']']
  | none =>
    match Str.rsplitOnce authority [':'] with
    | none => authority
    | some (host, port) => if port.all Char.isDigit then host else authority

theorem isLoopbackHost_iff (url : String) : isLoopbackHost url = true ↔
    ∃ a, Uri.authority url.toList = some a ∧ scannedHost a ∈ loopbackHosts := by
  have hsep : "://".toList = [':', '/', '/'] := rfl
  unfold isLoopbackHost Uri.authority
  rw [hsep]
  cases Str.splitOnce url.toList [':', '/', '/'] with
  | none => simp
  | some parts =>
    simp only [Option.map_some, Option.some.injEq, exists_eq_left', Bool.or_eq_true, beq_iff_eq,
      loopbackHosts, List.mem_cons, List.not_mem_nil, or_false, or_assoc]
    rfl

section Scanner
variable {a name rest : Str}

theorem mem_loopbackHosts : name ∈ loopbackHosts ↔
    name = "127.0.0.1".toList ∨ name = "localhost".toList ∨ name = "::1".toList := by
  simp only [loopbackHosts, List.mem_cons, List.not_mem_nil, or_false]

theorem loopbackHosts_plain (hn : name ∈ loopbackHosts) :
    ']' ∉ name ∧ '[' ∉ name ∧ '@' ∉ name := by
  rcases mem_loopbackHosts.mp hn with rfl | rfl | rfl <;> decide

/-- In brackets the scanner stops at the first closing one, and looks no further. -/
theorem scannedHost_bracket {tail : Str} (hn : ']' ∉ name)
    (ht : ∀ c, tail.head? = some c → c = ']') : scannedHost ('[' :: (name ++ tail)) = name := by
  have hstrip : Str.stripPrefix ('[' :: (name ++ tail)) ['['] = some (name ++ tail) :=
    Str.stripPrefix_eq_some.mpr rfl
  simp only [scannedHost, hstrip]
  refine Str.splitFirst_append ?_ fun c hc => List.mem_singleton.mpr (ht c hc)
  intro c hc hcm
  rw [List.mem_singleton.mp hcm] at hc
  exact hn hc

theorem stripPrefix_of_not_mem (h : '[' ∉ a) : Str.stripPrefix a ['['] = none := by
  by_contra hne
  obtain ⟨t, ht⟩ := Option.ne_none_iff_exists'.mp hne
  rw [Str.stripPrefix_eq_some.mp ht] at h
  simp at h

theorem not_mem_digits {c : Char} (hd : rest.all Char.isDigit = true) (hc : c.isDigit = false) :
    c ∉ rest := by
  intro hm
  have hdigit := List.all_eq_true.mp hd c hm
  simp [hc] at hdigit

/-- A numeric last piece is a port, an empty one too. -/
theorem scannedHost_port {port : Str} (hn : '[' ∉ name) (hd : port.all Char.isDigit = true) :
    scannedHost (name ++ ':' :: port) = name := by
  have hbracket : '[' ∉ name ++ ':' :: port := by
    simp only [List.mem_append, List.mem_cons, not_or]
    exact ⟨hn, by decide, not_mem_digits hd (by decide)⟩
  have hlast : Str.rsplitOnce (name ++ [':'] ++ port) [':'] = some (name, port) :=
    Str.rsplitOnce_append (by simp) (not_mem_digits hd (by decide))
  rw [List.append_assoc, List.singleton_append] at hlast
  simp only [scannedHost, stripPrefix_of_not_mem hbracket, hlast, hd, if_true]

/-- A bare `::1` is cut at its own last colon. -/
theorem scannedHost_bare (hn : name ∈ loopbackHosts) :
    scannedHost name ∈ loopbackHosts ↔ name ≠ "::1".toList := by
  rcases mem_loopbackHosts.mp hn with rfl | rfl | rfl <;> decide

theorem scannedHost_mem_iff : scannedHost a ∈ loopbackHosts ↔
    (∃ name ∈ loopbackHosts, ∃ tail, a = '[' :: (name ++ tail) ∧
      ∀ c, tail.head? = some c → c = ']') ∨
    ∃ name ∈ loopbackHosts, ∃ rest, a = name ++ rest ∧ Uri.isPortSuffix rest = true ∧
      (name = "::1".toList → rest ≠ []) := by
  constructor
  · intro h
    unfold scannedHost at h
    cases hstrip : Str.stripPrefix a ['['] with
    | some bracketed =>
      left
      simp only [hstrip] at h
      obtain ⟨tail, htail, -, hhead⟩ := Str.splitFirst_eq bracketed [']']
      refine ⟨_, h, tail, ?_, fun c hc => List.mem_singleton.mp (hhead c hc)⟩
      rw [← htail]
      exact Str.stripPrefix_eq_some.mp hstrip
    | none =>
      right
      simp only [hstrip] at h
      cases hlast : Str.rsplitOnce a [':'] with
      | none =>
        simp only [hlast] at h
        refine ⟨a, h, [], by simp, rfl, ?_⟩
        rintro rfl
        exact absurd hlast (by decide)
      | some parts =>
        obtain ⟨host, port⟩ := parts
        simp only [hlast] at h
        have ha := (Str.rsplitOnce_eq_some.mp hlast).1
        split_ifs at h with hd
        · refine ⟨host, h, ':' :: port, by rw [ha]; simp, by simpa [Uri.isPortSuffix] using hd, ?_⟩
          simp
        · -- the last piece of a loopback name is never anything but a port
          have hports : ∀ n ∈ loopbackHosts,
              (Str.rsplitOnce n [':']).all (fun p => p.2.all Char.isDigit) = true := by decide
          have hport := hports a h
          rw [hlast] at hport
          exact absurd hport hd
  · rintro (⟨name, hn, tail, rfl, htail⟩ | ⟨name, hn, rest, rfl, hport, hbare⟩)
    · rw [scannedHost_bracket (loopbackHosts_plain hn).1 htail]
      exact hn
    · cases rest with
      | nil =>
        rw [List.append_nil, scannedHost_bare hn]
        intro heq
        exact hbare heq rfl
      | cons c port =>
        simp only [Uri.isPortSuffix, Bool.and_eq_true, beq_iff_eq] at hport
        obtain ⟨rfl, hd⟩ := hport
        rw [scannedHost_port (loopbackHosts_plain hn).2.1 hd]
        exact hn

/-- A loopback host as a URI spells it, with or without a port. -/
def LoopbackHostPort (s : Str) : Prop :=
  ∃ spelling ∈ ["127.0.0.1".toList, "localhost".toList, "[::1]".toList], ∃ rest,
    Uri.isPortSuffix rest = true ∧ s = spelling ++ rest

theorem LoopbackHostPort.not_mem {s : Str} (h : LoopbackHostPort s) : '@' ∉ s := by
  obtain ⟨spelling, hs, rest, hport, rfl⟩ := h
  have hrest : '@' ∉ rest := Uri.not_mem_portSuffix hport (by decide) (by decide)
  simp only [List.mem_cons, List.not_mem_nil, or_false] at hs
  rw [List.mem_append, not_or]
  refine ⟨?_, hrest⟩
  rcases hs with rfl | rfl | rfl <;> decide

/-- The real host is loopback exactly when what follows the user information spells it. -/
theorem host_loopback_iff :
    (∃ h ∈ loopbackHosts, Uri.host a = some h) ↔ LoopbackHostPort (Uri.hostPort a) := by
  have hliteral : ∀ n ∈ loopbackHosts, Uri.isIpLiteral n = true ↔ n = "::1".toList := by decide
  have hname : ∀ n ∈ loopbackHosts, Uri.isRegName n = true ↔ n ≠ "::1".toList := by decide
  constructor
  · rintro ⟨h, hh, hhost⟩
    rcases Uri.host_eq_some_iff.mp hhost with ⟨rest, hp, -, hlit, hport⟩ | ⟨rest, hp, hreg, hport⟩
    · obtain rfl := (hliteral h hh).mp hlit
      exact ⟨"[::1]".toList, by simp, rest, hport, hp⟩
    · have hne := (hname h hh).mp hreg
      refine ⟨h, ?_, rest, hport, hp⟩
      rcases mem_loopbackHosts.mp hh with rfl | rfl | rfl
      · simp
      · simp
      · exact absurd rfl hne
  · rintro ⟨spelling, hs, rest, hport, hp⟩
    simp only [List.mem_cons, List.not_mem_nil, or_false] at hs
    rcases hs with rfl | rfl | rfl
    · exact ⟨_, by decide, Uri.host_eq_some_iff.mpr (.inr ⟨rest, hp, by decide, hport⟩)⟩
    · exact ⟨_, by decide, Uri.host_eq_some_iff.mpr (.inr ⟨rest, hp, by decide, hport⟩)⟩
    · exact ⟨"::1".toList, by decide,
        Uri.host_eq_some_iff.mpr (.inl ⟨rest, hp, by decide, by decide, hport⟩)⟩

/-- Neither a bare `::1` with a port, nor a bracketed loopback name that is followed by more
than a port, unless it is the user information of a loopback host. -/
structure SoundAuthority (a : Str) : Prop where
  bare : ∀ port, port.all Char.isDigit = true → a ≠ "::1:".toList ++ port
  bracket : ∀ name ∈ loopbackHosts, ∀ tail, (∀ c, tail.head? = some c → c = ']') →
    a = '[' :: (name ++ tail) →
      (name = "::1".toList ∧ ∃ rest, Uri.isPortSuffix rest = true ∧ tail = ']' :: rest) ∨
      ∃ user rest, tail = user ++ '@' :: rest ∧ LoopbackHostPort rest

theorem soundAuthority_iff :
    (scannedHost a ∈ loopbackHosts → LoopbackHostPort (Uri.hostPort a)) ↔ SoundAuthority a := by
  constructor
  · intro h
    constructor
    · rintro port hd rfl
      have hscan : scannedHost ("::1".toList ++ ':' :: port) = "::1".toList :=
        scannedHost_port (by decide) hd
      have happ : "::1:".toList ++ port = "::1".toList ++ ':' :: port := rfl
      rw [happ, hscan] at h
      obtain ⟨spelling, hs, rest, -, hp⟩ := h (by decide)
      rw [Uri.hostPort_of_not_mem (by simpa using not_mem_digits hd (by decide))] at hp
      simp only [List.mem_cons, List.not_mem_nil, or_false] at hs
      rcases hs with rfl | rfl | rfl <;> simp at hp
    · rintro name hn tail htail rfl
      have hplain := loopbackHosts_plain hn
      rw [scannedHost_bracket hplain.1 htail] at h
      have hloop := h hn
      by_cases hat : '@' ∈ tail
      · right
        obtain ⟨user, rest, rfl, hrest⟩ := Str.exists_last hat
        have happ : '[' :: (name ++ (user ++ '@' :: rest)) =
            ('[' :: (name ++ user)) ++ '@' :: rest := by simp
        rw [happ, Uri.hostPort_append hrest] at hloop
        exact ⟨user, rest, rfl, hloop⟩
      · left
        rw [Uri.hostPort_of_not_mem (by simp [hplain.2.2, hat])] at hloop
        obtain ⟨spelling, hs, rest, hport, hp⟩ := hloop
        simp only [List.mem_cons, List.not_mem_nil, or_false] at hs
        rcases hs with rfl | rfl | rfl
        · simp at hp
        · simp at hp
        · have hname : name ++ tail = "::1".toList ++ ']' :: rest := by simpa using hp
          rcases mem_loopbackHosts.mp hn with rfl | rfl | rfl
          · simp at hname
          · simp at hname
          · exact ⟨rfl, rest, hport, List.append_cancel_left hname⟩
  · intro h hscan
    rcases scannedHost_mem_iff.mp hscan with
      ⟨name, hn, tail, rfl, htail⟩ | ⟨name, hn, rest, rfl, hport, hbare⟩
    · rcases h.bracket name hn tail htail rfl with
        ⟨rfl, rest, hport, rfl⟩ | ⟨user, rest, rfl, hloop⟩
      · have happ : '[' :: ("::1".toList ++ ']' :: rest) = "[::1]".toList ++ rest := rfl
        have hloop : LoopbackHostPort ("[::1]".toList ++ rest) :=
          ⟨"[::1]".toList, by simp, rest, hport, rfl⟩
        rw [happ, Uri.hostPort_of_not_mem hloop.not_mem]
        exact hloop
      · have happ : '[' :: (name ++ (user ++ '@' :: rest)) =
            ('[' :: (name ++ user)) ++ '@' :: rest := by simp
        rw [happ, Uri.hostPort_append hloop.not_mem]
        exact hloop
    · have hne : name ≠ "::1".toList := by
        rintro rfl
        cases rest with
        | nil => exact hbare rfl rfl
        | cons c port =>
          simp only [Uri.isPortSuffix, Bool.and_eq_true, beq_iff_eq] at hport
          obtain ⟨rfl, hd⟩ := hport
          exact h.bare port hd rfl
      have hloop : LoopbackHostPort (name ++ rest) := by
        refine ⟨name, ?_, rest, hport, rfl⟩
        rcases mem_loopbackHosts.mp hn with rfl | rfl | rfl
        · simp
        · simp
        · exact absurd rfl hne
      rw [Uri.hostPort_of_not_mem hloop.not_mem]
      exact hloop

end Scanner

/-- A URL passes the loopback test only with a loopback host exactly when its authority, if it
has one, is sound. -/
theorem loopback_sound_iff (url : String) :
    (isLoopbackHost url = true → ∃ a, Uri.authority url.toList = some a ∧
      ∃ h ∈ loopbackHosts, Uri.host a = some h) ↔
    ∀ a, Uri.authority url.toList = some a → SoundAuthority a := by
  rw [isLoopbackHost_iff]
  cases hauth : Uri.authority url.toList with
  | none => simp
  | some a =>
    simp only [Option.some.injEq, exists_eq_left', forall_eq', host_loopback_iff]
    exact soundAuthority_iff

/-- Text behind the closing bracket is not looked at: here it sends the request elsewhere. -/
theorem loopback_unsound : isLoopbackHost "http://[::1]@evil.example.com/v1" = true ∧
    Uri.authority "http://[::1]@evil.example.com/v1".toList =
      some "[::1]@evil.example.com".toList ∧
    Uri.host "[::1]@evil.example.com".toList = some "evil.example.com".toList ∧
    "evil.example.com".toList ∉ loopbackHosts := by decide

end AcpBridge
