import AcpBridge.Config.Loopback
import AcpBridge.Doctor

/-! The host the doctor probes against the host the loopback test judges: two scanners of one
authority. -/
namespace AcpBridge

section Authority
variable {url : String} {a host : Str} {port defaultPort : UInt16}

/-- The scanners part where a colon ends the authority and no port follows it. -/
theorem authorityOrigin_host (h : authorityOrigin url a defaultPort = .ok (host, port)) :
    host = scannedHost a ∨ ∃ name, a = name ++ [':'] ∧ scannedHost a = name ∧ host = a := by
  unfold authorityOrigin at h
  cases hstrip : Str.stripPrefix a ['['] with
  | some bracketed =>
    left
    simp only [hstrip] at h
    cases ho : Str.splitOnce bracketed [']'] with
    | none => simp [ho] at h
    | some parts =>
      obtain ⟨literal, behind⟩ := parts
      simp only [ho] at h
      have hhost : host = literal := by
        split at h
        · split at h
          · exact (congrArg Prod.fst (Except.ok.inj h)).symm
          · simp at h
        · exact (congrArg Prod.fst (Except.ok.inj h)).symm
      have hb := (Str.splitOnce_eq_some.mp ho).1
      have hclose := Str.splitOnce_not_mem ho
      rw [hhost, Str.stripPrefix_eq_some.mp hstrip, hb, List.append_assoc]
      exact (scannedHost_bracket hclose fun c hc => by simpa using hc.symm).symm
  | none =>
    simp only [hstrip] at h
    unfold scannedHost
    simp only [hstrip]
    cases hlast : Str.rsplitOnce a [':'] with
    | none =>
      left
      simp only [hlast] at h
      exact (congrArg Prod.fst (Except.ok.inj h)).symm
    | some parts =>
      obtain ⟨name, digits⟩ := parts
      simp only [hlast] at h ⊢
      by_cases hd : digits.all Char.isDigit = true
      · cases digits with
        | nil =>
          right
          simp only [List.isEmpty_nil, Bool.not_true, Bool.and_false, Bool.false_eq_true,
            if_false] at h
          have ha := (Str.rsplitOnce_eq_some.mp hlast).1
          exact ⟨name, by simpa using ha, rfl, (congrArg Prod.fst (Except.ok.inj h)).symm⟩
        | cons c rest =>
          left
          simp only [hd, List.isEmpty_cons, Bool.not_false, Bool.and_self, if_true] at h ⊢
          split at h
          · exact (congrArg Prod.fst (Except.ok.inj h)).symm
          · simp at h
      · left
        simp only [hd, Bool.false_and, Bool.false_eq_true, if_false] at h ⊢
        exact (congrArg Prod.fst (Except.ok.inj h)).symm

/-- A loopback name and a colon: the doctor keeps the colon, the loopback test does not. -/
theorem authorityOrigin_colon {name : Str} (hn : name ∈ loopbackHosts)
    (h : authorityOrigin url (name ++ [':']) defaultPort = .ok (host, port)) :
    host = name ++ [':'] := by
  have hbracket : '[' ∉ name ++ [':'] := by
    rw [List.mem_append, not_or]
    exact ⟨(loopbackHosts_plain hn).2.1, by decide⟩
  have hlast : Str.rsplitOnce (name ++ [':'] ++ []) [':'] = some (name, []) :=
    Str.rsplitOnce_append (by simp) (by simp)
  rw [List.append_nil] at hlast
  unfold authorityOrigin at h
  simp only [stripPrefix_of_not_mem hbracket, hlast, List.isEmpty_nil, Bool.not_true,
    Bool.and_false, Bool.false_eq_true, if_false] at h
  exact (congrArg Prod.fst (Except.ok.inj h)).symm

theorem colon_not_loopback (name : Str) : name ++ [':'] ∉ loopbackHosts := by
  intro h
  have hlast : ∀ n ∈ loopbackHosts, n.getLast? ≠ some ':' := by decide
  exact hlast _ h (by simp)

theorem hosts_agree_iff (h : authorityOrigin url a defaultPort = .ok (host, port)) :
    (scannedHost a ∈ loopbackHosts ↔ host ∈ loopbackHosts) ↔
      ∀ name ∈ loopbackHosts, a ≠ name ++ [':'] := by
  constructor
  · rintro hiff name hn rfl
    have hhost := authorityOrigin_colon hn h
    have hscan : scannedHost (name ++ [':']) = name :=
      scannedHost_port (loopbackHosts_plain hn).2.1 rfl
    rw [hscan, hhost] at hiff
    exact colon_not_loopback name (hiff.mp hn)
  · intro hne
    rcases authorityOrigin_host h with rfl | ⟨name, rfl, hscan, rfl⟩
    · exact Iff.rfl
    · rw [hscan]
      constructor
      · intro hn
        exact absurd rfl (hne name hn)
      · intro hcolon
        exact absurd hcolon (colon_not_loopback name)

end Authority
theorem endpointOrigin_eq_ok {p : Profile} {url scheme host : String} {port : UInt16}
    (hurl : p.endpointUrl = some url) (h : endpointOrigin p = .ok (scheme, host, port)) :
    ∃ a cut defaultPort, Uri.authority url.toList = some a ∧
      authorityOrigin url a defaultPort = .ok (cut, port) ∧ host = String.ofList cut := by
  unfold endpointOrigin at h
  have hsep : "://".toList = [':', '/', '/'] := rfl
  simp only [hurl, hsep] at h
  unfold Uri.authority
  cases hsplit : Str.splitOnce url.toList [':', '/', '/'] with
  | none => simp [hsplit] at h
  | some parts =>
    simp only [hsplit, bind, Except.bind] at h
    cases hport : schemePort (String.ofList parts.1) with
    | error err => simp [hport] at h
    | ok defaultPort =>
      simp only [hport] at h
      split_ifs at h
      cases horigin : authorityOrigin url (Str.splitFirst parts.2 ['/', '?', '#']) defaultPort with
      | error err => simp [horigin] at h
      | ok origin =>
        simp only [horigin, pure, Except.pure, Except.ok.injEq, Prod.mk.injEq] at h
        obtain ⟨-, rfl, rfl⟩ := h
        exact ⟨_, _, defaultPort, rfl, horigin, rfl⟩

theorem ofList_mem_iff (host : Str) : String.ofList host ∈ ["127.0.0.1", "localhost", "::1"] ↔
    host ∈ loopbackHosts := by
  simp only [mem_loopbackHosts, List.mem_cons, List.not_mem_nil, or_false, ← String.toList_inj,
    String.toList_ofList]

/-- The doctor and the loopback test see the same host exactly where the authority is not a
loopback name followed by a colon and no port. -/
theorem endpoint_hosts_agree_iff {p : Profile} {url scheme host : String} {port : UInt16}
    (hurl : p.endpointUrl = some url) (h : endpointOrigin p = .ok (scheme, host, port)) :
    (isLoopbackHost url = true ↔ host ∈ ["127.0.0.1", "localhost", "::1"]) ↔
      ∀ a, Uri.authority url.toList = some a → ∀ name ∈ loopbackHosts, a ≠ name ++ [':'] := by
  obtain ⟨a, cut, defaultPort, hauth, horigin, rfl⟩ := endpointOrigin_eq_ok hurl h
  rw [isLoopbackHost_iff, ofList_mem_iff, hauth]
  simp only [Option.some.injEq, exists_eq_left', forall_eq']
  exact hosts_agree_iff horigin

theorem endpoint_hosts_agree_local :
    isLoopbackHost "http://localhost:8080/v1" = true ↔
      "localhost" ∈ ["127.0.0.1", "localhost", "::1"] :=
  (endpoint_hosts_agree_iff (p := { baseUrl := some "http://localhost:8080/v1" })
    (by decide) (h := (by decide : endpointOrigin { baseUrl := some "http://localhost:8080/v1" } =
      .ok ("http", "localhost", 8080)))).mpr (by decide)

/-- With a colon and no port the doctor probes `localhost:`, which is no host. -/
theorem endpoint_hosts_differ :
    endpointOrigin { baseUrl := some "http://localhost:/v1" } = .ok ("http", "localhost:", 80) ∧
    isLoopbackHost "http://localhost:/v1" = true ∧
    "localhost:" ∉ ["127.0.0.1", "localhost", "::1"] := by decide

end AcpBridge
