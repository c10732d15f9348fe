import AcpBridge.Config

/-! Transport security of accepted profiles: the prefix test of the configuration check
against the case-insensitive schemes of URLs. -/
namespace AcpBridge

/-- Schemes that send in the clear. -/
def plaintextSchemes : List Str := ["http".toList, "ws".toList]

/-- The URL is `<scheme>://<rest>`. -/
def HasScheme (url : String) (scheme : Str) : Prop :=
  ∃ rest, url.toList = scheme ++ "://".toList ++ rest

/-- The scheme sends in the clear under ASCII case-insensitive comparison. -/
def PlaintextUrl (url : String) : Prop :=
  ∃ scheme, HasScheme url scheme ∧ scheme.map Char.toLower ∈ plaintextSchemes

/-- A plaintext scheme that is not spelled in lower case. -/
def MiscasedUrl (url : String) : Prop :=
  ∃ scheme, HasScheme url scheme ∧ scheme.map Char.toLower ∈ plaintextSchemes ∧
    scheme ∉ plaintextSchemes

namespace Profile

/-- The configured endpoints. -/
def endpoints (p : Profile) : List String := p.baseUrl.toList ++ p.serverUrl.toList

/-- Both load-time checks pass. -/
structure Accepted (p : Profile) (profileName : String) : Prop where
  endpoint : p.validateEndpoint = .ok ()
  transport : p.validateTransportSecurity profileName = .ok ()

/-- The policy for an endpoint that sends in the clear. -/
def InsecureAllowed (p : Profile) (url : String) : Prop :=
  isLoopbackHost url = true ∧ p.allowInsecureLocalhost = true

instance (p : Profile) (url : String) : Decidable (p.InsecureAllowed url) :=
  inferInstanceAs (Decidable (_ ∧ _))

end Profile

theorem schemeIsPlaintext_iff {url : String} :
    schemeIsPlaintext url = true ↔ ∃ scheme ∈ plaintextSchemes, HasScheme url scheme := by
  have hhttp : "http://".toList = "http".toList ++ "://".toList := by decide
  have hws : "ws://".toList = "ws".toList ++ "://".toList := by decide
  simp only [schemeIsPlaintext, plaintextSchemes, HasScheme, List.any_cons, List.any_nil,
    Bool.or_false, Bool.or_eq_true, Str.startsWith_iff, hhttp, hws, List.mem_cons,
    List.not_mem_nil, or_false, exists_eq_or_imp, exists_eq_left]

theorem MiscasedUrl.plaintext {url : String} (h : MiscasedUrl url) : PlaintextUrl url := by
  obtain ⟨scheme, hs, hl, _⟩ := h
  exact ⟨scheme, hs, hl⟩

theorem PlaintextUrl.seen_or_miscased {url : String} (h : PlaintextUrl url) :
    schemeIsPlaintext url = true ∨ MiscasedUrl url := by
  obtain ⟨scheme, hs, hl⟩ := h
  by_cases hm : scheme ∈ plaintextSchemes
  · exact .inl (schemeIsPlaintext_iff.mpr ⟨scheme, hm, hs⟩)
  · exact .inr ⟨scheme, hs, hl, hm⟩

theorem checkEndpoint_ok_iff {p : Profile} {profileName key : String} {url : Option String} :
    p.checkEndpoint profileName key url = .ok () ↔
      ∀ u ∈ url, schemeIsPlaintext u = true → p.InsecureAllowed u := by
  cases url with
  | none => simp [Profile.checkEndpoint]
  | some url =>
    simp only [Profile.checkEndpoint, Profile.InsecureAllowed, Option.mem_some_iff, forall_eq']
    cases schemeIsPlaintext url <;> cases isLoopbackHost url <;>
      cases p.allowInsecureLocalhost <;> simp

/-- What the check enforces: the policy for the endpoints that pass the prefix test. -/
theorem validateTransportSecurity_ok_iff {p : Profile} {profileName : String} :
    p.validateTransportSecurity profileName = .ok () ↔
      ∀ url ∈ p.endpoints, schemeIsPlaintext url = true → p.InsecureAllowed url := by
  have hseq : p.validateTransportSecurity profileName = .ok () ↔
      p.checkEndpoint profileName "base_url" p.baseUrl = .ok () ∧
        p.checkEndpoint profileName "server_url" p.serverUrl = .ok () := by
    cases hb : p.checkEndpoint profileName "base_url" p.baseUrl <;>
      cases hs : p.checkEndpoint profileName "server_url" p.serverUrl <;>
        simp [Profile.validateTransportSecurity, hb, hs, bind, Except.bind, pure, Except.pure]
  rw [hseq, checkEndpoint_ok_iff, checkEndpoint_ok_iff]
  simp only [Profile.endpoints, List.mem_append, Option.mem_toList, Option.mem_def, or_imp,
    forall_and]

/-- An accepted profile sends nothing in the clear against the policy exactly when its
miscased endpoints happen to meet the policy. -/
theorem tls_enforced_iff {p : Profile} {profileName : String} (h : p.Accepted profileName) :
    (∀ url ∈ p.endpoints, PlaintextUrl url → p.InsecureAllowed url) ↔
      ∀ url ∈ p.endpoints, MiscasedUrl url → p.InsecureAllowed url := by
  have hseen := validateTransportSecurity_ok_iff.mp h.transport
  constructor
  · intro hall url hu hm
    exact hall url hu hm.plaintext
  · intro hall url hu hp
    rcases hp.seen_or_miscased with hs | hm
    · exact hseen url hu hs
    · exact hall url hu hm

def loopbackProfile : Profile :=
  { baseUrl := some "http://127.0.0.1:8001", allowInsecureLocalhost := true }

theorem tls_enforced_loopback : PlaintextUrl "http://127.0.0.1:8001" ∧
    loopbackProfile.InsecureAllowed "http://127.0.0.1:8001" := by
  have haccepted : loopbackProfile.Accepted "default" := ⟨rfl, rfl⟩
  have hplain : PlaintextUrl "http://127.0.0.1:8001" :=
    ⟨"http".toList, ⟨"127.0.0.1:8001".toList, by decide⟩, by decide⟩
  refine ⟨hplain, (tls_enforced_iff haccepted).mpr (fun url hu _ => ?_) _ (by decide) hplain⟩
  obtain rfl : url = "http://127.0.0.1:8001" := by
    simpa [Profile.endpoints, loopbackProfile] using hu
  decide

def shoutingProfile : Profile := { baseUrl := some "HTTP://hero.example.com" }

theorem tls_not_enforced : shoutingProfile.Accepted "default" ∧
    "HTTP://hero.example.com" ∈ shoutingProfile.endpoints ∧
    PlaintextUrl "HTTP://hero.example.com" ∧ isLoopbackHost "HTTP://hero.example.com" = false ∧
    shoutingProfile.allowInsecureLocalhost = false :=
  ⟨⟨rfl, rfl⟩, by decide, ⟨"HTTP".toList, ⟨"hero.example.com".toList, by decide⟩, by decide⟩,
    by decide, rfl⟩

end AcpBridge
