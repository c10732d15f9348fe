import AcpBridge.Lib.Alike
import AcpBridge.Config.Secret
import AcpBridge.Doctor.Agreement

/-! What the doctor and a failed start tell of the client key: nothing of a secret that a
reference names, and of a literal in the config file what stands before its first colon. -/
namespace AcpBridge

def FormationConfig.clientKey : FormationConfig → String
  | .withBaseUrl _ clientKey _ | .new _ _ clientKey _ => clientKey

def FormationConfig.withKey (key : String) : FormationConfig → FormationConfig
  | .withBaseUrl baseUrl _ adminKey => .withBaseUrl baseUrl key adminKey
  | .new serverUrl formation _ adminKey => .new serverUrl formation key adminKey

/-- The same reference resolves in both worlds or in none, to keys that go together. -/
theorem SecretStores.SameBut.alike {a b : SecretStores} (h : a.SameBut b)
    {keys : String → String → Prop} {reference : String}
    (hkeys : ∀ key key', a.resolveSecret reference = .ok key →
      b.resolveSecret reference = .ok key' → keys key key') :
    Alike keys (a.resolveSecret reference) (b.resolveSecret reference) := by
  have hsame := h.resolveSecret reference
  cases ha : a.resolveSecret reference with
  | error err =>
    cases hb : b.resolveSecret reference with
    | error err' =>
      obtain rfl : err = err' := by simpa [ha, hb, Except.map] using hsame
      exact .error err
    | ok key' => simp [ha, hb, Except.map] at hsame
  | ok key =>
    cases hb : b.resolveSecret reference with
    | error err' => simp [ha, hb, Except.map] at hsame
    | ok key' => exact .ok (hkeys key key' ha hb)

namespace Probes
variable {Client Client' Addr : Type}

/-- Two worlds in which the same happens to the keys of each. -/
structure Peers (p : Probes Client Addr) (p' : Probes Client' Addr) (keys : String → String → Prop)
    (R : Client → Client' → Prop) : Prop where
  fromToml : p'.fromToml = p.fromToml
  lookupHost : p'.lookupHost = p.lookupHost
  showAddr : p'.showAddr = p.showAddr
  connect : p'.connect = p.connect
  newClient : ∀ (c : FormationConfig) key', keys c.clientKey key' →
    Alike R (p.newClient c) (p'.newClient (c.withKey key'))
  health : ∀ c c', R c c' → p'.health c' = p.health c
  getSessions : ∀ c c', R c c' → p'.getSessions c' = p.getSessions c
  cancelRequest : ∀ c c', R c c' → p'.cancelRequest c' = p.cancelRequest c

/-- The probes on a machine with these stores. -/
def on (p : Probes Client Addr) (stores : SecretStores) : Probes Client Addr :=
  { p with toEnvironment := p.toEnvironment.over stores }

section Peers
variable {p : Probes Client Addr} {p' : Probes Client' Addr} {keys : String → String → Prop}
  {R : Client → Client' → Prop} {a b : SecretStores} {path : String} {flag userId : Option String}

theorem Peers.clientFromProfile (h : Peers p p' keys R) (profile : Profile) {key key' : String}
    (hkey : keys key key') : Alike R ((p.on a).clientFromProfile profile key)
      ((p'.on b).clientFromProfile profile key') := by
  have hnew : ∀ c : FormationConfig, c.clientKey = key →
      Alike R ((p.newClient c).mapError ConfigError.invalidEndpoint)
        ((p'.newClient (c.withKey key')).mapError ConfigError.invalidEndpoint) := by
    rintro c rfl
    exact (h.newClient c key' hkey).mapError _
  unfold Environment.clientFromProfile
  cases profile.baseUrl with
  | some baseUrl => exact hnew (.withBaseUrl baseUrl key "") rfl
  | none =>
    cases profile.serverUrl with
    | none => exact .error _
    | some serverUrl =>
      cases profile.formation with
      | none => exact .error _
      | some formation => exact hnew (.new serverUrl formation key "") rfl

theorem Peers.loadProfile (h : Peers p p' keys R)
    (hconfig : b.readToString path = a.readToString path) (flag : Option String) :
    (p'.on b).loadProfile path flag = (p.on a).loadProfile path flag := by
  have hload : (p'.on b).load path = (p.on a).load path := by
    simp only [Environment.load, on, Environment.over, hconfig, h.fromToml]
  rw [Probes.loadProfile, Probes.loadProfile, hload]

theorem Peers.configCheck (hsame : a.SameBut b)
    (hkeys : ∀ reference key key', a.resolveSecret reference = .ok key →
      b.resolveSecret reference = .ok key' → keys key key') (profileName : String)
    (profile : Profile) :
    ((p'.on b).configCheck profileName profile).1 = ((p.on a).configCheck profileName profile).1 ∧
    Option.Rel keys ((p.on a).configCheck profileName profile).2
      ((p'.on b).configCheck profileName profile).2 := by
  unfold Probes.configCheck
  cases profile.clientKeyReference with
  | error err => exact ⟨rfl, .none⟩
  | ok reference =>
    have halike := hsame.alike (hkeys reference)
    change Alike keys ((p.on a).resolveSecret reference) ((p'.on b).resolveSecret reference)
      at halike
    simp only
    generalize (p.on a).resolveSecret reference = x at halike ⊢
    generalize (p'.on b).resolveSecret reference = y at halike ⊢
    cases halike with
    | error err => exact ⟨rfl, .none⟩
    | ok hkey => exact ⟨rfl, .some hkey⟩

section Checks
variable {client : Except String Client} {client' : Except String Client'}

theorem Peers.tcpTlsCheck (h : Peers p p' keys R) (hclient : Alike R client client')
    (origin : Except String (String × String × UInt16)) (firstAddr : Option Addr) :
    (p'.on b).tcpTlsCheck origin firstAddr client' =
      (p.on a).tcpTlsCheck origin firstAddr client := by
  have htrip : (p'.on b).roundTrip client' = (p.on a).roundTrip client := by
    unfold roundTrip
    cases hclient with
    | error err => rfl
    | @ok c c' hR =>
      have hhealth : (p'.on b).health c' = (p.on a).health c := h.health c c' hR
      simp only [hhealth]
  have hconnect : (p'.on b).connect = (p.on a).connect := h.connect
  have hshow : (p'.on b).showAddr = (p.on a).showAddr := h.showAddr
  unfold Probes.tcpTlsCheck
  simp only [hconnect, hshow, htrip]

theorem Peers.authCheck (h : Peers p p' keys R) (hclient : Alike R client client')
    {key key' : Option String} (hkey : Option.Rel keys key key') (user : String) :
    (p'.on b).authCheck client' key' user = (p.on a).authCheck client key user := by
  unfold Probes.authCheck
  cases hclient with
  | error err => cases hkey <;> rfl
  | @ok c c' hR =>
    cases hkey with
    | none => rfl
    | some _ =>
      have hsessions : (p'.on b).getSessions c' = (p.on a).getSessions c := h.getSessions c c' hR
      simp only [hsessions]

theorem Peers.cancellationCheck (h : Peers p p' keys R) (hclient : Alike R client client')
    {key key' : Option String} (hkey : Option.Rel keys key key') (user : String) :
    (p'.on b).cancellationCheck client' key' user =
      (p.on a).cancellationCheck client key user := by
  unfold Probes.cancellationCheck
  cases hclient with
  | error err => cases hkey <;> rfl
  | @ok c c' hR =>
    cases hkey with
    | none => rfl
    | some _ =>
      have hcancel : (p'.on b).cancelRequest c' = (p.on a).cancelRequest c :=
        h.cancelRequest c c' hR
      simp only [hcancel]

end Checks

theorem Peers.start (h : Peers p p' keys R) (hsame : a.SameBut b)
    (hkeys : ∀ reference key key', a.resolveSecret reference = .ok key →
      b.resolveSecret reference = .ok key' → keys key key') (cli : Cli) (profileName : String)
    (profile : Profile) : Alike (fun _ _ => True) ((p.on a).start cli profileName profile)
      ((p'.on b).start cli profileName profile) := by
  unfold Probes.start
  apply ((Alike.refl _).mapError ConfigError.display).bind
  rintro u _ rfl
  apply ((Alike.refl _).mapError ConfigError.display).bind
  rintro reference _ rfl
  apply ((hsame.alike (hkeys reference)).mapError ConfigError.display).bind
  intro key key' hkey
  apply ((h.clientFromProfile profile hkey).mapError ConfigError.display).bind
  exact fun _ _ _ => .ok trivial

theorem keys_getD (hempty : keys "" "") {key key' : Option String}
    (hkey : Option.Rel keys key key') : keys (key.getD "") (key'.getD "") := by
  cases hkey with
  | none => exact hempty
  | some h => exact h

/-- No secret is told: on machines that differ in the secrets their references name, with services
that answer the keys of each world alike, the doctor gives the same report word for word, and a
start fails with the same message or succeeds in both. -/
theorem report_blind (h : Peers p p' keys R) (hsame : a.SameBut b)
    (hconfig : b.readToString path = a.readToString path) (hempty : keys "" "")
    (hkeys : ∀ reference key key', a.resolveSecret reference = .ok key →
      b.resolveSecret reference = .ok key' → keys key key') :
    (p'.on b).collect path flag userId = (p.on a).collect path flag userId ∧
    ∀ cli, (((p'.on b).buildState cli path).map fun _ => ()) =
      ((p.on a).buildState cli path).map fun _ => () := by
  constructor
  · unfold collect
    rw [h.loadProfile hconfig flag]
    cases (p.on a).loadProfile path flag with
    | error detail => rfl
    | ok loaded =>
      obtain ⟨name, profile⟩ := loaded
      obtain ⟨hcheck, hkey⟩ := @Peers.configCheck _ _ _ p p' _ a b hsame hkeys name profile
      have hdns : (p'.on b).dnsCheck = (p.on a).dnsCheck := by
        have hlookup : (p'.on b).lookupHost = (p.on a).lookupHost := h.lookupHost
        have hshow : (p'.on b).showAddr = (p.on a).showAddr := h.showAddr
        funext origin
        unfold dnsCheck
        simp only [hlookup, hshow]
      simp only [hdns]
      generalize (p.on a).configCheck name profile = checked at hcheck hkey ⊢
      generalize (p'.on b).configCheck name profile = checked' at hcheck hkey ⊢
      obtain ⟨config, key⟩ := checked
      obtain ⟨config', key'⟩ := checked'
      obtain rfl : config' = config := hcheck
      replace hkey : Option.Rel keys key key' := hkey
      have hclient := (h.clientFromProfile (a := a) (b := b) profile
        (keys_getD hempty hkey)).mapError ConfigError.display
      simp only [h.tcpTlsCheck (a := a) (b := b) hclient,
        h.authCheck (a := a) (b := b) hclient hkey, h.cancellationCheck (a := a) (b := b) hclient hkey]
  · intro cli
    rw [buildState_eq, buildState_eq, h.loadProfile hconfig cli.profile]
    cases (p.on a).loadProfile path cli.profile with
    | error detail => rfl
    | ok loaded => exact (h.start hsame hkeys cli loaded.1 loaded.2).map_eq.symm

end Peers

/-- One environment variable holds the key. -/
def vault (key : String) : SecretStores where
  var name := if name = "KEY" then some key else none
  readToString path := if path = "c.toml" then .ok "" else .error "no such file"
  getPassword _ _ := some (.error .noEntry)

def keyed (reference : String) : ConfigFile where
  profiles := (∅ : KeyMap String Profile).insert "p"
    { baseUrl := some "https://formation.example", clientKey := some reference }

/-- A formation that accepts one key. -/
def hosted (key : String) : Probes String Unit where
  readToString _ := .error "no such file"
  fromToml _ := .ok (keyed "env:KEY")
  resolveSecret _ := .error .missingClientKey
  newClient c := .ok c.clientKey
  lookupHost _ _ := .ok [()]
  showAddr _ := "192.0.2.1:443"
  connect _ := some (.ok ())
  health _ := .ok ()
  getSessions client _ _ := if client = key then .ok () else .error (.authentication 401 "no")
  cancelRequest _ _ _ := .error (.notFound 404 "no such request")

/-- Each world has its own key, and the reports do not tell which. -/
theorem report_blind_hosted :
    ((hosted "beta").on (vault "beta")).collect "c.toml" none none =
      ((hosted "alpha").on (vault "alpha")).collect "c.toml" none none ∧
    ∀ cli, ((((hosted "beta").on (vault "beta")).buildState cli "c.toml").map fun _ => ()) =
      (((hosted "alpha").on (vault "alpha")).buildState cli "c.toml").map fun _ => () := by
  let keys (key key' : String) : Prop := key = "alpha" ↔ key' = "beta"
  have hpeers : Peers (hosted "alpha") (hosted "beta") keys keys := by
    refine ⟨rfl, rfl, rfl, rfl, ?_, fun _ _ _ => rfl, ?_, fun _ _ _ => rfl⟩
    · intro c key' hkey
      cases c <;> exact .ok hkey
    · intro c c' hc
      funext user limit
      by_cases h : c = "alpha"
      · simp [hosted, h, hc.mp h]
      · have h' : c' ≠ "beta" := fun hb => h (hc.mpr hb)
        simp [hosted, h, h']
  have hsame : (vault "alpha").SameBut (vault "beta") := by
    refine ⟨fun name => ?_, fun _ => rfl, fun _ _ => rfl⟩
    by_cases h : name = "KEY" <;> simp [vault, h]
  refine report_blind hpeers hsame rfl (by decide) fun reference key key' hkey hkey' => ?_
  obtain ⟨name, rfl⟩ | ⟨path, rfl⟩ | ⟨rest, rfl⟩ | hliteral :=
    SecretStores.reference_cases reference
  · rw [SecretStores.resolveSecret_env] at hkey hkey'
    by_cases h : name = "KEY"
    · obtain rfl : "alpha" = key := by simpa [vault, h] using hkey
      obtain rfl : "beta" = key' := by simpa [vault, h] using hkey'
      simp [keys]
    · simp [vault, h] at hkey
  · rw [SecretStores.resolveSecret_file] at hkey hkey'
    by_cases h : path = "c.toml"
    · have htrim : String.ofList (Str.trim []) = "" := rfl
      obtain rfl : "" = key := by simpa [vault, h, htrim] using hkey
      obtain rfl : "" = key' := by simpa [vault, h, htrim] using hkey'
      decide
    · simp [vault, h] at hkey
  · rw [SecretStores.resolveSecret_keychain] at hkey
    cases hparse : parseKeychainReference rest with
    | error err => simp [hparse, Except.bind] at hkey
    | ok entry =>
      simp [hparse, Except.bind, SecretStores.keychainLookup, vault, Except.mapError] at hkey
  · rw [SecretStores.resolveSecret_literal _ hliteral] at hkey
    simp at hkey

/-- Of a literal key the configuration check shows what stands before its first colon. -/
def literalCheck (profileName key : String) : CheckResult :=
  ⟨"config", .fail, "profile '" ++ profileName ++ "' loaded but the '" ++
    String.ofList (Str.splitFirst key.toList [':']) ++
    ":' client key reference does not resolve: " ++ (ConfigError.secret literalMessage).display⟩

section Literals
variable (p : Probes Client Addr) (stores : SecretStores) {profile : Profile} {key : String}

theorem clientKeyReference_of_ne (hkey : profile.clientKey = some key) (hne : key ≠ "") :
    profile.clientKeyReference = .ok key := by
  have hkept : (some key).filter (· ≠ "") = some key := by simp [Option.filter, hne]
  rw [Profile.clientKeyReference, hkey, hkept]

theorem configCheck_literal (profileName : String) (hkey : profile.clientKey = some key)
    (hne : key ≠ "") (h : IsLiteral key) :
    (p.on stores).configCheck profileName profile = (literalCheck profileName key, none) := by
  have hsecret : (p.on stores).resolveSecret key = .error (.secret literalMessage) :=
    stores.resolveSecret_literal h
  rw [Probes.configCheck, clientKeyReference_of_ne hkey hne]
  simp only [hsecret]
  rfl

theorem start_literal (cli : Cli) (profileName : String) (hkey : profile.clientKey = some key)
    (hne : key ≠ "") (h : IsLiteral key) : (p.on stores).start cli profileName profile =
      (profile.validateTransportSecurity profileName).mapError ConfigError.display >>=
        fun _ => .error (ConfigError.secret literalMessage).display := by
  have hsecret : (p.on stores).resolveSecret key = .error (.secret literalMessage) :=
    stores.resolveSecret_literal h
  rw [Probes.start, clientKeyReference_of_ne hkey hne]
  cases profile.validateTransportSecurity profileName with
  | error err => rfl
  | ok u =>
    change ((p.on stores).resolveSecret key).mapError ConfigError.display >>= _ = _
    rw [hsecret]
    rfl

end Literals

theorem literalCheck_inj {profileName key key' : String} :
    literalCheck profileName key = literalCheck profileName key' ↔
      Str.splitFirst key.toList [':'] = Str.splitFirst key'.toList [':'] := by
  simp only [literalCheck, CheckResult.mk.injEq, true_and, ← String.toList_inj,
    String.toList_append, String.toList_ofList, List.append_left_inj, List.append_right_inj]

/-- How much of a literal key is told: two config files that differ in it alone fail the start
with the same message, while the reports of the doctor are the same if and only if the literals
agree before their first colon. A literal without a colon is shown whole. -/
theorem literal_shown_iff (p : Probes Client Addr) (stores : SecretStores)
    (fromToml : String → Except String ConfigFile) {path profileName key key' : String}
    {flag userId : Option String} {profile : Profile}
    (hload : (p.on stores).loadProfile path flag = .ok (profileName, profile))
    (hload' : (({ p with fromToml := fromToml } : Probes Client Addr).on stores).loadProfile path
      flag = .ok (profileName, { profile with clientKey := some key' }))
    (hkey : profile.clientKey = some key) (hne : key ≠ "") (hne' : key' ≠ "")
    (h : IsLiteral key) (h' : IsLiteral key') :
    ((p.on stores).collect path flag userId =
      (({ p with fromToml := fromToml } : Probes Client Addr).on stores).collect path flag userId ↔
      Str.splitFirst key.toList [':'] = Str.splitFirst key'.toList [':']) ∧
    ∀ cli, cli.profile = flag → ∃ err, (p.on stores).buildState cli path = .error err ∧
      (({ p with fromToml := fromToml } : Probes Client Addr).on stores).buildState cli path =
        .error err := by
  constructor
  · rw [← @literalCheck_inj profileName]
    unfold collect
    rw [hload, hload']
    simp only [p.configCheck_literal stores profileName hkey hne h]
    rw [@configCheck_literal Client Addr _ stores { profile with clientKey := some key' } key'
      profileName rfl hne' h']
    constructor
    · intro heq
      exact List.head_eq_of_cons_eq heq
    · intro heq
      rw [heq]
      rfl
  · rintro cli rfl
    rw [buildState_eq, buildState_eq, hload, hload']
    change ∃ err, (p.on stores).start cli profileName profile = .error err ∧
      Probes.start _ cli profileName _ = .error err
    rw [p.start_literal stores cli profileName hkey hne h, @start_literal Client Addr _ stores
      { profile with clientKey := some key' } key' cli profileName rfl hne' h']
    change ∃ err, (profile.validateTransportSecurity profileName).mapError ConfigError.display >>=
      _ = .error err ∧ (profile.validateTransportSecurity profileName).mapError
        ConfigError.display >>= _ = .error err
    cases profile.validateTransportSecurity profileName with
    | error err => exact ⟨err.display, rfl, rfl⟩
    | ok _ => exact ⟨_, rfl, rfl⟩

/-- The key stands in the config file itself. -/
def typed (key : String) : Probes String Unit :=
  { hosted key with fromToml := fun _ => .ok (keyed key) }

/-- Literals that differ behind a colon look the same, others do not. -/
theorem literal_shown_iff_colon :
    ((typed "sk").on (vault "")).collect "c.toml" none none =
      (({ typed "sk" with fromToml := fun _ => .ok (keyed "sk:1") } : Probes String Unit).on
        (vault "")).collect "c.toml" none none ∧
    ((typed "sk").on (vault "")).collect "c.toml" none none ≠
      (({ typed "sk" with fromToml := fun _ => .ok (keyed "sk-1") } : Probes String Unit).on
        (vault "")).collect "c.toml" none none := by
  have hshown := fun key' hload' hne' h' => (@literal_shown_iff String Unit (typed "sk") (vault "")
    (fun _ => .ok (keyed key')) "c.toml" "p" "sk" key' none none _ rfl hload' rfl (by decide) hne'
    (by decide) h').1
  constructor
  · exact (hshown "sk:1" rfl (by decide) (by decide)).mpr (by decide)
  · exact fun heq => absurd ((hshown "sk-1" rfl (by decide) (by decide)).mp heq) (by decide)

end Probes
end AcpBridge
