import AcpBridge.Doctor

/-! The doctor and the connect mode reject the same configurations: what fails one start-up
step is a failed check, and a start that succeeds has passed the checks it depends on. -/
namespace AcpBridge
namespace Probes
variable {Client Addr : Type} (probes : Probes Client Addr)

/-- The steps of start-up behind the ones the doctor has in common with it. -/
def start (cli : Cli) (profileName : String) (profile : Profile) :
    Except String (SessionRegistry × Client × BridgeState) := do
  (profile.validateTransportSecurity profileName).mapError ConfigError.display
  let keyReference ← profile.clientKeyReference.mapError ConfigError.display
  let clientKey ← (probes.resolveSecret keyReference).mapError ConfigError.display
  let mux ← (probes.clientFromProfile profile clientKey).mapError ConfigError.display
  return (.new profile.limits, mux, profile.bridgeState cli)

/-- Both commands load and validate the profile in the same way. -/
theorem buildState_eq (cli : Cli) (path : String) : probes.buildState cli path =
    (probes.loadProfile path cli.profile).bind fun loaded =>
      probes.start cli loaded.1 loaded.2 := by
  unfold Environment.buildState loadProfile start
  simp only [bind, Except.bind, pure, Except.pure]
  cases (probes.load path).mapError ConfigError.display with
  | error err => rfl
  | ok file =>
    simp only
    cases (selectProfile file cli.profile).mapError ConfigError.display with
    | error err => rfl
    | ok loaded =>
      simp only
      cases loaded.2.validateEndpoint.mapError ConfigError.display <;> rfl

section Checks
variable (profileName : String) (profile : Profile)

theorem configCheck_check : (probes.configCheck profileName profile).1.check = "config" := by
  unfold configCheck
  cases profile.clientKeyReference with
  | error err => rfl
  | ok reference => simp only; cases probes.resolveSecret reference <;> rfl

theorem tlsPolicyCheck_check : (tlsPolicyCheck profileName profile).check = "tls-policy" := by
  unfold tlsPolicyCheck
  cases profile.validateTransportSecurity profileName <;> rfl

theorem dnsCheck_check (origin : Except String (String × String × UInt16)) :
    (probes.dnsCheck origin).1.check = "dns" := by
  unfold dnsCheck
  split
  · rfl
  · split <;> rfl

theorem tcpTlsCheck_check (origin : Except String (String × String × UInt16))
    (firstAddr : Option Addr) (client : Except String Client) :
    (probes.tcpTlsCheck origin firstAddr client).1.check = "tcp+tls" := by
  unfold tcpTlsCheck
  split
  · split
    · rfl
    · split <;> rfl
  · rfl

theorem authCheck_check (client : Except String Client) (clientKey : Option String)
    (userId : String) : (probes.authCheck client clientKey userId).check = "auth" := by
  unfold authCheck
  split
  · split
    · rfl
    · split <;> rfl
  · rfl
  · rfl

theorem streamingCheck_check (originHttpOk : Bool) :
    (streamingCheck originHttpOk).check = "streaming" := by
  cases originHttpOk <;> rfl

theorem cancellationCheck_check (client : Except String Client) (clientKey : Option String)
    (userId : String) :
    (probes.cancellationCheck client clientKey userId).check = "cancellation" := by
  unfold cancellationCheck
  split
  · split
    · rfl
    · split
      · rfl
      · split_ifs <;> rfl
      · rfl
  · rfl
  · rfl

/-- The configuration check passes exactly when the secret is there, and hands it on. -/
theorem configCheck_cases :
    (∃ reference key, profile.clientKeyReference = .ok reference ∧
      probes.resolveSecret reference = .ok key ∧
      (probes.configCheck profileName profile).1.status = .pass ∧
      (probes.configCheck profileName profile).2 = some key) ∨
    ((probes.configCheck profileName profile).1.status = .fail ∧
      ∀ reference key, profile.clientKeyReference = .ok reference →
        probes.resolveSecret reference ≠ .ok key) := by
  unfold configCheck
  cases hreference : profile.clientKeyReference with
  | error err => exact .inr ⟨rfl, by simp⟩
  | ok reference =>
    simp only
    cases hsecret : probes.resolveSecret reference with
    | error err =>
      refine .inr ⟨rfl, ?_⟩
      intro reference' key heq
      rw [← Except.ok.inj heq, hsecret]
      simp
    | ok key => exact .inl ⟨reference, key, rfl, hsecret, rfl, rfl⟩

theorem tlsPolicyCheck_status : (tlsPolicyCheck profileName profile).status =
    if profile.validateTransportSecurity profileName = .ok () then .pass else .fail := by
  unfold tlsPolicyCheck
  cases profile.validateTransportSecurity profileName <;> rfl

theorem authCheck_of_error (err userId : String) (clientKey : Option String) :
    (probes.authCheck (.error err) clientKey userId).status = .fail := by
  cases clientKey <;> rfl

theorem start_eq_ok_iff (cli : Cli) {state : SessionRegistry × Client × BridgeState} :
    probes.start cli profileName profile = .ok state ↔
      profile.validateTransportSecurity profileName = .ok () ∧
      ∃ reference key mux, profile.clientKeyReference = .ok reference ∧
        probes.resolveSecret reference = .ok key ∧ probes.clientFromProfile profile key = .ok mux ∧
        state = (.new profile.limits, mux, profile.bridgeState cli) := by
  unfold start
  simp only [bind, Except.bind, pure, Except.pure]
  cases profile.validateTransportSecurity profileName with
  | error err => simp [Except.mapError]
  | ok u =>
    cases profile.clientKeyReference with
    | error err => simp [Except.mapError]
    | ok reference =>
      cases hkey : probes.resolveSecret reference with
      | error err => simp [Except.mapError, hkey]
      | ok key =>
        cases hmux : probes.clientFromProfile profile key with
        | error err => simp [Except.mapError, hkey, hmux]
        | ok mux => simp [Except.mapError, hkey, hmux, eq_comm]

end Checks

section Report
variable {path : String} {flag userId : Option String}

theorem collect_checks (path : String) (flag userId : Option String) :
    (probes.collect path flag userId).map (·.check) =
      ["config", "tls-policy", "dns", "tcp+tls", "auth", "streaming", "cancellation",
        "identity"] := by
  unfold collect
  cases probes.loadProfile path flag with
  | error detail => rfl
  | ok loaded =>
    simp only [List.map_cons, List.map_nil, configCheck_check, tlsPolicyCheck_check,
      dnsCheck_check, tcpTlsCheck_check, authCheck_check, streamingCheck_check,
      cancellationCheck_check]
    rfl

/-- The first two checks of a loaded profile, and the authentication with the key found. -/
theorem collect_of_loaded {loaded : String × Profile}
    (h : probes.loadProfile path flag = .ok loaded) : ∃ rest,
    probes.collect path flag userId = (probes.configCheck loaded.1 loaded.2).1 ::
      tlsPolicyCheck loaded.1 loaded.2 :: rest ∧
    probes.authCheck ((probes.clientFromProfile loaded.2
        ((probes.configCheck loaded.1 loaded.2).2.getD "")).mapError ConfigError.display)
      (probes.configCheck loaded.1 loaded.2).2
      (resolveUserId userId none loaded.2.identity.defaultUserId "doctor") ∈ rest := by
  unfold collect
  rw [h]
  exact ⟨_, rfl, List.mem_cons_of_mem _ (List.mem_cons_of_mem _ List.mem_cons_self)⟩

theorem fail_of_start_error {cli : Cli} {loaded : String × Profile} {err : String}
    (h : probes.loadProfile path flag = .ok loaded)
    (hstart : probes.start cli loaded.1 loaded.2 = .error err) :
    ∃ r ∈ probes.collect path flag userId, r.status = .fail := by
  obtain ⟨rest, hreport, hauth⟩ := @collect_of_loaded _ _ probes path flag userId loaded h
  rw [hreport]
  by_cases htls : loaded.2.validateTransportSecurity loaded.1 = .ok ()
  · rcases configCheck_cases probes loaded.1 loaded.2 with
      ⟨reference, key, href, hkey, -, hhanded⟩ | ⟨hfail, -⟩
    · cases hclient : probes.clientFromProfile loaded.2 key with
      | error cerr =>
        simp only [hhanded, Option.getD_some, hclient, Except.mapError] at hauth
        refine ⟨_, List.mem_cons_of_mem _ (List.mem_cons_of_mem _ hauth), ?_⟩
        exact authCheck_of_error probes _ _ _
      | ok mux =>
        have hok := (start_eq_ok_iff probes loaded.1 loaded.2 cli).mpr
          ⟨htls, reference, key, mux, href, hkey, hclient, rfl⟩
        rw [hstart] at hok
        exact absurd hok (by simp)
    · exact ⟨_, List.mem_cons_self, hfail⟩
  · refine ⟨_, List.mem_cons_of_mem _ List.mem_cons_self, ?_⟩
    rw [tlsPolicyCheck_status, if_neg htls]

theorem pass_of_start_ok {cli : Cli} {loaded : String × Profile}
    {state : SessionRegistry × Client × BridgeState}
    (h : probes.loadProfile path flag = .ok loaded)
    (hstart : probes.start cli loaded.1 loaded.2 = .ok state) :
    ∀ r ∈ probes.collect path flag userId, r.check = "config" ∨ r.check = "tls-policy" →
      r.status = .pass := by
  obtain ⟨htls, reference, key, mux, href, hkey, -⟩ :=
    (start_eq_ok_iff probes loaded.1 loaded.2 cli).mp hstart
  obtain ⟨rest, hreport, -⟩ := @collect_of_loaded _ _ probes path flag userId loaded h
  have hnames := probes.collect_checks path flag userId
  rw [hreport] at hnames ⊢
  have hrest : rest.map (·.check) =
      ["dns", "tcp+tls", "auth", "streaming", "cancellation", "identity"] := by
    simpa [configCheck_check, tlsPolicyCheck_check] using hnames
  intro r hr hname
  rcases List.mem_cons.mp hr with rfl | hr
  · rcases configCheck_cases probes loaded.1 loaded.2 with ⟨_, _, _, _, hpass, _⟩ | ⟨_, hnot⟩
    · exact hpass
    · exact absurd hkey (hnot reference key href)
  rcases List.mem_cons.mp hr with rfl | hr
  · rw [tlsPolicyCheck_status, if_pos htls]
  · have hmem := List.mem_map_of_mem (f := CheckResult.check) hr
    rw [hrest] at hmem
    rcases hname with hname | hname <;> rw [hname] at hmem <;> simp at hmem

theorem exitCode_eq_one {results : List CheckResult} (h : ∃ r ∈ results, r.status = .fail) :
    exitCode results = 1 := by
  obtain ⟨r, hr, hfail⟩ := h
  exact if_pos (List.any_eq_true.mpr ⟨r, hr, by simp [hfail]⟩)

end Report

/-- The doctor fails whatever the connect mode rejects, passes the checks of what it accepts,
and always reports all of its checks. -/
theorem doctor_agrees (cli : Cli) (path : String) :
    (∀ err, probes.buildState cli path = .error err →
      (∃ r ∈ probes.collect path cli.profile cli.userId, r.status = .fail) ∧
        exitCode (probes.collect path cli.profile cli.userId) = 1) ∧
    (∀ state, probes.buildState cli path = .ok state →
      ∀ r ∈ probes.collect path cli.profile cli.userId,
        r.check = "config" ∨ r.check = "tls-policy" → r.status = .pass) ∧
    (probes.collect path cli.profile cli.userId).map (·.check) =
      ["config", "tls-policy", "dns", "tcp+tls", "auth", "streaming", "cancellation",
        "identity"] := by
  refine ⟨?_, ?_, probes.collect_checks path cli.profile cli.userId⟩
  · intro err herr
    have hfail : ∃ r ∈ probes.collect path cli.profile cli.userId, r.status = .fail := by
      rw [buildState_eq] at herr
      cases hload : probes.loadProfile path cli.profile with
      | error detail =>
        unfold collect
        rw [hload]
        exact ⟨_, List.mem_cons_self, rfl⟩
      | ok loaded =>
        rw [hload] at herr
        exact fail_of_start_error probes hload herr
    exact ⟨hfail, exitCode_eq_one hfail⟩
  · intro state hstate
    rw [buildState_eq] at hstate
    cases hload : probes.loadProfile path cli.profile with
    | error detail =>
      rw [hload] at hstate
      exact absurd hstate (by simp [Except.bind])
    | ok loaded =>
      rw [hload] at hstate
      exact pass_of_start_ok probes hload hstate

/-- One profile, which takes its key from the environment. -/
def servedConfig : ConfigFile where
  profiles := (∅ : KeyMap String Profile).insert "p"
    { baseUrl := some "https://formation.example", clientKey := some "env:KEY" }

/-- A machine with one config file and the key it refers to. -/
def served : Probes String Unit where
  readToString path := if path = "c.toml" then .ok "" else .error "No such file or directory"
  fromToml _ := .ok servedConfig
  resolveSecret reference :=
    if reference = "env:KEY" then .ok "sk" else .error .missingClientKey
  newClient c := match c with
    | .withBaseUrl _ clientKey _ | .new _ _ clientKey _ => .ok clientKey
  lookupHost _ _ := .ok [()]
  showAddr _ := "192.0.2.1:443"
  connect _ := some (.ok ())
  health _ := .ok ()
  getSessions _ _ _ := .ok ()
  cancelRequest _ _ _ := .error (.notFound 404 "no such request")

/-- It starts from that file and from no other. -/
theorem doctor_agrees_served :
    (∀ r ∈ served.collect "c.toml" none none,
      r.check = "config" ∨ r.check = "tls-policy" → r.status = .pass) ∧
    (∃ r ∈ served.collect "d.toml" none none, r.status = .fail) ∧
    exitCode (served.collect "d.toml" none none) = 1 :=
  ⟨(served.doctor_agrees {} "c.toml").2.1 _ rfl, (served.doctor_agrees {} "d.toml").1 _ rfl⟩

end Probes
end AcpBridge
