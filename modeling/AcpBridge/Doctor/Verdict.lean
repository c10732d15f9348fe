import AcpBridge.Doctor.Agreement

/-! When the doctor exits with 0: exactly when everything a start and a turn depend on is there. -/
namespace AcpBridge

theorem exitCode_eq_zero {results : List CheckResult} :
    exitCode results = 0 ↔ ∀ r ∈ results, r.status ≠ .fail := by
  unfold exitCode
  split_ifs with h
  · obtain ⟨r, hr, hfail⟩ := List.any_eq_true.mp h
    refine iff_of_false (by simp) fun hall => hall r hr (by simpa using hfail)
  · refine iff_of_true rfl fun r hr hfail => h (List.any_eq_true.mpr ⟨r, hr, ?_⟩)
    simp [hfail]

namespace Probes
variable {Client Addr : Type} (probes : Probes Client Addr)

/-- An answer of the formation that shows the cancel route: the request id is not known. -/
def Declines : Except MuxiError Unit → Prop
  | .ok () => False
  | .error err => httpStatus err = some 404 ∨ httpStatus err = some 400 ∨ httpStatus err = some 405

/-- An answer that came over HTTP, whatever its status. -/
def Answers : Except MuxiError Unit → Prop
  | .ok () => True
  | .error err => (httpStatus err).isSome

/-- What a profile needs to be of use. -/
structure Serves (profileName : String) (profile : Profile) (userId : String) (client : Client) :
    Prop where
  transport : profile.validateTransportSecurity profileName = .ok ()
  key : ∃ reference key, profile.clientKeyReference = .ok reference ∧
    probes.resolveSecret reference = .ok key ∧ probes.clientFromProfile profile key = .ok client
  reached : ∃ scheme host port addr rest, endpointOrigin profile = .ok (scheme, host, port) ∧
    probes.lookupHost host port = .ok (addr :: rest) ∧ probes.connect addr = some (.ok ())
  answers : Answers (probes.health client)
  accepts : probes.getSessions client userId (some 1) = .ok ()
  declines : Declines (probes.cancelRequest client probeRequestId userId)

section Checks
variable {origin : Except String (String × String × UInt16)} {client : Client}

theorem dnsCheck_cases (origin : Except String (String × String × UInt16)) :
    (∃ scheme host port addr rest, origin = .ok (scheme, host, port) ∧
      probes.lookupHost host port = .ok (addr :: rest) ∧
      (probes.dnsCheck origin).1.status = .pass ∧ (probes.dnsCheck origin).2 = some addr) ∨
    ((probes.dnsCheck origin).1.status = .fail ∧ (probes.dnsCheck origin).2 = none ∧
      ∀ scheme host port addr rest, origin = .ok (scheme, host, port) →
        probes.lookupHost host port ≠ .ok (addr :: rest)) := by
  unfold dnsCheck
  cases origin with
  | error detail => exact .inr ⟨rfl, rfl, by simp⟩
  | ok found =>
    obtain ⟨scheme, host, port⟩ := found
    simp only
    cases hlookup : probes.lookupHost host port with
    | error err =>
      refine .inr ⟨rfl, rfl, ?_⟩
      rintro _ _ _ addr rest ⟨⟩
      simp [hlookup]
    | ok addrs =>
      cases addrs with
      | nil =>
        refine .inr ⟨rfl, rfl, ?_⟩
        rintro _ _ _ addr rest ⟨⟩
        simp [hlookup]
      | cons addr rest => exact .inl ⟨scheme, host, port, addr, rest, rfl, hlookup, rfl, rfl⟩

theorem roundTrip_isOk (client : Client) :
    (∃ status, probes.roundTrip (.ok client) = .ok status) ↔ Answers (probes.health client) := by
  unfold roundTrip
  cases hhealth : probes.health client with
  | ok u => simp [Answers, hhealth]
  | error err => cases hstatus : httpStatus err <;> simp [Answers, hhealth, hstatus]

theorem tcpTlsCheck_ne_fail (scheme host : String) (port : UInt16) (addr : Addr) :
    (probes.tcpTlsCheck (.ok (scheme, host, port)) (some addr) (.ok client)).1.status ≠ .fail ↔
      probes.connect addr = some (.ok ()) ∧ Answers (probes.health client) := by
  rw [← roundTrip_isOk]
  unfold tcpTlsCheck
  simp only
  cases hconnect : probes.connect addr with
  | none => simp
  | some result =>
    cases result with
    | error err => simp
    | ok u => cases probes.roundTrip (.ok client) <;> simp

theorem authCheck_ne_fail (key userId : String) :
    (probes.authCheck (.ok client) (some key) userId).status ≠ .fail ↔
      probes.getSessions client userId (some 1) = .ok () := by
  unfold authCheck
  simp only
  cases hsessions : probes.getSessions client userId (some 1) with
  | ok u => simp
  | error err =>
    simp only
    split <;> simp

theorem cancellationCheck_ne_fail (key userId : String) :
    (probes.cancellationCheck (.ok client) (some key) userId).status ≠ .fail ↔
      Declines (probes.cancelRequest client probeRequestId userId) := by
  unfold cancellationCheck
  simp only
  cases hcancel : probes.cancelRequest client probeRequestId userId with
  | ok u => simp [Declines]
  | error err =>
    simp only [Declines]
    split
    · simp [*]
    · split_ifs <;> simp_all
    · simp [*]

end Checks

/-- The exit code of a loaded profile. -/
theorem collect_passes {path : String} {flag userId : Option String} {profileName : String}
    {profile : Profile} (h : probes.loadProfile path flag = .ok (profileName, profile)) :
    exitCode (probes.collect path flag userId) = 0 ↔ ∃ client, probes.Serves profileName profile
      (resolveUserId userId none profile.identity.defaultUserId "doctor") client := by
  rw [exitCode_eq_zero, collect, h]
  simp only [List.forall_mem_cons, List.not_mem_nil, false_imp_iff, implies_true, and_true]
  obtain ⟨reference, key, href, hkey, hpass, hhanded⟩ | ⟨hfail, hnone⟩ :=
    probes.configCheck_cases profileName profile
  · rw [hhanded, Option.getD_some]
    cases hclient : probes.clientFromProfile profile key with
    | error err =>
      have hauth := probes.authCheck_of_error err.display
        (resolveUserId userId none profile.identity.defaultUserId "doctor") (some key)
      refine iff_of_false (fun hall => hall.2.2.2.2.1 hauth) ?_
      rintro ⟨client, hserves⟩
      obtain ⟨reference', key', href', hkey', hclient'⟩ := hserves.key
      obtain rfl := Except.ok.inj (href.symm.trans href')
      obtain rfl := Except.ok.inj (hkey.symm.trans hkey')
      simp [hclient] at hclient'
    | ok client =>
      have hbuilt : (Except.ok client : Except ConfigError Client).mapError ConfigError.display =
        .ok client := rfl
      have hunique : ∀ client', (∃ reference key, profile.clientKeyReference = .ok reference ∧
          probes.resolveSecret reference = .ok key ∧
          probes.clientFromProfile profile key = .ok client') ↔ client' = client := by
        intro client'
        rw [href]
        simp [hkey, hclient, eq_comm]
      rw [hbuilt, authCheck_ne_fail, cancellationCheck_ne_fail]
      obtain ⟨scheme, host, port, addr, rest, horigin, hlookup, hdns, hfirst⟩ |
          ⟨hdns, _, hunreached⟩ := probes.dnsCheck_cases (endpointOrigin profile)
      · rw [hfirst, horigin, tcpTlsCheck_ne_fail]
        constructor
        · rintro ⟨_, htls, _, ⟨hconnect, hanswers⟩, haccepts, _, hdeclines, _⟩
          refine ⟨client, ?_, (hunique client).mpr rfl, ?_, hanswers, haccepts, hdeclines⟩
          · by_contra hbad
            rw [tlsPolicyCheck_status, if_neg hbad] at htls
            exact htls rfl
          · exact ⟨scheme, host, port, addr, rest, horigin, hlookup, hconnect⟩
        · rintro ⟨client', hserves⟩
          obtain rfl := (hunique client').mp hserves.key
          obtain ⟨_, _, _, addr', _, horigin', hlookup', hconnect⟩ := hserves.reached
          obtain ⟨_, rfl, rfl⟩ : _ ∧ _ ∧ _ := by simpa [horigin] using horigin'
          obtain ⟨rfl, _⟩ : addr = addr' ∧ _ := by simpa [hlookup] using hlookup'
          refine ⟨by simp [hpass], ?_, ?_, ⟨hconnect, hserves.answers⟩, hserves.accepts, ?_,
            hserves.declines, by simp [identityCheck]⟩
          · rw [tlsPolicyCheck_status, if_pos hserves.transport]
            simp
          · rw [← horigin, hdns]
            simp
          · unfold streamingCheck
            split_ifs <;> simp
      · refine iff_of_false (fun hall => hall.2.2.1 hdns) ?_
        rintro ⟨client', hserves⟩
        obtain ⟨_, _, _, _, _, horigin, hlookup, _⟩ := hserves.reached
        exact hunreached _ _ _ _ _ horigin hlookup
  · refine iff_of_false (fun hall => hall.1 hfail) ?_
    rintro ⟨client, hserves⟩
    obtain ⟨reference, key, href, hkey, _⟩ := hserves.key
    exact hnone reference key href hkey

/-- The doctor exits with 0 exactly when the profile loads and everything it depends on is there:
the transport is allowed, the secret resolves and a client is built of it, the host resolves, takes
the connection and answers over HTTP, the key is accepted and the cancel route declines an unknown
request. The connect mode then starts. -/
theorem exit_zero_iff (path : String) (flag userId : Option String) :
    (exitCode (probes.collect path flag userId) = 0 ↔ ∃ profileName profile client,
      probes.loadProfile path flag = .ok (profileName, profile) ∧
      probes.Serves profileName profile
        (resolveUserId userId none profile.identity.defaultUserId "doctor") client) ∧
    (exitCode (probes.collect path flag userId) = 0 → ∀ cli : Cli, cli.profile = flag →
      ∃ state, probes.buildState cli path = .ok state) := by
  have hiff : exitCode (probes.collect path flag userId) = 0 ↔ ∃ profileName profile client,
      probes.loadProfile path flag = .ok (profileName, profile) ∧
      probes.Serves profileName profile
        (resolveUserId userId none profile.identity.defaultUserId "doctor") client := by
    cases hload : probes.loadProfile path flag with
    | error detail =>
      refine iff_of_false ?_ (by simp)
      rw [exitCode_eq_zero, collect, hload]
      exact fun hall => hall _ List.mem_cons_self rfl
    | ok loaded =>
      obtain ⟨profileName, profile⟩ := loaded
      rw [probes.collect_passes hload]
      constructor
      · rintro ⟨client, hserves⟩
        exact ⟨profileName, profile, client, rfl, hserves⟩
      · rintro ⟨_, _, client, heq, hserves⟩
        obtain ⟨rfl, rfl⟩ : profileName = _ ∧ profile = _ := by simpa using heq
        exact ⟨client, hserves⟩
  refine ⟨hiff, ?_⟩
  rintro hzero cli rfl
  obtain ⟨profileName, profile, client, hload, hserves⟩ := hiff.mp hzero
  obtain ⟨reference, key, href, hkey, hclient⟩ := hserves.key
  refine ⟨(.new profile.limits, client, profile.bridgeState cli), ?_⟩
  rw [buildState_eq, hload]
  exact (start_eq_ok_iff probes profileName profile cli).mpr
    ⟨hserves.transport, reference, key, client, href, hkey, hclient, rfl⟩

end Probes
end AcpBridge
