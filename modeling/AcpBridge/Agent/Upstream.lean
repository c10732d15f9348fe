import AcpBridge.Agent.Chats

/-! The cancels the formation is sent: they name turns it has not decided itself. -/
namespace AcpBridge

open SessionRegistry

theorem resolveUserId_cases (cli : Option String) (extracted : String) (default : Option String)
    (s : String) : resolveUserId cli (some extracted) default s = resolveUserId cli none default s ∨
      resolveUserId cli (some extracted) default s = extracted := by
  unfold resolveUserId
  cases cli.filter (· ≠ "") with
  | some id => exact .inl rfl
  | none =>
    by_cases hempty : extracted = ""
    · left
      subst hempty
      rfl
    · right
      simp [Option.filter, hempty]

/-- Without a host identity in its text a turn runs under the identity its cancels carry. -/
theorem BridgeState.userIdForTurn_cases (state : BridgeState) (s text : String) :
    state.userIdForTurn s text = state.userIdFor s ∨ ∃ x identity, state.hostExtractor = some x ∧
      x.extract text = some identity ∧ state.userIdForTurn s text = identity.userId := by
  by_cases hflag : state.cliUserId.any (· ≠ "") = true
  · left
    simp only [userIdForTurn, if_pos hflag]
    rfl
  · simp only [userIdForTurn, if_neg hflag]
    cases hx : state.hostExtractor with
    | none => exact .inl rfl
    | some x =>
      rw [Option.bind_some]
      cases hidentity : x.extract text with
      | none => exact .inl rfl
      | some identity =>
        refine (resolveUserId_cases _ identity.userId _ s).imp id fun hid => ?_
        exact ⟨x, identity, rfl, hidentity, hid⟩

namespace Bridge
variable {sdk : Sdk} {state : BridgeState} {limits : Limits} {b b' : Bridge} {ev : Event}
  {evs : List Event}

/-- The identity a turn runs under, told from the text of its chat. -/
def Identified (state : BridgeState) (t : RunTurn) : Prop := ∃ text,
  t.payload = chatPayload text t.sessionId t.requestId state.agentId ∧
    t.userId = state.userIdForTurn t.sessionId text

/-- A cancel is addressed to a turn, under the identity of its session. -/
def Addressed (state : BridgeState) (turns : List RunTurn) (c : CancelRequest) : Prop :=
  ∃ t ∈ turns, t.requestId = c.requestId ∧ c.userId = state.userIdFor t.sessionId

theorem Addressed.mono {c : CancelRequest} (h : Addressed state b.turns c)
    (hkept : ∀ t ∈ b.turns, ∃ t' ∈ b'.turns, t.Continues t') : Addressed state b'.turns c := by
  obtain ⟨t, ht, hr, huser⟩ := h
  obtain ⟨t', ht', hc⟩ := hkept t ht
  exact ⟨t', ht', hc.requestId.trans hr, by rw [huser, hc.sessionId]⟩

theorem Slots.addressed (hs : b.Slots) {s : String} {g : ActiveTurn}
    (hg : b.sessions.active s = some g) :
    Addressed state b.turns ⟨g.requestId, state.userIdFor s⟩ := by
  obtain ⟨t, ht, rfl, rfl, _⟩ := hs.owned s g hg
  exact ⟨t, ht, rfl, rfl⟩

theorem Slots.move_addressed (hs : b.Slots) (hm : b.Move sdk state ev b')
    (h : ∀ c ∈ b.cancels, Addressed state b.turns c) :
    ∀ c ∈ b'.cancels, Addressed state b'.turns c := by
  have hkept := hs.kept hm
  have hold : ∀ c ∈ b.cancels, Addressed state b'.turns c := fun c hc => (h c hc).mono hkept
  cases hm with
  | rests hr => rwa [hr.cancels]
  | begins s r text hb => rwa [hb.cancels]
  | fires s hf =>
    rw [hf.cancels, List.forall_mem_append]
    refine ⟨hold, fun c hc => ?_⟩
    obtain ⟨g, hg, rfl⟩ := List.mem_map.mp hc
    exact (hs.addressed (Option.mem_toList.mp hg)).mono hkept
  | polls i t input st hp =>
    obtain ⟨sent, answer, hpolled⟩ := hs.polled hp
    rw [hp.cancels, hpolled.cancels, List.forall_mem_append]
    refine ⟨hold, fun c hc => ?_⟩
    unfold Stretch.cancelsOf at hc
    split_ifs at hc
    · obtain rfl := List.mem_singleton.mp hc
      have hown : Addressed state b.turns ⟨t.requestId, state.userIdFor t.sessionId⟩ :=
        ⟨t, hp.mem, rfl, rfl⟩
      exact hown.mono hkept
    · simp at hc
  | drains hd =>
    rw [hd.cancels, List.forall_mem_append]
    refine ⟨hold, fun c hc => ?_⟩
    obtain ⟨⟨s, g⟩, hg, rfl⟩ := List.mem_map.mp hc
    exact (hs.addressed (b.sessions.mem_drainActiveTurns.mp hg)).mono hkept

theorem addressed_of_reachable (h : (bridgeSystem sdk state limits).Reachable b) :
    ∀ c ∈ b.cancels, Addressed state b.turns c :=
  h.invariant (P := fun b => ∀ c ∈ b.cancels, Addressed state b.turns c) (by simp [bridgeSystem])
    fun b _ hr hb he => (slots_of_reachable hr).move_addressed (b.step_move sdk state he) hb

theorem identified_of_reachable (h : (bridgeSystem sdk state limits).Reachable b) :
    ∀ t ∈ b.turns, Identified state t := by
  refine h.invariant (P := fun b => ∀ t ∈ b.turns, Identified state t) (by simp [bridgeSystem]) ?_
  intro b ev hr hb he
  have hs := slots_of_reachable hr
  change ∀ t ∈ (b.step sdk state ev).turns, Identified state t
  obtain ⟨s, r, prompt, text, rfl, htext, hturns, _⟩ | ⟨hturns, _⟩ |
    ⟨i, t, input, hi, hx, _, hturns, _⟩ := step_turns sdk state b ev <;> rw [hturns]
  · rw [List.forall_mem_append, List.forall_mem_singleton]
    exact ⟨hb, text, rfl, rfl⟩
  · exact hb
  · have ht := hs.running t (List.mem_of_getElem? hi) hx
    obtain ⟨text, hpayload, hid⟩ := hb t (List.mem_of_getElem? hi)
    obtain ⟨_, _, hpolled⟩ := t.poll_spec sdk state ht b.sessions input
    obtain ⟨hchat, _⟩ := t.poll_chat sdk state ht b.sessions input
    intro x hx
    obtain hold | rfl := List.mem_or_eq_of_mem_set hx
    · exact hb x hold
    · refine ⟨text, ?_, ?_⟩
      · rw [hpolled.sessionId, hpolled.requestId, ← hpayload]
        exact congrArg Chat.payload hchat
      · rw [hpolled.sessionId, ← hid]
        exact congrArg Chat.userId hchat

/-- A cancel is never invented or late: it names a turn that the bridge began and the formation
has not decided. It carries the identity of the turn's session, which is the one the turn runs
under unless the host named another in the prompt. -/
theorem cancels_sound (h : (bridgeSystem sdk state limits).Reachable b) {c : CancelRequest}
    (hc : c ∈ b.cancels) : ∃ t ∈ b.turns, t.requestId = c.requestId ∧
      (∀ e, t.exit = some e → e.upstream = false ∧ e ≠ .sendFailed) ∧
      c.userId = state.userIdFor t.sessionId ∧
      ∃ text, t.payload = chatPayload text t.sessionId t.requestId state.agentId ∧
        (t.userId = c.userId ∨ ∃ x identity, state.hostExtractor = some x ∧
          x.extract text = some identity ∧ t.userId = identity.userId) := by
  obtain ⟨t, ht, hr, huser⟩ := addressed_of_reachable h c hc
  obtain ⟨text, hpayload, hid⟩ := identified_of_reachable h t ht
  have hcancelled := cancelled_of_reachable h
  refine ⟨t, ht, hr, fun e he => ?_, huser, text, hpayload, ?_⟩
  · have hmem : t.requestId ∈ b.cancelledIds := List.mem_map.mpr ⟨c, hc, hr.symm⟩
    obtain hfired | ⟨e', he', hown⟩ := hcancelled.due t ht hmem
    · have hsettled := hcancelled.settled t ht e he
      cases e <;> simp_all [Exit.upstream]
    · obtain rfl := Option.some.inj (he.symm.trans he')
      cases e <;> simp_all [Exit.upstream, Exit.cancelsUpstream]
  · rw [hid, huser]
    exact state.userIdForTurn_cases t.sessionId text

/-- The second prompt is refused. -/
def chattyRun : List Event :=
  [.newSession "s" "/tmp", .prompt "s" "r1" [.text "hi"], .prompt "s" "r2" [.text "again"]]

/-- The running prompt is cancelled, under its own identity. -/
theorem cancels_sound_refused : ∃ t ∈ ((bridgeSystem rawSdk {} {}).exec { sessions := .new {} }
      (chattyRun ++ [.cancel "s"])).turns, t.requestId = "r1" ∧
    (∀ e, t.exit = some e → e.upstream = false ∧ e ≠ .sendFailed) ∧
    "acp:s" = ({} : BridgeState).userIdFor t.sessionId ∧
    ∃ text, t.payload = chatPayload text t.sessionId t.requestId none ∧
      (t.userId = "acp:s" ∨ ∃ x identity, ({} : BridgeState).hostExtractor = some x ∧
        x.extract text = some identity ∧ t.userId = identity.userId) :=
  cancels_sound (c := ⟨"r1", "acp:s"⟩) ⟨chattyRun ++ [.cancel "s"], by decide, rfl⟩ (by decide)

end Bridge
end AcpBridge
