import AcpBridge.Northbound.Owned
import AcpBridge.Agent.Deadlines

/-! The bridge seen from its outgoing path: its registry with the messages the writer has not
reached yet refines the northbound model, as long as the lines read back as what they are. -/
namespace AcpBridge

open SessionRegistry

/-- The line of a message reads back as JSON-RPC: a notification carries its method and its
session, a response has no method. -/
def Sdk.Frames (sdk : Sdk) : Outgoing → Prop
  | .update s r u =>
    (Str.splitOnce (sdk.line (.update s r u)).toList "\"session/update\"".toList).isSome ∧
    ∃ v, sdk.fromStr (sdk.line (.update s r u)) = some v ∧
      v.get "method" = some (.string "session/update") ∧
      (v.get "params").bind (·.get "sessionId") = some (.string s)
  | .response n reply =>
    ∀ v, sdk.fromStr (sdk.line (.response n reply)) = some v → v.get "method" = none

section Lines
variable {sdk : Sdk} (reg : SessionRegistry)

theorem noteLineWritten_update {s r : String} {u : SessionUpdate}
    (h : sdk.Frames (.update s r u)) :
    noteLineWritten sdk reg (sdk.line (.update s r u)) = reg.bufferWritten s := by
  obtain ⟨hmark, v, hv, hmethod, hsession⟩ := h
  have hnone : ¬ (Str.splitOnce (sdk.line (.update s r u)).toList
      "\"session/update\"".toList).isNone := by
    rw [Bool.not_eq_true, Option.isNone_eq_false_iff]
    exact hmark
  rw [noteLineWritten, if_neg hnone, hv]
  simp [hmethod, hsession, Value.asStr]

theorem noteLineWritten_response {n : ℕ} {reply : Reply} (h : sdk.Frames (.response n reply)) :
    noteLineWritten sdk reg (sdk.line (.response n reply)) = reg := by
  unfold noteLineWritten
  split_ifs
  · rfl
  · cases hv : sdk.fromStr (sdk.line (.response n reply)) with
    | none => rfl
    | some v => simp [h v hv]

/-- A reservation made just before its turn ends leaves no trace. -/
theorem bufferReserve_endTurn {s : String} {g : ActiveTurn} (bytes : Usize)
    (hg : reg.active s = some g) :
    (reg.bufferReserve s bytes).2.endTurn s g.requestId = reg.endTurn s g.requestId := by
  obtain ⟨t, ht, rfl⟩ := Option.map_eq_some_iff.mp hg
  obtain ⟨cwd, hl⟩ := turn_eq_some.mp ht
  simp only [bufferReserve, hl]
  split_ifs
  · rfl
  · simp [endTurn, hl, AList.insert_insert]

end Lines

/-- The line of a message of the turn with the given token. -/
def Outgoing.lineOf (sdk : Sdk) (turn : Token) : Outgoing → Line
  | .update s _ u => .update s turn (sdk.notificationLen s u)
  | .response _ _ => .frame

namespace Stretch

/-- A task was failed because the first update it has not sent does not fit on top of what its
turn has reserved. It sent those before it and told its host how much that would be. -/
def Refused (sdk : Sdk) (t : RunTurn) (sessions : SessionRegistry) (updates : List SessionUpdate)
    (new : List Outgoing) : Prop :=
  ∃ ts sent u later, sessions.turn t.sessionId = some ts ∧ ts.handle = t.handle ∧
    updates = sent ++ u :: later ∧
    let bytes := ts.bufferedBytes.saturatingAdd (sdk.notificationLen t.sessionId u)
    sessions.limits.maxBufferedBytes.val < bytes.val ∧
      new = messages t sent
        (some (.error (overflowError ⟨bytes, sessions.limits.maxBufferedBytes⟩)))

theorem Refused.cons {sdk : Sdk} {t : RunTurn} {sessions : SessionRegistry}
    {updates : List SessionUpdate} {new : List Outgoing} (h : Refused sdk t sessions updates new)
    (u : SessionUpdate) :
    Refused sdk t sessions (u :: updates) (.update t.sessionId t.requestId u :: new) := by
  obtain ⟨ts, sent, v, later, hts, hhandle, rfl, hover, rfl⟩ := h
  exact ⟨ts, u :: sent, v, later, hts, hhandle, rfl, hover, rfl⟩

variable (sdk : Sdk) (state : BridgeState) (limits : Limits)

/-- The inner loop from `st` to `st'` on the outgoing path: it sends `new` and leaves the
registry at `sessions`, but for a reservation that is given up with the turn. -/
structure Sends (events : List TurnEvent) (st st' : Stretch) (queue : List Line)
    (new : List Outgoing) (sessions : SessionRegistry) : Prop where
  out : st'.out = st.out ++ new
  leads : (sendingSystem limits).Leads ⟨st.sessions, queue⟩
    ⟨sessions, queue ++ new.map (Outgoing.lineOf sdk st.turn.cancel)⟩
  stays : st'.turn.exit = none → st'.sessions = sessions
  ended : st'.sessions.endTurn st.turn.sessionId st.turn.requestId =
    sessions.endTurn st.turn.sessionId st.turn.requestId
  refused : st'.turn.exit = some .overflow →
    Refused sdk st.turn sessions (TurnEvent.updates events) new

theorem leads_frame (n : Northbound) : (sendingSystem limits).Leads n
    { n with queue := n.queue ++ [.frame] } :=
  .single (T := sendingSystem limits) (l := .sendFrame) ⟨trivial, by simp⟩

/-- The inner loop sends its lines one by one, as the turn registered for its session. -/
theorem forward_sends (events : List TurnEvent) (sends : List Bool) (st : Stretch)
    (hr : st.turn.responder = some st.turn.request)
    (hg : st.sessions.active st.turn.sessionId = some st.turn.handle)
    (hb : st.turn.cancel < st.sessions.tokens.next) (hx : st.turn.exit = none)
    (queue : List Line) :
    ∃ new sessions,
      Sends sdk limits events st (forward sdk state events sends st) queue new sessions := by
  induction events generalizing sends st queue with
  | nil => exact ⟨[], st.sessions, by simp [forward], by simpa using .refl _, fun _ => rfl, rfl,
      by simp [forward, hx]⟩
  | cons event rest ih =>
    cases event with
    | update u =>
      let bytes := sdk.notificationLen st.turn.sessionId u
      obtain ⟨t, ht, hhandle⟩ := Option.map_eq_some_iff.mp hg
      obtain ⟨t', ht', hover, hres⟩ | ⟨hnone, _⟩ | ⟨t', sessions, _, _, hres, htok, _, _⟩ :=
        bufferReserve_cases st.sessions st.turn.sessionId bytes
      · -- refused: nothing is recorded and the turn is failed
        let overflow : BufferOverflow :=
          ⟨t'.bufferedBytes.saturatingAdd bytes, st.sessions.limits.maxBufferedBytes⟩
        have hforward : forward sdk state (.update u :: rest) sends st =
            ((st.spawnMuxCancel state).respond (.error (overflowError overflow))).exit
              .overflow := by
          simp only [forward, hres, bytes, overflow]
        refine ⟨[.response st.turn.request (.error (overflowError overflow))], st.sessions, ?_,
          leads_frame limits _, ?_, ?_,
          fun _ => ⟨t', [], u, TurnEvent.updates rest, ht', ?_, rfl, hover, rfl⟩⟩
        · simp [hforward, respond, spawnMuxCancel, exit, hr]
        · simp [hforward, exit]
        · simp [hforward, respond, spawnMuxCancel, exit, hr]
        · obtain rfl := Option.some.inj (ht.symm.trans ht')
          exact hhandle
      · simp [hnone] at ht
      · have hactive := bufferReserve_active st.sessions st.turn.sessionId bytes
        have hend := bufferReserve_endTurn st.sessions bytes hg
        rw [hres] at hactive hend
        by_cases hsend : sends.headD true = true
        · let st₁ : Stretch := { st with
            sessions := sessions
            out := st.out ++ [.update st.turn.sessionId st.turn.requestId u] }
          have howned : Northbound.Owned ⟨st.sessions, queue⟩
              (.send st.turn.sessionId st.turn.cancel bytes) := by
            refine ⟨hb, t, ht, ?_⟩
            rw [hhandle]
            rfl
          have hone : (sendingSystem limits).Leads ⟨st.sessions, queue⟩
              ⟨sessions, queue ++ [.update st.turn.sessionId st.turn.cancel bytes]⟩ := by
            have hstep := TransitionSystem.Leads.single (T := sendingSystem limits)
              (t := ⟨st.sessions, queue⟩) (l := .send st.turn.sessionId st.turn.cancel bytes)
              ⟨howned, by simp⟩
            have hnext : (sendingSystem limits).next ⟨st.sessions, queue⟩
                (.send st.turn.sessionId st.turn.cancel bytes) =
                ⟨sessions, queue ++ [.update st.turn.sessionId st.turn.cancel bytes]⟩ := by
              change Northbound.send _ _ _ _ = _
              simp [Northbound.send, hres]
            rwa [hnext] at hstep
          obtain ⟨new, sessions', h⟩ := ih sends.tail st₁ hr ((hactive _).trans hg) (htok ▸ hb) hx
            (queue ++ [.update st.turn.sessionId st.turn.cancel bytes])
          have hforward : forward sdk state (.update u :: rest) sends st =
              forward sdk state rest sends.tail st₁ := by
            simp only [forward, bytes, hres, hsend, if_true, st₁]
          rw [hforward]
          refine ⟨.update st.turn.sessionId st.turn.requestId u :: new, sessions', ?_, ?_,
            h.stays, h.ended, fun hx => (h.refused hx).cons u⟩
          · rw [h.out]
            simp [st₁]
          · have hrest := hone.trans h.leads
            simpa [Outgoing.lineOf] using hrest
        · have hforward : forward sdk state (.update u :: rest) sends st =
              ({ st with sessions := sessions } : Stretch).exit .sendFailed := by
            simp only [forward, bytes, hres, hsend, if_false, Bool.false_eq_true]
          rw [hforward]
          refine ⟨[], st.sessions, ?_, by simpa using .refl _, ?_, hend, ?_⟩
          all_goals simp [exit]
    | completed =>
      obtain ⟨new, sessions, h⟩ := ih sends
        { st with turn := { st.turn with sawTerminal := true } } hr hg hb hx queue
      exact ⟨new, sessions, h.out, h.leads, h.stays, h.ended, h.refused⟩
    | done =>
      refine ⟨[.response st.turn.request (.stop .endTurn)], st.sessions, ?_, leads_frame limits _,
        ?_, ?_, ?_⟩
      all_goals simp [forward, respond, exit, hr]
    | error code message =>
      refine ⟨[.response st.turn.request (.error (bridgeError code message))], st.sessions, ?_,
        leads_frame limits _, ?_, ?_, ?_⟩
      all_goals simp [forward, respond, exit, hr]

/-- A whole stretch of a task on the outgoing path; it may end with its turn being ended. -/
structure Sent (t : RunTurn) (sessions : SessionRegistry) (input : PollInput) (queue : List Line)
    (st : Stretch) (before : SessionRegistry) : Prop where
  leads : (sendingSystem limits).Leads ⟨sessions, queue⟩
    ⟨before, queue ++ st.out.map (Outgoing.lineOf sdk t.cancel)⟩
  ended : st.sessions = before ∨ st.sessions = before.endTurn t.sessionId t.requestId
  refused : st.turn.exit = some .overflow → ∃ event, input.item = some (.event event) ∧
    Refused sdk t before (TurnEvent.updates (t.translator.translate sdk.fromStr event).1) st.out

theorem Sent.leads_ended {t : RunTurn} {sessions before : SessionRegistry} {input : PollInput}
    {queue : List Line} {st : Stretch} (h : Sent sdk limits t sessions input queue st before) :
    (sendingSystem limits).Leads ⟨sessions, queue⟩
      ⟨st.sessions, queue ++ st.out.map (Outgoing.lineOf sdk t.cancel)⟩ := by
  obtain hst | hst := h.ended <;> rw [hst]
  · exact h.leads
  · exact h.leads.snoc (T := sendingSystem limits)
      (l := .registry (.endTurn t.sessionId t.requestId)) ⟨rfl, by simp⟩

attribute [local simp] arm next respond spawnMuxCancel exit finish in
theorem poll_sent {t : RunTurn} (ht : t.Running) {sessions : SessionRegistry}
    (hown : sessions.active t.sessionId = some t.handle ∨ t.cancel ∈ sessions.tokens.fired)
    (hb : t.cancel < sessions.tokens.next) (input : PollInput) (queue : List Line) :
    ∃ before, Sent sdk limits t sessions input queue (t.poll sdk state sessions input) before := by
  have hframe := leads_frame limits ⟨sessions, queue⟩
  cases hw : t.winner state sessions input with
  | item item =>
    cases item with
    | close =>
      cases hend : streamEndOutcome t.sawTerminal with
      | ok reason =>
        refine ⟨sessions, ?_, .inr ?_, ?_⟩
        all_goals simp [RunTurn.poll_eq, hw, hend, ht.responder, ht.leave, Outgoing.lineOf]
        exact hframe
      | error err =>
        refine ⟨sessions, ?_, .inr ?_, ?_⟩
        all_goals simp [RunTurn.poll_eq, hw, hend, ht.responder, ht.leave, Outgoing.lineOf]
        exact hframe
    | error message =>
      refine ⟨sessions, ?_, .inr ?_, ?_⟩
      all_goals simp [RunTurn.poll_eq, hw, ht.responder, ht.leave, Outgoing.lineOf]
      exact hframe
    | event event =>
      have hnot : t.cancel ∉ sessions.tokens.fired := by
        intro hf
        have hcancelled : t.winner state sessions input = .cancelled :=
          select_eq_cancelled.mpr (by simpa [CancellationTokens.isCancelled] using hf)
        simp [hcancelled] at hw
      obtain ⟨new, before, h⟩ := forward_sends sdk state limits
        (t.translator.translate sdk.fromStr event).1 input.sends
        (t.takes sdk state sessions input.now event) ht.responder
        (hown.resolve_right hnot) hb ht.exit queue
      have hst : t.poll sdk state sessions input = (forward sdk state
          (t.translator.translate sdk.fromStr event).1 input.sends
          (t.takes sdk state sessions input.now event)).finish := by
        rw [RunTurn.poll_eq, hw]
        rfl
      obtain ⟨_, _, hforward⟩ := forward_spec sdk state
        (t.translator.translate sdk.fromStr event).1 input.sends
        (t.takes sdk state sessions input.now event) ht.responder ht.exit
      obtain ⟨saw, exit, hturn⟩ := hforward.turn
      rw [hst]
      generalize forward sdk state (t.translator.translate sdk.fromStr event).1 input.sends
        (t.takes sdk state sessions input.now event) = st at h hturn ⊢
      refine ⟨before, ?_, ?_, ?_⟩
      · rw [finish_out, h.out]
        exact h.leads
      · cases hx : st.turn.exit with
        | none =>
          left
          rw [finish, hx]
          exact h.stays hx
        | some e =>
          have hfinish : st.finish.sessions =
              st.sessions.endTurn st.turn.sessionId st.turn.requestId := by
            rw [finish, hx, hturn]
            simp [RunTurn.takes, ht.leave]
          rw [hfinish, hturn]
          exact .inr h.ended
      · rw [finish_turn, finish_out]
        intro hx
        have hout := h.out
        refine ⟨event, (select_eq_item hw).1, ?_⟩
        rw [hout]
        exact h.refused hx
  | incomingClosed =>
    refine ⟨sessions, ?_, .inl ?_, ?_⟩
    all_goals simp [RunTurn.poll_eq, hw]
    exact .refl _
  | pending =>
    refine ⟨sessions, ?_, .inl ?_, ?_⟩
    all_goals simp [RunTurn.poll_eq, hw, ht.exit]
    exact .refl _
  | _ =>
    refine ⟨sessions, ?_, .inr ?_, ?_⟩
    all_goals simp [RunTurn.poll_eq, hw, ht.responder, ht.leave, Outgoing.lineOf]
    exact hframe

end Stretch
end AcpBridge
