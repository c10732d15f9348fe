import AcpBridge.Session.Accounting
import AcpBridge.Agent.RunTurn

/-! What one stretch of a task does: the specification every result about runs of the bridge
rests on. The updates it queues and the answer it gives are named, everything else follows. -/
namespace AcpBridge

/-- The updates among the events of a turn. -/
def TurnEvent.updates (events : List TurnEvent) : List SessionUpdate :=
  events.filterMap fun
    | .update u => some u
    | _ => none

namespace Exit

/-- The loop sends the cancel itself. -/
def cancelsUpstream : Exit → Bool
  | turnTimeout | idleTimeout | overflow => true
  | _ => false

/-- The formation decided the way out. -/
def upstream : Exit → Bool
  | streamEnd | transportError | done | upstreamError => true
  | _ => false

/-- The answer that belongs to a way out, given whether a terminal event was seen. -/
def Answers (sawTerminal : Bool) (answer : Option Reply) : Exit → Prop
  | cancelled => answer = some (.stop .cancelled)
  | done => answer = some (.stop .endTurn)
  | streamEnd =>
    if sawTerminal then answer = some (.stop .endTurn) else ∃ e, answer = some (.error e)
  | hostDisconnected | sendFailed => answer = none
  | turnTimeout | idleTimeout | transportError | overflow | upstreamError =>
    ∃ e, answer = some (.error e)

end Exit

/-- The writer hook does nothing but release a reservation, whatever the line is. -/
theorem sameTurns_noteLineWritten (sdk : Sdk) (sessions : SessionRegistry) (line : String) :
    sessions.SameTurns (noteLineWritten sdk sessions line) := by
  unfold noteLineWritten
  repeat' split
  any_goals exact .refl _
  exact .bufferWritten sessions _

namespace Stretch
variable (sdk : Sdk) (state : BridgeState)

/-- The messages a stretch queues: updates of its turn, then its answer. -/
def messages (turn : RunTurn) (sent : List SessionUpdate) (answer : Option Reply) : List Outgoing :=
  sent.map (.update turn.sessionId turn.requestId) ++ answer.toList.map (.response turn.request)

def cancelsOf (turn : RunTurn) (exit : Option Exit) : List CancelRequest :=
  if exit.any Exit.cancelsUpstream then [⟨turn.requestId, state.userIdFor turn.sessionId⟩] else []

/-- What the inner loop does with the events of a frame. -/
structure Forwarded (events : List TurnEvent) (sends : List Bool) (st st' : Stretch)
    (sent : List SessionUpdate) (answer : Option Reply) : Prop where
  turn : ∃ saw exit, st'.turn = { st.turn with
    sawTerminal := saw
    responder := if answer.isSome then none else st.turn.responder
    exit := exit }
  out : st'.out = st.out ++ messages st.turn sent answer
  cancels : st'.cancels = st.cancels ++ cancelsOf state st.turn st'.turn.exit
  sessions : st.sessions.SameTurns st'.sessions
  answers : ∀ e, st'.turn.exit = some e → e.Answers st'.turn.sawTerminal answer
  stays : st'.turn.exit = none → answer = none ∧ sent = TurnEvent.updates events ∧
    st'.turn.sawTerminal = (st.turn.sawTerminal || decide (TurnEvent.completed ∈ events))
  leaves : st'.turn.exit = some .done → TurnEvent.done ∈ events
  failed : st'.turn.exit = some .sendFailed → false ∈ sends
  ways : ∀ e, st'.turn.exit = some e →
    e = .overflow ∨ e = .sendFailed ∨ e = .done ∨ e = .upstreamError
  sentFirst : sent <+: TurnEvent.updates events

namespace Forwarded
variable {state} {events rest : List TurnEvent} {sends : List Bool} {st st' : Stretch}
  {sent : List SessionUpdate} {answer : Option Reply}

theorem of_exit (e : Exit) (hturn : st'.turn = { st.turn with
      responder := if answer.isSome then none else st.turn.responder
      exit := some e })
    (hout : st'.out = st.out ++ messages st.turn [] answer)
    (hcancels : st'.cancels = st.cancels ++ cancelsOf state st.turn (some e))
    (hs : st.sessions.SameTurns st'.sessions) (ha : e.Answers st.turn.sawTerminal answer)
    (hd : e = .done → TurnEvent.done ∈ events) (hf : e = .sendFailed → false ∈ sends)
    (he : e = .overflow ∨ e = .sendFailed ∨ e = .done ∨ e = .upstreamError) :
    Forwarded state events sends st st' [] answer where
  turn := ⟨st.turn.sawTerminal, some e, hturn⟩
  out := hout
  cancels := by rw [hcancels, hturn]
  sessions := hs
  answers := by rw [hturn]; rintro _ ⟨⟩; exact ha
  stays := by rw [hturn]; simp
  leaves := by rw [hturn]; rintro ⟨⟩; exact hd rfl
  failed := by rw [hturn]; rintro ⟨⟩; exact hf rfl
  ways := by rw [hturn]; rintro _ ⟨⟩; exact he
  sentFirst := List.nil_prefix

theorem cons_update {sessions : SessionRegistry} {u : SessionUpdate}
    (hs : st.sessions.SameTurns sessions)
    (h : Forwarded state rest sends.tail { st with
      sessions := sessions
      out := st.out ++ [.update st.turn.sessionId st.turn.requestId u] } st' sent answer) :
    Forwarded state (.update u :: rest) sends st st' (u :: sent) answer where
  turn := h.turn
  out := by simpa [messages] using h.out
  cancels := h.cancels
  sessions := hs.trans h.sessions
  answers := h.answers
  stays := fun hx => by
    obtain ⟨ha, hsent, hsaw⟩ := h.stays hx
    exact ⟨ha, by rw [hsent]; rfl, by simpa using hsaw⟩
  leaves := fun hx => List.mem_cons_of_mem _ (h.leaves hx)
  failed := fun hx => List.mem_of_mem_tail (h.failed hx)
  ways := h.ways
  sentFirst := List.cons_prefix_cons.mpr ⟨rfl, h.sentFirst⟩

theorem cons_completed
    (h : Forwarded state rest sends { st with turn := { st.turn with sawTerminal := true } } st'
      sent answer) : Forwarded state (.completed :: rest) sends st st' sent answer where
  turn := h.turn
  out := h.out
  cancels := h.cancels
  sessions := h.sessions
  answers := h.answers
  stays := fun hx => by
    obtain ⟨ha, hsent, hsaw⟩ := h.stays hx
    exact ⟨ha, hsent, by simpa using hsaw⟩
  leaves := fun hx => List.mem_cons_of_mem _ (h.leaves hx)
  failed := h.failed
  ways := h.ways
  sentFirst := h.sentFirst

end Forwarded

theorem forward_spec (events : List TurnEvent) (sends : List Bool) (st : Stretch)
    (hr : st.turn.responder = some st.turn.request) (hx : st.turn.exit = none) :
    ∃ sent answer,
      Forwarded state events sends st (forward sdk state events sends st) sent answer := by
  induction events generalizing sends st with
  | nil =>
    refine ⟨[], none, ⟨st.turn.sawTerminal, none, ?_⟩, ?_, ?_, .refl _, ?_, ?_, ?_, ?_, ?_, ?_⟩
    · rw [← hx]; rfl
    all_goals simp [forward, messages, cancelsOf, hx, TurnEvent.updates]
  | cons event rest ih =>
    cases event with
    | update u =>
      have hs := SessionRegistry.SameTurns.bufferReserve st.sessions st.turn.sessionId
        (sdk.notificationLen st.turn.sessionId u)
      simp only [forward]
      cases hres : st.sessions.bufferReserve st.turn.sessionId
        (sdk.notificationLen st.turn.sessionId u) with
      | mk result sessions =>
        rw [hres] at hs
        cases result with
        | error overflow =>
          refine ⟨[], some (.error (overflowError overflow)),
            .of_exit .overflow ?_ ?_ ?_ ?_ ⟨_, rfl⟩ (by simp) (by simp) (by simp)⟩
          all_goals simp [respond, spawnMuxCancel, exit, hr, messages, cancelsOf,
            Exit.cancelsUpstream]
          exact hs
        | ok _ =>
          split_ifs with hsend
          · obtain ⟨sent, answer, h⟩ := ih sends.tail { st with
              sessions := sessions
              out := st.out ++ [.update st.turn.sessionId st.turn.requestId u] } hr hx
            exact ⟨u :: sent, answer, h.cons_update hs⟩
          · have hfalse : false ∈ sends := by cases sends <;> simp_all
            refine ⟨[], none,
              .of_exit .sendFailed ?_ ?_ ?_ hs rfl (by simp) (fun _ => hfalse) (by simp)⟩
            all_goals simp [exit, messages, cancelsOf, Exit.cancelsUpstream]
    | completed =>
      obtain ⟨sent, answer, h⟩ := ih sends
        { st with turn := { st.turn with sawTerminal := true } } hr hx
      exact ⟨sent, answer, h.cons_completed⟩
    | done =>
      refine ⟨[], some (.stop .endTurn),
        .of_exit .done ?_ ?_ ?_ ?_ rfl (by simp) (by simp) (by simp)⟩
      all_goals simp [forward, respond, exit, hr, messages, cancelsOf, Exit.cancelsUpstream]
      exact .refl _
    | error code message =>
      refine ⟨[], some (.error (bridgeError code message)),
        .of_exit .upstreamError ?_ ?_ ?_ ?_ ⟨_, rfl⟩ (by simp) (by simp) (by simp)⟩
      all_goals simp [forward, respond, exit, hr, messages, cancelsOf, Exit.cancelsUpstream]
      exact .refl _

section Select
variable {cancelled incomingClosed : Bool} {now turnDeadline idleDeadline : Duration}
  {ready : Option StreamItem}

theorem select_eq_cancelled :
    select cancelled incomingClosed now turnDeadline idleDeadline ready = .cancelled ↔
      cancelled = true := by
  unfold select
  split_ifs with h1 h2 h3 h4
  any_goals simp [h1]
  cases ready <;> simp

theorem select_eq_incomingClosed
    (h : select cancelled incomingClosed now turnDeadline idleDeadline ready = .incomingClosed) :
    incomingClosed = true := by
  unfold select at h
  split_ifs at h with h1 h2 h3 h4
  · exact h2
  · cases ready <;> simp at h

theorem select_eq_turnDeadline :
    select cancelled incomingClosed now turnDeadline idleDeadline ready = .turnDeadline ↔
      cancelled = false ∧ incomingClosed = false ∧ turnDeadline ≤ now := by
  unfold select
  split_ifs with h1 h2 h3 h4
  · simp [h1]
  · simp [h2]
  · simp [h1, h2, h3]
  · simp [h3]
  · cases ready <;> simp [h3]

theorem select_eq_idleDeadline :
    select cancelled incomingClosed now turnDeadline idleDeadline ready = .idleDeadline ↔
      cancelled = false ∧ incomingClosed = false ∧ now < turnDeadline ∧ idleDeadline ≤ now := by
  unfold select
  split_ifs with h1 h2 h3 h4
  · simp [h1]
  · simp [h2]
  · simp [h3]
  · simp [h1, h2, Nat.lt_of_not_le h3, h4]
  · cases ready <;> simp [h4]

theorem select_eq_item {item : StreamItem}
    (h : select cancelled incomingClosed now turnDeadline idleDeadline ready = .item item) :
    ready = some item ∧ incomingClosed = false ∧ now < turnDeadline ∧ now < idleDeadline := by
  unfold select at h
  split_ifs at h with h1 h2 h3 h4
  cases ready with
  | none => simp at h
  | some i =>
    obtain rfl : i = item := by simpa using h
    exact ⟨rfl, by simpa using h2, Nat.lt_of_not_le h3, Nat.lt_of_not_le h4⟩

end Select

section Finish
variable (st : Stretch)

@[simp] theorem finish_turn : st.finish.turn = st.turn := by
  unfold finish
  split_ifs <;> rfl

@[simp] theorem finish_out : st.finish.out = st.out := by
  unfold finish
  split_ifs <;> rfl

end Finish

/-- What a stretch takes from the stream, and the updates it queues for it. -/
inductive Took (t t' : RunTurn) (now : Duration) (ready : Option StreamItem)
    (sent : List SessionUpdate) : Prop
  | nothing (consumed : t'.consumed = t.consumed) (translator : t'.translator = t.translator)
      (saw : t'.sawTerminal = t.sawTerminal) (sent : sent = [])
      (ways : ∀ e, t'.exit = some e →
        e = .cancelled ∨ e = .hostDisconnected ∨ e = .turnTimeout ∨ e = .idleTimeout)
  | close (ready : ready = some .close) (consumed : t'.consumed = t.consumed ++ [(now, .close)])
      (translator : t'.translator = t.translator) (saw : t'.sawTerminal = t.sawTerminal)
      (sent : sent = []) (exit : t'.exit = some .streamEnd)
  | error (message : String) (ready : ready = some (.error message))
      (consumed : t'.consumed = t.consumed ++ [(now, .error message)])
      (translator : t'.translator = t.translator) (saw : t'.sawTerminal = t.sawTerminal)
      (sent : sent = []) (exit : t'.exit = some .transportError)
  | event (event : SseEvent) (ready : ready = some (.event event))
      (consumed : t'.consumed = t.consumed ++ [(now, .event event)])
      (translator : t'.translator = (t.translator.translate sdk.fromStr event).2)
      (stays : t'.exit = none →
        sent = TurnEvent.updates (t.translator.translate sdk.fromStr event).1 ∧
        t'.sawTerminal = (t.sawTerminal ||
          decide (TurnEvent.completed ∈ (t.translator.translate sdk.fromStr event).1)))
      (leaves : t'.exit = some .done →
        TurnEvent.done ∈ (t.translator.translate sdk.fromStr event).1)
      (ways : ∀ e, t'.exit = some e →
        e = .overflow ∨ e = .sendFailed ∨ e = .done ∨ e = .upstreamError)
      (sentFirst : sent <+: TurnEvent.updates (t.translator.translate sdk.fromStr event).1)

/-- What a stretch does to the task and queues for it. -/
structure Effect (t : RunTurn) (input : PollInput) (st : Stretch) (sent : List SessionUpdate)
    (answer : Option Reply) : Prop where
  request : st.turn.request = t.request
  sessionId : st.turn.sessionId = t.sessionId
  requestId : st.turn.requestId = t.requestId
  cancel : st.turn.cancel = t.cancel
  out : st.out = messages t sent answer
  cancels : st.cancels = cancelsOf state t st.turn.exit
  responder : st.turn.responder = if answer.isSome then none else some t.request
  answers : ∀ e, st.turn.exit = some e → e.Answers st.turn.sawTerminal answer
  stays : st.turn.exit = none → answer = none
  leave : st.turn.leaveTurnRegistered = decide (st.turn.exit = some .hostDisconnected)
  failed : st.turn.exit = some .sendFailed → false ∈ input.sends
  took : Took sdk t st.turn input.now input.item sent

/-- The effect of the arm that won, before the registry is told that the loop was left. -/
structure Armed (t : RunTurn) (winner : Arm) (input : PollInput) (sessions : SessionRegistry)
    (st : Stretch) (sent : List SessionUpdate) (answer : Option Reply) : Prop
    extends Effect sdk state t input st sent answer where
  sessions : sessions.SameTurns st.sessions
  cancelled : st.turn.exit = some .cancelled ↔ winner = .cancelled
  disconnected : st.turn.exit = some .hostDisconnected ↔ winner = .incomingClosed

/-- The effect of a whole stretch on the registry: the turn is ended when the loop is left,
unless the host is gone. -/
structure Polled (t : RunTurn) (input : PollInput) (sessions : SessionRegistry) (st : Stretch)
    (sent : List SessionUpdate) (answer : Option Reply) : Prop
    extends Effect sdk state t input st sent answer where
  active : ∀ s, st.sessions.active s =
    if (∃ e, st.turn.exit = some e ∧ e ≠ .hostDisconnected) ∧ s = t.sessionId ∧
        (sessions.active s).any (·.requestId == t.requestId) then none
    else sessions.active s
  tokens : st.sessions.tokens = sessions.tokens
  registry : ∃ ops, st.sessions = RegistryOp.runAll sessions ops
  cancelled : st.turn.exit = some .cancelled ↔ t.cancel ∈ sessions.tokens.fired
  disconnected : st.turn.exit = some .hostDisconnected → input.incomingClosed = true

end Stretch

/-- A task that is still running: it can answer and is registered until it is done. -/
structure RunTurn.Running (t : RunTurn) : Prop where
  exit : t.exit = none
  responder : t.responder = some t.request
  leave : t.leaveTurnRegistered = false

namespace Stretch
variable (sdk : Sdk) (state : BridgeState)

private theorem armed_of_exit {t : RunTurn} {winner : Arm} {input : PollInput}
    {sessions : SessionRegistry} {st : Stretch} {answer : Option Reply} (e : Exit)
    (hturn : st.turn = { t with
      deadlines := st.turn.deadlines
      consumed := st.turn.consumed
      responder := if answer.isSome then none else some t.request
      leaveTurnRegistered := decide (e = .hostDisconnected)
      exit := some e })
    (hout : st.out = messages t [] answer) (hcancels : st.cancels = cancelsOf state t (some e))
    (hs : st.sessions = sessions) (ha : e.Answers t.sawTerminal answer)
    (hf : e ≠ .sendFailed) (hc : e = .cancelled ↔ winner = .cancelled)
    (hd : e = .hostDisconnected ↔ winner = .incomingClosed)
    (htook : Took sdk t st.turn input.now input.item []) :
    Armed sdk state t winner input sessions st [] answer where
  request := by rw [hturn]
  sessionId := by rw [hturn]
  requestId := by rw [hturn]
  cancel := by rw [hturn]
  out := hout
  cancels := by rw [hcancels, hturn]
  responder := by rw [hturn]
  answers := by rw [hturn]; rintro _ ⟨⟩; exact ha
  stays := by rw [hturn]; simp
  leave := by rw [hturn]; simp
  failed := by rw [hturn]; exact fun hx => absurd (Option.some.inj hx) hf
  took := htook
  sessions := hs ▸ .refl _
  cancelled := by rw [hturn, ← hc]; simp
  disconnected := by rw [hturn, ← hd]; simp

attribute [local simp] arm next respond spawnMuxCancel exit messages cancelsOf streamEndOutcome
  Exit.cancelsUpstream in
theorem arm_spec {t : RunTurn} (ht : t.Running) (sessions : SessionRegistry)
    (deadlines : Option (Duration × Duration)) (input : PollInput) {winner : Arm}
    (hw : ∀ item, winner = .item item → input.item = some item) :
    ∃ sent answer, Armed sdk state t winner input sessions
      (({ sessions := sessions, turn := { t with deadlines := deadlines } } : Stretch).arm sdk state
        input.now input.sends winner) sent answer := by
  obtain ⟨hx, hr, hl⟩ := ht
  cases winner with
  | cancelled =>
    refine ⟨[], some (.stop .cancelled),
      armed_of_exit sdk state .cancelled ?_ ?_ ?_ ?_ rfl (by simp) (by simp) (by simp) ?_⟩
    all_goals simp [hr, hl]
    exact .nothing rfl rfl rfl rfl (by simp)
  | incomingClosed =>
    refine ⟨[], none,
      armed_of_exit sdk state .hostDisconnected ?_ ?_ ?_ ?_ rfl (by simp) (by simp) (by simp) ?_⟩
    all_goals simp [hr]
    exact .nothing rfl rfl rfl rfl (by simp)
  | turnDeadline =>
    refine ⟨[], some (.error (turnTimeoutError sdk state)),
      armed_of_exit sdk state .turnTimeout ?_ ?_ ?_ ?_ ⟨_, rfl⟩ (by simp) (by simp) (by simp) ?_⟩
    all_goals simp [hr, hl]
    exact .nothing rfl rfl rfl rfl (by simp)
  | idleDeadline =>
    refine ⟨[], some (.error (idleTimeoutError sdk state)),
      armed_of_exit sdk state .idleTimeout ?_ ?_ ?_ ?_ ⟨_, rfl⟩ (by simp) (by simp) (by simp) ?_⟩
    all_goals simp [hr, hl]
    exact .nothing rfl rfl rfl rfl (by simp)
  | pending =>
    refine ⟨[], none, ⟨?_, .refl _, ?_, ?_⟩⟩
    · constructor <;> simp [hx, hr, hl]
      exact .nothing rfl rfl rfl rfl (by simp)
    all_goals simp [hx]
  | item item =>
    have hready := hw item rfl
    cases item with
    | close =>
      cases hsaw : t.sawTerminal with
      | true =>
        refine ⟨[], some (.stop .endTurn),
          armed_of_exit sdk state .streamEnd ?_ ?_ ?_ ?_ ?_ (by simp) (by simp) (by simp) ?_⟩
        all_goals simp [hr, hl, hsaw, Exit.Answers]
        exact .close hready rfl rfl hsaw.symm rfl rfl
      | false =>
        refine ⟨[], some (.error (bridgeError codeStreamTruncated
            "stream ended without a terminal event")),
          armed_of_exit sdk state .streamEnd ?_ ?_ ?_ ?_ ?_ (by simp) (by simp) (by simp) ?_⟩
        all_goals simp [hr, hl, hsaw, Exit.Answers]
        exact .close hready rfl rfl hsaw.symm rfl rfl
    | error message =>
      refine ⟨[], some (.error (bridgeError codeTransportError message)), armed_of_exit sdk state
        .transportError ?_ ?_ ?_ ?_ ⟨_, rfl⟩ (by simp) (by simp) (by simp) ?_⟩
      all_goals simp [hr, hl]
      exact .error message hready rfl rfl rfl rfl rfl
    | event event =>
      let st : Stretch := { sessions := sessions, turn := { t with
        translator := (t.translator.translate sdk.fromStr event).2
        deadlines := deadlines.map fun d => (d.1, input.now + state.idleTimeout)
        consumed := t.consumed ++ [(input.now, .event event)] } }
      obtain ⟨sent, answer, h⟩ := forward_spec sdk state
        (t.translator.translate sdk.fromStr event).1 input.sends st hr hx
      change ∃ sent answer, Armed sdk state t (.item (.event event)) input sessions
        (forward sdk state (t.translator.translate sdk.fromStr event).1 input.sends st) sent answer
      generalize forward sdk state (t.translator.translate sdk.fromStr event).1 input.sends st = st'
        at h ⊢
      obtain ⟨saw, x, hturn⟩ := h.turn
      have hother : ∀ e, e = .cancelled ∨ e = .hostDisconnected → st'.turn.exit ≠ some e := by
        rintro e he hex
        rcases h.ways e hex with rfl | rfl | rfl | rfl <;> simp at he
      exact ⟨sent, answer, {
        request := by rw [hturn]
        sessionId := by rw [hturn]
        requestId := by rw [hturn]
        cancel := by rw [hturn]
        out := h.out
        cancels := h.cancels
        responder := by rw [hturn, ← hr]
        answers := h.answers
        stays := fun hx' => (h.stays hx').1
        leave := by
          rw [decide_eq_false (hother _ (.inr rfl)), hturn]
          exact hl
        failed := h.failed
        sessions := h.sessions
        cancelled := iff_of_false (hother _ (.inl rfl)) (by simp)
        disconnected := iff_of_false (hother _ (.inr rfl)) (by simp)
        took := .event event hready (by rw [hturn]) (by rw [hturn]) (fun hx' => (h.stays hx').2)
          h.leaves h.ways h.sentFirst }⟩

theorem finish_spec {t : RunTurn} {winner : Arm} {input : PollInput} {sessions : SessionRegistry}
    {st : Stretch} {sent : List SessionUpdate} {answer : Option Reply}
    (h : Armed sdk state t winner input sessions st sent answer)
    (hc : winner = .cancelled ↔ t.cancel ∈ sessions.tokens.fired)
    (hd : winner = .incomingClosed → input.incomingClosed = true) :
    Polled sdk state t input sessions st.finish sent answer := by
  have hleft : (∃ e, st.turn.exit = some e ∧ e ≠ .hostDisconnected) ↔
      (st.turn.exit.isSome && !st.turn.leaveTurnRegistered) = true := by
    rw [h.leave]
    cases st.turn.exit with
    | none => simp
    | some e => simp
  by_cases hfin : (st.turn.exit.isSome && !st.turn.leaveTurnRegistered) = true
  · have hst : st.finish = { st with
        sessions := st.sessions.endTurn st.turn.sessionId st.turn.requestId } := by
      rw [finish, if_pos hfin]
    rw [hst]
    refine { h.toEffect with
      active := fun s => ?_, tokens := ?_, registry := ?_,
      cancelled := h.cancelled.trans hc, disconnected := fun hx => hd (h.disconnected.mp hx) }
    · simp only [SessionRegistry.endTurn_active, hleft.mpr hfin, true_and, h.sessions.spec.1,
        h.sessionId, h.requestId]
      rcases eq_or_ne s t.sessionId with rfl | hs
      · rfl
      · rw [if_neg fun hx => hs hx.1, if_neg fun hx => hs hx.1]
    · simp only [SessionRegistry.endTurn_tokens, h.sessions.spec.2]
    · obtain ⟨ops, _, hops⟩ := h.sessions
      exact ⟨ops ++ [.endTurn st.turn.sessionId st.turn.requestId], by
        rw [hops]; simp [RegistryOp.runAll, RegistryOp.run]⟩
  · have hst : st.finish = st := by rw [finish, if_neg hfin]
    obtain ⟨ops, _, hops⟩ := h.sessions
    rw [hst]
    exact { h.toEffect with
      active := fun s => by
        rw [if_neg fun hx => hfin (hleft.mp hx.1)]
        exact h.sessions.spec.1 s
      tokens := h.sessions.spec.2
      registry := ⟨ops, hops⟩
      cancelled := h.cancelled.trans hc
      disconnected := fun hx => hd (h.disconnected.mp hx) }

end Stretch

/-- The specification of a stretch. -/
theorem RunTurn.poll_spec (sdk : Sdk) (state : BridgeState) {t : RunTurn} (ht : t.Running)
    (sessions : SessionRegistry) (input : PollInput) : ∃ sent answer,
    Stretch.Polled sdk state t input sessions (t.poll sdk state sessions input) sent answer := by
  obtain ⟨sent, answer, h⟩ := Stretch.arm_spec sdk state ht sessions
    (some (t.deadlines.getD (input.now + state.turnTimeout, input.now + state.idleTimeout))) input
    fun item hw => (Stretch.select_eq_item hw).1
  refine ⟨sent, answer, Stretch.finish_spec sdk state h ?_ Stretch.select_eq_incomingClosed⟩
  simp [Stretch.select_eq_cancelled, CancellationTokens.isCancelled]

end AcpBridge
