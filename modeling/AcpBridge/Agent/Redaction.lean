import AcpBridge.Buzz.Redaction
import AcpBridge.Translate.Framing
import AcpBridge.Agent.Log
import AcpBridge.Agent.Outbound

/-! The log of the bridge tells nothing of the conversation: runs whose prompts, frames and
failures differ in what they say, but not in form and size, are logged alike. -/
namespace AcpBridge

/-- Two updates of one size, whatever session they are sent to. -/
def Sdk.Weighs (sdk : Sdk) (update update' : SessionUpdate) : Prop :=
  ∀ s, sdk.notificationLen s update = sdk.notificationLen s update'

section Twins
variable (sdk : Sdk)

/-- Events of one kind; updates have one size, errors one code and messages of one length. -/
inductive TurnEvent.Twin : TurnEvent → TurnEvent → Prop
  | update {u u' : SessionUpdate} (h : sdk.Weighs u u') : Twin (.update u) (.update u')
  | completed : Twin .completed .completed
  | done : Twin .done .done
  | error (code : String) {message message' : String}
      (h : Str.len message.toList = Str.len message'.toList) :
      Twin (.error code message) (.error code message')

/-- Payloads that say the same but for their texts. -/
inductive Meaning.Twin : Meaning → Meaning → Prop
  | text {text text' : String} (hempty : text = "" ↔ text' = "")
      (h : sdk.Weighs (.agentMessageChunk text) (.agentMessageChunk text')) :
      Twin (.text text) (.text text')
  | thought {text text' : String}
      (h : sdk.Weighs (.agentThoughtChunk text) (.agentThoughtChunk text')) :
      Twin (.thought text) (.thought text')
  | plan {text text' : String}
      (h : sdk.Weighs (.plan [⟨text, .medium, .inProgress⟩])
        (.plan [⟨text', .medium, .inProgress⟩])) : Twin (.plan text) (.plan text')
  | tool (id : String) {title title' : String} {status status' : Option ToolCallStatus}
      {content content' : Option String}
      (hfirst : sdk.Weighs
        (.toolCall ⟨id, title, status.getD .inProgress, (content.map fun text => [text]).getD []⟩)
        (.toolCall ⟨id, title', status'.getD .inProgress,
          (content'.map fun text => [text]).getD []⟩))
      (hlater : sdk.Weighs (.toolCallUpdate ⟨id, status, content.map fun text => [text]⟩)
        (.toolCallUpdate ⟨id, status', content'.map fun text => [text]⟩)) :
      Twin (.tool id title status content) (.tool id title' status' content')
  | completed (discontinuity : Bool) {text text' : String} (hempty : text = "" ↔ text' = "")
      (h : sdk.Weighs (.agentMessageChunk text) (.agentMessageChunk text'))
      (hbroken : sdk.Weighs (.agentMessageChunk ("\n\n" ++ text))
        (.agentMessageChunk ("\n\n" ++ text'))) :
      Twin (.completed text discontinuity) (.completed text' discontinuity)
  | failure (code : String) {message message' : String}
      (h : Str.len message.toList = Str.len message'.toList) :
      Twin (.failure code message) (.failure code message')
  | nothing : Twin .nothing .nothing

/-- Frames that differ in their texts only. -/
structure SseEvent.Twin (event event' : SseEvent) : Prop where
  notice : List.Forall₂ (TurnEvent.Twin sdk) (event.notice sdk.fromStr)
    (event'.notice sdk.fromStr)
  meaning : Meaning.Twin sdk (event.payload sdk.fromStr).meaning
    (event'.payload sdk.fromStr).meaning

inductive StreamItem.Twin : StreamItem → StreamItem → Prop
  | close : Twin .close .close
  | error (message message' : String) : Twin (.error message) (.error message')
  | event {event event' : SseEvent} (h : SseEvent.Twin sdk event event') :
      Twin (.event event) (.event event')

/-- Events that differ in the conversation only: the text of a prompt and what the stream
delivers. -/
inductive Event.Twin (σ : Str → Str) : Event → Event → Prop
  | prompt (s r : String) {prompt prompt' : List ContentBlock}
      (h : Alike (TextTwin σ) (promptText prompt) (promptText prompt')) :
      Twin σ (.prompt s r prompt) (.prompt s r prompt')
  | poll (i : ℕ) (now : Duration) {item item' : Option StreamItem} (sends : List Bool)
      (h : Option.Rel (StreamItem.Twin sdk) item item') :
      Twin σ (.poll i now item sends) (.poll i now item' sends)
  | same (ev : Event) (hp : ∀ s r prompt, ev ≠ .prompt s r prompt)
      (hi : ∀ i now item sends, ev ≠ .poll i now item sends) : Twin σ ev ev

end Twins

/-- Tasks that differ in what they were asked, for whom, and what they took. -/
def RunTurn.Twin (t t' : RunTurn) : Prop := ∃ userId payload consumed,
  t' = { t with userId := userId, payload := payload, consumed := consumed }

/-- Messages of one kind to one addressee. -/
inductive Outgoing.Twin : Outgoing → Outgoing → Prop
  | update (s r : String) (u u' : SessionUpdate) : Twin (.update s r u) (.update s r u')
  | response (n : ℕ) (reply reply' : Reply) : Twin (.response n reply) (.response n reply')

/-- The texts of the errors do not tell what could not be sent. -/
def Outcomes.Blind (outcomes : Outcomes) : Prop := ∀ m m', Outgoing.Twin m m' →
  outcomes.sendError m = outcomes.sendError m' ∧ outcomes.respondError m = outcomes.respondError m'

structure Stretch.Twin (st st' : Stretch) : Prop where
  sessions : st.sessions = st'.sessions
  turn : st.turn.Twin st'.turn
  out : List.Forall₂ Outgoing.Twin st.out st'.out
  cancels : st.cancels = st'.cancels

/-- Bridges that differ in the conversation only. -/
structure Bridge.Twin (b b' : Bridge) : Prop where
  sessions : b.sessions = b'.sessions
  turns : List.Forall₂ RunTurn.Twin b.turns b'.turns
  out : List.Forall₂ Outgoing.Twin b.out b'.out
  written : b.written = b'.written
  cancels : b.cancels = b'.cancels
  requests : b.requests = b'.requests
  incomingClosed : b.incomingClosed = b'.incomingClosed
  down : b.down = b'.down

section Frames
variable {sdk : Sdk}

theorem messageChunk_twin {text text' : String} (hempty : text = "" ↔ text' = "")
    (h : sdk.Weighs (.agentMessageChunk text) (.agentMessageChunk text')) :
    List.Forall₂ (TurnEvent.Twin sdk) (messageChunk text) (messageChunk text') := by
  unfold messageChunk
  by_cases ht : text = ""
  · rw [if_pos ht, if_pos (hempty.mp ht)]
    exact .nil
  · rw [if_neg ht, if_neg (mt hempty.mpr ht)]
    exact .cons (.update h) .nil

theorem act_twin (t : Translator) {m m' : Meaning} (h : Meaning.Twin sdk m m') :
    List.Forall₂ (TurnEvent.Twin sdk) (t.act m).1 (t.act m').1 ∧ (t.act m).2 = (t.act m').2 := by
  cases h with
  | text hempty h => exact ⟨messageChunk_twin hempty h, rfl⟩
  | thought h =>
    refine ⟨?_, rfl⟩
    simp only [Translator.act]
    split_ifs
    · exact .cons (.update h) .nil
    · exact .nil
  | plan h => exact ⟨.cons (.update h) .nil, rfl⟩
  | tool id hfirst hlater =>
    simp only [Translator.act]
    split_ifs
    · exact ⟨.cons (.update hlater) .nil, rfl⟩
    · exact ⟨.cons (.update hfirst) .nil, rfl⟩
  | @completed discontinuity text text' hempty h hbroken =>
    refine ⟨?_, rfl⟩
    have hwithholds : t.Withholds text discontinuity ↔ t.Withholds text' discontinuity := by
      rw [Translator.Withholds, Translator.Withholds, hempty]
    have hchunk : List.Forall₂ (TurnEvent.Twin sdk)
        (messageChunk (if t.streamedContent then "\n\n" ++ text else text))
        (messageChunk (if t.streamedContent then "\n\n" ++ text' else text')) := by
      split_ifs
      · exact messageChunk_twin (by simp) hbroken
      · exact messageChunk_twin hempty h
    simp only [Translator.act]
    by_cases hw : t.Withholds text discontinuity
    · rw [if_pos hw, if_pos (hwithholds.mp hw)]
      exact .cons .completed .nil
    · rw [if_neg hw, if_neg (mt hwithholds.mpr hw)]
      exact List.rel_append hchunk (.cons .completed .nil)
  | failure code h => exact ⟨.cons (.error code h) .nil, rfl⟩
  | nothing => exact ⟨.nil, rfl⟩

theorem translate_twin (t : Translator) {event event' : SseEvent}
    (h : SseEvent.Twin sdk event event') :
    List.Forall₂ (TurnEvent.Twin sdk) (t.translate sdk.fromStr event).1
        (t.translate sdk.fromStr event').1 ∧
      (t.translate sdk.fromStr event).2 = (t.translate sdk.fromStr event').2 := by
  obtain ⟨hout, hnext⟩ := act_twin t h.meaning
  rw [Translator.translate_eq_act, Translator.translate_eq_act]
  exact ⟨List.rel_append h.notice hout, hnext⟩

end Frames

theorem RunTurn.Twin.ids {t t' : RunTurn} (h : t.Twin t') : t.ids = t'.ids := by
  obtain ⟨userId, payload, consumed, rfl⟩ := h
  rfl

namespace Stretch
variable {sdk : Sdk} {state : BridgeState} {st st' : Stretch}

namespace Twin

theorem exit (h : st.Twin st') (reason : Exit) : (st.exit reason).Twin (st'.exit reason) := by
  obtain ⟨userId, payload, consumed, ht⟩ := h.turn
  exact ⟨h.sessions, ⟨userId, payload, consumed, by rw [Stretch.exit, ht]; rfl⟩, h.out, h.cancels⟩

theorem respond (h : st.Twin st') (reply reply' : Reply) :
    (st.respond reply).Twin (st'.respond reply') := by
  obtain ⟨userId, payload, consumed, ht⟩ := h.turn
  have hresponder : st'.turn.responder = st.turn.responder := by rw [ht]
  unfold Stretch.respond
  rw [hresponder]
  cases hr : st.turn.responder with
  | none => exact h
  | some request =>
    refine ⟨h.sessions, ⟨userId, payload, consumed, by rw [ht]⟩, ?_, h.cancels⟩
    exact List.rel_append h.out (.cons (.response request reply reply') .nil)

theorem spawnMuxCancel (h : st.Twin st') :
    (st.spawnMuxCancel state).Twin (st'.spawnMuxCancel state) := by
  obtain ⟨userId, payload, consumed, ht⟩ := h.turn
  refine ⟨h.sessions, h.turn, h.out, ?_⟩
  simp only [Stretch.spawnMuxCancel, h.cancels, ht]

theorem withSessions (h : st.Twin st') (sessions : SessionRegistry) :
    ({ st with sessions := sessions } : Stretch).Twin { st' with sessions := sessions } :=
  ⟨rfl, h.turn, h.out, h.cancels⟩

end Twin

theorem forward_twin {events events' : List TurnEvent}
    (he : List.Forall₂ (TurnEvent.Twin sdk) events events') (sends : List Bool)
    (h : st.Twin st') :
    (forward sdk state events sends st).Twin (forward sdk state events' sends st') := by
  induction he generalizing sends st st' with
  | nil => exact h
  | @cons event event' rest rest' hevent _ ih =>
    obtain ⟨userId, payload, consumed, ht⟩ := h.turn
    have hid : st'.turn.sessionId = st.turn.sessionId := by rw [ht]
    have hrequest : st'.turn.requestId = st.turn.requestId := by rw [ht]
    cases hevent with
    | @update u u' hsize =>
      simp only [forward]
      rw [hid, hrequest, ← hsize, ← h.sessions]
      cases hres : st.sessions.bufferReserve st.turn.sessionId
        (sdk.notificationLen st.turn.sessionId u) with
      | mk result sessions =>
        cases result with
        | error overflow => exact (((h.withSessions sessions).spawnMuxCancel).respond _ _).exit _
        | ok _ =>
          simp only
          split_ifs
          · apply ih
            refine ⟨rfl, h.turn, ?_, h.cancels⟩
            exact List.rel_append h.out (.cons (.update _ _ u u') .nil)
          · exact (h.withSessions sessions).exit _
    | completed =>
      simp only [forward]
      apply ih
      exact ⟨h.sessions, ⟨userId, payload, consumed, by rw [ht]⟩, h.out, h.cancels⟩
    | done => exact (h.respond _ _).exit _
    | error code hlen => exact (h.respond _ _).exit _

theorem finishLog_twin {outcomes : Outcomes} (hb : outcomes.Blind) {turn turn' : RunTurn}
    (ht : turn.Twin turn') (reply reply' : Reply) :
    finishLog outcomes turn reply = finishLog outcomes turn' reply' := by
  obtain ⟨userId, payload, consumed, rfl⟩ := ht
  simp only [finishLog]
  cases turn.responder with
  | none => rfl
  | some request => simp only [(hb _ _ (.response request reply reply')).2]

theorem forwardLog_twin {outcomes : Outcomes} (hb : outcomes.Blind) {turn turn' : RunTurn}
    (ht : turn.Twin turn') {events events' : List TurnEvent}
    (he : List.Forall₂ (TurnEvent.Twin sdk) events events') (sends : List Bool)
    (sessions : SessionRegistry) :
    forwardLog sdk state outcomes turn events sends sessions =
      forwardLog sdk state outcomes turn' events' sends sessions := by
  have hids := ht.ids
  have hfinish := finishLog_twin hb ht
  obtain ⟨userId, payload, consumed, rfl⟩ := ht
  induction he generalizing sends sessions with
  | nil => rfl
  | @cons event event' rest rest' hevent _ ih =>
    cases hevent with
    | @update u u' hsize =>
      simp only [forwardLog]
      rw [← hsize]
      cases sessions.bufferReserve turn.sessionId (sdk.notificationLen turn.sessionId u) with
      | mk result sessions =>
        cases result with
        | error overflow => rfl
        | ok _ =>
          simp only [ih, (hb _ _ (.update turn.sessionId turn.requestId u u')).1]
    | completed => exact ih sends sessions
    | done => rfl
    | error code hlen =>
      simp only [forwardLog, hids, hlen]
      exact congrArg _ (hfinish _ _)

/-- Arms that differ in what the stream delivered only. -/
inductive Arm.Twin (sdk : Sdk) : Arm → Arm → Prop
  | item {item item' : StreamItem} (h : StreamItem.Twin sdk item item') :
      Twin sdk (.item item) (.item item')
  | same (winner : Arm) (hi : ∀ item, winner ≠ .item item) : Twin sdk winner winner

theorem select_twin (cancelled incomingClosed : Bool) (now turnDeadline idleDeadline : Duration)
    {item item' : Option StreamItem} (h : Option.Rel (StreamItem.Twin sdk) item item') :
    Arm.Twin sdk (select cancelled incomingClosed now turnDeadline idleDeadline item)
      (select cancelled incomingClosed now turnDeadline idleDeadline item') := by
  unfold select
  split_ifs
  any_goals exact .same _ (by simp)
  cases h with
  | none => exact .same .pending (by simp)
  | some h => exact .item h

theorem arm_twin (h : st.Twin st') (now : Duration) (sends : List Bool) {winner winner' : Arm}
    (hw : winner.Twin sdk winner') :
    (st.arm sdk state now sends winner).Twin (st'.arm sdk state now sends winner') := by
  obtain ⟨userId, payload, consumed, ht⟩ := h.turn
  have htaken : ∀ item item',
      ({ st with turn := { st.turn with consumed := st.turn.consumed ++ [(now, item)] } } :
        Stretch).Twin
      { st' with turn := { st'.turn with consumed := st'.turn.consumed ++ [(now, item')] } } := by
    intro item item'
    exact ⟨h.sessions, ⟨userId, payload, consumed ++ [(now, item')], by rw [ht]⟩, h.out, h.cancels⟩
  cases hw with
  | item hitem =>
    cases hitem with
    | close =>
      have hsaw : streamEndOutcome st'.turn.sawTerminal =
          streamEndOutcome st.turn.sawTerminal := by rw [ht]
      simp only [arm, next]
      generalize streamEndOutcome st'.turn.sawTerminal = outcome at hsaw ⊢
      subst hsaw
      cases streamEndOutcome st.turn.sawTerminal with
      | ok reason => exact ((htaken .close .close).respond _ _).exit _
      | error err => exact ((htaken .close .close).respond _ _).exit _
    | error message message' =>
      exact ((htaken (.error message) (.error message')).respond _ _).exit _
    | @event event event' hevent =>
      obtain ⟨hevents, hnext⟩ := translate_twin st.turn.translator hevent
      have htranslator : st'.turn.translator = st.turn.translator := by rw [ht]
      simp only [arm, next, htranslator]
      apply forward_twin hevents
      refine ⟨h.sessions, ⟨userId, payload, consumed ++ [(now, .event event')], ?_⟩, h.out,
        h.cancels⟩
      simp only [ht, hnext]
  | same winner hi =>
    cases winner with
    | cancelled => exact (h.respond _ _).exit _
    | incomingClosed =>
      have hleft : ({ st with turn := { st.turn with leaveTurnRegistered := true } } :
          Stretch).Twin { st' with turn := { st'.turn with leaveTurnRegistered := true } } :=
        ⟨h.sessions, ⟨userId, payload, consumed, by rw [ht]⟩, h.out, h.cancels⟩
      exact hleft.exit _
    | turnDeadline => exact (h.spawnMuxCancel.respond _ _).exit _
    | idleDeadline => exact (h.spawnMuxCancel.respond _ _).exit _
    | item item => exact absurd rfl (hi item)
    | pending => exact h

theorem armLog_twin {outcomes : Outcomes} (hb : outcomes.Blind) {turn turn' : RunTurn}
    (ht : turn.Twin turn') (sessions : SessionRegistry) (sends : List Bool)
    {winner winner' : Arm} (hw : winner.Twin sdk winner') :
    armLog sdk state outcomes sessions turn sends winner =
      armLog sdk state outcomes sessions turn' sends winner' := by
  have hids := ht.ids
  have hfinish := finishLog_twin hb ht
  have htwin := ht
  obtain ⟨userId, payload, consumed, rfl⟩ := ht
  cases hw with
  | item hitem =>
    cases hitem with
    | close => rfl
    | error message message' =>
      simp only [armLog, hids]
      exact congrArg _ (hfinish _ _)
    | event hevent =>
      exact forwardLog_twin hb htwin (translate_twin turn.translator hevent).1 sends sessions
  | same winner hi =>
    cases winner with
    | item item => exact absurd rfl (hi item)
    | _ => rfl

theorem finish_twin (h : st.Twin st') : st.finish.Twin st'.finish := by
  obtain ⟨userId, payload, consumed, ht⟩ := h.turn
  unfold finish
  rw [ht, h.sessions]
  split_ifs
  · exact ⟨rfl, ⟨userId, payload, consumed, rfl⟩, h.out, h.cancels⟩
  · exact h

end Stretch

/-- A stretch of such tasks under such inputs: they go on alike and are logged alike. -/
theorem RunTurn.Twin.poll {sdk : Sdk} {state : BridgeState} {outcomes : Outcomes}
    (hb : outcomes.Blind) {t t' : RunTurn} (h : t.Twin t') (sessions : SessionRegistry)
    (incomingClosed : Bool) (now : Duration) (sends : List Bool)
    {item item' : Option StreamItem} (hi : Option.Rel (StreamItem.Twin sdk) item item') :
    (t.poll sdk state sessions ⟨incomingClosed, now, item, sends⟩).Twin
        (t'.poll sdk state sessions ⟨incomingClosed, now, item', sends⟩) ∧
      t.log sdk state outcomes sessions ⟨incomingClosed, now, item, sends⟩ =
        t'.log sdk state outcomes sessions ⟨incomingClosed, now, item', sends⟩ := by
  have htwin := h
  obtain ⟨userId, payload, consumed, rfl⟩ := h
  have hw := Stretch.select_twin (sessions.tokens.isCancelled t.cancel) incomingClosed now
    (t.deadlinesAt state now).1 (t.deadlinesAt state now).2 hi
  constructor
  · rw [poll_eq, poll_eq]
    apply Stretch.finish_twin
    apply Stretch.arm_twin _ now sends hw
    exact ⟨rfl, ⟨userId, payload, consumed, rfl⟩, .nil, rfl⟩
  · exact Stretch.armLog_twin hb htwin sessions sends hw

theorem Outgoing.Twin.noteLineWritten {sdk : Sdk} (hf : ∀ m, sdk.Frames m) {m m' : Outgoing}
    (h : m.Twin m') (sessions : SessionRegistry) :
    AcpBridge.noteLineWritten sdk sessions (sdk.line m) =
      AcpBridge.noteLineWritten sdk sessions (sdk.line m') := by
  cases h with
  | update s r u u' =>
    rw [noteLineWritten_update sessions (hf _), noteLineWritten_update sessions (hf _)]
  | response n reply reply' =>
    rw [noteLineWritten_response sessions (hf _), noteLineWritten_response sessions (hf _)]

theorem userIdLog_twin (state : BridgeState) {σ : Str → Str} (hσ : Function.Injective σ)
    (s : String) {text text' : String} (h : TextTwin σ text text') :
    state.userIdLog s text = state.userIdLog s text' := by
  unfold BridgeState.userIdLog
  split_ifs
  · rfl
  · cases state.hostExtractor with
    | none => rfl
    | some extractor =>
      have htwin := extractor.tryExtract_twin hσ h
      simp only
      generalize extractor.tryExtract text = result at htwin ⊢
      generalize extractor.tryExtract text' = result' at htwin ⊢
      cases htwin with
      | error reason => rfl
      | ok hnotes => simp only [extractionLog, hnotes]

namespace Bridge
variable {sdk : Sdk} {state : BridgeState} {outcomes : Outcomes} {σ : Str → Str} {b b' : Bridge}

namespace Twin

theorem reply (h : b.Twin b') (reply reply' : Reply) : (b.reply reply).Twin (b'.reply reply') := by
  refine ⟨h.sessions, h.turns, ?_, h.written, h.cancels, ?_, h.incomingClosed, h.down⟩
  · simp only [Bridge.reply, h.requests]
    exact List.rel_append h.out (.cons (.response b'.requests reply reply') .nil)
  · simp only [Bridge.reply, h.requests]

theorem withSessions (h : b.Twin b') (sessions : SessionRegistry) :
    ({ b with sessions := sessions } : Bridge).Twin { b' with sessions := sessions } :=
  ⟨rfl, h.turns, h.out, h.written, h.cancels, h.requests, h.incomingClosed, h.down⟩

theorem spawnMuxCancel (h : b.Twin b') (s : String) (turn : Option ActiveTurn) :
    (b.spawnMuxCancel state s turn).Twin (b'.spawnMuxCancel state s turn) := by
  cases turn with
  | none => exact h
  | some turn =>
    refine ⟨h.sessions, h.turns, h.out, h.written, ?_, h.requests, h.incomingClosed, h.down⟩
    simp only [Bridge.spawnMuxCancel, h.cancels]

theorem remove (h : b.Twin b') (s : String) (answer : Reply) :
    (b.handleRemove state s answer).Twin (b'.handleRemove state s answer) := by
  unfold handleRemove
  rw [← h.sessions]
  exact ((h.withSessions _).spawnMuxCancel s _).reply answer answer

theorem prompt (hσ : Function.Injective σ) (h : b.Twin b') (s r : String)
    {blocks blocks' : List ContentBlock}
    (hp : Alike (TextTwin σ) (promptText blocks) (promptText blocks')) :
    b.promptLog state s r blocks = b'.promptLog state s r blocks' ∧
      (b.handlePrompt state s r blocks).Twin (b'.handlePrompt state s r blocks') := by
  unfold promptLog handlePrompt
  rw [← h.sessions]
  by_cases hc : (!b.sessions.contains s) = true
  · rw [if_pos hc, if_pos hc, if_pos hc, if_pos hc]
    exact ⟨rfl, h.reply _ _⟩
  · rw [if_neg hc, if_neg hc, if_neg hc, if_neg hc]
    generalize promptText blocks = result at hp ⊢
    generalize promptText blocks' = result' at hp ⊢
    cases hp with
    | error kind => exact ⟨rfl, h.reply _ _⟩
    | @ok text text' htext =>
      simp only
      rcases b.sessions.beginTurn s r with ⟨err | cancel, sessions⟩
      · exact ⟨rfl, (h.withSessions sessions).reply _ _⟩
      · constructor
        · simp only [htext.1, userIdLog_twin state hσ s htext]
        · refine ⟨rfl, ?_, h.out, h.written, h.cancels, ?_, h.incomingClosed, h.down⟩
          · apply List.rel_append h.turns
            refine .cons ⟨state.userIdForTurn s text', chatPayload text' s r state.agentId, [], ?_⟩
              .nil
            simp only [newTurn, h.requests]
          · simp only [h.requests]

theorem poll (hb : outcomes.Blind) (h : b.Twin b') (i : ℕ) (now : Duration) (sends : List Bool)
    {item item' : Option StreamItem} (hi : Option.Rel (StreamItem.Twin sdk) item item') :
    b.log sdk state outcomes (.poll i now item sends) =
        b'.log sdk state outcomes (.poll i now item' sends) ∧
      (b.pollTurn sdk state i now item sends).Twin (b'.pollTurn sdk state i now item' sends) := by
  have hturn := h.turns.getElem? i
  unfold pollTurn
  simp only [log]
  generalize b.turns[i]? = found at hturn ⊢
  generalize b'.turns[i]? = found' at hturn ⊢
  cases hturn with
  | none => exact ⟨rfl, h⟩
  | @some t t' ht =>
    have hexit : t'.exit = t.exit := by
      obtain ⟨_, _, _, rfl⟩ := ht
      rfl
    simp only [hexit, ← h.sessions, ← h.incomingClosed]
    split_ifs
    · exact ⟨rfl, h⟩
    · obtain ⟨hst, hlog⟩ := ht.poll hb b.sessions b.incomingClosed now sends hi
      refine ⟨hlog, hst.sessions, ?_, ?_, h.written, ?_, h.requests, rfl, h.down⟩
      · exact h.turns.set i hst.turn
      · exact List.rel_append h.out hst.out
      · simp only [h.cancels, hst.cancels]

theorem writeLine (hf : ∀ m, sdk.Frames m) (h : b.Twin b') :
    (b.writeLine sdk).Twin (b'.writeLine sdk) := by
  have hline := h.out.getElem? b.written
  unfold Bridge.writeLine
  rw [← h.written]
  generalize b.out[b.written]? = found at hline ⊢
  generalize b'.out[b.written]? = found' at hline ⊢
  cases hline with
  | none => exact h
  | some hm =>
    refine ⟨?_, h.turns, h.out, rfl, h.cancels, h.requests, h.incomingClosed, h.down⟩
    simp only [← h.sessions]
    exact hm.noteLineWritten hf b.sessions

/-- What every step keeps: such bridges take such events alike, and are logged alike. -/
theorem step (hf : ∀ m, sdk.Frames m) (hσ : Function.Injective σ) (hb : outcomes.Blind)
    (h : b.Twin b') {ev ev' : Event} (he : Event.Twin sdk σ ev ev') :
    b.log sdk state outcomes ev = b'.log sdk state outcomes ev' ∧
      (b.step sdk state ev).Twin (b'.step sdk state ev') := by
  cases he with
  | prompt s r hp => exact h.prompt hσ s r hp
  | poll i now sends hi => exact h.poll hb i now sends hi
  | same ev hp hi =>
    cases ev with
    | prompt s r prompt => exact absurd rfl (hp s r prompt)
    | poll i now item sends => exact absurd rfl (hi i now item sends)
    | newSession id cwd =>
      refine ⟨by simp only [log, h.sessions], ?_⟩
      simp only [Bridge.step, handleNewSession, ← h.sessions]
      rcases b.sessions.create id cwd with ⟨err | sessionId, sessions⟩
      · exact (h.withSessions sessions).reply _ _
      · exact (h.withSessions sessions).reply _ _
    | resumeSession s cwd =>
      refine ⟨by simp only [log, h.sessions], ?_⟩
      simp only [Bridge.step, handleResume, ← h.sessions]
      rcases b.sessions.resume s cwd with ⟨err | _, sessions⟩
      · exact (h.withSessions sessions).reply _ _
      · exact (h.withSessions sessions).reply _ _
    | cancel s =>
      refine ⟨by simp only [log, h.sessions], ?_⟩
      simp only [Bridge.step, handleCancel, ← h.sessions]
      exact (h.withSessions _).spawnMuxCancel s _
    | listSessions => exact ⟨rfl, h.reply _ _⟩
    | closeSession s => exact ⟨by simp only [log, h.sessions], h.remove s .closed⟩
    | deleteSession s => exact ⟨by simp only [log, h.sessions], h.remove s .deleted⟩
    | lineWritten => exact ⟨rfl, h.writeLine hf⟩
    | incomingClosed =>
      exact ⟨rfl, h.sessions, h.turns, h.out, h.written, h.cancels, h.requests, rfl, h.down⟩
    | shutdown =>
      refine ⟨by simp only [log, shutdownLog, h.sessions], ?_⟩
      simp only [Bridge.step, Bridge.shutdown, ← h.sessions]
      refine ⟨rfl, h.turns, h.out, h.written, ?_, h.requests, h.incomingClosed, rfl⟩
      simp only [h.cancels]

end Twin

/-- The log tells nothing of the conversation: two runs with the same steps, whose prompts have
lines of the same form and length and whose streams deliver texts of the same size, are logged
line by line alike, given that the errors of the SDK do not quote the messages it could not
send. Of what the formation reports only the codes of its errors are told. -/
theorem logs_blind (sdk : Sdk) (state : BridgeState) (limits : Limits)
    (hf : ∀ m, sdk.Frames m) (hσ : Function.Injective σ) {steps steps' : List (Event × Outcomes)}
    (hblind : ∀ step ∈ steps, step.2.Blind)
    (h : List.Forall₂ (fun step step' => Event.Twin sdk σ step.1 step'.1 ∧ step.2 = step'.2)
      steps steps') :
    logs sdk state (bridgeSystem sdk state limits).init steps =
      logs sdk state (bridgeSystem sdk state limits).init steps' := by
  have hinit : (bridgeSystem sdk state limits).init.Twin (bridgeSystem sdk state limits).init :=
    ⟨rfl, .nil, .nil, rfl, rfl, rfl, rfl, rfl⟩
  refine (Mealy.run_related ?_ hinit ((List.forall₂_and_left _ _).mpr ⟨hblind, h⟩)).1
  rintro b b' ⟨ev, outcomes⟩ ⟨ev', _⟩ hb ⟨hstep, he, rfl⟩
  exact hb.step hf hσ hstep he

/-- The string field of an object with this one field. -/
def readField (key text : String) : Option String :=
  ((Str.stripPrefix text.toList ("\x7b\"" ++ key ++ "\":\"").toList).bind
    (Str.stripSuffix · "\"\x7d".toList)).map String.ofList

/-- Libraries for frames with one text field. -/
def fieldSdk : Sdk where
  fromStr text :=
    match Str.stripPrefix text.toList "\"session/update\"".toList with
    | some s => some (.object [("method", .string "session/update"),
        ("params", .object [("sessionId", .string (String.ofList s))])])
    | none => ["token", "error"].findSome? fun key =>
        (readField key text).map fun value => .object [(key, .string value)]
  notificationLen
    | _, .agentMessageChunk text => Fin.ofNat _ text.utf8ByteSize
    | _, _ => 0
  line
    | .update s _ _ => "\"session/update\"" ++ s
    | .response _ _ => ""
  formatDuration _ := "30m"

theorem fieldSdk_frames : ∀ m, fieldSdk.Frames m
  | .update s r u => by
    have hline : (fieldSdk.line (.update s r u)).toList =
        "\"session/update\"".toList ++ s.toList := String.toList_append
    have hsplit : Str.splitOnce ([] ++ "\"session/update\"".toList ++ s.toList)
        "\"session/update\"".toList = some ([], s.toList) := Str.splitOnce_append (by simp)
    refine ⟨by rw [hline, ← List.nil_append (_ ++ _), ← List.append_assoc, hsplit]; rfl, ?_⟩
    refine ⟨.object [("method", .string "session/update"),
      ("params", .object [("sessionId", .string s)])], ?_, rfl, rfl⟩
    simp only [fieldSdk] at hline ⊢
    rw [hline, Str.stripPrefix_append]
    simp only [String.ofList_toList]
  | .response n reply => by
    have hnone : fieldSdk.fromStr "" = none := by decide +kernel
    intro v hv
    have hsome : fieldSdk.fromStr "" = some v := hv
    simp [hnone] at hsome

/-- The host goes away before the answer. -/
def goneOutcomes : Outcomes where
  sendError _ := "Error \x7b code: InternalError, message: \"Internal error\", data: None \x7d"
  respondError _ :=
    some "Error \x7b code: InternalError, message: \"Internal error\", data: None \x7d"

/-- A turn that streams one delta and then fails. -/
def failingRun (text delta message : String) : List (Event × Outcomes) :=
  [(.newSession "s" "/tmp", {}), (.prompt "s" "r" [.text text], {}),
    (.poll 0 0 (some (.event ⟨"message", "\x7b\"token\":\"" ++ delta ++ "\"\x7d"⟩)) [true], {}),
    (.poll 0 1 (some (.event ⟨"error", "\x7b\"error\":\"" ++ message ++ "\"\x7d"⟩)) [],
      goneOutcomes)]

theorem failingRun_twin : List.Forall₂
    (fun step step' => Event.Twin fieldSdk id step.1 step'.1 ∧ step.2 = step'.2)
    (failingRun "fix the build" "Hel" "canary") (failingRun "hug the bears" "Bye" "parrot") := by
  have hprompt : TextTwin id "fix the build" "hug the bears" := by
    refine ⟨by decide +kernel, ?_⟩
    have hline : LineTwin id "fix the build".toList "hug the bears".toList := by
      constructor <;> decide +kernel
    exact .cons hline .nil
  have hdelta : SseEvent.Twin fieldSdk ⟨"message", "\x7b\"token\":\"Hel\"\x7d"⟩
      ⟨"message", "\x7b\"token\":\"Bye\"\x7d"⟩ := by
    have hsize : (Fin.ofNat (2 ^ 64) "Hel".utf8ByteSize : Usize) =
        Fin.ofNat (2 ^ 64) "Bye".utf8ByteSize := by decide +kernel
    exact ⟨.nil, @Meaning.Twin.text _ "Hel" "Bye" (by decide) fun _ => hsize⟩
  have hfailure : SseEvent.Twin fieldSdk ⟨"error", "\x7b\"error\":\"canary\"\x7d"⟩
      ⟨"error", "\x7b\"error\":\"parrot\"\x7d"⟩ := by
    have hlen : Str.len "canary".toList = Str.len "parrot".toList := by decide +kernel
    exact ⟨.cons (@TurnEvent.Twin.error _ codeUpstreamError "canary" "parrot" hlen) .nil, .nothing⟩
  exact .cons ⟨.same _ (by simp) (by simp), rfl⟩ (.cons ⟨.prompt "s" "r" (.ok hprompt), rfl⟩
    (.cons ⟨.poll 0 0 _ (.some (.event hdelta)), rfl⟩
      (.cons ⟨.poll 0 1 _ (.some (.event hfailure)), rfl⟩ .nil)))

theorem failingRun_blind (text delta message : String) :
    ∀ step ∈ failingRun text delta message, step.2.Blind := by
  simp only [failingRun, List.forall_mem_cons]
  exact ⟨fun _ _ _ => ⟨rfl, rfl⟩, fun _ _ _ => ⟨rfl, rfl⟩, fun _ _ _ => ⟨rfl, rfl⟩,
    fun _ _ _ => ⟨rfl, rfl⟩, by simp⟩

/-- The canaries of prompt, delta and failure are not in the log, though the answer is lost. -/
theorem logs_blind_canary :
    logs fieldSdk { hostExtractor := some ⟨.sender, "buzz"⟩ }
        (bridgeSystem fieldSdk { hostExtractor := some ⟨.sender, "buzz"⟩ } {}).init
        (failingRun "fix the build" "Hel" "canary") =
      logs fieldSdk { hostExtractor := some ⟨.sender, "buzz"⟩ }
        (bridgeSystem fieldSdk { hostExtractor := some ⟨.sender, "buzz"⟩ } {}).init
        (failingRun "hug the bears" "Bye" "parrot") :=
  logs_blind fieldSdk { hostExtractor := some ⟨.sender, "buzz"⟩ } {} fieldSdk_frames
    Function.injective_id (failingRun_blind _ _ _) failingRun_twin

end Bridge
end AcpBridge
