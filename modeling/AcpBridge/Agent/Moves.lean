import AcpBridge.Agent.Bridge
import AcpBridge.Agent.Stretch

/-! What a step can do to the bridge, said once: every invariant of runs is proved by cases
on these moves. -/
namespace AcpBridge

open SessionRegistry

/-- The messages after a step that handles a request at once, or none. Only tasks answer
with a stop reason. -/
def Bridge.Answered (b b' : Bridge) : Prop :=
  (b'.out = b.out ∧ b'.requests = b.requests) ∨ ∃ reply, (∀ reason, reply ≠ .stop reason) ∧
    b'.out = b.out ++ [.response b.requests reply] ∧ b'.requests = b.requests + 1

/-- No turn is begun, ended or cancelled. -/
structure Bridge.Rests (b b' : Bridge) : Prop where
  turns : b'.turns = b.turns
  cancels : b'.cancels = b.cancels
  active : ∀ s, b'.sessions.active s = b.sessions.active s
  tokens : b'.sessions.tokens = b.sessions.tokens
  answered : b.Answered b'
  closed : b.incomingClosed = true → b'.incomingClosed = true

/-- A handler cancels the turn registered for a session and may drop the session. -/
structure Bridge.Fires (state : BridgeState) (b : Bridge) (s : String) (b' : Bridge) : Prop where
  turns : b'.turns = b.turns
  cancels : b'.cancels = b.cancels ++ (b.sessions.active s).toList.map fun g =>
    ⟨g.requestId, state.userIdFor s⟩
  active : (∀ s', b'.sessions.active s' = b.sessions.active s') ∨
    ∀ s', b'.sessions.active s' = if s' = s then none else b.sessions.active s'
  tokens : b'.sessions.tokens = (b.sessions.active s).elim b.sessions.tokens fun g =>
    b.sessions.tokens.cancel g.cancel
  answered : b.Answered b'
  closed : b'.incomingClosed = b.incomingClosed

/-- A prompt claims the free slot of a session. -/
structure Bridge.Begins (state : BridgeState) (b : Bridge) (s r text : String) (b' : Bridge) :
    Prop where
  fresh : ∀ t ∈ b.turns, t.requestId ≠ r
  free : b.sessions.active s = none
  turns : b'.turns = b.turns ++ [b.newTurn state s r text b.sessions.tokens.next]
  cancels : b'.cancels = b.cancels
  active : ∀ s', b'.sessions.active s' =
    if s' = s then some ⟨r, b.sessions.tokens.next⟩ else b.sessions.active s'
  tokens : b'.sessions.tokens = { b.sessions.tokens with next := b.sessions.tokens.next + 1 }
  out : b'.out = b.out
  requests : b'.requests = b.requests + 1
  closed : b'.incomingClosed = b.incomingClosed

/-- A task runs for one stretch. -/
structure Bridge.Polls (sdk : Sdk) (state : BridgeState) (b : Bridge) (ev : Event) (i : ℕ)
    (t : RunTurn) (input : PollInput) (st : Stretch) (b' : Bridge) : Prop where
  event : ev = .poll i input.now input.item input.sends
  stretch : st = t.poll sdk state b.sessions input
  turn : b.turns[i]? = some t
  running : t.exit = none
  gone : input.incomingClosed = b.incomingClosed
  sessions : b'.sessions = st.sessions
  turns : b'.turns = b.turns.set i st.turn
  out : b'.out = b.out ++ st.out
  cancels : b'.cancels = b.cancels ++ st.cancels
  requests : b'.requests = b.requests
  closed : b'.incomingClosed = b.incomingClosed

/-- Shutdown cancels every registered turn. -/
structure Bridge.Drains (state : BridgeState) (b b' : Bridge) : Prop where
  turns : b'.turns = b.turns
  cancels : b'.cancels = b.cancels ++ b.sessions.drainActiveTurns.1.map fun e =>
    ⟨e.2.requestId, state.userIdFor e.1⟩
  sessions : b'.sessions = b.sessions.drainActiveTurns.2
  answered : b.Answered b'
  closed : b'.incomingClosed = b.incomingClosed

/-- The moves of the bridge under an event. -/
inductive Bridge.Move (sdk : Sdk) (state : BridgeState) (b : Bridge) (ev : Event) (b' : Bridge) :
    Prop
  | rests (h : b.Rests b')
  | fires (s : String) (h : b.Fires state s b')
  | begins (s r text : String) (h : b.Begins state s r text b')
  | polls (i : ℕ) (t : RunTurn) (input : PollInput) (st : Stretch)
      (h : b.Polls sdk state ev i t input st b')
  | drains (h : b.Drains state b')

/-- For the tasks and the messages: no task runs, one is spawned, or one runs. -/
theorem Bridge.Move.tasks {sdk : Sdk} {state : BridgeState} {b b' : Bridge} {ev : Event}
    (hm : b.Move sdk state ev b') : (b'.turns = b.turns ∧ b.Answered b') ∨
      (∃ s r text, b.Begins state s r text b') ∨
      ∃ i t input st, b.Polls sdk state ev i t input st b' := by
  cases hm with
  | rests h => exact .inl ⟨h.turns, h.answered⟩
  | fires s h => exact .inl ⟨h.turns, h.answered⟩
  | drains h => exact .inl ⟨h.turns, h.answered⟩
  | begins s r text h => exact .inr (.inl ⟨s, r, text, h⟩)
  | polls i t input st h => exact .inr (.inr ⟨i, t, input, st, h⟩)

theorem Bridge.Polls.turn_after {sdk : Sdk} {state : BridgeState} {b b' : Bridge} {ev : Event}
    {i : ℕ} {t : RunTurn} {input : PollInput} {st : Stretch}
    (h : b.Polls sdk state ev i t input st b') : b'.turns[i]? = some st.turn := by
  rw [h.turns]
  exact List.getElem?_set_self (List.getElem?_eq_some_iff.mp h.turn).1

/-- For one task: it is left as it is, or runs. -/
theorem Bridge.Move.task {sdk : Sdk} {state : BridgeState} {b b' : Bridge} {ev : Event}
    (hm : b.Move sdk state ev b') {i : ℕ} {t : RunTurn} (hi : b.turns[i]? = some t) :
    b'.turns[i]? = some t ∨ ∃ input st, b.Polls sdk state ev i t input st b' := by
  obtain ⟨hturns, _⟩ | ⟨s, r, text, h⟩ | ⟨j, u, input, st, h⟩ := hm.tasks
  · exact .inl (hturns ▸ hi)
  · left
    rw [h.turns, List.getElem?_append_left (List.getElem?_eq_some_iff.mp hi).1, hi]
  · rcases eq_or_ne j i with rfl | hj
    · obtain rfl : u = t := Option.some.inj (h.turn.symm.trans hi)
      exact .inr ⟨input, st, h⟩
    · left
      rw [h.turns, List.getElem?_set_ne hj, hi]

namespace Bridge
variable (sdk : Sdk) (state : BridgeState) (b : Bridge) {ev : Event}

theorem answered_reply (reply : Reply) (h : ∀ reason, reply ≠ .stop reason) :
    b.Answered (b.reply reply) := .inr ⟨reply, h, rfl, rfl⟩

theorem move_refl : b.Move sdk state ev b :=
  .rests ⟨rfl, rfl, fun _ => rfl, rfl, .inl ⟨rfl, rfl⟩, id⟩

theorem move_newSession {id cwd : String} (h : b.sessions.contains id = false) :
    b.Move sdk state ev (b.handleNewSession id cwd) := by
  have hidle : b.sessions.turn id = none := by
    have hnone : b.sessions.inner.lookup id = none := by
      rw [← Option.not_isSome_iff_eq_none]
      simpa [contains] using h
    rw [turn, hnone]
    rfl
  have hactive : ∀ s, (b.sessions.create id cwd).2.active s = b.sessions.active s := by
    intro s
    simp only [active, create_turn]
    split_ifs with hs
    · rw [hs.1, hidle]
    · rfl
  have htokens := create_tokens b.sessions id cwd
  unfold handleNewSession
  cases hc : b.sessions.create id cwd with
  | mk result sessions =>
    rw [hc] at hactive htokens
    cases result <;>
      exact .rests ⟨rfl, rfl, hactive, htokens, .inr ⟨_, by simp, rfl, rfl⟩, fun h => h⟩

theorem move_resume (s cwd : String) : b.Move sdk state ev (b.handleResume s cwd) := by
  have hactive : ∀ s', (b.sessions.resume s cwd).2.active s' = b.sessions.active s' := by
    intro s'
    simp only [active, resume_turn]
  have htokens := resume_tokens b.sessions s cwd
  unfold handleResume
  cases hc : b.sessions.resume s cwd with
  | mk result sessions =>
    rw [hc] at hactive htokens
    cases result <;>
      exact .rests ⟨rfl, rfl, hactive, htokens, .inr ⟨_, by simp, rfl, rfl⟩, fun h => h⟩

theorem spawnMuxCancel_eq (s : String) (turn : Option ActiveTurn) :
    b.spawnMuxCancel state s turn = { b with
      cancels := b.cancels ++ turn.toList.map fun h => ⟨h.requestId, state.userIdFor s⟩ } := by
  cases turn <;> simp [spawnMuxCancel]

theorem fires_cancel (s : String) : b.Fires state s (b.handleCancel state s) := by
  obtain ⟨hturn, htokens, _, _⟩ := cancelActiveTurn_spec b.sessions s
  simp only [handleCancel, spawnMuxCancel_eq, hturn]
  refine ⟨rfl, rfl, .inl fun s' => ?_, htokens, .inl ⟨rfl, rfl⟩, rfl⟩
  simp only [active, cancelActiveTurn_turn]

theorem fires_remove (s : String) {answer : Reply} (ha : ∀ reason, answer ≠ .stop reason) :
    b.Fires state s (b.handleRemove state s answer) := by
  obtain ⟨hturn, htokens, _, hrest⟩ := remove_spec b.sessions s
  simp only [handleRemove, spawnMuxCancel_eq, hturn]
  refine ⟨rfl, rfl, .inr fun s' => ?_, htokens, .inr ⟨answer, ha, rfl, rfl⟩, rfl⟩
  change (b.sessions.remove s).2.active s' = _
  rw [active, hrest, apply_ite (Option.map _)]
  rfl

theorem step_fires {s : String}
    (h : ev = .cancel s ∨ ev = .closeSession s ∨ ev = .deleteSession s) :
    b.Fires state s (b.step sdk state ev) := by
  rcases h with rfl | rfl | rfl
  · exact fires_cancel state b s
  · exact fires_remove state b s (by simp)
  · exact fires_remove state b s (by simp)

/-- A rejected prompt is answered with an error and leaves everything else as it was. -/
theorem handlePrompt_cases (s r : String) (prompt : List ContentBlock) :
    (∃ err, b.handlePrompt state s r prompt = b.reply (.error err)) ∨
    ∃ text, promptText prompt = .ok text ∧
      (b.sessions.beginTurn s r).1 = .ok b.sessions.tokens.next ∧
      b.handlePrompt state s r prompt = { b with
        sessions := (b.sessions.beginTurn s r).2
        turns := b.turns ++ [b.newTurn state s r text b.sessions.tokens.next]
        requests := b.requests + 1 } := by
  unfold handlePrompt
  split
  · exact .inl ⟨_, rfl⟩
  · cases hp : promptText prompt with
    | error kind => exact .inl ⟨_, rfl⟩
    | ok text =>
      cases hr : (b.sessions.beginTurn s r).1 with
      | error err =>
        have hsame := beginTurn_error b.sessions s r hr
        have hpair : b.sessions.beginTurn s r = (.error err, b.sessions) := Prod.ext hr hsame
        simp only [hpair]
        exact .inl ⟨_, rfl⟩
      | ok token =>
        obtain ⟨rfl, _⟩ := beginTurn_ok b.sessions s r hr
        have hpair : b.sessions.beginTurn s r =
            (.ok b.sessions.tokens.next, (b.sessions.beginTurn s r).2) := Prod.ext hr rfl
        rw [hpair]
        exact .inr ⟨text, rfl, rfl, rfl⟩

theorem move_prompt {s r : String} {prompt : List ContentBlock}
    (h : ∀ t ∈ b.turns, t.requestId ≠ r) :
    b.Move sdk state ev (b.handlePrompt state s r prompt) := by
  obtain ⟨err, hp⟩ | ⟨text, _, hok, hp⟩ := handlePrompt_cases state b s r prompt
  · rw [hp]
    exact .rests ⟨rfl, rfl, fun _ => rfl, rfl, b.answered_reply _ (by simp), id⟩
  · obtain ⟨_, hfree, _, _, htokens, _, hturn⟩ := beginTurn_ok b.sessions s r hok
    rw [hp]
    refine .begins s r text
      ⟨h, by rw [active, hfree]; rfl, rfl, rfl, fun s' => ?_, htokens, rfl, rfl, rfl⟩
    change (b.sessions.beginTurn s r).2.active s' = _
    rw [active, hturn, apply_ite (Option.map _)]
    rfl

theorem pollTurn_of_running {i : ℕ} {t : RunTurn} (hi : b.turns[i]? = some t) (hx : t.exit = none)
    (now : Duration) (item : Option StreamItem) (sends : List Bool) {st : Stretch}
    (hst : st = t.poll sdk state b.sessions ⟨b.incomingClosed, now, item, sends⟩) :
    b.pollTurn sdk state i now item sends = { b with
      sessions := st.sessions
      turns := b.turns.set i st.turn
      out := b.out ++ st.out
      cancels := b.cancels ++ st.cancels } := by
  subst hst
  rw [pollTurn, hi]
  dsimp only
  rw [if_neg (by simp [hx])]

theorem step_polls {i : ℕ} {t : RunTurn} (hi : b.turns[i]? = some t) (hx : t.exit = none)
    (now : Duration) (item : Option StreamItem) (sends : List Bool) :
    b.Polls sdk state (.poll i now item sends) i t ⟨b.incomingClosed, now, item, sends⟩
      (t.poll sdk state b.sessions ⟨b.incomingClosed, now, item, sends⟩)
      (b.step sdk state (.poll i now item sends)) := by
  rw [step, pollTurn_of_running sdk state b hi hx now item sends rfl]
  exact ⟨rfl, rfl, hi, hx, rfl, rfl, rfl, rfl, rfl, rfl, rfl⟩

theorem pollTurn_cases (i : ℕ) (now : Duration) (item : Option StreamItem) (sends : List Bool) :
    b.pollTurn sdk state i now item sends = b ∨
    ∃ t st, b.turns[i]? = some t ∧ t.exit = none ∧
      st = t.poll sdk state b.sessions ⟨b.incomingClosed, now, item, sends⟩ ∧
      b.pollTurn sdk state i now item sends = { b with
        sessions := st.sessions
        turns := b.turns.set i st.turn
        out := b.out ++ st.out
        cancels := b.cancels ++ st.cancels } := by
  cases ht : b.turns[i]? with
  | none => exact .inl (by rw [pollTurn, ht])
  | some t =>
    cases hx : t.exit with
    | none =>
      exact .inr ⟨t, _, rfl, hx, rfl, pollTurn_of_running sdk state b ht hx now item sends rfl⟩
    | some e => exact .inl (by simp [pollTurn, ht, hx])

theorem pollTurn_of_idle {i : ℕ} (h : ¬ ∃ t, b.turns[i]? = some t ∧ t.exit = none)
    (now : Duration) (item : Option StreamItem) (sends : List Bool) :
    b.pollTurn sdk state i now item sends = b := by
  obtain hp | ⟨t, _, ht, hx, _⟩ := pollTurn_cases sdk state b i now item sends
  · exact hp
  · exact absurd ⟨t, ht, hx⟩ h

theorem move_poll (i : ℕ) (now : Duration) (item : Option StreamItem) (sends : List Bool) :
    b.Move sdk state (.poll i now item sends) (b.pollTurn sdk state i now item sends) := by
  obtain hp | ⟨t, st, ht, hx, hst, hp⟩ := pollTurn_cases sdk state b i now item sends <;> rw [hp]
  · exact move_refl sdk state b
  · exact .polls i t _ st ⟨rfl, hst, ht, hx, rfl, rfl, rfl, rfl, rfl, rfl, rfl⟩

theorem move_writeLine : b.Move sdk state ev (b.writeLine sdk) := by
  unfold writeLine
  split
  · exact move_refl sdk state b
  · rename_i line _
    obtain ⟨hactive, htokens⟩ := (sameTurns_noteLineWritten sdk b.sessions (sdk.line line)).spec
    exact .rests ⟨rfl, rfl, hactive, htokens, .inl ⟨rfl, rfl⟩, id⟩

/-- Every enabled step is one of the moves. -/
theorem step_move {ev : Event} (h : b.Enabled ev) : b.Move sdk state ev (b.step sdk state ev) := by
  cases ev with
  | newSession id cwd => exact move_newSession sdk state b h.2
  | prompt s r prompt => exact move_prompt sdk state b h.2
  | cancel s => exact .fires s (step_fires sdk state b (.inl rfl))
  | resumeSession s cwd => exact move_resume sdk state b s cwd
  | listSessions =>
    exact .rests ⟨rfl, rfl, fun _ => rfl, rfl, b.answered_reply _ (by simp), id⟩
  | closeSession s => exact .fires s (step_fires sdk state b (.inr (.inl rfl)))
  | deleteSession s => exact .fires s (step_fires sdk state b (.inr (.inr rfl)))
  | poll i now item sends => exact move_poll sdk state b i now item sends
  | lineWritten => exact move_writeLine sdk state b
  | incomingClosed => exact .rests ⟨rfl, rfl, fun _ => rfl, rfl, .inl ⟨rfl, rfl⟩, fun _ => rfl⟩
  | shutdown => exact .drains ⟨rfl, rfl, rfl, .inl ⟨rfl, rfl⟩, rfl⟩

end Bridge
end AcpBridge
