import AcpBridge.Agent.Cancels
import AcpBridge.Agent.Deadlines
import AcpBridge.Lib.Mealy

/-! What the formation is asked: one chat for each task that gets to its stream, in the words
of the host. -/
namespace AcpBridge

open SessionRegistry

/-- A chat request: what the formation is asked to run, and for whom. -/
structure Chat where
  requestId : String
  payload : Value
  userId : String

/-- The chat of a task. -/
def RunTurn.chat (t : RunTurn) : Chat := ⟨t.requestId, t.payload, t.userId⟩

/-- The chat a prompt asks for, if it is text. -/
def Event.chat (state : BridgeState) : Event → Option Chat
  | .prompt s r blocks => (promptText blocks).toOption.map fun text =>
      ⟨r, chatPayload text s r state.agentId, state.userIdForTurn s text⟩
  | _ => none

/-- The arms before that of the stream were not ready, so the stream was polled. -/
def Stretch.Arm.polled : Arm → Bool
  | .item _ | .pending => true
  | .cancelled | .incomingClosed | .turnDeadline | .idleDeadline => false

/-- The chat a stretch sends. The stream sends it when it is first polled, which is in the first
stretch of the task or never. -/
def RunTurn.sentChats (state : BridgeState) (sessions : SessionRegistry) (turn : RunTurn)
    (input : PollInput) : List Chat :=
  if turn.deadlines.isNone && (turn.winner state sessions input).polled then [turn.chat] else []

namespace Bridge
variable (sdk : Sdk) (state : BridgeState) (b : Bridge)

/-- The chats of a step. -/
def sentChats : Event → List Chat
  | .poll i now item sends =>
    match b.turns[i]? with
    | none => []
    | some turn =>
      if turn.exit.isSome then []
      else turn.sentChats state b.sessions ⟨b.incomingClosed, now, item, sends⟩
  | _ => []

/-- The chats of a run in the order in which they are sent. -/
def chats (evs : List Event) : List Chat :=
  (Mealy.run (fun b ev => (b.sentChats state ev, b.step sdk state ev)) b evs).1.flatten

@[simp] theorem chats_nil : b.chats sdk state [] = [] := rfl

@[simp] theorem chats_cons (ev : Event) (evs : List Event) :
    b.chats sdk state (ev :: evs) =
      b.sentChats state ev ++ (b.step sdk state ev).chats sdk state evs :=
  rfl

end Bridge

namespace RunTurn
variable {t : RunTurn} (sdk : Sdk) (state : BridgeState)

attribute [local simp] Stretch.arm Stretch.next Stretch.respond Stretch.spawnMuxCancel
  Stretch.exit in
/-- A stretch leaves the chat of its task alone, and its deadlines are fixed from then on. -/
theorem poll_chat (ht : t.Running) (sessions : SessionRegistry) (input : PollInput) :
    (t.poll sdk state sessions input).turn.chat = t.chat ∧
      (t.poll sdk state sessions input).turn.deadlines ≠ none := by
  cases hw : t.winner state sessions input with
  | item item =>
    cases item with
    | close =>
      rw [poll_eq, hw, Stretch.finish_turn]
      cases h : streamEndOutcome t.sawTerminal <;> simp [h, ht.responder, chat]
    | error message => simp [poll_eq, hw, ht.responder, chat]
    | event event =>
      obtain ⟨st, sent, answer, hst, h⟩ := poll_takes sdk state ht sessions input hw
      obtain ⟨saw, exit, hturn⟩ := h.turn
      rw [hst, Stretch.finish_turn, hturn]
      exact ⟨rfl, Option.some_ne_none _⟩
  | _ => simp [poll_eq, hw, ht.responder, chat]

theorem winner_polled {sessions : SessionRegistry} {input : PollInput}
    (h : (t.winner state sessions input).polled = true) :
    t.cancel ∉ sessions.tokens.fired ∧ input.incomingClosed = false := by
  by_cases hcancelled : sessions.tokens.isCancelled t.cancel = true
  · simp [winner, Stretch.select, hcancelled, Stretch.Arm.polled] at h
  · by_cases hgone : input.incomingClosed = true
    · simp [winner, Stretch.select, hcancelled, hgone, Stretch.Arm.polled] at h
    · exact ⟨by simpa [CancellationTokens.isCancelled] using hcancelled, by simpa using hgone⟩

attribute [local simp] Stretch.arm Stretch.respond Stretch.spawnMuxCancel Stretch.exit in
/-- A stretch that does not get to the stream ends the task with what it had. -/
theorem poll_of_not_polled (ht : t.Running) {sessions : SessionRegistry} {input : PollInput}
    (h : (t.winner state sessions input).polled = false) :
    (t.poll sdk state sessions input).turn.exit ≠ none ∧
      (t.poll sdk state sessions input).turn.consumed = t.consumed := by
  cases hw : t.winner state sessions input with
  | item item => simp [hw, Stretch.Arm.polled] at h
  | pending => simp [hw, Stretch.Arm.polled] at h
  | _ => simp [poll_eq, hw, ht.responder]

end RunTurn

namespace Bridge
variable {sdk : Sdk} {state : BridgeState} {limits : Limits} {b b' : Bridge} {ev : Event}
  {evs : List Event}

/-- What an event does to the tasks: a prompt begins one, a poll runs one. Only the latter may
ask the formation. -/
theorem step_turns (sdk : Sdk) (state : BridgeState) (b : Bridge) (ev : Event) :
    (∃ s r prompt text, ev = .prompt s r prompt ∧ promptText prompt = .ok text ∧
      (b.step sdk state ev).turns =
        b.turns ++ [b.newTurn state s r text b.sessions.tokens.next] ∧ b.sentChats state ev = []) ∨
    ((b.step sdk state ev).turns = b.turns ∧ b.sentChats state ev = []) ∨
    ∃ i t input, b.turns[i]? = some t ∧ t.exit = none ∧
      input.incomingClosed = b.incomingClosed ∧
      (b.step sdk state ev).turns = b.turns.set i (t.poll sdk state b.sessions input).turn ∧
      b.sentChats state ev = t.sentChats state b.sessions input := by
  cases ev with
  | newSession id cwd =>
    simp only [step, handleNewSession]
    rcases b.sessions.create id cwd with ⟨_ | _, _⟩ <;> exact .inr (.inl ⟨rfl, rfl⟩)
  | resumeSession s cwd =>
    simp only [step, handleResume]
    rcases b.sessions.resume s cwd with ⟨_ | _, _⟩ <;> exact .inr (.inl ⟨rfl, rfl⟩)
  | prompt s r prompt =>
    rw [step]
    obtain ⟨err, hp⟩ | ⟨text, htext, _, hp⟩ := handlePrompt_cases state b s r prompt <;> rw [hp]
    · exact .inr (.inl ⟨rfl, rfl⟩)
    · exact .inl ⟨s, r, prompt, text, rfl, htext, rfl, rfl⟩
  | poll i now item sends =>
    rw [step]
    by_cases hrun : ∃ t, b.turns[i]? = some t ∧ t.exit = none
    · obtain ⟨t, ht, hx⟩ := hrun
      rw [pollTurn_of_running sdk state b ht hx now item sends rfl]
      refine .inr (.inr ⟨i, t, _, ht, hx, rfl, rfl, ?_⟩)
      simp [sentChats, ht, hx]
    · rw [pollTurn_of_idle sdk state b hrun]
      refine .inr (.inl ⟨rfl, ?_⟩)
      cases ht : b.turns[i]? with
      | none => simp [sentChats, ht]
      | some t =>
        have hx : t.exit ≠ none := fun hx => hrun ⟨t, ht, hx⟩
        simp [sentChats, ht, Option.isSome_iff_ne_none.mpr hx]
  | lineWritten =>
    right; left
    simp only [step, writeLine]
    split <;> exact ⟨rfl, rfl⟩
  | cancel s | closeSession s | deleteSession s =>
    right; left
    simp only [step, handleCancel, handleRemove, spawnMuxCancel_eq, reply, sentChats, and_self]
  | listSessions | incomingClosed | shutdown => exact .inr (.inl ⟨rfl, rfl⟩)

/-- The tasks of a run against its past events and the chats it has sent. -/
structure Asked (state : BridgeState) (b : Bridge) (past : List Event) (sent : List Chat) :
    Prop where
  once : (sent.map Chat.requestId).Nodup
  owned : ∀ c ∈ sent, ∃ t ∈ b.turns, t.chat = c ∧ t.deadlines ≠ none
  prompted : ∀ t ∈ b.turns, ∃ ev ∈ past, ev.chat state = some t.chat
  fresh : ∀ t ∈ b.turns, t.deadlines = none → t.consumed = []
  opened : ∀ t ∈ b.turns, t.deadlines ≠ none → (t.exit = none ∨ t.consumed ≠ []) → t.chat ∈ sent

namespace Asked
variable {past : List Event} {sent : List Chat}

theorem init (limits : Limits) : Asked state { sessions := .new limits } [] [] where
  once := List.nodup_nil
  owned := by simp
  prompted := by simp
  fresh := by simp
  opened := by simp

theorem snoc (h : Asked state b past sent) (ev : Event) : Asked state b (past ++ [ev]) sent where
  once := h.once
  owned := h.owned
  prompted := fun t ht => (h.prompted t ht).imp fun _ hev => ⟨List.mem_append_left _ hev.1, hev.2⟩
  fresh := h.fresh
  opened := h.opened

theorem begins {t : RunTurn} (h : Asked state b past sent) (hturns : b'.turns = b.turns ++ [t])
    (hprompt : ∃ ev ∈ past, ev.chat state = some t.chat) (hd : t.deadlines = none)
    (hc : t.consumed = []) : Asked state b' past sent where
  once := h.once
  owned := fun c hc => by
    obtain ⟨u, hu, hchat⟩ := h.owned c hc
    exact ⟨u, hturns ▸ List.mem_append_left _ hu, hchat⟩
  prompted := by
    rw [hturns, List.forall_mem_append, List.forall_mem_singleton]
    exact ⟨h.prompted, hprompt⟩
  fresh := by
    rw [hturns, List.forall_mem_append, List.forall_mem_singleton]
    exact ⟨h.fresh, fun _ => hc⟩
  opened := by
    rw [hturns, List.forall_mem_append, List.forall_mem_singleton]
    exact ⟨h.opened, fun hne => absurd hd hne⟩

/-- A task asks when it first polls its stream, and then no more. -/
theorem polls (h : Asked state b past sent) (hs : b.Slots) {i : ℕ} {t : RunTurn}
    {input : PollInput} (hi : b.turns[i]? = some t) (hx : t.exit = none)
    (hturns : b'.turns = b.turns.set i (t.poll sdk state b.sessions input).turn) :
    Asked state b' past (sent ++ t.sentChats state b.sessions input) := by
  have hmem := List.mem_of_getElem? hi
  have ht := hs.running t hmem hx
  obtain ⟨hchat, hdeadlines⟩ := t.poll_chat sdk state ht b.sessions input
  have hself : (t.poll sdk state b.sessions input).turn ∈ b'.turns := hturns ▸ Keyed.self_mem_set hi
  refine ⟨?_, ?_, ?_, ?_, ?_⟩
  · unfold RunTurn.sentChats
    split_ifs with hfirst
    · rw [List.map_append, List.map_singleton, List.nodup_append]
      refine ⟨h.once, List.nodup_singleton _, fun r hr r' hr' => ?_⟩
      obtain ⟨c, hc, rfl⟩ := List.mem_map.mp hr
      obtain rfl := List.mem_singleton.mp hr'
      rintro heq
      -- the task of the older chat is this one, which has not run before
      obtain ⟨u, hu, rfl, hne⟩ := h.owned c hc
      obtain rfl := hs.requestIds.eq hu hmem heq
      simp [hne] at hfirst
    · rw [List.append_nil]
      exact h.once
  · rw [List.forall_mem_append]
    constructor
    · intro c hc
      obtain ⟨u, hu, rfl, hne⟩ := h.owned c hc
      rcases eq_or_ne u t with rfl | hut
      · exact ⟨_, hself, hchat, hdeadlines⟩
      · exact ⟨u, hturns ▸ Keyed.mem_set_of_ne hi hu hut, rfl, hne⟩
    · intro c hc
      unfold RunTurn.sentChats at hc
      split_ifs at hc
      · obtain rfl := List.mem_singleton.mp hc
        exact ⟨_, hself, hchat, hdeadlines⟩
      · simp at hc
  · intro u hu
    obtain hold | rfl := List.mem_or_eq_of_mem_set (hturns ▸ hu)
    · exact h.prompted u hold
    · rw [hchat]
      exact h.prompted t hmem
  · intro u hu hd
    obtain hold | rfl := List.mem_or_eq_of_mem_set (hturns ▸ hu)
    · exact h.fresh u hold hd
    · exact absurd hd hdeadlines
  · intro u hu hd hstill
    obtain hold | rfl := List.mem_or_eq_of_mem_set (hturns ▸ hu)
    · exact List.mem_append_left _ (h.opened u hold hd hstill)
    · rw [hchat]
      cases hfirst : t.deadlines with
      | some d =>
        exact List.mem_append_left _ (h.opened t hmem (by simp [hfirst]) (.inl hx))
      | none =>
        refine List.mem_append_right _ ?_
        have hpolled : (t.winner state b.sessions input).polled = true := by
          by_contra hn
          obtain ⟨hexit, hconsumed⟩ :=
            RunTurn.poll_of_not_polled sdk state ht (Bool.eq_false_iff.mpr hn)
          rw [hconsumed, h.fresh t hmem hfirst] at hstill
          exact hstill.elim hexit (fun hne => hne rfl)
        simp [RunTurn.sentChats, hfirst, hpolled]

theorem step (h : Asked state b past sent) (hs : b.Slots) (ev : Event) :
    Asked state (b.step sdk state ev) (past ++ [ev]) (sent ++ b.sentChats state ev) := by
  have hnow := h.snoc ev
  obtain ⟨s, r, prompt, text, rfl, htext, hturns, hsent⟩ | ⟨hturns, hsent⟩ |
    ⟨i, t, input, hi, hx, _, hturns, hsent⟩ := step_turns sdk state b ev <;> rw [hsent]
  · rw [List.append_nil]
    refine hnow.begins hturns ⟨_, List.mem_append_right _ (List.mem_singleton_self _), ?_⟩ rfl rfl
    simp [Event.chat, htext, Except.toOption, newTurn, RunTurn.chat]
  · rw [List.append_nil]
    obtain ⟨hone, howned, hprompted, hfresh, hopened⟩ := hnow
    rw [← hturns] at howned hprompted hfresh hopened
    exact ⟨hone, howned, hprompted, hfresh, hopened⟩
  · exact hnow.polls hs hi hx hturns

theorem run (h : Asked state b past sent) (hr : (bridgeSystem sdk state limits).Reachable b)
    (he : (bridgeSystem sdk state limits).Along Bridge.Enabled b evs) :
    Asked state ((bridgeSystem sdk state limits).exec b evs) (past ++ evs)
      (sent ++ b.chats sdk state evs) := by
  induction evs generalizing b past sent with
  | nil => simpa using h
  | cons ev evs ih =>
    have hstep : Asked state (b.step sdk state ev) (past ++ [ev]) (sent ++ b.sentChats state ev) :=
      h.step (slots_of_reachable hr) ev
    rw [TransitionSystem.exec_cons, chats_cons, List.append_cons, ← List.append_assoc]
    exact ih hstep (hr.next he.1) he.2

end Asked

/-- A chat is sent while the host is there, for a turn that holds the slot of its session and
that no cancel has named. -/
def AsksLive (state : BridgeState) (b : Bridge) (ev : Event) : Prop :=
  ∀ c ∈ b.sentChats state ev, b.incomingClosed = false ∧ c.requestId ∉ b.cancelledIds ∧
    ∃ s g, b.sessions.active s = some g ∧ g.requestId = c.requestId

theorem asksLive_of_reachable (h : (bridgeSystem sdk state limits).Reachable b) (ev : Event) :
    b.AsksLive state ev := by
  have hs := slots_of_reachable h
  intro c hc
  obtain ⟨s, r, prompt, text, _, _, _, hsent⟩ | ⟨_, hsent⟩ |
    ⟨i, t, input, hi, hx, hgone, _, hsent⟩ := step_turns sdk state b ev <;> rw [hsent] at hc
  · simp at hc
  · simp at hc
  · unfold RunTurn.sentChats at hc
    split_ifs at hc with hfirst
    · obtain rfl := List.mem_singleton.mp hc
      have hmem := List.mem_of_getElem? hi
      obtain ⟨hfired, hopen⟩ := RunTurn.winner_polled state (Bool.and_eq_true_iff.mp hfirst).2
      refine ⟨hgone ▸ hopen, fun hcancelled => ?_, t.sessionId, t.handle, ?_, rfl⟩
      · obtain hf | ⟨e, he, _⟩ := (cancelled_of_reachable h).due t hmem hcancelled
        · exact hfired hf
        · simp [hx] at he
      · exact (hs.held t hmem (.inl hx)).resolve_right hfired
    · simp at hc

/-- The formation is asked nothing but what the host prompted. No turn is asked for twice, every
chat is that of an accepted prompt, and of no turn is anything taken that was not asked for. -/
theorem chats_prompted
    (he : (bridgeSystem sdk state limits).Along Bridge.Enabled { sessions := .new limits } evs) :
    ((chats sdk state { sessions := .new limits } evs).map Chat.requestId).Nodup ∧
    (∀ c ∈ chats sdk state { sessions := .new limits } evs,
      (∃ t ∈ ((bridgeSystem sdk state limits).exec { sessions := .new limits } evs).turns,
        t.chat = c) ∧ ∃ ev ∈ evs, ev.chat state = some c) ∧
    (∀ t ∈ ((bridgeSystem sdk state limits).exec { sessions := .new limits } evs).turns,
      t.consumed ≠ [] → t.chat ∈ chats sdk state { sessions := .new limits } evs) ∧
    (bridgeSystem sdk state limits).Along (AsksLive state) { sessions := .new limits } evs := by
  have hstart : (bridgeSystem sdk state limits).Reachable { sessions := .new limits } := .start
  have h := (Asked.init limits).run hstart he
  rw [List.nil_append, List.nil_append] at h
  refine ⟨h.once, fun c hc => ?_, fun t ht hne => ?_, ?_⟩
  · obtain ⟨t, ht, rfl, _⟩ := h.owned c hc
    exact ⟨⟨t, ht, rfl⟩, h.prompted t ht⟩
  · exact h.opened t ht (fun hd => hne (h.fresh t ht hd)) (.inr hne)
  · exact hstart.along (P := fun _ => True) (fun _ _ _ _ _ => trivial)
      (fun _ ev hr _ _ => asksLive_of_reachable hr ev) trivial he

/-- The second prompt is refused, the third turn is polled before the first. -/
def overtakenRun : List Event :=
  [.newSession "s" "/tmp", .newSession "s'" "/tmp", .prompt "s" "r1" [.text "hi"],
    .prompt "s" "r2" [.text "again"], .prompt "s'" "r3" [.text "there"], .poll 1 0 none [],
    .poll 0 1 (some (.event ⟨"message", "Hel"⟩)) [true], .poll 0 2 none []]

theorem chats_prompted_overtaken :
    ((chats rawSdk {} { sessions := .new {} } overtakenRun).map Chat.requestId).Nodup ∧
    (∀ c ∈ chats rawSdk {} { sessions := .new {} } overtakenRun,
      (∃ t ∈ ((bridgeSystem rawSdk {} {}).exec { sessions := .new {} } overtakenRun).turns,
        t.chat = c) ∧ ∃ ev ∈ overtakenRun, ev.chat {} = some c) ∧
    (∀ t ∈ ((bridgeSystem rawSdk {} {}).exec { sessions := .new {} } overtakenRun).turns,
      t.consumed ≠ [] → t.chat ∈ chats rawSdk {} { sessions := .new {} } overtakenRun) ∧
    (bridgeSystem rawSdk {} {}).Along (AsksLive {}) { sessions := .new {} } overtakenRun :=
  chats_prompted (by decide)

example : (chats rawSdk {} { sessions := .new {} } overtakenRun).map Chat.requestId =
    ["r3", "r1"] := by decide

end Bridge
end AcpBridge
