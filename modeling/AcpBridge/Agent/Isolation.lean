import AcpBridge.Agent.Backpressure
import AcpBridge.Agent.Cancels
import AcpBridge.Agent.Capacity

/-! Sessions are kept apart: what does not concern a session leaves its entry, its tasks, their
tokens and its messages as they are, over whole runs. -/
namespace AcpBridge

open SessionRegistry

/-- The message is an update of the session. -/
def Outgoing.UpdateOf (s : String) : Outgoing → Prop
  | .update s' _ _ => s' = s
  | .response _ _ => False

instance (s : String) : DecidablePred (Outgoing.UpdateOf s)
  | .update s' _ _ => inferInstanceAs (Decidable (s' = s))
  | .response _ _ => inferInstanceAs (Decidable False)

/-- The event names the session, runs a task of it or takes a line of it. The shutdown concerns
every session. -/
def Event.Concerns (b : Bridge) (s : String) : Event → Prop
  | .newSession id _ => id = s
  | .prompt s' _ _ | .cancel s' | .resumeSession s' _ | .closeSession s' | .deleteSession s' =>
    s' = s
  | .poll i _ _ _ => ∃ t ∈ b.turns[i]?, t.sessionId = s
  | .lineWritten => ∃ m ∈ b.out[b.written]?, m.UpdateOf s
  | .shutdown => True
  | .listSessions | .incomingClosed => False

instance (b : Bridge) (s : String) : DecidablePred (Event.Concerns b s)
  | .newSession id _ => inferInstanceAs (Decidable (id = s))
  | .prompt s' _ _ | .cancel s' | .resumeSession s' _ | .closeSession s' | .deleteSession s' =>
    inferInstanceAs (Decidable (s' = s))
  | .poll i _ _ _ => inferInstanceAs (Decidable (∃ t ∈ b.turns[i]?, t.sessionId = s))
  | .lineWritten => inferInstanceAs (Decidable (∃ m ∈ b.out[b.written]?, m.UpdateOf s))
  | .shutdown => inferInstanceAs (Decidable True)
  | .listSessions | .incomingClosed => inferInstanceAs (Decidable False)

namespace Stretch
variable (sdk : Sdk) (state : BridgeState)

theorem forward_lookup (events : List TurnEvent) (sends : List Bool) (st : Stretch) {s : String}
    (hs : s ≠ st.turn.sessionId) :
    (forward sdk state events sends st).sessions.inner.lookup s = st.sessions.inner.lookup s := by
  induction events generalizing sends st with
  | nil => rfl
  | cons event rest ih =>
    cases event with
    | update u =>
      have hother : (st.sessions.bufferReserve st.turn.sessionId
          (sdk.notificationLen st.turn.sessionId u)).2.inner.lookup s =
          st.sessions.inner.lookup s :=
        @run_lookup_of_ne st.sessions (.bufferReserve _ _) _ s rfl hs
      simp only [forward]
      cases hres : st.sessions.bufferReserve st.turn.sessionId
        (sdk.notificationLen st.turn.sessionId u) with
      | mk result sessions =>
        rw [hres] at hother
        cases result with
        | error overflow =>
          simp only [respond, spawnMuxCancel, exit]
          split <;> exact hother
        | ok _ =>
          split_ifs
          · exact (ih sends.tail { st with
              sessions := sessions
              out := st.out ++ [.update st.turn.sessionId st.turn.requestId u] } hs).trans hother
          · exact hother
    | completed => exact ih sends _ hs
    | done | error code message =>
      simp only [forward, respond, exit]
      split <;> rfl

attribute [local simp] arm next respond spawnMuxCancel exit in
theorem arm_lookup {t : RunTurn} (ht : t.Running) (sessions : SessionRegistry)
    (deadlines : Option (Duration × Duration)) (input : PollInput) (winner : Arm) {s : String}
    (hs : s ≠ t.sessionId) :
    (({ sessions := sessions, turn := { t with deadlines := deadlines } } : Stretch).arm sdk state
      input.now input.sends winner).sessions.inner.lookup s = sessions.inner.lookup s := by
  cases winner with
  | item item =>
    cases item with
    | close => cases h : streamEndOutcome t.sawTerminal <;> simp [h, ht.responder]
    | error message => simp [ht.responder]
    | event event => exact forward_lookup sdk state _ _ _ hs
  | _ => simp [ht.responder]

theorem poll_lookup {t : RunTurn} (ht : t.Running) (sessions : SessionRegistry)
    (input : PollInput) {s : String} (hs : s ≠ t.sessionId) :
    (t.poll sdk state sessions input).sessions.inner.lookup s = sessions.inner.lookup s := by
  have hready : ∀ item, t.winner state sessions input = .item item → input.item = some item :=
    fun item hw => (select_eq_item hw).1
  obtain ⟨sent, answer, h⟩ := arm_spec sdk state ht sessions
    (some (t.deadlinesAt state input.now)) input hready
  have harm := arm_lookup sdk state ht sessions (some (t.deadlinesAt state input.now)) input
    (t.winner state sessions input) hs
  rw [t.poll_eq, finish]
  split_ifs
  · rw [h.sessionId, h.requestId]
    exact (@run_lookup_of_ne _ (.endTurn t.sessionId t.requestId) _ s rfl hs).trans harm
  · exact harm

end Stretch

/-- What belongs to session `s` is in the second state as it was in the first one. -/
structure Bridge.Undisturbed (s : String) (b b' : Bridge) : Prop where
  entry : b'.sessions.inner.lookup s = b.sessions.inner.lookup s
  tasks : b'.turns.filter (·.sessionId = s) = b.turns.filter (·.sessionId = s)
  fired : ∀ t ∈ b.turns, t.sessionId = s →
    (t.cancel ∈ b'.sessions.tokens.fired ↔ t.cancel ∈ b.sessions.tokens.fired)
  out : ∃ new, b'.out = b.out ++ new ∧ ∀ m ∈ new, ¬ m.UpdateOf s ∧
    ∀ t ∈ b.turns, t.sessionId = s → ∀ reply, m ≠ .response t.request reply

namespace Bridge
variable {sdk : Sdk} {state : BridgeState} {limits : Limits} {b b' b'' : Bridge} {ev : Event}
  {s : String}

namespace Undisturbed

theorem refl (s : String) (b : Bridge) : Undisturbed s b b :=
  ⟨rfl, rfl, fun _ _ _ => Iff.rfl, [], by simp, by simp⟩

theorem mem_iff (h : Undisturbed s b b') {t : RunTurn} (ht : t.sessionId = s) :
    t ∈ b'.turns ↔ t ∈ b.turns := by
  have hmem : ∀ c : Bridge, t ∈ c.turns.filter (·.sessionId = s) ↔ t ∈ c.turns := by
    intro c
    simp [ht]
  rw [← hmem b', ← hmem b, h.tasks]

theorem trans (h : Undisturbed s b b') (h' : Undisturbed s b' b'') : Undisturbed s b b'' where
  entry := h'.entry.trans h.entry
  tasks := h'.tasks.trans h.tasks
  fired := fun t ht hs => (h'.fired t ((h.mem_iff hs).mpr ht) hs).trans (h.fired t ht hs)
  out := by
    obtain ⟨new, hout, hnew⟩ := h.out
    obtain ⟨new', hout', hnew'⟩ := h'.out
    refine ⟨new ++ new', by rw [hout', hout, List.append_assoc], fun m hm => ?_⟩
    obtain hm | hm := List.mem_append.mp hm
    · exact hnew m hm
    · exact ⟨(hnew' m hm).1, fun t ht hs => (hnew' m hm).2 t ((h.mem_iff hs).mpr ht) hs⟩

end Undisturbed

theorem Slots.entry_kept (hs : b.Slots) (hf : b.Framed sdk ev) (hc : ¬ ev.Concerns b s) :
    (b.step sdk state ev).sessions.inner.lookup s = b.sessions.inner.lookup s := by
  cases ev with
  | newSession id cwd =>
    have hother := @run_lookup_of_ne b.sessions (.create id cwd) _ s rfl (Ne.symm hc)
    simp only [step, handleNewSession]
    rcases hr : b.sessions.create id cwd with ⟨_ | _, _⟩ <;>
      simpa [RegistryOp.run, hr, reply] using hother
  | resumeSession s' cwd =>
    have hother := @run_lookup_of_ne b.sessions (.resume s' cwd) _ s rfl (Ne.symm hc)
    simp only [step, handleResume]
    rcases hr : b.sessions.resume s' cwd with ⟨_ | _, _⟩ <;>
      simpa [RegistryOp.run, hr, reply] using hother
  | prompt s' r prompt =>
    rw [step]
    obtain ⟨err, hp⟩ | ⟨text, _, _, hp⟩ := handlePrompt_cases state b s' r prompt <;> rw [hp]
    · rfl
    · exact @run_lookup_of_ne b.sessions (.beginTurn s' r) _ s rfl (Ne.symm hc)
  | cancel s' =>
    simp only [step, handleCancel, spawnMuxCancel_sessions]
    exact @run_lookup_of_ne b.sessions (.cancelActiveTurn s') _ s rfl (Ne.symm hc)
  | closeSession s' | deleteSession s' =>
    simp only [step, handleRemove, reply, spawnMuxCancel_sessions]
    exact @run_lookup_of_ne b.sessions (.remove s') _ s rfl (Ne.symm hc)
  | poll i now item sends =>
    rw [step]
    obtain hp | ⟨t, st, ht, hx, rfl, hp⟩ := pollTurn_cases sdk state b i now item sends <;> rw [hp]
    have hne : s ≠ t.sessionId := fun hst => hc ⟨t, ht, hst.symm⟩
    exact Stretch.poll_lookup sdk state (hs.running t (List.mem_of_getElem? ht) hx) _ _ hne
  | lineWritten =>
    rw [step, writeLine]
    cases hm : b.out[b.written]? with
    | none => rfl
    | some m =>
      cases m with
      | update s' r u =>
        have hne : s ≠ s' := fun hss => hc ⟨_, hm, hss.symm⟩
        change (noteLineWritten sdk b.sessions _).inner.lookup s = _
        rw [noteLineWritten_update b.sessions (hf _ hm)]
        exact @run_lookup_of_ne b.sessions (.bufferWritten s') _ s rfl hne
      | response k reply =>
        change (noteLineWritten sdk b.sessions _).inner.lookup s = _
        rw [noteLineWritten_response b.sessions (hf _ hm)]
  | listSessions | incomingClosed => rfl
  | shutdown => exact absurd trivial hc

/-- Tokens fire for cancels, closes, deletes and the shutdown only. -/
theorem fired_step (sdk : Sdk) (state : BridgeState) (hs : b.Slots)
    (hev : ∀ s, ev ≠ .cancel s ∧ ev ≠ .closeSession s ∧ ev ≠ .deleteSession s)
    (hd : ev ≠ .shutdown) :
    (b.step sdk state ev).sessions.tokens.fired = b.sessions.tokens.fired := by
  cases ev with
  | newSession id cwd =>
    have htokens := create_tokens b.sessions id cwd
    simp only [step, handleNewSession]
    rcases hr : b.sessions.create id cwd with ⟨_ | _, _⟩ <;> simp_all [reply]
  | resumeSession s cwd =>
    have htokens := resume_tokens b.sessions s cwd
    simp only [step, handleResume]
    rcases hr : b.sessions.resume s cwd with ⟨_ | _, _⟩ <;> simp_all [reply]
  | prompt s r prompt =>
    rw [step]
    obtain ⟨err, hp⟩ | ⟨text, _, hok, hp⟩ := handlePrompt_cases state b s r prompt <;> rw [hp]
    · rfl
    · obtain ⟨_, _, _, _, htokens, _⟩ := beginTurn_ok b.sessions s r hok
      change (b.sessions.beginTurn s r).2.tokens.fired = _
      rw [htokens]
  | poll i now item sends =>
    rw [step]
    obtain hp | ⟨t, st, ht, hx, rfl, hp⟩ := pollTurn_cases sdk state b i now item sends <;> rw [hp]
    obtain ⟨_, _, hpolled⟩ := RunTurn.poll_spec sdk state
      (hs.running t (List.mem_of_getElem? ht) hx) b.sessions ⟨b.incomingClosed, now, item, sends⟩
    exact congrArg CancellationTokens.fired hpolled.tokens
  | lineWritten =>
    simp only [step, writeLine]
    split
    · rfl
    · exact congrArg CancellationTokens.fired (sameTurns_noteLineWritten sdk b.sessions _).spec.2
  | cancel s => exact absurd rfl (hev s).1
  | closeSession s => exact absurd rfl (hev s).2.1
  | deleteSession s => exact absurd rfl (hev s).2.2
  | shutdown => exact absurd rfl hd
  | listSessions | incomingClosed => rfl

theorem Slots.fired_kept (hs : b.Slots) (hc : ¬ ev.Concerns b s) {t : RunTurn} (ht : t ∈ b.turns)
    (hts : t.sessionId = s) : t.cancel ∈ (b.step sdk state ev).sessions.tokens.fired ↔
      t.cancel ∈ b.sessions.tokens.fired := by
  by_cases hfires : ∃ s', ev = .cancel s' ∨ ev = .closeSession s' ∨ ev = .deleteSession s'
  · obtain ⟨s', hev⟩ := hfires
    have hne : s' ≠ s := by
      rintro rfl
      obtain rfl | rfl | rfl := hev <;> exact hc rfl
    have htokens := (step_fires sdk state b hev).tokens
    cases hg : b.sessions.active s' with
    | none => rw [htokens, hg]; rfl
    | some g =>
      have hother : t.cancel ≠ g.cancel := by
        obtain ⟨x, hx, hxs, rfl, _⟩ := hs.owned s' g hg
        intro hcancel
        obtain rfl := hs.tokens.eq ht hx hcancel
        exact hne (hxs.symm.trans hts)
      rw [htokens, hg]
      simp [CancellationTokens.cancel, hother]
  · rw [fired_step sdk state hs]
    · exact fun s' => ⟨fun h => hfires ⟨s', .inl h⟩, fun h => hfires ⟨s', .inr (.inl h)⟩,
        fun h => hfires ⟨s', .inr (.inr h)⟩⟩
    · rintro rfl
      exact hc trivial

theorem Slots.undisturbed (hs : b.Slots) (he : b.Enabled ev) (hf : b.Framed sdk ev)
    (hc : ¬ ev.Concerns b s) : b.Undisturbed s (b.step sdk state ev) := by
  have hentry := @Slots.entry_kept sdk state b ev s hs hf hc
  have hactive : (b.step sdk state ev).sessions.active s = b.sessions.active s := by
    rw [active, active, turn, turn, hentry]
  obtain ⟨hturns, hanswered⟩ | ⟨s', r, text, h⟩ | ⟨i, t, input, st, h⟩ :=
    (b.step_move sdk state he).tasks
  · refine ⟨hentry, by rw [hturns], fun _ => hs.fired_kept hc, ?_⟩
    obtain ⟨hout, _⟩ | ⟨reply, _, hout, _⟩ := hanswered
    · exact ⟨[], by simpa using hout, by simp⟩
    · refine ⟨_, hout, fun m hm => ?_⟩
      obtain rfl := List.mem_singleton.mp hm
      refine ⟨id, fun t ht _ reply' hreply => ?_⟩
      obtain ⟨hnumber, _⟩ := Outgoing.response.inj hreply
      exact (hs.begun t ht).2.ne hnumber.symm
  · have hne : s' ≠ s := by
      rintro rfl
      have hheld := h.active s'
      rw [if_pos rfl, hactive, h.free] at hheld
      simp at hheld
    refine ⟨hentry, ?_, fun _ => hs.fired_kept hc, [], by simpa using h.out, by simp⟩
    rw [h.turns, List.filter_append]
    simp [newTurn, hne]
  · obtain ⟨sent, answer, hpolled⟩ := hs.polled h
    have hne : t.sessionId ≠ s := by
      intro hts
      obtain rfl := h.event
      exact hc ⟨t, h.turn, hts⟩
    refine ⟨hentry, ?_, fun _ => hs.fired_kept hc, st.out, h.out, fun m hm => ?_⟩
    · rw [h.turns]
      exact Keyed.filter_set h.turn (by simpa using hne) (by simpa [hpolled.sessionId] using hne)
    · rw [hpolled.out, Stretch.messages, List.mem_append, List.mem_map, List.mem_map] at hm
      obtain ⟨u, _, rfl⟩ | ⟨reply, _, rfl⟩ := hm
      · exact ⟨hne, by simp⟩
      · refine ⟨id, fun x hx hxs reply' hreply => ?_⟩
        obtain ⟨hnumber, _⟩ := Outgoing.response.inj hreply
        obtain rfl := hs.requests.eq hx h.mem hnumber.symm
        exact hne hxs

theorem Cancelled.mem_iff_due (hc : b.Cancelled) {t : RunTurn} (ht : t ∈ b.turns) :
    t.requestId ∈ b.cancelledIds ↔
      t.cancel ∈ b.sessions.tokens.fired ∨ ∃ e, t.exit = some e ∧ e.cancelsUpstream := by
  constructor
  · exact hc.due t ht
  · rintro (hf | ⟨e, hx, he⟩)
    · exact hc.fired t ht hf
    · exact hc.own t ht e hx he

/-- Sessions are isolated: whatever the other ones do, a session's entry with its turn and its
accounting, its tasks and their tokens stay as they are, nothing is sent to the host for it and
none of its turns is cancelled upstream. -/
theorem sessions_isolated (h : (bridgeSystem sdk state limits).Reachable b) {evs : List Event}
    (he : (bridgeSystem sdk state limits).Along Bridge.Enabled b evs)
    (hf : ∀ m ∈ ((bridgeSystem sdk state limits).exec b evs).out, sdk.Frames m)
    (hc : (bridgeSystem sdk state limits).Along (fun b ev => ¬ ev.Concerns b s) b evs) :
    b.Undisturbed s ((bridgeSystem sdk state limits).exec b evs) ∧
    ∀ t ∈ b.turns, t.sessionId = s →
      (t.requestId ∈ ((bridgeSystem sdk state limits).exec b evs).cancelledIds ↔
        t.requestId ∈ b.cancelledIds) := by
  have hrun := TransitionSystem.along_and.mpr ⟨framed_along he hf, hc⟩
  have hboth : b.Slots ∧ b.Undisturbed s b := ⟨slots_of_reachable h, .refl s b⟩
  have hkept := TransitionSystem.exec_invariant (P := fun b' => b'.Slots ∧ b.Undisturbed s b')
    (fun b' ev hb hev => ⟨hb.1.move (b'.step_move sdk state hev.1.1),
      hb.2.trans (hb.1.undisturbed hev.1.1 hev.1.2 hev.2)⟩) hboth hrun
  obtain ⟨_, hu⟩ := hkept
  have hbefore := cancelled_of_reachable h
  have hafter := cancelled_of_reachable (h.exec he)
  refine ⟨hu, fun t ht hts => ?_⟩
  rw [hafter.mem_iff_due ((hu.mem_iff hts).mpr ht), hbefore.mem_iff_due ht,
    hu.fired t ht hts]

/-- A turn of session `t` waits while session `s` streams an update and is closed. -/
def waitingBridge : Bridge :=
  (bridgeSystem wireSdk {} {}).exec { sessions := .new {} }
    [.newSession "t" "/home", .prompt "t" "r1" [.text "hi"]]

theorem waitingBridge_reachable : (bridgeSystem wireSdk {} {}).Reachable waitingBridge :=
  ⟨_, by decide, rfl⟩

def neighbourRun : List Event :=
  [.newSession "s" "/tmp", .prompt "s" "r2" [.text "hi"],
    .poll 1 0 (some (.event ⟨"message", tokenText⟩)) [true], .lineWritten, .lineWritten,
    .closeSession "s", .poll 1 1 none []]

theorem sessions_isolated_waiting :
    waitingBridge.Undisturbed "t" ((bridgeSystem wireSdk {} {}).exec waitingBridge neighbourRun) ∧
    ∀ t ∈ waitingBridge.turns, t.sessionId = "t" → (t.requestId ∈
      ((bridgeSystem wireSdk {} {}).exec waitingBridge neighbourRun).cancelledIds ↔
        t.requestId ∈ waitingBridge.cancelledIds) := by
  have hout : ((bridgeSystem wireSdk {} {}).exec waitingBridge neighbourRun).out =
      [.response 0 (.newSession "t"), .response 2 (.newSession "s"),
        .update "s" "r2" (.agentMessageChunk "Hel"), .response 4 .closed,
        .response 3 (.stop .cancelled)] := by
    decide +kernel
  refine sessions_isolated waitingBridge_reachable (by decide +kernel) ?_ (by decide +kernel)
  rw [hout]
  simp only [List.forall_mem_cons, wireSdk_frames_response, wireSdk_frames_update, true_and]
  simp

end Bridge
end AcpBridge
