import AcpBridge.Lib.Refinement
import AcpBridge.Session.History
import AcpBridge.Agent.Capacity
import AcpBridge.Agent.Protocol
import AcpBridge.Agent.Deadlines

/-! The session directory: what the host is told of its sessions follows from its own requests,
whatever the turns, the writer and the cancels do in between. -/
namespace AcpBridge

open SessionRegistry

/-- The registration or removal an event asks for. -/
def Event.registers : Event → Option RegistryOp
  | .newSession id cwd => some (.create id cwd)
  | .resumeSession s cwd => some (.resume s cwd)
  | .closeSession s | .deleteSession s => some (.remove s)
  | _ => none

/-- The log of registrations and removals, kept from the requests alone. -/
def directory (limits : Limits) : TransitionSystem (List (String × Option String)) Event where
  init := []
  enabled _ _ := True
  next log ev := chronicle limits log ev.registers.toList

/-- The reply a request without a task gets from the directory. -/
def DirectoryReply (limits : Limits) (log : List (String × Option String)) :
    Event → Reply → Prop
  | .newSession id _, reply =>
    reply = if (Replay.live log).card < limits.maxSessions.val then .newSession id
      else .error Bridge.sessionLimitError
  | .resumeSession s _, reply =>
    reply = if s ∈ Replay.live log ∨ (Replay.live log).card < limits.maxSessions.val then .resumed
      else .error Bridge.sessionLimitError
  | .listSessions, reply => ∃ xs, reply = .sessions xs ∧ xs.Pairwise (·.1 < ·.1) ∧
      ∀ id cwd, (id, cwd) ∈ xs ↔ ∃ before after, log = before ++ (id, some cwd) :: after ∧
        ∀ e ∈ after, e.1 ≠ id
  | .closeSession _, reply => reply = .closed
  | .deleteSession _, reply => reply = .deleted
  | _, _ => False

section Chronicle
variable {limits : Limits} {log : List (String × Option String)} {ops : List RegistryOp}

theorem chronicle_append_silent (first : List RegistryOp) (h : ∀ op ∈ ops, op.entry = none) :
    chronicle limits log (first ++ ops) = chronicle limits log first := by
  induction first generalizing log with
  | cons op first ih => exact ih
  | nil =>
    induction ops generalizing log with
    | nil => rfl
    | cons op ops ih =>
      obtain ⟨hop, hrest⟩ := List.forall_mem_cons.mp h
      change chronicle limits (if op.carriedOut limits log then log ++ op.entry.toList else log)
        ops = log
      rw [hop, Option.toList_none, List.append_nil, ite_self]
      exact ih hrest

end Chronicle

theorem runAll_limits (reg : SessionRegistry) (ops : List RegistryOp) :
    (RegistryOp.runAll reg ops).limits = reg.limits := by
  induction ops generalizing reg with
  | nil => rfl
  | cons op ops ih => exact (ih _).trans (run_limits reg op)

theorem RegistryOp.entry_of_isBuffer {op : RegistryOp} (h : op.isBuffer = true) :
    op.entry = none := by
  cases op <;> simp_all [isBuffer, entry]

namespace Bridge
variable {sdk : Sdk} {state : BridgeState} {limits : Limits} {b : Bridge} {ev : Event}
  {evs : List Event} {log : List (String × Option String)}

theorem poll_silent (sdk : Sdk) (state : BridgeState) {t : RunTurn} (ht : t.Running)
    (sessions : SessionRegistry) (input : PollInput) :
    ∃ ops, (∀ op ∈ ops, RegistryOp.entry op = none) ∧
      (t.poll sdk state sessions input).sessions = RegistryOp.runAll sessions ops := by
  obtain ⟨st, hst, ops, hb, hops⟩ : ∃ st : Stretch, t.poll sdk state sessions input = st.finish ∧
      sessions.SameTurns st.sessions := by
    have hready : ∀ item, t.winner state sessions input = .item item → input.item = some item :=
      fun item hw => (Stretch.select_eq_item hw).1
    obtain ⟨sent, answer, h⟩ := Stretch.arm_spec sdk state ht sessions
      (some (t.deadlinesAt state input.now)) input hready
    exact ⟨_, t.poll_eq sdk state sessions input, h.sessions⟩
  have hentry : ∀ op ∈ ops, RegistryOp.entry op = none :=
    fun op hop => RegistryOp.entry_of_isBuffer (hb op hop)
  rw [hst, Stretch.finish]
  split_ifs
  · refine ⟨ops ++ [.endTurn st.turn.sessionId st.turn.requestId], ?_, ?_⟩
    · rw [List.forall_mem_append, List.forall_mem_singleton]
      exact ⟨hentry, rfl⟩
    · rw [hops]
      simp [RegistryOp.runAll, RegistryOp.run]
  · exact ⟨ops, hentry, hops⟩

/-- A step registers or removes what its event asks for and nothing else. -/
theorem Slots.step_registers (sdk : Sdk) (state : BridgeState) (hs : b.Slots) (ev : Event) :
    ∃ ops, (∀ op ∈ ops, RegistryOp.entry op = none) ∧
      (b.step sdk state ev).sessions =
        RegistryOp.runAll b.sessions (ev.registers.toList ++ ops) := by
  cases ev with
  | newSession id cwd =>
    refine ⟨[], by simp, ?_⟩
    simp only [step, handleNewSession, Event.registers]
    rcases hc : b.sessions.create id cwd with ⟨_ | _, _⟩ <;>
      simp [reply, RegistryOp.runAll, RegistryOp.run, hc]
  | resumeSession s cwd =>
    refine ⟨[], by simp, ?_⟩
    simp only [step, handleResume, Event.registers]
    rcases hc : b.sessions.resume s cwd with ⟨_ | _, _⟩ <;>
      simp [reply, RegistryOp.runAll, RegistryOp.run, hc]
  | prompt s r prompt =>
    obtain ⟨err, hp⟩ | ⟨text, _, _, hp⟩ := handlePrompt_cases state b s r prompt
    · exact ⟨[], by simp, by rw [step, hp]; rfl⟩
    · exact ⟨[.beginTurn s r], by simp [RegistryOp.entry], by rw [step, hp]; rfl⟩
  | cancel s =>
    refine ⟨[.cancelActiveTurn s], by simp [RegistryOp.entry], ?_⟩
    simp [step, handleCancel, Event.registers, RegistryOp.runAll, RegistryOp.run]
  | closeSession s | deleteSession s =>
    refine ⟨[], by simp, ?_⟩
    simp [step, handleRemove, reply, Event.registers, RegistryOp.runAll, RegistryOp.run]
  | poll i now item sends =>
    rw [step]
    obtain hp | ⟨t, st, ht, hx, rfl, hp⟩ := pollTurn_cases sdk state b i now item sends <;> rw [hp]
    · exact ⟨[], by simp, rfl⟩
    · obtain ⟨ops, hentry, hops⟩ := poll_silent sdk state
        (hs.running t (List.mem_of_getElem? ht) hx) b.sessions ⟨b.incomingClosed, now, item, sends⟩
      exact ⟨ops, hentry, hops⟩
  | lineWritten =>
    simp only [step, writeLine]
    split
    · exact ⟨[], by simp, rfl⟩
    · obtain ⟨ops, hb, hops⟩ := sameTurns_noteLineWritten sdk b.sessions _
      exact ⟨ops, fun op hop => RegistryOp.entry_of_isBuffer (hb op hop), hops⟩
  | shutdown => exact ⟨[.drainActiveTurns], by simp [RegistryOp.entry], rfl⟩
  | listSessions | incomingClosed => exact ⟨[], by simp, rfl⟩

/-- The registry holds what the log says. -/
structure Holds (limits : Limits) (b : Bridge) (log : List (String × Option String)) : Prop where
  cwdOf : b.sessions.cwdOf = Replay.replay (fun _ => none) log
  limits : b.sessions.limits = limits

theorem Holds.step (h : b.Holds limits log) (hs : b.Slots) (ev : Event) :
    (b.step sdk state ev).Holds limits ((directory limits).next log ev) := by
  obtain ⟨ops, hentry, hops⟩ := hs.step_registers sdk state ev
  have hlog := history_eq_chronicle h.cwdOf (ev.registers.toList ++ ops)
  rw [h.limits, chronicle_append_silent _ hentry] at hlog
  constructor
  · rw [hops, runAll_cwdOf, h.cwdOf, ← Replay.replay_append, hlog]
    rfl
  · rw [hops, runAll_limits, h.limits]

/-- The bridge refines the directory. -/
theorem holds_directory
    (he : (bridgeSystem sdk state limits).Along Bridge.Enabled { sessions := .new limits } evs) :
    ((bridgeSystem sdk state limits).exec { sessions := .new limits } evs).Holds limits
      ((directory limits).exec [] evs) :=
  TransitionSystem.Reachable.lockstep (S := bridgeSystem sdk state limits) (T := directory limits)
    (R := Holds limits) ⟨rfl, rfl⟩ (fun _ _ ev hb h _ => h.step (slots_of_reachable hb) ev) he

theorem Holds.live_iff (h : b.Holds limits log) (s : String) :
    s ∈ Replay.live log ↔ b.sessions.contains s = true := by
  rw [Replay.mem_live, ← h.cwdOf, SessionRegistry.cwdOf, Option.isSome_map]
  rfl

theorem handleNewSession_out (b : Bridge) (id cwd : String) : (b.handleNewSession id cwd).out =
    b.out ++ [.response b.requests (if (RegistryOp.create id cwd).fails b.sessions then
      .error sessionLimitError else .newSession id)] := by
  rw [handleNewSession, RegistryOp.fails, create]
  split_ifs with hfull hfails hfails
  · rfl
  · simp [Except.isOk, Except.toBool] at hfails
  · simp [Except.isOk, Except.toBool] at hfails
  · rfl

theorem handleResume_out (b : Bridge) (s cwd : String) : (b.handleResume s cwd).out =
    b.out ++ [.response b.requests (if (RegistryOp.resume s cwd).fails b.sessions then
      .error sessionLimitError else .resumed)] := by
  rw [handleResume, RegistryOp.fails]
  rcases b.sessions.resume s cwd with ⟨err | ok, sessions⟩
  · have hfails : (!(Except.error err : Except SessionLimitExceeded Unit).isOk) = true := rfl
    rw [if_pos hfails]
    rfl
  · have hfails : ¬(!(Except.ok ok : Except SessionLimitExceeded Unit).isOk) = true := by
      simp [Except.isOk, Except.toBool]
    rw [if_neg hfails]
    rfl

theorem Holds.reply (h : b.Holds limits log) {q : Request} (hq : ev.request = some q)
    (hp : ∀ s, q ≠ .prompt s) : ∃ reply, DirectoryReply limits log ev reply ∧
      (b.step sdk state ev).out = b.out ++ [.response b.requests reply] := by
  cases ev with
  | newSession id cwd =>
    refine ⟨_, rfl, ?_⟩
    rw [Bridge.step, handleNewSession_out, create_fails_of_replay h.cwdOf, h.limits,
      RegistryOp.carriedOut]
    by_cases hroom : (Replay.live log).card < limits.maxSessions.val <;> simp [hroom]
  | resumeSession s cwd =>
    refine ⟨_, rfl, ?_⟩
    rw [Bridge.step, handleResume_out, resume_fails_of_replay h.cwdOf, h.limits,
      RegistryOp.carriedOut]
    by_cases hlive : s ∈ Replay.live log
    · simp [hlive]
    · by_cases hroom : (Replay.live log).card < limits.maxSessions.val <;> simp [hlive, hroom]
  | listSessions =>
    refine ⟨_, ⟨_, rfl, KeyMap.listing_pairwise _ _, fun id cwd => ?_⟩, rfl⟩
    exact mem_list.trans (by rw [h.cwdOf, Replay.replay_eq_some_iff])
  | closeSession s =>
    refine ⟨_, rfl, ?_⟩
    simp only [Bridge.step, handleRemove, spawnMuxCancel_eq, Bridge.reply]
  | deleteSession s =>
    refine ⟨_, rfl, ?_⟩
    simp only [Bridge.step, handleRemove, spawnMuxCancel_eq, Bridge.reply]
  | prompt s r prompt => exact absurd (Option.some.inj hq).symm (hp s)
  | _ => simp [Event.request] at hq

theorem handlePrompt_refused {s r : String} {prompt : List ContentBlock} {err : Error}
    (h : (b.handlePrompt state s r prompt).out = b.out ++ [.response b.requests (.error err)]) :
    (b.sessions.contains s = false ∧ err = unknownSessionError s) ∨
    b.sessions.contains s = true ∧
      ((∃ kind, promptText prompt = .error kind ∧ err = unsupportedContentError kind) ∨
      (b.sessions.active s ≠ none ∧ err = turnError s .turnInProgress) ∨
      (b.sessions.limits.maxConcurrentTurns.val ≤ b.sessions.inFlight ∧
        err = turnError s .turnLimit)) := by
  have herr : ∀ {err' : Error} {b' : Bridge}, b'.out = b.out → b'.requests = b.requests →
      (b'.reply (.error err')).out = b.out ++ [.response b.requests (.error err)] →
      err = err' := by
    intro err' b' hout hreq heq
    rw [Bridge.reply, hout, hreq] at heq
    simpa using heq.symm
  rw [handlePrompt] at h
  cases hs : b.sessions.contains s with
  | false =>
    rw [hs] at h
    exact .inl ⟨rfl, herr rfl rfl h⟩
  | true =>
    refine .inr ⟨rfl, ?_⟩
    rw [hs] at h
    simp only [Bool.not_true, Bool.false_eq_true, if_false] at h
    cases hp : promptText prompt with
    | error kind =>
      rw [hp] at h
      exact .inl ⟨kind, rfl, herr rfl rfl h⟩
    | ok text =>
      right
      obtain ⟨entry, hl⟩ := Option.isSome_iff_exists.mp hs
      simp only [hp, beginTurn, hl] at h
      split_ifs at h with hactive hfull
      · left
        refine ⟨?_, herr rfl rfl h⟩
        simpa [active, turn, hl, Option.isSome_iff_ne_none] using hactive
      · exact .inr ⟨hfull, herr rfl rfl h⟩
      · simp at h

/-- The accepted prompts that have no answer yet. -/
def unanswered (b : Bridge) : List RunTurn :=
  b.turns.filter fun t => answersTo t.request b.out = []

theorem Ledger.unanswered_of_holding (hl : b.Ledger) {t : RunTurn} (ht : t ∈ b.turns)
    (hh : t.Holding) : t ∈ b.unanswered := by
  refine List.mem_filter.mpr ⟨ht, decide_eq_true ?_⟩
  obtain hx | hx := hh
  · exact hl.unanswered t ht hx
  · obtain ⟨answer, hanswers, hout⟩ := hl.answered t ht _ hx
    obtain rfl : answer = none := hanswers
    exact hout

theorem inFlight_le_unanswered (hs : b.Slots) (hl : b.Ledger) :
    b.sessions.inFlight ≤ b.unanswered.length := by
  rw [← List.length_map RunTurn.sessionId]
  refine KeyMap.countValues_le_length fun s entry hl' hactive => ?_
  obtain ⟨ts, hts⟩ := Option.isSome_iff_exists.mp hactive
  have hg : b.sessions.active s = some ts.handle := by
    rw [active, turn, hl', Option.bind_some, hts]
    rfl
  obtain ⟨t, ht, hsession, _, hhold⟩ := hs.owned s ts.handle hg
  exact List.mem_map.mpr ⟨t, hl.unanswered_of_holding ht hhold, hsession⟩

/-- What the host is told of its sessions follows from its requests alone: registrations,
removals and lists are answered as a log of them says, however the turns went in between. -/
theorem directory_told
    (he : (bridgeSystem sdk state limits).Along Bridge.Enabled { sessions := .new limits } evs)
    (hb : (bridgeSystem sdk state limits).exec { sessions := .new limits } evs = b)
    {ev : Event} {q : Request} (hq : ev.request = some q) (hp : ∀ s, q ≠ .prompt s) :
    ∃ reply, DirectoryReply limits ((directory limits).exec [] evs) ev reply ∧
      (b.step sdk state ev).out = b.out ++ [.response b.requests reply] := by
  have hd := holds_directory he
  rw [hb] at hd
  exact hd.reply hq hp

/-- Two sessions, one of them prompted and the other one closed again. -/
def tabsRun : List Event :=
  [.newSession "s" "/tmp", .resumeSession "t" "/home", .prompt "s" "r1" [.text "hi"],
    .closeSession "t"]

def tabsBridge : Bridge := (bridgeSystem rawSdk {} {}).exec { sessions := .new {} } tabsRun

theorem directory_told_closed : ∃ reply,
    DirectoryReply {} ((directory {}).exec [] tabsRun) .listSessions reply ∧
      (tabsBridge.step rawSdk {} .listSessions).out =
        tabsBridge.out ++ [.response tabsBridge.requests reply] :=
  directory_told (by decide) rfl rfl (by simp)

/-- No prompt is refused without a reason: the session is not in the directory, a block is no
text, an earlier prompt of the session is unanswered, or as many prompts as there are turn slots
are. -/
theorem refusal_truthful
    (he : (bridgeSystem sdk state limits).Along Bridge.Enabled { sessions := .new limits } evs)
    (hb : (bridgeSystem sdk state limits).exec { sessions := .new limits } evs = b)
    {s r : String} {prompt : List ContentBlock} {err : Error}
    (hout : (b.step sdk state (.prompt s r prompt)).out =
      b.out ++ [.response b.requests (.error err)]) :
    (s ∉ Replay.live ((directory limits).exec [] evs) ∧ err = unknownSessionError s) ∨
    (s ∈ Replay.live ((directory limits).exec [] evs) ∧
      ((∃ kind, promptText prompt = .error kind ∧ err = unsupportedContentError kind) ∨
      (err = turnError s .turnInProgress ∧ ∃ t ∈ b.unanswered, t.sessionId = s) ∨
      (err = turnError s .turnLimit ∧
        limits.maxConcurrentTurns.val ≤ b.unanswered.length))) := by
  subst hb
  have hreach : (bridgeSystem sdk state limits).Reachable
      ((bridgeSystem sdk state limits).exec { sessions := .new limits } evs) := ⟨evs, he, rfl⟩
  have hs := slots_of_reachable hreach
  have hl := ledger_of_reachable hreach
  have hd := holds_directory he
  generalize (bridgeSystem sdk state limits).exec { sessions := .new limits } evs = b at *
  obtain ⟨hnot, herr⟩ | ⟨hknown, hwhy⟩ := handlePrompt_refused hout
  · exact .inl ⟨fun hmem => by simp [(hd.live_iff s).mp hmem] at hnot, herr⟩
  · refine .inr ⟨(hd.live_iff s).mpr hknown, ?_⟩
    obtain hkind | ⟨hactive, herr⟩ | ⟨hfull, herr⟩ := hwhy
    · exact .inl hkind
    · obtain ⟨g, hg⟩ := Option.ne_none_iff_exists'.mp hactive
      obtain ⟨t, ht, hsession, _, hhold⟩ := hs.owned s g hg
      exact .inr (.inl ⟨herr, t, hl.unanswered_of_holding ht hhold, hsession⟩)
    · rw [hd.limits] at hfull
      exact .inr (.inr ⟨herr, hfull.trans (inFlight_le_unanswered hs hl)⟩)

/-- The prompted session is busy. -/
theorem refusal_truthful_busy :
    ("s" ∉ Replay.live ((directory {}).exec [] tabsRun) ∧
      turnError "s" .turnInProgress = unknownSessionError "s") ∨
    ("s" ∈ Replay.live ((directory {}).exec [] tabsRun) ∧
      ((∃ kind, promptText [.text "again"] = .error kind ∧
        turnError "s" .turnInProgress = unsupportedContentError kind) ∨
      (turnError "s" .turnInProgress = turnError "s" .turnInProgress ∧
        ∃ t ∈ tabsBridge.unanswered, t.sessionId = "s") ∨
      (turnError "s" .turnInProgress = turnError "s" .turnLimit ∧
        ({} : Limits).maxConcurrentTurns.val ≤ tabsBridge.unanswered.length))) :=
  @refusal_truthful rawSdk {} {} tabsBridge tabsRun (by decide) rfl "s" "r2" _ _ (by decide)

end Bridge
end AcpBridge
