import AcpBridge.Session.Exactness
import AcpBridge.Agent.Slots

/-! The bridge drives its registry through the registry operations only, so the registry
results hold of it; with the slot invariant, running turns and held slots match. -/
namespace AcpBridge

open SessionRegistry

namespace Bridge
variable {sdk : Sdk} {state : BridgeState} {limits : Limits} {b : Bridge}

@[simp] theorem spawnMuxCancel_sessions (b : Bridge) (s : String) (turn : Option ActiveTurn) :
    (b.spawnMuxCancel state s turn).sessions = b.sessions := by
  cases turn <;> rfl

/-- What a step does to the registry is a sequence of registry operations. -/
theorem Slots.step_registry (sdk : Sdk) (state : BridgeState) (hs : b.Slots) (ev : Event) :
    ∃ ops, (b.step sdk state ev).sessions = RegistryOp.runAll b.sessions ops := by
  cases ev with
  | newSession id cwd =>
    refine ⟨[.create id cwd], ?_⟩
    simp only [step, handleNewSession]
    rcases hc : b.sessions.create id cwd with ⟨_ | _, _⟩ <;>
      simp [reply, RegistryOp.runAll, RegistryOp.run, hc]
  | prompt s r prompt =>
    obtain ⟨err, hp⟩ | ⟨text, _, _, hp⟩ := handlePrompt_cases state b s r prompt
    · exact ⟨[], by rw [step, hp]; rfl⟩
    · exact ⟨[.beginTurn s r], by rw [step, hp]; rfl⟩
  | cancel s =>
    exact ⟨[.cancelActiveTurn s], by simp [step, handleCancel, RegistryOp.runAll, RegistryOp.run]⟩
  | resumeSession s cwd =>
    refine ⟨[.resume s cwd], ?_⟩
    simp only [step, handleResume]
    rcases hc : b.sessions.resume s cwd with ⟨_ | _, _⟩ <;>
      simp [reply, RegistryOp.runAll, RegistryOp.run, hc]
  | listSessions => exact ⟨[], rfl⟩
  | closeSession s | deleteSession s =>
    exact ⟨[.remove s], by simp [step, handleRemove, reply, RegistryOp.runAll, RegistryOp.run]⟩
  | poll i now item sends =>
    rw [step]
    obtain hp | ⟨t, st, ht, hx, rfl, hp⟩ := pollTurn_cases sdk state b i now item sends <;> rw [hp]
    · exact ⟨[], rfl⟩
    · obtain ⟨sent, answer, h⟩ := RunTurn.poll_spec sdk state
        (hs.running t (List.mem_of_getElem? ht) hx) b.sessions ⟨b.incomingClosed, now, item, sends⟩
      exact h.registry
  | lineWritten =>
    simp only [step, writeLine]
    split
    · exact ⟨[], rfl⟩
    · obtain ⟨ops, _, h⟩ := sameTurns_noteLineWritten sdk b.sessions _
      exact ⟨ops, h⟩
  | incomingClosed => exact ⟨[], rfl⟩
  | shutdown => exact ⟨[.drainActiveTurns], rfl⟩

/-- The bridge refines the registry system. -/
theorem registry_reachable (h : (bridgeSystem sdk state limits).Reachable b) :
    (registrySystem limits).Reachable b.sessions := by
  refine TransitionSystem.Reachable.invariant
    (P := fun b => (registrySystem limits).Reachable b.sessions) .start (fun s ev hr hreg _ => ?_) h
  obtain ⟨ops, hops⟩ := (slots_of_reachable hr).step_registry sdk state ev
  rw [show (bridgeSystem sdk state limits).next s ev = s.step sdk state ev from rfl, hops]
  exact hreg.exec (TransitionSystem.along_of_forall (fun _ _ => trivial) _ _)

/-- Tasks that run and have not been cancelled. -/
def uncancelled (b : Bridge) : List RunTurn :=
  b.turns.filter fun t => t.exit = none ∧ t.cancel ∉ b.sessions.tokens.fired

theorem mem_uncancelled {t : RunTurn} : t ∈ b.uncancelled ↔
    t ∈ b.turns ∧ t.exit = none ∧ t.cancel ∉ b.sessions.tokens.fired := by
  simp [uncancelled]

namespace Slots

theorem active_of_uncancelled (hs : b.Slots) {t : RunTurn} (h : t ∈ b.uncancelled) :
    b.sessions.active t.sessionId = some t.handle := by
  obtain ⟨ht, hx, hf⟩ := mem_uncancelled.mp h
  exact (hs.held t ht (.inl hx)).resolve_right hf

theorem uncancelled_nodup (hs : b.Slots) : (b.uncancelled.map RunTurn.sessionId).Nodup := by
  have hnodup : b.uncancelled.Nodup := (List.Nodup.of_map _ hs.requestIds).filter _
  refine hnodup.map_on fun t ht t' ht' hsession => ?_
  have ha := hs.active_of_uncancelled ht
  rw [hsession, hs.active_of_uncancelled ht'] at ha
  have hid : t'.requestId = t.requestId := congrArg ActiveTurn.requestId (Option.some.inj ha)
  exact hs.requestIds.eq (mem_uncancelled.mp ht).1 (mem_uncancelled.mp ht').1 hid.symm

theorem uncancelled_le (hs : b.Slots) : b.uncancelled.length ≤ b.sessions.inFlight := by
  rw [← List.length_map RunTurn.sessionId]
  refine KeyMap.length_le_countValues hs.uncancelled_nodup fun s hm => ?_
  obtain ⟨t, ht, rfl⟩ := List.mem_map.mp hm
  have ha := hs.active_of_uncancelled ht
  rw [active, Option.map_eq_some_iff] at ha
  obtain ⟨turn, hturn, _⟩ := ha
  obtain ⟨cwd, hl⟩ := turn_eq_some.mp hturn
  exact ⟨_, hl, rfl⟩

/-- A registered turn belongs to one task, which runs as long as the host is there. -/
theorem owner (hs : b.Slots) (hopen : b.incomingClosed = false) {s : String} {g : ActiveTurn}
    (hg : b.sessions.active s = some g) : ∃! i : ℕ, ∃ t : RunTurn, b.turns[i]? = some t ∧
      t.exit = none ∧ t.sessionId = s ∧ t.requestId = g.requestId := by
  obtain ⟨t, ht, hsession, rfl, hhold⟩ := hs.owned s g hg
  have hx : t.exit = none := by
    obtain hx | hx := hhold
    · exact hx
    · rw [hs.gone t ht hx] at hopen
      simp at hopen
  obtain ⟨i, hi⟩ := List.mem_iff_getElem?.mp ht
  refine ⟨i, ⟨t, hi, hx, hsession, rfl⟩, ?_⟩
  rintro j ⟨t', hj, _, _, hid⟩
  obtain rfl := hs.requestIds.eq (List.mem_of_getElem? hj) ht hid
  have hnodup : b.turns.Nodup := List.Nodup.of_map _ hs.requestIds
  exact (List.getElem?_inj (List.getElem?_eq_some_iff.mp hj).1 hnodup).mp (hj.trans hi.symm)

theorem active_step_poll (hs : b.Slots) {i : ℕ} {now : Duration} {item : Option StreamItem}
    {sends : List Bool} {s : String} {g : ActiveTurn} (hg : b.sessions.active s = some g)
    (hother : ∀ t, b.turns[i]? = some t → g ≠ t.handle) :
    (b.step sdk state (.poll i now item sends)).sessions.active s = some g := by
  rw [step]
  obtain hp | ⟨t, st, ht, hx, rfl, hp⟩ := pollTurn_cases sdk state b i now item sends <;> rw [hp]
  · exact hg
  · have hmem := List.mem_of_getElem? ht
    obtain ⟨sent, answer, h⟩ := RunTurn.poll_spec sdk state (hs.running t hmem hx) b.sessions
      ⟨b.incomingClosed, now, item, sends⟩
    apply (h.active s).trans
    rw [if_neg, hg]
    rintro ⟨_, _, hany⟩
    rw [hg] at hany
    obtain ⟨x, hxb, _, rfl, _⟩ := hs.owned s g hg
    have hid : x.requestId = t.requestId := by simpa [RunTurn.handle] using hany
    exact hother t ht (congrArg RunTurn.handle (hs.requestIds.eq hxb hmem hid))

theorem idle_of_finished (hs : b.Slots) (hopen : b.incomingClosed = false)
    (hdone : ∀ t ∈ b.turns, t.exit ≠ none) (s : String) : b.sessions.active s = none := by
  by_contra hne
  obtain ⟨g, hg⟩ := Option.ne_none_iff_exists'.mp hne
  obtain ⟨i, ⟨t, hi, hx, _⟩, _⟩ := hs.owner hopen hg
  exact hdone t (List.mem_of_getElem? hi) hx

end Slots

/-- In every reachable state before a host disconnect, slots and running tasks match. -/
theorem slots_match (h : (bridgeSystem sdk state limits).Reachable b)
    (hopen : b.incomingClosed = false) :
    (∀ s g, b.sessions.active s = some g → ∃! i : ℕ, ∃ t : RunTurn, b.turns[i]? = some t ∧
      t.exit = none ∧ t.sessionId = s ∧ t.requestId = g.requestId) ∧
    (∀ t ∈ b.uncancelled, b.sessions.active t.sessionId = some ⟨t.requestId, t.cancel⟩) ∧
    (b.uncancelled.map RunTurn.sessionId).Nodup ∧
    b.uncancelled.length ≤ limits.maxConcurrentTurns.val ∧
    (∀ i now item sends s g, b.sessions.active s = some g →
      (∀ t, b.turns[i]? = some t → g ≠ ⟨t.requestId, t.cancel⟩) →
      (b.step sdk state (.poll i now item sends)).sessions.active s = some g) ∧
    ((∀ t ∈ b.turns, t.exit ≠ none) → ∀ s, b.sessions.active s = none) := by
  have hs := slots_of_reachable h
  obtain ⟨hlimits, hcapped⟩ := reachable_capped (registry_reachable h)
  have hcap : b.uncancelled.length ≤ limits.maxConcurrentTurns.val :=
    hlimits ▸ hs.uncancelled_le.trans hcapped.turns
  exact ⟨fun s g hg => hs.owner hopen hg, fun t ht => hs.active_of_uncancelled ht,
    hs.uncancelled_nodup, hcap, fun i now item sends s g hg hother => hs.active_step_poll hg hother,
    hs.idle_of_finished hopen⟩

/-- A session is closed, resumed and prompted again before its first task runs. -/
def resumedRun : List Event :=
  [.newSession "s" "/tmp", .prompt "s" "r1" [.text "hi"], .closeSession "s",
    .resumeSession "s" "/tmp", .prompt "s" "r2" [.text "hi"]]

def resumedBridge : Bridge :=
  (bridgeSystem rawSdk {} {}).exec { sessions := .new {} } resumedRun

theorem resumedBridge_reachable : (bridgeSystem rawSdk {} {}).Reachable resumedBridge :=
  ⟨resumedRun, by decide, rfl⟩

/-- The first task has not finished, but the slot is the second one's. -/
theorem slots_match_resumed : resumedBridge.turns.map RunTurn.requestId = ["r1", "r2"] ∧
    ∃! i : ℕ, ∃ t : RunTurn, resumedBridge.turns[i]? = some t ∧ t.exit = none ∧
      t.sessionId = "s" ∧ t.requestId = "r2" :=
  ⟨by decide, (slots_match resumedBridge_reachable rfl).1 "s" ⟨"r2", 1⟩ (by decide)⟩

end Bridge
end AcpBridge
