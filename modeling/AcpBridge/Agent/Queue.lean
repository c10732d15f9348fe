import AcpBridge.Agent.Outbound

/-! The bridge refines the northbound path: the messages the writer has not reached are its
queue, and every event is a run of it. -/
namespace AcpBridge

open SessionRegistry Northbound

namespace Bridge

/-- The messages the writer has not reached. -/
def unwritten (b : Bridge) : List Outgoing := b.out.drop b.written

/-- The line of a message: an update is known by the token of its task. -/
def Shows (sdk : Sdk) (b : Bridge) : Outgoing → Line → Prop
  | .update s r u, line => ∃ t ∈ b.turns, t.sessionId = s ∧ t.requestId = r ∧
      line = .update s t.cancel (sdk.notificationLen s u)
  | .response _ _, line => line = .frame

/-- The bridge on the northbound path. -/
structure Queues (sdk : Sdk) (b : Bridge) (n : Northbound) : Prop where
  sessions : n.sessions = b.sessions
  queue : List.Forall₂ (b.Shows sdk) b.unwritten n.queue
  written : b.written ≤ b.out.length

/-- The line the writer takes next reads back as what it is. -/
def Framed (sdk : Sdk) (b : Bridge) : Event → Prop
  | .lineWritten => ∀ m, b.out[b.written]? = some m → sdk.Frames m
  | _ => True

/-- What an event is on the northbound path. -/
def Carries (limits : Limits) (n : Northbound) : Event → Northbound → Prop
  | .lineWritten, n' => n' = n.step .written
  | _, n' => (sendingSystem limits).Leads n n'

variable {sdk : Sdk} {state : BridgeState} {limits : Limits} {b b' : Bridge} {ev : Event}
  {n : Northbound}

theorem Shows.mono {m : Outgoing} {line : Line} (h : b.Shows sdk m line)
    (hkept : ∀ t ∈ b.turns, ∃ t' ∈ b'.turns, t.Continues t') : b'.Shows sdk m line := by
  cases m with
  | update s r u =>
    obtain ⟨t, ht, hs, hr, hline⟩ := h
    obtain ⟨t', ht', hc⟩ := hkept t ht
    exact ⟨t', ht', hc.sessionId.trans hs, hc.requestId.trans hr, by rw [hline, hc.cancel]⟩
  | response k reply => exact h

namespace Queues

theorem init (limits : Limits) :
    Queues sdk { sessions := .new limits } { sessions := .new limits } :=
  ⟨rfl, .nil, le_rfl⟩

theorem append (h : b.Queues sdk n) {new : List Outgoing} {lines : List Line}
    {sessions : SessionRegistry} (hsessions : b'.sessions = sessions)
    (hout : b'.out = b.out ++ new) (hwritten : b'.written = b.written)
    (hkept : ∀ t ∈ b.turns, ∃ t' ∈ b'.turns, t.Continues t')
    (hnew : List.Forall₂ (b'.Shows sdk) new lines) :
    b'.Queues sdk ⟨sessions, n.queue ++ lines⟩ := by
  refine ⟨hsessions.symm, ?_, ?_⟩
  · rw [unwritten, hout, hwritten, List.drop_append_of_le_length h.written]
    exact List.rel_append (h.queue.imp fun _ _ hm => hm.mono hkept) hnew
  · rw [hout, hwritten, List.length_append]
    exact h.written.trans (Nat.le_add_right _ _)

end Queues

theorem leads_ops {ops : List RegistryOp} (hops : ∀ op ∈ ops, op.isBuffer = false) :
    (sendingSystem limits).Leads n { n with sessions := RegistryOp.runAll n.sessions ops } := by
  induction ops generalizing n with
  | nil => exact .refl n
  | cons op ops ih =>
    obtain ⟨hop, hrest⟩ := List.forall_mem_cons.mp hops
    have hone : (sendingSystem limits).Leads n (n.step (.registry op)) :=
      .single (T := sendingSystem limits) (l := .registry op) ⟨hop, by simp⟩
    exact hone.trans (ih hrest)

/-- A handler works on the registry and may answer at once. -/
structure Handled (b b' : Bridge) : Prop where
  registry : ∃ ops, (∀ op ∈ ops, RegistryOp.isBuffer op = false) ∧
    b'.sessions = RegistryOp.runAll b.sessions ops
  out : ∃ new, b'.out = b.out ++ new ∧ ∀ m ∈ new, ∃ k reply, m = .response k reply
  written : b'.written = b.written

theorem Handled.of_reply {sessions : SessionRegistry} {op : RegistryOp} {cancels}
    (hb : op.isBuffer = false) (hs : sessions = op.run b.sessions) (reply : Reply) :
    b.Handled ({ b with sessions := sessions, cancels := cancels }.reply reply) where
  registry := ⟨[op], by simpa using hb, hs⟩
  out := ⟨_, rfl, by simp⟩
  written := rfl

/-- Everything but a task or the writer is a handler. -/
theorem step_handled (sdk : Sdk) (state : BridgeState) (b : Bridge)
    (hp : ∀ i now item sends, ev ≠ .poll i now item sends) (hw : ev ≠ .lineWritten) :
    b.Handled (b.step sdk state ev) := by
  cases ev with
  | newSession id cwd =>
    have hrun : (b.sessions.create id cwd).2 = RegistryOp.run b.sessions (.create id cwd) := rfl
    simp only [step, handleNewSession]
    rcases hc : b.sessions.create id cwd with ⟨_ | _, _⟩ <;> rw [hc] at hrun <;>
      exact .of_reply rfl hrun _
  | resumeSession s cwd =>
    have hrun : (b.sessions.resume s cwd).2 = RegistryOp.run b.sessions (.resume s cwd) := rfl
    simp only [step, handleResume]
    rcases hc : b.sessions.resume s cwd with ⟨_ | _, _⟩ <;> rw [hc] at hrun <;>
      exact .of_reply rfl hrun _
  | prompt s r prompt =>
    obtain ⟨err, hp⟩ | ⟨text, _, _, hp⟩ := handlePrompt_cases state b s r prompt <;> rw [step, hp]
    · exact ⟨⟨[], by simp, rfl⟩, ⟨_, rfl, by simp⟩, rfl⟩
    · exact ⟨⟨[.beginTurn s r], by simp [RegistryOp.isBuffer], rfl⟩, ⟨[], by simp, by simp⟩, rfl⟩
  | cancel s =>
    simp only [step, handleCancel, spawnMuxCancel_eq]
    exact ⟨⟨[.cancelActiveTurn s], by simp [RegistryOp.isBuffer], rfl⟩, ⟨[], by simp, by simp⟩, rfl⟩
  | listSessions => exact ⟨⟨[], by simp, rfl⟩, ⟨_, rfl, by simp⟩, rfl⟩
  | closeSession s | deleteSession s =>
    simp only [step, handleRemove, spawnMuxCancel_eq]
    exact @Handled.of_reply b _ (.remove s) _ rfl rfl _
  | incomingClosed => exact ⟨⟨[], by simp, rfl⟩, ⟨[], by simp [step], by simp⟩, rfl⟩
  | shutdown =>
    exact ⟨⟨[.drainActiveTurns], by simp [RegistryOp.isBuffer], rfl⟩,
      ⟨[], by simp [step, shutdown], by simp⟩, rfl⟩
  | poll i now item sends => exact absurd rfl (hp i now item sends)
  | lineWritten => exact absurd rfl hw

namespace Queues

theorem handled (h : b.Queues sdk n) (hh : b.Handled b')
    (hkept : ∀ t ∈ b.turns, ∃ t' ∈ b'.turns, t.Continues t') :
    ∃ n', (sendingSystem limits).Leads n n' ∧ b'.Queues sdk n' := by
  obtain ⟨ops, hops, hsessions⟩ := hh.registry
  obtain ⟨new, hout, hnew⟩ := hh.out
  have hframes : ∀ (m : Northbound) (k : ℕ), (sendingSystem limits).Leads m
      { m with queue := m.queue ++ List.replicate k .frame } := by
    intro m k
    induction k with
    | zero => simpa using .refl m
    | succ k ih =>
      have hone := ih.trans (Stretch.leads_frame limits _)
      rwa [List.append_assoc, ← List.replicate_succ'] at hone
  refine ⟨_, (leads_ops hops).trans (hframes _ new.length), ?_⟩
  refine h.append (by rw [hsessions, h.sessions]) hout hh.written hkept ?_
  clear hout
  induction new with
  | nil => exact .nil
  | cons m new ih =>
    obtain ⟨⟨k, reply, rfl⟩, hrest⟩ := List.forall_mem_cons.mp hnew
    exact .cons rfl (ih hrest)

theorem eq (h : b.Queues sdk n) : n = ⟨b.sessions, n.queue⟩ := by
  rw [← h.sessions]

theorem polls (limits : Limits) (h : b.Queues sdk n) (hs : b.Slots) {i : ℕ} {t : RunTurn}
    {input : PollInput} {st : Stretch} (hp : b.Polls sdk state ev i t input st b')
    (hwritten : b'.written = b.written)
    (hkept : ∀ t ∈ b.turns, ∃ t' ∈ b'.turns, t.Continues t') :
    ∃ before, Stretch.Sent sdk limits t b.sessions input n.queue st before ∧
      b'.Queues sdk ⟨st.sessions, n.queue ++ st.out.map (Outgoing.lineOf sdk t.cancel)⟩ := by
  obtain ⟨before, hsent⟩ := Stretch.poll_sent sdk state limits (hs.running t hp.mem hp.running)
    (hs.held t hp.mem (.inl hp.running)) (hs.begun t hp.mem).1 input n.queue
  obtain ⟨sent, answer, hpolled⟩ := hs.polled hp
  rw [← hp.stretch] at hsent
  refine ⟨before, hsent, h.append hp.sessions hp.out hwritten hkept ?_⟩
  rw [List.forall₂_map_right_iff, List.forall₂_same]
  intro m hm
  rw [hpolled.out, Stretch.messages, List.mem_append, List.mem_map, List.mem_map] at hm
  obtain ⟨u, _, rfl⟩ | ⟨reply, _, rfl⟩ := hm
  · refine ⟨st.turn, ?_, hpolled.sessionId, hpolled.requestId, ?_⟩
    · rw [hp.turns]
      exact Keyed.self_mem_set hp.turn
    · rw [hpolled.cancel]
      rfl
  · rfl

theorem lineWritten (h : b.Queues sdk n) (hf : b.Framed sdk .lineWritten) :
    (b.writeLine sdk).Queues sdk (n.step .written) := by
  cases hm : b.out[b.written]? with
  | none =>
    have hqueue := h.queue
    have hnil : b.unwritten = [] := List.drop_eq_nil_of_le (List.getElem?_eq_none_iff.mp hm)
    rw [hnil, List.forall₂_nil_left_iff] at hqueue
    have hsame : n.step .written = n := by simp only [Northbound.step, Northbound.written, hqueue]
    rw [writeLine, hm, hsame]
    exact h
  | some m =>
    obtain ⟨hlt, hget⟩ := List.getElem?_eq_some_iff.mp hm
    have hdrop : b.unwritten = m :: b.out.drop (b.written + 1) := by
      rw [unwritten, ← hget, List.cons_getElem_drop_succ]
    have hqueue := h.queue
    rw [hdrop, List.forall₂_cons_left_iff] at hqueue
    obtain ⟨line, rest, hline, hrest, hq⟩ := hqueue
    have hsessions : (n.step .written).sessions = noteLineWritten sdk b.sessions (sdk.line m) := by
      cases m with
      | update s r u =>
        obtain ⟨t, _, _, _, rfl⟩ := hline
        rw [noteLineWritten_update b.sessions (hf _ hm), ← h.sessions]
        simp only [Northbound.step, Northbound.written, hq]
      | response k reply =>
        obtain rfl := hline
        rw [noteLineWritten_response b.sessions (hf _ hm), ← h.sessions]
        simp only [Northbound.step, Northbound.written, hq]
    have hstep : (n.step .written).queue = rest := by
      cases m with
      | update s r u =>
        obtain ⟨t, _, _, _, rfl⟩ := hline
        simp only [Northbound.step, Northbound.written, hq]
      | response k reply =>
        obtain rfl := hline
        simp only [Northbound.step, Northbound.written, hq]
    rw [writeLine, hm]
    exact ⟨hsessions, by rw [hstep]; exact hrest.imp fun _ _ hx => hx, hlt⟩

theorem written_step_poll (sdk : Sdk) (state : BridgeState) (b : Bridge) (i : ℕ) (now : Duration)
    (item : Option StreamItem) (sends : List Bool) :
    (b.step sdk state (.poll i now item sends)).written = b.written := by
  obtain hp | ⟨_, _, _, _, _, hp⟩ := pollTurn_cases sdk state b i now item sends <;>
    rw [Bridge.step, hp]

/-- What a step of the bridge is on the northbound path. -/
theorem step (h : b.Queues sdk n) (hs : b.Slots) (he : b.Enabled ev) (hf : b.Framed sdk ev) :
    ∃ n', Carries limits n ev n' ∧ (b.step sdk state ev).Queues sdk n' := by
  have hkept := hs.kept (b.step_move sdk state he)
  cases ev with
  | lineWritten => exact ⟨_, rfl, h.lineWritten hf⟩
  | poll i now item sends =>
    by_cases hrun : ∃ t, b.turns[i]? = some t ∧ t.exit = none
    · obtain ⟨t, ht, hx⟩ := hrun
      have hp := step_polls sdk state b ht hx now item sends
      obtain ⟨before, hsent, hq⟩ := h.polls limits hs hp (written_step_poll ..) hkept
      exact ⟨_, h.eq ▸ hsent.leads_ended, hq⟩
    · rw [Bridge.step, pollTurn_of_idle sdk state b hrun]
      exact ⟨n, .refl n, h⟩
  | _ => exact h.handled (step_handled sdk state b (by simp) (by simp)) hkept

/-- The lines of a turn on the northbound path are its unwritten updates. -/
theorem ownSizes_eq (h : b.Queues sdk n) (hs : b.Slots) {t : RunTurn} (ht : t ∈ b.turns) :
    ownSizes t.sessionId t.cancel n.queue =
      (updatesOf t.requestId b.unwritten).map (sdk.notificationLen t.sessionId) := by
  have hq := h.queue
  generalize b.unwritten = out at hq ⊢
  generalize n.queue = queue at hq ⊢
  induction hq with
  | nil => rfl
  | @cons m line out queue hline _ ih =>
    cases m with
    | response k reply =>
      obtain rfl := hline
      rw [ownSizes_frame, ih]
      rfl
    | update s r u =>
      obtain ⟨x, hx, rfl, rfl, rfl⟩ := hline
      have hsame : x.sessionId = t.sessionId ∧ x.cancel = t.cancel ↔ x.requestId = t.requestId := by
        constructor
        · exact fun hc => congrArg _ (hs.tokens.eq hx ht hc.2)
        · intro hr
          obtain rfl := hs.requestIds.eq hx ht hr
          exact ⟨rfl, rfl⟩
      have hcons : updatesOf t.requestId (.update x.sessionId x.requestId u :: out) =
          if x.requestId = t.requestId then u :: updatesOf t.requestId out
          else updatesOf t.requestId out := by
        by_cases hr : x.requestId = t.requestId <;> simp [updatesOf, hr]
      rw [ownSizes_update, if_congr hsame rfl rfl, hcons]
      split_ifs with hr
      · obtain rfl := hs.requestIds.eq hx ht hr
        rw [ih, List.map_cons]
      · exact ih

theorem pos (h : b.Queues sdk n) (hpos : ∀ s u, 0 < (sdk.notificationLen s u).val) :
    ∀ s token bytes, Line.update s token bytes ∈ n.queue → 0 < bytes.val := by
  intro s token bytes hl
  have hq := h.queue
  generalize b.unwritten = out at hq
  generalize n.queue = queue at hq hl
  induction hq with
  | nil => simp at hl
  | @cons m line out queue hline _ ih =>
    obtain rfl | hl := List.mem_cons.mp hl
    · cases m with
      | response k reply => simp [Shows] at hline
      | update s' r u =>
        obtain ⟨t, _, _, _, heq⟩ := hline
        obtain ⟨-, -, rfl⟩ : s = s' ∧ token = t.cancel ∧ bytes = sdk.notificationLen s' u := by
          simpa using heq
        exact hpos s' u
    · exact ih hl

end Queues

theorem out_of_step (he : b.Enabled ev) : b.out <+: (b.step sdk state ev).out := by
  obtain ⟨_, ⟨hout, _⟩ | ⟨_, _, hout, _⟩⟩ | ⟨_, _, _, h⟩ | ⟨_, _, _, _, h⟩ :=
    (b.step_move sdk state he).tasks
  · rw [hout]
  · rw [hout]
    exact List.prefix_append _ _
  · rw [h.out]
  · rw [h.out]
    exact List.prefix_append _ _

theorem out_of_run {evs : List Event}
    (he : (bridgeSystem sdk state limits).Along Bridge.Enabled b evs) :
    b.out <+: ((bridgeSystem sdk state limits).exec b evs).out :=
  TransitionSystem.exec_invariant (P := fun b' => b.out <+: b'.out)
    (fun _ _ hout hev => hout.trans (out_of_step hev)) (List.prefix_refl _) he

theorem framed_of_out (hf : ∀ m ∈ b.out, sdk.Frames m) (ev : Event) : b.Framed sdk ev := by
  cases ev with
  | lineWritten => exact fun m hm => hf m (List.mem_of_getElem? hm)
  | _ => trivial

theorem framed_along {evs : List Event}
    (he : (bridgeSystem sdk state limits).Along Bridge.Enabled b evs)
    (hf : ∀ m ∈ ((bridgeSystem sdk state limits).exec b evs).out, sdk.Frames m) :
    (bridgeSystem sdk state limits).Along (fun b ev => b.Enabled ev ∧ b.Framed sdk ev) b evs := by
  induction evs generalizing b with
  | nil => trivial
  | cons ev evs ih =>
    have hold : ∀ m ∈ b.out, sdk.Frames m := fun m hm => hf m ((out_of_run he).subset hm)
    exact ⟨⟨he.1, framed_of_out hold ev⟩, ih he.2 hf⟩

theorem Carries.owned {n' : Northbound} (h : Carries limits n ev n') :
    (ownedSystem limits).Leads n n' := by
  have hsending : (sendingSystem limits).Leads n n' → (ownedSystem limits).Leads n n' :=
    TransitionSystem.Leads.weaken fun _ _ hl => hl.1
  cases ev with
  | lineWritten =>
    obtain rfl := h
    exact .single (T := ownedSystem limits) (l := .written) trivial
  | _ => exact hsending h

/-- The bridge refines the northbound path with sends of registered turns only. -/
theorem queues_of_reachable (h : (bridgeSystem sdk state limits).Reachable b)
    (hf : ∀ m ∈ b.out, sdk.Frames m) : ∃ n, (ownedSystem limits).Reachable n ∧ b.Queues sdk n := by
  refine TransitionSystem.Reachable.invariant (P := fun b => (∀ m ∈ b.out, sdk.Frames m) →
    ∃ n, (ownedSystem limits).Reachable n ∧ b.Queues sdk n)
    (fun _ => ⟨_, .start, .init limits⟩) (fun b ev hr hb he hf => ?_) h hf
  have hold : ∀ m ∈ b.out, sdk.Frames m := fun m hm => hf m ((out_of_step he).subset hm)
  obtain ⟨n, hn, hq⟩ := hb hold
  have hstep := @Queues.step sdk state limits b ev n hq (slots_of_reachable hr) he
  obtain ⟨n', hcarries, hq'⟩ := hstep (framed_of_out hold ev)
  exact ⟨n', hcarries.owned.reachable hn, hq'⟩

end Bridge
end AcpBridge
