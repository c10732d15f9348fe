import AcpBridge.Agent.Answers

/-! The order of the updates of one session: its turns follow one another, and an update is
never queued for a turn once a later turn of the session has begun. -/
namespace AcpBridge

open SessionRegistry

/-- The turn a message is an update of. -/
def Outgoing.turn : Outgoing → Option String
  | .update _ r _ => some r
  | .response _ _ => none

/-- No update of turn `r` stands behind one of turn `r'`. -/
def Behind (r r' : String) (out : List Outgoing) : Prop :=
  out.Pairwise fun m m' => m.turn = some r' → m'.turn ≠ some r

section Behind
variable {r r' : String} {xs ys : List Outgoing}

theorem Behind.append (h : Behind r r' xs) (hnew : ∀ m ∈ ys, m.turn ≠ some r) :
    Behind r r' (xs ++ ys) := by
  rw [Behind, List.pairwise_append]
  refine ⟨h, ?_, fun m _ m' hm' _ => hnew m' hm'⟩
  exact List.pairwise_of_forall_mem_list fun m _ m' hm' _ => hnew m' hm'

theorem mem_updatesOf {m : Outgoing} (hm : m ∈ xs) (ht : m.turn = some r) :
    updatesOf r xs ≠ [] := by
  cases m with
  | response n reply => simp [Outgoing.turn] at ht
  | update s q u =>
    obtain rfl : q = r := Option.some.inj ht
    refine List.ne_nil_of_mem (a := u) (List.mem_filterMap.mpr ⟨_, hm, ?_⟩)
    simp

theorem updatesOf_eq_nil : updatesOf r xs = [] ↔ ∀ m ∈ xs, m.turn ≠ some r := by
  constructor
  · exact fun h m hm ht => mem_updatesOf hm ht h
  · intro h
    refine List.filterMap_eq_nil_iff.mpr fun m hm => ?_
    cases m with
    | response n reply => rfl
    | update s q u =>
      have hq : q ≠ r := fun hqr => h _ hm (hqr ▸ rfl)
      simp [hq]

/-- No update of a turn that has sent none stands before anything. -/
theorem Behind.of_unheard (h : updatesOf r' xs = []) : Behind r r' xs :=
  List.pairwise_of_forall_mem_list fun m hm _ _ ht => absurd ht (updatesOf_eq_nil.mp h m hm)

theorem Behind.split (h : Behind r r' xs) {before after : List Outgoing} {s : String}
    {u : SessionUpdate} (hx : xs = before ++ .update s r' u :: after) : updatesOf r after = [] := by
  subst hx
  have htail := (List.pairwise_cons.mp (List.pairwise_append.mp h).2.1).1
  exact updatesOf_eq_nil.mpr fun m hm => htail m hm rfl

end Behind

/-- A task is told to stop at the latest when the next turn of its session begins. -/
def RunTurn.Superseded (t : RunTurn) (tokens : CancellationTokens) : Prop :=
  t.exit ≠ none ∨ t.cancel ∈ tokens.fired

namespace Bridge

/-- Two turns of one session, the first begun before the second. -/
def Follows (b : Bridge) (t t' : RunTurn) : Prop :=
  ∃ i j : ℕ, i < j ∧ b.turns[i]? = some t ∧ b.turns[j]? = some t' ∧ t.sessionId = t'.sessionId

/-- The turns of a session follow one another. -/
def Serial (b : Bridge) : Prop := ∀ t t', b.Follows t t' →
  t.Superseded b.sessions.tokens ∧ Behind t.requestId t'.requestId b.out

variable {sdk : Sdk} {state : BridgeState} {limits : Limits} {b b' : Bridge} {ev : Event}

/-- A cancelled task queues no update. -/
theorem Slots.quiet (hs : b.Slots) {i : ℕ} {t : RunTurn} {input : PollInput} {st : Stretch}
    (hp : b.Polls sdk state ev i t input st b') (hf : t.cancel ∈ b.sessions.tokens.fired) :
    ∀ m ∈ st.out, m.turn = none := by
  obtain ⟨sent, answer, hpolled⟩ := hs.polled hp
  have hx : st.turn.exit = some .cancelled := hpolled.cancelled.mpr hf
  have hsent : sent = [] := by
    cases hpolled.took with
    | nothing _ _ _ hsent _ => exact hsent
    | close _ _ _ _ hsent _ => exact hsent
    | error _ _ _ _ _ hsent _ => exact hsent
    | event _ _ _ _ _ _ ways _ => rcases ways _ hx with hw | hw | hw | hw <;> simp at hw
  rw [hpolled.out, hsent]
  cases answer <;> simp [Stretch.messages, Outgoing.turn]

theorem Slots.turn_of_mem (hs : b.Slots) {i : ℕ} {t : RunTurn} {input : PollInput} {st : Stretch}
    (hp : b.Polls sdk state ev i t input st b') {m : Outgoing} (hm : m ∈ st.out) {r : String}
    (hr : m.turn = some r) : r = t.requestId := by
  obtain ⟨sent, answer, hpolled⟩ := hs.polled hp
  rw [hpolled.out, Stretch.messages, List.mem_append, List.mem_map, List.mem_map] at hm
  obtain ⟨u, _, rfl⟩ | ⟨reply, _, rfl⟩ := hm
  · exact (Option.some.inj hr).symm
  · simp [Outgoing.turn] at hr

namespace Serial

theorem of_answered (h : b.Serial) (hturns : b'.turns = b.turns) (ha : b.Answered b')
    (hmono : ∀ x ∈ b.sessions.tokens.fired, x ∈ b'.sessions.tokens.fired) : b'.Serial := by
  intro t t' hf
  rw [Follows, hturns] at hf
  obtain ⟨hsup, hbehind⟩ := h t t' hf
  refine ⟨hsup.imp_right (hmono _), ?_⟩
  obtain ⟨hout, _⟩ | ⟨reply, _, hout, _⟩ := ha
  · rwa [hout]
  · rw [hout]
    exact hbehind.append (by simp [Outgoing.turn])

/-- The turns before a new one of the session have been cancelled or are done. -/
theorem of_begins (h : b.Serial) (hs : b.Slots) (hl : b.Ledger) {s r text : String}
    (hb : b.Begins state s r text b') : b'.Serial := by
  have hfired : b'.sessions.tokens.fired = b.sessions.tokens.fired := by rw [hb.tokens]
  rintro t t' ⟨i, j, hij, hi, hj, hsession⟩
  rw [hb.turns] at hi hj
  rw [RunTurn.Superseded, hfired, hb.out]
  rcases lt_trichotomy j b.turns.length with hlt | rfl | hgt
  · rw [List.getElem?_append_left hlt] at hj
    rw [List.getElem?_append_left (hij.trans hlt)] at hi
    exact h t t' ⟨i, j, hij, hi, hj, hsession⟩
  · rw [List.getElem?_append_left hij] at hi
    rw [List.getElem?_concat_length] at hj
    obtain rfl := Option.some.inj hj
    have ht := List.mem_of_getElem? hi
    refine ⟨?_, .of_unheard (hl.unheard r hb.fresh)⟩
    by_cases hx : t.exit = none
    · right
      refine (hs.held t ht (.inl hx)).resolve_left fun ha => ?_
      have hts : t.sessionId = s := hsession
      rw [hts, hb.free] at ha
      simp at ha
    · exact .inl hx
  · rw [List.getElem?_eq_none (by simp; omega)] at hj
    simp at hj

/-- A task that has been superseded says nothing more of its turn. -/
theorem of_polls (h : b.Serial) (hs : b.Slots) {i : ℕ} {t : RunTurn} {input : PollInput}
    {st : Stretch} (hp : b.Polls sdk state ev i t input st b') : b'.Serial := by
  obtain ⟨sent, answer, hpolled⟩ := hs.polled hp
  have hfired : b'.sessions.tokens.fired = b.sessions.tokens.fired := by
    rw [hp.sessions, hpolled.tokens]
  have hold : ∀ (k : ℕ) (x' : RunTurn), b'.turns[k]? = some x' → ∃ x, b.turns[k]? = some x ∧
      x'.sessionId = x.sessionId ∧ x'.requestId = x.requestId ∧
      (x.Superseded b.sessions.tokens → x'.Superseded b'.sessions.tokens) := by
    intro k x' hk
    rw [hp.turns] at hk
    rcases eq_or_ne i k with rfl | hik
    · rw [List.getElem?_set_self (List.getElem?_eq_some_iff.mp hp.turn).1] at hk
      obtain rfl := Option.some.inj hk
      refine ⟨t, hp.turn, hpolled.sessionId, hpolled.requestId, fun hsup => ?_⟩
      obtain hx | hf := hsup
      · exact absurd hp.running hx
      · right
        rwa [hpolled.cancel, hfired]
    · rw [List.getElem?_set_ne hik] at hk
      exact ⟨x', hk, rfl, rfl, fun hsup => by rwa [RunTurn.Superseded, hfired]⟩
  rintro x' y' ⟨j, k, hjk, hj, hk, hsession⟩
  obtain ⟨x, hxj, hxs, hxr, hxsup⟩ := hold j x' hj
  obtain ⟨y, hyk, hys, hyr, _⟩ := hold k y' hk
  obtain ⟨hsup, hbehind⟩ := h x y ⟨j, k, hjk, hxj, hyk, by rw [← hxs, ← hys, hsession]⟩
  refine ⟨hxsup hsup, ?_⟩
  rw [hxr, hyr, hp.out]
  refine hbehind.append fun m hm hmx => ?_
  have hown : x = t := hs.requestIds.eq (List.mem_of_getElem? hxj) hp.mem (hs.turn_of_mem hp hm hmx)
  subst hown
  obtain hx | hf := hsup
  · exact hx hp.running
  · rw [hs.quiet hp hf m hm] at hmx
    simp at hmx

theorem move (h : b.Serial) (hs : b.Slots) (hl : b.Ledger) (hm : b.Move sdk state ev b') :
    b'.Serial := by
  have hmono := hs.fired_mono hm
  obtain ⟨hturns, ha⟩ | ⟨s, r, text, hb⟩ | ⟨i, t, input, st, hp⟩ := hm.tasks
  · exact h.of_answered hturns ha hmono
  · exact h.of_begins hs hl hb
  · exact h.of_polls hs hp

end Serial

theorem serial_of_reachable (h : (bridgeSystem sdk state limits).Reachable b) : b.Serial := by
  refine h.invariant (P := Serial) ?_ fun s _ hr hb he =>
    hb.move (slots_of_reachable hr) (ledger_of_reachable hr) (s.step_move sdk state he)
  rintro t t' ⟨i, j, _, hi, _⟩
  simp [bridgeSystem] at hi

/-- The updates of a session come turn by turn, in the order of its prompts: when a later turn
has begun, the earlier one has left its loop or been told to, and behind an update of the later
one no update of the earlier one is ever queued. -/
theorem updates_serial (h : (bridgeSystem sdk state limits).Reachable b) {i j : ℕ}
    {t t' : RunTurn} (hij : i < j) (hi : b.turns[i]? = some t) (hj : b.turns[j]? = some t')
    (hsession : t.sessionId = t'.sessionId) :
    (t.exit ≠ none ∨ t.cancel ∈ b.sessions.tokens.fired) ∧
    ∀ before s u after, b.out = before ++ .update s t'.requestId u :: after →
      updatesOf t.requestId after = [] := by
  obtain ⟨hsup, hbehind⟩ := serial_of_reachable h t t' ⟨i, j, hij, hi, hj, hsession⟩
  exact ⟨hsup, fun _ _ _ _ hout => hbehind.split hout⟩

/-- A session is closed and resumed under a running turn, which is polled again after the next
turn has spoken. -/
def handoverRun : List Event :=
  [.newSession "s" "/tmp", .prompt "s" "r1" [.text "hi"],
    .poll 0 0 (some (.event ⟨"message", "Hel"⟩)) [true], .closeSession "s",
    .resumeSession "s" "/tmp", .prompt "s" "r2" [.text "hi"],
    .poll 1 1 (some (.event ⟨"message", "lo"⟩)) [true],
    .poll 0 2 (some (.event ⟨"message", "late"⟩)) [true]]

def handoverBridge : Bridge :=
  (bridgeSystem rawSdk {} {}).exec { sessions := .new {} } handoverRun

theorem handoverBridge_reachable : (bridgeSystem rawSdk {} {}).Reachable handoverBridge :=
  ⟨handoverRun, by decide, rfl⟩

/-- The late delta of the first turn is not queued. -/
theorem updates_serial_handover : ∃ t t', handoverBridge.turns[0]? = some t ∧
    handoverBridge.turns[1]? = some t' ∧ updatesOf t'.requestId handoverBridge.out ≠ [] ∧
    ∀ before s u after, handoverBridge.out = before ++ .update s t'.requestId u :: after →
      updatesOf t.requestId after = [] := by
  have hi := List.getElem?_eq_getElem (l := handoverBridge.turns) (i := 0) (by decide)
  have hj := List.getElem?_eq_getElem (l := handoverBridge.turns) (i := 1) (by decide)
  exact ⟨_, _, hi, hj, by decide,
    (updates_serial handoverBridge_reachable (by decide) hi hj (by decide)).2⟩

end Bridge
end AcpBridge
