import AcpBridge.Agent.Slots

/-! The messages queued to the host, read per request and per turn: what every turn has been
answered, and that nothing of a turn follows its answer. -/
namespace AcpBridge

open SessionRegistry

/-- The answers a request has been given. -/
def answersTo (request : ℕ) (out : List Outgoing) : List Reply :=
  out.filterMap fun
    | .response n reply => if n = request then some reply else none
    | .update .. => none

/-- The updates queued for a turn. -/
def updatesOf (requestId : String) (out : List Outgoing) : List SessionUpdate :=
  out.filterMap fun
    | .update _ r u => if r = requestId then some u else none
    | .response .. => none

/-- No update of the turn is queued behind an answer to the request. -/
def Closed (request : ℕ) (requestId : String) : List Outgoing → Prop
  | [] => True
  | .response n _ :: rest =>
    (n = request → updatesOf requestId rest = []) ∧ Closed request requestId rest
  | .update .. :: rest => Closed request requestId rest

section Messages
variable {n request : ℕ} {r requestId : String} {xs ys : List Outgoing}

@[simp] theorem answersTo_append :
    answersTo n (xs ++ ys) = answersTo n xs ++ answersTo n ys := List.filterMap_append

@[simp] theorem updatesOf_append :
    updatesOf r (xs ++ ys) = updatesOf r xs ++ updatesOf r ys := List.filterMap_append

@[simp] theorem answersTo_response (reply : Reply) :
    answersTo n [.response request reply] = if request = n then [reply] else [] := by
  by_cases h : request = n <;> simp [answersTo, h]

@[simp] theorem updatesOf_response (reply : Reply) : updatesOf r [.response request reply] = [] :=
  rfl

@[simp] theorem answersTo_updates (s : String) (sent : List SessionUpdate) :
    answersTo n (sent.map (.update s requestId)) = [] := by
  simp [answersTo, List.filterMap_map]

@[simp] theorem updatesOf_updates (s : String) (sent : List SessionUpdate) :
    updatesOf r (sent.map (.update s requestId)) = if requestId = r then sent else [] := by
  by_cases h : requestId = r <;> simp [updatesOf, List.filterMap_map, h]

theorem answersTo_messages (t : RunTurn) (sent : List SessionUpdate) (answer : Option Reply) :
    answersTo n (Stretch.messages t sent answer) = if t.request = n then answer.toList else [] := by
  cases answer <;> simp [Stretch.messages]

theorem updatesOf_messages (t : RunTurn) (sent : List SessionUpdate) (answer : Option Reply) :
    updatesOf r (Stretch.messages t sent answer) = if t.requestId = r then sent else [] := by
  cases answer <;> simp [Stretch.messages]

theorem closed_append : Closed n r (xs ++ ys) ↔
    Closed n r xs ∧ Closed n r ys ∧ (answersTo n xs ≠ [] → updatesOf r ys = []) := by
  induction xs with
  | nil => simp [Closed, answersTo]
  | cons m xs ih =>
    cases m with
    | update s q u =>
      simpa [Closed, answersTo] using ih
    | response k reply =>
      by_cases hk : k = n
      · simp [Closed, answersTo, ih, hk]
        tauto
      · simp only [answersTo, List.cons_append, Closed, hk, false_implies, true_and, ih,
          List.filterMap_cons, if_false]

theorem closed_of_unanswered (h : answersTo n xs = []) : Closed n r xs := by
  induction xs with
  | nil => trivial
  | cons m xs ih =>
    cases m with
    | update s q u => exact ih (by simpa [answersTo] using h)
    | response k reply =>
      have hk : k ≠ n := fun hk => by simp [answersTo, hk] at h
      exact ⟨fun hn => absurd hn hk, ih (by simpa [answersTo, hk] using h)⟩

theorem closed_messages (t : RunTurn) (sent : List SessionUpdate) (answer : Option Reply) :
    Closed n r (Stretch.messages t sent answer) := by
  refine closed_append.mpr ⟨closed_of_unanswered (answersTo_updates _ _), ?_, by simp⟩
  cases answer with
  | none => trivial
  | some reply => exact ⟨fun _ => rfl, trivial⟩

theorem Closed.split (h : Closed n r xs) {before after : List Outgoing} {reply : Reply}
    (hx : xs = before ++ .response n reply :: after) : updatesOf r after = [] := by
  subst hx
  exact (closed_append.mp h).2.1.1 rfl

end Messages
namespace Bridge

/-- Answers belong to the ways out, and nothing of a turn follows its answer. -/
structure Ledger (b : Bridge) : Prop where
  unanswered : ∀ t ∈ b.turns, t.exit = none → answersTo t.request b.out = []
  answered : ∀ t ∈ b.turns, ∀ e, t.exit = some e →
    ∃ answer, e.Answers t.sawTerminal answer ∧ answersTo t.request b.out = answer.toList
  future : ∀ n, b.requests ≤ n → answersTo n b.out = []
  unheard : ∀ r, (∀ t ∈ b.turns, t.requestId ≠ r) → updatesOf r b.out = []
  closed : ∀ t ∈ b.turns, Closed t.request t.requestId b.out

variable {sdk : Sdk} {state : BridgeState} {limits : Limits} {b b' : Bridge} {ev : Event}

/-- An answer given at once concerns no earlier request and no turn. -/
theorem Answered.new (h : b.Answered b') : b.requests ≤ b'.requests ∧ ∃ new, b'.out = b.out ++ new ∧
    (∀ r, updatesOf r new = []) ∧ (∀ n, n ≠ b.requests → answersTo n new = []) ∧
    (∀ n, b'.requests ≤ n → answersTo n new = []) ∧ ∀ n r, Closed n r new := by
  obtain ⟨ho, hr⟩ | ⟨reply, _, ho, hr⟩ := h
  · exact ⟨hr.ge, [], by simp [ho], by simp [updatesOf], by simp [answersTo], by simp [answersTo],
      fun _ _ => trivial⟩
  · refine ⟨by omega, _, ho, by simp, fun n hn => ?_, fun n hn => ?_,
      fun n r => ⟨fun _ => rfl, trivial⟩⟩
    · simp [Ne.symm hn]
    · have : b.requests ≠ n := by omega
      simp [this]

theorem ledger_init (limits : Limits) : Ledger { sessions := .new limits } where
  unanswered := by simp
  answered := by simp
  future := by simp [answersTo]
  unheard := by simp [updatesOf]
  closed := by simp

namespace Ledger

theorem of_answered (hl : b.Ledger) (hs : b.Slots) (hturns : b'.turns = b.turns)
    (h : b.Answered b') : b'.Ledger := by
  obtain ⟨hle, new, hout, hupd, hother, hfuture, hclosed⟩ := h.new
  have hsame : ∀ t ∈ b.turns, answersTo t.request b'.out = answersTo t.request b.out := by
    intro t ht
    rw [hout, answersTo_append, hother t.request (hs.begun t ht).2.ne, List.append_nil]
  exact {
    unanswered := by
      rw [hturns]
      exact fun t ht hx => (hsame t ht).trans (hl.unanswered t ht hx)
    answered := by
      rw [hturns]
      intro t ht e he
      rw [hsame t ht]
      exact hl.answered t ht e he
    future := by
      intro n hn
      rw [hout, answersTo_append, hl.future n (hle.trans hn), hfuture n hn]
      rfl
    unheard := by
      rw [hturns]
      intro r hr
      rw [hout, updatesOf_append, hl.unheard r hr, hupd]
      rfl
    closed := by
      rw [hturns]
      intro t ht
      rw [hout]
      exact closed_append.mpr ⟨hl.closed t ht, hclosed _ _, fun _ => hupd _⟩ }

theorem of_begins (hl : b.Ledger) {s r text : String} (h : b.Begins state s r text b') :
    b'.Ledger where
  unanswered := by
    rw [h.turns, h.out, List.forall_mem_append, List.forall_mem_singleton]
    exact ⟨hl.unanswered, fun _ => hl.future _ le_rfl⟩
  answered := by
    rw [h.turns, h.out, List.forall_mem_append, List.forall_mem_singleton]
    exact ⟨hl.answered, by simp [newTurn]⟩
  future := by
    rw [h.out, h.requests]
    exact fun n hn => hl.future n (Nat.le_of_succ_le hn)
  unheard := by
    rw [h.turns, h.out]
    exact fun r hr => hl.unheard r fun x hx => hr x (List.mem_append_left _ hx)
  closed := by
    rw [h.turns, h.out, List.forall_mem_append, List.forall_mem_singleton]
    exact ⟨hl.closed, closed_of_unanswered (hl.future _ le_rfl)⟩

/-- A stretch writes into the account of its own turn only. -/
theorem of_polls (hl : b.Ledger) (hs : b.Slots) {i : ℕ} {t : RunTurn} {input : PollInput}
    {st : Stretch} {sent : List SessionUpdate} {answer : Option Reply}
    (hp : b.Polls sdk state ev i t input st b')
    (h : Stretch.Polled sdk state t input b.sessions st sent answer) : b'.Ledger := by
  have ht := hp.mem
  have hother : ∀ x ∈ b.turns, x.requestId ≠ t.requestId → t.request ≠ x.request :=
    fun x hxb hne hreq => hne (congrArg _ (hs.requests.eq ht hxb hreq).symm)
  have hown : answersTo t.request b'.out = answer.toList := by
    rw [hp.out, h.out, answersTo_append, answersTo_messages, if_pos rfl,
      hl.unanswered t ht hp.running, List.nil_append]
  have hkept : ∀ x ∈ b.turns, x.requestId ≠ t.requestId →
      answersTo x.request b'.out = answersTo x.request b.out := by
    intro x hxb hne
    rw [hp.out, h.out, answersTo_append, answersTo_messages, if_neg (hother x hxb hne),
      List.append_nil]
  exact {
    unanswered := by
      intro x hxm hxx
      obtain rfl | ⟨hxb, hne⟩ := hs.mem_polls hp hxm
      · rw [h.request, hown, h.stays hxx]
        rfl
      · exact (hkept x hxb hne).trans (hl.unanswered x hxb hxx)
    answered := by
      intro x hxm e he
      obtain rfl | ⟨hxb, hne⟩ := hs.mem_polls hp hxm
      · exact ⟨answer, h.answers e he, by rw [h.request, hown]⟩
      · rw [hkept x hxb hne]
        exact hl.answered x hxb e he
    future := by
      intro n hn
      rw [hp.requests] at hn
      rw [hp.out, h.out, answersTo_append, answersTo_messages, hl.future n hn,
        if_neg ((hs.begun t ht).2.trans_le hn).ne]
      rfl
    unheard := by
      intro r hr
      have hold : ∀ x ∈ b.turns, x.requestId ≠ r := by
        intro x hxb hxr
        by_cases hxt : x = t
        · refine hr st.turn ?_ (h.requestId.trans (hxt ▸ hxr))
          rw [hp.turns]
          exact Keyed.self_mem_set hp.turn
        · refine hr x ?_ hxr
          rw [hp.turns]
          exact Keyed.mem_set_of_ne hp.turn hxb hxt
      rw [hp.out, h.out, updatesOf_append, updatesOf_messages, hl.unheard r hold,
        if_neg (hold t ht)]
      rfl
    closed := by
      intro x hxm
      rw [hp.out, h.out]
      obtain rfl | ⟨hxb, hne⟩ := hs.mem_polls hp hxm
      · rw [h.request, h.requestId]
        exact closed_append.mpr ⟨hl.closed t ht, closed_messages _ _ _,
          fun hne => absurd (hl.unanswered t ht hp.running) hne⟩
      · exact closed_append.mpr ⟨hl.closed x hxb, closed_messages _ _ _, fun _ => by
          rw [updatesOf_messages, if_neg (Ne.symm hne)]⟩ }

theorem move (hl : b.Ledger) (hs : b.Slots) (hm : b.Move sdk state ev b') : b'.Ledger := by
  obtain ⟨hturns, hanswered⟩ | ⟨s, r, text, h⟩ | ⟨i, t, input, st, h⟩ := hm.tasks
  · exact hl.of_answered hs hturns hanswered
  · exact hl.of_begins h
  · obtain ⟨sent, answer, hpolled⟩ := hs.polled h
    exact hl.of_polls hs h hpolled

end Ledger

theorem ledger_of_reachable (h : (bridgeSystem sdk state limits).Reachable b) : b.Ledger :=
  h.invariant (ledger_init limits) fun s _ hr hl he =>
    hl.move (slots_of_reachable hr) (s.step_move sdk state he)

end Bridge
end AcpBridge
