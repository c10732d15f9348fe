import AcpBridge.Agent.Ledger

/-! One answer a prompt: a rejected prompt gets its error at once, an accepted one the answer
that belongs to the way its task leaves the loop, and nothing follows an answer. -/
namespace AcpBridge

open SessionRegistry

/-- The same task later on; a finished task does not change. -/
structure RunTurn.Continues (t t' : RunTurn) : Prop where
  request : t'.request = t.request
  sessionId : t'.sessionId = t.sessionId
  requestId : t'.requestId = t.requestId
  cancel : t'.cancel = t.cancel
  finished : t.exit ≠ none → t' = t

namespace RunTurn.Continues

theorem refl (t : RunTurn) : t.Continues t := ⟨rfl, rfl, rfl, rfl, fun _ => rfl⟩

theorem trans {t t' t'' : RunTurn} (h : t.Continues t') (h' : t'.Continues t'') :
    t.Continues t'' where
  request := h'.request.trans h.request
  sessionId := h'.sessionId.trans h.sessionId
  requestId := h'.requestId.trans h.requestId
  cancel := h'.cancel.trans h.cancel
  finished := fun hx => by
    obtain rfl := h.finished hx
    exact h'.finished hx

end RunTurn.Continues

theorem promptText_ok_iff {prompt : List ContentBlock} :
    (∃ text, promptText prompt = .ok text) ↔ ∀ block ∈ prompt, ∃ text, block = .text text := by
  induction prompt with
  | nil => simp [promptText]
  | cons block rest ih =>
    cases block with
    | text text =>
      rw [List.forall_mem_cons, ← ih, promptText]
      cases promptText rest <;> simp [Except.map]
    | _ => simp [promptText]

/-- An answer is given exactly on the ways out that leave someone to answer. -/
theorem Exit.Answers.length_eq_one {saw : Bool} {answer : Option Reply} {e : Exit}
    (h : e.Answers saw answer) :
    answer.toList.length = 1 ↔ e ≠ .hostDisconnected ∧ e ≠ .sendFailed := by
  cases e <;> simp only [Exit.Answers] at h
  case streamEnd =>
    split_ifs at h
    · simp [h]
    · obtain ⟨_, rfl⟩ := h
      simp
  case turnTimeout | idleTimeout | transportError | overflow | upstreamError =>
    obtain ⟨_, rfl⟩ := h
    simp
  all_goals simp [h]

theorem Exit.Answers.endTurn_iff {saw : Bool} {answer : Option Reply} {e : Exit}
    (h : e.Answers saw answer) :
    answer.toList = [.stop .endTurn] ↔ e = .done ∨ e = .streamEnd ∧ saw = true := by
  cases e <;> simp only [Exit.Answers] at h
  case streamEnd =>
    split_ifs at h with hsaw
    · simp [h, hsaw]
    · obtain ⟨_, rfl⟩ := h
      simp [hsaw]
  case turnTimeout | idleTimeout | transportError | overflow | upstreamError =>
    obtain ⟨_, rfl⟩ := h
    simp
  all_goals simp [h]

/-- Once its turn deadline has passed, a task leaves the loop at its next step. -/
theorem RunTurn.poll_of_deadline (sdk : Sdk) (state : BridgeState) (sessions : SessionRegistry)
    {t : RunTurn} {input : PollInput} {d : Duration × Duration} (hd : t.deadlines = some d)
    (hnow : d.1 ≤ input.now) : (t.poll sdk state sessions input).turn.exit ≠ none := by
  rw [poll, Stretch.finish_turn, hd, Option.getD_some]
  unfold Stretch.select
  rw [if_pos hnow]
  split_ifs <;> simp [Stretch.arm, Stretch.exit]

namespace Bridge
variable {sdk : Sdk} {state : BridgeState} {limits : Limits} {b b' : Bridge} {ev : Event}
  {s r : String} {prompt : List ContentBlock}

/-- The prompt is text for a known idle session and a turn slot is free. -/
structure Accepts (b : Bridge) (s : String) (prompt : List ContentBlock) : Prop where
  known : b.sessions.contains s = true
  text : ∀ block ∈ prompt, ∃ text, block = .text text
  idle : b.sessions.active s = none
  free : b.sessions.inFlight < b.sessions.limits.maxConcurrentTurns.val

theorem handlePrompt_of_accepts (state : BridgeState) (r : String) (h : b.Accepts s prompt) :
    ∃ text, b.handlePrompt state s r prompt = { b with
      sessions := (b.sessions.beginTurn s r).2
      turns := b.turns ++ [b.newTurn state s r text b.sessions.tokens.next]
      requests := b.requests + 1 } := by
  obtain ⟨text, htext⟩ := promptText_ok_iff.mpr h.text
  refine ⟨text, ?_⟩
  have hok : (b.sessions.beginTurn s r).1 = .ok b.sessions.tokens.next := by
    obtain ⟨entry, hl⟩ := Option.isSome_iff_exists.mp h.known
    have hidle : entry.activeTurn = none := by simpa [active, turn, hl] using h.idle
    have hfree := h.free
    simp only [beginTurn, hl, hidle, Option.isSome_none, Bool.false_eq_true, if_false,
      if_neg hfree.not_ge]
    rfl
  have hpair : b.sessions.beginTurn s r =
      (.ok b.sessions.tokens.next, (b.sessions.beginTurn s r).2) := Prod.ext hok rfl
  rw [handlePrompt, h.known, htext, hpair]
  rfl

theorem handlePrompt_of_not_accepts (state : BridgeState) (r : String) (h : ¬ b.Accepts s prompt) :
    ∃ err, b.handlePrompt state s r prompt = b.reply (.error err) := by
  obtain hrejected | ⟨text, htext, hok, _⟩ := handlePrompt_cases state b s r prompt
  · exact hrejected
  · obtain ⟨_, hidle, hknown, hfree, _⟩ := beginTurn_ok b.sessions s r hok
    exact absurd ⟨hknown, promptText_ok_iff.mp ⟨text, htext⟩, by rw [active, hidle]; rfl, hfree⟩ h

theorem Slots.continues (hs : b.Slots) (hm : b.Move sdk state ev b') {i : ℕ} {t : RunTurn}
    (hi : b.turns[i]? = some t) : ∃ t', b'.turns[i]? = some t' ∧ t.Continues t' := by
  obtain hi' | ⟨input, st, h⟩ := hm.task hi
  · exact ⟨t, hi', .refl t⟩
  · obtain ⟨sent, answer, hpolled⟩ := hs.polled h
    exact ⟨st.turn, h.turn_after, hpolled.request, hpolled.sessionId, hpolled.requestId,
      hpolled.cancel, fun hx => absurd h.running hx⟩

theorem Slots.kept (hs : b.Slots) (hm : b.Move sdk state ev b') :
    ∀ t ∈ b.turns, ∃ t' ∈ b'.turns, t.Continues t' := by
  intro t ht
  obtain ⟨i, hi⟩ := List.mem_iff_getElem?.mp ht
  obtain ⟨t', hi', hc⟩ := hs.continues hm hi
  exact ⟨t', List.mem_of_getElem? hi', hc⟩

theorem continues_henceforth (h : (bridgeSystem sdk state limits).Reachable b) {i : ℕ} {t : RunTurn}
    (hi : b.turns[i]? = some t) : (bridgeSystem sdk state limits).Henceforth
      (fun b' => ∃ t', b'.turns[i]? = some t' ∧ t.Continues t') b := by
  refine h.henceforth (fun b' ev hr hb hev => ?_) ⟨t, hi, .refl t⟩
  obtain ⟨t', hi', hc⟩ := hb
  obtain ⟨t'', hi'', hc'⟩ := (slots_of_reachable hr).continues (b'.step_move sdk state hev) hi'
  exact ⟨t'', hi'', hc.trans hc'⟩

/-- Only its task answers a request that was not answered at once. -/
theorem Slots.answers_kept (hs : b.Slots) (hm : b.Move sdk state ev b') {n : ℕ}
    (hn : n < b.requests) (hother : ∀ t ∈ b.turns, t.request ≠ n) :
    n < b'.requests ∧ (∀ t ∈ b'.turns, t.request ≠ n) ∧ answersTo n b'.out = answersTo n b.out := by
  obtain ⟨hturns, ha⟩ | ⟨s, r, text, h⟩ | ⟨i, t, input, st, h⟩ := hm.tasks
  · obtain ⟨hle, new, hout, _, hnew, _⟩ := ha.new
    refine ⟨hn.trans_le hle, by rwa [hturns], ?_⟩
    rw [hout, answersTo_append, hnew n hn.ne, List.append_nil]
  · have hreq := h.requests
    refine ⟨by omega, ?_, by rw [h.out]⟩
    rw [h.turns, List.forall_mem_append, List.forall_mem_singleton]
    exact ⟨hother, hn.ne'⟩
  · obtain ⟨sent, answer, hpolled⟩ := hs.polled h
    refine ⟨h.requests ▸ hn, fun x hx => ?_, ?_⟩
    · obtain rfl | ⟨hxb, _⟩ := hs.mem_polls h hx
      · exact hpolled.request ▸ hother t h.mem
      · exact hother x hxb
    · rw [h.out, hpolled.out, answersTo_append, answersTo_messages, if_neg (hother t h.mem),
        List.append_nil]

theorem answers_henceforth (h : (bridgeSystem sdk state limits).Reachable b) {n : ℕ}
    (hn : n < b.requests) (hother : ∀ t ∈ b.turns, t.request ≠ n) :
    (bridgeSystem sdk state limits).Henceforth (fun b' => n < b'.requests ∧
      (∀ t ∈ b'.turns, t.request ≠ n) ∧ answersTo n b'.out = answersTo n b.out) b := by
  refine h.henceforth (fun b' ev hr hb hev => ?_) ⟨hn, hother, rfl⟩
  obtain ⟨hn', hother', hsame⟩ := hb
  obtain ⟨hn'', hother'', hkept⟩ := (slots_of_reachable hr).answers_kept
    (b'.step_move sdk state hev) hn' hother'
  exact ⟨hn'', hother'', hkept.trans hsame⟩

/-- What the host has been sent about a task: one answer, unless the host or the connection
is gone, and no update behind it. -/
structure AnsweredOnce (t : RunTurn) (out : List Outgoing) : Prop where
  atMostOne : (answersTo t.request out).length ≤ 1
  running : t.exit = none → answersTo t.request out = []
  finished : ∀ e, t.exit = some e → ((answersTo t.request out).length = 1 ↔
    e ≠ .hostDisconnected ∧ e ≠ .sendFailed)
  last : ∀ before reply after, out = before ++ .response t.request reply :: after →
    updatesOf t.requestId after = []

theorem Ledger.answeredOnce (hl : b.Ledger) {t : RunTurn} (ht : t ∈ b.turns) :
    AnsweredOnce t b.out where
  atMostOne := by
    cases hx : t.exit with
    | none => simp [hl.unanswered t ht hx]
    | some e =>
      obtain ⟨answer, _, ha⟩ := hl.answered t ht e hx
      cases answer <;> simp [ha]
  running := hl.unanswered t ht
  finished := fun e hx => by
    obtain ⟨answer, hanswer, ha⟩ := hl.answered t ht e hx
    rw [ha]
    exact hanswer.length_eq_one
  last := fun _ _ _ hout => (hl.closed t ht).split hout

theorem step_poll_of_deadline {i : ℕ} {t : RunTurn} (hi : b.turns[i]? = some t)
    {d : Duration × Duration} (hd : t.deadlines = some d) {now : Duration} (hnow : d.1 ≤ now)
    (item : Option StreamItem) (sends : List Bool) :
    ∃ t', (b.step sdk state (.poll i now item sends)).turns[i]? = some t' ∧ t'.exit ≠ none := by
  cases hx : t.exit with
  | some e => exact ⟨t, by simp [step, pollTurn, hi, hx], by simp [hx]⟩
  | none => exact ⟨_, (step_polls sdk state b hi hx now item sends).turn_after,
      RunTurn.poll_of_deadline sdk state b.sessions hd hnow⟩

/-- One answer a prompt: at once when it is rejected, else by its task, in every later state. -/
theorem answered_once (h : (bridgeSystem sdk state limits).Reachable b)
    (he : b.Enabled (.prompt s r prompt)) :
    (¬ b.Accepts s prompt → ∃ err, b.step sdk state (.prompt s r prompt) = b.reply (.error err) ∧
      (bridgeSystem sdk state limits).Henceforth
        (fun b' => answersTo b.requests b'.out = [.error err]) (b.reply (.error err))) ∧
    (b.Accepts s prompt → (b.step sdk state (.prompt s r prompt)).out = b.out ∧
      (bridgeSystem sdk state limits).Henceforth
        (fun b' => ∃ t, b'.turns[b.turns.length]? = some t ∧ t.request = b.requests ∧
          t.sessionId = s ∧ t.requestId = r ∧ AnsweredOnce t b'.out ∧
          ∀ d now item sends, t.deadlines = some d → d.1 ≤ now →
            ∃ t', (b'.step sdk state (.poll b.turns.length now item sends)).turns[b.turns.length]? =
              some t' ∧ t'.exit ≠ none) (b.step sdk state (.prompt s r prompt))) := by
  have hnext : (bridgeSystem sdk state limits).Reachable (b.step sdk state (.prompt s r prompt)) :=
    h.next (l := .prompt s r prompt) he
  constructor
  · intro hrejected
    obtain ⟨err, hp⟩ := handlePrompt_of_not_accepts state r hrejected
    have hstep : b.step sdk state (.prompt s r prompt) = b.reply (.error err) := hp
    rw [hstep] at hnext
    have hother : ∀ t ∈ b.turns, t.request ≠ b.requests := fun t ht =>
      ((slots_of_reachable h).begun t ht).2.ne
    refine ⟨err, hstep, (answers_henceforth hnext (Nat.lt_succ_self _) hother).mono hnext
      fun b' _ hb => ?_⟩
    rw [hb.2.2, reply, answersTo_append, (ledger_of_reachable h).future _ le_rfl,
      answersTo_response, if_pos rfl, List.nil_append]
  · intro haccepted
    obtain ⟨text, hp⟩ := handlePrompt_of_accepts state r haccepted
    have hstep : b.step sdk state (.prompt s r prompt) = _ := hp
    have hi : (b.step sdk state (.prompt s r prompt)).turns[b.turns.length]? =
        some (b.newTurn state s r text b.sessions.tokens.next) := by
      rw [hstep]
      exact List.getElem?_concat_length
    refine ⟨by rw [hstep], (continues_henceforth hnext hi).mono hnext fun b' hr hb => ?_⟩
    obtain ⟨t, ht, hc⟩ := hb
    exact ⟨t, ht, hc.request, hc.sessionId, hc.requestId,
      (ledger_of_reachable hr).answeredOnce (List.mem_of_getElem? ht),
      fun d now item sends hd hnow => step_poll_of_deadline ht hd hnow item sends⟩

/-- A bridge with one session. -/
def openBridge : Bridge :=
  (bridgeSystem rawSdk {} {}).exec { sessions := .new {} } [.newSession "s" "/tmp"]

theorem openBridge_reachable : (bridgeSystem rawSdk {} {}).Reachable openBridge :=
  ⟨[.newSession "s" "/tmp"], by decide, rfl⟩

def promptedBridge : Bridge := openBridge.step rawSdk {} (.prompt "s" "r" [.text "hi"])

theorem promptedBridge_reachable : (bridgeSystem rawSdk {} {}).Reachable promptedBridge :=
  openBridge_reachable.next (l := .prompt "s" "r" [.text "hi"]) (by decide)

/-- An image is rejected; a text is answered once, when its stream ends too early. -/
theorem answered_once_truncated :
    (∃ err, openBridge.step rawSdk {} (.prompt "s" "r" [.image]) = openBridge.reply (.error err)) ∧
    ∃ t, ((bridgeSystem rawSdk {} {}).exec promptedBridge
        [.poll 0 0 (some .close) []]).turns[0]? = some t ∧ t.exit = some .streamEnd ∧
      (answersTo 1 ((bridgeSystem rawSdk {} {}).exec promptedBridge
        [.poll 0 0 (some .close) []]).out).length = 1 := by
  have himage : ¬ openBridge.Accepts "s" [.image] := fun h => by simpa using h.text
  obtain ⟨err, hrejected, _⟩ :=
    (answered_once openBridge_reachable (r := "r") (by decide)).1 himage
  have haccepts : openBridge.Accepts "s" [.text "hi"] :=
    ⟨by decide, by simp, by decide, by decide⟩
  obtain ⟨t, ht, hreq, _, _, honce, _⟩ :=
    ((answered_once openBridge_reachable (r := "r") (by decide)).2 haccepts).2
      [.poll 0 0 (some .close) []] (by decide)
  have hexit : (((bridgeSystem rawSdk {} {}).exec promptedBridge
      [.poll 0 0 (some .close) []]).turns[openBridge.turns.length]?).bind RunTurn.exit =
      some .streamEnd := by decide
  rw [promptedBridge, ht] at hexit
  have hanswer := (honce.finished _ hexit).mpr (by decide)
  rw [hreq] at hanswer
  exact ⟨⟨err, hrejected⟩, t, ht, hexit, hanswer⟩

end Bridge
end AcpBridge
