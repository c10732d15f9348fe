import AcpBridge.Lib.Refinement
import AcpBridge.Conversation
import AcpBridge.Agent.Answers

/-! The bridge refines the conversation: however its handlers, tasks and writer interleave,
what it sends and what it was asked make up a legal transcript. -/
namespace AcpBridge

open Utterance

/-- What the host reads of a message. -/
def Outgoing.utterance : Outgoing → Utterance
  | .update s _ u => .update s u
  | .response n reply => .response n reply

/-- The request an event is the arrival of. -/
def Event.request : Event → Option Request
  | .newSession _ _ => some .newSession
  | .prompt s _ _ => some (.prompt s)
  | .resumeSession _ _ => some .resumeSession
  | .listSessions => some .listSessions
  | .closeSession _ => some .closeSession
  | .deleteSession _ => some .deleteSession
  | _ => none

/-- The transcript tells the run: the same messages, the same requests, and every task
answers the prompt of its session. -/
structure Bridge.Told (run : Bridge × List Event) (log : List Utterance) : Prop where
  heard : heard log = run.1.out.map Outgoing.utterance
  asks : asks log = run.2.filterMap Event.request
  requests : (Utterance.asks log).length = run.1.requests
  prompts : ∀ t ∈ run.1.turns, (Utterance.asks log)[t.request]? = some (.prompt t.sessionId)

section Leads
variable {log : List Utterance} {n : ℕ} {s : String} {q : Request}

theorem Utterance.leads_reply {reply : Reply} (hq : q.Takes reply)
    (hn : ∀ reply', .response (asks log).length reply' ∉ log) :
    conversation.Leads log (log ++ [.ask q] ++ [.response (asks log).length reply]) := by
  have hask : conversation.Leads log (log ++ [.ask q]) :=
    .single (T := conversation) (l := .ask q) trivial
  refine hask.snoc (T := conversation) (l := .response (asks log).length reply) ⟨q, ⟨?_, ?_⟩, hq⟩
  · simp
  · intro reply'
    simp [hn reply']

/-- While a prompt is open, updates of its session may follow, and then its response. -/
theorem Utterance.leads_messages (ho : Open log n (.prompt s)) (sent : List SessionUpdate)
    {answer : Option Reply} (ha : ∀ reply, answer = some reply → (Request.prompt s).Takes reply) :
    conversation.Leads log
      (log ++ (sent.map (.update s) ++ answer.toList.map (.response n))) := by
  induction sent generalizing log with
  | nil =>
    cases answer with
    | none => simpa using TransitionSystem.Leads.refl log
    | some reply =>
      have hl : Legal log (.response n reply) := ⟨_, ho, ha reply rfl⟩
      exact .single (T := conversation) (l := .response n reply) hl
  | cons u rest ih =>
    have hl : Legal log (.update s u) := ⟨n, ho⟩
    have ho' : Open (log ++ [.update s u]) n (.prompt s) := by
      refine ⟨?_, fun reply => ?_⟩
      · simpa using ho.1
      · simp [ho.2 reply]
    have hone : conversation.Leads log (log ++ [.update s u]) :=
      .single (T := conversation) (l := .update s u) hl
    have hrest := hone.trans (ih ho')
    rwa [List.append_assoc] at hrest

end Leads

theorem Exit.Answers.takes {saw : Bool} {reply : Reply} {e : Exit}
    (h : e.Answers saw (some reply)) (s : String) : (Request.prompt s).Takes reply := by
  cases reply with
  | stop reason =>
    cases e <;> simp [Exit.Answers] at h
    case streamEnd => exact .inl h.2
    all_goals simp [Request.Takes, h]
  | error err => trivial
  | _ => cases e <;> simp [Exit.Answers] at h

namespace Bridge
variable {sdk : Sdk} {state : BridgeState} {limits : Limits} {b b' : Bridge} {ev : Event}
  {evs : List Event} {log : List Utterance}

theorem answersTo_eq_nil {n : ℕ} {out : List Outgoing} :
    answersTo n out = [] ↔ ∀ reply, .response n reply ∉ out := by
  rw [answersTo, List.filterMap_eq_nil_iff]
  constructor
  · intro h reply hmem
    simpa using h _ hmem
  · intro h m hm
    cases m with
    | update s r u => rfl
    | response k reply =>
      rcases eq_or_ne k n with rfl | hk
      · exact absurd hm (h reply)
      · simp [hk]

theorem step_replies {q : Request} (hq : ev.request = some q) (hp : ∀ s, q ≠ .prompt s) :
    ∃ reply, q.Takes reply ∧ (b.step sdk state ev).turns = b.turns ∧
      (b.step sdk state ev).out = b.out ++ [.response b.requests reply] ∧
      (b.step sdk state ev).requests = b.requests + 1 := by
  cases ev with
  | newSession id cwd =>
    obtain rfl : Request.newSession = q := Option.some.inj hq
    simp only [step, handleNewSession]
    rcases b.sessions.create id cwd with ⟨_ | _, _⟩
    · exact ⟨.error sessionLimitError, trivial, rfl, rfl, rfl⟩
    · exact ⟨.newSession _, trivial, rfl, rfl, rfl⟩
  | resumeSession s cwd =>
    obtain rfl : Request.resumeSession = q := Option.some.inj hq
    simp only [step, handleResume]
    rcases b.sessions.resume s cwd with ⟨_ | _, _⟩
    · exact ⟨.error sessionLimitError, trivial, rfl, rfl, rfl⟩
    · exact ⟨.resumed, trivial, rfl, rfl, rfl⟩
  | listSessions =>
    obtain rfl : Request.listSessions = q := Option.some.inj hq
    exact ⟨.sessions b.sessions.list, trivial, rfl, rfl, rfl⟩
  | closeSession s =>
    obtain rfl : Request.closeSession = q := Option.some.inj hq
    simp only [step, handleRemove, spawnMuxCancel_eq]
    exact ⟨.closed, trivial, rfl, rfl, rfl⟩
  | deleteSession s =>
    obtain rfl : Request.deleteSession = q := Option.some.inj hq
    simp only [step, handleRemove, spawnMuxCancel_eq]
    exact ⟨.deleted, trivial, rfl, rfl, rfl⟩
  | prompt s r prompt => exact absurd (Option.some.inj hq).symm (hp s)
  | _ => simp [Event.request] at hq

namespace Told

theorem mem_response {n : ℕ} {reply : Reply} (h : Told (b, evs) log) :
    .response n reply ∈ log ↔ .response n reply ∈ b.out := by
  rw [← mem_heard_response, h.heard, List.mem_map]
  constructor
  · rintro ⟨m, hm, hmn⟩
    cases m with
    | update s r u => simp [Outgoing.utterance] at hmn
    | response k reply' =>
      obtain ⟨rfl, rfl⟩ : k = n ∧ reply' = reply := by simpa [Outgoing.utterance] using hmn
      exact hm
  · exact fun hm => ⟨_, hm, rfl⟩

theorem unanswered {n : ℕ} (h : Told (b, evs) log) (hn : answersTo n b.out = []) (reply : Reply) :
    .response n reply ∉ log := by
  rw [h.mem_response]
  exact answersTo_eq_nil.mp hn reply

theorem of_silent (h : Told (b, evs) log) (hq : ev.request = none) (hturns : b'.turns = b.turns)
    (hout : b'.out = b.out) (hreq : b'.requests = b.requests) :
    ∃ log', conversation.Leads log log' ∧ Told (b', evs ++ [ev]) log' := by
  refine ⟨log, .refl log, ?_, ?_, ?_, ?_⟩
  · rw [hout, h.heard]
  · simp [h.asks, hq]
  · rw [hreq, h.requests]
  · rw [hturns]
    exact h.prompts

theorem of_reply (h : Told (b, evs) log) (hl : b.Ledger) {q : Request} {reply : Reply}
    (hq : ev.request = some q) (htakes : q.Takes reply) (hturns : b'.turns = b.turns)
    (hout : b'.out = b.out ++ [.response b.requests reply])
    (hreq : b'.requests = b.requests + 1) :
    ∃ log', conversation.Leads log log' ∧ Told (b', evs ++ [ev]) log' := by
  have hn : ∀ reply', .response (Utterance.asks log).length reply' ∉ log :=
    h.requests ▸ h.unanswered (hl.future _ le_rfl)
  refine ⟨_, leads_reply htakes hn, ?_, ?_, ?_, ?_⟩
  · have hask : Utterance.heard [.ask q] = [] := rfl
    rw [heard_append, heard_append, h.heard, h.requests, hout, List.map_append, hask,
      List.append_nil]
    rfl
  · simp [h.asks, hq]
  · simp [h.requests, hreq]
  · rw [hturns]
    intro t ht
    have hp := h.prompts t ht
    rw [Utterance.asks_append, Utterance.asks_append, List.append_assoc,
      List.getElem?_append_left (List.getElem?_eq_some_iff.mp hp).1]
    exact hp

theorem of_prompt (h : Told (b, evs) log) {s r text : String} {cancel : Token}
    (hq : ev.request = some (.prompt s))
    (hturns : b'.turns = b.turns ++ [b.newTurn state s r text cancel]) (hout : b'.out = b.out)
    (hreq : b'.requests = b.requests + 1) :
    ∃ log', conversation.Leads log log' ∧ Told (b', evs ++ [ev]) log' := by
  have hask : conversation.Leads log (log ++ [.ask (.prompt s)]) :=
    .single (T := conversation) (l := .ask (.prompt s)) trivial
  refine ⟨_, hask, ?_, ?_, ?_, ?_⟩
  · rw [heard_append, h.heard, hout]
    exact List.append_nil _
  · simp [h.asks, hq]
  · simp [h.requests, hreq]
  · rw [hturns, List.forall_mem_append, List.forall_mem_singleton]
    refine ⟨fun t ht => ?_, ?_⟩
    · have hp := h.prompts t ht
      rw [Utterance.asks_append, List.getElem?_append_left (List.getElem?_eq_some_iff.mp hp).1]
      exact hp
    · have hcount := h.requests
      simp only at hcount
      rw [newTurn, ← hcount, Utterance.asks_append]
      exact List.getElem?_concat_length

theorem of_polls (h : Told (b, evs) log) (hs : b.Slots) (hl : b.Ledger) {i : ℕ} {t : RunTurn}
    {input : PollInput} {st : Stretch} (hp : b.Polls sdk state ev i t input st b') :
    ∃ log', conversation.Leads log log' ∧ Told (b', evs ++ [ev]) log' := by
  obtain ⟨sent, answer, hpolled⟩ := hs.polled hp
  have ho : Open log t.request (.prompt t.sessionId) :=
    ⟨h.prompts t hp.mem, h.unanswered (hl.unanswered t hp.mem hp.running)⟩
  have ha : ∀ reply, answer = some reply → (Request.prompt t.sessionId).Takes reply := by
    rintro reply rfl
    cases hx : st.turn.exit with
    | none => exact absurd (hpolled.stays hx) (by simp)
    | some e => exact (hpolled.answers e hx).takes t.sessionId
  have hasks : Utterance.asks (log ++ (sent.map (.update t.sessionId) ++
      answer.toList.map (.response t.request))) = Utterance.asks log := by
    cases answer <;> simp
  refine ⟨_, leads_messages ho sent ha, ?_, ?_, ?_, ?_⟩
  · rw [heard_append, h.heard, hp.out, hpolled.out, List.map_append, Stretch.messages]
    cases answer <;> simp [Utterance.heard, Outgoing.utterance, Function.comp_def,
      List.filter_map]
  · rw [hasks, h.asks, hp.event]
    simp [Event.request]
  · rw [hasks, h.requests, hp.requests]
  · intro x hx
    rw [hasks]
    obtain rfl | ⟨hxb, _⟩ := hs.mem_polls hp hx
    · rw [hpolled.request, hpolled.sessionId]
      exact h.prompts t hp.mem
    · exact h.prompts x hxb

theorem step (h : Told (b, evs) log) (hs : b.Slots) (hl : b.Ledger) (ev : Event) :
    ∃ log', conversation.Leads log log' ∧ Told (b.step sdk state ev, evs ++ [ev]) log' := by
  cases hq : ev.request with
  | some q =>
    by_cases hp : ∃ s, q = .prompt s
    · obtain ⟨s, rfl⟩ := hp
      obtain ⟨r, prompt, rfl⟩ : ∃ r prompt, ev = .prompt s r prompt := by
        cases ev <;> simp [Event.request] at hq
        exact ⟨_, _, by rw [hq]⟩
      obtain ⟨err, hr⟩ | ⟨text, _, _, hr⟩ := handlePrompt_cases state b s r prompt
      · have htakes : (Request.prompt s).Takes (.error err) := trivial
        simp only [Bridge.step, hr]
        exact h.of_reply hl hq htakes rfl rfl rfl
      · simp only [Bridge.step, hr]
        exact h.of_prompt hq rfl rfl rfl
    · obtain ⟨reply, htakes, hturns, hout, hreq⟩ :=
        @step_replies sdk state b ev q hq fun s hs => hp ⟨s, hs⟩
      exact h.of_reply hl hq htakes hturns hout hreq
  | none =>
    cases ev with
    | cancel s =>
      simp only [Bridge.step, handleCancel, spawnMuxCancel_eq]
      exact h.of_silent hq rfl rfl rfl
    | poll i now item sends =>
      by_cases hrun : ∃ t, b.turns[i]? = some t ∧ t.exit = none
      · obtain ⟨t, ht, hx⟩ := hrun
        exact h.of_polls hs hl (step_polls sdk state b ht hx now item sends)
      · simp only [Bridge.step, pollTurn_of_idle sdk state b hrun]
        exact h.of_silent hq rfl rfl rfl
    | lineWritten =>
      simp only [Bridge.step, writeLine]
      split <;> exact h.of_silent hq rfl rfl rfl
    | incomingClosed | shutdown => exact h.of_silent hq rfl rfl rfl
    | _ => simp [Event.request] at hq

end Told

/-- The bridge with its history refines the conversation. -/
theorem refines_conversation (sdk : Sdk) (state : BridgeState) (limits : Limits) :
    (bridgeSystem sdk state limits).recorded.Refines conversation Told where
  start := ⟨rfl, rfl, rfl, by simp [TransitionSystem.recorded, bridgeSystem]⟩
  step := by
    intro run log ev hr h he
    obtain ⟨b, evs⟩ := run
    exact h.step (slots_of_reachable hr.forget) (ledger_of_reachable hr.forget) ev

/-- Every run is a legal conversation: what the bridge sent is what the host heard and the
requests that arrived are what it asked, in one transcript in which a response answers an open
request with a reply that fits it, an update belongs to an open prompt of its session, and no
request is answered before it is made or twice. -/
theorem conversation_legal {evs : List Event}
    (he : (bridgeSystem sdk state limits).Along Bridge.Enabled { sessions := .new limits } evs) :
    ∃ log, conversation.Reachable log ∧
      heard log = ((bridgeSystem sdk state limits).exec { sessions := .new limits } evs).out.map
        Outgoing.utterance ∧
      asks log = evs.filterMap Event.request ∧
      ∀ before n reply after, log = before ++ .response n reply :: after →
        n < (asks before).length ∧ ∀ reply', .response n reply' ∉ before ++ after := by
  have hr := TransitionSystem.recorded_reachable (S := bridgeSystem sdk state limits) he
  obtain ⟨log, hlegal, htold⟩ := (refines_conversation sdk state limits).reachable hr
  exact ⟨log, hlegal, htold.heard, htold.asks, fun _ _ _ _ => response_once hlegal⟩

/-- A second prompt is refused while the first one streams, which is then cancelled. -/
def refusedRun : List Event :=
  [.newSession "s" "/tmp", .prompt "s" "r" [.text "hi"], .prompt "s" "r2" [.text "again"],
    .poll 0 0 (some (.event ⟨"message", "Hel"⟩)) [true], .cancel "s", .poll 0 1 none []]

def refusedBridge : Bridge :=
  (bridgeSystem rawSdk {} {}).exec { sessions := .new {} } refusedRun

theorem refusedRun_enabled : (bridgeSystem rawSdk {} {}).Along Bridge.Enabled
    { sessions := .new {} } refusedRun := by decide

theorem conversation_legal_refused : ∃ log, conversation.Reachable log ∧
    heard log = [.response 0 (.newSession "s"),
      .response 2 (.error (turnError "s" .turnInProgress)),
      .update "s" (.agentMessageChunk "Hel"), .response 1 (.stop .cancelled)] ∧
    asks log = [.newSession, .prompt "s", .prompt "s"] ∧
    ∀ before n reply after, log = before ++ .response n reply :: after →
      n < (asks before).length ∧ ∀ reply', .response n reply' ∉ before ++ after :=
  conversation_legal refusedRun_enabled

theorem Slots.replied (hs : b.Slots) (hl : b.Ledger) (hm : b.Move sdk state ev b')
    (h : ∀ n < b.requests, (∀ t ∈ b.turns, t.request ≠ n) → (answersTo n b.out).length = 1) :
    ∀ n < b'.requests, (∀ t ∈ b'.turns, t.request ≠ n) → (answersTo n b'.out).length = 1 := by
  intro n hn hother
  obtain ⟨hturns, ha⟩ | ⟨s, r, text, hb⟩ | ⟨i, t, input, st, hp⟩ := hm.tasks
  · rw [hturns] at hother
    obtain ⟨hout, hreq⟩ | ⟨reply, _, hout, hreq⟩ := ha
    · rw [hout]
      exact h n (hreq ▸ hn) hother
    · rw [hout, answersTo_append, answersTo_response]
      rcases Nat.lt_or_eq_of_le (Nat.le_of_lt_succ (hreq ▸ hn)) with hlt | rfl
      · rw [if_neg hlt.ne', List.append_nil]
        exact h n hlt hother
      · rw [hl.future _ le_rfl, if_pos rfl]
        rfl
  · rw [hb.turns, List.forall_mem_append, List.forall_mem_singleton] at hother
    have hne : n ≠ b.requests := fun hnr => hother.2 hnr.symm
    have hlt : n < b.requests := by
      have hreq := hb.requests
      omega
    rw [hb.out]
    exact h n hlt hother.1
  · have hold : ∀ x ∈ b.turns, x.request ≠ n := by
      obtain ⟨sent, answer, hpolled⟩ := hs.polled hp
      intro x hx
      rcases eq_or_ne x t with rfl | hne
      · rw [← hpolled.request]
        exact hother st.turn (hp.turns ▸ Keyed.self_mem_set hp.turn)
      · exact hother x (hp.turns ▸ Keyed.mem_set_of_ne hp.turn hx hne)
    have hlt : n < b.requests := hp.requests ▸ hn
    rw [(hs.answers_kept hm hlt hold).2.2]
    exact h n hlt hold

theorem replied_of_reachable (h : (bridgeSystem sdk state limits).Reachable b) :
    ∀ n < b.requests, (∀ t ∈ b.turns, t.request ≠ n) → (answersTo n b.out).length = 1 := by
  refine TransitionSystem.Reachable.invariant (P := fun b => ∀ n < b.requests,
    (∀ t ∈ b.turns, t.request ≠ n) → (answersTo n b.out).length = 1)
    (by simp [bridgeSystem]) (fun b ev hr hb he => ?_) h
  exact (slots_of_reachable hr).replied (ledger_of_reachable hr) (b.step_move sdk state he) hb

/-- No reply is lost and none is given twice: of the requests that arrived, exactly those of
turns still running, or left because the host or the connection is gone, have no answer. -/
theorem replies_conserved (h : (bridgeSystem sdk state limits).Reachable b) (n : ℕ) :
    (answersTo n b.out).length =
      if n < b.requests ∧ ∀ t ∈ b.turns, t.request = n →
        t.exit ≠ none ∧ t.exit ≠ some .hostDisconnected ∧ t.exit ≠ some .sendFailed
      then 1 else 0 := by
  have hl := ledger_of_reachable h
  by_cases hn : n < b.requests
  · by_cases hturn : ∃ t ∈ b.turns, t.request = n
    · obtain ⟨t, ht, rfl⟩ := hturn
      have hother : ∀ x ∈ b.turns, x.request = t.request → x = t := fun x hx hxt =>
        (slots_of_reachable h).requests.eq hx ht hxt
      have honce := hl.answeredOnce ht
      have hle := honce.atMostOne
      cases hx : t.exit with
      | none =>
        rw [honce.running hx, if_neg]
        · rfl
        · exact fun hall => (hall.2 t ht rfl).1 hx
      | some e =>
        have hfinished := honce.finished e hx
        by_cases hleft : e ≠ .hostDisconnected ∧ e ≠ .sendFailed
        · rw [if_pos, hfinished.mpr hleft]
          refine ⟨hn, fun x hxm hxt => ?_⟩
          obtain rfl := hother x hxm hxt
          simpa [hx] using hleft
        · have hlen : (answersTo t.request b.out).length ≠ 1 := fun h1 => hleft (hfinished.mp h1)
          rw [if_neg]
          · omega
          · intro hall
            have ht' := (hall.2 t ht rfl).2
            rw [hx] at ht'
            exact hleft ⟨fun he => ht'.1 (he ▸ rfl), fun he => ht'.2 (he ▸ rfl)⟩
    · have hnone : ∀ t ∈ b.turns, t.request ≠ n := fun t ht htn => hturn ⟨t, ht, htn⟩
      rw [if_pos ⟨hn, fun t ht htn => absurd htn (hnone t ht)⟩]
      exact replied_of_reachable h n hn hnone
  · rw [if_neg fun hc => hn hc.1, hl.future n (Nat.le_of_not_lt hn)]
    rfl

/-- The refused prompt has its one answer. -/
theorem replies_conserved_refused : (answersTo 2 refusedBridge.out).length = 1 :=
  replies_conserved ⟨refusedRun, refusedRun_enabled, rfl⟩ 2

end Bridge
end AcpBridge
