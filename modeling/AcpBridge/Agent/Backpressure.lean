import AcpBridge.Agent.Queue

/-! Backpressure over whole runs: the accounting of a turn never runs ahead of its unwritten
updates, overflow is never a false alarm, and when exactly the accounting is exact. -/
namespace AcpBridge

open SessionRegistry Northbound

namespace Bridge
variable {sdk : Sdk} {state : BridgeState} {limits : Limits} {b : Bridge} {n : Northbound}

/-- Bytes of the updates of a turn that the writer has not reached. -/
def unwrittenBytes (sdk : Sdk) (b : Bridge) (s r : String) : ℕ :=
  Usize.total ((updatesOf r b.unwritten).map (sdk.notificationLen s))

/-- The accounting never runs ahead of the queue: what is reserved for a turn is at most what its
own unwritten updates weigh. -/
theorem reserved_le_unwritten (h : (bridgeSystem sdk state limits).Reachable b)
    (hf : ∀ m ∈ b.out, sdk.Frames m) {s : String} {ts : TurnState}
    (hts : b.sessions.turn s = some ts) :
    ts.bufferedBytes.val ≤ b.unwrittenBytes sdk s ts.handle.requestId := by
  have hs := slots_of_reachable h
  obtain ⟨n, hn, hq⟩ := queues_of_reachable h hf
  have hactive : b.sessions.active s = some ts.handle := by rw [active, hts]; rfl
  obtain ⟨t, ht, rfl, hhandle, _⟩ := hs.owned s ts.handle hactive
  have hle := (covered_of_reachable hn).buffered_le (hq.sessions ▸ hts)
  rw [← hhandle] at hle ⊢
  rwa [RunTurn.handle, hq.ownSizes_eq hs ht] at hle

/-- The JSON texts of a short run and what they read as. -/
def deltaParams : String :=
  "\x7b\"sessionId\":\"s\",\"update\":\x7b\"sessionUpdate\":\"agent_message_chunk\"," ++
    "\"content\":\x7b\"type\":\"text\",\"text\":\"Hel\"\x7d\x7d\x7d"

def deltaLine : String :=
  "\x7b\"jsonrpc\":\"2.0\",\"method\":\"session/update\",\"params\":" ++ deltaParams ++ "\x7d"

def deltaMessage : Value := .object [("jsonrpc", .string "2.0"),
  ("method", .string "session/update"), ("params", .object [("sessionId", .string "s"),
    ("update", .object [("sessionUpdate", .string "agent_message_chunk"),
      ("content", .object [("type", .string "text"), ("text", .string "Hel")])])])]

def tokenText : String := "\x7b\"token\":\"Hel\"\x7d"

/-- Libraries as they behave on these texts. -/
def wireSdk : Sdk where
  fromStr text :=
    if text = deltaLine then some deltaMessage
    else if text = tokenText then some (.object [("token", .string "Hel")])
    else none
  notificationLen _ _ := Fin.ofNat _ deltaParams.utf8ByteSize
  line
    | .update _ _ _ => deltaLine
    | .response _ _ => "\x7b\"jsonrpc\":\"2.0\",\"id\":0,\"result\":" ++
        "\x7b\"sessionId\":\"s\"\x7d\x7d"
  formatDuration _ := "30m"

/-- A turn streams one delta, more than half of the cap. -/
def deltaRun : List Event :=
  [.newSession "s" "/tmp", .prompt "s" "r" [.text "hi"],
    .poll 0 0 (some (.event ⟨"message", tokenText⟩)) [true]]

def deltaBridge : Bridge :=
  (bridgeSystem wireSdk {} { maxBufferedBytes := 150 }).exec
    { sessions := .new { maxBufferedBytes := 150 } } deltaRun

theorem deltaBridge_reachable :
    (bridgeSystem wireSdk {} { maxBufferedBytes := 150 }).Reachable deltaBridge :=
  ⟨deltaRun, by decide +kernel, rfl⟩

theorem wireSdk_frames_response (n : ℕ) (reply : Reply) : wireSdk.Frames (.response n reply) := by
  intro v hv
  have hnone : wireSdk.fromStr (wireSdk.line (.response 0 (.newSession "s"))) = none := by
    decide +kernel
  rw [show wireSdk.line (.response n reply) = wireSdk.line (.response 0 (.newSession "s")) from rfl,
    hnone] at hv
  simp at hv

theorem wireSdk_frames_update (r : String) (u : SessionUpdate) :
    wireSdk.Frames (.update "s" r u) := by
  have hsplit : (Str.splitOnce deltaLine.toList "\"session/update\"".toList).isSome := by
    decide +kernel
  refine ⟨hsplit, deltaMessage, ?_, ?_, ?_⟩
  · simp [wireSdk]
  · rfl
  · rfl

theorem wireSdk_frames : ∀ m ∈ deltaBridge.out, wireSdk.Frames m := by
  have hout : deltaBridge.out =
      [.response 0 (.newSession "s"), .update "s" "r" (.agentMessageChunk "Hel")] := by
    decide +kernel
  rw [hout, List.forall_mem_cons, List.forall_mem_singleton]
  exact ⟨wireSdk_frames_response _ _, wireSdk_frames_update _ _⟩

/-- The reservation of the delta is covered. -/
theorem reserved_le_unwritten_delta : ∃ ts, deltaBridge.sessions.turn "s" = some ts ∧
    ts.bufferedBytes.val = 105 ∧
    ts.bufferedBytes.val ≤ deltaBridge.unwrittenBytes wireSdk "s" ts.handle.requestId := by
  have hts : deltaBridge.sessions.turn "s" = some ⟨⟨"r", 0⟩, [105], 105⟩ := by decide +kernel
  exact ⟨_, hts, rfl, reserved_le_unwritten deltaBridge_reachable wireSdk_frames hts⟩

/-- Overflow is never a false alarm. A task failed for it has sent the updates of its frame up
to the one refused and then its answer, which names a size above the cap: no more than its own
unwritten updates weigh together with the one refused. -/
theorem overflow_truthful (h : (bridgeSystem sdk state limits).Reachable b)
    (hf : ∀ m ∈ b.out, sdk.Frames m) {i : ℕ} {now : Duration} {item : Option StreamItem}
    {sends : List Bool} (he : b.Enabled (.poll i now item sends)) {t t' : RunTurn}
    (hi : b.turns[i]? = some t) (hx : t.exit = none)
    (hi' : (b.step sdk state (.poll i now item sends)).turns[i]? = some t')
    (hx' : t'.exit = some .overflow) :
    ∃ event sent u later o, item = some (.event event) ∧
      TurnEvent.updates (t.translator.translate sdk.fromStr event).1 = sent ++ u :: later ∧
      (b.step sdk state (.poll i now item sends)).out = b.out ++
        sent.map (.update t.sessionId t.requestId) ++
        [.response t.request (.error (Stretch.overflowError o))] ∧
      o.limit = limits.maxBufferedBytes ∧ o.limit.val < o.bufferedBytes.val ∧
      o.bufferedBytes.val ≤ (b.step sdk state (.poll i now item sends)).unwrittenBytes sdk
        t.sessionId t.requestId + (sdk.notificationLen t.sessionId u).val := by
  have hs := slots_of_reachable h
  have hm := b.step_move sdk state he
  have hp := step_polls sdk state b hi hx now item sends
  obtain ⟨n, hn, hq⟩ := queues_of_reachable h hf
  obtain ⟨before, hsent, hq'⟩ := hq.polls limits hs hp (Queues.written_step_poll ..) (hs.kept hm)
  obtain rfl := Option.some.inj (hp.turn_after.symm.trans hi')
  obtain ⟨event, hitem, ts, sent, u, later, hts, hhandle, hupdates, hover, hnew⟩ :=
    hsent.refused hx'
  have hbefore := (hsent.leads.weaken (d := Owned) fun _ _ hl => hl.1).reachable (hq.eq ▸ hn)
  have hle := (covered_of_reachable hbefore).buffered_le hts
  have hlimits := owned_limits hbefore
  simp only at hlimits
  rw [hlimits] at hover hnew
  refine ⟨event, sent, u, later, ⟨_, _⟩, hitem, hupdates, ?_, rfl, hover, ?_⟩
  · rw [hp.out, hnew, Stretch.messages, ← List.append_assoc]
    rfl
  · obtain ⟨_, _, hpolled⟩ := hs.polled hp
    have hown := hq'.ownSizes_eq (hs.move hm) (List.mem_of_getElem? hp.turn_after)
    rw [hpolled.sessionId, hpolled.requestId, hpolled.cancel] at hown
    rw [hhandle, RunTurn.handle, hown] at hle
    exact (Nat.min_le_left _ _).trans (Nat.add_le_add_right hle _)

/-- A second delta overflows. -/
def secondDelta : Event := .poll 0 1 (some (.event ⟨"message", tokenText⟩)) [true]

/-- It does so on top of the unwritten first one. -/
theorem overflow_truthful_delta : ∃ t, deltaBridge.turns[0]? = some t ∧
    ∃ event sent u later o, some (.event ⟨"message", tokenText⟩) = some (StreamItem.event event) ∧
      TurnEvent.updates (t.translator.translate wireSdk.fromStr event).1 = sent ++ u :: later ∧
      (deltaBridge.step wireSdk {} secondDelta).out = deltaBridge.out ++
        sent.map (.update t.sessionId t.requestId) ++
        [.response t.request (.error (Stretch.overflowError o))] ∧
      o.limit = 150 ∧ o.limit.val < o.bufferedBytes.val ∧
      o.bufferedBytes.val ≤ (deltaBridge.step wireSdk {} secondDelta).unwrittenBytes wireSdk
        t.sessionId t.requestId + (wireSdk.notificationLen t.sessionId u).val := by
  have hi := List.getElem?_eq_getElem (l := deltaBridge.turns) (i := 0) (by decide +kernel)
  have hi' := List.getElem?_eq_getElem (l := (deltaBridge.step wireSdk {} secondDelta).turns)
    (i := 0) (by decide +kernel)
  exact ⟨_, hi, overflow_truthful deltaBridge_reachable wireSdk_frames (by decide +kernel) hi
    (by decide +kernel) hi' (by decide +kernel)⟩

/-- The accounting of every registered turn is what its unwritten updates weigh, which is within
the cap. -/
def AccountsExactly (sdk : Sdk) (b : Bridge) : Prop := ∀ s ts, b.sessions.turn s = some ts →
  ts.bufferedBytes.val = b.unwrittenBytes sdk s ts.handle.requestId ∧
    b.unwrittenBytes sdk s ts.handle.requestId ≤ b.sessions.limits.maxBufferedBytes.val

/-- The writer takes an update of the turn registered for its session, or that turn has none. -/
def WritesInStep (b : Bridge) : Event → Prop
  | .lineWritten => ∀ s r u ts, b.unwritten.head? = some (.update s r u) →
      b.sessions.turn s = some ts →
      ts.handle.requestId = r ∨ updatesOf ts.handle.requestId b.unwritten = []
  | _ => True

namespace Queues

theorem exact_iff (h : b.Queues sdk n) (hs : b.Slots) : b.AccountsExactly sdk ↔ n.Exact := by
  refine forall_congr' fun s => forall_congr' fun ts => ?_
  rw [h.sessions]
  refine imp_congr_right fun hts => ?_
  have hactive : b.sessions.active s = some ts.handle := by rw [active, hts]; rfl
  obtain ⟨t, ht, rfl, hhandle, _⟩ := hs.owned s ts.handle hactive
  rw [← hhandle, RunTurn.handle, h.ownSizes_eq hs ht, unwrittenBytes]

theorem inStep_iff (h : b.Queues sdk n) (hs : b.Slots) :
    b.WritesInStep .lineWritten ↔ n.InStep .written := by
  have hqueue := h.queue
  cases hout : b.unwritten with
  | nil =>
    rw [hout, List.forall₂_nil_left_iff] at hqueue
    simp [WritesInStep, InStep, hout, hqueue]
  | cons m msgs =>
    rw [hout, List.forall₂_cons_left_iff] at hqueue
    obtain ⟨line, rest, hline, _, hq⟩ := hqueue
    cases m with
    | response k reply =>
      obtain rfl := hline
      simp [WritesInStep, InStep, hout, hq]
    | update s r u =>
      obtain ⟨x, hx, rfl, rfl, rfl⟩ := hline
      -- the registered turn is the one of the line, or has nothing queued, on both levels
      have hboth : ∀ ts, b.sessions.turn x.sessionId = some ts →
          (ts.handle.requestId = x.requestId ∨ updatesOf ts.handle.requestId b.unwritten = [] ↔
            ts.handle.cancel = x.cancel ∨ ownSizes x.sessionId ts.handle.cancel n.queue = []) := by
        intro ts hts
        have hactive : b.sessions.active x.sessionId = some ts.handle := by rw [active, hts]; rfl
        obtain ⟨t, ht, hsession, hhandle, _⟩ := hs.owned x.sessionId ts.handle hactive
        rw [← hhandle, RunTurn.handle, ← hsession, h.ownSizes_eq hs ht, List.map_eq_nil_iff]
        refine or_congr_left ⟨fun hr => ?_, fun hc => ?_⟩
        · rw [hs.requestIds.eq ht hx hr]
        · rw [hs.tokens.eq ht hx hc]
      constructor
      · intro hw s token bytes rest' ts hq' hts
        obtain ⟨hl, -⟩ := List.cons.inj (hq.symm.trans hq')
        obtain ⟨rfl, rfl, -⟩ : x.sessionId = s ∧ x.cancel = token ∧ _ := by simpa using hl
        rw [h.sessions] at hts
        exact (hboth ts hts).mp (hw _ _ u ts (by rw [hout]; rfl) hts)
      · intro hw s r u' ts hhead hts
        rw [hout] at hhead
        obtain ⟨rfl, rfl, -⟩ : x.sessionId = s ∧ x.requestId = r ∧ _ := by simpa using hhead
        exact (hboth ts hts).mpr (hw _ _ _ _ ts hq (h.sessions ▸ hts))

end Queues

/-- Under a cap below the top of the range, the accounting is exact in every state of a run if
and only if no line of an earlier turn is ever written while the registered turn of its session
has updates of its own queued. -/
theorem accounting_exact_iff (hcap : limits.maxBufferedBytes.val < Usize.MAX)
    (hpos : ∀ s u, 0 < (sdk.notificationLen s u).val) {evs : List Event}
    (he : (bridgeSystem sdk state limits).Along Bridge.Enabled { sessions := .new limits } evs)
    (hf : ∀ m ∈ ((bridgeSystem sdk state limits).exec { sessions := .new limits } evs).out,
      sdk.Frames m) :
    (bridgeSystem sdk state limits).Always (AccountsExactly sdk) { sessions := .new limits } evs ↔
      (bridgeSystem sdk state limits).Along WritesInStep { sessions := .new limits } evs := by
  let I (b : Bridge) : Prop :=
    b.Slots ∧ ∃ n, b.Queues sdk n ∧ n.Matched ∧ n.sessions.limits = limits
  have hkeep : ∀ b ev, I b → (b.Enabled ev ∧ b.Framed sdk ev) → b.WritesInStep ev →
      I (b.step sdk state ev) := by
    rintro b ev ⟨hs, n, hq, hmatched, hlimits⟩ ⟨hev, hframed⟩ hin
    obtain ⟨n', hcarries, hq'⟩ := @Queues.step sdk state limits b ev n hq hs hev hframed
    refine ⟨hs.move (b.step_move sdk state hev), n', hq', ?_⟩
    cases ev with
    | lineWritten =>
      obtain rfl := hcarries
      exact ⟨hmatched.step trivial ((hq.inStep_iff hs).mp hin), (step_limits n _).trans hlimits⟩
    | _ => exact hmatched.sending hlimits hcap hcarries
  have hbreak : ∀ b ev, I b → (b.Enabled ev ∧ b.Framed sdk ev) → ¬ b.WritesInStep ev →
      ¬ (b.step sdk state ev).AccountsExactly sdk := by
    rintro b ev ⟨hs, n, hq, hmatched, hlimits⟩ ⟨hev, hframed⟩ hin
    cases ev with
    | lineWritten =>
      have hs' := hs.move (b.step_move sdk state hev)
      have hexact := (hq.lineWritten hframed).exact_iff hs'
      rw [step, hexact]
      exact not_exact_of_not_inStep hmatched (hlimits ▸ hcap) (hq.pos hpos) (by simp)
        (hin ∘ (hq.inStep_iff hs).mpr)
    | _ => exact absurd trivial hin
  have hinit : I { sessions := .new limits } :=
    ⟨slots_init limits, _, .init limits, matched_init limits, rfl⟩
  have hexact : ∀ b, I b → b.AccountsExactly sdk := by
    rintro b ⟨hs, n, hq, hmatched, _⟩
    exact (hq.exact_iff hs).mpr hmatched.exact
  exact TransitionSystem.always_iff_along hexact hkeep hbreak hinit (framed_along he hf)

/-- The writer takes both lines of the one turn. -/
theorem accounting_exact_iff_drained :
    (bridgeSystem wireSdk {} { maxBufferedBytes := 150 }).Always (AccountsExactly wireSdk)
      { sessions := .new { maxBufferedBytes := 150 } }
      (deltaRun ++ [.lineWritten, .lineWritten]) := by
  have hsize : 0 < (Fin.ofNat (2 ^ 64) deltaParams.utf8ByteSize).val := by decide +kernel
  refine (accounting_exact_iff (by decide) (fun _ _ => hsize) (by decide +kernel) ?_).mpr ?_
  · have hout : ((bridgeSystem wireSdk {} { maxBufferedBytes := 150 }).exec
        { sessions := .new { maxBufferedBytes := 150 } }
        (deltaRun ++ [.lineWritten, .lineWritten])).out = deltaBridge.out := by decide +kernel
    rw [hout]
    exact wireSdk_frames
  · refine ⟨trivial, trivial, trivial, ?_, ?_, trivial⟩
    · intro s r u ts hhead hts
      have hfirst : deltaBridge.unwritten.head? = some (.response 0 (.newSession "s")) := by
        decide +kernel
      cases hfirst.symm.trans hhead
    · intro s r u ts hhead hts
      have hsecond : (deltaBridge.writeLine wireSdk).unwritten.head? =
          some (.update "s" "r" (.agentMessageChunk "Hel")) := by decide +kernel
      have hturn : (deltaBridge.writeLine wireSdk).sessions.turn "s" =
          some ⟨⟨"r", 0⟩, [105], 105⟩ := by decide +kernel
      obtain ⟨rfl, rfl, -⟩ : "s" = s ∧ "r" = r ∧ _ := by simpa using hsecond.symm.trans hhead
      exact .inl (congrArg (·.handle.requestId) (Option.some.inj (hts.symm.trans hturn)))

end Bridge
end AcpBridge
