import AcpBridge.Lib.Transition
import AcpBridge.Agent.RunTurn

/-! The bridge as a step system: request and notification handlers, stretches of the running
turns, the stdout writer, host disconnect and shutdown, in any order. -/
namespace AcpBridge

/-- Shared state of a running bridge. `turns` are all tasks spawned so far, `out` all messages
queued so far, of which the writer has taken the first `written`. -/
structure Bridge where
  sessions : SessionRegistry
  turns : List RunTurn := []
  out : List Outgoing := []
  written : ℕ := 0
  cancels : List CancelRequest := []
  requests : ℕ := 0
  incomingClosed : Bool := false
  down : Bool := false

/-- What can happen next, with the ids minted by the handler. -/
inductive Event
  | newSession (id cwd : String)
  | prompt (sessionId requestId : String) (prompt : List ContentBlock)
  | cancel (sessionId : String)
  | resumeSession (sessionId cwd : String)
  | listSessions
  | closeSession (sessionId : String)
  | deleteSession (sessionId : String)
  | poll (turn : ℕ) (now : Duration) (item : Option StreamItem) (sends : List Bool)
  | lineWritten
  | incomingClosed
  | shutdown
deriving DecidableEq

namespace Bridge
variable (sdk : Sdk) (state : BridgeState) (b : Bridge)

/-- Answer the current request at once. -/
def reply (reply : Reply) : Bridge :=
  { b with out := b.out ++ [.response b.requests reply], requests := b.requests + 1 }

def sessionLimitError : Error :=
  .invalidParams [("code", codeSessionLimit),
    ("message", "session limit reached (limits.max_sessions); close a session first")]

def unknownSessionError (sessionId : String) : Error :=
  .invalidParams [("code", "BRIDGE_UNKNOWN_SESSION"), ("sessionId", sessionId)]

def unsupportedContentError (kind : String) : Error :=
  .invalidParams [("code", "BRIDGE_UNSUPPORTED_CONTENT"),
    ("message", "muxi-acp v1 accepts text content blocks only"), ("kind", kind)]

def turnError (sessionId : String) : TurnError → Error
  | .turnInProgress => .invalidParams [("code", "BRIDGE_TURN_IN_PROGRESS"),
      ("message", "a prompt is already running for this session")]
  | .turnLimit => .invalidParams [("code", codeTurnLimit), ("message",
      "too many turns in flight (limits.max_concurrent_turns); retry after one finishes")]
  | .unknownSession => unknownSessionError sessionId

def handleNewSession (id cwd : String) : Bridge :=
  match b.sessions.create id cwd with
  | (.ok sessionId, sessions) => { b with sessions := sessions }.reply (.newSession sessionId)
  | (.error _, sessions) => { b with sessions := sessions }.reply (.error sessionLimitError)

def handleResume (sessionId cwd : String) : Bridge :=
  match b.sessions.resume sessionId cwd with
  | (.ok (), sessions) => { b with sessions := sessions }.reply .resumed
  | (.error _, sessions) => { b with sessions := sessions }.reply (.error sessionLimitError)

/-- Send the cancel for a turn that a handler took the handle of. -/
def spawnMuxCancel (sessionId : String) : Option ActiveTurn → Bridge
  | none => b
  | some turn =>
    { b with cancels := b.cancels ++ [⟨turn.requestId, state.userIdFor sessionId⟩] }

def handleCancel (sessionId : String) : Bridge :=
  let (turn, sessions) := b.sessions.cancelActiveTurn sessionId
  { b with sessions := sessions }.spawnMuxCancel state sessionId turn

/-- Close and delete differ in their answer only. -/
def handleRemove (sessionId : String) (answer : Reply) : Bridge :=
  let (turn, sessions) := b.sessions.remove sessionId
  ({ b with sessions := sessions }.spawnMuxCancel state sessionId turn).reply answer

/-- The task of an accepted prompt. -/
def newTurn (sessionId requestId text : String) (cancel : Token) : RunTurn where
  request := b.requests
  sessionId := sessionId
  requestId := requestId
  userId := state.userIdForTurn sessionId text
  payload := chatPayload text sessionId requestId state.agentId
  cancel := cancel
  translator := .new state.forwardThoughts
  responder := some b.requests

/-- Validate the prompt, claim the turn slot and spawn the task. -/
def handlePrompt (sessionId requestId : String) (prompt : List ContentBlock) : Bridge :=
  if !b.sessions.contains sessionId then b.reply (.error (unknownSessionError sessionId))
  else
    match promptText prompt with
    | .error kind => b.reply (.error (unsupportedContentError kind))
    | .ok text =>
      match b.sessions.beginTurn sessionId requestId with
      | (.error err, sessions) =>
        { b with sessions := sessions }.reply (.error (turnError sessionId err))
      | (.ok cancel, sessions) => { b with
          sessions := sessions
          turns := b.turns ++ [b.newTurn state sessionId requestId text cancel]
          requests := b.requests + 1 }

/-- One stretch of a task that has not finished. -/
def pollTurn (i : ℕ) (now : Duration) (item : Option StreamItem) (sends : List Bool) : Bridge :=
  match b.turns[i]? with
  | none => b
  | some turn =>
    if turn.exit.isSome then b
    else
      let st := turn.poll sdk state b.sessions ⟨b.incomingClosed, now, item, sends⟩
      { b with
        sessions := st.sessions
        turns := b.turns.set i st.turn
        out := b.out ++ st.out
        cancels := b.cancels ++ st.cancels }

def writeLine : Bridge :=
  match b.out[b.written]? with
  | none => b
  | some line => { b with
      sessions := noteLineWritten sdk b.sessions (sdk.line line)
      written := b.written + 1 }

/-- Cancel upstream every turn that is still registered; the process then ends. -/
def shutdown : Bridge :=
  let (turns, sessions) := b.sessions.drainActiveTurns
  { b with
    sessions := sessions
    cancels := b.cancels ++ turns.map fun (s, turn) => ⟨turn.requestId, state.userIdFor s⟩
    down := true }

def step : Event → Bridge
  | .newSession id cwd => b.handleNewSession id cwd
  | .prompt s r prompt => b.handlePrompt state s r prompt
  | .cancel s => b.handleCancel state s
  | .resumeSession s cwd => b.handleResume s cwd
  | .listSessions => b.reply (.sessions b.sessions.list)
  | .closeSession s => b.handleRemove state s .closed
  | .deleteSession s => b.handleRemove state s .deleted
  | .poll i now item sends => b.pollTurn sdk state i now item sends
  | .lineWritten => b.writeLine sdk
  | .incomingClosed => { b with incomingClosed := true }
  | .shutdown => b.shutdown state

/-- Minted ids are fresh; nothing happens after shutdown. -/
def Enabled : Event → Prop
  | .newSession id _ => b.down = false ∧ b.sessions.contains id = false
  | .prompt _ r _ => b.down = false ∧ ∀ t ∈ b.turns, t.requestId ≠ r
  | _ => b.down = false

instance (b : Bridge) : ∀ ev, Decidable (b.Enabled ev)
  | .newSession id _ =>
    inferInstanceAs (Decidable (b.down = false ∧ b.sessions.contains id = false))
  | .prompt _ r _ => inferInstanceAs (Decidable (b.down = false ∧ ∀ t ∈ b.turns, t.requestId ≠ r))
  | .cancel _ | .resumeSession _ _ | .listSessions | .closeSession _ | .deleteSession _
  | .poll _ _ _ _ | .lineWritten | .incomingClosed | .shutdown =>
    inferInstanceAs (Decidable (b.down = false))

end Bridge

/-- The bridge over any libraries, configuration and limits. -/
def bridgeSystem (sdk : Sdk) (state : BridgeState) (limits : Limits) :
    TransitionSystem Bridge Event where
  init := { sessions := .new limits }
  enabled := Bridge.Enabled
  next := Bridge.step sdk state

instance (sdk : Sdk) (state : BridgeState) (limits : Limits) (b : Bridge) (ev : Event) :
    Decidable ((bridgeSystem sdk state limits).enabled b ev) :=
  inferInstanceAs (Decidable (b.Enabled ev))

/-- Libraries for runs on concrete inputs: every frame is a raw delta, sizes do not count. -/
def rawSdk : Sdk where
  fromStr text := some (.object [("token", .string text)])
  notificationLen _ _ := 0
  line _ := ""
  formatDuration _ := "30m"

end AcpBridge
