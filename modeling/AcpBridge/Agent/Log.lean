import AcpBridge.Lib.Mealy
import AcpBridge.Agent.Deadlines

/-! What the bridge writes to stderr at the default level, step by step. -/
namespace AcpBridge

inductive Level
  | info
  | warn
deriving DecidableEq

/-- A line on stderr; its fields are given by name. -/
structure LogLine where
  level : Level
  message : String
  fields : List (String × String) := []
deriving DecidableEq

/-- What ends the connection of a bridge. -/
inductive Ending
  | disconnected
  | signal
  | failed
deriving DecidableEq

/-- How the calls of a step into the libraries end: the texts of their errors, where they fail,
and what the process sees at its end. -/
structure Outcomes where
  /-- The error of a `send_notification` that fails. -/
  sendError : Outgoing → String := fun _ => ""
  respondError : Outgoing → Option String := fun _ => none
  spawnError : CancelRequest → Option String := fun _ => none
  ending : Ending := .disconnected
  cancelWindowElapsed : Bool := false

/-- The session and the request of a turn. -/
def RunTurn.ids (t : RunTurn) : List (String × String) :=
  [("session_id", t.sessionId), ("request_id", t.requestId)]

/-- Lines of `spawn_mux_cancel`. -/
def spawnLog (outcomes : Outcomes) (cancel : CancelRequest) : List LogLine :=
  (outcomes.spawnError cancel).toList.map fun error =>
    ⟨.warn, "failed to spawn MUXI cancel task", [("error", error)]⟩

namespace Stretch
variable (sdk : Sdk) (state : BridgeState) (outcomes : Outcomes)

/-- Lines of `finish` on the answer of a turn whose responder is there. -/
def finishLog (turn : RunTurn) (reply : Reply) : List LogLine :=
  match turn.responder with
  | none => []
  | some request =>
    (outcomes.respondError (.response request reply)).toList.map fun error =>
      ⟨.warn, "failed to deliver terminal prompt result", [("error", error)]⟩

def muxCancelLog (turn : RunTurn) : List LogLine :=
  spawnLog outcomes ⟨turn.requestId, state.userIdFor turn.sessionId⟩

/-- Lines of the inner loop over the events of a frame. -/
def forwardLog (turn : RunTurn) : List TurnEvent → List Bool → SessionRegistry → List LogLine
  | [], _, _ => []
  | .update update :: rest, sends, sessions =>
    match sessions.bufferReserve turn.sessionId (sdk.notificationLen turn.sessionId update) with
    | (.error overflow, _) =>
      [⟨.warn, "per-turn buffer cap exceeded; failing the turn",
        turn.ids ++ [("buffered", toString overflow.bufferedBytes.val),
          ("limit", toString overflow.limit.val)]⟩] ++
        muxCancelLog state outcomes turn ++
        finishLog outcomes turn (.error (overflowError overflow))
    | (.ok (), sessions) =>
      if sends.headD true then forwardLog turn rest sends.tail sessions
      else
        let error := outcomes.sendError (.update turn.sessionId turn.requestId update)
        [⟨.warn, "failed to send session/update", [("error", error)]⟩]
  | .completed :: rest, sends, sessions => forwardLog turn rest sends sessions
  | .done :: _, _, _ => finishLog outcomes turn (.stop .endTurn)
  | .error code message :: _, _, _ =>
    -- the message itself is logged at debug only
    [⟨.warn, "upstream error",
      turn.ids ++ [("code", code), ("message_bytes", toString (Str.len message.toList))]⟩] ++
      finishLog outcomes turn (.error (bridgeError code message))

/-- Lines of the arm that won. -/
def armLog (sessions : SessionRegistry) (turn : RunTurn) (sends : List Bool) :
    Arm → List LogLine
  | .cancelled =>
    [⟨.info, "turn cancelled", turn.ids⟩] ++ finishLog outcomes turn (.stop .cancelled)
  | .incomingClosed => [⟨.info, "host disconnected mid-turn", turn.ids⟩]
  | .turnDeadline =>
    [⟨.warn, "turn timeout expired", turn.ids⟩] ++ muxCancelLog state outcomes turn ++
      finishLog outcomes turn (.error (turnTimeoutError sdk state))
  | .idleDeadline =>
    [⟨.warn, "idle timeout expired", turn.ids⟩] ++ muxCancelLog state outcomes turn ++
      finishLog outcomes turn (.error (idleTimeoutError sdk state))
  | .item .close =>
    if turn.responder.isNone then []
    else
      match streamEndOutcome turn.sawTerminal with
      | .ok reason => finishLog outcomes turn (.stop reason)
      | .error (code, message) =>
        [⟨.warn, "stream ended without terminal", turn.ids ++ [("code", code)]⟩] ++
          finishLog outcomes turn (.error (bridgeError code message))
  | .item (.error message) =>
    [⟨.warn, "transport failure mid-turn", turn.ids⟩] ++
      finishLog outcomes turn (.error (bridgeError codeTransportError message))
  | .item (.event event) => forwardLog sdk state outcomes turn
      (turn.translator.translate sdk.fromStr event).1 sends sessions
  | .pending => []

end Stretch

/-- Lines of one stretch of a task. -/
def RunTurn.log (sdk : Sdk) (state : BridgeState) (outcomes : Outcomes)
    (sessions : SessionRegistry) (turn : RunTurn) (input : PollInput) : List LogLine :=
  Stretch.armLog sdk state outcomes sessions turn input.sends (turn.winner state sessions input)

/-- Lines of the extraction, for an identity or for a miss. -/
def extractionLog (acpSessionId : String) : Except String ExtractedIdentity → List LogLine
  | .ok identity => identity.diagnostics.map fun diagnostic =>
      ⟨.warn, diagnostic, [("session_id", acpSessionId)]⟩
  | .error reason => [⟨.warn, "Buzz identity extraction failed; falling through to " ++
      "default_user_id / per-session id", [("reason", reason)]⟩]

/-- Lines of the identity of a turn; the flag short-circuits extraction. -/
def BridgeState.userIdLog (state : BridgeState) (acpSessionId promptText : String) :
    List LogLine :=
  if state.cliUserId.any (· ≠ "") then []
  else
    match state.hostExtractor with
    | none => []
    | some extractor => extractionLog acpSessionId (extractor.tryExtract promptText)

namespace Bridge
variable (sdk : Sdk) (state : BridgeState) (b : Bridge)

def promptLog (sessionId requestId : String) (prompt : List ContentBlock) : List LogLine :=
  if !b.sessions.contains sessionId then []
  else
    match promptText prompt with
    | .error _ => []
    | .ok text =>
      match b.sessions.beginTurn sessionId requestId with
      | (.error _, _) => []
      | (.ok _, _) =>
        ⟨.info, "session/prompt", [("session_id", sessionId), ("request_id", requestId),
          ("bytes", toString (Str.len text.toList))]⟩ :: state.userIdLog sessionId text

/-- Lines of the cancel for a turn that a handler took the handle of. -/
def cancelLog (outcomes : Outcomes) (sessionId : String) (turn : Option ActiveTurn) :
    List LogLine :=
  turn.toList.flatMap fun turn => spawnLog outcomes ⟨turn.requestId, state.userIdFor sessionId⟩

def endingLog : Ending → List LogLine
  | .disconnected => [⟨.info, "host disconnected; shutting down", []⟩]
  | .signal => [⟨.info, "termination signal received; shutting down", []⟩]
  | .failed => []

def shutdownLog (outcomes : Outcomes) : List LogLine :=
  let turns := b.sessions.drainActiveTurns.1
  endingLog outcomes.ending ++
    if turns.isEmpty then []
    else
      [⟨.info, "cancelling active MUXI turns before exit", [("turns", toString turns.length)]⟩] ++
        if outcomes.cancelWindowElapsed then
          [⟨.warn, "shutdown cancel window elapsed; exiting anyway", []⟩]
        else []

/-- Lines of a step. -/
def log (outcomes : Outcomes) : Event → List LogLine
  | .newSession id cwd =>
    match b.sessions.create id cwd with
    | (.ok sessionId, _) => [⟨.info, "session/new", [("session_id", sessionId), ("cwd", cwd)]⟩]
    | (.error _, _) => [⟨.warn, "session/new rejected: max_sessions reached", []⟩]
  | .prompt s r prompt => b.promptLog state s r prompt
  | .cancel s =>
    [⟨.info, "session/cancel", [("session_id", s)]⟩] ++
      cancelLog state outcomes s (b.sessions.cancelActiveTurn s).1
  | .resumeSession s cwd =>
    match b.sessions.resume s cwd with
    | (.ok (), _) => [⟨.info, "session/resume (local rebind)", [("session_id", s)]⟩]
    | (.error _, _) =>
      [⟨.warn, "session/resume rejected: max_sessions reached", [("session_id", s)]⟩]
  | .closeSession s =>
    [⟨.info, "session/close", [("session_id", s)]⟩] ++
      cancelLog state outcomes s (b.sessions.remove s).1
  | .deleteSession s =>
    [⟨.info, "session/delete (local only)", [("session_id", s)]⟩] ++
      cancelLog state outcomes s (b.sessions.remove s).1
  | .poll i now item sends =>
    match b.turns[i]? with
    | none => []
    | some turn =>
      if turn.exit.isSome then []
      else turn.log sdk state outcomes b.sessions ⟨b.incomingClosed, now, item, sends⟩
  | .shutdown => b.shutdownLog outcomes
  | .listSessions | .lineWritten | .incomingClosed => []

/-- The lines of each step of a run. -/
def logs (steps : List (Event × Outcomes)) : List (List LogLine) :=
  (Mealy.run (fun b step => (b.log sdk state step.2 step.1, b.step sdk state step.1)) b steps).1

end Bridge
end AcpBridge
