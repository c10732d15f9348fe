import AcpBridge.Agent

/-! One prompt turn: the biased select over cancellation, disconnect, the two deadlines and
the upstream stream, and the inner loop over the events of a frame. -/
namespace AcpBridge

/-- What polling the upstream stream yields. -/
inductive StreamItem
  | close
  | error (message : String)
  | event (event : SseEvent)
deriving DecidableEq

/-- The ways out of the loop. -/
inductive Exit
  | cancelled
  | hostDisconnected
  | turnTimeout
  | idleTimeout
  | streamEnd
  | transportError
  | overflow
  | sendFailed
  | done
  | upstreamError
deriving DecidableEq

/-- A cancel sent to the formation. -/
structure CancelRequest where
  requestId : String
  userId : String
deriving DecidableEq

/-- Arguments and local variables of a `run_turn` task. The responder is the request it
answers until it is taken. The consumed stream items and the way out are kept on record. -/
structure RunTurn where
  request : ℕ
  sessionId : String
  requestId : String
  userId : String
  payload : Value
  cancel : Token
  translator : Translator
  responder : Option ℕ
  sawTerminal : Bool := false
  leaveTurnRegistered : Bool := false
  /-- Turn and idle deadlines, set when the task first runs. -/
  deadlines : Option (Duration × Duration) := none
  consumed : List (Duration × StreamItem) := []
  exit : Option Exit := none

/-- What a task works on between two awaits: the registry, its own variables, the messages
it queues and the cancels it sends. -/
structure Stretch where
  sessions : SessionRegistry
  turn : RunTurn
  out : List Outgoing := []
  cancels : List CancelRequest := []

namespace Stretch
variable (sdk : Sdk) (state : BridgeState)

/-- Take the responder, if it is still there, and answer. -/
def respond (st : Stretch) (reply : Reply) : Stretch :=
  match st.turn.responder with
  | none => st
  | some request => { st with
      turn := { st.turn with responder := none }
      out := st.out ++ [.response request reply] }

def spawnMuxCancel (st : Stretch) : Stretch :=
  { st with cancels := st.cancels ++ [⟨st.turn.requestId, state.userIdFor st.turn.sessionId⟩] }

/-- Leave the loop. -/
def exit (st : Stretch) (reason : Exit) : Stretch :=
  { st with turn := { st.turn with exit := some reason } }

def overflowError (overflow : BufferOverflow) : Error :=
  bridgeError codeBufferOverflow ("host is not draining session/update fast enough (" ++
    toString overflow.bufferedBytes.val ++ " bytes queued > limits.max_buffered_bytes = " ++
    toString overflow.limit.val ++ ")")

def turnTimeoutError : Error :=
  bridgeError codeTurnTimeout
    ("turn exceeded turn_timeout (" ++ sdk.formatDuration state.turnTimeout ++ ")")

def idleTimeoutError : Error :=
  bridgeError codeIdleTimeout
    ("no upstream event within idle_timeout (" ++ sdk.formatDuration state.idleTimeout ++ ")")

/-- The inner loop over the events of a frame. `sends` are the results of the calls to
`send_notification`, in order. -/
def forward : List TurnEvent → List Bool → Stretch → Stretch
  | [], _, st => st
  | .update update :: rest, sends, st =>
    let bytes := sdk.notificationLen st.turn.sessionId update
    match st.sessions.bufferReserve st.turn.sessionId bytes with
    | (.error overflow, sessions) =>
      let st := { st with sessions := sessions }
      ((st.spawnMuxCancel state).respond (.error (overflowError overflow))).exit .overflow
    | (.ok (), sessions) =>
      let st := { st with sessions := sessions }
      if sends.headD true then
        let out := st.out ++ [.update st.turn.sessionId st.turn.requestId update]
        forward rest sends.tail { st with out := out }
      else st.exit .sendFailed
  | .completed :: rest, sends, st =>
    forward rest sends { st with turn := { st.turn with sawTerminal := true } }
  | .done :: _, _, st => (st.respond (.stop .endTurn)).exit .done
  | .error code message :: _, _, st =>
    (st.respond (.error (bridgeError code message))).exit .upstreamError

/-- The arms of the select in their order of precedence. -/
inductive Arm
  | cancelled
  | incomingClosed
  | turnDeadline
  | idleDeadline
  | item (item : StreamItem)
  | pending
deriving DecidableEq

/-- Biased: the first arm that is ready wins. -/
def select (cancelled incomingClosed : Bool) (now turnDeadline idleDeadline : Duration)
    (item : Option StreamItem) : Arm :=
  if cancelled then .cancelled
  else if incomingClosed then .incomingClosed
  else if turnDeadline ≤ now then .turnDeadline
  else if idleDeadline ≤ now then .idleDeadline
  else item.elim .pending .item

/-- The stream yielded an item. -/
def next (st : Stretch) (now : Duration) (sends : List Bool) (item : StreamItem) : Stretch :=
  let st := { st with turn := { st.turn with consumed := st.turn.consumed ++ [(now, item)] } }
  match item with
  | .close =>
    match streamEndOutcome st.turn.sawTerminal with
    | .ok reason => (st.respond (.stop reason)).exit .streamEnd
    | .error (code, message) => (st.respond (.error (bridgeError code message))).exit .streamEnd
  | .error message =>
    (st.respond (.error (bridgeError codeTransportError message))).exit .transportError
  | .event event =>
    let (events, translator) := st.turn.translator.translate sdk.fromStr event
    let deadlines := st.turn.deadlines.map fun d => (d.1, now + state.idleTimeout)
    forward sdk state events sends
      { st with turn := { st.turn with translator := translator, deadlines := deadlines } }

/-- The body of the arm that won. -/
def arm (st : Stretch) (now : Duration) (sends : List Bool) : Arm → Stretch
  | .cancelled => (st.respond (.stop .cancelled)).exit .cancelled
  | .incomingClosed =>
    { st with turn := { st.turn with leaveTurnRegistered := true } }.exit .hostDisconnected
  | .turnDeadline =>
    ((st.spawnMuxCancel state).respond (.error (turnTimeoutError sdk state))).exit .turnTimeout
  | .idleDeadline =>
    ((st.spawnMuxCancel state).respond (.error (idleTimeoutError sdk state))).exit .idleTimeout
  | .item item => st.next sdk state now sends item
  | .pending => st

/-- What follows the loop, once it is left. -/
def finish (st : Stretch) : Stretch :=
  if st.turn.exit.isSome && !st.turn.leaveTurnRegistered then
    { st with sessions := st.sessions.endTurn st.turn.sessionId st.turn.requestId }
  else st

end Stretch

/-- Inputs of one turn of the loop: whether the host is gone, the time, what the stream has
ready and how the sends go. -/
structure PollInput where
  incomingClosed : Bool
  now : Duration
  item : Option StreamItem := none
  sends : List Bool := []

/-- One run of the task between two awaits. The first one sets the deadlines. -/
def RunTurn.poll (sdk : Sdk) (state : BridgeState) (sessions : SessionRegistry) (turn : RunTurn)
    (input : PollInput) : Stretch :=
  let deadlines := turn.deadlines.getD
    (input.now + state.turnTimeout, input.now + state.idleTimeout)
  let winner := Stretch.select (sessions.tokens.isCancelled turn.cancel) input.incomingClosed
    input.now deadlines.1 deadlines.2 input.item
  let st : Stretch :=
    { sessions := sessions, turn := { turn with deadlines := some deadlines } }
  (st.arm sdk state input.now input.sends winner).finish

end AcpBridge
