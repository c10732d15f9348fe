import Mathlib.Data.Finset.Insert
import Mathlib.Data.List.Sort
import AcpBridge.Lib.KeyMap
import AcpBridge.Config

/-! In-memory session registry: which sessions exist, the one active turn of each, the
concurrency caps and the northbound buffer accounting of a turn. -/
namespace AcpBridge

/-- Identity of a cancellation token. -/
abbrev Token := ℕ

/-- The shared flags behind the cancellation tokens created so far. -/
structure CancellationTokens where
  next : Token := 0
  fired : Finset Token := ∅
deriving DecidableEq

namespace CancellationTokens

def new (ts : CancellationTokens) : Token × CancellationTokens :=
  (ts.next, { ts with next := ts.next + 1 })

def cancel (ts : CancellationTokens) (t : Token) : CancellationTokens :=
  { ts with fired := insert t ts.fired }

def isCancelled (ts : CancellationTokens) (t : Token) : Bool := t ∈ ts.fired

end CancellationTokens

/-- Cancellation handle of a turn, as handed to callers. -/
structure ActiveTurn where
  requestId : String
  cancel : Token
deriving DecidableEq

/-- Handle and buffer accounting of a turn; sizes queue in the order they were reserved. -/
structure TurnState where
  handle : ActiveTurn
  pendingWrites : List Usize := []
  bufferedBytes : Usize := 0
deriving DecidableEq

structure SessionEntry where
  cwd : String
  activeTurn : Option TurnState := none
deriving DecidableEq

inductive TurnError
  | unknownSession
  | turnInProgress
  | turnLimit
deriving DecidableEq

structure SessionLimitExceeded where
deriving DecidableEq

structure BufferOverflow where
  bufferedBytes : Usize
  limit : Usize
deriving DecidableEq

/-- The registry behind its lock. Tokens are shared with the turns they were handed to,
so their flags are part of the state. -/
structure SessionRegistry where
  inner : KeyMap String SessionEntry
  limits : Limits
  tokens : CancellationTokens := {}

namespace SessionRegistry

def new (limits : Limits) : SessionRegistry := { inner := ∅, limits := limits }

/-- Register a minted id, enforcing `max_sessions`. -/
def create (reg : SessionRegistry) (id cwd : String) :
    Except SessionLimitExceeded String × SessionRegistry :=
  if reg.inner.len ≥ reg.limits.maxSessions.val then (.error ⟨⟩, reg)
  else (.ok id, { reg with inner := reg.inner.insert id { cwd := cwd } })

/-- Rebind a live session to a new `cwd`; an unknown id is registered again. -/
def resume (reg : SessionRegistry) (sessionId cwd : String) :
    Except SessionLimitExceeded Unit × SessionRegistry :=
  match reg.inner.lookup sessionId with
  | some entry =>
    (.ok (), { reg with inner := reg.inner.insert sessionId { entry with cwd := cwd } })
  | none =>
    if reg.inner.len ≥ reg.limits.maxSessions.val then (.error ⟨⟩, reg)
    else (.ok (), { reg with inner := reg.inner.insert sessionId { cwd := cwd } })

def contains (reg : SessionRegistry) (sessionId : String) : Bool :=
  (reg.inner.lookup sessionId).isSome

/-- The sessions in the order of their ids. -/
def list (reg : SessionRegistry) : List (String × String) :=
  (reg.inner.entries.map fun e => (e.1, e.2.cwd)).insertionSort (·.1 ≤ ·.1)

/-- Close or delete: cancel the active turn, if any, and drop the entry. -/
def remove (reg : SessionRegistry) (sessionId : String) : Option ActiveTurn × SessionRegistry :=
  match reg.inner.lookup sessionId with
  | none => (none, reg)
  | some entry =>
    let reg := { reg with inner := reg.inner.erase sessionId }
    match entry.activeTurn with
    | none => (none, reg)
    | some turn => (some turn.handle, { reg with tokens := reg.tokens.cancel turn.handle.cancel })

def inFlight (reg : SessionRegistry) : ℕ :=
  reg.inner.countValues fun entry => entry.activeTurn.isSome

/-- Claim the turn slot of a session: one turn a session, `max_concurrent_turns` overall. -/
def beginTurn (reg : SessionRegistry) (sessionId requestId : String) :
    Except TurnError Token × SessionRegistry :=
  match reg.inner.lookup sessionId with
  | none => (.error .unknownSession, reg)
  | some entry =>
    if entry.activeTurn.isSome then (.error .turnInProgress, reg)
    else if reg.inFlight ≥ reg.limits.maxConcurrentTurns.val then (.error .turnLimit, reg)
    else
      let (token, tokens) := reg.tokens.new
      let turn : TurnState := { handle := { requestId := requestId, cancel := token } }
      (.ok token, { reg with
        inner := reg.inner.insert sessionId { entry with activeTurn := some turn }
        tokens := tokens })

/-- End a turn if `requestId` still owns it. -/
def endTurn (reg : SessionRegistry) (sessionId requestId : String) : SessionRegistry :=
  match reg.inner.lookup sessionId with
  | none => reg
  | some entry =>
    if entry.activeTurn.any (·.handle.requestId == requestId) then
      { reg with inner := reg.inner.insert sessionId { entry with activeTurn := none } }
    else reg

/-- Fire the token of the session's active turn, keeping the turn registered. -/
def cancelActiveTurn (reg : SessionRegistry) (sessionId : String) :
    Option ActiveTurn × SessionRegistry :=
  match (reg.inner.lookup sessionId).bind (·.activeTurn) with
  | none => (none, reg)
  | some turn => (some turn.handle, { reg with tokens := reg.tokens.cancel turn.handle.cancel })

/-- Account for one update about to be queued. On overflow nothing is recorded; without an
active turn the send is moot and accepted. -/
def bufferReserve (reg : SessionRegistry) (sessionId : String) (bytes : Usize) :
    Except BufferOverflow Unit × SessionRegistry :=
  match reg.inner.lookup sessionId with
  | some ⟨cwd, some turn⟩ =>
    let wouldBe := turn.bufferedBytes.saturatingAdd bytes
    if wouldBe.val > reg.limits.maxBufferedBytes.val then
      (.error { bufferedBytes := wouldBe, limit := reg.limits.maxBufferedBytes }, reg)
    else
      let turn := { turn with
        pendingWrites := turn.pendingWrites ++ [bytes]
        bufferedBytes := wouldBe }
      (.ok (), { reg with inner := reg.inner.insert sessionId ⟨cwd, some turn⟩ })
  | _ => (.ok (), reg)

/-- One update of the session reached the writer: release its oldest reservation. -/
def bufferWritten (reg : SessionRegistry) (sessionId : String) : SessionRegistry :=
  match reg.inner.lookup sessionId with
  | some ⟨cwd, some turn⟩ =>
    match turn.pendingWrites with
    | [] => reg
    | bytes :: rest =>
      let turn := { turn with
        pendingWrites := rest
        bufferedBytes := turn.bufferedBytes.saturatingSub bytes }
      { reg with inner := reg.inner.insert sessionId ⟨cwd, some turn⟩ }
  | _ => reg

/-- Shutdown: cancel every active turn and hand the handles to the caller. -/
def drainActiveTurns (reg : SessionRegistry) : List (String × ActiveTurn) × SessionRegistry :=
  let turns := reg.inner.entries.filterMap fun e =>
    e.2.activeTurn.map fun turn => (e.1, turn.handle)
  (turns, { reg with
    inner := reg.inner.mapValues fun entry => { entry with activeTurn := none }
    tokens := turns.foldl (fun tokens turn => tokens.cancel turn.2.cancel) reg.tokens })

end SessionRegistry
end AcpBridge
