import AcpBridge.Session.Exactness

/-! The outgoing path: reservations in the registry against the queue of lines the writer
has not reached yet. Lines outlive the turn that queued them, reservations do not. -/
namespace AcpBridge

/-- A queued line. The turn that sent an update is known here by its token, which is not
on the wire: the writer only reports the session. -/
inductive Line
  | update (sessionId : String) (turn : Token) (bytes : Usize)
  | frame
deriving DecidableEq

structure Northbound where
  sessions : SessionRegistry
  queue : List Line := []

inductive NorthboundStep
  /-- Any registry operation that is not itself part of a send or a write. -/
  | registry (op : RegistryOp)
  | send (sessionId : String) (turn : Token) (bytes : Usize)
  | sendFrame
  | written

namespace Northbound

/-- Reserve the bytes and, when they fit, queue the line. -/
def send (n : Northbound) (s : String) (turn : Token) (bytes : Usize) : Northbound :=
  match n.sessions.bufferReserve s bytes with
  | (.ok (), sessions) => { sessions := sessions, queue := n.queue ++ [.update s turn bytes] }
  | (.error _, sessions) => { n with sessions := sessions }

/-- The writer takes the oldest line; an update completes one reservation of its session. -/
def written (n : Northbound) : Northbound :=
  match n.queue with
  | [] => n
  | .update s _ _ :: rest => { sessions := n.sessions.bufferWritten s, queue := rest }
  | .frame :: rest => { n with queue := rest }

def step (n : Northbound) : NorthboundStep → Northbound
  | .registry op => { n with sessions := op.run n.sessions }
  | .send s turn bytes => n.send s turn bytes
  | .sendFrame => { n with queue := n.queue ++ [.frame] }
  | .written => n.written

/-- Registry operations other than the buffer ones, and sends of turns that have begun. -/
def Enabled (n : Northbound) : NorthboundStep → Prop
  | .registry op => op.isBuffer = false
  | .send _ turn _ => turn < n.sessions.tokens.next
  | .sendFrame | .written => True

instance (n : Northbound) : ∀ st, Decidable (n.Enabled st)
  | .registry op => inferInstanceAs (Decidable (op.isBuffer = false))
  | .send _ turn _ => inferInstanceAs (Decidable (turn < n.sessions.tokens.next))
  | .sendFrame | .written => inferInstanceAs (Decidable True)

/-- Sizes of the queued lines of one turn, oldest first. -/
def ownSizes (s : String) (turn : Token) (queue : List Line) : List Usize :=
  queue.filterMap fun
    | .update s' turn' bytes => if s' = s ∧ turn' = turn then some bytes else none
    | .frame => none

/-- The accounting of every registered turn is the total of its own queued lines, which
stays within the cap. -/
def Exact (n : Northbound) : Prop := ∀ s t, n.sessions.turn s = some t →
  t.bufferedBytes.val = Usize.total (ownSizes s t.handle.cancel n.queue) ∧
    Usize.total (ownSizes s t.handle.cancel n.queue) ≤ n.sessions.limits.maxBufferedBytes.val

/-- A recorded send belongs to the registered turn and does not saturate; a line of another
turn is written only while the registered turn has no line of its own queued. -/
def InStep (n : Northbound) : NorthboundStep → Prop
  | .send s turn bytes => ∀ t, n.sessions.turn s = some t →
      n.sessions.limits.maxBufferedBytes.val < (t.bufferedBytes.saturatingAdd bytes).val ∨
        (t.handle.cancel = turn ∧ t.bufferedBytes.val + bytes.val ≤ Usize.MAX)
  | .written => ∀ s turn bytes rest t, n.queue = .update s turn bytes :: rest →
      n.sessions.turn s = some t →
      t.handle.cancel = turn ∨ ownSizes s t.handle.cancel n.queue = []
  | .registry _ | .sendFrame => True

end Northbound

/-- The outgoing path of a bridge with the given limits. -/
def northboundSystem (limits : Limits) : TransitionSystem Northbound NorthboundStep where
  init := { sessions := .new limits }
  enabled := Northbound.Enabled
  next := Northbound.step

namespace Northbound

@[simp] theorem ownSizes_append (s : String) (turn : Token) (xs ys : List Line) :
    ownSizes s turn (xs ++ ys) = ownSizes s turn xs ++ ownSizes s turn ys := by
  simp [ownSizes]

@[simp] theorem ownSizes_frame (s : String) (turn : Token) (queue : List Line) :
    ownSizes s turn (.frame :: queue) = ownSizes s turn queue := by
  simp [ownSizes]

theorem ownSizes_update (s s' : String) (turn turn' : Token) (bytes : Usize) (queue : List Line) :
    ownSizes s turn (.update s' turn' bytes :: queue) =
      if s' = s ∧ turn' = turn then bytes :: ownSizes s turn queue else ownSizes s turn queue := by
  by_cases h : s' = s ∧ turn' = turn
  · simp [ownSizes, h]
  · simp only [ownSizes, List.filterMap_cons, if_neg h]

end Northbound
end AcpBridge
