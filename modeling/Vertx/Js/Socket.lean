import Mathlib

/-!
# The ready states of a WebSocket

A socket starts in `connecting`.  `close()` makes it `closing` at once; the close event, with which
it becomes `closed`, arrives later.  Messages are dispatched in `open` only, so a socket is live
before `closing`.
-/

namespace Vertx

inductive ReadyState
  | connecting
  | open
  | closing
  | closed
  deriving DecidableEq, Repr

namespace ReadyState

/-- The state after `WebSocket.close()`. -/
def afterClose : ReadyState → ReadyState
  | connecting | «open» | closing => closing
  | closed => closed

/-- The state after the open event. -/
def afterOpen : ReadyState → ReadyState
  | connecting => «open»
  | state => state

/-- The socket is not closed and not closing. -/
def isLive : ReadyState → Bool
  | connecting | «open» => true
  | closing | closed => false

@[simp] theorem isLive_afterClose (state : ReadyState) : state.afterClose.isLive = false := by
  cases state <;> rfl

@[simp] theorem isLive_afterOpen (state : ReadyState) : state.afterOpen.isLive = state.isLive := by
  cases state <;> rfl

theorem afterClose_eq_closed {state : ReadyState} : state.afterClose = closed ↔ state = closed := by
  cases state <;> simp [afterClose]

theorem afterOpen_eq_closed {state : ReadyState} : state.afterOpen = closed ↔ state = closed := by
  cases state <;> simp [afterOpen]

end ReadyState

end Vertx
