import Vertx.Web.State

/-!
# The realtime client's view of a connection

`RealtimeGatewayClient` remembers the number of the last event frame since the hello and reports a
gap when a frame skips a number.
-/

namespace Vertx

/-- A frame as the browser receives it. -/
inductive GatewayFrame
  | hello (frame : HelloFrame)
  | event (frame : EventFrame)
  | res (id : String)
  | error (message : JsValue)
  deriving DecidableEq, Repr

/-- An event frame after its way through JSON. -/
def EventFrame.wire (frame : EventFrame) : EventFrame where
  event := frame.event
  seq := frame.seq.wire
  payload := frame.payload.wire
  stateVersion := frame.stateVersion.wire

/-- The report of a gap. -/
structure GapInfo where
  expected : JsNumber
  received : JsValue
  deriving DecidableEq, Repr

/-- A frame number in arithmetic.  The gateway sends numbers; what JSON cannot say arrives as
`null`. -/
def seqNumber : JsValue → JsNumber
  | .num x => x
  | .null => .ofNat 0
  | _ => .nan

/-- The number that the client remembers after a frame. -/
def nextLastSeq (lastSeq : JsValue) : GatewayFrame → JsValue
  | .hello _ => .null
  | .event frame => frame.seq
  | _ => lastSeq

/-- The gap that the client reports on a frame. -/
def gapReport (lastSeq : JsValue) : GatewayFrame → Option GapInfo
  | .event frame =>
    let expected := (seqNumber lastSeq).add (.ofNat 1)
    if lastSeq ≠ .null ∧ expected.lt (seqNumber frame.seq) then some ⟨expected, frame.seq⟩ else none
  | _ => none

end Vertx
