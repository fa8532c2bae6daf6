import Vertx.Adapter.Normalize

/-!
# The bridge adapter

`RealtimeBridgeAdapter` numbers the events that the gateway publishes and stamps the identity of a
context on their payloads.
-/

namespace Vertx

structure RealtimeBridgeContext where
  workspaceId : String
  tenantId : Option String
  userId : Option String
  deriving DecidableEq, Repr

/-- An event frame as the gateway's clients receive it. -/
structure EventFrame where
  event : GatewayEventName
  seq : JsValue
  payload : JsValue
  stateVersion : JsValue
  deriving DecidableEq, Repr

/-- The fields that a context stamps on a payload. -/
def RealtimeBridgeContext.contextFields (context : RealtimeBridgeContext) :
    List (String × JsValue) :=
  let optional (key : String) (value : Option String) : List (String × JsValue) :=
    ((value.filter (· ≠ "")).map fun text => (key, .str text)).toList
  ("workspaceId", .str context.workspaceId) ::
    (optional "tenantId" context.tenantId ++ optional "userId" context.userId)

def injectContext (payload : JsValue) (context : RealtimeBridgeContext) : JsValue :=
  match payload with
  | .obj fields => .obj (JsValue.merge fields context.contextFields)
  | payload => .obj (context.contextFields ++ [("data", payload)])

theorem contextFields_keys (context : RealtimeBridgeContext) :
    context.contextFields.map (·.1) ⊆ ["workspaceId", "tenantId", "userId"] := by
  intro key hkey
  simp only [RealtimeBridgeContext.contextFields, List.map_cons, List.map_append, List.mem_cons,
    List.mem_append, List.mem_map, Option.mem_toList, Option.map_eq_some_iff] at hkey
  rcases hkey with rfl | ⟨_, ⟨_, _, rfl⟩, rfl⟩ | ⟨_, ⟨_, _, rfl⟩, rfl⟩ <;> simp

/-- The context leaves the other fields of a payload as they are. -/
theorem field_injectContext {fields : List (String × JsValue)} {context : RealtimeBridgeContext}
    {key : String} (hkey : key ∉ ["workspaceId", "tenantId", "userId"]) :
    (injectContext (.obj fields) context).field key = JsValue.lookup key fields :=
  JsValue.lookup_merge_of_notMem fun h => hkey (contextFields_keys context h)

structure RealtimeBridgeAdapter where
  nextEventSeq : JsNumber
  deriving DecidableEq, Repr

/-- The adapter of a gateway that has just started. -/
def RealtimeBridgeAdapter.initial : RealtimeBridgeAdapter := ⟨.ofNat 0⟩

/-- Builds the frame of an event and counts it.  It throws when the number of the event cannot be
converted to a number. -/
def RealtimeBridgeAdapter.createEventFrame (adapter : RealtimeBridgeAdapter)
    (event : RealtimeSourceEvent) (context : RealtimeBridgeContext) :
    Except JsError (EventFrame × RealtimeBridgeAdapter) := do
  let seq := event.seq.orElse (.num (adapter.nextEventSeq.add (.ofNat 1)))
  let nextEventSeq := adapter.nextEventSeq.max (← seq.toNumber)
  return (
    { event := event.event, seq := seq, payload := injectContext event.payload context
      stateVersion := event.stateVersion },
    ⟨nextEventSeq⟩)

end Vertx
