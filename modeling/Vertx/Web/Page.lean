import Vertx.Lib.Runs
import Vertx.Web.Client

/-!
# Frames arriving at a session page

`useSessionRealtime` hands every frame of its client to `handleFrame`, which dispatches it to the
reducer and, for messages of its own session and for the end of a run, asks for the history again.
An error thrown by the reducer surfaces while the page renders and takes the page down.
-/

namespace Vertx

/-- A mounted page: the reducer's state and the refs that `handleFrame` reads and writes. -/
structure Page where
  sessionKey : String
  state : RealtimeState
  activeRunRef : JsValue
  pendingReload : Bool
  /-- `clientRef.current` holds a client. -/
  hasClient : Bool
  /-- The number of `chat.history` requests handed to the client. -/
  historyRequests : ℕ
  /-- The reducer has thrown. -/
  crashed : Bool
  deriving DecidableEq, Repr

/-- A page whose client has just been created. -/
def openedPage (sessionKey : String) : Page where
  sessionKey := sessionKey
  state := initialRealtimeState
  activeRunRef := .null
  pendingReload := false
  hasClient := true
  historyRequests := 0
  crashed := false

def payloadSessionKey (payload : JsValue) : Option String :=
  match payload with
  | .obj _ => (payload.stringAt "sessionKey").or (payload.stringAt "sessionId")
  | _ => none

/-- The states by which a chat event ends a run. -/
def endedChatStates : List String := ["final", "aborted", "error"]

/-- An event frame that ends a run.  The state of a chat payload is converted to a string first. -/
def isTerminalRunFrame (frame : EventFrame) : Except JsError Bool :=
  match frame.payload, frame.event with
  | .obj fields, .chat => do
    let state ← (JsValue.lookup "state" fields).toStr
    return state ∈ endedChatStates
  | .obj fields, .runStatus => .ok ((runStatusText (.obj fields)).getD "" ∈ endedWords)
  | _, _ => .ok false

namespace Page

def dispatch (clock : Clock) (action : RealtimeAction) (p : Page) : Page :=
  if p.crashed then p
  else
    match realtimeReducer clock p.state action with
    | .ok state => { p with state }
    | .error _ => { p with crashed := true }

/-- `requestHistoryFromCurrentClient`. -/
def requestHistory (clock : Clock) (reason : String) (p : Page) : Page :=
  if p.hasClient then
    let p := p.dispatch clock (.recoverStart reason)
    { p with historyRequests := p.historyRequests + 1 }
  else p

end Page

/-- The reason shown while a delayed session message is fetched. -/
def runEndedReason : String := "活跃运行已结束，正在同步延迟的会话消息…"

def handleFrame (clock : Clock) (p : Page) (frame : GatewayFrame) : Page :=
  match frame with
  | .hello frame => p.dispatch clock (.hello frame)
  | .event frame =>
    let p := p.dispatch clock (.event frame)
    if frame.event = .sessionMessage ∧ payloadSessionKey frame.payload = some p.sessionKey then
      if p.activeRunRef.truthy then { p with pendingReload := true }
      else p.requestHistory clock "检测到会话消息更新，正在同步历史…"
    else
      match isTerminalRunFrame frame with
      | .ok true =>
        if p.pendingReload then
          { p with pendingReload := false, activeRunRef := .null }.requestHistory clock
            runEndedReason
        else p
      | _ => p
  | .error message => p.dispatch clock (.connectError message)
  | .res _ => p

/-- One thing that happens to a page. -/
inductive PageStep
  | frame (clock : Clock) (frame : GatewayFrame)
  /-- The effect that copies the run of the committed state into its ref. -/
  | commit
  /-- Any other dispatch of the page: by the user, a history response or the connection. -/
  | act (clock : Clock) (action : RealtimeAction)

def pageStep (p : Page) : PageStep → Page
  | .frame clock frame => handleFrame clock p frame
  | .commit => { p with activeRunRef := p.state.chatRunId }
  | .act clock action => p.dispatch clock action

end Vertx
