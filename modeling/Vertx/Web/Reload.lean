import Vertx.Web.Events
import Vertx.Web.History

/-!
# A page that reloads its history

Requests for the history leave the page whenever something asks for it, and their responses arrive
in any order.  Messages are appended while requests are on their way.  Every response is applied:
the code keeps no record of its requests, and the one kept here, with the messages appended since
each of them was sent, is only there to say what a response replaces.
-/

namespace Vertx

open Runs

/-- What has become of a request. -/
inductive RequestStatus
  | waiting
  | applied
  | failed
  deriving DecidableEq, Repr

/-- A `chat.history` request, with the messages appended to the page since it was sent. -/
structure HistoryRequest where
  status : RequestStatus
  since : List ChatMessage
  deriving DecidableEq, Repr

/-- A page with the requests it has sent, in order, and the one whose response was applied last. -/
structure ReloadPage where
  page : Page
  requests : List HistoryRequest
  shown : Option ℕ

inductive ReloadStep
  /-- A call of `loadHistory`, with the reason that is shown meanwhile. -/
  | load (clock : Clock) (reason : Option String)
  /-- The user submits a task. -/
  | queue (clock : Clock) (text : String)
  | frame (clock : Clock) (frame : GatewayFrame)
  | commit
  /-- The response to the `n`-th request. -/
  | response (clock : Clock) (n : ℕ) (payload : JsValue)
  | failure (clock : Clock) (n : ℕ) (error : JsValue)

/-- `loadHistory` up to its request. -/
def Page.loadHistory (clock : Clock) (reason : Option String) (p : Page) : Page :=
  let p := match reason with
    | some reason => p.dispatch clock (.recoverStart reason)
    | none => p
  { p with historyRequests := p.historyRequests + 1 }

namespace ReloadPage

def initial (sessionKey : String) : ReloadPage := ⟨openedPage sessionKey, [], none⟩

/-- The `n`-th request waits for its response. -/
def Waiting (n : ℕ) (s : ReloadPage) : Prop := s.requests[n]?.any (·.status = .waiting)

/-- The response to the `n`-th request has been applied. -/
def Applied (n : ℕ) (s : ReloadPage) : Prop := s.requests[n]?.any (·.status = .applied)

/-- The messages appended since the `n`-th request was sent. -/
def since (n : ℕ) (s : ReloadPage) : List ChatMessage := (s.requests[n]?.map (·.since)).getD []

/-- The page changes without a response: what is appended is noted with every request, and requests
that it sends are added. -/
def advance (after : Page) (s : ReloadPage) : ReloadPage :=
  let appended := after.state.chatMessages.drop s.page.state.chatMessages.length
  { s with
    page := after
    requests := (s.requests.map fun r => { r with since := r.since ++ appended }) ++
      List.replicate (after.historyRequests - s.page.historyRequests) ⟨.waiting, []⟩ }

def settle (n : ℕ) (status : RequestStatus) (s : ReloadPage) : ReloadPage :=
  { s with requests := s.requests.modify n ({ · with status }) }

instance (n : ℕ) (s : ReloadPage) : Decidable (s.Waiting n) :=
  inferInstanceAs (Decidable (_ = true))

def step (s : ReloadPage) : ReloadStep → ReloadPage
  | .load clock reason => s.advance (s.page.loadHistory clock reason)
  | .queue clock text => s.advance (s.page.dispatch clock (.userQueue text))
  | .frame clock frame => s.advance (handleFrame clock s.page frame)
  | .commit => { s with page := pageStep s.page .commit }
  | .response clock n payload =>
    if s.Waiting n then
      { s.settle n .applied with
        page := s.page.dispatch clock (.historyLoaded (toHistoryMessages payload))
        shown := some n }
    else s
  | .failure clock n error =>
    if s.Waiting n then
      { s.settle n .failed with page := s.page.dispatch clock (.connectError error) }
    else s

end ReloadPage

/-! ## What is appended -/

namespace Page

theorem handleFrame_appends (clock : Clock) (p : Page) (frame : GatewayFrame) :
    p.state.chatMessages <+: (handleFrame clock p frame).state.chatMessages := by
  refine handleFrame_induction (P := fun q => p.state.chatMessages <+: q.state.chatMessages)
    ?_ ?_ List.prefix_rfl frame
  · intro q action haction hq
    exact hq.trans (dispatch_appends clock action haction q)
  · intro q _ _ _ hq
    exact hq

theorem loadHistory_appends (clock : Clock) (reason : Option String) (p : Page) :
    p.state.chatMessages <+: (p.loadHistory clock reason).state.chatMessages := by
  cases reason with
  | none => exact List.prefix_rfl
  | some reason => exact dispatch_appends clock (.recoverStart reason) rfl p

end Page

/-- Only a response takes messages off the page: every other step appends to them. -/
theorem ReloadPage.messages_step (s : ReloadPage) {i : ReloadStep}
    (h : ∀ clock n payload, i ≠ .response clock n payload) :
    s.page.state.chatMessages <+: (s.step i).page.state.chatMessages := by
  cases i with
  | load clock reason => exact s.page.loadHistory_appends clock reason
  | queue clock text => exact Page.dispatch_appends clock (.userQueue text) rfl s.page
  | frame clock frame => exact Page.handleFrame_appends clock s.page frame
  | commit => exact List.prefix_rfl
  | response clock n payload => exact absurd rfl (h clock n payload)
  | failure clock n error =>
    dsimp only [step]
    split_ifs
    · exact Page.dispatch_appends clock (.connectError error) rfl s.page
    · exact List.prefix_rfl

end Vertx
