import Vertx.Web.Reload

/-!
# Session messages that wait for the end of a run

A session message that arrives during a run is remembered, and the frame that ends the run loads the
history.  Whether a run is active is read from a ref that follows the state only when the page
commits; a message that arrives between the end of a run and the commit is remembered with nothing
left to end.
-/

namespace Vertx

open Runs

/-- An event that sets the run to `null` without ending it. -/
def NamesNoRun (frame : EventFrame) : Prop :=
  match frame.event with
  | .chat =>
    frame.payload.stringAt "state" = some "delta" ∧ (chatText frame.payload).isSome ∧
      frame.payload.stringAt "runId" = none
  | .agent | .toolStatus => frame.payload.field "runId" = .null
  | _ => False

namespace ReloadPage

/-- All effects have run, no run is active and no response is awaited: no session message is
remembered. -/
def Remembered (s : ReloadPage) : Prop :=
  s.page.crashed = false → s.page.activeRunRef = s.page.state.chatRunId →
    s.page.state.chatRunId = .null → (∀ n, ¬ s.Waiting n) → s.page.pendingReload = false

/-- A session message is delayed only while the state has a run, and while one is delayed no other
event than the end of the run sets the run to `null`. -/
def KeepsRun (s : ReloadPage) : ReloadStep → Prop
  | .frame _ (.event frame) =>
    if frame.event = .sessionMessage ∧ payloadSessionKey frame.payload = some s.page.sessionKey then
      s.page.activeRunRef.truthy → s.page.state.chatRunId ≠ .null
    else s.page.pendingReload → ¬ NamesNoRun frame
  | _ => True

/-- While a session message is remembered, the state has a run that will end. -/
def RunPending (p : Page) : Prop :=
  p.crashed = false → p.pendingReload → p.state.chatRunId ≠ .null

end ReloadPage

open ReloadPage

/-- Besides events that name no run, only the end of a run leaves no run. -/
theorem terminal_of_runAfter_null {runId : JsValue} {frame : EventFrame} (hrun : runId ≠ .null)
    (hnull : runAfter runId frame = .null) (hnames : ¬ NamesNoRun frame) :
    isTerminalRunFrame frame = .ok true := by
  obtain ⟨event, seq, payload, stateVersion⟩ := frame
  cases event with
  | chat =>
    dsimp only [runAfter, NamesNoRun] at hnull hnames
    split_ifs at hnull with hdelta htext hended
    · -- A delta that names its run does not set it to `null`.
      cases hid : payload.stringAt "runId" with
      | none => exact absurd ⟨hdelta, htext, hid⟩ hnames
      | some id =>
        rw [chatPayloadRunId, hid] at hnull
        cases hnull
    · exact absurd hnull hrun
    · cases hstate : payload.stringAt "state" with
      | none =>
        rw [hstate] at hended
        cases hended
      | some word =>
        obtain ⟨fields, rfl, hlookup⟩ := stringAt_eq_some hstate
        rw [hstate, Option.any_some] at hended
        show (do return decide ((← (JsValue.lookup "state" fields).toStr) ∈ endedChatStates)) = _
        rw [hlookup, JsValue.toStr]
        exact congrArg Except.ok hended
    · exact absurd hnull hrun
  | runStatus =>
    dsimp only [runAfter] at hnull
    split_ifs at hnull with hended
    · cases hstatus : runStatusText payload with
      | none =>
        rw [hstatus] at hended
        cases hended
      | some word =>
        cases payload with
        | obj fields =>
          show Except.ok (decide ((runStatusText (.obj fields)).getD "" ∈ endedWords)) = .ok true
          rw [hstatus] at hended ⊢
          exact congrArg Except.ok hended
        | _ => cases hstatus
    · exact absurd hnull hrun
  | agent | toolStatus => exact absurd hnull hnames
  | _ => exact absurd hnull hrun

/-! ## The invariant -/

namespace Page

/-- A page whose run and remembered messages are those of another one, and that is not up when the
other is down. -/
structure SameRun (p q : Page) : Prop where
  run : q.state.chatRunId = p.state.chatRunId
  pending : q.pendingReload = p.pendingReload
  crashed : q.crashed = p.crashed

theorem sameRun_dispatch (clock : Clock) (action : RealtimeAction) (h : action.isLocal)
    (p : Page) : SameRun p (p.dispatch clock action) := by
  obtain ⟨state', hrun, heq⟩ := p.dispatch_local clock h
  rw [heq]
  exact ⟨hrun, rfl, rfl⟩

theorem sameRun_requestHistory (clock : Clock) (reason : String) (p : Page) :
    SameRun p (p.requestHistory clock reason) := by
  unfold requestHistory
  split_ifs
  · have h := sameRun_dispatch clock (.recoverStart reason) rfl p
    exact ⟨h.run, h.pending, h.crashed⟩
  · exact ⟨rfl, rfl, rfl⟩

theorem sameRun_loadHistory (clock : Clock) (reason : Option String) (p : Page) :
    SameRun p (p.loadHistory clock reason) := by
  unfold loadHistory
  cases reason with
  | none => exact ⟨rfl, rfl, rfl⟩
  | some reason =>
    have h := sameRun_dispatch clock (.recoverStart reason) rfl p
    exact ⟨h.run, h.pending, h.crashed⟩

end Page

namespace ReloadPage

theorem RunPending.congr {p q : Page} (h : RunPending p) (hq : p.SameRun q) : RunPending q := by
  intro hc hpending
  rw [hq.run]
  exact h (hq.crashed ▸ hc) (hq.pending ▸ hpending)

theorem runPending_event (clock : Clock) {s : ReloadPage} {frame : EventFrame}
    (h : RunPending s.page) (hok : s.KeepsRun (.frame clock (.event frame))) :
    RunPending (handleFrame clock s.page (.event frame)) := by
  obtain ⟨state, crashed, hq⟩ := s.page.dispatch_eq clock (.event frame)
  have hrun (hc : crashed = false) : s.page.crashed = false ∧
      state.chatRunId = runAfter s.page.state.chatRunId frame := by
    obtain ⟨state', hr, heq⟩ := Page.dispatch_ok (p := s.page) (show _ = false by rw [hq]; exact hc)
    rw [hq] at heq
    injection heq with _ hstate _ _ _ _ hcrashed
    exact ⟨hcrashed.symm.trans hc, hstate ▸ (follows_event hr).run⟩
  dsimp only [KeepsRun] at hok
  simp only [handleFrame, hq]
  by_cases hmessage : frame.event = .sessionMessage ∧
      payloadSessionKey frame.payload = some s.page.sessionKey
  · have hkept (hc : crashed = false) : state.chatRunId = s.page.state.chatRunId := by
      rw [(hrun hc).2, runAfter, hmessage.1]
    rw [if_pos hmessage] at hok ⊢
    by_cases hactive : s.page.activeRunRef.truthy
    · rw [if_pos hactive]
      intro hc _
      rw [hkept hc]
      exact hok hactive
    · rw [if_neg hactive]
      refine RunPending.congr ?_ (Page.sameRun_requestHistory clock _ _)
      intro hc hpending
      rw [hkept hc]
      exact h (hrun hc).1 hpending
  · rw [if_neg hmessage] at hok ⊢
    have hkept (hterminal : isTerminalRunFrame frame ≠ .ok true) : RunPending
        { s.page with state, crashed } := by
      intro hc hpending hnull
      rw [(hrun hc).2] at hnull
      exact hterminal (terminal_of_runAfter_null (h (hrun hc).1 hpending) hnull (hok hpending))
    cases hterminal : isTerminalRunFrame frame with
    | error e => exact hkept (by rw [hterminal]; exact nofun)
    | ok terminal =>
      cases terminal with
      | false => exact hkept (by rw [hterminal]; exact nofun)
      | true =>
        dsimp only
        split_ifs with hpending
        · have hrequest := Page.sameRun_requestHistory clock runEndedReason
            { s.page with state, crashed, pendingReload := false, activeRunRef := .null }
          intro _ hp
          rw [hrequest.pending] at hp
          cases hp
        · exact fun _ hp => absurd hp hpending

theorem runPending_step {s : ReloadPage} {i : ReloadStep} (h : RunPending s.page)
    (hok : s.KeepsRun i) : RunPending (s.step i).page := by
  have hlocal (clock : Clock) (action : RealtimeAction) (haction : action.isLocal) :
      RunPending (s.page.dispatch clock action) :=
    h.congr (Page.sameRun_dispatch clock action haction s.page)
  cases i with
  | load clock reason => exact h.congr (Page.sameRun_loadHistory clock reason s.page)
  | queue clock text => exact hlocal clock (.userQueue text) rfl
  | commit => exact h
  | frame clock frame =>
    cases frame with
    | event frame => exact runPending_event clock h hok
    | hello frame => exact hlocal clock (.hello frame) rfl
    | error message => exact hlocal clock (.connectError message) rfl
    | res id => exact h
  | response clock n payload =>
    dsimp only [step]
    split_ifs
    · exact hlocal clock (.historyLoaded (toHistoryMessages payload)) rfl
    · exact h
  | failure clock n error =>
    dsimp only [step]
    split_ifs
    · exact hlocal clock (.connectError error) rfl
    · exact h

/-- A session message during a run is delayed until its end. -/
theorem keepsRun_message {s : ReloadPage} {frame : EventFrame} (clock : Clock)
    (hevent : frame.event = .sessionMessage) (hrun : s.page.state.chatRunId ≠ .null) :
    s.KeepsRun (.frame clock (.event frame)) := by
  dsimp only [KeepsRun]
  split_ifs
  · exact fun _ => hrun
  · intro _ hnames
    rw [NamesNoRun, hevent] at hnames
    exact hnames

theorem keepsRun_event {s : ReloadPage} {frame : EventFrame} (clock : Clock)
    (hevent : frame.event ≠ .sessionMessage) (hnames : ¬ NamesNoRun frame) :
    s.KeepsRun (.frame clock (.event frame)) := by
  dsimp only [KeepsRun]
  rw [if_neg fun hmessage => hevent hmessage.1]
  exact fun _ => hnames

/-- In a run whose steps all keep the run of a remembered message, no session message is
forgotten. -/
theorem delayed_remembered (sessionKey : String) (steps : List ReloadStep)
    (h : Each step KeepsRun (initial sessionKey) steps) :
    Always step Remembered (initial sessionKey) steps := by
  have hinit : RunPending (initial sessionKey).page := fun _ hpending => by cases hpending
  have hall : Always step (fun s => RunPending s.page) (initial sessionKey) steps := by
    refine Always.of_each ?_ hinit h
    intro s i hs hok
    exact runPending_step hs hok
  refine hall.imp fun s hs hc _ hnull _ => ?_
  by_contra hpending
  exact hs hc (Bool.eq_true_of_not_eq_false hpending) hnull

/-- An event on the socket of a page. -/
def pageEvent (event : GatewayEventName) (fields : List (String × JsValue)) : ReloadStep :=
  .frame (fun _ => 0) (.event ⟨event, .undefined, .obj fields, .undefined⟩)

/-- A run starts and the page commits. -/
def runStarted : List ReloadStep :=
  [pageEvent .agent [("runId", .str "r1"), ("stream", .str "Hel")], .commit]

/-- A message during the run is fetched when the run ends. -/
theorem delayed_remembered_during_run :
    Always step Remembered (initial "main") (runStarted ++
      [pageEvent .sessionMessage [("sessionKey", .str "main")],
        pageEvent .chat [("state", .str "final")]]) := by
  refine delayed_remembered "main" _ ⟨?_, trivial, ?_, ?_, trivial⟩
  · exact keepsRun_event _ nofun nofun
  · exact keepsRun_message _ rfl (by decide)
  · exact keepsRun_event _ nofun (by rintro ⟨hdelta, -⟩; revert hdelta; decide)

/-- A message between the end of the run and the commit is remembered with nothing to end. -/
theorem message_before_commit_forgotten :
    ¬ Always step Remembered (initial "main") (runStarted ++
      [pageEvent .chat [("state", .str "final")],
        pageEvent .sessionMessage [("sessionKey", .str "main")], .commit]) := by
  intro h
  have hend := (always_iff_run _ _ _ _).1 h _ [] (List.append_nil _).symm
  have hpending := hend (by decide) (by decide) (by decide) (fun n hn => by cases hn)
  revert hpending
  decide

end ReloadPage

end Vertx
