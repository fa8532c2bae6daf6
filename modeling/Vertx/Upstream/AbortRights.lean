import Vertx.Upstream.ChatSystem

/-!
# Who may abort a run

A `chat.send` registers its run with its owner and its time.  `active_run` says which registration
of a run is live after a run of acts, and `among_abortedBy_iff` that an act aborts exactly the runs
whose live registration entitles it to.
-/

namespace Vertx

namespace GatewayChat

open Runs

/-- The registration of the run entitles the act to abort it: the act is for its session and from
its owner or an admin, or the time of the run is up. -/
def Entitled (c : String) (active : ChatAbortControllerEntry) (i : ChatInput) : Prop :=
  match i.act with
  | .abort sessionKey runId requester =>
    active.sessionKey = sessionKey ∧ canRequesterAbortChatRun active requester = true ∧
      ∀ r ∈ nonEmpty? runId, r = c
  | .stop sessionKey requester =>
    active.sessionKey = sessionKey ∧ canRequesterAbortChatRun active requester = true
  | .maintain => active.expiresAtMs < i.view.now
  | _ => False

/-- The act registers the run. -/
def Starts (c : String) (active : ChatAbortControllerEntry) (i : ChatInput) : Prop :=
  match i.act with
  | .sendStarts runId entry => runId = c ∧ entry = active
  | _ => False

/-- The act takes the registration of the run. -/
def Removes (c : String) (active : ChatAbortControllerEntry) (i : ChatInput) : Prop :=
  match i.act with
  | .sendStarts runId _ => runId = c
  | .sendEnds runId => runId = c
  | _ => Entitled c active i

theorem among_abortedBy_iff {c : String} {g : GatewayChat} {i : ChatInput} :
    g.Among c (g.abortedBy i) ↔
      ∃ active, g.chatAbortControllers.get? c = some active ∧ Entitled c active i := by
  obtain ⟨view, act⟩ := i
  cases act with
  | abort sessionKey runId requester => exact among_abortTargets
  | stop sessionKey requester => exact among_authorizedRuns
  | maintain => exact among_expiredRuns
  | _ => simp [Among, abortedBy, Entitled]

theorem chatAbortControllers_timer (rules : ReplyTextRules) (view : ChatView) (runId : String)
    (g : GatewayChat) :
    (g.firePendingLifecycleError rules view runId).chatAbortControllers =
      g.chatAbortControllers := by
  unfold firePendingLifecycleError
  split
  · split_ifs
    · rw [chatAbortControllers_finalize]
      rfl
    · rfl
  · rfl

/-- An act that aborts runs leaves the registrations that do not entitle it. -/
theorem active_aborts (rules : ReplyTextRules) (c : String) (active : ChatAbortControllerEntry)
    (g : GatewayChat) {i : ChatInput} (hi : CanAbort i) :
    (step rules g i).chatAbortControllers.get? c = some active ↔
      g.chatAbortControllers.get? c = some active ∧ ¬ Entitled c active i := by
  rw [get?_chatAbortControllers_step rules c g hi]
  by_cases h : g.Among c (g.abortedBy i)
  · rw [if_pos h]
    obtain ⟨active', hactive, hentitled⟩ := among_abortedBy_iff.1 h
    refine ⟨fun h' => absurd h' (by simp), ?_⟩
    rintro ⟨h', hnot⟩
    rw [hactive] at h'
    obtain rfl := Option.some.inj h'
    exact absurd hentitled hnot
  · rw [if_neg h]
    exact ⟨fun h' => ⟨h', fun hent => h (among_abortedBy_iff.2 ⟨active, h', hent⟩)⟩, fun h' => h'.1⟩

theorem active_step (rules : ReplyTextRules) (c : String) (active : ChatAbortControllerEntry)
    (g : GatewayChat) (i : ChatInput) :
    (step rules g i).chatAbortControllers.get? c = some active ↔
      Starts c active i ∨ (g.chatAbortControllers.get? c = some active ∧ ¬ Removes c active i) := by
  obtain ⟨view, act⟩ := i
  have hkept : (step rules g ⟨view, act⟩).chatAbortControllers = g.chatAbortControllers →
      ((step rules g ⟨view, act⟩).chatAbortControllers.get? c = some active ↔
        g.chatAbortControllers.get? c = some active) := fun h => by rw [h]
  cases act with
  | emit runId stream data sessionKey =>
    exact kept_iff (hkept (chatAbortControllers_handle rules view _ _)) (fun h => h) (fun h => h)
  | timer runId =>
    exact kept_iff (hkept (chatAbortControllers_timer rules view runId g)) (fun h => h) (fun h => h)
  | sendStarts runId entry =>
    show (g.chatAbortControllers.set runId entry).get? c = some active ↔
      (runId = c ∧ entry = active) ∨ (g.chatAbortControllers.get? c = some active ∧ ¬ runId = c)
    by_cases h : runId = c
    · subst h
      rw [OrderedMap.get?_set_self]
      simp
    · rw [OrderedMap.get?_set_of_ne fun h' => h h'.symm]
      simp [h]
  | sendEnds runId =>
    show (g.chatAbortControllers.delete runId).get? c = some active ↔
      False ∨ (g.chatAbortControllers.get? c = some active ∧ ¬ runId = c)
    rw [OrderedMap.get?_delete]
    by_cases h : c = runId
    · simp [h]
    · have h' : ¬ runId = c := fun h' => h h'.symm
      simp [h, h']
  | abort sessionKey runId requester =>
    have hnot : ¬ Starts c active ⟨view, .abort sessionKey runId requester⟩ := fun h => h
    have hcan : CanAbort ⟨view, .abort sessionKey runId requester⟩ := trivial
    rw [or_iff_right hnot]
    exact active_aborts rules c active g hcan
  | stop sessionKey requester =>
    have hnot : ¬ Starts c active ⟨view, .stop sessionKey requester⟩ := fun h => h
    have hcan : CanAbort ⟨view, .stop sessionKey requester⟩ := trivial
    rw [or_iff_right hnot]
    exact active_aborts rules c active g hcan
  | maintain =>
    have hnot : ¬ Starts c active ⟨view, .maintain⟩ := fun h => h
    have hcan : CanAbort ⟨view, .maintain⟩ := trivial
    rw [or_iff_right hnot]
    exact active_aborts rules c active g hcan
  | _ => exact kept_iff (hkept rfl) (fun h => h) (fun h => h)

/-- A registration is live exactly when no act has taken it since. -/
theorem active_run (rules : ReplyTextRules) (is : List ChatInput) (c : String)
    (active : ChatAbortControllerEntry) :
    (run (step rules) initial is).chatAbortControllers.get? c = some active ↔
      LiveSince (Starts c active) (Removes c active) is := by
  have hrun := run_iff_last
    (P := fun g : GatewayChat => g.chatAbortControllers.get? c = some active)
    (active_step rules c active) initial is
  have hnone : initial.chatAbortControllers.get? c = none := OrderedMap.get?_empty c
  simpa only [hnone, reduceCtorEq, false_and, false_or] using hrun

end GatewayChat

end Vertx
