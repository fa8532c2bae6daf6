import Vertx.Web.Reload

/-!
# Responses that arrive late

A response replaces all messages of the page, whatever has been appended or loaded since its request
was sent; every other step appends to them (`messages_step`).  Nothing newer is lost in exactly the
runs whose responses come in the order of their requests and hold what was appended meanwhile, as
often as the page shows it.
-/

namespace Vertx

open Runs

/-- The number of messages with the role and the text of the given one. -/
def copies (m : ChatMessage) (messages : List ChatMessage) : ℕ :=
  messages.countP fun m' => m'.role = m.role ∧ m'.text = m.text

namespace ReloadPage

/-- A response holds the messages appended since its request as often as the page shows them, and
none to a later request has been applied. -/
def Fresh (s : ReloadPage) : ReloadStep → Prop
  | .response _ n payload => s.page.crashed = false → s.Waiting n →
    (∀ m ∈ s.since n,
      copies m s.page.state.chatMessages ≤ copies m (toHistoryMessages payload)) ∧
    ∀ k, n < k → ¬ s.Applied k
  | _ => True

/-- The response applied last is the one to the latest of the requests whose response has been
applied. -/
structure UpToDate (s : ReloadPage) : Prop where
  applied : ∀ {k}, s.shown = some k → s.Applied k
  last : ∀ {k}, s.Applied k → ∃ j, s.shown = some j ∧ k ≤ j

variable {s : ReloadPage}

/-! ### Appending -/

/-- What `advance` appends. -/
def appended (after : Page) (s : ReloadPage) : List ChatMessage :=
  after.state.chatMessages.drop s.page.state.chatMessages.length

theorem requests_advance (after : Page) {n : ℕ} (h : n < s.requests.length) :
    (s.advance after).requests[n]? =
      s.requests[n]?.map fun r => { r with since := r.since ++ s.appended after } := by
  have hlength : n < (s.requests.map fun r =>
      { r with since := r.since ++ s.appended after }).length := by rwa [List.length_map]
  exact (List.getElem?_append_left hlength).trans List.getElem?_map

theorem requests_advance_of_le (after : Page) {n : ℕ} {r : HistoryRequest}
    (h : s.requests.length ≤ n) (hr : (s.advance after).requests[n]? = some r) :
    r = ⟨.waiting, []⟩ := by
  have hlength : (s.requests.map fun r =>
      { r with since := r.since ++ s.appended after }).length ≤ n := by rwa [List.length_map]
  rw [show (s.advance after).requests[n]? = _ from List.getElem?_append_right hlength] at hr
  exact List.eq_of_mem_replicate (List.mem_of_getElem? hr)

theorem applied_advance (after : Page) (n : ℕ) : (s.advance after).Applied n ↔ s.Applied n := by
  unfold Applied
  by_cases h : n < s.requests.length
  · rw [requests_advance after h, Option.any_map]
  · rw [not_lt] at h
    rw [List.getElem?_eq_none h]
    cases hr : (s.advance after).requests[n]? with
    | none => rfl
    | some r =>
      rw [requests_advance_of_le after h hr]
      simp

theorem UpToDate.advance {after : Page} (hs : UpToDate s) : UpToDate (s.advance after) where
  applied hk := (applied_advance after _).mpr (hs.applied hk)
  last hk := hs.last ((applied_advance after _).mp hk)

/-! ### Settling -/

theorem status_settle_of_ne {n k : ℕ} (h : k ≠ n) (status : RequestStatus) :
    (s.settle n status).requests[k]? = s.requests[k]? := by
  unfold settle
  rw [List.getElem?_modify]
  simp [h.symm]

theorem status_settle {n : ℕ} (h : s.Waiting n) (status : RequestStatus) :
    ∃ r, (s.settle n status).requests[n]? = some r ∧ r.status = status := by
  unfold Waiting at h
  unfold settle
  rw [List.getElem?_modify]
  cases hr : s.requests[n]? with
  | none =>
    rw [hr] at h
    cases h
  | some r => exact ⟨{ r with status }, by simp, rfl⟩

theorem applied_settle_of_ne {n k : ℕ} (h : k ≠ n) (status : RequestStatus) :
    (s.settle n status).Applied k ↔ s.Applied k := by
  rw [Applied, status_settle_of_ne h, Applied]

theorem applied_settle {n : ℕ} (hn : s.Waiting n) (status : RequestStatus) :
    (s.settle n status).Applied n ↔ status = .applied := by
  obtain ⟨r, hr, hrs⟩ := status_settle hn status
  rw [Applied, hr, Option.any_some, decide_eq_true_eq, hrs]

theorem not_applied_of_waiting {n : ℕ} (hn : s.Waiting n) : ¬ s.Applied n := by
  intro happlied
  unfold Waiting Applied at *
  cases hr : s.requests[n]? with
  | none =>
    rw [hr] at hn
    cases hn
  | some r =>
    rw [hr, Option.any_some, decide_eq_true_eq] at hn happlied
    rw [hn] at happlied
    cases happlied

theorem UpToDate.fail {n : ℕ} (hs : UpToDate s) (hn : s.Waiting n) (page : Page) :
    UpToDate { s.settle n .failed with page } := by
  have hiff (k : ℕ) : (s.settle n .failed).Applied k ↔ s.Applied k := by
    by_cases hk : k = n
    · subst hk
      exact iff_of_false (fun h => by cases (applied_settle hn _).mp h) (not_applied_of_waiting hn)
    · exact applied_settle_of_ne hk .failed
  exact ⟨fun hk => (hiff _).mpr (hs.applied hk), fun hk => hs.last ((hiff _).mp hk)⟩

end ReloadPage

end Vertx
