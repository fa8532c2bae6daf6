import Vertx.Adapter.Calls
import Vertx.Adapter.Exceptions
import Vertx.Adapter.Failures

/-!
# Upstream requests with their entries and timers

A request that was sent has one entry in the map of pending requests and one timer until it is
settled, and afterwards neither.  `Paired` says so of a table of requests, and `Quiet` of the
operations of the source that settle nothing out of turn.
-/

namespace Vertx

/-- The timer that an entry of the map refers to. -/
def OpenClawPendingRequest.requestTimer (p : OpenClawPendingRequest) : RequestTimer :=
  ⟨p.timer, p.id, p.method, p.waiter⟩

/-- The settlement of the call that waits for a request. -/
def Waiter.settlement (waiter : Waiter) (result : Except JsError JsValue) :
    List (ℕ × Except JsError JsValue) :=
  (waiter.call?.map fun n => (n, result)).toList

/-- What a source keeps of its requests: `unsent` are the calls that wait for a connection, and
`calls` counts the calls from outside. -/
structure Requests where
  pending : List OpenClawPendingRequest
  requestTimers : List RequestTimer
  timersMade : ℕ
  unsent : List ℕ
  calls : ℕ
  settled : List (ℕ × Except JsError JsValue)
  sent : List SentRequest

namespace Requests

/-- The call has been settled. -/
def Settled (r : Requests) (n : ℕ) : Prop := n ∈ r.settled.map (·.1)

/-- A request is sent with an entry and a timer. -/
def send (e : SentRequest) (r : Requests) : Requests :=
  let p : OpenClawPendingRequest := ⟨e.id, e.method, e.waiter, r.timersMade⟩
  { r with
    pending := r.pending ++ [p]
    requestTimers := r.requestTimers ++ [p.requestTimer]
    timersMade := r.timersMade + 1
    sent := r.sent ++ [e] }

/-- A call that was never sent is settled, or nothing is. -/
def settle (settlements : List (ℕ × Except JsError JsValue)) (r : Requests) : Requests :=
  { r with settled := r.settled ++ settlements }

/-- The entry and its timer are removed and the request is settled. -/
def finish (p : OpenClawPendingRequest) (result : Except JsError JsValue) (r : Requests) :
    Requests :=
  { r with
    pending := r.pending.filter (·.id ≠ p.id)
    requestTimers := r.requestTimers.filter (·.number ≠ p.timer)
    settled := r.settled ++ p.waiter.settlement result }

/-- All entries and their timers are removed and the requests are settled. -/
def finishAll (result : Except JsError JsValue) (r : Requests) : Requests :=
  { r with
    pending := []
    requestTimers := []
    settled := r.settled ++ r.pending.flatMap (·.waiter.settlement result) }

/-- The calls that wait, and those whose requests were sent. -/
def numbers (r : Requests) : List ℕ := r.unsent ++ r.sent.filterMap (·.waiter.call?)

/-- Requests have ids of their own, and a call is sent once. -/
structure Distinct (r : Requests) : Prop where
  ids : (r.sent.map (·.id)).Nodup
  numbers : r.numbers.Nodup
  called : ∀ n ∈ r.numbers, n < r.calls

/-- Every entry has its timer and every timer its entry; the requests with an entry are those that
have not been settled, and no call is settled twice. -/
structure Paired (r : Requests) : Prop where
  timers : r.requestTimers = r.pending.map (·.requestTimer)
  ids : (r.pending.map (·.id)).Nodup
  numbers : (r.pending.map (·.timer)).Nodup
  made : ∀ p ∈ r.pending, p.timer < r.timersMade
  known : ∀ p ∈ r.pending, ∃ e ∈ r.sent, e.id = p.id ∧ e.method = p.method ∧ e.waiter = p.waiter
  once : (r.settled.map (·.1)).Nodup
  unsent : ∀ n ∈ r.unsent, ¬ r.Settled n
  sent : ∀ e ∈ r.sent, ∀ n, e.waiter = .call n →
    (r.Settled n ↔ e.id ∉ r.pending.map (·.id))
  called : ∀ n ∈ r.settled.map (·.1), n < r.calls

variable {r : Requests}

theorem Distinct.eq_of_id (h : r.Distinct) {d e : SentRequest} (hd : d ∈ r.sent) (he : e ∈ r.sent)
    (hid : d.id = e.id) : d = e :=
  List.inj_on_of_nodup_map h.ids hd he hid

theorem Distinct.eq_of_call (h : r.Distinct) {d e : SentRequest} {n : ℕ} (hd : d ∈ r.sent)
    (he : e ∈ r.sent) (hdn : d.waiter = .call n) (hen : e.waiter = .call n) : d = e := by
  have hsent := (List.nodup_append.1 h.numbers).2.1
  exact Keyed.eq_of_nodup_filterMap (f := fun e : SentRequest => e.waiter.call?) hsent hd he
    (by rw [hdn]; rfl) (by rw [hen]; rfl)

theorem Distinct.lt_calls (h : r.Distinct) {e : SentRequest} (he : e ∈ r.sent) {n : ℕ}
    (hn : e.waiter = .call n) : n < r.calls :=
  h.called n (List.mem_append_right _ (List.mem_filterMap.2 ⟨e, he, by rw [hn]; rfl⟩))

/-- A call that waits has not been sent. -/
theorem Distinct.not_sent (h : r.Distinct) {n : ℕ} (hn : n ∈ r.unsent) {e : SentRequest}
    (he : e ∈ r.sent) : e.waiter ≠ .call n := by
  intro hwaiter
  refine (List.nodup_append.1 h.numbers).2.2 n hn n ?_ rfl
  exact List.mem_filterMap.2 ⟨e, he, by rw [hwaiter]; rfl⟩

theorem mem_settlement {waiter : Waiter} {result : Except JsError JsValue} {x : ℕ × _} :
    x ∈ waiter.settlement result ↔ waiter = .call x.1 ∧ x.2 = result := by
  obtain ⟨n, y⟩ := x
  cases waiter <;> simp [Waiter.settlement, Waiter.call?, eq_comm]

theorem settled_settle {n m : ℕ} {result : Except JsError JsValue} :
    (r.settle [(n, result)]).Settled m ↔ r.Settled m ∨ m = n := by
  simp [Settled, settle]

namespace Paired

variable (h : r.Paired)

include h

/-- A new call waits. -/
theorem wait {n calls : ℕ} (hn : ¬ r.Settled n) (hcalls : r.calls ≤ calls) :
    { r with unsent := r.unsent ++ [n], calls }.Paired :=
  { h with
    unsent := by
      intro m hm
      rcases List.mem_append.1 hm with hm | hm
      · exact h.unsent m hm
      · rw [List.mem_singleton.1 hm]
        exact hn
    called := fun m hm => (h.called m hm).trans_le hcalls }

/-- A call does not wait any more. -/
theorem resume {unsent : List ℕ} (hsub : unsent ⊆ r.unsent) : { r with unsent }.Paired :=
  { h with unsent := fun n hn => h.unsent n (hsub hn) }

/-- A call that is not sent is settled. -/
theorem settle {n : ℕ} {result : Except JsError JsValue} (hn : ¬ r.Settled n)
    (hlt : n < r.calls) (hunsent : n ∉ r.unsent) (hsent : ∀ e ∈ r.sent, e.waiter ≠ .call n) :
    (r.settle [(n, result)]).Paired := by
  have hsettled (m : ℕ) : (r.settle [(n, result)]).Settled m ↔ r.Settled m ∨ m = n :=
    settled_settle
  exact { h with
    once := by
      simp only [Requests.settle, List.map_append, List.nodup_append]
      refine ⟨h.once, List.nodup_singleton _, ?_⟩
      rintro m hm _ hm' rfl
      rw [List.mem_singleton.1 hm'] at hm
      exact hn hm
    unsent := by
      intro m hm hs
      rcases (hsettled m).1 hs with hs | rfl
      · exact h.unsent m hm hs
      · exact hunsent hm
    sent := by
      intro e he m hm
      rw [hsettled]
      have hne : m ≠ n := fun heq => hsent e he (heq ▸ hm)
      rw [or_iff_left hne]
      exact h.sent e he m hm
    called := by
      intro m hm
      rcases (hsettled m).1 hm with hm | rfl
      · exact h.called m hm
      · exact hlt }

/-- A request is sent under an id that is new. -/
theorem send {e : SentRequest} (hnew : ∀ d ∈ r.sent, d.id ≠ e.id)
    (hcall : ∀ n, e.waiter = .call n → ¬ r.Settled n) : (r.send e).Paired := by
  have hfresh : e.id ∉ r.pending.map (·.id) := by
    intro hmem
    obtain ⟨p, hp, hid⟩ := List.mem_map.1 hmem
    obtain ⟨d, hd, hdid, -⟩ := h.known p hp
    exact hnew d hd (hdid.trans hid)
  exact { h with
    timers := by simp [Requests.send, h.timers]
    ids := by
      simp only [Requests.send, List.map_append, List.map_singleton, List.nodup_append]
      refine ⟨h.ids, List.nodup_singleton _, ?_⟩
      rintro id hid _ hid' rfl
      rw [List.mem_singleton.1 hid'] at hid
      exact hfresh hid
    numbers := by
      simp only [Requests.send, List.map_append, List.map_singleton, List.nodup_append]
      refine ⟨h.numbers, List.nodup_singleton _, ?_⟩
      rintro number hnumber _ hnumber' rfl
      rw [List.mem_singleton.1 hnumber'] at hnumber
      obtain ⟨p, hp, hpt⟩ := List.mem_map.1 hnumber
      exact (h.made p hp).ne hpt
    made := by
      intro p hp
      rcases List.mem_append.1 hp with hp | hp
      · exact (h.made p hp).trans (Nat.lt_succ_self _)
      · rw [List.mem_singleton.1 hp]
        exact Nat.lt_succ_self _
    known := by
      intro p hp
      rcases List.mem_append.1 hp with hp | hp
      · obtain ⟨d, hd, hrest⟩ := h.known p hp
        exact ⟨d, List.mem_append_left _ hd, hrest⟩
      · rw [List.mem_singleton.1 hp]
        exact ⟨e, List.mem_append_right _ (List.mem_singleton_self _), rfl, rfl, rfl⟩
    sent := by
      intro d hd n hn
      simp only [Requests.send, List.map_append, List.map_singleton, List.mem_append,
        List.mem_singleton, not_or] at hd ⊢
      rcases hd with hd | rfl
      · rw [and_iff_left (hnew d hd)]
        exact h.sent d hd n hn
      · exact iff_of_false (hcall n hn) fun hnot => hnot.2 rfl }

/-- What a finished request settles has not been settled. -/
theorem not_settled {p : OpenClawPendingRequest} (hp : p ∈ r.pending) {n : ℕ}
    (hn : p.waiter = .call n) : ¬ r.Settled n := by
  obtain ⟨e, he, hid, -, hwaiter⟩ := h.known p hp
  rw [h.sent e he n (hwaiter.trans hn), not_not, hid]
  exact List.mem_map_of_mem hp

/-- No two entries are of one call. -/
theorem nodup_calls (hdistinct : r.Distinct) : (r.pending.filterMap (·.waiter.call?)).Nodup := by
  have hids : r.pending.Pairwise fun p q => p.id ≠ q.id := List.pairwise_map.1 h.ids
  refine List.pairwise_filterMap.2 (hids.imp_of_mem fun {p q} hp hq hne n hn m hm heq => ?_)
  subst heq
  obtain ⟨d, hd, hdid, -, hdw⟩ := h.known p hp
  obtain ⟨e, he, heid, -, hew⟩ := h.known q hq
  have hcall {waiter : Waiter} (hw : waiter.call? = some n) : waiter = .call n := by
    cases waiter with
    | call m => exact congrArg Waiter.call (Option.some.inj hw)
    | connect k => cases hw
    | subscribeSessions => cases hw
  have hde := hdistinct.eq_of_call hd he (hdw.trans (hcall hn)) (hew.trans (hcall hm))
  exact hne (hdid.symm.trans ((congrArg SentRequest.id hde).trans heid))

omit h in
theorem map_settlement (waiter : Waiter) (result : Except JsError JsValue) :
    (waiter.settlement result).map (·.1) = waiter.call?.toList := by
  cases waiter <;> rfl

omit h in
theorem settled_finish {p : OpenClawPendingRequest} {result : Except JsError JsValue} {n : ℕ} :
    (r.finish p result).Settled n ↔ r.Settled n ∨ p.waiter = .call n := by
  simp only [Settled, Requests.finish, List.map_append, List.mem_append, map_settlement]
  refine or_congr_right ?_
  cases p.waiter <;> simp [Waiter.call?, eq_comm]

/-- A request with an entry is finished. -/
theorem finish (hdistinct : r.Distinct) {p : OpenClawPendingRequest} (hp : p ∈ r.pending)
    (result : Except JsError JsValue) : (r.finish p result).Paired := by
  obtain ⟨f, hf, hfid, -, hfw⟩ := h.known p hp
  have hmem (id : String) : id ∈ (r.finish p result).pending.map (·.id) ↔
      id ∈ r.pending.map (·.id) ∧ id ≠ p.id := by
    simp only [Requests.finish, List.mem_map, List.mem_filter, decide_eq_true_eq]
    constructor
    · rintro ⟨q, ⟨hq, hne⟩, rfl⟩
      exact ⟨⟨q, hq, rfl⟩, hne⟩
    · rintro ⟨⟨q, hq, rfl⟩, hne⟩
      exact ⟨q, ⟨hq, hne⟩, rfl⟩
  exact
    { timers := by
        simp only [Requests.finish, h.timers, List.filter_map]
        refine congrArg (List.map _) (List.filter_congr fun q hq => ?_)
        have hiff : q.timer = p.timer ↔ q.id = p.id :=
          ⟨fun heq => by rw [List.inj_on_of_nodup_map h.numbers hq hp heq],
            fun heq => by rw [List.inj_on_of_nodup_map h.ids hq hp heq]⟩
        simp [OpenClawPendingRequest.requestTimer, hiff]
      ids := h.ids.sublist (List.filter_sublist.map _)
      numbers := h.numbers.sublist (List.filter_sublist.map _)
      made := fun q hq => h.made q (List.mem_of_mem_filter hq)
      known := fun q hq => h.known q (List.mem_of_mem_filter hq)
      once := by
        simp only [Requests.finish, List.map_append, map_settlement, List.nodup_append]
        refine ⟨h.once, ?_, ?_⟩
        · cases p.waiter.call? <;> simp
        · rintro n hn m hm rfl
          have hcall : p.waiter = .call n := by
            cases hw : p.waiter <;> simp_all [Waiter.call?]
          exact h.not_settled hp hcall hn
      unsent := by
        intro n hn hs
        rcases settled_finish.1 hs with hs | hw
        · exact h.unsent n hn hs
        · exact hdistinct.not_sent hn hf (hfw.trans hw)
      sent := by
        intro e he n hn
        rw [settled_finish, hmem, h.sent e he n hn]
        have hiff : p.waiter = .call n ↔ e.id = p.id := by
          constructor
          · intro hw
            rw [hdistinct.eq_of_call he hf hn (hfw.trans hw), hfid]
          · intro hid
            rw [← hfw, ← hdistinct.eq_of_id he hf (hid.trans hfid.symm)]
            exact hn
        rw [hiff]
        tauto
      called := by
        intro n hn
        rcases settled_finish.1 hn with hn | hw
        · exact h.called n hn
        · exact hdistinct.lt_calls hf (hfw.trans hw) }

/-- All requests with an entry are finished. -/
theorem finishAll (hdistinct : r.Distinct) (result : Except JsError JsValue) :
    (r.finishAll result).Paired := by
  have hcalls : (r.pending.flatMap (·.waiter.settlement result)).map (·.1) =
      r.pending.filterMap (·.waiter.call?) := by
    simp only [List.map_flatMap, List.filterMap_eq_flatMap_toList, map_settlement]
  have hcall {n : ℕ} (hn : n ∈ r.pending.filterMap (·.waiter.call?)) :
      ∃ p ∈ r.pending, p.waiter = .call n := by
    obtain ⟨p, hp, hn⟩ := List.mem_filterMap.1 hn
    refine ⟨p, hp, ?_⟩
    cases hw : p.waiter <;> simp_all [Waiter.call?]
  have hsettled (n : ℕ) : (r.finishAll result).Settled n ↔
      r.Settled n ∨ n ∈ r.pending.filterMap (·.waiter.call?) := by
    simp only [Settled, Requests.finishAll, List.map_append, List.mem_append, hcalls]
  exact
    { timers := rfl
      ids := List.nodup_nil
      numbers := List.nodup_nil
      made := nofun
      known := nofun
      once := by
        simp only [Requests.finishAll, List.map_append, hcalls, List.nodup_append]
        refine ⟨h.once, h.nodup_calls hdistinct, ?_⟩
        rintro n hn _ hm rfl
        obtain ⟨p, hp, hw⟩ := hcall hm
        exact h.not_settled hp hw hn
      unsent := by
        intro n hn hs
        rcases (hsettled n).1 hs with hs | hm
        · exact h.unsent n hn hs
        · obtain ⟨p, hp, hw⟩ := hcall hm
          obtain ⟨e, he, -, -, hew⟩ := h.known p hp
          exact hdistinct.not_sent hn he (hew.trans hw)
      sent := by
        intro e he n hn
        refine iff_of_true ((hsettled n).2 ?_) List.not_mem_nil
        by_cases hs : r.Settled n
        · exact Or.inl hs
        · rw [h.sent e he n hn, not_not] at hs
          obtain ⟨p, hp, hid⟩ := List.mem_map.1 hs
          obtain ⟨f, hf, hfid, -, hfw⟩ := h.known p hp
          obtain rfl := hdistinct.eq_of_id hf he (hfid.trans hid)
          exact Or.inr (List.mem_filterMap.2 ⟨p, hp, by rw [← hfw, hn]; rfl⟩)
      called := by
        intro n hn
        rcases (hsettled n).1 hn with hn | hm
        · exact h.called n hn
        · obtain ⟨p, hp, hw⟩ := hcall hm
          obtain ⟨e, he, -, -, hew⟩ := h.known p hp
          exact hdistinct.lt_calls he (hew.trans hw) }

end Paired

/-- The requests that have been sent stay as they are, and new ones are not settled yet. -/
structure Quiet (r r' : Requests) : Prop where
  paired : r'.Paired
  settled : r.settled <+: r'.settled
  sent : r.sent ⊆ r'.sent
  kept : ∀ e ∈ r.sent, ∀ n, e.waiter = .call n → r'.Settled n → r.Settled n
  new : ∀ e ∈ r'.sent, e ∈ r.sent ∨ ∀ n, e.waiter = .call n → ¬ r'.Settled n

theorem Paired.quiet (h : r.Paired) : r.Quiet r where
  paired := h
  settled := List.prefix_rfl
  sent := List.Subset.refl _
  kept _ _ _ _ hs := hs
  new _ he := Or.inl he

theorem Paired.quiet_wait (h : r.Paired) {unsent : List ℕ} {calls : ℕ}
    (hwait : { r with unsent, calls }.Paired) : r.Quiet { r with unsent, calls } :=
  { h.quiet with paired := hwait }

/-- A timer of another kind is made. -/
theorem Paired.quiet_timer (h : r.Paired) :
    r.Quiet { r with timersMade := r.timersMade + 1 } :=
  { h.quiet with
    paired := { h with made := fun p hp => (h.made p hp).trans (Nat.lt_succ_self _) } }

theorem Paired.quiet_send (h : r.Paired) {e : SentRequest} {unsent : List ℕ}
    (hunsent : unsent ⊆ r.unsent) (hnew : ∀ d ∈ r.sent, d.id ≠ e.id)
    (hcall : ∀ n, e.waiter = .call n → ¬ r.Settled n) :
    r.Quiet ({ r with unsent }.send e) where
  paired := (h.resume hunsent).send hnew hcall
  settled := List.prefix_rfl
  sent := List.subset_append_left _ _
  kept _ _ _ _ hs := hs
  new d hd := by
    rcases List.mem_append.1 hd with hd | hd
    · exact Or.inl hd
    · rw [List.mem_singleton.1 hd]
      exact Or.inr hcall

theorem Paired.quiet_settle (h : r.Paired) {n : ℕ} {result : Except JsError JsValue}
    {unsent : List ℕ} (hunsent : unsent ⊆ r.unsent) (hn : n ∈ r.unsent) (hnot : n ∉ unsent)
    (hdistinct : r.Distinct) : r.Quiet ({ r with unsent }.settle [(n, result)]) where
  paired := (h.resume hunsent).settle (h.unsent n hn)
    (hdistinct.called n (List.mem_append_left _ hn)) hnot fun _ he => hdistinct.not_sent hn he
  settled := List.prefix_append _ _
  sent := List.Subset.refl _
  kept e he m hm hs := by
    rcases settled_settle.1 hs with hs | rfl
    · exact hs
    · exact absurd hm (hdistinct.not_sent hn he)
  new _ he := Or.inl he

end Requests

namespace OpenClawGatewaySource

def requests (s : OpenClawGatewaySource) : Requests where
  pending := s.pending
  requestTimers := s.requestTimers
  timersMade := s.timersMade
  unsent := s.waiting.filterMap (·.2.number?)
  calls := s.calls.length
  settled := s.settled
  sent := s.sent

variable {uuids : RandomUuids} {l₀ : Ledger} {s : OpenClawGatewaySource}

theorem distinct_requests (h : s.ledger.Accounted uuids l₀) : s.requests.Distinct where
  ids := h.ids
  numbers := h.numbers
  called := h.called

/-! ## What the operations do to the requests -/

theorem requests_resolve (waiter : Waiter) (value : JsValue) (s : OpenClawGatewaySource) :
    (s.resolve waiter value).requests = s.requests.settle (waiter.settlement (.ok value)) := by
  cases waiter with
  | call n => rfl
  | connect k => simp [resolve, Requests.settle, Waiter.settlement, Waiter.call?]
  | subscribeSessions => simp [resolve, Requests.settle, Waiter.settlement, Waiter.call?]

theorem requests_reject (waiter : Waiter) (error : JsError) (s : OpenClawGatewaySource) :
    (s.reject waiter error).requests = s.requests.settle (waiter.settlement (.error error)) := by
  have hnothing : s.requests = s.requests.settle [] := by simp [Requests.settle]
  cases waiter with
  | call n => rfl
  | connect k => exact hnothing
  | subscribeSessions => exact hnothing

/-- A request under an id that no entry has. -/
theorem requests_sendFrame {socket : ℕ} {id method : String} {payload : JsValue} {waiter : Waiter}
    (hnew : ∀ p ∈ s.pending, p.id ≠ id) :
    (s.sendFrame socket id method payload waiter).requests =
      s.requests.send ⟨socket, id, method, payload.wire, waiter⟩ := by
  have hany : s.pending.any (·.id = id) = false := by
    simpa using hnew
  simp [sendFrame, setPending, hany, requests, Requests.send,
    OpenClawPendingRequest.requestTimer]

/-- A request under a new id, for a call that has not been settled or for nobody. -/
theorem quiet_sendRequest (h : s.requests.Paired) (ha : s.ledger.Accounted uuids l₀)
    {unsent : List ℕ} (hunsent : unsent ⊆ s.requests.unsent) {method : String} {payload : JsValue}
    {waiter : Waiter} {t u : OpenClawGatewaySource}
    (hu : u.requests = { s.requests with unsent }) (hdrawn : u.uuidsDrawn = s.uuidsDrawn)
    (hcall : ∀ n, waiter = .call n → ¬ s.requests.Settled n)
    (hsent : u.sendRequest uuids method payload none waiter = .ok t) :
    s.requests.Quiet t.requests := by
  obtain ⟨socket, id, uuidsDrawn, -, -, rfl, ⟨hid, -⟩ | ⟨-, rfl, rfl⟩⟩ := sendRequest_eq_ok hsent
  · cases hid
  · have hnew : ∀ e ∈ s.sent, e.id ≠ method ++ ":" ++ uuids.draw u.uuidsDrawn := by
      rw [hdrawn]
      exact ha.fresh method
    have hpending : u.pending = s.pending := congrArg Requests.pending hu
    rw [requests_sendFrame]
    · change s.requests.Quiet (u.requests.send _)
      rw [hu]
      exact h.quiet_send hunsent hnew hcall
    · intro p hp
      have hp : p ∈ s.pending := hpending ▸ hp
      obtain ⟨e, he, hid, -⟩ := ha.pending p hp
      rw [← hid]
      exact hnew e he

variable (options : OpenClawGatewaySourceOptions)

theorem quiet_sendConnectRequest (h : s.requests.Paired) (ha : s.ledger.Accounted uuids l₀)
    (k : ℕ) : s.requests.Quiet (s.sendConnectRequest uuids options k).requests := by
  unfold sendConnectRequest
  split_ifs
  · exact h.quiet
  · dsimp only
    split
    · next t hsent =>
      obtain ⟨socket, id, uuidsDrawn, -, -, rfl, ⟨hid, rfl⟩ | ⟨hid, -⟩⟩ :=
        sendRequest_eq_ok hsent
      · obtain rfl := Option.some.inj hid
        have hsplit : "connect:" = "connect" ++ ":" := by decide
        have hnew : ∀ e ∈ s.sent, e.id ≠ "connect:" ++ uuids.draw s.uuidsDrawn := by
          rw [hsplit]
          exact ha.fresh "connect"
        rw [requests_sendFrame]
        · exact h.quiet_send (List.Subset.refl _) hnew nofun
        · intro p hp
          obtain ⟨e, he, hid, -⟩ := ha.pending p hp
          rw [← hid]
          exact hnew e he
      · cases hid
    · exact h.quiet

theorem quiet_subscribeSessions (h : s.requests.Paired) (ha : s.ledger.Accounted uuids l₀) :
    s.requests.Quiet (s.subscribeSessions uuids).requests := by
  unfold subscribeSessions
  split
  · next t hsent =>
    refine quiet_sendRequest h ha (List.Subset.refl _) rfl rfl (fun n hn => ?_) hsent
    cases hn
  · exact h.quiet

theorem requests_ensureConnected (call : SourceCall) (s : OpenClawGatewaySource) :
    (s.ensureConnected call).requests =
      { s.requests with unsent := s.requests.unsent ++ call.number?.toList } := by
  have hwait (a : Awaited) : (s.waiting ++ [(a, call)]).filterMap (·.2.number?) =
      s.requests.unsent ++ call.number?.toList := by
    rw [List.filterMap_append]
    refine congrArg (s.requests.unsent ++ ·) ?_
    cases hn : call.number? <;> simp [hn]
  unfold ensureConnected
  split_ifs
  · simp only [requests, hwait]
  · cases s.connectPromise <;> simp only [requests, startConnecting, hwait]

/-- A call from outside waits for a connection. -/
theorem quiet_call (h : s.requests.Paired) {call : SourceCall}
    (hcall : call.number? = some s.calls.length) (entry : Option (String × JsValue)) :
    s.requests.Quiet
      (ensureConnected call { s with calls := s.calls ++ [entry] }).requests := by
  rw [requests_ensureConnected, hcall]
  have hcalls := @Requests.Paired.quiet_wait _ h (s.requests.unsent ++ [s.calls.length])
    (s.calls ++ [entry]).length
  refine hcalls (h.wait (fun hs => ?_) ?_)
  · exact (h.called _ hs).false
  · simp [requests]

theorem quiet_subscription (h : s.requests.Paired) {t : OpenClawGatewaySource}
    (ht : t.requests = s.requests) :
    s.requests.Quiet (t.ensureConnected .subscription).requests := by
  have hsame : (t.ensureConnected .subscription).requests = s.requests := by
    rw [requests_ensureConnected, ht]
    simp [SourceCall.number?]
  rw [hsame]
  exact h.quiet

/-- A call that waited is sent, or settled without being sent. -/
theorem quiet_resume (h : s.requests.Paired) (ha : s.ledger.Accounted uuids l₀) {i : ℕ}
    {awaited : Awaited} {call : SourceCall} (hi : s.waiting[i]? = some (awaited, call))
    (result : Except JsError JsValue) :
    s.requests.Quiet
      ({ s with waiting := s.waiting.eraseIdx i }.proceed uuids result call).requests := by
  have hdistinct := distinct_requests ha
  have hsub : (s.waiting.eraseIdx i).filterMap (fun w => w.2.number?) ⊆ s.requests.unsent :=
    ((List.eraseIdx_sublist _ _).filterMap _).subset
  obtain ⟨-, hnew⟩ := ha.resume hi
  have hmem {n : ℕ} (hn : call.number? = some n) : n ∈ s.requests.unsent :=
    List.mem_filterMap.2 ⟨(awaited, call), List.mem_of_getElem? hi, hn⟩
  have hnot {n : ℕ} (hn : call.number? = some n) :
      n ∉ List.filterMap (fun w : Awaited × SourceCall => w.2.number?) (s.waiting.eraseIdx i) :=
    fun hmem => hnew n hn (List.mem_append_left _ hmem)
  have hsettle {n : ℕ} (hn : call.number? = some n) (result : Except JsError JsValue) :
      s.requests.Quiet (Requests.settle [(n, result)] { s.requests with
        unsent := (s.waiting.eraseIdx i).filterMap (·.2.number?) }) :=
    h.quiet_settle hsub (hmem hn) (hnot hn) hdistinct
  have hdrop : s.requests.Quiet { s.requests with
      unsent := (s.waiting.eraseIdx i).filterMap (·.2.number?) } :=
    h.quiet_wait (h.resume hsub)
  cases call with
  | subscription => cases result <;> exact hdrop
  | getSnapshot n => exact hsettle rfl _
  | request n method payload =>
    cases result with
    | error e => exact hsettle rfl _
    | ok hello =>
      simp only [proceed]
      split
      · next t hsent =>
        refine quiet_sendRequest (u := { s with waiting := s.waiting.eraseIdx i }) h ha hsub rfl rfl
          (fun m hm => ?_) hsent
        obtain rfl := Waiter.call.inj hm
        exact h.unsent n (hmem rfl)
      · exact hsettle rfl _

/-- The result that a response brings to a request, unless no text can be made of its error. -/
def responseResult? (method : String) (response : JsValue) : Option (Except JsError JsValue) :=
  if (response.field "ok").truthy then some (.ok (response.field "payload"))
  else (responseError method response).toOption.map fun message => .error (.error message)

/-- A request is finished, and then perhaps another one is sent. -/
theorem quiet_acceptResponse (h : s.requests.Paired) (ha : s.ledger.Accounted uuids l₀) (k : ℕ)
    {p : OpenClawPendingRequest} (hp : p ∈ s.pending) (payload : JsValue) :
    (s.requests.finish p (.ok payload)).Quiet
      ((s.takePending p).acceptResponse uuids options k p payload).requests := by
  have hfinished := h.finish (distinct_requests ha) hp (.ok payload)
  have htaken : ((s.takePending p).resolve p.waiter payload).requests =
      s.requests.finish p (.ok payload) := requests_resolve _ _ _
  unfold acceptResponse
  by_cases hconnect : s.connectRequestId = some p.id
  · obtain ⟨e, he, hid, hwaiter⟩ := ha.pending p hp
    obtain ⟨attempt, hattempt⟩ := ha.connect e he (by rw [hid]; exact hconnect)
    have hw : p.waiter = .connect attempt := hwaiter.symm.trans hattempt
    rw [if_pos (show (s.takePending p).connectRequestId = some p.id from hconnect)]
    rw [hw] at htaken ⊢
    dsimp only
    generalize ht : OpenClawGatewaySource.settleAttempt _ _ _ = t
    have hrequests : t.requests = s.requests.finish p (.ok payload) := by
      rw [← ht, ← htaken]
      rfl
    have hledger : t.ledger.Accounted uuids l₀ := by
      rw [← ht]
      exact accounted_takePending p ha
    rw [← hrequests] at hfinished ⊢
    split_ifs
    · exact hfinished.quiet
    · exact quiet_subscribeSessions hfinished hledger
  · rw [if_neg (show ¬ (s.takePending p).connectRequestId = some p.id from hconnect), htaken]
    exact hfinished.quiet

theorem requests_rejectResponse (ha : s.ledger.Accounted uuids l₀) (k : ℕ)
    {p : OpenClawPendingRequest} (hp : p ∈ s.pending) (error : JsError) :
    ((s.takePending p).rejectResponse k p error).requests =
      s.requests.finish p (.error error) := by
  have htaken : ((s.takePending p).reject p.waiter error).requests =
      s.requests.finish p (.error error) := requests_reject _ _ _
  unfold rejectResponse
  split_ifs with hconnect
  · obtain ⟨e, he, hid, hwaiter⟩ := ha.pending p hp
    obtain ⟨attempt, hattempt⟩ := ha.connect e he (by rw [hid]; exact hconnect)
    have hw : p.waiter = .connect attempt := hwaiter.symm.trans hattempt
    rw [hw] at htaken
    exact htaken
  · exact htaken

/-- A response to a request with an entry finishes it, and any other response changes nothing. -/
theorem requests_handleResponse (h : s.requests.Paired) (ha : s.ledger.Accounted uuids l₀) (k : ℕ)
    {response : JsValue} (hprintable : (response.field "ok").truthy ∨
      ((response.field "error").field "message").unprintable = false) :
    (∀ p ∈ s.pending, response.field "id" ≠ .str p.id) ∧
        (handleResponse uuids options k response).stateAfter s = s ∨
      ∃ p ∈ s.pending, response.field "id" = .str p.id ∧ ∃ result,
        responseResult? p.method response = some result ∧ (s.requests.finish p result).Quiet
          ((handleResponse uuids options k response).stateAfter s).requests := by
  unfold JsM.stateAfter EStateM.run handleResponse
  cases hfind : s.pending.find? (fun p => response.field "id" = .str p.id) with
  | none => exact .inl ⟨by simpa using hfind, rfl⟩
  | some p =>
    have hid : response.field "id" = .str p.id := by simpa using List.find?_some hfind
    have hp := List.mem_of_find?_eq_some hfind
    refine .inr ⟨p, hp, hid, ?_⟩
    dsimp only
    by_cases hok : (response.field "ok").truthy
    · rw [if_pos hok, responseResult?, if_pos hok]
      exact ⟨_, rfl, quiet_acceptResponse options h ha k hp _⟩
    · rw [if_neg hok, responseResult?, if_neg hok]
      have hmessage := JsValue.toStr_isOk (((response.field "error").field "message").orElse
        (.str ("openclaw request failed: " ++ p.method)))
      rw [unprintable_orElse rfl, hprintable.resolve_left hok] at hmessage
      cases herror : responseError p.method response with
      | error e =>
        rw [responseError] at herror
        rw [herror] at hmessage
        cases hmessage
      | ok message =>
        refine ⟨_, rfl, ?_⟩
        dsimp only
        rw [requests_rejectResponse ha k hp]
        exact (h.finish (distinct_requests ha) hp _).quiet

/-- The timer of an entry runs out. -/
theorem requests_timeout (h : s.requests.Paired) {timer : RequestTimer}
    (htimer : timer ∈ s.requestTimers) :
    ∃ p ∈ s.pending, timer = p.requestTimer ∧ (s.timeout timer).requests =
      s.requests.finish p (.error (.error ("openclaw request timed out: " ++ p.method))) := by
  have hmap : timer ∈ s.pending.map (·.requestTimer) := by
    rw [← show s.requestTimers = s.pending.map (·.requestTimer) from h.timers]
    exact htimer
  obtain ⟨p, hp, rfl⟩ := List.mem_map.1 hmap
  refine ⟨p, hp, rfl, ?_⟩
  have hany : s.pending.any (fun q => q.id = p.requestTimer.id) = true :=
    List.any_eq_true.2 ⟨p, hp, by simp [OpenClawPendingRequest.requestTimer]⟩
  unfold timeout
  dsimp only
  rw [if_pos hany, requests_reject]
  rfl

theorem requests_rejectPending (h : s.requests.Paired) :
    s.rejectPending.requests =
      s.requests.finishAll (.error (.error "openclaw gateway source closed")) := by
  have hreject (p : OpenClawPendingRequest) (t : OpenClawGatewaySource) :
      ({ t with requestTimers := t.requestTimers.filter (·.number ≠ p.timer) }.reject p.waiter
        (.error "openclaw gateway source closed")).requests =
      { t.requests with
        requestTimers := t.requests.requestTimers.filter (·.number ≠ p.timer)
        settled := t.requests.settled ++
          p.waiter.settlement (.error (.error "openclaw gateway source closed")) } :=
    requests_reject _ _ _
  have hfold (pending : List OpenClawPendingRequest) (t : OpenClawGatewaySource) :
      (pending.foldl
        (fun s p =>
          { s with requestTimers := s.requestTimers.filter (·.number ≠ p.timer) }.reject p.waiter
            (.error "openclaw gateway source closed")) t).requests =
        { t.requests with
          requestTimers := t.requests.requestTimers.filter fun timer =>
            timer.number ∉ pending.map (·.timer)
          settled := t.requests.settled ++ pending.flatMap
            (·.waiter.settlement (.error (.error "openclaw gateway source closed"))) } := by
    induction pending generalizing t with
    | nil => simp
    | cons p pending ih =>
      rw [List.foldl_cons, ih, hreject]
      simp only [List.filter_filter, List.map_cons, List.mem_cons, not_or, Bool.decide_and,
        List.flatMap_cons, List.append_assoc, ne_eq, Bool.and_comm]
  unfold rejectPending
  rw [hfold]
  simp only [requests, Requests.finishAll]
  have htimers : s.requestTimers.filter
      (fun timer => decide (timer.number ∉ s.pending.map (·.timer))) = [] := by
    refine List.filter_eq_nil_iff.2 fun timer htimer => ?_
    have hmap : timer ∈ s.pending.map (·.requestTimer) := by
      rw [← show s.requestTimers = s.pending.map (·.requestTimer) from h.timers]
      exact htimer
    obtain ⟨p, hp, rfl⟩ := List.mem_map.1 hmap
    simpa using ⟨p, hp, rfl⟩
  rw [htimers]

theorem requests_close (h : s.requests.Paired) :
    s.close.requests =
      s.requests.finishAll (.error (.error "openclaw gateway source closed")) := by
  have hrejected := @requests_rejectPending { s with
    stopped := true
    reconnectTimers := s.reconnectTimers.filter (some · ≠ s.reconnectTimer)
    reconnectTimer := none } h
  unfold close
  dsimp only
  split
  · exact hrejected
  · exact hrejected

end OpenClawGatewaySource

end Vertx
