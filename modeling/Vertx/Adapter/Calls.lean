import Vertx.Adapter.Links
import Vertx.Lib.Runs

/-!
# The calls of the source

Every call that the source forwards is sent at most once, under an id of its own, with the method
and payload of the call.  A call is answered with the payload of an ok response to the id it was
sent under, and a response settles no other call.
-/

namespace Vertx

open Runs

/-- The parts of a source that keep account of its calls. -/
structure Ledger where
  pending : List OpenClawPendingRequest
  requestTimers : List RequestTimer
  uuidsDrawn : ℕ
  connectRequestId : Option String
  waiting : List (Awaited × SourceCall)
  calls : List (Option (String × JsValue))
  settled : List (ℕ × Except JsError JsValue)
  sent : List SentRequest
  arrived : List (ℕ × Option JsValue)

/-- The number of the call that goes on when a connection is there. -/
def SourceCall.number? : SourceCall → Option ℕ
  | subscription => none
  | request n _ _ | getSnapshot n => some n

/-- The number of the call that waits for an answer. -/
def Waiter.call? : Waiter → Option ℕ
  | call n => some n
  | connect _ | subscribeSessions => none

/-- Upstream's response to the request with an id. -/
structure IsResponseTo (id : String) (message : JsValue) : Prop where
  isObject : message.isObject = true
  type : message.field "type" = .str "res"
  id : message.field "id" = .str id

namespace Ledger

/-- The calls that have not been sent, and those that have. -/
def numbers (l : Ledger) : List ℕ :=
  l.waiting.filterMap (·.2.number?) ++ l.sent.filterMap (·.waiter.call?)

/-- Upstream has answered the call with an ok response to the request sent for it. -/
def Resolved (l : Ledger) (n : ℕ) (value : JsValue) : Prop :=
  ∃ request ∈ l.sent, request.waiter = .call n ∧
    ∃ k response, (k, some response) ∈ l.arrived ∧ IsResponseTo request.id response ∧
      (response.field "ok").truthy ∧ response.field "payload" = value

/-- What holds of the account in every reachable state; since it was `l₀`, no call and no settlement
has been taken back. -/
structure Accounted (uuids : RandomUuids) (l l₀ : Ledger) : Prop where
  drawn : ∀ e ∈ l.sent, ∃ j < l.uuidsDrawn, e.id = e.method ++ ":" ++ uuids.draw j
  ids : (l.sent.map (·.id)).Nodup
  pending : ∀ p ∈ l.pending, ∃ e ∈ l.sent, e.id = p.id ∧ e.waiter = p.waiter
  timers : ∀ t ∈ l.requestTimers, ∃ e ∈ l.sent, e.id = t.id ∧ e.waiter = t.waiter
  connectDrawn : ∀ id ∈ l.connectRequestId, ∃ j < l.uuidsDrawn, id = "connect:" ++ uuids.draw j
  connect : ∀ e ∈ l.sent, l.connectRequestId = some e.id → ∃ k, e.waiter = .connect k
  numbers : l.numbers.Nodup
  called : ∀ n ∈ l.numbers, n < l.calls.length
  waiting : ∀ w ∈ l.waiting, ∀ n method payload, w.2 = .request n method payload →
    l.calls[n]? = some (some (method, payload))
  snapshots : ∀ w ∈ l.waiting, ∀ n, w.2 = .getSnapshot n → l.calls[n]? = some none
  sent : ∀ e ∈ l.sent, ∀ n, e.waiter = .call n →
    ∃ payload, l.calls[n]? = some (some (e.method, payload)) ∧ e.params = payload.wire
  settled : ∀ n value, (n, .ok value) ∈ l.settled →
    l.calls[n]? = some none ∨ l.Resolved n value
  keptCalls : l₀.calls <+: l.calls
  keptSettled : l₀.settled <+: l.settled

variable {uuids : RandomUuids} {l l₀ : Ledger}

/-- The UUID at the end of an id. -/
theorem draw_inj {method method' : String} {i j : ℕ}
    (h : method ++ ":" ++ uuids.draw i = method' ++ ":" ++ uuids.draw j) : i = j := by
  apply uuids.injective
  apply String.toList_inj.1
  refine Keyed.eq_of_append_cons_eq (uuids.noColon i) (uuids.noColon j)
    (l := method.toList) (m := method'.toList) ?_
  have hlist := congrArg String.toList h
  simpa using hlist

/-- An id with the next UUID has not been used. -/
theorem Accounted.fresh (h : l.Accounted uuids l₀) (method : String) :
    ∀ e ∈ l.sent, e.id ≠ method ++ ":" ++ uuids.draw l.uuidsDrawn := by
  intro e he heq
  obtain ⟨j, hj, hid⟩ := h.drawn e he
  have hdrawn := draw_inj (hid.symm.trans heq)
  omega

theorem Accounted.eq_of_id (h : l.Accounted uuids l₀) {d e : SentRequest} (hd : d ∈ l.sent)
    (he : e ∈ l.sent) (hid : d.id = e.id) : d = e :=
  List.inj_on_of_nodup_map h.ids hd he hid

/-- A call is sent once. -/
theorem Accounted.eq_of_call (h : l.Accounted uuids l₀) {d e : SentRequest} {n : ℕ}
    (hd : d ∈ l.sent) (he : e ∈ l.sent) (hdn : d.waiter = .call n) (hen : e.waiter = .call n) :
    d = e := by
  have hsent := (List.nodup_append.1 h.numbers).2.1
  exact Keyed.eq_of_nodup_filterMap (f := fun e : SentRequest => e.waiter.call?) hsent hd he
    (by rw [hdn]; rfl) (by rw [hen]; rfl)

/-- An account is one since itself. -/
theorem Accounted.rebase (h : l.Accounted uuids l₀) : l.Accounted uuids l :=
  { h with
    keptCalls := List.prefix_rfl
    keptSettled := List.prefix_rfl }

theorem Resolved.mono {l' : Ledger} {n : ℕ} {value : JsValue} (h : l.Resolved n value)
    (hsent : l.sent ⊆ l'.sent) (harrived : l.arrived ⊆ l'.arrived) : l'.Resolved n value := by
  obtain ⟨request, hrequest, hwaiter, k, response, hresponse, h⟩ := h
  exact ⟨request, hsent hrequest, hwaiter, k, response, harrived hresponse, h⟩

/-! ## What the parts of a step do to the account -/

theorem numbers_wait (a : Awaited) (call : SourceCall) :
    { l with waiting := l.waiting ++ [(a, call)] }.numbers.Perm
      (call.number?.toList ++ l.numbers) := by
  simp only [numbers, List.filterMap_append, List.append_assoc]
  refine List.perm_append_comm_assoc _ _ _ |>.trans ?_
  cases hn : call.number? <;> simp [hn]

theorem numbers_resume {i : ℕ} {a : Awaited} {call : SourceCall}
    (hi : l.waiting[i]? = some (a, call)) :
    l.numbers.Perm
      (call.number?.toList ++ { l with waiting := l.waiting.eraseIdx i }.numbers) := by
  obtain ⟨hlt, hget⟩ := List.getElem?_eq_some_iff.1 hi
  have hwaiting := (List.getElem_cons_eraseIdx_perm hlt).symm.filterMap (·.2.number?)
  rw [hget] at hwaiting
  refine (hwaiting.append_right _).trans ?_
  cases hn : call.number? <;> simp [numbers, hn]

theorem numbers_send (e : SentRequest) :
    { l with sent := l.sent ++ [e] }.numbers.Perm (e.waiter.call?.toList ++ l.numbers) := by
  simp only [numbers, List.filterMap_append, ← List.append_assoc]
  refine List.perm_append_comm.trans ?_
  cases hn : e.waiter.call? <;> simp [hn]

namespace Accounted

variable (h : l.Accounted uuids l₀)

include h

/-- Entries that are taken away. -/
theorem drop {pending : List OpenClawPendingRequest} {requestTimers : List RequestTimer}
    (hpending : pending ⊆ l.pending) (htimers : requestTimers ⊆ l.requestTimers) :
    { l with pending, requestTimers }.Accounted uuids l₀ :=
  { h with
    pending := fun p hp => h.pending p (hpending hp)
    timers := fun t ht => h.timers t (htimers ht) }

theorem arrive (message : ℕ × Option JsValue) :
    { l with arrived := l.arrived ++ [message] }.Accounted uuids l₀ :=
  { h with
    settled := fun n value hn => (h.settled n value hn).imp_right fun hresolved =>
      hresolved.mono (List.Subset.refl _) (List.subset_append_left _ _) }

theorem settle {n : ℕ} {result : Except JsError JsValue}
    (hresult : ∀ value, result = .ok value → l.calls[n]? = some none ∨ l.Resolved n value) :
    { l with settled := l.settled ++ [(n, result)] }.Accounted uuids l₀ :=
  { h with
    settled := by
      intro m value hm
      rcases List.mem_append.1 hm with hm | hm
      · exact h.settled m value hm
      · obtain ⟨rfl, hvalue⟩ := Prod.mk.inj (List.mem_singleton.1 hm)
        exact hresult value hvalue.symm
    keptSettled := h.keptSettled.trans (List.prefix_append _ _) }

/-- A new connection has no connect request yet. -/
theorem disconnect : { l with connectRequestId := none }.Accounted uuids l₀ :=
  { h with
    connectDrawn := nofun
    connect := nofun }

/-- A connect request takes the next UUID. -/
theorem drawConnect :
    { l with
      uuidsDrawn := l.uuidsDrawn + 1
      connectRequestId := some ("connect:" ++ uuids.draw l.uuidsDrawn) }.Accounted uuids l₀ :=
  { h with
    drawn := fun e he => by
      obtain ⟨j, hj, hid⟩ := h.drawn e he
      exact ⟨j, hj.trans (Nat.lt_succ_self _), hid⟩
    connectDrawn := fun id hid =>
      ⟨l.uuidsDrawn, Nat.lt_succ_self _, (Option.some.inj hid).symm⟩
    connect := fun e he hid =>
      absurd (Option.some.inj hid).symm (h.fresh "connect" e he) }

/-- A request takes the next UUID. -/
theorem draw : { l with uuidsDrawn := l.uuidsDrawn + 1 }.Accounted uuids l₀ :=
  { h with
    drawn := fun e he => by
      obtain ⟨j, hj, hid⟩ := h.drawn e he
      exact ⟨j, hj.trans (Nat.lt_succ_self _), hid⟩
    connectDrawn := fun id hid => by
      obtain ⟨j, hj, hid⟩ := h.connectDrawn id hid
      exact ⟨j, hj.trans (Nat.lt_succ_self _), hid⟩ }

theorem waitSubscription (a : Awaited) :
    { l with waiting := l.waiting ++ [(a, SourceCall.subscription)] }.Accounted uuids l₀ :=
  have hnumbers := numbers_wait (l := l) a SourceCall.subscription
  { h with
    numbers := hnumbers.nodup_iff.2 h.numbers
    called := fun n hn => h.called n (hnumbers.mem_iff.1 hn)
    waiting := by
      intro w hw n method payload hcall
      rcases List.mem_append.1 hw with hw | hw
      · exact h.waiting w hw n method payload hcall
      · rw [List.mem_singleton.1 hw] at hcall
        cases hcall
    snapshots := by
      intro w hw n hcall
      rcases List.mem_append.1 hw with hw | hw
      · exact h.snapshots w hw n hcall
      · rw [List.mem_singleton.1 hw] at hcall
        cases hcall }

/-- A new call waits for a connection. -/
theorem waitCall (a : Awaited) {call : SourceCall} {entry : Option (String × JsValue)}
    (hcall : call = .getSnapshot l.calls.length ∧ entry = none ∨
      ∃ method payload, call = .request l.calls.length method payload ∧
        entry = some (method, payload)) :
    { l with calls := l.calls ++ [entry], waiting := l.waiting ++ [(a, call)] }.Accounted
      uuids l₀ := by
  have hold {n : ℕ} {x : Option (String × JsValue)} (hn : l.calls[n]? = some x) :
      (l.calls ++ [entry])[n]? = some x := by
    rw [List.getElem?_append_left (List.getElem?_eq_some_iff.1 hn).1]
    exact hn
  have hnew : (l.calls ++ [entry])[l.calls.length]? = some entry := by simp
  have hnumber : call.number? = some l.calls.length := by
    rcases hcall with ⟨rfl, -⟩ | ⟨method, payload, rfl, -⟩ <;> rfl
  have hnumbers := numbers_wait (l := { l with calls := l.calls ++ [entry] }) a call
  rw [hnumber] at hnumbers
  exact { h with
    numbers := by
      refine hnumbers.nodup_iff.2 (List.nodup_cons.2 ⟨fun hn => ?_, h.numbers⟩)
      exact (h.called _ hn).false
    called := by
      intro n hn
      rw [List.length_append, List.length_singleton]
      rcases List.mem_cons.1 (hnumbers.mem_iff.1 hn) with rfl | hn
      · omega
      · have hlt := h.called n hn
        omega
    waiting := by
      intro w hw n method payload hw'
      rcases List.mem_append.1 hw with hw | hw
      · exact hold (h.waiting w hw n method payload hw')
      · rw [List.mem_singleton.1 hw] at hw'
        rcases hcall with ⟨rfl, -⟩ | ⟨method', payload', rfl, rfl⟩
        · cases hw'
        · obtain ⟨rfl, rfl, rfl⟩ := SourceCall.request.inj hw'
          exact hnew
    snapshots := by
      intro w hw n hw'
      rcases List.mem_append.1 hw with hw | hw
      · exact hold (h.snapshots w hw n hw')
      · rw [List.mem_singleton.1 hw] at hw'
        rcases hcall with ⟨rfl, rfl⟩ | ⟨method, payload, rfl, -⟩
        · obtain rfl := SourceCall.getSnapshot.inj hw'
          exact hnew
        · cases hw'
    sent := by
      intro e he n hn
      obtain ⟨payload, hcalls, hparams⟩ := h.sent e he n hn
      exact ⟨payload, hold hcalls, hparams⟩
    settled := fun n value hn => (h.settled n value hn).imp_left hold
    keptCalls := h.keptCalls.trans (List.prefix_append _ _) }

/-- A call that waited is not one of those that wait or have been sent any more. -/
theorem resume {i : ℕ} {a : Awaited} {call : SourceCall} (hi : l.waiting[i]? = some (a, call)) :
    { l with waiting := l.waiting.eraseIdx i }.Accounted uuids l₀ ∧
      ∀ n, call.number? = some n → n ∉ { l with waiting := l.waiting.eraseIdx i }.numbers := by
  have hnumbers := numbers_resume hi
  have hnodup := List.nodup_append.1 (hnumbers.nodup_iff.1 h.numbers)
  have hmem {w : Awaited × SourceCall} (hw : w ∈ l.waiting.eraseIdx i) : w ∈ l.waiting :=
    List.mem_of_mem_eraseIdx hw
  refine ⟨{ h with
    numbers := hnodup.2.1
    called := fun n hn => h.called n (hnumbers.mem_iff.2 (List.mem_append_right _ hn))
    waiting := fun w hw => h.waiting w (hmem hw)
    snapshots := fun w hw => h.snapshots w (hmem hw) }, fun n hn hmem => ?_⟩
  rw [hn] at hnodup
  exact hnodup.2.2 n (List.mem_singleton_self n) n hmem rfl

/-- A request is sent under an id that has not been used. -/
theorem send (request : SentRequest) (timer : RequestTimer) {pending : List OpenClawPendingRequest}
    (hpending : ∀ p ∈ pending, p ∈ l.pending ∨ request.id = p.id ∧ request.waiter = p.waiter)
    (htimer : request.id = timer.id ∧ request.waiter = timer.waiter)
    (hdrawn : ∃ j < l.uuidsDrawn, request.id = request.method ++ ":" ++ uuids.draw j)
    (hfresh : ∀ e ∈ l.sent, e.id ≠ request.id)
    (hconnect : l.connectRequestId = some request.id → ∃ k, request.waiter = .connect k)
    (hcall : ∀ n, request.waiter = .call n → n ∉ l.numbers ∧
      ∃ payload, l.calls[n]? = some (some (request.method, payload)) ∧
        request.params = payload.wire) :
    { l with
      pending
      requestTimers := l.requestTimers ++ [timer]
      sent := l.sent ++ [request] }.Accounted uuids l₀ := by
  have hnumbers := numbers_send (l := l) request
  have hold {e : SentRequest} (he : e ∈ l.sent) : e ∈ l.sent ++ [request] :=
    List.mem_append_left _ he
  have hnew : request ∈ l.sent ++ [request] :=
    List.mem_append_right _ (List.mem_singleton_self _)
  have hcalled (n : ℕ) (hn : n ∈ request.waiter.call?.toList) : request.waiter = .call n := by
    cases hwaiter : request.waiter with
    | call m =>
      rw [hwaiter] at hn
      rw [List.mem_singleton.1 hn]
    | _ =>
      rw [hwaiter] at hn
      cases hn
  exact { h with
    drawn := by
      intro e he
      rcases List.mem_append.1 he with he | he
      · exact h.drawn e he
      · rw [List.mem_singleton.1 he]
        exact hdrawn
    ids := by
      rw [List.map_append, List.nodup_append]
      refine ⟨h.ids, List.nodup_singleton _, ?_⟩
      intro x hx y hy
      obtain ⟨e, he, rfl⟩ := List.mem_map.1 hx
      rw [List.mem_singleton.1 hy]
      exact hfresh e he
    pending := by
      intro p hp
      rcases hpending p hp with hp | hp
      · obtain ⟨e, he, hid⟩ := h.pending p hp
        exact ⟨e, hold he, hid⟩
      · exact ⟨request, hnew, hp⟩
    timers := by
      intro t ht
      rcases List.mem_append.1 ht with ht | ht
      · obtain ⟨e, he, hid⟩ := h.timers t ht
        exact ⟨e, hold he, hid⟩
      · rw [List.mem_singleton.1 ht]
        exact ⟨request, hnew, htimer⟩
    connect := by
      intro e he hid
      rcases List.mem_append.1 he with he | he
      · exact h.connect e he hid
      · rw [List.mem_singleton.1 he] at hid ⊢
        exact hconnect hid
    numbers := by
      refine hnumbers.nodup_iff.2 (List.nodup_append.2 ⟨?_, h.numbers, ?_⟩)
      · cases request.waiter.call? <;> simp
      · rintro n hn m hm rfl
        exact (hcall n (hcalled n hn)).1 hm
    called := by
      intro n hn
      rcases List.mem_append.1 (hnumbers.mem_iff.1 hn) with hn | hn
      · obtain ⟨payload, hcalls, -⟩ := (hcall n (hcalled n hn)).2
        exact (List.getElem?_eq_some_iff.1 hcalls).1
      · exact h.called n hn
    sent := by
      intro e he n hn
      rcases List.mem_append.1 he with he | he
      · exact h.sent e he n hn
      · rw [List.mem_singleton.1 he] at hn ⊢
        exact (hcall n hn).2
    settled := fun n value hn => (h.settled n value hn).imp_right fun hresolved =>
      hresolved.mono (List.subset_append_left _ _) (List.Subset.refl _) }

end Accounted

end Ledger

/-! ## The operations -/

namespace OpenClawGatewaySource

def ledger (s : OpenClawGatewaySource) : Ledger where
  pending := s.pending
  requestTimers := s.requestTimers
  uuidsDrawn := s.uuidsDrawn
  connectRequestId := s.connectRequestId
  waiting := s.waiting
  calls := s.calls
  settled := s.settled
  sent := s.sent
  arrived := s.arrived

variable {uuids : RandomUuids} {l₀ : Ledger} {s : OpenClawGatewaySource}

theorem mem_setPending {p q : OpenClawPendingRequest} (h : q ∈ (s.setPending p).pending) :
    q ∈ s.pending ∨ q = p := by
  simp only [setPending] at h
  split_ifs at h
  · rcases Keyed.mem_modifyFirst _ _ h with h | ⟨_, -, -, h⟩
    · exact Or.inl h
    · exact Or.inr h
  · rcases List.mem_append.1 h with h | h
    · exact Or.inl h
    · exact Or.inr (List.mem_singleton.1 h)

theorem accounted_sendFrame {id method : String} {payload : JsValue} {waiter : Waiter}
    {socket : ℕ} (h : s.ledger.Accounted uuids l₀)
    (hdrawn : ∃ j < s.uuidsDrawn, id = method ++ ":" ++ uuids.draw j)
    (hfresh : ∀ e ∈ s.sent, e.id ≠ id)
    (hconnect : s.connectRequestId = some id → ∃ k, waiter = .connect k)
    (hcall : ∀ n, waiter = .call n →
      n ∉ s.ledger.numbers ∧ s.calls[n]? = some (some (method, payload))) :
    (s.sendFrame socket id method payload waiter).ledger.Accounted uuids l₀ := by
  refine h.send ⟨socket, id, method, payload.wire, waiter⟩ ⟨s.timersMade, id, method, waiter⟩
    (fun p hp => ?_) ⟨rfl, rfl⟩ hdrawn hfresh hconnect
    fun n hn => ⟨(hcall n hn).1, payload, (hcall n hn).2, rfl⟩
  rcases mem_setPending hp with hp | rfl
  · exact Or.inl hp
  · exact Or.inr ⟨rfl, rfl⟩

/-- A request under a new id, for a call that has not been sent or for nobody. -/
theorem accounted_sendRequest {method : String} {payload : JsValue} {waiter : Waiter}
    {t : OpenClawGatewaySource} (h : s.ledger.Accounted uuids l₀)
    (hcall : ∀ n, waiter = .call n →
      n ∉ s.ledger.numbers ∧ s.calls[n]? = some (some (method, payload)))
    (hsent : s.sendRequest uuids method payload none waiter = .ok t) :
    t.ledger.Accounted uuids l₀ := by
  obtain ⟨socket, id, uuidsDrawn, -, -, rfl, ⟨hid, -⟩ | ⟨-, rfl, rfl⟩⟩ := sendRequest_eq_ok hsent
  · cases hid
  · refine accounted_sendFrame h.draw ⟨s.uuidsDrawn, Nat.lt_succ_self _, rfl⟩
      (h.fresh method) (fun hid => ?_) hcall
    obtain ⟨j, hj, hconnect⟩ := h.connectDrawn _ hid
    have hsplit : "connect:" = "connect" ++ ":" := by decide
    rw [hsplit] at hconnect
    exact absurd (Ledger.draw_inj hconnect) hj.ne'

variable (options : OpenClawGatewaySourceOptions)

theorem accounted_sendConnectRequest (k : ℕ) (h : s.ledger.Accounted uuids l₀) :
    (s.sendConnectRequest uuids options k).ledger.Accounted uuids l₀ := by
  unfold sendConnectRequest
  split_ifs
  · exact h
  · dsimp only
    split
    · next t hsent =>
      obtain ⟨socket, id, uuidsDrawn, -, -, rfl, ⟨hid, rfl⟩ | ⟨hid, -⟩⟩ :=
        sendRequest_eq_ok hsent
      · obtain rfl := Option.some.inj hid
        refine accounted_sendFrame h.drawConnect ⟨s.uuidsDrawn, Nat.lt_succ_self _, ?_⟩
          (h.fresh "connect") (fun _ => ⟨k, rfl⟩) nofun
        have hsplit : "connect:" = "connect" ++ ":" := by decide
        rw [hsplit]
      · cases hid
    · exact h.drawConnect

theorem accounted_subscribeSessions (h : s.ledger.Accounted uuids l₀) :
    (s.subscribeSessions uuids).ledger.Accounted uuids l₀ := by
  unfold subscribeSessions
  split
  · next t hsent =>
    refine accounted_sendRequest h ?_ hsent
    nofun
  · exact h

theorem accounted_resolve {waiter : Waiter} {value : JsValue} (h : s.ledger.Accounted uuids l₀)
    (hvalue : ∀ n, waiter = .call n → s.ledger.Resolved n value) :
    (s.resolve waiter value).ledger.Accounted uuids l₀ := by
  cases waiter with
  | call n =>
    refine h.settle fun value' hok => ?_
    obtain rfl := Except.ok.inj hok
    exact Or.inr (hvalue n rfl)
  | connect k => exact h
  | subscribeSessions => exact h

theorem accounted_reject (waiter : Waiter) (error : JsError) (h : s.ledger.Accounted uuids l₀) :
    (s.reject waiter error).ledger.Accounted uuids l₀ := by
  cases waiter with
  | call n => exact h.settle nofun
  | connect k => exact h
  | subscribeSessions => exact h

theorem accounted_takePending (p : OpenClawPendingRequest) (h : s.ledger.Accounted uuids l₀) :
    (s.takePending p).ledger.Accounted uuids l₀ :=
  h.drop List.filter_sublist.subset List.filter_sublist.subset

theorem accounted_rejectResponse (k : ℕ) (p : OpenClawPendingRequest) (error : JsError)
    (h : s.ledger.Accounted uuids l₀) : (s.rejectResponse k p error).ledger.Accounted uuids l₀ := by
  unfold rejectResponse
  split_ifs
  · exact h
  · exact accounted_reject p.waiter error h

/-- An ok response to a request that was pending. -/
theorem accounted_acceptResponse (k : ℕ) {p : OpenClawPendingRequest} {response : JsValue}
    (h : s.ledger.Accounted uuids l₀) (hp : ∃ e ∈ s.sent, e.id = p.id ∧ e.waiter = p.waiter)
    (hresponse : IsResponseTo p.id response) (hok : (response.field "ok").truthy)
    (harrived : ∃ i, (i, some response) ∈ s.arrived) :
    (s.acceptResponse uuids options k p (response.field "payload")).ledger.Accounted uuids l₀ := by
  obtain ⟨e, he, hid, hwaiter⟩ := hp
  obtain ⟨i, hi⟩ := harrived
  unfold acceptResponse
  split_ifs with hconnect
  · obtain ⟨attempt, hattempt⟩ := h.connect e he (by rw [hid]; exact hconnect)
    rw [← hwaiter, hattempt]
    exact h
  · obtain ⟨attempt, hattempt⟩ := h.connect e he (by rw [hid]; exact hconnect)
    rw [← hwaiter, hattempt]
    exact accounted_subscribeSessions h
  · refine accounted_resolve h fun n hn => ?_
    rw [← hid] at hresponse
    exact ⟨e, he, hwaiter.trans hn, i, response, hi, hresponse, hok, rfl⟩

theorem accounted_handleResponse (k : ℕ) {response : JsValue} (h : s.ledger.Accounted uuids l₀)
    (hobject : response.isObject = true) (htype : response.field "type" = .str "res")
    (harrived : ∃ i, (i, some response) ∈ s.arrived) :
    ((handleResponse uuids options k response).stateAfter s).ledger.Accounted uuids l₀ := by
  unfold JsM.stateAfter EStateM.run handleResponse
  cases hfind : s.pending.find? (fun p => response.field "id" = .str p.id) with
  | none => exact h
  | some p =>
    have hid : response.field "id" = .str p.id := by simpa using List.find?_some hfind
    have hp := h.pending p (List.mem_of_find?_eq_some hfind)
    have htake := accounted_takePending p h
    dsimp only
    split_ifs with hok
    · exact accounted_acceptResponse options k htake hp ⟨hobject, htype, hid⟩ hok harrived
    · cases responseError p.method response with
      | error e => exact htake
      | ok message => exact accounted_rejectResponse k p _ htake

theorem accounted_handleMessage (k message : ℕ) (clock : Clock)
    (reaction : ℕ → RealtimeSourceEvent → Option JsError) {raw : Option JsValue}
    (h : s.ledger.Accounted uuids l₀) (harrived : ∃ i, (i, raw) ∈ s.arrived) :
    ((handleMessage uuids options k message clock reaction raw).stateAfter s).ledger.Accounted
      uuids l₀ := by
  have heffect := s.handleMessage_cases uuids options k message clock reaction raw
  generalize (handleMessage uuids options k message clock reaction raw).stateAfter s =
    t at heffect ⊢
  cases heffect with
  | dropped | event => exact h
  | challenge => exact accounted_sendConnectRequest options k h
  | response htype =>
    exact accounted_handleResponse options k h (JsValue.isObject_of_field htype) htype harrived

/-! ## Steps and runs -/

theorem ledger_runHandler (x : JsM OpenClawGatewaySource Unit) (s : OpenClawGatewaySource) :
    (runHandler x s).ledger = (x.stateAfter s).ledger := by
  unfold runHandler JsM.stateAfter
  cases x.run s <;> rfl

theorem accounted_receive (k : ℕ) (clock : Clock)
    (reaction : ℕ → RealtimeSourceEvent → Option JsError) (h : s.ledger.Accounted uuids l₀) :
    (s.receive uuids options k clock reaction).ledger.Accounted uuids l₀ := by
  unfold receive
  split
  · exact h
  · next message raw _ =>
    rw [ledger_runHandler]
    refine accounted_handleMessage options k message clock reaction (h.arrive (k, raw)) ⟨k, ?_⟩
    exact List.mem_append_right _ (List.mem_singleton_self _)

/-- A call of `ensureConnected`, however the connection comes about. -/
theorem accounted_ensureConnected {call : SourceCall}
    (h : ∀ a : Awaited, { s.ledger with waiting := s.waiting ++ [(a, call)] }.Accounted uuids l₀) :
    (s.ensureConnected call).ledger.Accounted uuids l₀ := by
  unfold ensureConnected
  split_ifs
  · exact h _
  · cases s.connectPromise with
    | some k => exact h _
    | none => exact (h _).disconnect

theorem accounted_proceed {call : SourceCall} (result : Except JsError JsValue)
    (h : s.ledger.Accounted uuids l₀) (hnew : ∀ n, call.number? = some n → n ∉ s.ledger.numbers)
    (hrequest : ∀ n method payload, call = .request n method payload →
      s.calls[n]? = some (some (method, payload)))
    (hsnapshot : ∀ n, call = .getSnapshot n → s.calls[n]? = some none) :
    (s.proceed uuids result call).ledger.Accounted uuids l₀ := by
  cases call with
  | subscription => cases result <;> exact h
  | getSnapshot n => exact h.settle fun _ _ => Or.inl (hsnapshot n rfl)
  | request n method payload =>
    cases result with
    | error e => exact h.settle nofun
    | ok hello =>
      simp only [proceed]
      split
      · next t hsent =>
        refine accounted_sendRequest h (fun m hm => ?_) hsent
        obtain rfl := Waiter.call.inj hm
        exact ⟨hnew n rfl, hrequest n method payload rfl⟩
      · exact h.settle nofun

theorem accounted_rejectPending (h : s.ledger.Accounted uuids l₀) :
    s.rejectPending.ledger.Accounted uuids l₀ := by
  refine @rejectPending_induction (fun t => t.ledger.Accounted uuids l₀) s
    (h.drop (List.nil_subset _) (List.Subset.refl _)) fun p t ht => ?_
  exact accounted_reject p.waiter _ (ht.drop (List.Subset.refl _) List.filter_sublist.subset)

theorem accounted_close (h : s.ledger.Accounted uuids l₀) : s.close.ledger.Accounted uuids l₀ := by
  have hrejected : { s with
      stopped := true
      reconnectTimers := s.reconnectTimers.filter (some · ≠ s.reconnectTimer)
      reconnectTimer := none }.rejectPending.ledger.Accounted uuids l₀ :=
    accounted_rejectPending h
  unfold close
  dsimp only
  split
  · exact hrejected
  · exact hrejected

theorem accounted_timeout (timer : RequestTimer) (h : s.ledger.Accounted uuids l₀) :
    (s.timeout timer).ledger.Accounted uuids l₀ := by
  unfold timeout
  dsimp only
  split_ifs
  · exact accounted_reject timer.waiter _
      (h.drop List.filter_sublist.subset List.filter_sublist.subset)
  · exact h.drop (List.Subset.refl _) List.filter_sublist.subset

theorem accounted_step (step : SourceStep) (h : s.ledger.Accounted uuids l₀) :
    (s.step uuids options step).ledger.Accounted uuids l₀ := by
  have heffect := s.step_cases uuids options step
  generalize s.step uuids options step = t at heffect ⊢
  cases heffect with
  | subscribe | reconnect => exact accounted_ensureConnected fun a => h.waitSubscription a
  | request method payload =>
    exact accounted_ensureConnected fun a => h.waitCall a (Or.inr ⟨method, payload, rfl, rfl⟩)
  | getSnapshot => exact accounted_ensureConnected fun a => h.waitCall a (Or.inl ⟨rfl, rfl⟩)
  | close => exact accounted_close h
  | @resume i awaited call result hi =>
    obtain ⟨hresumed, hnew⟩ := h.resume hi
    have hmem := List.mem_of_getElem? hi
    exact accounted_proceed result hresumed hnew
      (fun n method payload hcall => h.waiting _ hmem n method payload hcall)
      (fun n hcall => h.snapshots _ hmem n hcall)
  | received k clock reaction => exact accounted_receive options k clock reaction h
  | closed =>
    unfold handleClose
    dsimp only
    split_ifs <;> exact h
  | timeout => exact accounted_timeout _ h
  | idle | unsubscribe | opened | errored | closing | send | broadcast => exact h

theorem accounted_initial (uuids : RandomUuids) :
    initial.ledger.Accounted uuids initial.ledger where
  drawn := nofun
  ids := List.nodup_nil
  pending := nofun
  timers := nofun
  connectDrawn := nofun
  connect := nofun
  numbers := List.nodup_nil
  called := nofun
  waiting := nofun
  snapshots := nofun
  sent := nofun
  settled := nofun
  keptCalls := List.prefix_rfl
  keptSettled := List.prefix_rfl

theorem accounted_run (steps : List SourceStep) :
    (run (step uuids options) initial steps).ledger.Accounted uuids initial.ledger :=
  @run_of_step _ _ (step uuids options) (fun s => s.ledger.Accounted uuids initial.ledger)
    (fun _ event => accounted_step options event) _ (accounted_initial uuids) steps

/-- A response settles no call but the one whose request it answers. -/
theorem settled_handleResponse (k : ℕ) {response : JsValue} (h : s.ledger.Accounted uuids l₀)
    {e : SentRequest} (he : e ∈ s.sent) (hid : response.field "id" = .str e.id) {n : ℕ}
    (hwaiter : e.waiter = .call n) :
    ∃ results, ((handleResponse uuids options k response).stateAfter s).settled =
      s.settled ++ results ∧ ∀ x ∈ results, x.1 = n := by
  have hnothing : ∃ results, s.settled = s.settled ++ results ∧
      ∀ x ∈ results, x.1 = n := ⟨[], (List.append_nil _).symm, nofun⟩
  unfold JsM.stateAfter EStateM.run handleResponse
  cases hfind : s.pending.find? (fun p => response.field "id" = .str p.id) with
  | none => exact hnothing
  | some p =>
    have hpid : response.field "id" = .str p.id := by simpa using List.find?_some hfind
    obtain ⟨d, hd, hdid, hdwaiter⟩ := h.pending p (List.mem_of_find?_eq_some hfind)
    have hde : d = e := by
      apply h.eq_of_id hd he
      rw [hdid]
      exact JsValue.str.inj (hpid.symm.trans hid)
    have hcall : p.waiter = .call n := by rw [← hdwaiter, hde, hwaiter]
    have hconnect : s.connectRequestId ≠ some p.id := by
      intro hc
      obtain ⟨attempt, hattempt⟩ := h.connect d hd (by rw [hdid]; exact hc)
      rw [hdwaiter, hcall] at hattempt
      cases hattempt
    dsimp only
    split_ifs
    · refine ⟨[(n, .ok (response.field "payload"))], ?_, fun x hx => ?_⟩
      · simp only [acceptResponse, takePending, if_neg hconnect, hcall, resolve]
      · rw [List.mem_singleton.1 hx]
    · cases responseError p.method response with
      | error error => exact hnothing
      | ok message =>
        refine ⟨[(n, .error (.error message))], ?_, fun x hx => ?_⟩
        · simp only [rejectResponse, takePending, if_neg hconnect, hcall, reject]
        · rw [List.mem_singleton.1 hx]

theorem settled_receive {k message : ℕ} {response : JsValue} (clock : Clock)
    (reaction : ℕ → RealtimeSourceEvent → Option JsError) (h : s.ledger.Accounted uuids l₀)
    (hnext : s.connections[k]?.bind (·.next?) = some (message, some response))
    {e : SentRequest} (he : e ∈ s.sent) (hresponse : IsResponseTo e.id response) {n : ℕ}
    (hwaiter : e.waiter = .call n) :
    ∃ results, (s.receive uuids options k clock reaction).settled = s.settled ++ results ∧
      ∀ x ∈ results, x.1 = n := by
  have hevent : response.field "type" ≠ .str "event" := by
    rw [hresponse.type]
    decide
  have hhandler : handleMessage uuids options k message clock reaction (some response) =
      handleResponse uuids options k response := by
    simp only [handleMessage, hresponse.isObject, not_true_eq_false, if_false, if_neg hevent,
      if_pos hresponse.type]
  unfold receive
  rw [hnext]
  dsimp only
  have hledger := congrArg Ledger.settled (ledger_runHandler
    (handleMessage uuids options k message clock reaction (some response))
    ({ s with arrived := s.arrived ++ [(k, some response)] }.modifyConnection k fun c =>
        { c with inbox := c.inbox.tail }))
  rw [hhandler] at hledger ⊢
  obtain ⟨results, hresults, hn⟩ := settled_handleResponse options k
    (s := { s with arrived := s.arrived ++ [(k, some response)] }.modifyConnection k fun c =>
      { c with inbox := c.inbox.tail }) (h.arrive (k, some response)) he hresponse.id hwaiter
  exact ⟨results, hledger.trans hresults, hn⟩

end OpenClawGatewaySource

end Vertx
