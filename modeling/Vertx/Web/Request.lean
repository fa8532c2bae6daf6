import Vertx.Gateway.Server
import Vertx.Js.Socket
import Vertx.Lib.Keyed
import Vertx.Lib.Runs

/-!
# The requests of a browser

`RealtimeGatewayClient` sends every request under a new id, keeps it pending until a response with
that id arrives, and rejects what is pending when its socket closes.  Sequence numbers and the other
frames do not concern the requests.
-/

namespace Vertx

open Runs

/-- A request frame, before it is written as JSON. -/
structure RequestFrame where
  id : String
  method : String
  payload : JsValue
  deriving DecidableEq, Repr

def RequestFrame.json (frame : RequestFrame) : JsValue :=
  .obj [
    ("type", .str "req"),
    ("id", .str frame.id),
    ("method", .str frame.method),
    ("payload", frame.payload)]

/-- What the gateway reads from a request frame. -/
theorem RequestFrame.field_wire (frame : RequestFrame) :
    frame.json.wire.isObject = true ∧ frame.json.wire.field "type" = .str "req" ∧
      frame.json.wire.field "id" = .str frame.id ∧
      frame.json.wire.field "method" = .str frame.method ∧
      frame.json.wire.field "payload" = frame.payload.wire := by
  by_cases h : frame.payload = .undefined
  · simp [json, JsValue.wire, JsValue.wireFields, JsValue.isObject, JsValue.lookup, h]
  · simp [json, JsValue.wire, JsValue.wireFields, JsValue.lookup_cons, JsValue.isObject, h]

/-- A call of `request`, with the id of its frame unless it throws. -/
structure ClientRequest where
  id : Option String
  method : String
  payload : JsValue
  deriving DecidableEq, Repr

/-- Why a promise of `request` is rejected: by an error of the client, or with the message of the
error in a response. -/
inductive RequestFailure
  | client (error : JsError)
  | response (error : ResponseError)

/-- What a promise is settled with by the result in a response. -/
def settlement : Except ResponseError JsValue → Except RequestFailure JsValue
  | .ok value => .ok value.wire
  | .error e => .error (.response e)

/-- A client after `connect()`, whose `socket` is null once it has been closed by `close()`.  The
map `pending` leads from ids to promises, which have the numbers of their calls in `requests`.  The
last fields are the frames on their way to the gateway and the settlements of promises. -/
structure RealtimeGatewayClient where
  readyState : ReadyState
  attached : Bool
  requestId : ℕ
  pending : List (String × ℕ)
  requests : List ClientRequest
  outbox : List RequestFrame
  settled : List (ℕ × Except RequestFailure JsValue)

namespace RealtimeGatewayClient

/-- The client when its socket has been made. -/
def connect : RealtimeGatewayClient := ⟨.connecting, true, 0, [], [], [], []⟩

def frameId (now : ℤ) (n : ℕ) : String := "req-" ++ toString now ++ "-" ++ n.repr

/-- `pending.set`. -/
def setPending (id : String) (promise : ℕ) (c : RealtimeGatewayClient) : RealtimeGatewayClient :=
  { c with
    pending :=
      if c.pending.any (·.1 = id) then
        Keyed.modifyFirst (·.1 = id) (fun _ => (id, promise)) c.pending
      else c.pending ++ [(id, promise)] }

def request (now : ℤ) (method : String) (payload : JsValue) (c : RealtimeGatewayClient) :
    RealtimeGatewayClient :=
  if ¬ c.attached ∨ c.readyState ≠ .open then
    { c with
      requests := c.requests ++ [⟨none, method, payload⟩]
      settled := c.settled ++
        [(c.requests.length, .error (.client (.error "realtime gateway is not connected")))] }
  else
    let id := frameId now (c.requestId + 1)
    setPending id c.requests.length
      { c with
        requestId := c.requestId + 1
        requests := c.requests ++ [⟨some id, method, payload⟩]
        outbox := c.outbox ++ [⟨id, method, payload⟩] }

def resolvePending (id : String) (result : Except ResponseError JsValue)
    (c : RealtimeGatewayClient) : RealtimeGatewayClient :=
  match c.pending.find? (·.1 = id) with
  | none => c
  | some (_, promise) =>
    { c with
      pending := c.pending.filter (·.1 ≠ id)
      settled := c.settled ++ [(promise, settlement result)] }

def rejectPending (message : String) (c : RealtimeGatewayClient) : RealtimeGatewayClient :=
  { c with
    pending := []
    settled := c.settled ++ c.pending.map fun entry =>
      (entry.2, .error (.client (.error message))) }

/-- The message event of the socket, which an open one dispatches. -/
def receive (frame : ServerFrame) (c : RealtimeGatewayClient) : RealtimeGatewayClient :=
  match frame with
  | .res id result => if c.readyState = .open then c.resolvePending id result else c
  | .hello _ | .event _ | .error _ _ => c

/-- The close event of the socket. -/
def closed (c : RealtimeGatewayClient) : RealtimeGatewayClient :=
  if c.readyState = .closed then c
  else { c with readyState := .closed }.rejectPending "realtime gateway connection closed"

def close (c : RealtimeGatewayClient) : RealtimeGatewayClient :=
  if c.attached then { c with readyState := c.readyState.afterClose, attached := false } else c

end RealtimeGatewayClient

/-- One thing that happens to a client; `shut` is the start of a close by the gateway. -/
inductive ClientStep
  | opened
  | request (now : ℤ) (method : String) (payload : JsValue)
  | close
  | shut
  | closed

namespace RealtimeGatewayClient

def step (c : RealtimeGatewayClient) : ClientStep → RealtimeGatewayClient
  | .opened => { c with readyState := c.readyState.afterOpen }
  | .request now method payload => c.request now method payload
  | .close => c.close
  | .shut => { c with readyState := c.readyState.afterClose }
  | .closed => c.closed

/-- Every promise is pending or settled, once; a pending one is found under the id of its request,
and ids are different. -/
structure Consistent (c : RealtimeGatewayClient) : Prop where
  numbered : ∀ r ∈ c.requests, ∀ id ∈ r.id, ∃ now n, n ≤ c.requestId ∧ id = frameId now n
  ids : (c.requests.filterMap (·.id)).Nodup
  keys : (c.pending.map (·.1)).Nodup
  pending : ∀ x ∈ c.pending, ∃ r, c.requests[x.2]? = some r ∧ r.id = some x.1
  promises :
    (c.pending.map (·.2) ++ c.settled.map (·.1)).Perm (List.range c.requests.length)
  closed : c.readyState = .closed → c.pending = []
  outbox : ∀ f ∈ c.outbox, ⟨some f.id, f.method, f.payload⟩ ∈ c.requests

theorem consistent_connect : connect.Consistent where
  numbered := nofun
  ids := List.nodup_nil
  keys := List.nodup_nil
  pending := nofun
  promises := List.Perm.refl _
  closed _ := rfl
  outbox := nofun

/-- The number at the end of an id. -/
theorem frameId_inj {now now' : ℤ} {m n : ℕ} (h : frameId now m = frameId now' n) : m = n := by
  have hdigits (k : ℕ) : '-' ∉ k.repr.toList := by
    intro hk
    rw [Nat.toList_repr] at hk
    exact absurd (Nat.isDigit_of_mem_toDigits (by decide) (by decide) hk) (by decide)
  apply Nat.repr_inj.1
  apply String.toList_inj.1
  refine Keyed.eq_of_append_cons_eq (hdigits m) (hdigits n) (l := ("req-" ++ toString now).toList)
    (m := ("req-" ++ toString now').toList) ?_
  have hlist := congrArg String.toList h
  simpa [frameId] using hlist

variable {c : RealtimeGatewayClient}

/-- A promise is settled at most once. -/
theorem Consistent.once (h : c.Consistent) : (c.settled.map (·.1)).Nodup :=
  (List.nodup_append.1 (h.promises.nodup_iff.2 List.nodup_range)).2.1

/-- When the socket has closed, every promise is settled. -/
theorem Consistent.all_settled (h : c.Consistent) (hclosed : c.readyState = .closed) :
    ∀ p < c.requests.length, p ∈ c.settled.map (·.1) := by
  intro p hp
  have hmem := h.promises.mem_iff.2 (List.mem_range.2 hp)
  rw [h.closed hclosed] at hmem
  exact hmem

theorem Consistent.of_readyState (h : c.Consistent) {state : ReadyState} {attached : Bool}
    (hstate : state = .closed → c.readyState = .closed) :
    { c with readyState := state, attached := attached }.Consistent :=
  { h with closed := fun hclosed => h.closed (hstate hclosed) }

/-- The requests made so far keep their numbers. -/
theorem getElem?_concat {r : ClientRequest} {i : ℕ} (hr : c.requests[i]? = some r)
    (r' : ClientRequest) : (c.requests ++ [r'])[i]? = some r := by
  rw [List.getElem?_append_left (List.getElem?_eq_some_iff.1 hr).1]
  exact hr

/-- The id of the next request has not been used. -/
theorem Consistent.fresh (h : c.Consistent) (now : ℤ) :
    frameId now (c.requestId + 1) ∉ c.requests.filterMap (·.id) := by
  intro hmem
  obtain ⟨r, hr, hid⟩ := List.mem_filterMap.1 hmem
  obtain ⟨now', n, hn, heq⟩ := h.numbered r hr _ hid
  have hnumber := frameId_inj heq
  omega

theorem Consistent.not_pending (h : c.Consistent) (now : ℤ) :
    frameId now (c.requestId + 1) ∉ c.pending.map (·.1) := by
  intro hmem
  obtain ⟨x, hx, hkey⟩ := List.mem_map.1 hmem
  obtain ⟨r, hr, hid⟩ := h.pending x hx
  apply h.fresh now
  rw [← hkey]
  exact List.mem_filterMap.2 ⟨r, List.mem_of_getElem? hr, hid⟩

/-- A request on a client that is not connected. -/
theorem Consistent.throw (h : c.Consistent) {request : ClientRequest} (hid : request.id = none)
    (result : Except RequestFailure JsValue) :
    { c with
      requests := c.requests ++ [request]
      settled := c.settled ++ [(c.requests.length, result)] }.Consistent :=
  { h with
    numbered := by
      intro r hr id hrid
      rcases List.mem_append.1 hr with hr | hr
      · exact h.numbered r hr id hrid
      · rw [List.mem_singleton.1 hr, hid] at hrid
        cases hrid
    ids := by simpa [hid] using h.ids
    pending := by
      intro x hx
      obtain ⟨r, hr, hid⟩ := h.pending x hx
      exact ⟨r, getElem?_concat hr _, hid⟩
    promises := by
      rw [List.map_append, List.length_append, ← List.append_assoc, List.length_singleton,
        List.range_succ]
      exact h.promises.append_right _
    outbox := fun f hf => List.mem_append_left _ (h.outbox f hf) }

/-- A request on an open client. -/
theorem Consistent.send (h : c.Consistent) (hopen : c.readyState = .open) (now : ℤ)
    (method : String) (payload : JsValue) :
    (setPending (frameId now (c.requestId + 1)) c.requests.length
      { c with
        requestId := c.requestId + 1
        requests := c.requests ++ [⟨some (frameId now (c.requestId + 1)), method, payload⟩]
        outbox := c.outbox ++ [⟨frameId now (c.requestId + 1), method, payload⟩] }).Consistent := by
  have hfresh := h.fresh now
  have hkey := h.not_pending now
  have hany : ¬ c.pending.any (·.1 = frameId now (c.requestId + 1)) := by
    intro hany
    obtain ⟨x, hx, hxid⟩ := List.any_eq_true.1 hany
    exact hkey (List.mem_map.2 ⟨x, hx, of_decide_eq_true hxid⟩)
  simp only [setPending, if_neg hany]
  exact
    { numbered := by
        intro r hr id hid
        rcases List.mem_append.1 hr with hr | hr
        · obtain ⟨now', n, hn, heq⟩ := h.numbered r hr id hid
          exact ⟨now', n, Nat.le_succ_of_le hn, heq⟩
        · rw [List.mem_singleton.1 hr] at hid
          exact ⟨now, c.requestId + 1, le_rfl, (Option.some.inj hid).symm⟩
      ids := by
        rw [List.filterMap_append, List.nodup_append]
        refine ⟨h.ids, List.nodup_singleton _, ?_⟩
        rintro x hx y hy rfl
        exact hfresh (List.mem_singleton.1 hy ▸ hx)
      keys := by
        rw [List.map_append, List.nodup_append]
        refine ⟨h.keys, List.nodup_singleton _, ?_⟩
        rintro x hx y hy rfl
        have hid : x = frameId now (c.requestId + 1) := List.mem_singleton.1 hy
        exact hkey (hid ▸ hx)
      pending := by
        intro x hx
        rcases List.mem_append.1 hx with hx | hx
        · obtain ⟨r, hr, hid⟩ := h.pending x hx
          exact ⟨r, getElem?_concat hr _, hid⟩
        · rw [List.mem_singleton.1 hx]
          exact ⟨⟨some (frameId now (c.requestId + 1)), method, payload⟩, by simp, rfl⟩
      promises := by
        rw [List.map_append, List.length_append, List.length_singleton, List.range_succ]
        refine List.Perm.trans ?_ (h.promises.append_right _)
        rw [List.append_assoc, List.append_assoc]
        exact List.perm_append_comm.append_left _
      closed := fun hclosed => absurd (hopen.symm.trans hclosed) nofun
      outbox := by
        intro f hf
        rcases List.mem_append.1 hf with hf | hf
        · exact List.mem_append_left _ (h.outbox f hf)
        · rw [List.mem_singleton.1 hf]
          exact List.mem_append_right _ (List.mem_singleton_self _) }

theorem Consistent.request (h : c.Consistent) (now : ℤ) (method : String) (payload : JsValue) :
    (c.request now method payload).Consistent := by
  unfold RealtimeGatewayClient.request
  split_ifs with hopen
  · exact h.throw rfl _
  · push Not at hopen
    exact h.send hopen.2 now method payload

/-- The close event, in whatever state the socket is then. -/
theorem Consistent.rejectPending (h : c.Consistent) (state : ReadyState) (message : String) :
    ({ c with readyState := state }.rejectPending message).Consistent :=
  { h with
    keys := List.nodup_nil
    pending := nofun
    promises := by
      have hnumbers (failure : Except RequestFailure JsValue) :
          (c.pending.map fun entry => (entry.2, failure)).map (·.1) = c.pending.map (·.2) :=
        List.map_map
      simp only [RealtimeGatewayClient.rejectPending, List.map_append, hnumbers, List.map_nil,
        List.nil_append]
      exact List.perm_append_comm.trans h.promises
    closed := fun _ => rfl }

/-- A response settles the promise of the request with its id, if it is pending. -/
theorem resolvePending_cases (c : RealtimeGatewayClient) (id : String)
    (result : Except ResponseError JsValue) :
    c.resolvePending id result = c ∨
      ∃ promise, (id, promise) ∈ c.pending ∧
        c.resolvePending id result =
          { c with
            pending := c.pending.filter (·.1 ≠ id)
            settled := c.settled ++ [(promise, settlement result)] } := by
  unfold resolvePending
  cases hfind : c.pending.find? (·.1 = id) with
  | none => exact Or.inl rfl
  | some x =>
    obtain ⟨id', promise⟩ := x
    have hid : id' = id := by simpa using List.find?_some hfind
    rw [hid] at hfind
    exact Or.inr ⟨promise, List.mem_of_find?_eq_some hfind, rfl⟩

theorem Consistent.resolvePending (h : c.Consistent) (id : String)
    (result : Except ResponseError JsValue) : (c.resolvePending id result).Consistent := by
  rcases resolvePending_cases c id result with heq | ⟨promise, hpromise, heq⟩
  · rw [heq]
    exact h
  · rw [heq]
    have htake := Keyed.perm_cons_filter (fun x : String × ℕ => x.1) h.keys hpromise
    exact { h with
      keys := h.keys.sublist (List.filter_sublist.map _)
      pending := fun x hx => h.pending x (List.mem_of_mem_filter hx)
      promises := by
        rw [List.map_append, ← List.append_assoc]
        refine List.perm_append_comm.trans (List.Perm.trans ?_ h.promises)
        exact (htake.symm.map (·.2)).append_right _
      closed := fun hclosed => by
        rw [h.closed hclosed] at hpromise
        cases hpromise }

theorem Consistent.receive (h : c.Consistent) (frame : ServerFrame) :
    (c.receive frame).Consistent := by
  unfold RealtimeGatewayClient.receive
  cases frame with
  | res id result =>
    dsimp only
    split_ifs
    · exact h.resolvePending id result
    · exact h
  | _ => exact h

theorem Consistent.step (h : c.Consistent) (step : ClientStep) : (c.step step).Consistent := by
  cases step with
  | opened => exact h.of_readyState ReadyState.afterOpen_eq_closed.1
  | request now method payload => exact h.request now method payload
  | close =>
    show (RealtimeGatewayClient.close c).Consistent
    unfold RealtimeGatewayClient.close
    split_ifs
    · exact h.of_readyState ReadyState.afterClose_eq_closed.1
    · exact h
  | shut => exact h.of_readyState ReadyState.afterClose_eq_closed.1
  | closed =>
    show (RealtimeGatewayClient.closed c).Consistent
    unfold RealtimeGatewayClient.closed
    split_ifs
    · exact h
    · exact h.rejectPending .closed _

/-- The close event rejects every promise that was not settled before. -/
theorem Consistent.rejected (h : c.Consistent) {p : ℕ} (hp : p < c.requests.length)
    (hunsettled : p ∉ c.settled.map (·.1)) : ∃ error, (p, .error error) ∈ c.closed.settled := by
  have hmem := h.promises.mem_iff.2 (List.mem_range.2 hp)
  obtain ⟨entry, hentry, rfl⟩ :=
    List.mem_map.1 ((List.mem_append.1 hmem).resolve_right hunsettled)
  have hopen : c.readyState ≠ .closed := by
    intro hclosed
    rw [h.closed hclosed] at hentry
    cases hentry
  unfold RealtimeGatewayClient.closed
  rw [if_neg hopen]
  exact ⟨_, List.mem_append_right _ (List.mem_map.2 ⟨entry, hentry, rfl⟩)⟩

end RealtimeGatewayClient

end Vertx
