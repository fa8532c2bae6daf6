import Vertx.Gateway.Relay

/-!
# Requests and their answers

A promise of a browser is settled at most once, and by the answer to its own request: with the
payload of upstream's ok response to the one call that was made for it, or with what the request
handler gave for it, or by the client itself.  The relation that every step preserves links a
browser's requests to the tasks of its connection, the tasks to calls of the source, and the calls
to the requests that were sent upstream.
-/

namespace Vertx

open Runs

/-! ## One browser and its connection -/

/-- A browser and what has passed on its connection: every request is on its way or taken up at most
once, every response answers a task with its outcome, and a promise is settled by the client or by
the response to its request. -/
structure Linked (outcome : ℕ → Except JsError JsValue → Prop) (c : RealtimeGatewayClient)
    (x : RequestExchange) : Prop where
  consistent : c.Consistent
  ids : (c.outbox.map (·.id) ++ x.tasks.map (·.id)).Nodup
  tasks : ∀ t ∈ x.tasks, ∃ payload, ⟨some t.id, t.method, payload⟩ ∈ c.requests ∧
    t.payload = payload.wire
  responses : ∀ y ∈ x.responses, ∃ r task result, x.tasks[r]? = some task ∧ outcome r result ∧
    y = (task.id, responseTo result)
  settled : ∀ y ∈ c.settled, (∃ e, y.2 = .error (.client e)) ∨
    ∃ request id result, c.requests[y.1]? = some request ∧ request.id = some id ∧
      (id, result) ∈ x.responses ∧ y.2 = settlement result

namespace Linked

open RealtimeGatewayClient

variable {outcome outcome' : ℕ → Except JsError JsValue → Prop} {c : RealtimeGatewayClient}
  {x : RequestExchange}

theorem connect : Linked outcome .connect ⟨[], []⟩ where
  consistent := consistent_connect
  ids := List.nodup_nil
  tasks := nofun
  responses := nofun
  settled := nofun

theorem mono (h : Linked outcome c x) (hmono : ∀ r result, outcome r result → outcome' r result) :
    Linked outcome' c x :=
  { h with
    responses := by
      intro y hy
      obtain ⟨r, task, result, htask, hresult, hy⟩ := h.responses y hy
      exact ⟨r, task, result, htask, hmono r result hresult, hy⟩ }

/-- A client that keeps its frames and its requests, and settles promises by itself. -/
theorem of_settled (h : Linked outcome c x) {c' : RealtimeGatewayClient} (hc : c'.Consistent)
    (houtbox : c'.outbox = c.outbox) {more : List ClientRequest}
    (hrequests : c'.requests = c.requests ++ more)
    (hsettled : ∀ y ∈ c'.settled, y ∈ c.settled ∨ ∃ e, y.2 = .error (.client e)) :
    Linked outcome c' x :=
  { h with
    consistent := hc
    ids := by
      rw [houtbox]
      exact h.ids
    tasks := by
      intro t ht
      obtain ⟨payload, hmem, hpayload⟩ := h.tasks t ht
      refine ⟨payload, ?_, hpayload⟩
      rw [hrequests]
      exact List.mem_append_left _ hmem
    settled := by
      intro y hy
      rcases hsettled y hy with hy | hy
      · refine (h.settled y hy).imp_right ?_
        rintro ⟨request, id, result, hrequest, hresponse⟩
        refine ⟨request, id, result, ?_, hresponse⟩
        rw [hrequests, List.getElem?_append_left (List.getElem?_eq_some_iff.1 hrequest).1]
        exact hrequest
      · exact Or.inl hy }

/-- The ids on the way and taken up are ids of requests. -/
theorem mem_requests (h : Linked outcome c x) {id : String}
    (hid : id ∈ c.outbox.map (·.id) ++ x.tasks.map (·.id)) :
    id ∈ c.requests.filterMap (·.id) := by
  rcases List.mem_append.1 hid with hid | hid
  · obtain ⟨f, hf, rfl⟩ := List.mem_map.1 hid
    exact List.mem_filterMap.2 ⟨_, h.consistent.outbox f hf, rfl⟩
  · obtain ⟨t, ht, rfl⟩ := List.mem_map.1 hid
    obtain ⟨payload, hmem, -⟩ := h.tasks t ht
    exact List.mem_filterMap.2 ⟨_, hmem, rfl⟩

theorem request (h : Linked outcome c x) (now : ℤ) (method : String) (payload : JsValue) :
    Linked outcome (c.request now method payload) x := by
  have hconsistent := h.consistent.request now method payload
  unfold RealtimeGatewayClient.request at hconsistent ⊢
  split_ifs at hconsistent ⊢ with hopen
  · refine h.of_settled hconsistent rfl rfl fun y hy => ?_
    rcases List.mem_append.1 hy with hy | hy
    · exact Or.inl hy
    · rw [List.mem_singleton.1 hy]
      exact Or.inr ⟨_, rfl⟩
  · exact
      { h with
        consistent := hconsistent
        ids := by
          have hfresh := h.consistent.fresh now
          have hnew := fun hid => hfresh (h.mem_requests hid)
          simp only [setPending, List.map_append, List.map_singleton, List.append_assoc,
            List.singleton_append]
          exact List.perm_middle.nodup_iff.2 (List.nodup_cons.2 ⟨hnew, h.ids⟩)
        tasks := by
          intro t ht
          obtain ⟨payload, hmem, hpayload⟩ := h.tasks t ht
          exact ⟨payload, List.mem_append_left _ hmem, hpayload⟩
        settled := by
          intro y hy
          refine (h.settled y hy).imp_right ?_
          rintro ⟨request, id, result, hrequest, hresponse⟩
          exact ⟨request, id, result, getElem?_concat hrequest _, hresponse⟩ }

theorem client (h : Linked outcome c x) (step : ClientStep) : Linked outcome (c.step step) x := by
  have hconsistent := h.consistent.step step
  cases step with
  | opened => exact h.of_settled hconsistent rfl (List.append_nil _).symm fun y hy => Or.inl hy
  | request now method payload => exact h.request now method payload
  | shut => exact h.of_settled hconsistent rfl (List.append_nil _).symm fun y hy => Or.inl hy
  | close =>
    simp only [RealtimeGatewayClient.step, RealtimeGatewayClient.close] at hconsistent ⊢
    split_ifs at hconsistent ⊢
    · exact h.of_settled hconsistent rfl (List.append_nil _).symm fun y hy => Or.inl hy
    · exact h
  | closed =>
    simp only [RealtimeGatewayClient.step, RealtimeGatewayClient.closed] at hconsistent ⊢
    split_ifs at hconsistent ⊢
    · exact h
    · refine h.of_settled hconsistent rfl (List.append_nil _).symm fun y hy => ?_
      rcases List.mem_append.1 hy with hy | hy
      · exact Or.inl hy
      · obtain ⟨entry, -, rfl⟩ := List.mem_map.1 hy
        exact Or.inr ⟨_, rfl⟩

/-- A response that was sent on the connection arrives at the browser. -/
theorem receive (h : Linked outcome c x) {frame : ServerFrame}
    (hframe : ∀ y, frame.response? = some y → y ∈ x.responses) :
    Linked outcome (c.receive frame) x := by
  have hconsistent := h.consistent.receive frame
  cases frame with
  | res id result =>
    simp only [RealtimeGatewayClient.receive] at hconsistent ⊢
    split_ifs at hconsistent ⊢
    · rcases resolvePending_cases c id result with heq | ⟨promise, hpromise, heq⟩
      · rw [heq]
        exact h
      · rw [heq] at hconsistent ⊢
        refine { h with consistent := hconsistent, settled := ?_ }
        intro y hy
        rcases List.mem_append.1 hy with hy | hy
        · exact h.settled y hy
        · rw [List.mem_singleton.1 hy]
          obtain ⟨request, hrequest, hid⟩ := h.consistent.pending _ hpromise
          exact Or.inr ⟨request, id, result, hrequest, hid, hframe _ rfl, rfl⟩
    · exact h
  | _ => exact h

theorem takeFrame_ids (h : Linked outcome c x) {k : ℕ} {frame : RequestFrame}
    (hframe : c.outbox[k]? = some frame) :
    (frame.id :: ((c.outbox.eraseIdx k).map (·.id) ++ x.tasks.map (·.id))).Nodup := by
  obtain ⟨hlt, rfl⟩ := List.getElem?_eq_some_iff.1 hframe
  have htake := (List.getElem_cons_eraseIdx_perm hlt).map (·.id)
  exact (htake.append_right _).nodup_iff.2 h.ids

/-- A frame that arrives when the connection is no client any more. -/
theorem dropFrame (h : Linked outcome c x) {k : ℕ} {frame : RequestFrame}
    (hframe : c.outbox[k]? = some frame) :
    Linked outcome { c with outbox := c.outbox.eraseIdx k } x :=
  { h with
    consistent :=
      { h.consistent with
        outbox := fun f hf => h.consistent.outbox f (List.mem_of_mem_eraseIdx hf) }
    ids := (List.nodup_cons.1 (h.takeFrame_ids hframe)).2 }

/-- A frame becomes a task. -/
theorem takeUp (h : Linked outcome c x) {k : ℕ} {frame : RequestFrame}
    (hframe : c.outbox[k]? = some frame) :
    Linked outcome { c with outbox := c.outbox.eraseIdx k }
      { x with tasks := x.tasks ++ [⟨frame.id, frame.method, frame.payload.wire, false⟩] } :=
  { h.dropFrame hframe with
    ids := by
      have hids := h.takeFrame_ids hframe
      rw [List.map_append, ← List.append_assoc]
      exact List.perm_append_singleton _ _ |>.nodup_iff.2 hids
    tasks := by
      intro t ht
      rcases List.mem_append.1 ht with ht | ht
      · exact h.tasks t ht
      · rw [List.mem_singleton.1 ht]
        exact ⟨frame.payload, h.consistent.outbox frame (List.mem_of_getElem? hframe), rfl⟩
    responses := by
      intro y hy
      obtain ⟨r, task, result, htask, hresult, hy⟩ := h.responses y hy
      refine ⟨r, task, result, ?_, hresult, hy⟩
      rw [List.getElem?_append_left (List.getElem?_eq_some_iff.1 htask).1]
      exact htask }

/-- A task that is marked as answered. -/
theorem getElem?_markAnswered {tasks : List RequestTask} {r i : ℕ} {task : RequestTask}
    (htask : tasks[i]? = some task) :
    ∃ answered, (tasks.modify r fun task => { task with answered := true })[i]? =
      some { task with answered } := by
  rw [List.getElem?_modify, htask]
  by_cases hi : r = i
  · exact ⟨true, by simp [hi]⟩
  · exact ⟨task.answered, by simp [hi]⟩

/-- A task is answered with its outcome. -/
theorem answer (h : Linked outcome c x) {r : ℕ} {task : RequestTask}
    {result : Except JsError JsValue} (htask : x.tasks[r]? = some task)
    (hresult : outcome r result) :
    Linked outcome c
      { tasks := x.tasks.modify r fun task => { task with answered := true }
        responses := x.responses ++ [(task.id, responseTo result)] } :=
  { h with
    ids := by
      have hsame : (x.tasks.modify r fun task => { task with answered := true }).map (·.id) =
          x.tasks.map (·.id) := by
        apply Keyed.map_modify_of_eq
        intro task
        rfl
      have hids := h.ids
      rw [← hsame] at hids
      exact hids
    tasks := by
      intro t ht
      obtain ⟨i, hi⟩ := List.mem_iff_getElem?.1 ht
      obtain ⟨s, hs, rfl⟩ := Option.map_eq_some_iff.1
        ((List.getElem?_modify _ r x.tasks i).symm.trans hi)
      obtain ⟨payload, hmem, hpayload⟩ := h.tasks s (List.mem_of_getElem? hs)
      refine ⟨payload, ?_, ?_⟩
      · split_ifs <;> exact hmem
      · split_ifs <;> exact hpayload
    responses := by
      intro y hy
      rcases List.mem_append.1 hy with hy | hy
      · obtain ⟨i, t, result, ht, hresult, rfl⟩ := h.responses y hy
        obtain ⟨answered, hmarked⟩ := getElem?_markAnswered (r := r) ht
        exact ⟨i, _, result, hmarked, hresult, rfl⟩
      · obtain ⟨answered, hmarked⟩ := getElem?_markAnswered (r := r) htask
        exact ⟨r, _, result, hmarked, hresult, List.mem_singleton.1 hy⟩
    settled := by
      intro y hy
      refine (h.settled y hy).imp_right ?_
      rintro ⟨request, id, result, hrequest, hid, hmem, hy⟩
      exact ⟨request, id, result, hrequest, hid, List.mem_append_left _ hmem, hy⟩ }

end Linked

/-! ## The whole -/

namespace RealtimeGateway

/-- The tasks of a dialogue are those of its exchange. -/
theorem task?_exchanges (g : RealtimeGateway) (i r : ℕ) :
    g.task? i r = g.exchanges[i]?.bind (·.tasks[r]?) := by
  rw [task?_eq, exchanges_eq, List.getElem?_map, Option.bind_map]
  rfl

theorem task?_eq_some {g : RealtimeGateway} {i r : ℕ} {task : RequestTask} :
    g.task? i r = some task ↔
      ∃ x, g.exchanges[i]? = some x ∧ x.tasks[r]? = some task := by
  rw [task?_exchanges]
  exact Option.bind_eq_some_iff

theorem lt_taskCount {g : RealtimeGateway} {i r : ℕ} {task : RequestTask}
    (h : g.task? i r = some task) : r < g.taskCount i := by
  obtain ⟨c, hc, hr⟩ := Option.bind_eq_some_iff.1 h
  rw [taskCount, hc]
  exact (List.getElem?_eq_some_iff.1 hr).1

end RealtimeGateway

namespace OpenClawBackedGateway

/-- What the request handler or the source has settled a task with. -/
def Outcome (s : OpenClawBackedGateway) (i r : ℕ) (result : Except JsError JsValue) : Prop :=
  ⟨i, r, result⟩ ∈ s.handled ∨
    ∃ n, (⟨n, i, r⟩ : Forwarded) ∈ s.forwarded ∧ (n, result) ∈ s.source.settled

/-- What every step preserves. -/
structure Relayed (uuids : RandomUuids) (options : RealtimeGatewayOptions)
    (s : OpenClawBackedGateway) : Prop where
  accounted : s.source.ledger.Accounted uuids OpenClawGatewaySource.initial.ledger
  length : s.clients.length = s.gateway.exchanges.length
  linked : ∀ i c x, s.clients[i]? = some c → s.gateway.exchanges[i]? = some x →
    Linked (s.Outcome i) c x
  forwarded : ∀ f ∈ s.forwarded, ∃ task, s.gateway.task? f.connection f.task = some task ∧
    s.source.calls[f.call]? = some (some (task.method, task.payload))
  calls : (s.forwarded.map (·.call)).Nodup
  places : (s.forwarded.map fun f => (f.connection, f.task)).Nodup
  handler : if options.requestHandler then s.forwarded = [] else s.handled = []

variable {uuids : RandomUuids} {options : RealtimeGatewayOptions}
  {openclaw : OpenClawGatewaySourceOptions} {s : OpenClawBackedGateway}

theorem relayed_initial : initial.Relayed uuids options where
  accounted := OpenClawGatewaySource.accounted_initial uuids
  length := rfl
  linked := nofun
  forwarded := nofun
  calls := List.nodup_nil
  places := List.nodup_nil
  handler := by split_ifs <;> rfl

/-- A step at one browser and its connection, which may settle a task with the request handler. -/
theorem Relayed.exchange (h : s.Relayed uuids options) (i : ℕ)
    {f : RealtimeGatewayClient → RealtimeGatewayClient} {g : RequestExchange → RequestExchange}
    {t : OpenClawBackedGateway} (hclients : t.clients = s.clients.modify i f)
    (hexchanges : t.gateway.exchanges = s.gateway.exchanges.modify i g)
    (hsource : t.source = s.source) (hforwarded : t.forwarded = s.forwarded)
    (hhandled : s.handled ⊆ t.handled)
    (hhandler : options.requestHandler = false → t.handled = [])
    (hlinked : ∀ c x, s.clients[i]? = some c → s.gateway.exchanges[i]? = some x →
      Linked (t.Outcome i) c x → Linked (t.Outcome i) (f c) (g x))
    (htasks : ∀ (x : RequestExchange) (r : ℕ) (task : RequestTask), x.tasks[r]? = some task →
      ∃ task' : RequestTask, (g x).tasks[r]? = some task' ∧ task'.method = task.method ∧
        task'.payload = task.payload) :
    t.Relayed uuids options where
  accounted := by
    rw [hsource]
    exact h.accounted
  length := by rw [hclients, hexchanges, List.length_modify, List.length_modify, h.length]
  linked := by
    have houtcome (j r : ℕ) (result : Except JsError JsValue) (ho : s.Outcome j r result) :
        t.Outcome j r result := by
      unfold Outcome at ho ⊢
      rw [hsource, hforwarded]
      exact ho.imp_left fun hmem => hhandled hmem
    intro j c x hc hx
    rw [hclients, List.getElem?_modify] at hc
    rw [hexchanges, List.getElem?_modify] at hx
    obtain ⟨c₀, hc₀, rfl⟩ := Option.map_eq_some_iff.1 hc
    obtain ⟨x₀, hx₀, rfl⟩ := Option.map_eq_some_iff.1 hx
    have hold := (h.linked j c₀ x₀ hc₀ hx₀).mono (houtcome j)
    by_cases hi : i = j
    · subst hi
      simpa using hlinked c₀ x₀ hc₀ hx₀ hold
    · simpa [hi] using hold
  forwarded := by
    intro e he
    rw [hforwarded] at he
    obtain ⟨task, htask, hcall⟩ := h.forwarded e he
    obtain ⟨x, hx, hr⟩ := RealtimeGateway.task?_eq_some.1 htask
    rw [hsource]
    by_cases hi : i = e.connection
    · obtain ⟨task', htask', hmethod, hpayload⟩ := htasks x e.task task hr
      refine ⟨task', RealtimeGateway.task?_eq_some.2 ⟨g x, ?_, htask'⟩, ?_⟩
      · rw [hexchanges, List.getElem?_modify, hx]
        simp [hi]
      · rw [hmethod, hpayload]
        exact hcall
    · refine ⟨task, RealtimeGateway.task?_eq_some.2 ⟨x, ?_, hr⟩, hcall⟩
      rw [hexchanges, List.getElem?_modify, hx]
      simp [hi]
  calls := by
    rw [hforwarded]
    exact h.calls
  places := by
    rw [hforwarded]
    exact h.places
  handler := by
    have hold := h.handler
    split_ifs at hold ⊢ with hoption
    · rw [hforwarded]
      exact hold
    · exact hhandler (by simpa using hoption)

/-- Any step of the source. -/
theorem Relayed.sourceStep (h : s.Relayed uuids options) (openclaw : OpenClawGatewaySourceOptions)
    (step : SourceStep) : (s.sourceStep uuids openclaw step).Relayed uuids options := by
  have hgrown := OpenClawGatewaySource.accounted_step openclaw step h.accounted.rebase
  exact
    { h with
      accounted := OpenClawGatewaySource.accounted_step openclaw step h.accounted
      linked := by
        intro i c x hc hx
        refine (h.linked i c x hc hx).mono fun r result => ?_
        rintro (hhandled | ⟨n, hn, hsettled⟩)
        · exact Or.inl hhandled
        · exact Or.inr ⟨n, hn, hgrown.keptSettled.subset hsettled⟩
      forwarded := by
        intro f hf
        obtain ⟨task, htask, hcall⟩ := h.forwarded f hf
        refine ⟨task, htask, ?_⟩
        obtain ⟨more, hmore⟩ := hgrown.keptCalls
        show (s.source.step uuids openclaw step).ledger.calls[f.call]? = _
        rw [← hmore]
        exact (List.getElem?_append_left (List.getElem?_eq_some_iff.1 hcall).1).trans hcall }

theorem calls_request (uuids : RandomUuids) (openclaw : OpenClawGatewaySourceOptions)
    (source : OpenClawGatewaySource) (method : String) (payload : JsValue) :
    (source.step uuids openclaw (.request method payload)).calls =
      source.calls ++ [some (method, payload)] := by
  simp only [OpenClawGatewaySource.step, OpenClawGatewaySource.ensureConnected]
  split_ifs
  · rfl
  · split <;> rfl

/-- A task that has not been forwarded becomes a call of the source. -/
theorem Relayed.forward (h : s.Relayed uuids options) (hoption : options.requestHandler = false)
    {i r : ℕ} {task : RequestTask} (htask : s.gateway.task? i r = some task)
    (hnew : (i, r) ∉ s.forwarded.map fun f => (f.connection, f.task)) :
    (s.forward uuids openclaw i r task).Relayed uuids options := by
  have hstep := h.sourceStep openclaw (.request task.method task.payload)
  have hcalls := calls_request uuids openclaw s.source task.method task.payload
  exact
    { hstep with
      linked := by
        intro j c x hc hx
        refine (hstep.linked j c x hc hx).mono fun k result => ?_
        exact Or.imp_right fun ⟨n, hn, hsettled⟩ => ⟨n, List.mem_append_left _ hn, hsettled⟩
      forwarded := by
        intro f hf
        rcases List.mem_append.1 hf with hf | hf
        · exact hstep.forwarded f hf
        · rw [List.mem_singleton.1 hf]
          refine ⟨task, htask, ?_⟩
          rw [OpenClawBackedGateway.forward, OpenClawBackedGateway.sourceStep, hcalls]
          simp
      calls := by
        rw [OpenClawBackedGateway.forward, List.map_append, List.nodup_append]
        refine ⟨h.calls, List.nodup_singleton _, ?_⟩
        rintro n hn m hm rfl
        obtain ⟨f, hf, rfl⟩ := List.mem_map.1 hn
        obtain ⟨_, -, hcall⟩ := h.forwarded f hf
        have hlt := (List.getElem?_eq_some_iff.1 hcall).1
        rw [List.mem_singleton.1 hm] at hlt
        exact hlt.false
      places := by
        rw [OpenClawBackedGateway.forward, List.map_append, List.nodup_append]
        refine ⟨h.places, List.nodup_singleton _, ?_⟩
        rintro n hn m hm rfl
        rw [List.mem_singleton.1 hm] at hn
        exact hnew hn
      handler := by
        have hold := h.handler
        rw [hoption] at hold ⊢
        exact hold }

theorem Relayed.connect (h : s.Relayed uuids options) (resolved : ResolvedContext) :
    { s.gatewayStep options (.connect resolved .silent) with
      clients := s.clients ++ [RealtimeGatewayClient.connect] }.Relayed uuids options := by
  have hexchanges : (s.gateway.step options.backed (.connect resolved .silent)).exchanges =
      s.gateway.exchanges ++ [⟨[], []⟩] :=
    RealtimeGateway.exchanges_connect options.backed s.gateway resolved .silent
  exact
    { h with
      length := by
        simp only [gatewayStep, hexchanges, List.length_append, h.length, List.length_singleton]
      linked := by
        intro i c x hc hx
        simp only [gatewayStep, hexchanges] at hc hx
        rw [List.getElem?_append] at hc hx
        rw [← h.length] at hx
        split_ifs at hc hx with hlt
        · exact h.linked i c x hc hx
        · have hi : i - s.clients.length = 0 := by
            by_contra hne
            rw [List.getElem?_eq_none (by simp; omega)] at hc
            cases hc
          rw [hi] at hc hx
          obtain rfl := Option.some.inj hc
          obtain rfl := Option.some.inj hx
          exact Linked.connect
      forwarded := by
        intro f hf
        obtain ⟨task, htask, hcall⟩ := h.forwarded f hf
        obtain ⟨x, hx, hr⟩ := RealtimeGateway.task?_eq_some.1 htask
        refine ⟨task, RealtimeGateway.task?_eq_some.2 ⟨x, ?_, hr⟩, hcall⟩
        simp only [gatewayStep, hexchanges]
        rw [List.getElem?_append_left (List.getElem?_eq_some_iff.1 hx).1]
        exact hx }

/-- Any other step of the gateway. -/
theorem Relayed.gatewayStep (h : s.Relayed uuids options) {step : GatewayStep}
    (hstep : step.isOther = true) : (s.gatewayStep options step).Relayed uuids options := by
  have hexchanges := RealtimeGateway.exchanges_other options.backed s.gateway hstep
  exact
    { h with
      length := h.length.trans (congrArg List.length hexchanges.symm)
      linked := by
        intro i c x hc hx
        simp only [OpenClawBackedGateway.gatewayStep, hexchanges] at hc hx
        exact h.linked i c x hc hx
      forwarded := by
        intro f hf
        obtain ⟨task, htask, hcall⟩ := h.forwarded f hf
        refine ⟨task, ?_, hcall⟩
        rw [RealtimeGateway.task?_exchanges] at htask ⊢
        simp only [OpenClawBackedGateway.gatewayStep, hexchanges]
        exact htask }

/-- A step of a browser by itself, or a frame for it that was sent on its connection. -/
theorem Relayed.modifyClient (h : s.Relayed uuids options) (i : ℕ)
    {f : RealtimeGatewayClient → RealtimeGatewayClient}
    (hf : ∀ c x, s.gateway.exchanges[i]? = some x → Linked (s.Outcome i) c x →
      Linked (s.Outcome i) (f c) x) : (s.modifyClient i f).Relayed uuids options := by
  refine h.exchange i (f := f) (g := id) rfl (List.modify_id i _).symm rfl rfl
    (List.Subset.refl _) (fun hoption => ?_) (fun c x _ hx hlinked => hf c x hx hlinked)
    fun x r task htask => ⟨task, htask, rfl, rfl⟩
  have hhandler := h.handler
  rw [hoption] at hhandler
  exact hhandler

/-- The gateway goes on with the outcome of a task. -/
theorem Relayed.answer (h : s.Relayed uuids options) {i r : ℕ} {result : Except JsError JsValue}
    {handled : List Handled} (hhandled : s.handled ⊆ handled)
    (hhandler : options.requestHandler = false → handled = [])
    (hresult : { s with handled }.Outcome i r result) :
    { s.gatewayStep options (.answer i r result .silent) with handled }.Relayed uuids options := by
  rcases RealtimeGateway.exchanges_answer options.backed s.gateway i r result with
    hexchanges | ⟨task, htask, -, hexchanges⟩
  · exact h.exchange i (f := id) (g := id) (List.modify_id i _).symm
      (hexchanges.trans (List.modify_id i _).symm) rfl rfl hhandled hhandler
      (fun c x _ _ hlinked => hlinked) fun x k task htask => ⟨task, htask, rfl, rfl⟩
  · obtain ⟨x₀, hx₀, hr⟩ := RealtimeGateway.task?_eq_some.1 htask
    refine h.exchange i (f := id) (List.modify_id i _).symm hexchanges rfl rfl hhandled
      hhandler (fun c x _ hx hlinked => ?_) fun x k task' htask' => ?_
    · obtain rfl := Option.some.inj (hx.symm.trans hx₀)
      exact hlinked.answer hr hresult
    · obtain ⟨answered, hmarked⟩ := Linked.getElem?_markAnswered (r := r) htask'
      exact ⟨_, hmarked, rfl, rfl⟩

/-- A frame of the `i`-th browser arrives. -/
theorem Relayed.arrive (h : s.Relayed uuids options) {i k : ℕ} {frame : RequestFrame}
    (hframe : s.clients[i]?.bind (·.outbox[k]?) = some frame) :
    ((s.modifyClient i fun c => { c with outbox := c.outbox.eraseIdx k }).arrive uuids options
      openclaw i frame).Relayed uuids options := by
  obtain ⟨c₀, hc₀, hframe⟩ := Option.bind_eq_some_iff.1 hframe
  have hempty (hoption : options.requestHandler = false) : s.handled = [] := by
    have hhandler := h.handler
    rw [hoption] at hhandler
    exact hhandler
  have hexchanges := RealtimeGateway.exchanges_message options s.gateway i frame .silent
  have htaken : ((s.modifyClient i fun c => { c with outbox := c.outbox.eraseIdx k }).gatewayStep
      options (.message i (some frame.json.wire) .silent)).Relayed uuids options := by
    split_ifs at hexchanges
    · refine h.exchange i rfl hexchanges rfl rfl (List.Subset.refl _) hempty
        (fun c x hc _ hlinked => ?_) fun x r task htask => ⟨task, ?_, rfl, rfl⟩
      · obtain rfl := Option.some.inj (hc.symm.trans hc₀)
        exact hlinked.takeUp hframe
      · exact (List.getElem?_append_left (List.getElem?_eq_some_iff.1 htask).1).trans htask
    · refine h.exchange i (g := id) rfl (hexchanges.trans (List.modify_id i _).symm) rfl rfl
        (List.Subset.refl _) hempty (fun c x hc _ hlinked => ?_)
        fun x r task htask => ⟨task, htask, rfl, rfl⟩
      obtain rfl := Option.some.inj (hc.symm.trans hc₀)
      exact hlinked.dropFrame hframe
  unfold OpenClawBackedGateway.arrive
  dsimp only
  split
  · exact htaken
  · next task htask =>
    split_ifs with hoption
    · exact htaken
    · refine htaken.forward (by simpa using hoption) htask fun hmem => ?_
      obtain ⟨f, hf, hplace⟩ := List.mem_map.1 hmem
      obtain ⟨rfl, hr⟩ := Prod.mk.inj hplace
      obtain ⟨old, hold, -⟩ := h.forwarded f hf
      have hlt := RealtimeGateway.lt_taskCount hold
      rw [hr] at hlt
      exact hlt.false

theorem relayed_step (step : RelayStep) (h : s.Relayed uuids options) :
    (s.step uuids options openclaw step).Relayed uuids options := by
  cases step with
  | connect resolved => exact h.connect resolved
  | client i step => exact h.modifyClient i fun c x _ hlinked => hlinked.client step
  | arrive i k =>
    simp only [step]
    split
    · exact h
    · next frame hframe => exact h.arrive hframe
  | deliver i k =>
    simp only [step]
    split
    · exact h
    · next frame hframe =>
      obtain ⟨connection, hconnection, hframe⟩ := Option.bind_eq_some_iff.1 hframe
      refine h.modifyClient i fun c x hx hlinked => hlinked.receive fun y hy => ?_
      have hexchange : s.gateway.exchanges[i]? = some connection.exchange := by
        rw [RealtimeGateway.exchanges, List.getElem?_map, hconnection]
        rfl
      obtain rfl := Option.some.inj (hx.symm.trans hexchange)
      exact List.mem_filterMap.2 ⟨frame, List.mem_of_getElem? hframe, hy⟩
  | answer n =>
    simp only [step]
    split
    · next f m result hf hm =>
      refine h.answer (List.Subset.refl _) (fun hoption => ?_) (Or.inr ⟨n, ?_, ?_⟩)
      · have hhandler := h.handler
        rw [hoption] at hhandler
        exact hhandler
      · have hcall : f.call = n := by simpa using List.find?_some hf
        rw [← hcall]
        exact List.mem_of_find?_eq_some hf
      · have hnumber : m = n := by simpa using List.find?_some hm
        rw [← hnumber]
        exact List.mem_of_find?_eq_some hm
    · exact h
  | handle i r result =>
    simp only [step]
    split_ifs with hhandle
    · refine h.answer (List.subset_append_left _ _) (fun hoption => ?_)
        (Or.inl (List.mem_append_right _ (List.mem_singleton_self _)))
      rw [hoption] at hhandle
      exact absurd hhandle.1 (by decide)
    · exact h
  | gateway step =>
    simp only [OpenClawBackedGateway.step]
    split_ifs with hstep
    · exact h.gatewayStep hstep
    · exact h
  | source step =>
    simp only [OpenClawBackedGateway.step]
    split_ifs
    · exact h.sourceStep openclaw step
    · exact h

/-! ## What every run guarantees -/

/-- Promise `p` of the `i`-th browser is for the `r`-th task of its connection. -/
def TaskOf (s : OpenClawBackedGateway) (i p r : ℕ) : Prop :=
  ∃ c request task, s.clients[i]? = some c ∧ c.requests[p]? = some request ∧
    s.gateway.task? i r = some task ∧ request.id = some task.id

/-- The `n`-th call of the source was made for promise `p` of the `i`-th browser. -/
def ForwardedFor (s : OpenClawBackedGateway) (i p n : ℕ) : Prop :=
  ∃ r, (⟨n, i, r⟩ : Forwarded) ∈ s.forwarded ∧ s.TaskOf i p r

/-- One request has been sent upstream for the call, with this method and payload, and an ok
response to it has arrived with this value. -/
def AnsweredUpstream (s : OpenClawBackedGateway) (n : ℕ) (method : String)
    (payload value : JsValue) : Prop :=
  ∃ e ∈ s.source.sent, (∀ d ∈ s.source.sent, d.waiter = .call n ↔ d = e) ∧ e.method = method ∧
    e.params = payload.wire ∧
    ∃ k response, (k, some response) ∈ s.source.arrived ∧ IsResponseTo e.id response ∧
      (response.field "ok").truthy ∧ value = (response.field "payload").wire

/-- A promise that resolves does so with upstream's answer to the call made for it. -/
def ResolvedUpstream (s : OpenClawBackedGateway) : Prop :=
  ∀ i c p value, s.clients[i]? = some c → (p, .ok value) ∈ c.settled →
    ∃ request n, c.requests[p]? = some request ∧ s.ForwardedFor i p n ∧
      s.AnsweredUpstream n request.method request.payload value

/-- A promise that resolves does so with what the request handler returned for it. -/
def ResolvedByHandler (s : OpenClawBackedGateway) : Prop :=
  ∀ i c p value, s.clients[i]? = some c → (p, .ok value) ∈ c.settled →
    ∃ r result, s.TaskOf i p r ∧ (⟨i, r, .ok result⟩ : Handled) ∈ s.handled ∧ value = result.wire

/-- Requests and answers stay together: promises are settled once, by the client itself or by the
outcome of their own task; calls are made for different promises and sent under different ids;
responses go to the browser whose task they answer; and a closed browser has nothing outstanding. -/
structure Correlated (options : RealtimeGatewayOptions) (s : OpenClawBackedGateway) : Prop where
  once : ∀ c ∈ s.clients, (c.settled.map (·.1)).Nodup
  own : ∀ i c p result, s.clients[i]? = some c → (p, result) ∈ c.settled →
    (∃ e, result = .error (.client e)) ∨
      ∃ r outcome, s.TaskOf i p r ∧ s.Outcome i r outcome ∧
        result = settlement (responseTo outcome)
  resolved : if options.requestHandler then s.ResolvedByHandler else s.ResolvedUpstream
  single : ∀ i p m n, s.ForwardedFor i p m → s.ForwardedFor i p n → m = n
  apart : ∀ i p j q n, s.ForwardedFor i p n → s.ForwardedFor j q n → i = j ∧ p = q
  ids : (s.source.sent.map (·.id)).Nodup
  responses : ∀ i connection id result, s.gateway.connections[i]? = some connection →
    .res id result ∈ connection.sent → ∃ r task outcome, s.gateway.task? i r = some task ∧
      task.id = id ∧ s.Outcome i r outcome ∧ result = responseTo outcome
  closed : ∀ c ∈ s.clients, c.readyState = .closed →
    c.pending = [] ∧ ∀ p < c.requests.length, p ∈ c.settled.map (·.1)

theorem settlement_eq_ok {outcome : Except JsError JsValue} {value : JsValue}
    (h : settlement (responseTo outcome) = .ok value) :
    ∃ result, outcome = .ok result ∧ value = result.wire := by
  cases outcome with
  | ok result => exact ⟨result, rfl, (Except.ok.inj h).symm⟩
  | error e => cases h

section Guarantees

variable (h : s.Relayed uuids options)

include h

theorem Relayed.exists_exchange {i : ℕ} {c : RealtimeGatewayClient}
    (hc : s.clients[i]? = some c) :
    ∃ x, s.gateway.exchanges[i]? = some x ∧ Linked (s.Outcome i) c x := by
  have hlt := (List.getElem?_eq_some_iff.1 hc).1
  rw [h.length] at hlt
  exact ⟨_, List.getElem?_eq_getElem hlt, h.linked i c _ hc (List.getElem?_eq_getElem hlt)⟩

/-- The task of a promise is the only one, and tells its request. -/
theorem Relayed.taskOf_inj {i p q r k : ℕ} (hp : s.TaskOf i p r) (hq : s.TaskOf i q k) :
    p = q ↔ r = k := by
  obtain ⟨c, request, task, hc, hrequest, htask, hid⟩ := hp
  obtain ⟨c', request', task', hc', hrequest', htask', hid'⟩ := hq
  obtain rfl := Option.some.inj (hc.symm.trans hc')
  obtain ⟨x, hx, hlinked⟩ := h.exists_exchange hc
  rw [RealtimeGateway.task?_exchanges, hx] at htask htask'
  constructor
  · rintro rfl
    obtain rfl := Option.some.inj (hrequest.symm.trans hrequest')
    have hsame : task.id = task'.id := Option.some.inj (hid.symm.trans hid')
    have hids := (List.nodup_append.1 hlinked.ids).2.1
    rw [← List.filterMap_eq_map] at hids
    exact Keyed.index_eq_of_nodup_filterMap hids htask htask' rfl (congrArg some hsame.symm)
  · rintro rfl
    obtain rfl := Option.some.inj (htask.symm.trans htask')
    exact Keyed.index_eq_of_nodup_filterMap hlinked.consistent.ids hrequest hrequest' hid hid'

theorem Relayed.single {i p m n : ℕ} (hm : s.ForwardedFor i p m) (hn : s.ForwardedFor i p n) :
    m = n := by
  obtain ⟨r, hr, hpr⟩ := hm
  obtain ⟨k, hk, hpk⟩ := hn
  obtain rfl := (h.taskOf_inj hpr hpk).1 rfl
  have hsame := List.inj_on_of_nodup_map h.places hr hk rfl
  exact congrArg Forwarded.call hsame

theorem Relayed.apart {i p j q n : ℕ} (hp : s.ForwardedFor i p n) (hq : s.ForwardedFor j q n) :
    i = j ∧ p = q := by
  obtain ⟨r, hr, hpr⟩ := hp
  obtain ⟨k, hk, hqk⟩ := hq
  obtain ⟨-, rfl, rfl⟩ := Forwarded.mk.inj (List.inj_on_of_nodup_map h.calls hr hk rfl)
  exact ⟨rfl, (h.taskOf_inj hpr hqk).2 rfl⟩

/-- A promise is settled by the client or by the outcome of its task. -/
theorem Relayed.own {i p : ℕ} {c : RealtimeGatewayClient} {result : Except RequestFailure JsValue}
    (hc : s.clients[i]? = some c) (hsettled : (p, result) ∈ c.settled) :
    (∃ e, result = .error (.client e)) ∨
      ∃ r outcome, s.TaskOf i p r ∧ s.Outcome i r outcome ∧
        result = settlement (responseTo outcome) := by
  obtain ⟨x, hx, hlinked⟩ := h.exists_exchange hc
  refine (hlinked.settled _ hsettled).imp_right ?_
  rintro ⟨request, id, response, hrequest, hid, hresponse, hresult⟩
  obtain ⟨r, task, outcome, htask, houtcome, hanswer⟩ := hlinked.responses _ hresponse
  obtain ⟨rfl, rfl⟩ := Prod.mk.inj hanswer
  exact ⟨r, outcome, ⟨c, request, task, hc, hrequest,
    RealtimeGateway.task?_eq_some.2 ⟨x, hx, htask⟩, hid⟩, houtcome, hresult⟩

theorem Relayed.resolvedByHandler (hoption : options.requestHandler = true) :
    s.ResolvedByHandler := by
  have hhandler := h.handler
  rw [if_pos hoption] at hhandler
  intro i c p value hc hsettled
  rcases h.own hc hsettled with ⟨e, he⟩ | ⟨r, outcome, htask, houtcome, hvalue⟩
  · cases he
  · obtain ⟨result, rfl, rfl⟩ := settlement_eq_ok hvalue.symm
    rcases houtcome with hhandled | ⟨n, hn, -⟩
    · exact ⟨r, result, htask, hhandled, rfl⟩
    · rw [hhandler] at hn
      cases hn

/-- The request of a task, with its method and payload. -/
theorem Relayed.request_of_task {i p r : ℕ} (hp : s.TaskOf i p r) :
    ∃ c request task, s.clients[i]? = some c ∧ c.requests[p]? = some request ∧
      s.gateway.task? i r = some task ∧ request.method = task.method ∧
        task.payload = request.payload.wire := by
  obtain ⟨c, request, task, hc, hrequest, htask, hid⟩ := hp
  obtain ⟨x, hx, hlinked⟩ := h.exists_exchange hc
  have hr := htask
  rw [RealtimeGateway.task?_exchanges, hx] at hr
  obtain ⟨payload, hmem, hpayload⟩ := hlinked.tasks task (List.mem_of_getElem? hr)
  obtain rfl : request = ⟨some task.id, task.method, payload⟩ :=
    Keyed.eq_of_nodup_filterMap hlinked.consistent.ids (List.mem_of_getElem? hrequest) hmem hid rfl
  exact ⟨c, _, task, hc, hrequest, htask, rfl, hpayload⟩

/-- The answer to a call that was made for a task. -/
theorem Relayed.answeredUpstream {n i r : ℕ} {task : RequestTask} {value : JsValue}
    (hforwarded : (⟨n, i, r⟩ : Forwarded) ∈ s.forwarded) (htask : s.gateway.task? i r = some task)
    (hsettled : (n, .ok value) ∈ s.source.settled) :
    s.AnsweredUpstream n task.method task.payload value.wire := by
  obtain ⟨task', htask', hcall⟩ := h.forwarded _ hforwarded
  obtain rfl := Option.some.inj (htask.symm.trans htask')
  rcases h.accounted.settled n value hsettled with hsnapshot | hresolved
  · have hcall' := Option.some.inj (hcall.symm.trans hsnapshot)
    cases hcall'
  · obtain ⟨e, he, hwaiter, k, response, harrived, hresponse, hok, hvalue⟩ := hresolved
    obtain ⟨payload, hsent, hparams⟩ := h.accounted.sent e he n hwaiter
    obtain ⟨hmethod, hpayload⟩ := Prod.mk.inj
      (Option.some.inj (Option.some.inj (hsent.symm.trans hcall)))
    refine ⟨e, he, fun d hd => ⟨fun hdn => h.accounted.eq_of_call hd he hdn hwaiter, ?_⟩, hmethod,
      hparams.trans (congrArg JsValue.wire hpayload), k, response, harrived, hresponse, hok, ?_⟩
    · rintro rfl
      exact hwaiter
    · rw [hvalue]

theorem Relayed.resolvedUpstream (hoption : options.requestHandler = false) :
    s.ResolvedUpstream := by
  have hhandler := h.handler
  rw [hoption] at hhandler
  intro i c p value hc hsettled
  rcases h.own hc hsettled with ⟨e, he⟩ | ⟨r, outcome, htask, houtcome, hvalue⟩
  · cases he
  · obtain ⟨result, rfl, rfl⟩ := settlement_eq_ok hvalue.symm
    rcases houtcome with hhandled | ⟨n, hn, hresult⟩
    · rw [hhandler] at hhandled
      cases hhandled
    · obtain ⟨c', request, task, hc', hrequest, hr, hmethod, hpayload⟩ := h.request_of_task htask
      obtain rfl := Option.some.inj (hc.symm.trans hc')
      refine ⟨request, n, hrequest, ⟨r, hn, htask⟩, ?_⟩
      obtain ⟨e, he, hcall, hemethod, hparams, hresponse⟩ := h.answeredUpstream hn hr hresult
      rw [hpayload, JsValue.wire_wire] at hparams
      exact ⟨e, he, hcall, hemethod.trans hmethod.symm, hparams, hresponse⟩

/-- A response that was handed to a socket answers a task of that connection. -/
theorem Relayed.responses {i : ℕ} {connection : GatewayConnection} {id : String}
    {result : Except ResponseError JsValue}
    (hconnection : s.gateway.connections[i]? = some connection)
    (hsent : .res id result ∈ connection.sent) :
    ∃ r task outcome, s.gateway.task? i r = some task ∧ task.id = id ∧ s.Outcome i r outcome ∧
      result = responseTo outcome := by
  have hx : s.gateway.exchanges[i]? = some connection.exchange := by
    rw [RealtimeGateway.exchanges, List.getElem?_map, hconnection]
    rfl
  have hlt := (List.getElem?_eq_some_iff.1 hx).1
  rw [← h.length] at hlt
  have hlinked := h.linked i _ _ (List.getElem?_eq_getElem hlt) hx
  have hresponse : (id, result) ∈ connection.exchange.responses :=
    List.mem_filterMap.2 ⟨_, hsent, rfl⟩
  obtain ⟨r, task, outcome, htask, houtcome, hanswer⟩ := hlinked.responses _ hresponse
  obtain ⟨rfl, rfl⟩ := Prod.mk.inj hanswer
  exact ⟨r, task, outcome, RealtimeGateway.task?_eq_some.2 ⟨_, hx, htask⟩, rfl, houtcome, rfl⟩

theorem Relayed.consistent {c : RealtimeGatewayClient} (hc : c ∈ s.clients) : c.Consistent := by
  obtain ⟨i, hi⟩ := List.mem_iff_getElem?.1 hc
  obtain ⟨x, -, hlinked⟩ := h.exists_exchange hi
  exact hlinked.consistent

theorem Relayed.correlated : s.Correlated options where
  once c hc := (h.consistent hc).once
  own i c p result hc hsettled := h.own hc hsettled
  resolved := by
    split_ifs with hoption
    · exact h.resolvedByHandler hoption
    · exact h.resolvedUpstream (by simpa using hoption)
  single i p m n hm hn := h.single hm hn
  apart i p j q n hp hq := h.apart hp hq
  ids := h.accounted.ids
  responses i connection id result hconnection hsent := h.responses hconnection hsent
  closed c hc hclosed :=
    ⟨(h.consistent hc).closed hclosed, (h.consistent hc).all_settled hclosed⟩

end Guarantees

/-- A response from upstream settles no call but its own, and the close of a browser's socket
rejects every promise that was not settled before. -/
def AnswersOwn (uuids : RandomUuids) (options : RealtimeGatewayOptions)
    (openclaw : OpenClawGatewaySourceOptions) (s : OpenClawBackedGateway) (step : RelayStep) :
    Prop :=
  let t := s.step uuids options openclaw step
  match step with
  | .source (.received k _ _) =>
    ∀ message response, s.source.connections[k]?.bind (·.next?) = some (message, some response) →
      ∀ e ∈ s.source.sent, IsResponseTo e.id response → ∀ n, e.waiter = .call n →
        ∃ results, t.source.settled = s.source.settled ++ results ∧ ∀ x ∈ results, x.1 = n
  | .client i .closed =>
    ∀ c, s.clients[i]? = some c → ∀ p < c.requests.length, p ∉ c.settled.map (·.1) →
      ∃ d error, t.clients[i]? = some d ∧ (p, .error error) ∈ d.settled
  | _ => True

theorem Relayed.answersOwn (h : s.Relayed uuids options) (step : RelayStep) :
    s.AnswersOwn uuids options openclaw step := by
  unfold AnswersOwn
  dsimp only
  split
  · next k clock reaction =>
    intro message response hnext e he hresponse n hwaiter
    exact OpenClawGatewaySource.settled_receive openclaw clock reaction h.accounted hnext he
      hresponse hwaiter
  · next i =>
    intro c hc p hp hunsettled
    have hclient : (s.step uuids options openclaw (.client i .closed)).clients[i]? =
        some c.closed := by
      show (s.clients.modify i (·.closed))[i]? = _
      rw [List.getElem?_modify, hc]
      simp
    obtain ⟨error, herror⟩ := (h.consistent (List.mem_of_getElem? hc)).rejected hp hunsettled
    exact ⟨c.closed, error, hclient, herror⟩
  · trivial

/-- In every run, requests and answers stay together. -/
theorem requests_correlated (uuids : RandomUuids) (options : RealtimeGatewayOptions)
    (openclaw : OpenClawGatewaySourceOptions) (steps : List RelayStep) :
    Always (step uuids options openclaw) (Correlated options) initial steps ∧
      Each (step uuids options openclaw) (AnswersOwn uuids options openclaw) initial steps := by
  have hrelayed : Always (step uuids options openclaw) (Relayed uuids options) initial steps :=
    @Always.of_step _ _ (step uuids options openclaw) (Relayed uuids options)
      (fun _ event h => relayed_step event h) _ relayed_initial steps
  exact ⟨hrelayed.imp fun _ h => h.correlated, hrelayed.each fun _ event h => h.answersOwn event⟩

/-- With a request handler in the options, a promise resolves though nothing was sent upstream. -/
theorem resolved_by_handler :
    ¬ Always
      (step .counting ⟨"workspace-1", none, none, none, false, true, false, false⟩ .default)
      ResolvedUpstream initial
      [.connect ⟨none, none, none⟩, .client 0 .opened,
        .client 0 (.request 0 "chat.history" .undefined), .arrive 0 0,
        .handle 0 0 (.ok (.str "history")), .deliver 0 0] := by
  intro h
  have hlast := (always_iff_run _ ResolvedUpstream initial _).1 h _ [] (List.append_nil _).symm
  obtain ⟨request, n, -, ⟨r, hr, -⟩, -⟩ :=
    hlast 0 _ 0 (.str "history") rfl (List.mem_singleton.2 rfl)
  cases hr

end OpenClawBackedGateway

end Vertx
