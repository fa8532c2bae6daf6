import Vertx.Adapter.Requests

/-!
# The promises of upstream requests

A request that was sent is settled by the first response with its id, by its timer or by `close`,
whichever comes first.
-/

namespace Vertx

open Runs

namespace OpenClawGatewaySource

variable {uuids : RandomUuids} {l₀ : Ledger} {s : OpenClawGatewaySource}
  (options : OpenClawGatewaySourceOptions)

/-! ## The property -/

instance (id : String) (message : JsValue) : Decidable (IsResponseTo id message) :=
  decidable_of_iff
    (message.isObject = true ∧ message.field "type" = .str "res" ∧ message.field "id" = .str id)
    ⟨fun h => ⟨h.1, h.2.1, h.2.2⟩, fun h => ⟨h.isObject, h.type, h.id⟩⟩

/-- The settlements of a call. -/
def answers (n : ℕ) (s : OpenClawGatewaySource) : List (Except JsError JsValue) :=
  (s.settled.filter (·.1 = n)).map (·.2)

/-- The message that arrives next on the `k`-th socket. -/
def nextMessage (k : ℕ) (s : OpenClawGatewaySource) : Option (ℕ × Option JsValue) :=
  s.connections[k]?.bind (·.next?)

/-- A message that arrives and changes nothing else. -/
def discard (k : ℕ) (raw : Option JsValue) (s : OpenClawGatewaySource) : OpenClawGatewaySource :=
  { s with arrived := s.arrived ++ [(k, raw)] }.modifyConnection k fun c =>
    { c with inbox := c.inbox.tail }

/-- What a step settles a request with that has not been settled: a response with its id, the end
of its timer or the closing of the source. -/
def verdict (e : SentRequest) (s : OpenClawGatewaySource) :
    SourceStep → Option (Except JsError JsValue)
  | .received k _ _ =>
    match s.nextMessage k with
    | some (_, some response) =>
      if IsResponseTo e.id response then responseResult? e.method response else none
    | _ => none
  | .timeout number =>
    if s.requestTimers.any fun t => t.number = number ∧ t.id = e.id then
      some (.error (.error ("openclaw request timed out: " ++ e.method)))
    else none
  | .close => some (.error (.error "openclaw gateway source closed"))
  | _ => none

/-- The request is not settled: it has one entry, and the timer of the entry is armed. -/
def Outstanding (e : SentRequest) (n : ℕ) (s : OpenClawGatewaySource) : Prop :=
  s.answers n = [] ∧ ∃ timer,
    s.pending.filter (·.id = e.id) = [⟨e.id, e.method, e.waiter, timer⟩] ∧
    s.requestTimers.filter (·.id = e.id) = [⟨timer, e.id, e.method, e.waiter⟩]

/-- The request is settled once, and has neither entry nor timer. -/
def SettledOnce (e : SentRequest) (n : ℕ) (s : OpenClawGatewaySource) : Prop :=
  (∃ result, s.answers n = [result]) ∧ (∀ p ∈ s.pending, p.id ≠ e.id) ∧
    ∀ t ∈ s.requestTimers, t.id ≠ e.id

/-- Every request of a call is outstanding or settled. -/
def NothingLeft (s : OpenClawGatewaySource) : Prop :=
  ∀ e ∈ s.sent, ∀ n, e.waiter = .call n → s.Outstanding e n ∨ s.SettledOnce e n

/-- A request that is sent is not settled at once, an outstanding one is settled by the step's
verdict, if there is one, and a settled one stays as it is; a response to it has no effect. -/
def SettlesOnce (uuids : RandomUuids) (options : OpenClawGatewaySourceOptions)
    (s : OpenClawGatewaySource) (step : SourceStep) : Prop :=
  ∀ e ∈ (s.step uuids options step).sent, ∀ n, e.waiter = .call n →
    (e ∉ s.sent → (s.step uuids options step).answers n = []) ∧
    (e ∈ s.sent → (s.step uuids options step).answers n =
      if s.answers n = [] then (s.verdict e step).toList else s.answers n) ∧
    (e ∈ s.sent → s.answers n ≠ [] → ∀ k clock reaction message response,
      step = .received k clock reaction → s.nextMessage k = some (message, some response) →
      IsResponseTo e.id response → s.step uuids options step = s.discard k (some response))

/-- A response that arrives and is not ok has an error message that is a text, or that a text can be
made of. -/
def ErrorsPrintable (s : OpenClawGatewaySource) : SourceStep → Prop
  | .received k _ _ => ∀ message response, s.nextMessage k = some (message, some response) →
      response.field "type" = .str "res" → (response.field "ok").truthy ∨
        ((response.field "error").field "message").unprintable = false
  | _ => True

/-! ## One step -/

theorem answers_eq_nil {n : ℕ} : s.answers n = [] ↔ ¬ s.requests.Settled n := by
  simp only [answers, List.map_eq_nil_iff, List.filter_eq_nil_iff, decide_eq_true_eq,
    Requests.Settled, requests, List.mem_map, not_exists, not_and]

/-- Of a call that is settled once. -/
theorem answers_eq_singleton (h : s.requests.Paired) {n : ℕ} {result : Except JsError JsValue}
    (hmem : (n, result) ∈ s.settled) : s.answers n = [result] := by
  have hfilter : s.settled.filter (·.1 = n) = [(n, result)] :=
    Keyed.filter_eq_singleton Prod.fst h.once hmem
  rw [answers, hfilter]
  rfl

theorem exists_answer {n : ℕ} (h : s.answers n ≠ []) : ∃ result, (n, result) ∈ s.settled := by
  obtain ⟨result, hmem⟩ := List.exists_mem_of_ne_nil _ h
  obtain ⟨⟨m, y⟩, hm, rfl⟩ := List.mem_map.1 hmem
  obtain ⟨hmem, hn⟩ := List.mem_filter.1 hm
  exact ⟨y, by simpa [← (of_decide_eq_true hn)] using hmem⟩

theorem nothingLeft (h : s.requests.Paired) (hdistinct : s.requests.Distinct) : s.NothingLeft := by
  intro e he n hn
  have hsent := h.sent e he n hn
  by_cases hs : s.requests.Settled n
  · have hnone := hsent.1 hs
    refine Or.inr ⟨?_, fun p hp hid => hnone (List.mem_map.2 ⟨p, hp, hid⟩), fun t ht hid => ?_⟩
    · obtain ⟨result, hmem⟩ := exists_answer (mt answers_eq_nil.1 (not_not.2 hs))
      exact ⟨result, answers_eq_singleton h hmem⟩
    · have htimers : s.requestTimers = s.pending.map (·.requestTimer) := h.timers
      rw [htimers] at ht
      obtain ⟨p, hp, rfl⟩ := List.mem_map.1 ht
      exact hnone (List.mem_map.2 ⟨p, hp, hid⟩)
  · refine Or.inl ⟨answers_eq_nil.2 hs, ?_⟩
    rw [hsent, not_not] at hs
    obtain ⟨p, hp, hid⟩ := List.mem_map.1 hs
    obtain ⟨d, hd, hdid, hmethod, hwaiter⟩ := h.known p hp
    obtain rfl := hdistinct.eq_of_id hd he (hdid.trans hid)
    have hentry : s.pending.filter (·.id = d.id) = [p] := by
      rw [← hid]
      exact Keyed.filter_eq_singleton OpenClawPendingRequest.id h.ids hp
    have htimer : s.requestTimers.filter (·.id = d.id) = [p.requestTimer] := by
      rw [show s.requestTimers = s.pending.map (·.requestTimer) from h.timers, List.filter_map]
      exact congrArg (List.map _) hentry
    rw [hentry, htimer, hdid, hmethod, hwaiter]
    exact ⟨p.timer, rfl, rfl⟩

/-- What a step does to the requests of a source: it leaves those that have been sent alone,
finishes one of them with the step's verdict, or finishes all. -/
inductive Effect (s : OpenClawGatewaySource) (step : SourceStep) (r : Requests) : Prop
  | quiet (hnone : ∀ e ∈ s.sent, e.id ∈ s.pending.map (·.id) → s.verdict e step = none)
      (h : s.requests.Quiet r)
  | one {p : OpenClawPendingRequest} {result : Except JsError JsValue} (hp : p ∈ s.pending)
      (hverdict : ∀ e ∈ s.sent, e.method = p.method ∨ e.id ≠ p.id →
        s.verdict e step = if e.id = p.id then some result else none)
      (h : (s.requests.finish p result).Quiet r)
  | all {result : Except JsError JsValue} (hverdict : ∀ e, s.verdict e step = some result)
      (h : r = s.requests.finishAll result)

/-- A step that neither brings a message nor ends a timer nor closes the source. -/
theorem effect_of_quiet {step : SourceStep} {r : Requests} (h : s.requests.Quiet r)
    (hnone : ∀ e, s.verdict e step = none) : s.Effect step r :=
  .quiet (fun e _ _ => hnone e) h

theorem effect_receive (h : s.requests.Paired) (ha : s.ledger.Accounted uuids l₀) (k : ℕ)
    (clock : Clock) (reaction : ℕ → RealtimeSourceEvent → Option JsError)
    (hok : s.ErrorsPrintable (.received k clock reaction)) :
    s.Effect (.received k clock reaction)
      (s.receive uuids options k clock reaction).requests := by
  unfold receive
  cases hnext : s.connections[k]?.bind (·.next?) with
  | none => exact effect_of_quiet h.quiet fun e => by simp [verdict, nextMessage, hnext]
  | some next =>
    obtain ⟨message, raw⟩ := next
    dsimp only
    change s.Effect _ (runHandler (handleMessage uuids options k message clock reaction raw)
      (s.discard k raw)).requests
    have hrun (x : JsM OpenClawGatewaySource Unit) (t : OpenClawGatewaySource) :
        (runHandler x t).requests = (x.stateAfter t).requests := by
      unfold runHandler JsM.stateAfter
      cases x.run t <;> rfl
    have hpaired : (s.discard k raw).requests.Paired := h
    have haccounted : (s.discard k raw).ledger.Accounted uuids l₀ := ha.arrive (k, raw)
    have hdiscard : (s.discard k raw).requests = s.requests := rfl
    rw [hrun]
    have hnone (htype : ∀ parsed ∈ raw, parsed.field "type" ≠ .str "res") (e : SentRequest) :
        s.verdict e (.received k clock reaction) = none := by
      cases raw with
      | none => simp [verdict, nextMessage, hnext]
      | some parsed =>
        simp only [verdict, nextMessage, hnext]
        rw [if_neg fun hresponse => htype parsed rfl hresponse.type]
    have hevent {parsed : JsValue} (hraw : raw = some parsed)
        (htype : parsed.field "type" = .str "event") (e : SentRequest) :
        s.verdict e (.received k clock reaction) = none := by
      refine hnone ?_ e
      rw [hraw]
      rintro _ ⟨⟩
      rw [htype]
      decide
    have heffect := (s.discard k raw).handleMessage_cases uuids options k message clock reaction raw
    generalize (handleMessage uuids options k message clock reaction raw).stateAfter
      (s.discard k raw) = t at heffect ⊢
    cases heffect with
    | dropped _ htype => exact effect_of_quiet hpaired.quiet (hnone htype)
    | challenge htype =>
      exact effect_of_quiet (quiet_sendConnectRequest options hpaired haccounted k)
        (hevent rfl htype)
    | event _ _ htype => exact effect_of_quiet hpaired.quiet (hevent rfl htype)
    | @response parsed htype =>
      have hverdict (e : SentRequest) : s.verdict e (.received k clock reaction) =
          if IsResponseTo e.id parsed then responseResult? e.method parsed else none := by
        simp only [verdict, nextMessage, hnext]
      rcases requests_handleResponse options hpaired haccounted k
          (hok message parsed hnext htype) with
        ⟨hmissing, heq⟩ | ⟨p, hp, hid, result, hresult, hquiet⟩
      · rw [heq]
        refine .quiet (fun e _ hmem => ?_) hpaired.quiet
        obtain ⟨p, hp, hpid⟩ := List.mem_map.1 hmem
        rw [hverdict, if_neg fun hresponse => hmissing p hp (by rw [hpid]; exact hresponse.id)]
      · refine .one hp (fun e he hmethod => ?_) hquiet
        rw [hverdict]
        have hiff : IsResponseTo e.id parsed ↔ e.id = p.id := by
          constructor
          · intro hresponse
            exact JsValue.str.inj (hresponse.id.symm.trans hid)
          · intro heq
            exact ⟨JsValue.isObject_of_field htype, htype, by rw [heq]; exact hid⟩
        simp only [hiff]
        split_ifs with heq
        · rw [hmethod.resolve_right (not_not.2 heq)]
          exact hresult
        · rfl

theorem verdict_of_misses {step : SourceStep} (h : s.Misses step) (e : SentRequest) :
    s.verdict e step = none := by
  cases step with
  | timeout number =>
    have hfind : s.requestTimers.find? (·.number = number) = none := h
    simp only [List.find?_eq_none, decide_eq_true_eq] at hfind
    simpa [verdict] using fun t ht hn => absurd hn (hfind t ht)
  | resume | errored | closed | reconnect => rfl
  | _ => exact h.elim

theorem effect_step (h : s.requests.Paired) (ha : s.ledger.Accounted uuids l₀) (step : SourceStep)
    (hok : s.ErrorsPrintable step) :
    s.Effect step (s.step uuids options step).requests := by
  have heffect := s.step_cases uuids options step
  generalize s.step uuids options step = t at heffect ⊢
  cases heffect with
  | idle hmisses => exact effect_of_quiet h.quiet (verdict_of_misses hmisses)
  | subscribe | reconnect => exact effect_of_quiet (quiet_subscription h rfl) fun _ => rfl
  | request | getSnapshot => exact effect_of_quiet (quiet_call h rfl _) fun _ => rfl
  | close => exact .all (fun _ => rfl) (requests_close h)
  | @resume i awaited call result hi =>
    exact effect_of_quiet (quiet_resume h ha hi result) fun _ => rfl
  | received k clock reaction => exact effect_receive options h ha k clock reaction hok
  | @closed k =>
    have hnone (e : SentRequest) : s.verdict e (.closed k) = none := rfl
    unfold handleClose
    dsimp only
    split_ifs
    · exact effect_of_quiet h.quiet_timer hnone
    · exact effect_of_quiet h.quiet hnone
  | @timeout number timer hfind =>
    have htimer := List.mem_of_find?_eq_some hfind
    have hnumber : timer.number = number := by simpa using List.find?_some hfind
    obtain ⟨p, hp, rfl, hrequests⟩ := requests_timeout h htimer
    have hfinished := (h.finish (distinct_requests ha) hp
      (.error (.error ("openclaw request timed out: " ++ p.method)))).quiet
    rw [hrequests]
    refine .one hp (fun e he hmethod => ?_) hfinished
    have hany : s.requestTimers.any (fun t => t.number = number ∧ t.id = e.id) ↔
        e.id = p.id := by
      simp only [List.any_eq_true, decide_eq_true_eq]
      constructor
      · rintro ⟨t, ht, hn, hid⟩
        rw [show s.requestTimers = s.pending.map (·.requestTimer) from h.timers] at ht
        obtain ⟨q, hq, rfl⟩ := List.mem_map.1 ht
        have hqp : q = p := List.inj_on_of_nodup_map h.numbers hq hp (hn.trans hnumber.symm)
        rw [← hid, ← hqp]
        rfl
      · exact fun hid => ⟨p.requestTimer, htimer, hnumber, hid.symm⟩
    simp only [verdict, hany]
    split_ifs with heq
    · rw [hmethod.resolve_right (not_not.2 heq)]
    · rfl
  | unsubscribe | opened | errored | closing | send | broadcast =>
    exact effect_of_quiet h.quiet fun _ => rfl

/-- What an effect leaves. -/
theorem Effect.paired {step : SourceStep} {r : Requests} (heffect : s.Effect step r)
    (h : s.requests.Paired) (hdistinct : s.requests.Distinct) : r.Paired := by
  cases heffect with
  | quiet _ hquiet => exact hquiet.paired
  | one _ _ hquiet => exact hquiet.paired
  | all _ heq => exact heq ▸ h.finishAll hdistinct _

/-- A request that is settled stays as it is, and an outstanding one is settled by the verdict. -/
theorem Effect.answers {step : SourceStep} {t : OpenClawGatewaySource}
    (heffect : s.Effect step t.requests) (h : s.requests.Paired)
    (hdistinct : s.requests.Distinct) {e : SentRequest} (he : e ∈ s.sent) {n : ℕ}
    (hn : e.waiter = .call n) :
    t.answers n = if s.answers n = [] then (s.verdict e step).toList else s.answers n := by
  have hpaired := heffect.paired h hdistinct
  have hfirst : s.settled <+: t.settled := by
    cases heffect with
    | quiet _ hquiet => exact hquiet.settled
    | one _ _ hquiet => exact (List.prefix_append _ _).trans hquiet.settled
    | all _ heq =>
      rw [show t.settled = t.requests.settled from rfl, heq]
      exact List.prefix_append _ _
  split_ifs with hnil
  · have hunsettled := answers_eq_nil.1 hnil
    have hpending : e.id ∈ s.pending.map (·.id) := by
      by_contra hnot
      exact hunsettled ((h.sent e he n hn).2 hnot)
    cases heffect with
    | quiet hnone hquiet =>
      rw [hnone e he hpending]
      exact answers_eq_nil.2 fun hs => hunsettled (hquiet.kept e he n hn hs)
    | @one p result hp hverdict hquiet =>
      obtain ⟨d, hd, hdid, hmethod, hwaiter⟩ := h.known p hp
      by_cases hid : e.id = p.id
      · obtain rfl := hdistinct.eq_of_id hd he (hdid.trans hid.symm)
        rw [hverdict d he (Or.inl hmethod), if_pos hid]
        refine answers_eq_singleton hpaired (hquiet.settled.subset ?_)
        exact List.mem_append_right _ (Requests.mem_settlement.2 ⟨hwaiter.symm.trans hn, rfl⟩)
      · rw [hverdict e he (Or.inr hid), if_neg hid]
        refine answers_eq_nil.2 fun hs => hunsettled ?_
        rcases Requests.Paired.settled_finish.1 (hquiet.kept e he n hn hs) with hs | hw
        · exact hs
        · have hde := hdistinct.eq_of_call hd he (hwaiter.trans hw) hn
          exact absurd (hde ▸ hdid) hid
    | all hverdict heq =>
      obtain ⟨p, hp, hid⟩ := List.mem_map.1 hpending
      obtain ⟨d, hd, hdid, hmethod, hwaiter⟩ := h.known p hp
      obtain rfl := hdistinct.eq_of_id hd he (hdid.trans hid)
      rw [hverdict d]
      refine answers_eq_singleton hpaired ?_
      rw [show t.settled = t.requests.settled from rfl, heq]
      refine List.mem_append_right _ (List.mem_flatMap.2 ⟨p, hp, ?_⟩)
      exact Requests.mem_settlement.2 ⟨hwaiter.symm.trans hn, rfl⟩
  · obtain ⟨result, hmem⟩ := exists_answer hnil
    rw [answers_eq_singleton h hmem]
    exact answers_eq_singleton hpaired (hfirst.subset hmem)

theorem Effect.new {step : SourceStep} {t : OpenClawGatewaySource}
    (heffect : s.Effect step t.requests) {e : SentRequest} (he : e ∈ t.sent) (hnew : e ∉ s.sent)
    {n : ℕ} (hn : e.waiter = .call n) : t.answers n = [] := by
  rw [answers_eq_nil]
  cases heffect with
  | quiet _ hquiet => exact (hquiet.new e he).resolve_left hnew n hn
  | one _ _ hquiet => exact (hquiet.new e he).resolve_left hnew n hn
  | all _ heq =>
    have hsent : t.sent = s.sent := congrArg Requests.sent heq
    exact absurd (hsent ▸ he) hnew

/-- A response to a request that has been settled. -/
theorem receive_settled (h : s.requests.Paired) {e : SentRequest} (he : e ∈ s.sent) {n : ℕ}
    (hn : e.waiter = .call n) (hsettled : s.answers n ≠ []) {k message : ℕ} {response : JsValue}
    (clock : Clock) (reaction : ℕ → RealtimeSourceEvent → Option JsError)
    (hnext : s.nextMessage k = some (message, some response))
    (hresponse : IsResponseTo e.id response) :
    s.receive uuids options k clock reaction = s.discard k (some response) := by
  have hmissing := (h.sent e he n hn).1 (not_not.1 (mt answers_eq_nil.2 hsettled))
  have hfind : (s.discard k (some response)).pending.find?
      (fun p => response.field "id" = .str p.id) = none := by
    refine List.find?_eq_none.2 fun p hp hid => hmissing (List.mem_map.2 ⟨p, hp, ?_⟩)
    rw [hresponse.id] at hid
    exact (JsValue.str.inj (of_decide_eq_true hid)).symm
  have hevent : response.field "type" ≠ .str "event" := by
    rw [hresponse.type]
    decide
  unfold receive
  rw [show s.connections[k]?.bind (·.next?) = some (message, some response) from hnext]
  dsimp only
  change runHandler (handleMessage uuids options k message clock reaction (some response))
    (s.discard k (some response)) = _
  simp only [handleMessage, hresponse.isObject, not_true_eq_false, if_false, if_neg hevent,
    if_pos hresponse.type, runHandler, EStateM.run, handleResponse, hfind]

theorem paired_initial : initial.requests.Paired where
  timers := rfl
  ids := List.nodup_nil
  numbers := List.nodup_nil
  made := nofun
  known := nofun
  once := List.nodup_nil
  unsent := nofun
  sent := nofun
  called := nofun

/-- In every run in which the errors of responses are texts, or have texts made of them: each
request is outstanding, with one entry and one armed timer, or settled once, with neither; and each
step settles exactly the outstanding requests that it has a verdict on. -/
theorem requests_settle_once (uuids : RandomUuids) (options : OpenClawGatewaySourceOptions)
    (steps : List SourceStep) (h : Each (step uuids options) ErrorsPrintable initial steps) :
    Always (step uuids options) NothingLeft initial steps ∧
      Each (step uuids options) (SettlesOnce uuids options) initial steps := by
  have hinitial : initial.requests.Paired ∧ initial.ledger.Accounted uuids initial.ledger :=
    ⟨paired_initial, accounted_initial uuids⟩
  have hkeep (s : OpenClawGatewaySource) (step : SourceStep)
      (hs : s.requests.Paired ∧ s.ledger.Accounted uuids initial.ledger)
      (hok : s.ErrorsPrintable step) :
      (s.step uuids options step).requests.Paired ∧
        (s.step uuids options step).ledger.Accounted uuids initial.ledger :=
    ⟨(effect_step options hs.1 hs.2 step hok).paired hs.1 (distinct_requests hs.2),
      accounted_step options step hs.2⟩
  have hleft (s : OpenClawGatewaySource)
      (hs : s.requests.Paired ∧ s.ledger.Accounted uuids initial.ledger) : s.NothingLeft :=
    nothingLeft hs.1 (distinct_requests hs.2)
  have hsettles (s : OpenClawGatewaySource) (step : SourceStep)
      (hs : s.requests.Paired ∧ s.ledger.Accounted uuids initial.ledger)
      (hok : s.ErrorsPrintable step) : s.SettlesOnce uuids options step := by
    have heffect := effect_step options hs.1 hs.2 step hok
    refine fun e he n hn => ⟨fun hnew => heffect.new he hnew hn,
      fun hold => heffect.answers hs.1 (distinct_requests hs.2) hold hn, ?_⟩
    rintro hold hsettled k clock reaction message response rfl hnext hresponse
    exact receive_settled options hs.1 hold hn hsettled clock reaction hnext hresponse
  exact ⟨(Always.of_each hkeep hinitial h).imp hleft, Each.of_each hkeep hsettles hinitial h⟩

/-- A call is sent and upstream refuses it. -/
theorem requests_settle_once_refused :
    Always (step .counting .default) NothingLeft initial
        [.request "chat.history" (.obj []), .opened 0,
          .send 0 (some (.obj [("type", .str "event"), ("event", .str "connect.challenge")])),
          .received 0 (fun _ => 0) (fun _ _ => none),
          .send 0 (some (.obj [("type", .str "res"), ("id", .str "connect:0"), ("ok", .bool true),
            ("payload", .obj [])])),
          .received 0 (fun _ => 0) (fun _ _ => none), .resume 0,
          .send 0 (some (.obj [("type", .str "res"), ("id", .str "chat.history:2"),
            ("ok", .bool false), ("error", .obj [("message", .str "busy")])])),
          .received 0 (fun _ => 0) (fun _ _ => none)] ∧
      Each (step .counting .default) (SettlesOnce .counting .default) initial
        [.request "chat.history" (.obj []), .opened 0,
          .send 0 (some (.obj [("type", .str "event"), ("event", .str "connect.challenge")])),
          .received 0 (fun _ => 0) (fun _ _ => none),
          .send 0 (some (.obj [("type", .str "res"), ("id", .str "connect:0"), ("ok", .bool true),
            ("payload", .obj [])])),
          .received 0 (fun _ => 0) (fun _ _ => none), .resume 0,
          .send 0 (some (.obj [("type", .str "res"), ("id", .str "chat.history:2"),
            ("ok", .bool false), ("error", .obj [("message", .str "busy")])])),
          .received 0 (fun _ => 0) (fun _ _ => none)] := by
  refine requests_settle_once .counting .default _ ⟨trivial, trivial, trivial, ?_, trivial, ?_,
    trivial, trivial, ?_, trivial⟩
  · intro message response h _
    obtain rfl : _ = response := Option.some.inj (congrArg (fun x => x.2) (Option.some.inj h))
    exact Or.inr rfl
  · intro message response h _
    obtain rfl : _ = response := Option.some.inj (congrArg (fun x => x.2) (Option.some.inj h))
    exact Or.inr rfl
  · intro message response h _
    obtain rfl : _ = response := Option.some.inj (congrArg (fun x => x.2) (Option.some.inj h))
    exact Or.inr rfl

/-- Upstream refuses a call with an error message that no text can be made of: the entry and the
timer are gone, and the promise is not settled. -/
theorem unprintable_error_never_settles :
    ¬ Always (step .counting .default) NothingLeft initial
        [.request "chat.history" (.obj []), .opened 0,
          .send 0 (some (.obj [("type", .str "event"), ("event", .str "connect.challenge")])),
          .received 0 (fun _ => 0) (fun _ _ => none),
          .send 0 (some (.obj [("type", .str "res"), ("id", .str "connect:0"), ("ok", .bool true),
            ("payload", .obj [])])),
          .received 0 (fun _ => 0) (fun _ _ => none), .resume 0,
          .send 0 (some (.obj [("type", .str "res"), ("id", .str "chat.history:2"),
            ("ok", .bool false), ("error", .obj [("message", .obj [("toString", .null)])])])),
          .received 0 (fun _ => 0) (fun _ _ => none)] := by
  intro h
  have hlast := (always_iff_run _ _ _ _).1 h _ [] (List.append_nil _).symm
  generalize hrun : run (OpenClawGatewaySource.step .counting .default) initial _ = s at hlast
  have hsent : s.sent.any (fun e => e.id = "chat.history:2" ∧ e.waiter = .call 0) := by
    rw [← hrun]
    decide +kernel
  have hpending : s.pending.all (fun p => p.id ≠ "chat.history:2") := by
    rw [← hrun]
    decide +kernel
  have hsettled : s.settled.isEmpty := by
    rw [← hrun]
    decide +kernel
  obtain ⟨e, he, hcall⟩ := List.any_eq_true.1 hsent
  obtain ⟨hid, hn⟩ := of_decide_eq_true hcall
  rcases hlast e he 0 hn with ⟨-, timer, hentry, -⟩ | ⟨⟨result, hanswers⟩, -⟩
  · have hp := List.mem_filter.1 (hentry ▸ List.mem_singleton_self _)
    have hnot := List.all_eq_true.1 hpending _ hp.1
    exact of_decide_eq_true hnot hid
  · rw [answers, List.isEmpty_iff.1 hsettled] at hanswers
    cases hanswers

end OpenClawGatewaySource

end Vertx
