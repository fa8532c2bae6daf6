import Vertx.Gateway.Correlation
import Vertx.Js.Schema

/-!
# The requests of the page and upstream's schemas

The requests that the session hook issues reach upstream with the method and payload they were
issued with.  Upstream's chat handlers validate the parameters: they accept the request for the
history, but `chat.send` wants a text and an idempotency key where the hook sends an object and
none, and there is no handler named `chat.stop`.
-/

namespace Vertx

open Runs JsonSchema

/-! ## Upstream -/

def nonEmptyString : JsonSchema := string 1 none

def chatSendSessionKeyString : JsonSchema := string 1 (some 512)

def inputProvenanceSchema : JsonSchema := .object [
  ("kind", .enum ["external_user", "inter_session", "internal_system"]),
  ("originSessionId", .optional anyString),
  ("sourceSessionKey", .optional anyString),
  ("sourceChannel", .optional anyString),
  ("sourceTool", .optional anyString)]

def chatHistoryParamsSchema : JsonSchema := .object [
  ("sessionKey", nonEmptyString),
  ("limit", .optional (.integer 1 (some 1000))),
  ("maxChars", .optional (.integer 1 (some 500000)))]

def chatSendParamsSchema : JsonSchema := .object [
  ("sessionKey", chatSendSessionKeyString),
  ("message", anyString),
  ("thinking", .optional anyString),
  ("deliver", .optional .boolean),
  ("originatingChannel", .optional anyString),
  ("originatingTo", .optional anyString),
  ("originatingAccountId", .optional anyString),
  ("originatingThreadId", .optional anyString),
  ("attachments", .optional (.array .unknown)),
  ("timeoutMs", .optional (.integer 0 none)),
  ("systemInputProvenance", .optional inputProvenanceSchema),
  ("systemProvenanceReceipt", .optional anyString),
  ("idempotencyKey", nonEmptyString)]

def chatAbortParamsSchema : JsonSchema := .object [
  ("sessionKey", nonEmptyString),
  ("runId", .optional nonEmptyString)]

def chatInjectParamsSchema : JsonSchema := .object [
  ("sessionKey", nonEmptyString),
  ("message", nonEmptyString),
  ("label", .optional (string 0 (some 100)))]

/-- The methods of `chatHandlers` with the schemas of their parameters. -/
def chatHandlers : List (String × JsonSchema) := [
  ("chat.history", chatHistoryParamsSchema),
  ("chat.abort", chatAbortParamsSchema),
  ("chat.send", chatSendParamsSchema),
  ("chat.inject", chatInjectParamsSchema)]

/-- There is a handler for the method and its schema accepts the parameters. -/
def acceptedUpstream (method : String) (params : JsValue) : Bool :=
  (chatHandlers.find? (·.1 = method)).any (·.2.accepts params)

/-! ## The hook -/

/-- A request of `useSessionRealtime`, which `loadHistory`, `submitTask` or `stopTask` issues. -/
inductive HookRequest
  | loadHistory (sessionKey : String)
  | submitTask (sessionKey text : String)
  | stopTask (sessionKey runId : String)

namespace HookRequest

def method : HookRequest → String
  | loadHistory _ => "chat.history"
  | submitTask _ _ => "chat.send"
  | stopTask _ _ => "chat.stop"

def payload : HookRequest → JsValue
  | loadHistory sessionKey =>
    .obj [("sessionKey", .str sessionKey), ("limit", .num (.ofNat 50))]
  | submitTask sessionKey text =>
    .obj [("sessionKey", .str sessionKey), ("message", .obj [("text", .str text)]),
      ("deliver", .bool true)]
  | stopTask sessionKey runId => .obj [("sessionKey", .str sessionKey), ("runId", .str runId)]

def sessionKey : HookRequest → String
  | loadHistory key | submitTask key _ | stopTask key _ => key

def isLoadHistory : HookRequest → Bool
  | loadHistory _ => true
  | submitTask _ _ | stopTask _ _ => false

/-- The payload is JSON as it is. -/
theorem wire_payload (request : HookRequest) : request.payload.wire = request.payload := by
  cases request <;> rfl

end HookRequest

theorem acceptedUpstream_history (params : JsValue) :
    acceptedUpstream "chat.history" params = chatHistoryParamsSchema.accepts params := by
  simp [acceptedUpstream, chatHandlers]

theorem acceptedUpstream_send (params : JsValue) :
    acceptedUpstream "chat.send" params = chatSendParamsSchema.accepts params := by
  simp [acceptedUpstream, chatHandlers]

theorem acceptedUpstream_stop (params : JsValue) : acceptedUpstream "chat.stop" params = false := by
  simp [acceptedUpstream, chatHandlers]

/-- Upstream accepts the request of the history, and no other one. -/
theorem acceptedUpstream_iff {request : HookRequest} (hkey : 1 ≤ request.sessionKey.length) :
    acceptedUpstream request.method request.payload ↔ request.isLoadHistory := by
  cases request with
  | loadHistory sessionKey =>
    refine iff_of_true ?_ rfl
    have hsession : nonEmptyString.accepts (.str sessionKey) :=
      accepts_string.2 ⟨hkey, nofun⟩
    rw [HookRequest.method, acceptedUpstream_history, chatHistoryParamsSchema,
      HookRequest.payload, accepts_object]
    constructor
    · simp
    · have hlimit : (JsonSchema.integer 1 (some 1000)).accepts (.num (.ofNat 50)) :=
        accepts_integer_ofNat.2 ⟨by omega, by omega⟩
      simp [JsValue.lookup_cons, hsession, hlimit, accepts_optional]
  | submitTask sessionKey text =>
    refine iff_of_false ?_ Bool.false_ne_true
    have hmessage : anyString.accepts (JsValue.lookup "message"
        [("sessionKey", .str sessionKey), ("message", .obj [("text", .str text)]),
          ("deliver", .bool true)]) = false := by
      simp [JsValue.lookup_cons, anyString, accepts_string_obj]
    rw [HookRequest.method, acceptedUpstream_send, chatSendParamsSchema, HookRequest.payload,
      not_accepts_object (p := ("message", anyString)) (by simp) hmessage]
    exact Bool.false_ne_true
  | stopTask sessionKey runId =>
    refine iff_of_false ?_ Bool.false_ne_true
    rw [HookRequest.method, acceptedUpstream_stop]
    exact Bool.false_ne_true

/-! ## The way upstream -/

namespace OpenClawBackedGateway

/-- A browser issued the request of the hook, and `e` is what upstream was sent for it. -/
def SentFor (s : OpenClawBackedGateway) (request : HookRequest) (e : SentRequest) : Prop :=
  ∃ i p n c r, s.clients[i]? = some c ∧ c.requests[p]? = some r ∧ r.method = request.method ∧
    r.payload = request.payload ∧ s.ForwardedFor i p n ∧ e ∈ s.source.sent ∧ e.waiter = .call n

/-- What is sent upstream for a request of the hook is the request itself. -/
theorem Relayed.sentFor {uuids : RandomUuids} {options : RealtimeGatewayOptions}
    {s : OpenClawBackedGateway} (h : s.Relayed uuids options) {request : HookRequest}
    {e : SentRequest} (hsent : s.SentFor request e) :
    e.method = request.method ∧ e.params = request.payload := by
  obtain ⟨i, p, n, c, r, hc, hr, hmethod, hpayload, ⟨task, hforwarded, htask⟩, he, hwaiter⟩ := hsent
  obtain ⟨c', r', t, hc', hr', ht, htmethod, htpayload⟩ := h.request_of_task htask
  obtain rfl := Option.some.inj (hc.symm.trans hc')
  obtain rfl := Option.some.inj (hr.symm.trans hr')
  obtain ⟨t', ht', hcall⟩ := h.forwarded _ hforwarded
  obtain rfl := Option.some.inj (ht.symm.trans ht')
  obtain ⟨payload, hcall', hparams⟩ := h.accounted.sent e he n hwaiter
  obtain ⟨hcmethod, hcpayload⟩ := Prod.mk.inj
    (Option.some.inj (Option.some.inj (hcall'.symm.trans hcall)))
  refine ⟨hcmethod.trans (htmethod.symm.trans hmethod), ?_⟩
  rw [hparams, hcpayload, htpayload, JsValue.wire_wire, hpayload, request.wire_payload]

/-- Upstream accepts what it is sent for the requests of the hook that meet a condition. -/
def AcceptedUpstream (condition : HookRequest → Prop) (s : OpenClawBackedGateway) : Prop :=
  ∀ request : HookRequest, 1 ≤ request.sessionKey.length → ∀ e, s.SentFor request e →
    (acceptedUpstream e.method e.params ↔ condition request)

/-- In every run, upstream accepts what it is sent for a request of the hook exactly when that is a
request for the history. -/
theorem acceptedUpstream_iff_history (uuids : RandomUuids) (options : RealtimeGatewayOptions)
    (openclaw : OpenClawGatewaySourceOptions) (steps : List RelayStep) :
    Always (step uuids options openclaw) (AcceptedUpstream (·.isLoadHistory)) initial steps := by
  have hrelayed : Always (step uuids options openclaw) (Relayed uuids options) initial steps :=
    @Always.of_step _ _ (step uuids options openclaw) (Relayed uuids options)
      (fun _ event h => relayed_step event h) _ relayed_initial steps
  refine hrelayed.imp fun s h request hkey e hsent => ?_
  obtain ⟨hmethod, hparams⟩ := h.sentFor hsent
  rw [hmethod, hparams]
  exact acceptedUpstream_iff hkey

/-- A task that is submitted reaches upstream with an object as its message and no key. -/
theorem task_rejected_upstream :
    ¬ Always
      (step .counting ⟨"workspace-1", none, none, none, false, false, false, false⟩ .default)
      (AcceptedUpstream fun _ => True) initial
      [.connect ⟨none, none, none⟩, .client 0 .opened,
        .client 0 (.request 0 "chat.send" (HookRequest.submitTask "main" "Hi").payload),
          .arrive 0 0,
        .source (.opened 0),
        .source (.send 0
          (some (.obj [("type", .str "event"), ("event", .str "connect.challenge")]))),
        .source (.received 0 (fun _ => 0) fun _ _ => none),
        .source (.send 0 (some (.obj [("type", .str "res"), ("id", .str "connect:0"),
          ("ok", .bool true), ("payload", .obj [])]))),
        .source (.received 0 (fun _ => 0) fun _ _ => none), .source (.resume 0)] := by
  intro h
  have hlast := (always_iff_run _ _ _ _).1 h _ [] (List.append_nil _).symm
  generalize hrun : run (step .counting _ .default) initial _ = s at hlast
  have hclient : s.clients[0]?.any fun c => c.requests[0]? = some ⟨some "req-0-1", "chat.send",
      (HookRequest.submitTask "main" "Hi").payload⟩ := by
    rw [← hrun]
    decide +kernel
  have htask : (s.gateway.task? 0 0).any (·.id = "req-0-1") := by
    rw [← hrun]
    decide +kernel
  have hforwarded : (⟨0, 0, 0⟩ : Forwarded) ∈ s.forwarded := by
    rw [← hrun]
    decide +kernel
  have hsent : s.source.sent.any fun e => e.waiter = .call 0 ∧
      acceptedUpstream e.method e.params = false := by
    rw [← hrun]
    decide +kernel
  obtain ⟨c, hc, hrequest⟩ := (Option.any_eq_true _ _).1 hclient
  obtain ⟨task, ht, hid⟩ := (Option.any_eq_true _ _).1 htask
  obtain ⟨e, he, hrejected⟩ := List.any_eq_true.1 hsent
  have hrequest := of_decide_eq_true hrequest
  obtain ⟨hwaiter, hrejected⟩ := of_decide_eq_true hrejected
  have hfor : s.SentFor (.submitTask "main" "Hi") e :=
    ⟨0, 0, 0, c, _, hc, hrequest, rfl, rfl,
      ⟨0, hforwarded, c, _, task, hc, hrequest, ht, congrArg some (of_decide_eq_true hid).symm⟩,
      he, hwaiter⟩
  have haccepted := (hlast _ (by decide) e hfor).2 trivial
  rw [hrejected] at haccepted
  cases haccepted

end OpenClawBackedGateway

end Vertx
