import Vertx.Adapter.Exceptions
import Vertx.Gateway.Fanout
import Vertx.Web.Client

/-!
# The fields of a context on a payload

`injectContext` lays the fields of a context over a payload that is an object.  Apart from these
fields the payload of an event that is passed through arrives as it was (`passThrough_transparent`).
It lays no tenant or user over the payload when the context has none, so the payload keeps those of
its own (`identity_iff`).
-/

namespace Vertx

open JsValue

/-! ## Values that JSON can say -/

/-- A value that JSON can say: writing it and reading it back leaves it as it is.  A text such as
`1e400` is read as `Infinity`, which JSON cannot say. -/
def JsValue.IsJson (v : JsValue) : Prop := v ≠ .undefined ∧ v.wire = v

namespace JsValue

theorem wireFields_length (fields : List (String × JsValue)) :
    (wireFields fields).length ≤ fields.length := by
  induction fields with
  | nil => exact Nat.le_refl _
  | cons kv rest ih =>
    rw [wireFields, List.length_cons]
    split_ifs
    · exact ih.trans (Nat.le_succ _)
    · exact Nat.succ_le_succ ih

theorem isJson_obj {fields : List (String × JsValue)} :
    (obj fields).IsJson ↔ ∀ kv ∈ fields, kv.2.IsJson := by
  have hfields (fields : List (String × JsValue)) :
      (obj fields).IsJson ↔ wireFields fields = fields := by
    simp [IsJson, wire]
  rw [hfields]
  induction fields with
  | nil => simp [wireFields]
  | cons kv rest ih =>
    obtain ⟨k, v⟩ := kv
    rw [List.forall_mem_cons]
    refine Iff.trans ?_ (and_congr_right' ih)
    rw [wireFields]
    split_ifs with hv
    · -- An undefined property is dropped, so the list gets shorter.
      refine iff_of_false (fun h => ?_) (fun h => h.1.1 hv)
      have hlength := wireFields_length rest
      rw [h, List.length_cons] at hlength
      omega
    · simp [IsJson, hv]

/-- A property that is there is in the list. -/
theorem mem_of_lookup {key : String} {fields : List (String × JsValue)}
    (h : lookup key fields ≠ undefined) : (key, lookup key fields) ∈ fields := by
  induction fields with
  | nil => exact absurd rfl h
  | cons kv rest ih =>
    obtain ⟨k, v⟩ := kv
    rw [lookup_cons] at h ⊢
    split_ifs at h ⊢ with hk
    · rw [hk]
      exact List.mem_cons_self
    · exact List.mem_cons_of_mem _ (ih h)

/-- The fields of a JSON value are JSON values. -/
theorem IsJson.field {v : JsValue} {key : String} (h : v.IsJson) (hne : v.field key ≠ undefined) :
    (v.field key).IsJson := by
  cases v with
  | obj fields => exact isJson_obj.1 h _ (mem_of_lookup hne)
  | _ => exact absurd rfl hne

theorem mem_setField {kv : String × JsValue} {key : String} {v : JsValue}
    {fields : List (String × JsValue)} (h : kv ∈ setField key v fields) :
    kv ∈ fields ∨ kv.2 = v := by
  induction fields with
  | nil => exact .inr (List.mem_singleton.1 h ▸ rfl)
  | cons lw rest ih =>
    obtain ⟨l, w⟩ := lw
    unfold setField at h
    split_ifs at h
    · rcases List.mem_cons.1 h with rfl | hmem
      · exact .inr rfl
      · exact .inl (List.mem_cons_of_mem _ hmem)
    · rcases List.mem_cons.1 h with rfl | hmem
      · exact .inl List.mem_cons_self
      · exact (ih hmem).imp_left (List.mem_cons_of_mem _)

theorem isJson_merge {fields more : List (String × JsValue)} (h : (obj fields).IsJson)
    (hmore : (obj more).IsJson) : (obj (merge fields more)).IsJson := by
  rw [isJson_obj] at hmore
  unfold merge
  induction more generalizing fields with
  | nil => exact h
  | cons kv more ih =>
    refine ih ?_ (fun lw hlw => hmore lw (List.mem_cons_of_mem _ hlw))
    refine isJson_obj.2 fun lw hlw => ?_
    rcases mem_setField hlw with hmem | heq
    · exact isJson_obj.1 h lw hmem
    · rw [heq]
      exact hmore kv List.mem_cons_self

/-! ## Laying fields over an object -/

/-- The object of `result` is that of `fields` with `values` laid over it. -/
structure Overlaid (values : String → Option JsValue) (fields result : List (String × JsValue)) :
    Prop where
  lookup : ∀ key, lookup key result = (values key).getD (lookup key fields)
  keys : ∀ key, key ∈ result.map (·.1) ↔ key ∈ fields.map (·.1) ∨ (values key).isSome

theorem Overlaid.trans {values more : String → Option JsValue}
    {fields fields' fields'' : List (String × JsValue)} (h : Overlaid values fields fields')
    (h' : Overlaid more fields' fields'') :
    Overlaid (fun key => (more key).or (values key)) fields fields'' where
  lookup key := by
    rw [h'.lookup, h.lookup]
    cases more key <;> rfl
  keys key := by
    rw [h'.keys, h.keys, Option.isSome_or, Bool.or_eq_true, or_assoc,
      or_comm (b := (more key).isSome = true)]

theorem overlaid_setField (k : String) (v : JsValue) (fields : List (String × JsValue)) :
    Overlaid (fun key => if k = key then some v else none) fields (setField k v fields) where
  lookup key := by
    rw [lookup_setField]
    split_ifs <;> rfl
  keys key := by
    rw [mem_keys_setField, eq_comm (a := key)]
    split_ifs <;> simp_all

/-- Laying a property over an object, when it has a value. -/
theorem overlaid_optional (k : String) (value : Option JsValue) (fields : List (String × JsValue)) :
    Overlaid (fun key => if k = key then value else none) fields
      (merge fields (value.map fun v => (k, v)).toList) := by
  cases value with
  | none =>
    simp only [ite_self]
    exact ⟨fun _ => rfl, fun _ => by simp [merge]⟩
  | some v => exact overlaid_setField k v fields

theorem merge_append (fields more more' : List (String × JsValue)) :
    merge fields (more ++ more') = merge (merge fields more) more' := List.foldl_append

end JsValue

/-- The value that a context has for a field. -/
def RealtimeBridgeContext.identity (context : RealtimeBridgeContext) (key : String) :
    Option String :=
  if key = "workspaceId" then some context.workspaceId
  else if key = "tenantId" then context.tenantId
  else if key = "userId" then context.userId
  else none

/-- The value that a context lays over a field; it lays no empty tenant or user. -/
def RealtimeBridgeContext.overlay (context : RealtimeBridgeContext) (key : String) :
    Option JsValue :=
  if key = "workspaceId" then some (.str context.workspaceId)
  else ((context.identity key).filter (· ≠ "")).map .str

theorem overlaid_contextFields (context : RealtimeBridgeContext)
    (fields : List (String × JsValue)) :
    Overlaid context.overlay fields (merge fields context.contextFields) := by
  have hoptional (k : String) (value : Option String) :
      ((value.filter (· ≠ "")).map fun text => (k, JsValue.str text)).toList =
        (((value.filter (· ≠ "")).map JsValue.str).map fun v => (k, v)).toList := by
    rw [Option.map_map]
    rfl
  unfold RealtimeBridgeContext.contextFields
  dsimp only
  rw [← List.singleton_append, merge_append, merge_append, hoptional, hoptional]
  have h := ((overlaid_setField "workspaceId" (.str context.workspaceId) fields).trans
    (overlaid_optional "tenantId" ((context.tenantId.filter (· ≠ "")).map .str) _)).trans
    (overlaid_optional "userId" ((context.userId.filter (· ≠ "")).map .str) _)
  refine (funext fun key => ?_ : _ = context.overlay) ▸ h
  unfold RealtimeBridgeContext.overlay RealtimeBridgeContext.identity
  by_cases hw : key = "workspaceId"
  · simp [hw]
  by_cases ht : key = "tenantId"
  · simp [ht]
  by_cases hu : key = "userId"
  · simp [hu]
  simp [hw, ht, hu, Ne.symm hw, Ne.symm ht, Ne.symm hu]

/-! ## Events that are passed through -/

/-- The upstream events whose payload is passed through. -/
inductive PassThrough
  | sessionMessage
  | sessionsChanged
  | shutdown
  | execApprovalRequested
  | execApprovalResolved
  | pluginApprovalRequested
  | pluginApprovalResolved
  deriving DecidableEq, Repr

namespace PassThrough

/-- The name as upstream spells it. -/
def text : PassThrough → String
  | sessionMessage => "session.message"
  | sessionsChanged => "sessions.changed"
  | shutdown => "shutdown"
  | execApprovalRequested => "exec.approval.requested"
  | execApprovalResolved => "exec.approval.resolved"
  | pluginApprovalRequested => "plugin.approval.requested"
  | pluginApprovalResolved => "plugin.approval.resolved"

/-- The event that it becomes. -/
def mapped : PassThrough → GatewayEventName
  | sessionMessage => .sessionMessage
  | sessionsChanged => .sessionsChanged
  | shutdown => .shutdown
  | execApprovalRequested | pluginApprovalRequested => .approvalRequested
  | execApprovalResolved | pluginApprovalResolved => .approvalResolved

/-- The kind of an approval event. -/
def approvalKind : PassThrough → Option String
  | execApprovalRequested | execApprovalResolved => some "exec"
  | pluginApprovalRequested | pluginApprovalResolved => some "plugin"
  | sessionMessage | sessionsChanged | shutdown => none

/-- What is laid over the payload: the kind of an approval, and then the fields of the context. -/
def overlay (event : PassThrough) (context : RealtimeBridgeContext) (key : String) :
    Option JsValue :=
  (context.overlay key).or
    (if "approvalKind" = key then event.approvalKind.map JsValue.str else none)

/-- The property that tags the payload of an approval event. -/
def tag (event : PassThrough) : List (String × JsValue) :=
  ((event.approvalKind.map JsValue.str).map fun kind => ("approvalKind", kind)).toList

theorem isJson_tag (event : PassThrough) : (obj event.tag).IsJson := by
  rw [isJson_obj]
  cases event <;> simp [tag, approvalKind, IsJson, wire]

theorem normalize (clock : Clock) {frame : OpenClawEventFrame} {event : PassThrough}
    {fields : List (String × JsValue)} (hevent : frame.event = .str event.text)
    (hpayload : frame.payload = .obj fields) :
    normalizeOpenClawEvent clock frame =
      .ok [frame.normalized event.mapped (.obj (merge fields event.tag))] := by
  cases event <;>
    simp [normalizeOpenClawEvent, normalizeOpenClawEvent.approvalPayload, hevent, text, asString?,
      normalizeEventName, Vertx.approvalKind, isObject, spread, mapped, tag, approvalKind, merge,
      hpayload]

end PassThrough

theorem isJson_contextFields (context : RealtimeBridgeContext) :
    (obj context.contextFields).IsJson := by
  rw [isJson_obj]
  intro kv hkv
  simp only [RealtimeBridgeContext.contextFields, List.mem_cons, List.mem_append,
    Option.mem_toList, Option.map_eq_some_iff] at hkv
  rcases hkv with rfl | ⟨_, _, rfl⟩ | ⟨_, _, rfl⟩ <;> exact ⟨by simp, rfl⟩

/-- The payload of an event that is passed through arrives with the kind of an approval and the
fields of the context laid over it, and otherwise as it was.  The frame from upstream is a value
that JSON can say (`IsJson`), so no number in it is beyond the range of doubles. -/
theorem passThrough_transparent (clock : Clock) (adapter : RealtimeBridgeAdapter)
    (context : RealtimeBridgeContext) (event : PassThrough) (fields : List (String × JsValue))
    (parsed : JsValue) (hparsed : parsed.IsJson) (hevent : parsed.field "event" = .str event.text)
    (hpayload : parsed.field "payload" = .obj fields)
    (hseq : (parsed.field "seq").unprintable = false) :
    ∃ sent frame adapter' decoded,
      normalizeOpenClawEvent clock (OpenClawGatewaySource.eventFrame parsed) = .ok [sent] ∧
      adapter.createEventFrame sent context = .ok (frame, adapter') ∧
      frame.wire.event = event.mapped ∧
      ((parsed.field "seq").isNullish = false → frame.wire.seq = parsed.field "seq") ∧
      frame.wire.payload = .obj decoded ∧
      Overlaid (event.overlay context) fields decoded := by
  have hfields : (obj fields).IsJson := by
    rw [← hpayload]
    exact hparsed.field (by simp [hpayload])
  have hjson := isJson_merge (isJson_merge hfields event.isJson_tag) (isJson_contextFields context)
  have hsent :=
    @PassThrough.normalize clock (OpenClawGatewaySource.eventFrame parsed) event fields hevent
    hpayload
  have hok := createEventFrame_isOk adapter ((OpenClawGatewaySource.eventFrame parsed).normalized
    event.mapped (.obj (merge fields event.tag))) context
  have hprintable : ((OpenClawGatewaySource.eventFrame parsed).normalized event.mapped
    (.obj (merge fields event.tag))).seq.unprintable = false := hseq
  rw [hprintable] at hok
  cases hcreate : adapter.createEventFrame ((OpenClawGatewaySource.eventFrame parsed).normalized
      event.mapped (.obj (merge fields event.tag))) context with
  | error e =>
    rw [hcreate] at hok
    cases hok
  | ok created =>
    obtain ⟨frame, adapter'⟩ := created
    obtain ⟨hname, hpayload', hnumber⟩ := createEventFrame_spec hcreate
    refine ⟨_, frame, adapter', merge (merge fields event.tag) context.contextFields, hsent,
      hcreate, hname, fun hn => ?_, ?_, ?_⟩
    · have hne : parsed.field "seq" ≠ .undefined := by
        intro h
        rw [h] at hn
        cases hn
      rw [EventFrame.wire, hnumber hn]
      exact (hparsed.field hne).2
    · rw [EventFrame.wire, hpayload']
      exact hjson.2
    · exact (overlaid_optional "approvalKind" (event.approvalKind.map .str) fields).trans
        (overlaid_contextFields context _)

/-- An event of a session that has a tenant of its own is passed through. -/
theorem passThrough_transparent_session :
    ∃ sent frame adapter' decoded,
      normalizeOpenClawEvent (fun _ => 0) (OpenClawGatewaySource.eventFrame (.obj [
        ("event", .str "sessions.changed"), ("seq", .num (.ofNat 7)),
        ("payload", .obj [("tenantId", .str "other"), ("status", .str "done")])])) = .ok [sent] ∧
      RealtimeBridgeAdapter.initial.createEventFrame sent ⟨"default", some "acme", none⟩ =
        .ok (frame, adapter') ∧
      frame.wire.event = .sessionsChanged ∧
      frame.wire.seq = .num (.ofNat 7) ∧
      frame.wire.payload = .obj decoded ∧
      Overlaid (PassThrough.sessionsChanged.overlay ⟨"default", some "acme", none⟩)
        [("tenantId", .str "other"), ("status", .str "done")] decoded := by
  obtain ⟨sent, frame, adapter', decoded, hsent, hframe, hevent, hseq, hpayload, hover⟩ :=
    passThrough_transparent (fun _ => 0) .initial ⟨"default", some "acme", none⟩ .sessionsChanged
      [("tenantId", .str "other"), ("status", .str "done")]
      (.obj [("event", .str "sessions.changed"), ("seq", .num (.ofNat 7)),
        ("payload", .obj [("tenantId", .str "other"), ("status", .str "done")])])
      ⟨nofun, by decide +kernel⟩ (by decide +kernel) (by decide +kernel) (by decide +kernel)
  exact ⟨sent, frame, adapter', decoded, hsent, hframe, hevent, hseq (by decide +kernel), hpayload,
    hover⟩

/-- A context with an empty tenant lays none over the payload, and an event with a number that no
string can be made of has no frame. -/
theorem passThrough_not_transparent :
    (∃ sent frame adapter',
      normalizeOpenClawEvent (fun _ => 0) (OpenClawGatewaySource.eventFrame (.obj [
        ("event", .str "session.message"), ("payload", .obj [])])) = .ok [sent] ∧
      RealtimeBridgeAdapter.initial.createEventFrame sent ⟨"default", some "", none⟩ =
        .ok (frame, adapter') ∧
      frame.wire.payload.field "tenantId" = .undefined) ∧
    ∃ sent error,
      normalizeOpenClawEvent (fun _ => 0) (OpenClawGatewaySource.eventFrame (.obj [
        ("event", .str "session.message"), ("seq", .obj [("toString", .null)]),
        ("payload", .obj [])])) = .ok [sent] ∧
      RealtimeBridgeAdapter.initial.createEventFrame sent ⟨"default", none, none⟩ =
        .error error :=
  ⟨⟨_, _, _, rfl, rfl, by decide +kernel⟩, ⟨_, _, rfl, rfl⟩⟩

/-! ## The identity of a payload -/

/-- The payload has the identity of the context: its workspace, and its tenant and user or none. -/
def CarriesIdentity (context : RealtimeBridgeContext) (payload : JsValue) : Prop :=
  ∀ key ∈ ["workspaceId", "tenantId", "userId"],
    payload.field key = ((context.identity key).map JsValue.str).getD .undefined

/-- The context has a tenant and a user that are not empty, or else the payload says the same as
the context. -/
def Unforged (context : RealtimeBridgeContext) (payload : JsValue) : Prop :=
  ∀ key ∈ ["tenantId", "userId"],
    ((context.identity key).filter (· ≠ "")).isSome ∨
      payload.field key = ((context.identity key).map JsValue.str).getD .undefined

theorem lookup_contextFields_append {context : RealtimeBridgeContext} {key : String}
    (hkey : key ∈ ["workspaceId", "tenantId", "userId"]) (payload : JsValue) :
    lookup key (context.contextFields ++ [("data", payload)]) =
      (context.overlay key).getD .undefined := by
  unfold RealtimeBridgeContext.contextFields RealtimeBridgeContext.overlay
    RealtimeBridgeContext.identity
  generalize context.tenantId = tenant?, context.userId = user?
  simp only [List.mem_cons, List.not_mem_nil, or_false] at hkey
  rcases hkey with rfl | rfl | rfl
  · simp [lookup_cons]
  · simp only [reduceIte, String.reduceEq]
    cases tenant?.filter (· ≠ "") <;> cases user?.filter (· ≠ "") <;> simp [lookup_cons]
  · simp only [reduceIte, String.reduceEq]
    cases tenant?.filter (· ≠ "") <;> cases user?.filter (· ≠ "") <;> simp [lookup_cons]

theorem field_injectContext_identity {context : RealtimeBridgeContext} {key : String}
    (hkey : key ∈ ["workspaceId", "tenantId", "userId"]) (payload : JsValue) :
    (injectContext payload context).field key =
      (context.overlay key).getD (payload.field key) := by
  cases payload with
  | obj fields => exact (overlaid_contextFields context fields).lookup key
  | _ => exact lookup_contextFields_append hkey _

theorem carriesIdentity_injectContext (context : RealtimeBridgeContext) (payload : JsValue) :
    CarriesIdentity context (injectContext payload context) ↔ Unforged context payload := by
  have hworkspace : (injectContext payload context).field "workspaceId" =
      ((context.identity "workspaceId").map JsValue.str).getD .undefined :=
    field_injectContext_identity List.mem_cons_self payload
  have hoptional {key : String} (hkey : key ∈ ["tenantId", "userId"]) :
      (injectContext payload context).field key =
          ((context.identity key).map JsValue.str).getD .undefined ↔
        ((context.identity key).filter (· ≠ "")).isSome ∨
          payload.field key = ((context.identity key).map JsValue.str).getD .undefined := by
    have hne : key ≠ "workspaceId" := by
      rintro rfl
      simp at hkey
    rw [field_injectContext_identity (List.mem_cons_of_mem _ hkey), RealtimeBridgeContext.overlay,
      if_neg hne]
    cases context.identity key with
    | none => simp
    | some text => by_cases htext : text = "" <;> simp [htext, Option.filter]
  unfold CarriesIdentity Unforged
  rw [List.forall_mem_cons, and_iff_right hworkspace]
  exact forall₂_congr fun key hkey => hoptional hkey

/-- Hellos and event frames carry the identity of the context exactly if it has a tenant and a
user, or the payload names none that the context does not have. -/
theorem identity_iff (options : RealtimeGatewayOptions) (context : RealtimeBridgeContext)
    (snapshot : JsValue) (adapter : RealtimeBridgeAdapter) (event : RealtimeSourceEvent) :
    (CarriesIdentity context (buildHelloFrame options context snapshot).snapshot ↔
      Unforged context (snapshot.orElse (.obj []))) ∧
    ∀ frame adapter', adapter.createEventFrame event context = .ok (frame, adapter') →
      (CarriesIdentity context frame.payload ↔ Unforged context event.payload) := by
  refine ⟨carriesIdentity_injectContext context _, fun frame adapter' h => ?_⟩
  rw [(createEventFrame_spec h).2.1]
  exact carriesIdentity_injectContext context event.payload

/-- The hello of a user without a tenant, and an event about a session. -/
theorem identity_iff_session :
    CarriesIdentity ⟨"default", none, some "mia"⟩ (buildHelloFrame
        ⟨"default", none, none, none, false, false, false, false⟩ ⟨"default", none, some "mia"⟩
        (.obj [("userId", .str "other")])).snapshot ∧
      ∃ frame adapter',
        RealtimeBridgeAdapter.initial.createEventFrame
          ⟨.sessionsChanged, .obj [("status", .str "done")], .undefined, .undefined⟩
          ⟨"default", none, some "mia"⟩ = .ok (frame, adapter') ∧
        CarriesIdentity ⟨"default", none, some "mia"⟩ frame.payload := by
  obtain ⟨hhello, hevent⟩ := identity_iff
    ⟨"default", none, none, none, false, false, false, false⟩ ⟨"default", none, some "mia"⟩
    (.obj [("userId", .str "other")]) .initial
    ⟨.sessionsChanged, .obj [("status", .str "done")], .undefined, .undefined⟩
  refine ⟨hhello.2 ?_, _, _, rfl, (hevent _ _ rfl).2 ?_⟩
  · simp [Unforged, RealtimeBridgeContext.identity, orElse, isNullish, lookup_cons]
  · simp [Unforged, RealtimeBridgeContext.identity, lookup_cons]

/-- The gateway's context has no tenant, so that of the payload stays. -/
theorem identity_forged :
    ∃ frame adapter',
      RealtimeBridgeAdapter.initial.createEventFrame
        ⟨.sessionsChanged, .obj [("tenantId", .str "other")], .undefined, .undefined⟩
        ⟨"default", none, none⟩ = .ok (frame, adapter') ∧
      frame.payload.field "tenantId" = .str "other" ∧
      ¬ CarriesIdentity ⟨"default", none, none⟩ frame.payload := by
  refine ⟨_, _, rfl, rfl, fun h => ?_⟩
  exact absurd (h "tenantId" (by decide)) (by decide +kernel)

end Vertx
