import Vertx.Lib.TwoWay
import Vertx.Upstream.Broadcaster

/-!
# Who receives session events

Connections subscribe to the events of all sessions or to the messages of one, nodes to a session's
chat.  Both subscriptions to single sessions are kept in two maps.  After every run of
subscriptions, unsubscriptions and closed connections, a transcript update goes to exactly the
connections with a live subscription that covers it (`transcriptRecipients_iff`), and an event for
a session's nodes to exactly the nodes with a live subscription, once each
(`nodeRecipients_run`).
-/

namespace Vertx

open Runs

/-! ## Subscriptions of connections -/

/-- The connections that subscribed to the messages of single sessions. -/
structure SessionMessageSubscriberRegistry where
  sessionToConnIds : MultiMap String String
  connToSessionKeys : MultiMap String String

namespace SessionMessageSubscriberRegistry

def empty : SessionMessageSubscriberRegistry := ⟨OrderedMap.empty, OrderedMap.empty⟩

def subscribe (connId sessionKey : String) (r : SessionMessageSubscriberRegistry) :
    SessionMessageSubscriberRegistry :=
  let connId := jsTrim connId
  let sessionKey := jsTrim sessionKey
  if connId = "" ∨ sessionKey = "" then r
  else ⟨r.sessionToConnIds.insert sessionKey connId, r.connToSessionKeys.insert connId sessionKey⟩

def unsubscribe (connId sessionKey : String) (r : SessionMessageSubscriberRegistry) :
    SessionMessageSubscriberRegistry :=
  let connId := jsTrim connId
  let sessionKey := jsTrim sessionKey
  if connId = "" ∨ sessionKey = "" then r
  else ⟨r.sessionToConnIds.remove sessionKey connId, r.connToSessionKeys.remove connId sessionKey⟩

def unsubscribeAll (connId : String) (r : SessionMessageSubscriberRegistry) :
    SessionMessageSubscriberRegistry :=
  let connId := jsTrim connId
  if connId = "" then r
  else
    match r.connToSessionKeys.get? connId with
    | none => r
    | some sessionKeys =>
      ⟨r.sessionToConnIds.removeFrom sessionKeys.keys connId, r.connToSessionKeys.delete connId⟩

def get (sessionKey : String) (r : SessionMessageSubscriberRegistry) : OrderedSet String :=
  let sessionKey := jsTrim sessionKey
  if sessionKey = "" then OrderedMap.empty
  else (r.sessionToConnIds.get? sessionKey).getD OrderedMap.empty

/-- The registry as a relation of connections to session keys. -/
def twoWay (r : SessionMessageSubscriberRegistry) : TwoWay String String :=
  ⟨r.connToSessionKeys, r.sessionToConnIds⟩

end SessionMessageSubscriberRegistry

/-- The subscriptions of the connected clients. -/
structure SessionSubscribers where
  sessionEventSubscribers : OrderedSet String
  sessionMessageSubscribers : SessionMessageSubscriberRegistry

/-- A call by a request, and at last by the connection's close handler. -/
inductive SubscriptionStep
  | subscribeSessionEvents (connId : String)
  | unsubscribeSessionEvents (connId : String)
  | subscribeSessionMessageEvents (connId sessionKey : String)
  | unsubscribeSessionMessageEvents (connId sessionKey : String)
  | unsubscribeAllSessionEvents (connId : String)
  | clear

namespace SessionSubscribers

def initial : SessionSubscribers := ⟨OrderedMap.empty, .empty⟩

def subscribe (connId : String) (s : OrderedSet String) : OrderedSet String :=
  if jsTrim connId = "" then s else s.add (jsTrim connId)

def unsubscribe (connId : String) (s : OrderedSet String) : OrderedSet String :=
  if jsTrim connId = "" then s else OrderedMap.delete s (jsTrim connId)

def step (s : SessionSubscribers) : SubscriptionStep → SessionSubscribers
  | .subscribeSessionEvents connId =>
    { s with sessionEventSubscribers := subscribe connId s.sessionEventSubscribers }
  | .unsubscribeSessionEvents connId =>
    { s with sessionEventSubscribers := unsubscribe connId s.sessionEventSubscribers }
  | .subscribeSessionMessageEvents connId sessionKey =>
    { s with sessionMessageSubscribers := s.sessionMessageSubscribers.subscribe connId sessionKey }
  | .unsubscribeSessionMessageEvents connId sessionKey =>
    { s with sessionMessageSubscribers :=
      s.sessionMessageSubscribers.unsubscribe connId sessionKey }
  | .unsubscribeAllSessionEvents connId =>
    { sessionEventSubscribers := unsubscribe connId s.sessionEventSubscribers
      sessionMessageSubscribers := s.sessionMessageSubscribers.unsubscribeAll connId }
  | .clear => initial

/-- The connections that a transcript update of a session is sent to. -/
def transcriptRecipients (sessionKey : String) (s : SessionSubscribers) : OrderedSet String :=
  (s.sessionMessageSubscribers.get sessionKey).keys.foldl OrderedSet.add
    (s.sessionEventSubscribers.keys.foldl OrderedSet.add OrderedMap.empty)

end SessionSubscribers

/-! ## What the subscribers are sent -/

/-- A call of `broadcastToConnIds`. -/
structure TargetedBroadcast where
  event : String
  payload : JsValue
  connIds : OrderedSet String
  dropIfSlow : Bool

/-- A change of a session's transcript.  A missing message is `undefined`. -/
structure SessionTranscriptUpdate where
  sessionFile : String
  sessionKey : Option String
  message : JsValue
  messageId : Option String

/-- What the handlers read from the session store and the clock. -/
structure SessionStoreView where
  resolveSessionKeyForTranscriptFile : String → Option String
  /-- The number of messages in the transcript of a session that has one. -/
  messageSeq : String → Option ℕ
  /-- The fields of `buildGatewaySessionSnapshot` with and without the row itself. -/
  sessionSnapshot : Bool → String → List (String × JsValue)
  now : ℤ

def attachOpenClawTranscriptMeta (message : JsValue) (metaFields : List (String × JsValue)) :
    JsValue :=
  match message with
  | .obj record =>
    let existing := match JsValue.lookup "__openclaw" record with
      | .obj fields => fields
      | _ => []
    .obj (JsValue.merge record [("__openclaw", .obj (JsValue.merge existing metaFields))])
  | message => message

/-- `createTranscriptUpdateBroadcastHandler`. -/
def handleTranscriptUpdate (view : SessionStoreView) (update : SessionTranscriptUpdate)
    (s : SessionSubscribers) : List TargetedBroadcast :=
  let sessionKey? := update.sessionKey.orElse fun _ =>
    view.resolveSessionKeyForTranscriptFile update.sessionFile
  match sessionKey? with
  | none => []
  | some sessionKey =>
    if sessionKey = "" ∨ update.message = .undefined then []
    else
      let connIds := s.transcriptRecipients sessionKey
      if connIds.size = 0 then []
      else
        let idField (key : String) := (update.messageId.map fun id => (key, JsValue.str id)).toList
        let seqField (key : String) :=
          ((view.messageSeq sessionKey).map fun n => (key, JsValue.num (.ofNat n))).toList
        let snapshot := view.sessionSnapshot true sessionKey
        let message := attachOpenClawTranscriptMeta update.message (idField "id" ++ seqField "seq")
        let payload := JsValue.merge ([("sessionKey", .str sessionKey), ("message", message)] ++
          idField "messageId" ++ seqField "messageSeq") snapshot
        let changed := JsValue.merge ([("sessionKey", .str sessionKey), ("phase", .str "message"),
          ("ts", .num (.finite view.now))] ++ idField "messageId" ++ seqField "messageSeq") snapshot
        ⟨"session.message", .obj payload, connIds, true⟩ ::
          if s.sessionEventSubscribers.size = 0 then []
          else [⟨"sessions.changed", .obj changed, s.sessionEventSubscribers, true⟩]

/-! ## The subscriptions behind a recipient -/

namespace SubscriptionStep

/-- The operation on the relation of connections to session keys. -/
def relationStep? : SubscriptionStep → Option (TwoWayStep String String)
  | .subscribeSessionMessageEvents connId sessionKey =>
    if jsTrim connId = "" ∨ jsTrim sessionKey = "" then none
    else some (.link (jsTrim connId) (jsTrim sessionKey))
  | .unsubscribeSessionMessageEvents connId sessionKey =>
    if jsTrim connId = "" ∨ jsTrim sessionKey = "" then none
    else some (.unlink (jsTrim connId) (jsTrim sessionKey))
  | .unsubscribeAllSessionEvents connId =>
    if jsTrim connId = "" then none else some (.unlinkAll (jsTrim connId))
  | .clear => some .clear
  | .subscribeSessionEvents _ | .unsubscribeSessionEvents _ => none

/-- The connection subscribes to the messages of the session. -/
def SubscribesTo (connId sessionKey : String) : SubscriptionStep → Prop
  | .subscribeSessionMessageEvents c k => jsTrim c = connId ∧ jsTrim k = sessionKey
  | _ => False

/-- The connection loses its subscription to the messages of the session. -/
def CancelsTo (connId sessionKey : String) : SubscriptionStep → Prop
  | .unsubscribeSessionMessageEvents c k => jsTrim c = connId ∧ jsTrim k = sessionKey
  | .unsubscribeAllSessionEvents c => jsTrim c = connId
  | .clear => True
  | _ => False

/-- The connection subscribes to the events of all sessions. -/
def SubscribesToAll (connId : String) : SubscriptionStep → Prop
  | .subscribeSessionEvents c => jsTrim c = connId
  | _ => False

/-- The connection loses its subscription to the events of all sessions. -/
def CancelsAll (connId : String) : SubscriptionStep → Prop
  | .unsubscribeSessionEvents c | .unsubscribeAllSessionEvents c => jsTrim c = connId
  | .clear => True
  | _ => False

end SubscriptionStep

namespace SessionSubscribers

open SubscriptionStep

theorem twoWay_step (s : SessionSubscribers) (op : SubscriptionStep) :
    (s.step op).sessionMessageSubscribers.twoWay =
      op.relationStep?.elim s.sessionMessageSubscribers.twoWay
        s.sessionMessageSubscribers.twoWay.step := by
  cases op with
  | subscribeSessionEvents connId => rfl
  | unsubscribeSessionEvents connId => rfl
  | subscribeSessionMessageEvents connId sessionKey =>
    simp only [step, SessionMessageSubscriberRegistry.subscribe, relationStep?]
    split_ifs <;> rfl
  | unsubscribeSessionMessageEvents connId sessionKey =>
    simp only [step, SessionMessageSubscriberRegistry.unsubscribe, relationStep?]
    split_ifs <;> rfl
  | unsubscribeAllSessionEvents connId =>
    simp only [step, SessionMessageSubscriberRegistry.unsubscribeAll, relationStep?]
    split_ifs
    · rfl
    · simp only [Option.elim, TwoWay.step, SessionMessageSubscriberRegistry.twoWay]
      split <;> rename_i h <;> simp [h]
  | clear => rfl

theorem links_relationStep? (connId sessionKey : String) (op : SubscriptionStep) :
    (∃ r ∈ op.relationStep?, TwoWay.Links connId sessionKey r) ↔
      (connId ≠ "" ∧ sessionKey ≠ "") ∧ op.SubscribesTo connId sessionKey := by
  cases op with
  | subscribeSessionMessageEvents c k =>
    simp only [relationStep?, SubscribesTo]
    split_ifs with h
    · simp only [Option.not_mem_none, false_and, exists_false, false_iff, not_and]
      rintro ⟨hc, hk⟩ rfl rfl
      exact h.elim hc hk
    · rw [not_or] at h
      simp only [Option.mem_def, Option.some.injEq, exists_eq_left', TwoWay.Links]
      constructor
      · rintro ⟨rfl, rfl⟩
        exact ⟨h, rfl, rfl⟩
      · exact fun h => h.2
  | unsubscribeSessionMessageEvents c k =>
    simp only [relationStep?, SubscribesTo, and_false, iff_false]
    split_ifs <;> simp [TwoWay.Links]
  | unsubscribeAllSessionEvents c =>
    simp only [relationStep?, SubscribesTo, and_false, iff_false]
    split_ifs <;> simp [TwoWay.Links]
  | clear => simp [relationStep?, SubscribesTo, TwoWay.Links]
  | subscribeSessionEvents c => simp [relationStep?, SubscribesTo]
  | unsubscribeSessionEvents c => simp [relationStep?, SubscribesTo]

theorem unlinks_relationStep? {connId sessionKey : String} (hc : connId ≠ "") (hk : sessionKey ≠ "")
    (op : SubscriptionStep) : (∃ r ∈ op.relationStep?, TwoWay.Unlinks connId sessionKey r) ↔
      op.CancelsTo connId sessionKey := by
  cases op with
  | subscribeSessionMessageEvents c k =>
    simp only [relationStep?, CancelsTo, iff_false]
    split_ifs <;> simp [TwoWay.Unlinks]
  | unsubscribeSessionMessageEvents c k =>
    simp only [relationStep?, CancelsTo]
    split_ifs with h
    · simp only [Option.not_mem_none, false_and, exists_false, false_iff, not_and]
      rintro rfl rfl
      exact h.elim hc hk
    · simp [TwoWay.Unlinks]
  | unsubscribeAllSessionEvents c =>
    simp only [relationStep?, CancelsTo]
    split_ifs with h
    · simp only [Option.not_mem_none, false_and, exists_false, false_iff]
      rintro rfl
      exact hc h
    · simp [TwoWay.Unlinks]
  | clear => simp [relationStep?, CancelsTo, TwoWay.Unlinks]
  | subscribeSessionEvents c => simp [relationStep?, CancelsTo]
  | unsubscribeSessionEvents c => simp [relationStep?, CancelsTo]

/-- The two maps of the registry are each other's inverse, hold no empty set, and relate a
connection to a session exactly while its subscription is live. -/
theorem registry_represents (ops : List SubscriptionStep) :
    (run step initial ops).sessionMessageSubscribers.twoWay.Represents fun connId sessionKey =>
      (connId ≠ "" ∧ sessionKey ≠ "") ∧
        LiveSince (SubscribesTo connId sessionKey) (CancelsTo connId sessionKey) ops := by
  have hstep (s : SessionSubscribers) (op : SubscriptionStep) (R : String → String → Prop)
      (h : s.sessionMessageSubscribers.twoWay.Represents R) :
      (s.step op).sessionMessageSubscribers.twoWay.Represents
        (op.relationStep?.elim R (TwoWay.relate R)) := by
    rw [twoWay_step]
    cases op.relationStep? with
    | none => exact h
    | some r => exact h.step r
  have hempty : initial.sessionMessageSubscribers.twoWay = TwoWay.empty := rfl
  have hrun := TwoWay.represents_run relationStep? hstep hempty ops
  refine hrun.congr fun connId sessionKey => ?_
  by_cases hblank : connId ≠ "" ∧ sessionKey ≠ ""
  · rw [liveSince_congr (links_relationStep? connId sessionKey)
      (unlinks_relationStep? hblank.1 hblank.2), liveSince_and]
  · rw [liveSince_congr (links_relationStep? connId sessionKey) (fun _ => Iff.rfl), liveSince_and]
    simp [hblank]

theorem events_step (s : SessionSubscribers) (op : SubscriptionStep) {connId : String}
    (hc : connId ≠ "") : (s.step op).sessionEventSubscribers.has connId = true ↔
      op.SubscribesToAll connId ∨
        (s.sessionEventSubscribers.has connId = true ∧ ¬ op.CancelsAll connId) := by
  have hsubscribe (c : String) (e : OrderedSet String) :
      (subscribe c e).has connId = true ↔ jsTrim c = connId ∨ e.has connId = true := by
    unfold subscribe
    split_ifs with hblank
    · have hne : jsTrim c ≠ connId := fun e => hc (e.symm.trans hblank)
      simp [hne]
    · rw [OrderedSet.has_add, Bool.or_eq_true, decide_eq_true_eq, eq_comm]
  have hunsubscribe (c : String) (e : OrderedSet String) :
      (unsubscribe c e).has connId = true ↔ e.has connId = true ∧ ¬ jsTrim c = connId := by
    unfold unsubscribe
    split_ifs with hblank
    · have hne : jsTrim c ≠ connId := fun e => hc (e.symm.trans hblank)
      simp [hne]
    · rw [OrderedMap.has_delete, ne_eq, @eq_comm _ connId]
  cases op with
  | subscribeSessionEvents c => simp [step, hsubscribe, SubscribesToAll, CancelsAll]
  | unsubscribeSessionEvents c => simp [step, hunsubscribe, SubscribesToAll, CancelsAll]
  | subscribeSessionMessageEvents c k => simp [step, SubscribesToAll, CancelsAll]
  | unsubscribeSessionMessageEvents c k => simp [step, SubscribesToAll, CancelsAll]
  | unsubscribeAllSessionEvents c => simp [step, hunsubscribe, SubscribesToAll, CancelsAll]
  | clear => simp [step, initial, SubscribesToAll, CancelsAll]

theorem not_has_blank_step (s : SessionSubscribers) (op : SubscriptionStep)
    (h : s.sessionEventSubscribers.has "" = false) :
    (s.step op).sessionEventSubscribers.has "" = false := by
  have hdelete (c : String) : (unsubscribe c s.sessionEventSubscribers).has "" = false := by
    unfold unsubscribe
    split_ifs
    · exact h
    · rw [← Bool.not_eq_true, OrderedMap.has_delete, h]
      simp
  cases op with
  | subscribeSessionEvents c =>
    simp only [step, subscribe]
    split_ifs with hblank
    · exact h
    · rw [OrderedSet.has_add, h, Bool.or_false, decide_eq_false_iff_not]
      exact fun e => hblank e.symm
  | unsubscribeSessionEvents c => exact hdelete c
  | subscribeSessionMessageEvents c k => exact h
  | unsubscribeSessionMessageEvents c k => exact h
  | unsubscribeAllSessionEvents c => exact hdelete c
  | clear => rfl

theorem mem_events_run (ops : List SubscriptionStep) (connId : String) :
    (run step initial ops).sessionEventSubscribers.has connId = true ↔
      connId ≠ "" ∧ LiveSince (SubscribesToAll connId) (CancelsAll connId) ops := by
  by_cases hc : connId = ""
  · simp [hc, run_of_step not_has_blank_step (s := initial) rfl ops]
  · rw [run_iff_last
      (P := fun s : SessionSubscribers => s.sessionEventSubscribers.has connId = true)
      (fun s op => events_step s op hc) initial ops]
    simp [hc, initial]

/-- The connection has a live subscription that covers the session. -/
def Covers (ops : List SubscriptionStep) (connId sessionKey : String) : Prop :=
  connId ≠ "" ∧ (LiveSince (SubscribesToAll connId) (CancelsAll connId) ops ∨
    (jsTrim sessionKey ≠ "" ∧
      LiveSince (SubscribesTo connId (jsTrim sessionKey)) (CancelsTo connId (jsTrim sessionKey))
        ops))

theorem transcriptRecipients_iff (ops : List SubscriptionStep) (connId sessionKey : String) :
    ((run step initial ops).transcriptRecipients sessionKey).has connId = true ↔
      Covers ops connId sessionKey := by
  have hget (r : SessionMessageSubscriberRegistry) : (r.get sessionKey).has connId = true ↔
      jsTrim sessionKey ≠ "" ∧ r.twoWay.left.Related (jsTrim sessionKey) connId := by
    rw [MultiMap.related_iff_getD, SessionMessageSubscriberRegistry.get]
    split_ifs with hblank
    · simp [hblank]
    · simp [hblank, SessionMessageSubscriberRegistry.twoWay]
  rw [transcriptRecipients, OrderedSet.has_foldl_add, OrderedSet.has_foldl_add,
    ← OrderedSet.has_iff_mem, ← OrderedSet.has_iff_mem, hget, (registry_represents ops).left,
    mem_events_run, Covers]
  simp
  tauto

/-- The call sends an event of this name to the connection. -/
def SendsTo (event connId : String) (call : TargetedBroadcast) : Bool :=
  call.event = event && call.connIds.has connId

/-- After every run of subscriptions a transcript update with a session key and a message is sent
once to each connection with a live subscription that covers the session, also when it has two, and
to no other; the session list changes for those with a live subscription to all sessions. -/
theorem transcriptUpdate_recipients (ops : List SubscriptionStep) (view : SessionStoreView)
    (update : SessionTranscriptUpdate) (sessionKey : String)
    (hkey : update.sessionKey.orElse
      (fun _ => view.resolveSessionKeyForTranscriptFile update.sessionFile) = some sessionKey)
    (hblank : sessionKey ≠ "") (hmessage : update.message ≠ .undefined) (connId : String) :
    let calls := handleTranscriptUpdate view update (run step initial ops)
    (calls.countP (SendsTo "session.message" connId) ≤ 1 ∧
      (0 < calls.countP (SendsTo "session.message" connId) ↔ Covers ops connId sessionKey)) ∧
    (calls.countP (SendsTo "sessions.changed" connId) ≤ 1 ∧
      (0 < calls.countP (SendsTo "sessions.changed" connId) ↔
        connId ≠ "" ∧ LiveSince (SubscribesToAll connId) (CancelsAll connId) ops)) ∧
    ∀ call ∈ calls, call.event = "session.message" ∨ call.event = "sessions.changed" := by
  have hcovers := transcriptRecipients_iff ops connId sessionKey
  have hall := mem_events_run ops connId
  have hsub : (run step initial ops).sessionEventSubscribers.has connId = true →
      ((run step initial ops).transcriptRecipients sessionKey).has connId = true := by
    rw [hcovers, hall]
    exact fun h => ⟨h.1, .inl h.2⟩
  unfold handleTranscriptUpdate
  rw [hkey]
  simp only [hblank, hmessage, or_self, if_false]
  rw [← hcovers, ← hall]
  split_ifs with hsize hevents
  · rw [OrderedSet.size_eq_zero] at hsize
    have hnone := hsize connId
    rw [hnone] at hsub ⊢
    simp only [Bool.false_eq_true, imp_false] at hsub
    simp [hsub]
  · have hnone := OrderedSet.size_eq_zero.1 hevents connId
    cases hr : ((run step initial ops).transcriptRecipients sessionKey).has connId <;>
      simp [SendsTo, hr, hnone]
  · cases hr : ((run step initial ops).transcriptRecipients sessionKey).has connId <;>
      cases he : (run step initial ops).sessionEventSubscribers.has connId <;>
        simp [SendsTo, hr, he]

/-- A connection that subscribed to all sessions and to the session's messages is sent one
update. -/
theorem transcriptUpdate_recipients_twice :
    let ops : List SubscriptionStep := [
      .subscribeSessionEvents "conn", .subscribeSessionMessageEvents " conn " "main"]
    let view : SessionStoreView := ⟨fun _ => none, fun _ => some 3, fun _ _ => [], 0⟩
    let update : SessionTranscriptUpdate := ⟨"main.jsonl", some "main", .obj [], none⟩
    (handleTranscriptUpdate view update (run step initial ops)).countP
        (SendsTo "session.message" "conn") ≤ 1 ∧
      0 < (handleTranscriptUpdate view update (run step initial ops)).countP
        (SendsTo "session.message" "conn") := by
  intro ops view update
  have h := transcriptUpdate_recipients ops view update "main" rfl (by decide) (by simp [update])
    "conn"
  exact ⟨h.1.1, by decide +kernel⟩

end SessionSubscribers

/-! ## Subscriptions of nodes -/

/-- `createNodeSubscriptionManager`. -/
structure NodeSubscriptionManager where
  nodeSubscriptions : MultiMap String String
  sessionSubscribers : MultiMap String String

structure NodeEvent where
  nodeId : String
  event : String
  /-- The value of `payloadJSON`, or `none` for `null`. -/
  payload : Option JsValue
  deriving DecidableEq

inductive NodeSubscriptionStep
  | subscribe (nodeId sessionKey : String)
  | unsubscribe (nodeId sessionKey : String)
  | unsubscribeAll (nodeId : String)
  | clear

namespace NodeSubscriptionManager

def initial : NodeSubscriptionManager := ⟨OrderedMap.empty, OrderedMap.empty⟩

def subscribe (nodeId sessionKey : String) (m : NodeSubscriptionManager) :
    NodeSubscriptionManager :=
  let nodeId := jsTrim nodeId
  let sessionKey := jsTrim sessionKey
  if nodeId = "" ∨ sessionKey = "" then m
  else if ((m.nodeSubscriptions.get? nodeId).getD OrderedMap.empty).has sessionKey then m
  else ⟨m.nodeSubscriptions.insert nodeId sessionKey, m.sessionSubscribers.insert sessionKey nodeId⟩

def unsubscribe (nodeId sessionKey : String) (m : NodeSubscriptionManager) :
    NodeSubscriptionManager :=
  let nodeId := jsTrim nodeId
  let sessionKey := jsTrim sessionKey
  if nodeId = "" ∨ sessionKey = "" then m
  else ⟨m.nodeSubscriptions.remove nodeId sessionKey, m.sessionSubscribers.remove sessionKey nodeId⟩

def unsubscribeAll (nodeId : String) (m : NodeSubscriptionManager) : NodeSubscriptionManager :=
  let nodeId := jsTrim nodeId
  match m.nodeSubscriptions.get? nodeId with
  | none => m
  | some nodeSet =>
    ⟨m.nodeSubscriptions.delete nodeId, m.sessionSubscribers.removeFrom nodeSet.keys nodeId⟩

def step (m : NodeSubscriptionManager) : NodeSubscriptionStep → NodeSubscriptionManager
  | .subscribe nodeId sessionKey => m.subscribe nodeId sessionKey
  | .unsubscribe nodeId sessionKey => m.unsubscribe nodeId sessionKey
  | .unsubscribeAll nodeId => m.unsubscribeAll nodeId
  | .clear => initial

def toPayloadJSON (payload : JsValue) : Option JsValue :=
  if payload.truthy then some payload.wire else none

/-- The events that `sendToSession` sends. -/
def sendToSession (sessionKey event : String) (payload : JsValue) (m : NodeSubscriptionManager) :
    List NodeEvent :=
  let sessionKey := jsTrim sessionKey
  if sessionKey = "" then []
  else
    ((m.sessionSubscribers.get? sessionKey).getD OrderedMap.empty).keys.map fun nodeId =>
      ⟨nodeId, event, toPayloadJSON payload⟩

/-- The events that `sendToAllSubscribed` sends. -/
def sendToAllSubscribed (event : String) (payload : JsValue) (m : NodeSubscriptionManager) :
    List NodeEvent :=
  m.nodeSubscriptions.keys.map fun nodeId => ⟨nodeId, event, toPayloadJSON payload⟩

def twoWay (m : NodeSubscriptionManager) : TwoWay String String :=
  ⟨m.nodeSubscriptions, m.sessionSubscribers⟩

end NodeSubscriptionManager

namespace NodeSubscriptionStep

/-- The node's operation as one of a connection. -/
def ofConnection : NodeSubscriptionStep → SubscriptionStep
  | .subscribe nodeId sessionKey => .subscribeSessionMessageEvents nodeId sessionKey
  | .unsubscribe nodeId sessionKey => .unsubscribeSessionMessageEvents nodeId sessionKey
  | .unsubscribeAll nodeId => .unsubscribeAllSessionEvents nodeId
  | .clear => .clear

/-- The operation on the relation of nodes to session keys. -/
def relationStep? : NodeSubscriptionStep → Option (TwoWayStep String String)
  | .unsubscribeAll nodeId => some (.unlinkAll (jsTrim nodeId))
  | op => op.ofConnection.relationStep?

/-- The node subscribes to the session. -/
def SubscribesTo (nodeId sessionKey : String) (op : NodeSubscriptionStep) : Prop :=
  op.ofConnection.SubscribesTo nodeId sessionKey

/-- The node loses its subscription to the session. -/
def CancelsTo (nodeId sessionKey : String) (op : NodeSubscriptionStep) : Prop :=
  op.ofConnection.CancelsTo nodeId sessionKey

end NodeSubscriptionStep

namespace NodeSubscriptionManager

open NodeSubscriptionStep

/-- The node has a live subscription to the session. -/
def Subscribed (ops : List NodeSubscriptionStep) (nodeId sessionKey : String) : Prop :=
  (nodeId ≠ "" ∧ sessionKey ≠ "") ∧
    LiveSince (SubscribesTo nodeId sessionKey) (CancelsTo nodeId sessionKey) ops

theorem twoWay_unsubscribeAll (m : NodeSubscriptionManager) (nodeId : String) :
    (m.unsubscribeAll nodeId).twoWay = m.twoWay.step (.unlinkAll (jsTrim nodeId)) := by
  simp only [unsubscribeAll, TwoWay.step, twoWay]
  split <;> rename_i h <;> simp [h]

theorem represents_step (m : NodeSubscriptionManager) (op : NodeSubscriptionStep)
    (R : String → String → Prop) (h : m.twoWay.Represents R) :
    (m.step op).twoWay.Represents (op.relationStep?.elim R (TwoWay.relate R)) := by
  cases op with
  | subscribe nodeId sessionKey =>
    simp only [step, subscribe, relationStep?, ofConnection, SubscriptionStep.relationStep?]
    split_ifs with hblank hhas
    · exact h
    · -- The node is subscribed already, so that linking it changes nothing.
      have hR : R (jsTrim nodeId) (jsTrim sessionKey) :=
        (h.right _ _).1 (MultiMap.related_iff_getD.2 hhas)
      refine h.congr fun a b => ?_
      simp only [Option.elim, TwoWay.relate, TwoWay.Links, TwoWay.Unlinks, not_false_eq_true,
        and_true, iff_or_self]
      rintro ⟨rfl, rfl⟩
      exact hR
    · exact h.step (.link (jsTrim nodeId) (jsTrim sessionKey))
  | unsubscribe nodeId sessionKey =>
    simp only [step, unsubscribe, relationStep?, ofConnection, SubscriptionStep.relationStep?]
    split_ifs with hblank
    · exact h
    · exact h.step (.unlink (jsTrim nodeId) (jsTrim sessionKey))
  | unsubscribeAll nodeId =>
    show (m.unsubscribeAll nodeId).twoWay.Represents _
    rw [twoWay_unsubscribeAll]
    exact h.step (.unlinkAll (jsTrim nodeId))
  | clear => exact h.step .clear

/-- The two maps relate a node to a session exactly while its subscription is live. -/
theorem represents_run (ops : List NodeSubscriptionStep) :
    (run step initial ops).twoWay.Represents (Subscribed ops) := by
  have hempty : initial.twoWay = TwoWay.empty := rfl
  have hrun := TwoWay.represents_run relationStep? represents_step hempty ops
  refine hrun.congr fun nodeId sessionKey => ?_
  have hlinks (op : NodeSubscriptionStep) :
      (∃ r ∈ op.relationStep?, TwoWay.Links nodeId sessionKey r) ↔
        (nodeId ≠ "" ∧ sessionKey ≠ "") ∧ op.SubscribesTo nodeId sessionKey := by
    cases op with
    | unsubscribeAll n =>
      simp [relationStep?, TwoWay.Links, NodeSubscriptionStep.SubscribesTo, ofConnection,
        SubscriptionStep.SubscribesTo]
    | subscribe n k =>
      exact SessionSubscribers.links_relationStep? nodeId sessionKey (ofConnection (.subscribe n k))
    | unsubscribe n k =>
      exact SessionSubscribers.links_relationStep? nodeId sessionKey
        (ofConnection (.unsubscribe n k))
    | clear => exact SessionSubscribers.links_relationStep? nodeId sessionKey .clear
  by_cases hblank : nodeId ≠ "" ∧ sessionKey ≠ ""
  · have hunlinks (op : NodeSubscriptionStep) :
        (∃ r ∈ op.relationStep?, TwoWay.Unlinks nodeId sessionKey r) ↔
          op.CancelsTo nodeId sessionKey := by
      cases op with
      | unsubscribeAll n =>
        simp [relationStep?, TwoWay.Unlinks, NodeSubscriptionStep.CancelsTo, ofConnection,
          SubscriptionStep.CancelsTo]
      | subscribe n k =>
        exact SessionSubscribers.unlinks_relationStep? hblank.1 hblank.2
          (ofConnection (.subscribe n k))
      | unsubscribe n k =>
        exact SessionSubscribers.unlinks_relationStep? hblank.1 hblank.2
          (ofConnection (.unsubscribe n k))
      | clear => exact SessionSubscribers.unlinks_relationStep? hblank.1 hblank.2 .clear
    rw [liveSince_congr hlinks hunlinks, liveSince_and, Subscribed]
  · rw [liveSince_congr hlinks (fun _ => Iff.rfl), liveSince_and, Subscribed]
    simp [hblank]

/-- After every run of subscriptions an event for a session is sent, once each and unchanged but for
a falsy payload, which becomes `null`, to exactly the nodes with a live subscription to it, and one
for all nodes to exactly those with a live subscription to some session. -/
theorem nodeRecipients_run (ops : List NodeSubscriptionStep) (sessionKey event : String)
    (payload : JsValue) :
    let m := run step initial ops
    (((m.sendToSession sessionKey event payload).map (·.nodeId)).Nodup ∧
      ∀ e : NodeEvent, e ∈ m.sendToSession sessionKey event payload ↔
        Subscribed ops e.nodeId (jsTrim sessionKey) ∧ e.event = event ∧
          e.payload = toPayloadJSON payload) ∧
    ((m.sendToAllSubscribed event payload).map (·.nodeId)).Nodup ∧
      ∀ e : NodeEvent, e ∈ m.sendToAllSubscribed event payload ↔
        (∃ key, Subscribed ops e.nodeId key) ∧ e.event = event ∧
          e.payload = toPayloadJSON payload := by
  intro m
  have h := represents_run ops
  have hmem (l : List String) (e : NodeEvent) :
      e ∈ l.map (fun nodeId => ⟨nodeId, event, toPayloadJSON payload⟩) ↔
        e.nodeId ∈ l ∧ e.event = event ∧ e.payload = toPayloadJSON payload := by
    rw [List.mem_map]
    constructor
    · rintro ⟨nodeId, hl, rfl⟩
      exact ⟨hl, rfl, rfl⟩
    · rintro ⟨hl, rfl, hp⟩
      exact ⟨e.nodeId, hl, by rw [← hp]⟩
  have hids (l : List String) :
      (l.map fun nodeId => (⟨nodeId, event, toPayloadJSON payload⟩ : NodeEvent)).map (·.nodeId) =
        l := by
    rw [List.map_map]
    exact List.map_id l
  refine ⟨?_, ?_, fun e => ?_⟩
  · simp only [sendToSession]
    split_ifs with hblank
    · refine ⟨List.nodup_nil, fun e => ?_⟩
      simp [Subscribed, hblank]
    · rw [hids]
      refine ⟨OrderedMap.nodup_keys _, fun e => ?_⟩
      rw [hmem, ← h.left, MultiMap.related_iff_getD, OrderedSet.has_iff_mem]
      rfl
  · rw [sendToAllSubscribed, hids]
    exact OrderedMap.nodup_keys _
  · rw [sendToAllSubscribed, hmem, ← h.mem_keys_right]
    rfl

end NodeSubscriptionManager

end Vertx
