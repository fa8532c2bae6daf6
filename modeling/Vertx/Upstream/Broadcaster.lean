import Vertx.Adapter.Normalize
import Vertx.Lib.Broadcast
import Vertx.Lib.Numbered
import Vertx.Lib.OrderedMap
import Vertx.Lib.Runs

/-!
# The upstream broadcaster

`createGatewayBroadcaster` numbers the frames it broadcasts with one counter and sends frames for
chosen connections without a number.  A connection receives a frame when it has the scope of the
event and its socket is not too slow; a slow socket loses a frame that may be dropped and is closed
by any other.  `sent_exact` says which frames a connection is sent, `numbersConsecutive_iff` when
their numbers have no gap.
-/

namespace Vertx

open Runs Broadcast

/-! ## Scopes -/

def adminScope : String := "operator.admin"
def readScope : String := "operator.read"
def writeScope : String := "operator.write"
def approvalsScope : String := "operator.approvals"
def pairingScope : String := "operator.pairing"

/-- The scopes one of which an event requires, for the guarded events. -/
def eventScopeGuards (event : String) : Option (List String) :=
  if event = "exec.approval.requested" ∨ event = "exec.approval.resolved" ∨
      event = "plugin.approval.requested" ∨ event = "plugin.approval.resolved" then
    some [approvalsScope]
  else if event = "device.pair.requested" ∨ event = "device.pair.resolved" ∨
      event = "node.pair.requested" ∨ event = "node.pair.resolved" then
    some [pairingScope]
  else if event = "sessions.changed" ∨ event = "session.message" ∨ event = "session.tool" then
    some [readScope]
  else none

/-- What a client has connected with.  `scopes` is missing when it is no array. -/
structure GatewayWsClient where
  connId : String
  role : Option String
  scopes : Option (List String)
  deriving DecidableEq, Repr

def hasEventScope (client : GatewayWsClient) (event : String) : Bool :=
  match eventScopeGuards event with
  | none => true
  | some required =>
    if client.role.getD "operator" ≠ "operator" then false
    else
      let scopes := client.scopes.getD []
      if adminScope ∈ scopes then true
      else if readScope ∈ required then readScope ∈ scopes || writeScope ∈ scopes
      else required.any (· ∈ scopes)

/-! ## The broadcaster -/

def maxBufferedBytes : ℕ := 50 * 1024 * 1024

structure GatewayBroadcastOpts where
  dropIfSlow : Bool
  stateVersion : JsValue

/-- A call of `broadcast`, or with `targetConnIds` of `broadcastToConnIds`.  `bufferedAmount` is
what the socket of each connection has not sent yet at the call. -/
structure GatewayBroadcast where
  event : String
  payload : JsValue
  opts : GatewayBroadcastOpts
  targetConnIds : Option (OrderedSet String)
  bufferedAmount : ℕ → ℕ

/-- A call that was given a frame; broadcast frames have a number. -/
structure PublishedFrame where
  call : GatewayBroadcast
  seq : Option ℕ

/-- The frame as it is read from its text. -/
def PublishedFrame.frame (p : PublishedFrame) : OpenClawEventFrame where
  event := .str p.call.event
  seq := (p.seq.map fun n => .num (.ofNat n)).getD .undefined
  payload := p.call.payload.wire
  stateVersion := p.call.opts.stateVersion.wire

/-- A connection: whether it is one of the broadcaster's clients, whether its socket is open, the
frames sent over it, oldest first, and how many frames had been published when it became a client
and when it was first no client or closed. -/
structure GatewayWsSocket where
  client : GatewayWsClient
  member : Bool
  isOpen : Bool
  sent : List PublishedFrame
  joined : ℕ
  left : Option ℕ

/-- The broadcaster with the frames published so far, oldest first. -/
structure GatewayBroadcaster where
  seq : ℕ
  sockets : List GatewayWsSocket
  published : List PublishedFrame

/-- One thing that happens to the broadcaster. -/
inductive BroadcasterStep
  | connect (client : GatewayWsClient)
  /-- The socket of a connection stops being open. -/
  | close (i : ℕ)
  /-- The connection's handler takes it out of the clients. -/
  | remove (i : ℕ)
  | broadcast (event : String) (payload : JsValue) (opts : GatewayBroadcastOpts)
    (bufferedAmount : ℕ → ℕ)
  | broadcastToConnIds (event : String) (payload : JsValue) (connIds : OrderedSet String)
    (opts : GatewayBroadcastOpts) (bufferedAmount : ℕ → ℕ)

namespace GatewayBroadcast

/-- The connection is meant to receive the frame. -/
def addresses (call : GatewayBroadcast) (client : GatewayWsClient) : Bool :=
  (match call.targetConnIds with
    | none => true
    | some connIds => connIds.has client.connId) &&
  hasEventScope client call.event

def slow (call : GatewayBroadcast) (i : ℕ) : Bool := maxBufferedBytes < call.bufferedAmount i

end GatewayBroadcast

namespace GatewayWsSocket

/-- The socket can be sent frames. -/
def live (s : GatewayWsSocket) : Bool := s.member && s.isOpen

def close (n : ℕ) (s : GatewayWsSocket) : GatewayWsSocket :=
  { s with isOpen := false, left := if s.live then some n else s.left }

def remove (n : ℕ) (s : GatewayWsSocket) : GatewayWsSocket :=
  { s with member := false, left := if s.live then some n else s.left }

/-- The broadcaster's loop at the connection with number `i`, when `n` frames are published. -/
def offer (n i : ℕ) (p : PublishedFrame) (s : GatewayWsSocket) : GatewayWsSocket :=
  if !s.member then s
  else if !p.call.addresses s.client then s
  else if p.call.slow i && p.call.opts.dropIfSlow then s
  else if p.call.slow i then s.close n
  else if s.isOpen then { s with sent := s.sent ++ [p] }
  else s

end GatewayWsSocket

namespace GatewayBroadcaster

def initial : GatewayBroadcaster := ⟨0, [], []⟩

def broadcastInternal (call : GatewayBroadcast) (b : GatewayBroadcaster) : GatewayBroadcaster :=
  if b.sockets.all (!·.member) then b
  else
    let isTargeted := call.targetConnIds.isSome
    let p : PublishedFrame := ⟨call, if isTargeted then none else some (b.seq + 1)⟩
    { seq := if isTargeted then b.seq else b.seq + 1
      sockets := b.sockets.mapIdx fun i => (·.offer (b.published.length + 1) i p)
      published := b.published ++ [p] }

def step (b : GatewayBroadcaster) : BroadcasterStep → GatewayBroadcaster
  | .connect client =>
    { b with sockets := b.sockets ++ [⟨client, true, true, [], b.published.length, none⟩] }
  | .close i => { b with sockets := b.sockets.modify i (·.close b.published.length) }
  | .remove i => { b with sockets := b.sockets.modify i (·.remove b.published.length) }
  | .broadcast event payload opts bufferedAmount =>
    b.broadcastInternal ⟨event, payload, opts, none, bufferedAmount⟩
  | .broadcastToConnIds event payload connIds opts bufferedAmount =>
    if connIds.size = 0 then b
    else b.broadcastInternal ⟨event, payload, opts, some connIds, bufferedAmount⟩

end GatewayBroadcaster

/-! ## What a connection is sent -/

/-- The frame is sent to the connection with number `i` as long as its socket is live. -/
def PublishedFrame.reaches (i : ℕ) (client : GatewayWsClient) (p : PublishedFrame) : Bool :=
  p.call.addresses client && !p.call.slow i

/-- The frame closes the socket of the connection with number `i`. -/
def PublishedFrame.closes (i : ℕ) (client : GatewayWsClient) (p : PublishedFrame) : Bool :=
  p.call.addresses client && p.call.slow i && !p.call.opts.dropIfSlow

namespace GatewayWsSocket

variable {s : GatewayWsSocket} {n i : ℕ} {p : PublishedFrame} {log : List PublishedFrame}

/-- The part of the published frames that the connection was a live client for. -/
def attended (log : List PublishedFrame) (s : GatewayWsSocket) : List PublishedFrame :=
  (log.take (s.left.getD log.length)).drop s.joined

theorem offer_of_not_live (h : s.live = false) :
    (s.offer n i p).live = false ∧ (s.offer n i p).left = s.left ∧
    (s.offer n i p).sent = s.sent := by
  unfold offer
  rw [live, Bool.and_eq_false_iff] at h
  split_ifs with hm _ _ _ ho <;> simp_all [live, close]

theorem offer_of_live (h : s.live = true) :
    (s.offer n i p).sent = s.sent ++ [p].filter (·.reaches i s.client) ∧
      (s.offer n i p).live = !p.closes i s.client ∧
      (s.offer n i p).left = if p.closes i s.client then some n else s.left := by
  have hlive := h
  rw [live, Bool.and_eq_true] at h
  unfold offer PublishedFrame.reaches PublishedFrame.closes
  cases ha : p.call.addresses s.client <;> cases hs : p.call.slow i <;>
    cases p.call.opts.dropIfSlow <;> simp [close, live, h.1, h.2, ha, hs]

theorem offer_client : (s.offer n i p).client = s.client ∧ (s.offer n i p).joined = s.joined := by
  unfold offer
  split_ifs <;> exact ⟨rfl, rfl⟩

/-- The connection is a subscriber to the published frames; of what it attended it has been sent
what reaches it. -/
def Attends (i : ℕ) (log : List PublishedFrame) (s : GatewayWsSocket) : Prop :=
  Subscriber.Consistent log ⟨s.client, s.live, s.attended log, s.joined, s.left⟩ ∧
    s.sent = (s.attended log).filter (·.reaches i s.client)

/-- Only what the record of a connection says matters. -/
theorem Attends.congr {s' : GatewayWsSocket} (h : s.Attends i log) (hclient : s'.client = s.client)
    (hjoined : s'.joined = s.joined) (hsent : s'.sent = s.sent) (hlive : s'.live = s.live)
    (hleft : s'.left = s.left) : s'.Attends i log := by
  unfold Attends attended at *
  rw [hclient, hjoined, hsent, hlive, hleft]
  exact h

/-- A socket that stops being live leaves. -/
theorem Attends.leave {s' : GatewayWsSocket} (h : s.Attends i log) (hclient : s'.client = s.client)
    (hjoined : s'.joined = s.joined) (hsent : s'.sent = s.sent) (hlive : s'.live = false)
    (hleft : s'.left = if s.live then some log.length else s.left) : s'.Attends i log := by
  have hr := h.1.leave
  have hattended : s'.attended log = s.attended log := by
    unfold attended
    rw [hleft, hjoined]
    split_ifs with hm
    · have hnone : s.left = none := h.1.member.1 hm
      rw [hnone]
      rfl
    · rfl
  refine ⟨?_, by rw [hsent, hattended, hclient, h.2]⟩
  rw [hattended, hclient, hjoined, hlive, hleft]
  unfold Subscriber.leave at hr
  split_ifs at hr ⊢ with hm
  · exact hr
  · rw [Bool.not_eq_true] at hm
    rwa [hm] at hr

theorem Attends.offer (h : s.Attends i log) (p : PublishedFrame) :
    (s.offer (log.length + 1) i p).Attends i (log ++ [p]) := by
  have hr := h.1.receive p
  unfold Subscriber.receive at hr
  cases hlive : s.live with
  | false =>
    obtain ⟨hlive', hleft, hsent⟩ := offer_of_not_live (n := log.length + 1) (i := i) (p := p) hlive
    rw [hlive, if_neg (by simp)] at hr
    have hattended : s.attended (log ++ [p]) = s.attended log := hr.received.symm
    have hs : s.Attends i (log ++ [p]) := by
      refine ⟨?_, by rw [hattended, h.2]⟩
      rw [hattended, hlive]
      exact hr
    exact hs.congr offer_client.1 offer_client.2 hsent (hlive'.trans hlive.symm) hleft
  | true =>
    obtain ⟨hsent, hlive', hleft⟩ := offer_of_live (n := log.length + 1) (i := i) (p := p) hlive
    rw [hlive, if_pos rfl] at hr
    -- The socket attends the frame with its old life, and leaves when the frame has closed it.
    have hattended : s.attended (log ++ [p]) = s.attended log ++ [p] := hr.received.symm
    have hs : ({ s with sent := (s.offer (log.length + 1) i p).sent } : GatewayWsSocket).Attends i
        (log ++ [p]) := by
      constructor
      · show Subscriber.Consistent _ ⟨s.client, s.live, s.attended (log ++ [p]), s.joined, s.left⟩
        rw [hattended, hlive]
        exact hr
      · show _ = (s.attended (log ++ [p])).filter _
        rw [hattended, List.filter_append, ← h.2]
        exact hsent
    cases hc : p.closes i s.client with
    | true =>
      rw [hc] at hlive' hleft
      refine hs.leave offer_client.1 offer_client.2 rfl hlive' ?_
      have hlength : (log ++ [p]).length = log.length + 1 := by simp
      rw [hleft, hlength]
      exact (if_pos hlive).symm
    | false =>
      rw [hc] at hlive' hleft
      exact hs.congr offer_client.1 offer_client.2 rfl (hlive'.trans hlive.symm) hleft

end GatewayWsSocket

namespace GatewayBroadcaster

variable {b : GatewayBroadcaster}

/-- Every connection has been sent its part, and the broadcast frames are numbered from one. -/
structure Consistent (b : GatewayBroadcaster) : Prop where
  attends : ∀ i (s : GatewayWsSocket), b.sockets[i]? = some s → s.Attends i b.published
  numbered : b.published.filterMap (·.seq) = List.range' 1 b.seq

theorem consistent_initial : initial.Consistent := ⟨by simp [initial], rfl⟩

theorem Consistent.modify {f : GatewayWsSocket → GatewayWsSocket} (h : b.Consistent) (i : ℕ)
    (hf : ∀ j s, s.Attends j b.published → (f s).Attends j b.published) :
    ({ b with sockets := b.sockets.modify i f } : GatewayBroadcaster).Consistent := by
  refine ⟨fun j s hs => ?_, h.numbered⟩
  rw [List.getElem?_modify] at hs
  obtain ⟨s', hs', rfl⟩ := Option.map_eq_some_iff.1 hs
  split_ifs
  · exact hf j s' (h.attends j s' hs')
  · exact h.attends j s' hs'

theorem Consistent.broadcastInternal (h : b.Consistent) (call : GatewayBroadcast) :
    (b.broadcastInternal call).Consistent := by
  unfold GatewayBroadcaster.broadcastInternal
  split_ifs with hall
  · exact h
  refine ⟨fun i s hs => ?_, ?_⟩
  · rw [List.getElem?_mapIdx] at hs
    obtain ⟨s', hs', rfl⟩ := Option.map_eq_some_iff.1 hs
    exact (h.attends i s' hs').offer _
  · cases htarget : call.targetConnIds.isSome with
    | true => simp [h.numbered]
    | false => simp [h.numbered, List.range'_concat, Nat.add_comm]

theorem consistent_step (h : b.Consistent) (step : BroadcasterStep) : (b.step step).Consistent := by
  cases step with
  | connect client =>
    refine ⟨fun i s hs => ?_, h.numbered⟩
    simp only [GatewayBroadcaster.step, List.getElem?_append] at hs
    split_ifs at hs with hi
    · exact h.attends i s hs
    · obtain ⟨-, rfl⟩ := List.getElem?_eq_some_iff.1 hs
      refine ⟨?_, ?_⟩
      · simp only [List.getElem_singleton]
        exact ⟨rfl, by simp [GatewayWsSocket.live], le_rfl, by simp⟩
      · simp [GatewayWsSocket.attended, GatewayBroadcaster.step]
  | close i =>
    exact h.modify i fun j s hs => hs.leave rfl rfl rfl (Bool.and_false _) rfl
  | remove i => exact h.modify i fun j s hs => hs.leave rfl rfl rfl (Bool.false_and _) rfl
  | broadcast event payload opts bufferedAmount => exact h.broadcastInternal _
  | broadcastToConnIds event payload connIds opts bufferedAmount =>
    simp only [GatewayBroadcaster.step]
    split_ifs
    · exact h
    · exact h.broadcastInternal _

theorem consistent_run (steps : List BroadcasterStep) :
    (run GatewayBroadcaster.step initial steps).Consistent := by
  have hkeep (b : GatewayBroadcaster) (step : BroadcasterStep) (h : b.Consistent) :
      (b.step step).Consistent := consistent_step h step
  exact run_of_step hkeep consistent_initial steps

/-- The numbers of the frames, which those for chosen connections do not have. -/
def numbers (frames : List PublishedFrame) : List ℕ := frames.filterMap (·.seq)

/-- In every run a connection is sent, once and in order, what is published while it is a client
with an open socket, is meant for it and finds its socket fast enough.  Its numbers increase, and
they have a gap exactly when a numbered frame that did not reach it lies between two that did. -/
theorem sent_exact (steps : List BroadcasterStep) (i : ℕ) (s : GatewayWsSocket)
    (hs : (run step initial steps).sockets[i]? = some s) :
    s.sent = (s.attended (run step initial steps).published).filter (·.reaches i s.client) ∧
      (numbers s.sent).Pairwise (· < ·) ∧
      ((numbers s.sent).IsChain (fun m n => n = m + 1) ↔
        ∀ p ∈ s.attended (run step initial steps).published, ∀ n, p.seq = some n →
          p.reaches i s.client = false →
          ∀ m ∈ numbers s.sent, ∀ k ∈ numbers s.sent, ¬ (m < n ∧ n < k)) := by
  have hb := consistent_run steps
  obtain ⟨-, hsent⟩ := hb.attends i s hs
  have hrange : (s.attended (run step initial steps).published).filterMap (·.seq) <:+:
      List.range' 1 (run step initial steps).seq := by
    rw [← hb.numbered]
    exact ((List.drop_suffix _ _).isInfix.trans (List.take_prefix _ _).isInfix).filterMap _
  have hchain : ((s.attended (run step initial steps).published).filterMap (·.seq)).IsChain
      fun m n => n = m + 1 := by
    have hall := List.isChain_range' 1 (run step initial steps).seq 1
    obtain ⟨before, after, happend⟩ := hrange
    rw [← happend] at hall
    exact hall.left_of_append.right_of_append
  refine ⟨hsent, ?_, ?_⟩
  · rw [numbers, hsent]
    have hsub := (List.filter_sublist (p := (·.reaches i s.client))
      (l := s.attended (run step initial steps).published)).filterMap (·.seq)
    exact (List.pairwise_lt_range' 1).sublist (hsub.trans hrange.sublist)
  · rw [numbers, hsent]
    exact Numbered.isChain_filter_iff hchain

/-- A connection without the approvals scope misses the number of an approval event. -/
theorem sent_exact_approval :
    let opts : GatewayBroadcastOpts := ⟨false, .undefined⟩
    let steps : List BroadcasterStep := [
      .connect ⟨"conn", none, some [readScope, writeScope]⟩,
      .broadcast "health" .null opts fun _ => 0,
      .broadcast "exec.approval.requested" .null opts fun _ => 0,
      .broadcast "tick" .null opts fun _ => 0]
    ∃ s, (run step initial steps).sockets[0]? = some s ∧ numbers s.sent = [1, 3] ∧
      s.sent = (s.attended (run step initial steps).published).filter (·.reaches 0 s.client) := by
  intro opts steps
  refine ⟨_, rfl, ?_, (sent_exact steps 0 _ rfl).1⟩
  decide +kernel

end GatewayBroadcaster

end Vertx
