import Vertx.Adapter.Links
import Vertx.Lib.Runs

/-!
# One live upstream connection

While a WebSocket is opened only after every earlier one has closed, at most one is live, the
source refers to it, and an event that upstream sends once on each connection reaches each listener
once.  `ensureConnected` does not see to that: it forgets a socket that has failed or whose connect
was rejected before that socket has closed.
-/

namespace Vertx

open Runs

namespace Links

/-- What is on its way to the `k`-th socket, unless it has closed. -/
def inbox? (l : Links) (k : ℕ) : Option (List (ℕ × Option JsValue)) :=
  l.sockets[k]?.bind fun link => if link.1 = .closed then none else some link.2

/-- The `k`-th socket has been made and has not closed. -/
def Live (l : Links) (k : ℕ) : Prop := (l.inbox? k).isSome

instance (l : Links) (k : ℕ) : Decidable (l.Live k) := inferInstanceAs (Decidable (_ = true))

/-- At most one socket is live, the source refers to it unless it has been closed itself, and no
listener has been called twice with one message. -/
structure OneConnection (l : Links) : Prop where
  unique : ∀ i j, l.Live i → l.Live j → i = j
  current : l.stopped = false → ∀ k, l.Live k → l.socket = some k
  once : (l.emitted.map fun e => (e.listener, e.message)).Nodup

/-- What holds along with it: listeners are subscribed once, and the messages on their way to the
live socket are different ones of those that upstream has sent, and were not emitted yet. -/
structure Inv (l : Links) : Prop extends OneConnection l where
  listeners : l.listeners.Nodup
  distinct : ∀ k inbox, l.inbox? k = some inbox → (inbox.map (·.1)).Nodup
  fresh : ∀ k inbox, l.inbox? k = some inbox → ∀ m ∈ inbox.map (·.1),
    m < l.messages ∧ m ∉ l.emitted.map (·.message)
  old : ∀ m ∈ l.emitted.map (·.message), m < l.messages

variable {l : Links}

theorem inbox?_modify (k : ℕ)
    (g : ReadyState × List (ℕ × Option JsValue) → ReadyState × List (ℕ × Option JsValue)) (i : ℕ) :
    { l with sockets := l.sockets.modify k g }.inbox? i =
      if k = i then
        l.sockets[i]?.bind fun link => if (g link).1 = .closed then none else some (g link).2
      else l.inbox? i := by
  simp only [inbox?, List.getElem?_modify]
  split_ifs with h
  · cases l.sockets[i]? <;> rfl
  · cases l.sockets[i]? <;> rfl

/-- A change of state of a socket that neither closes nor reopens it. -/
theorem inbox?_modify_state (k : ℕ) (g : ReadyState → ReadyState)
    (hg : ∀ r, g r = .closed ↔ r = .closed) (i : ℕ) :
    { l with sockets := l.sockets.modify k fun link => (g link.1, link.2) }.inbox? i =
      l.inbox? i := by
  rw [inbox?_modify]
  split_ifs
  · simp only [hg, inbox?]
  · rfl

/-- The socket that the source opens. -/
def connect (l : Links) : Links :=
  { l with sockets := l.sockets ++ [(.connecting, [])], socket := some l.sockets.length }

theorem inbox?_connect (i : ℕ) :
    l.connect.inbox? i = if i = l.sockets.length then some [] else l.inbox? i := by
  simp only [connect, inbox?, List.getElem?_append]
  split_ifs with hlt heq heq
  · omega
  · rfl
  · rw [heq, Nat.sub_self]
    rfl
  · have hout : l.sockets[i]? = none := List.getElem?_eq_none (by omega)
    have hout' : ([(ReadyState.connecting, [])] : List (ReadyState × List (ℕ × Option JsValue)))[
        i - l.sockets.length]? = none := List.getElem?_eq_none (by simp; omega)
    rw [hout, hout']

theorem not_live_length : ¬ l.Live l.sockets.length := by
  simp [Live, inbox?]

/-- A change that keeps the live sockets with their inboxes, what was emitted, and the listeners. -/
theorem Inv.of_inbox?_eq {m : Links} (h : l.Inv) (hinbox : ∀ i, m.inbox? i = l.inbox? i)
    (hcurrent : m.stopped = false → ∀ k, l.Live k → m.socket = some k)
    (hlisteners : m.listeners.Nodup) (hemitted : m.emitted = l.emitted)
    (hmessages : m.messages = l.messages) : m.Inv where
  unique i j := by
    simp only [Live, hinbox]
    exact h.unique i j
  current hstopped k := by
    simp only [Live, hinbox]
    exact hcurrent hstopped k
  once := by
    rw [hemitted]
    exact h.once
  listeners := hlisteners
  distinct k inbox := by
    rw [hinbox]
    exact h.distinct k inbox
  fresh k inbox := by
    rw [hinbox, hemitted, hmessages]
    exact h.fresh k inbox
  old := by
    rw [hemitted, hmessages]
    exact h.old

theorem Inv.connect (h : l.Inv) (hnone : ∀ k, ¬ l.Live k) : l.connect.Inv := by
  have hlive (k : ℕ) (hk : l.connect.Live k) : k = l.sockets.length := by
    rw [Live, inbox?_connect] at hk
    split_ifs at hk with heq
    · exact heq
    · exact absurd hk (hnone k)
  have hempty (k : ℕ) (inbox) (hk : l.connect.inbox? k = some inbox) : inbox = [] := by
    have hk' : l.connect.Live k := by rw [Live, hk]; rfl
    rw [inbox?_connect, if_pos (hlive k hk')] at hk
    exact (Option.some.inj hk).symm
  refine ⟨⟨fun i j hi hj => ?_, fun _ k hk => ?_, h.once⟩, h.listeners, fun k inbox hk => ?_,
    fun k inbox hk => ?_, h.old⟩
  · rw [hlive i hi, hlive j hj]
  · rw [hlive k hk]
    rfl
  · rw [hempty k inbox hk]
    exact List.nodup_nil
  · rw [hempty k inbox hk]
    simp

/-- A second socket opened beside a live one. -/
theorem not_oneConnection_connect {k : ℕ} (hk : l.Live k) : ¬ l.connect.OneConnection := by
  intro h
  have hne : k ≠ l.sockets.length := by
    rintro rfl
    exact not_live_length hk
  refine hne (h.unique k l.sockets.length ?_ ?_)
  · rw [Live, inbox?_connect, if_neg hne]
    exact hk
  · rw [Live, inbox?_connect, if_pos rfl]
    rfl

/-- The live socket closes. -/
theorem Inv.close {m : Links} (h : l.Inv) {k : ℕ} (hk : l.Live k)
    (hinbox : ∀ i, m.inbox? i = if k = i then none else l.inbox? i)
    (hlisteners : m.listeners = l.listeners) (hemitted : m.emitted = l.emitted)
    (hmessages : m.messages = l.messages) : m.Inv := by
  have hnone (i : ℕ) : m.inbox? i = none := by
    rw [hinbox]
    split_ifs with hi
    · rfl
    · by_contra hn
      exact hi (h.unique k i hk (Option.isSome_iff_ne_none.2 hn))
  have hdead (i : ℕ) : ¬ m.Live i := by simp [Live, hnone]
  refine ⟨⟨fun i _ hi => absurd hi (hdead i), fun _ i hi => absurd hi (hdead i), ?_⟩, ?_,
    fun i inbox hi => ?_, fun i inbox hi => ?_, ?_⟩
  · rw [hemitted]
    exact h.once
  · rw [hlisteners]
    exact h.listeners
  · rw [hnone] at hi
    cases hi
  · rw [hnone] at hi
    cases hi
  · rw [hemitted, hmessages]
    exact h.old

/-- The next message arrives and is handed to the first so many listeners. -/
theorem Inv.receive {m : Links} (h : l.Inv) {k message : ℕ} {raw : Option JsValue}
    {rest : List (ℕ × Option JsValue)} {calls : List Emission}
    (hk : l.inbox? k = some ((message, raw) :: rest))
    (hcalls : (calls.map fun e => (e.listener, e.message)) <+: l.listeners.map (·, message))
    (hinbox : ∀ i, m.inbox? i = if k = i then some rest else l.inbox? i)
    (hsocket : m.socket = l.socket) (hstopped : m.stopped = l.stopped)
    (hlisteners : m.listeners = l.listeners) (hemitted : m.emitted = l.emitted ++ calls)
    (hmessages : m.messages = l.messages) : m.Inv := by
  have hlive (i : ℕ) : m.Live i ↔ l.Live i := by
    simp only [Live, hinbox]
    split_ifs with hi
    · simp [← hi, hk]
    · rfl
  have hnodup := h.distinct k _ hk
  have hfresh := h.fresh k _ hk
  rw [List.map_cons, List.nodup_cons] at hnodup
  have hmessage : ∀ e ∈ calls, e.message = message := by
    intro e he
    have hmem := hcalls.subset (List.mem_map_of_mem he)
    simp only [List.mem_map, Prod.mk.injEq] at hmem
    obtain ⟨_, _, -, hm⟩ := hmem
    exact hm.symm
  have hpairs : (calls.map fun e => (e.listener, e.message)).Nodup := by
    refine (h.listeners.map ?_).sublist hcalls.sublist
    exact fun _ _ he => (Prod.mk.inj he).1
  refine ⟨⟨fun i j hi hj => ?_, fun hs i hi => ?_, ?_⟩, ?_, fun i inbox hi => ?_,
    fun i inbox hi => ?_, ?_⟩
  · exact h.unique i j ((hlive i).1 hi) ((hlive j).1 hj)
  · rw [hsocket]
    exact h.current (hstopped ▸ hs) i ((hlive i).1 hi)
  · rw [hemitted, List.map_append, List.nodup_append]
    refine ⟨h.once, hpairs, ?_⟩
    rintro _ hold _ hnew rfl
    obtain ⟨e, he, rfl⟩ := List.mem_map.1 hold
    obtain ⟨e', he', heq⟩ := List.mem_map.1 hnew
    have hm : e.message = message := by
      rw [← hmessage e' he']
      exact (Prod.mk.inj heq).2.symm
    exact (hfresh message (by simp)).2 (hm ▸ List.mem_map_of_mem he)
  · rw [hlisteners]
    exact h.listeners
  · rw [hinbox] at hi
    split_ifs at hi with hik
    · rw [← Option.some.inj hi]
      exact hnodup.2
    · exact h.distinct i inbox hi
  · have hi' : l.Live i := (hlive i).1 (by rw [Live, hi]; rfl)
    have hik : k = i := h.unique k i (by rw [Live, hk]; rfl) hi'
    rw [hinbox, if_pos hik] at hi
    rw [← Option.some.inj hi, hemitted, hmessages]
    intro n hn
    obtain ⟨hlt, hnot⟩ := hfresh n (List.mem_cons_of_mem _ hn)
    refine ⟨hlt, ?_⟩
    rw [List.map_append, List.mem_append]
    rintro (hold | hnew)
    · exact hnot hold
    · obtain ⟨e, he, rfl⟩ := List.mem_map.1 hnew
      rw [hmessage e he] at hn
      exact hnodup.1 hn
  · rw [hemitted, hmessages, List.map_append]
    intro n hn
    rcases List.mem_append.1 hn with hold | hnew
    · exact h.old n hold
    · obtain ⟨e, he, rfl⟩ := List.mem_map.1 hnew
      rw [hmessage e he]
      exact (hfresh message (by simp)).1

/-- Upstream sends a message to some of the sockets. -/
theorem Inv.deliver {m : Links} (h : l.Inv) {raw : Option JsValue}
    (hinbox : ∀ i, m.inbox? i = l.inbox? i ∨
      ∃ inbox, l.inbox? i = some inbox ∧ m.inbox? i = some (inbox ++ [(l.messages, raw)]))
    (hsocket : m.socket = l.socket) (hstopped : m.stopped = l.stopped)
    (hlisteners : m.listeners = l.listeners) (hemitted : m.emitted = l.emitted)
    (hmessages : m.messages = l.messages + 1) : m.Inv := by
  have hlive (i : ℕ) : m.Live i ↔ l.Live i := by
    rcases hinbox i with hi | ⟨inbox, hi, hi'⟩
    · rw [Live, Live, hi]
    · simp [Live, hi, hi']
  refine ⟨⟨fun i j hi hj => ?_, fun hs i hi => ?_, ?_⟩, ?_, fun i inbox hi => ?_,
    fun i inbox hi n hn => ?_, fun n hn => ?_⟩
  · exact h.unique i j ((hlive i).1 hi) ((hlive j).1 hj)
  · rw [hsocket]
    exact h.current (hstopped ▸ hs) i ((hlive i).1 hi)
  · rw [hemitted]
    exact h.once
  · rw [hlisteners]
    exact h.listeners
  · rcases hinbox i with hsame | ⟨before, hbefore, hafter⟩
    · exact h.distinct i inbox (hsame ▸ hi)
    · rw [hafter] at hi
      rw [← Option.some.inj hi, List.map_append, List.nodup_append]
      refine ⟨h.distinct i before hbefore, by simp, ?_⟩
      rintro n hn _ hnew rfl
      have hlt := (h.fresh i before hbefore n hn).1
      simp only [List.map_cons, List.map_nil, List.mem_singleton] at hnew
      omega
  · have hbound : ∀ n ∈ inbox.map (·.1), n < l.messages ∧ n ∉ l.emitted.map (·.message) ∨
        n = l.messages := by
      intro n hn
      rcases hinbox i with hsame | ⟨before, hbefore, hafter⟩
      · exact .inl (h.fresh i inbox (hsame ▸ hi) n hn)
      · rw [hafter] at hi
        rw [← Option.some.inj hi, List.map_append, List.mem_append] at hn
        rcases hn with hn | hn
        · exact .inl (h.fresh i before hbefore n hn)
        · exact .inr (by simpa using hn)
    rw [hemitted, hmessages]
    rcases hbound n hn with ⟨hlt, hnot⟩ | rfl
    · exact ⟨by omega, hnot⟩
    · refine ⟨by omega, fun hold => ?_⟩
      have := h.old _ hold
      omega
  · rw [hemitted] at hn
    rw [hmessages]
    have := h.old n hn
    omega

end Links

/-! ## The steps of the source -/

/-- The step calls `ensureConnected`. -/
def SourceStep.Connects (s : OpenClawGatewaySource) : SourceStep → Prop
  | .subscribe _ | .request _ _ | .getSnapshot => True
  | .reconnect timer => timer ∈ s.reconnectTimers
  | _ => False

namespace OpenClawGatewaySource

/-- A step opens a WebSocket only when every earlier one has closed. -/
def ConnectsAlone (s : OpenClawGatewaySource) (step : SourceStep) : Prop :=
  step.Connects s → s.NeedsConnection → ∀ k, ¬ s.links.Live k

variable (uuids : RandomUuids) (options : OpenClawGatewaySourceOptions) {s : OpenClawGatewaySource}

theorem links_ensureConnected_of_not (call : SourceCall) (h : ¬ s.NeedsConnection) :
    (s.ensureConnected call).links = s.links := by
  unfold ensureConnected
  by_cases hhello : s.hello.truthy ∧ s.isOpen
  · rw [if_pos hhello]
    rfl
  · obtain ⟨k, hk⟩ := Option.ne_none_iff_exists'.1 fun hn => h ⟨hhello, hn⟩
    rw [if_neg hhello, hk]
    rfl

theorem links_ensureConnected (call : SourceCall) (h : s.NeedsConnection) :
    (s.ensureConnected call).links = s.links.connect := by
  unfold ensureConnected
  rw [if_neg h.1, h.2]
  simp [links, startConnecting, Links.connect, UpstreamConnection.link]

theorem links_proceed (result : Except JsError JsValue) (call : SourceCall)
    (s : OpenClawGatewaySource) : (s.proceed uuids result call).links = s.links := by
  unfold proceed
  split
  · rfl
  · rfl
  · rfl
  · split
    · next h => exact links_sendRequest h
    · rfl
  · rfl

theorem links_timeout (timer : RequestTimer) (s : OpenClawGatewaySource) :
    (s.timeout timer).links = s.links := by
  unfold timeout
  dsimp only
  split_ifs
  · rw [links_reject]
    rfl
  · rfl

theorem inv_ensureConnected (call : SourceCall) (h : s.links.Inv)
    (hok : s.NeedsConnection → ∀ k, ¬ s.links.Live k) : (s.ensureConnected call).links.Inv := by
  by_cases hneeds : s.NeedsConnection
  · rw [links_ensureConnected call hneeds]
    exact h.connect (hok hneeds)
  · rw [links_ensureConnected_of_not call hneeds]
    exact h

/-- The message that arrives is the first one on its way to a live socket. -/
theorem inbox?_of_next {k message : ℕ} {raw : Option JsValue}
    (h : s.connections[k]?.bind (·.next?) = some (message, raw)) :
    ∃ c rest, s.connections[k]? = some c ∧ c.readyState ≠ .closed ∧
      c.inbox = (message, raw) :: rest := by
  obtain ⟨c, hc, hnext⟩ := Option.bind_eq_some_iff.1 h
  unfold UpstreamConnection.next? at hnext
  split_ifs at hnext with hstate
  obtain ⟨rest, hinbox⟩ := List.head?_eq_some_iff.1 hnext
  refine ⟨c, rest, hc, ?_, hinbox⟩
  rintro hclosed
  rw [hclosed] at hstate
  rcases hstate with hstate | hstate <;> cases hstate

theorem inbox?_of_connection {k : ℕ} {c : UpstreamConnection} (hc : s.connections[k]? = some c)
    (hstate : c.readyState ≠ .closed) : s.links.inbox? k = some c.inbox := by
  simp [Links.inbox?, links, List.getElem?_map, hc, UpstreamConnection.link, hstate]

theorem links_runHandler (p : JsM OpenClawGatewaySource Unit) (s : OpenClawGatewaySource) :
    (runHandler p s).links = (p.stateAfter s).links := by
  unfold runHandler JsM.stateAfter
  cases p.run s <;> rfl

theorem inv_receive (k : ℕ) (clock : Clock)
    (reaction : ℕ → RealtimeSourceEvent → Option JsError) (h : s.links.Inv) :
    (s.receive uuids options k clock reaction).links.Inv := by
  unfold receive
  split
  · exact h
  · next message raw hnext =>
    obtain ⟨c, rest, hc, hstate, hinbox⟩ := inbox?_of_next hnext
    have hk : s.links.inbox? k = some ((message, raw) :: rest) := by
      rw [inbox?_of_connection hc hstate, hinbox]
    generalize ht : ({ s with arrived := s.arrived ++ [(k, raw)] }.modifyConnection k fun c =>
      { c with inbox := c.inbox.tail }) = t
    have htlinks : t.links = { s.links with
        sockets := s.links.sockets.modify k fun link => (link.1, link.2.tail) } := by
      rw [← ht]
      exact links_modifyConnection k _ (fun link => (link.1, link.2.tail)) (fun _ => rfl) _
    have hsocket : s.links.sockets[k]? = some (c.readyState, c.inbox) := by
      simp [links, hc, UpstreamConnection.link]
    have hafter (i : ℕ) : t.links.inbox? i = if k = i then some rest else s.links.inbox? i := by
      rw [htlinks, Links.inbox?_modify]
      split_ifs with hi
      · rw [← hi, hsocket]
        simp [hstate, hinbox]
      · rfl
    obtain ⟨calls, hcalls, hlinks⟩ :=
      links_handleMessage uuids options k message clock reaction raw t
    rw [links_runHandler, hlinks, htlinks]
    rw [htlinks] at hafter hcalls
    exact h.receive hk hcalls hafter rfl rfl rfl rfl rfl

theorem links_deliver (recipient : ℕ → Bool) (raw : Option JsValue) (i : ℕ) :
    (s.deliver recipient raw).links.inbox? i = s.links.inbox? i ∨
      ∃ inbox, s.links.inbox? i = some inbox ∧
        (s.deliver recipient raw).links.inbox? i = some (inbox ++ [(s.links.messages, raw)]) := by
  simp only [Links.inbox?, links, deliver, List.getElem?_map, List.getElem?_mapIdx]
  cases s.connections[i]? with
  | none => exact .inl rfl
  | some c =>
    by_cases hopen : recipient i ∧ c.readyState = .open
    · refine .inr ⟨c.inbox, ?_, ?_⟩ <;> simp [UpstreamConnection.link, hopen]
    · refine .inl ?_
      simp only [Option.map_some, if_neg hopen]

/-- A change of the state of a socket that neither closes nor reopens it. -/
theorem inv_modifyConnection (k : ℕ) (f : UpstreamConnection → UpstreamConnection)
    (g : ReadyState → ReadyState) (hf : ∀ c, (f c).link = (g c.readyState, c.inbox))
    (hg : ∀ r, g r = .closed ↔ r = .closed) (h : s.links.Inv) :
    (s.modifyConnection k f).links.Inv := by
  rw [links_modifyConnection k f (fun link => (g link.1, link.2)) hf]
  exact h.of_inbox?_eq (Links.inbox?_modify_state k g hg) h.current h.listeners rfl rfl

theorem inv_closed {k : ℕ} {c : UpstreamConnection} (hc : s.connections[k]? = some c)
    (hstate : c.readyState ≠ .closed) (h : s.links.Inv) :
    (s.modifyConnection k fun c => { c with readyState := .closed }).handleClose.links.Inv := by
  have hlive : s.links.Live k := by
    rw [Links.Live, inbox?_of_connection hc hstate]
    rfl
  have hsockets (t : OpenClawGatewaySource) (i : ℕ) :
      t.handleClose.links.inbox? i = t.links.inbox? i := by
    unfold handleClose
    dsimp only
    split_ifs <;> rfl
  refine h.close hlive (fun i => ?_) ?_ ?_ ?_
  · rw [hsockets, links_modifyConnection k _ (fun link => (.closed, link.2)) (fun _ => rfl),
      Links.inbox?_modify]
    split_ifs
    · cases s.links.sockets[i]? <;> rfl
    · rfl
  all_goals
    unfold handleClose
    dsimp only
    split_ifs <;> rfl

theorem links_rejectPending (s : OpenClawGatewaySource) : s.rejectPending.links = s.links := by
  refine @rejectPending_induction (fun t => t.links = s.links) s rfl fun p t ht => ?_
  rw [links_reject]
  exact ht

theorem inv_close (h : s.links.Inv) : s.close.links.Inv := by
  have hstop (t : OpenClawGatewaySource) (ht : t.links = { s.links with stopped := true }) :
      t.links.Inv := by
    rw [ht]
    exact h.of_inbox?_eq (fun _ => rfl) nofun h.listeners rfl rfl
  unfold close
  dsimp only
  split
  · exact hstop _ (links_rejectPending _)
  · next k _ =>
    refine inv_modifyConnection k _ ReadyState.afterClose (fun _ => rfl)
      (fun _ => ReadyState.afterClose_eq_closed) ?_
    generalize ht : OpenClawGatewaySource.rejectPending _ = t
    have hlinks : t.links = { s.links with stopped := true } := by
      rw [← ht]
      exact links_rejectPending _
    have hnone : { t with socket := none }.links =
        { s.links with stopped := true, socket := none } :=
      congrArg (fun l : Links => { l with socket := none }) hlinks
    rw [hnone]
    exact h.of_inbox?_eq (fun _ => rfl) nofun h.listeners rfl rfl

/-- A step that opens a WebSocket alone, or none, keeps the invariant. -/
theorem inv_step (step : SourceStep) (h : s.links.Inv) (hok : s.ConnectsAlone step) :
    (s.step uuids options step).links.Inv := by
  have heffect := s.step_cases uuids options step
  generalize s.step uuids options step = t at heffect ⊢
  cases heffect with
  | idle => exact h
  | subscribe listener =>
    refine inv_ensureConnected _ ?_ (hok trivial)
    refine h.of_inbox?_eq (fun _ => rfl) h.current ?_ rfl rfl
    change (if listener ∈ s.listeners then s.listeners else s.listeners ++ [listener]).Nodup
    split_ifs with hmem
    · exact h.listeners
    · refine List.nodup_append.2 ⟨h.listeners, by simp, fun a ha b hb => ?_⟩
      rw [List.mem_singleton.1 hb]
      exact ne_of_mem_of_not_mem ha hmem
  | unsubscribe listener =>
    exact h.of_inbox?_eq (fun _ => rfl) h.current (h.listeners.filter _) rfl rfl
  | request | getSnapshot => exact inv_ensureConnected _ h (hok trivial)
  | reconnect htimer => exact inv_ensureConnected _ h (hok htimer)
  | close => exact inv_close h
  | resume =>
    rw [links_proceed]
    exact h
  | opened k =>
    refine inv_modifyConnection k _ (fun r => if r = .connecting then .open else r) ?_ ?_ h
    · intro c
      dsimp only [UpstreamConnection.link]
      split_ifs <;> rfl
    · intro r
      cases r <;> simp
  | received k clock reaction => exact inv_receive uuids options k clock reaction h
  | errored =>
    rw [links_fail]
    exact inv_modifyConnection _ _ ReadyState.afterClose (fun _ => rfl)
      (fun _ => ReadyState.afterClose_eq_closed) h
  | closing k =>
    refine inv_modifyConnection k _ (fun r => if r = .open then .closing else r) ?_ ?_ h
    · intro c
      dsimp only [UpstreamConnection.link]
      split_ifs <;> rfl
    · intro r
      cases r <;> simp
  | closed hc hopen => exact inv_closed hc hopen h
  | timeout =>
    rw [links_timeout]
    exact h
  | send k raw =>
    exact h.deliver (links_deliver _ raw) rfl rfl rfl rfl rfl
  | broadcast raw =>
    exact h.deliver (links_deliver _ raw) rfl rfl rfl rfl rfl

/-- A step that opens a WebSocket beside a live one leaves two. -/
theorem not_oneConnection_step (step : SourceStep) (hok : ¬ s.ConnectsAlone step) :
    ¬ (s.step uuids options step).links.OneConnection := by
  obtain ⟨hconnects, hneeds, k, hk⟩ :
      step.Connects s ∧ s.NeedsConnection ∧ ∃ k, s.links.Live k := by
    simpa [ConnectsAlone] using hok
  have hbreak (call : SourceCall) {t : OpenClawGatewaySource} (ht : t.NeedsConnection)
      (hlive : t.links.Live k) : ¬ (t.ensureConnected call).links.OneConnection := by
    rw [links_ensureConnected call ht]
    exact Links.not_oneConnection_connect hlive
  cases step with
  | subscribe listener => exact hbreak _ hneeds hk
  | request method payload => exact hbreak _ hneeds hk
  | getSnapshot => exact hbreak _ hneeds hk
  | reconnect timer =>
    have htimer : timer ∈ s.reconnectTimers := hconnects
    simp only [OpenClawGatewaySource.step, if_pos htimer]
    exact hbreak _ hneeds hk
  | _ => exact hconnects.elim

theorem inv_initial : initial.links.Inv where
  unique i j hi := by simp [Links.Live, Links.inbox?, links, initial] at hi
  current _ k hk := by simp [Links.Live, Links.inbox?, links, initial] at hk
  once := List.nodup_nil
  listeners := List.nodup_nil
  distinct k inbox hk := by simp [Links.inbox?, links, initial] at hk
  fresh k inbox hk := by simp [Links.inbox?, links, initial] at hk
  old m hm := by simp [links, initial] at hm

/-- In every state of a run at most one WebSocket is live, the source refers to it, and no listener
has had a message twice, in exactly the runs that open each WebSocket after all others have
closed. -/
theorem oneConnection_iff (steps : List SourceStep) :
    Always (OpenClawGatewaySource.step uuids options) (fun s => s.links.OneConnection) initial
        steps ↔
      Each (OpenClawGatewaySource.step uuids options) ConnectsAlone initial steps :=
  @always_iff_each _ _ (OpenClawGatewaySource.step uuids options)
    (fun s => s.links.OneConnection) (fun s => s.links.Inv) ConnectsAlone
    (fun _ h => h.toOneConnection) (fun _ step h hok => inv_step uuids options step h hok)
    (fun _ step _ hok => not_oneConnection_step uuids options step hok) initial inv_initial steps

/-- Upstream rejects the connect request and leaves the socket open; the next request opens a second
one. -/
theorem second_connection_after_rejection :
    ¬ Always (OpenClawGatewaySource.step .counting .default) (fun s => s.links.OneConnection)
      initial
      [.subscribe 0, .opened 0,
        .send 0 (some (.obj [("type", .str "event"), ("event", .str "connect.challenge")])),
        .received 0 (fun _ => 0) (fun _ _ => none),
        .send 0 (some (.obj [("type", .str "res"), ("id", .str "connect:0"), ("ok", .bool false)])),
        .received 0 (fun _ => 0) (fun _ _ => none),
        .request "chat.history" (.obj [])] := by
  intro h
  have hlast := (always_iff_run _ _ _ _).1 h _ [] (List.append_nil _).symm
  have htwo : (0 : ℕ) = 1 := hlast.unique 0 1 (by decide +kernel) (by decide +kernel)
  cases htwo

end OpenClawGatewaySource

end Vertx
