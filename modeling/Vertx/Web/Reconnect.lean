import Vertx.Js.Socket
import Vertx.Lib.Runs

/-!
# The connection of a session page

`useSessionRealtime` keeps its client, its reconnect timer and the flag for its own closes in refs,
which outlive a change of the session key.  The handlers of a client and the callback of a timer
stay bound to the key under which they were made.  A change of the key is one step together with
the cleanup and the effect that it runs.
-/

namespace Vertx

open Runs

/-- A client made by `connectGateway`: its socket's state and the session key of its handlers. -/
structure PageClient where
  readyState : ReadyState
  sessionKey : String
  deriving DecidableEq, Repr

/-- The refs of the hook, every client it has made, and the timers that are armed, each under its id
with the session key of its callback. -/
structure SessionConnection where
  mounted : Bool
  sessionKey : String
  clientRef : Option ℕ
  closedByUserRef : Bool
  reconnectTimerRef : Option ℕ
  clients : List PageClient
  timers : List (ℕ × String)
  timersMade : ℕ
  deriving DecidableEq, Repr

namespace SessionConnection

def initial : SessionConnection := ⟨false, "", none, false, none, [], [], 0⟩

/-- `window.clearTimeout`. -/
def clearTimeout (t : ℕ) (s : SessionConnection) : SessionConnection :=
  { s with timers := s.timers.filter (·.1 ≠ t) }

def clearReconnectTimer (s : SessionConnection) : SessionConnection :=
  match s.reconnectTimerRef with
  | some t => { s.clearTimeout t with reconnectTimerRef := none }
  | none => s

/-- Arms the reconnect timer with the `connectGateway` of a session key. -/
def setReconnectTimer (key : String) (s : SessionConnection) : SessionConnection :=
  { s with
    timers := s.timers ++ [(s.timersMade, key)]
    reconnectTimerRef := some s.timersMade
    timersMade := s.timersMade + 1 }

/-- The `connectGateway` that was made for a session key. -/
def connectGateway (key : String) (s : SessionConnection) : SessionConnection :=
  let s := s.clearReconnectTimer
  { s with clients := s.clients ++ [⟨.connecting, key⟩], clientRef := some s.clients.length }

def modifyReadyState (j : ℕ) (f : ReadyState → ReadyState) (s : SessionConnection) :
    SessionConnection :=
  { s with clients := s.clients.modify j fun c => { c with readyState := f c.readyState } }

/-- The close event of a client's socket. -/
def onClosed (j : ℕ) (s : SessionConnection) : SessionConnection :=
  match s.clients[j]? with
  | none => s
  | some c =>
    if c.readyState = .closed then s
    else
      let s := s.modifyReadyState j fun _ => .closed
      if s.closedByUserRef then s else s.clearReconnectTimer.setReconnectTimer c.sessionKey

/-- The connection effect under a session key. -/
def effect (key : String) (s : SessionConnection) : SessionConnection :=
  { s with mounted := true, sessionKey := key, closedByUserRef := false }.connectGateway key

/-- `clientRef.current?.close()`. -/
def closeCurrent (s : SessionConnection) : SessionConnection :=
  match s.clientRef with
  | some j => s.modifyReadyState j .afterClose
  | none => s

def cleanup (s : SessionConnection) : SessionConnection :=
  { { s with closedByUserRef := true }.clearReconnectTimer.closeCurrent with clientRef := none }

/-- The session key of an armed timer. -/
def armed? (s : SessionConnection) (t : ℕ) : Option String :=
  (s.timers.find? (·.1 = t)).map (·.2)

end SessionConnection

/-- One thing that happens to the connection of a page. -/
inductive ConnectionStep
  /-- The effect runs; under `StrictMode` also a second time on the same refs. -/
  | mount (key : String)
  | switch (key : String)
  | unmount
  | opened (j : ℕ)
  /-- A socket starts to close: by the server, or because a history or stop request has failed. -/
  | close (j : ℕ)
  /-- The close event, after a close by either side or a failure to connect. -/
  | closed (j : ℕ)
  | timer (t : ℕ)
  deriving DecidableEq, Repr

namespace SessionConnection

def step (s : SessionConnection) : ConnectionStep → SessionConnection
  | .mount key => if s.mounted then s else s.effect key
  | .switch key => if s.mounted ∧ key ≠ s.sessionKey then s.cleanup.effect key else s
  | .unmount => if s.mounted then { s.cleanup with mounted := false } else s
  | .opened j => s.modifyReadyState j .afterOpen
  | .close j => s.modifyReadyState j .afterClose
  | .closed j => s.onClosed j
  | .timer t =>
    match s.armed? t with
    | some key => (s.clearTimeout t).connectGateway key
    | none => s

/-! ## What the hook promises -/

/-- The `j`-th client, whose socket is not closed or closing. -/
def LiveAt (s : SessionConnection) (j : ℕ) (c : PageClient) : Prop :=
  s.clients[j]? = some c ∧ c.readyState.isLive

/-- At most one client is live, the one in the ref and bound to the current key; after unmount there
is none and no timer is armed. -/
structure OneLive (s : SessionConnection) : Prop where
  unique : ∀ i j c d, s.LiveAt i c → s.LiveAt j d → i = j
  current : ∀ j c, s.LiveAt j c → s.clientRef = some j ∧ c.sessionKey = s.sessionKey
  unmounted : s.mounted = false → (∀ j c, ¬ s.LiveAt j c) ∧ s.timers = []

/-- A timer that fires was armed for the current key, and no client is live. -/
def ReconnectsAlone (s : SessionConnection) : ConnectionStep → Prop
  | .timer t => ∀ key ∈ s.armed? t, key = s.sessionKey ∧ ∀ j c, ¬ s.LiveAt j c
  | _ => True

/-! ## The operations -/

section Operations

variable (s : SessionConnection)

/-- Every armed timer is the one in the ref. -/
def TimersKept (s : SessionConnection) : Prop :=
  ∀ p ∈ s.timers, s.reconnectTimerRef = some p.1

@[simp] theorem clients_clearReconnectTimer : s.clearReconnectTimer.clients = s.clients := by
  unfold clearReconnectTimer
  cases s.reconnectTimerRef <;> rfl

@[simp] theorem clientRef_clearReconnectTimer : s.clearReconnectTimer.clientRef = s.clientRef := by
  unfold clearReconnectTimer
  cases s.reconnectTimerRef <;> rfl

@[simp] theorem mounted_clearReconnectTimer : s.clearReconnectTimer.mounted = s.mounted := by
  unfold clearReconnectTimer
  cases s.reconnectTimerRef <;> rfl

@[simp] theorem sessionKey_clearReconnectTimer :
    s.clearReconnectTimer.sessionKey = s.sessionKey := by
  unfold clearReconnectTimer
  cases s.reconnectTimerRef <;> rfl

@[simp] theorem closedByUserRef_clearReconnectTimer :
    s.clearReconnectTimer.closedByUserRef = s.closedByUserRef := by
  unfold clearReconnectTimer
  cases s.reconnectTimerRef <;> rfl

theorem timers_clearReconnectTimer (h : s.TimersKept) : s.clearReconnectTimer.timers = [] := by
  unfold clearReconnectTimer
  cases hr : s.reconnectTimerRef with
  | none =>
    apply List.eq_nil_iff_forall_not_mem.2
    intro p hp
    have hkept := h p hp
    rw [hr] at hkept
    cases hkept
  | some t =>
    apply List.filter_eq_nil_iff.2
    intro p hp
    have hkept := h p hp
    rw [hr] at hkept
    simpa using (Option.some.inj hkept).symm

theorem clients_closeCurrent_live (h : ∀ j c, s.LiveAt j c → s.clientRef = some j) (j : ℕ)
    (c : PageClient) : ¬ s.closeCurrent.LiveAt j c := by
  rintro ⟨hc, hlive⟩
  unfold closeCurrent at hc
  cases href : s.clientRef with
  | none =>
    rw [href] at hc
    have hcurrent := h j c ⟨hc, hlive⟩
    rw [href] at hcurrent
    cases hcurrent
  | some i =>
    rw [href] at hc
    obtain ⟨d, hd, rfl⟩ := Option.map_eq_some_iff.1
      ((List.getElem?_modify (_) i s.clients j).symm.trans hc)
    by_cases hi : i = j
    · simp [hi] at hlive
    · have hcurrent := h j d ⟨hd, by simpa [hi] using hlive⟩
      rw [href] at hcurrent
      exact hi (Option.some.inj hcurrent)

end Operations

section Live

variable {s : SessionConnection}

/-- A socket whose state changes to one that is not more live. -/
theorem LiveAt.of_modifyReadyState {i j : ℕ} {c : PageClient} {f : ReadyState → ReadyState}
    (hf : ∀ state, (f state).isLive → state.isLive) (h : (s.modifyReadyState i f).LiveAt j c) :
    ∃ d, s.LiveAt j d ∧ c.sessionKey = d.sessionKey := by
  obtain ⟨hc, hlive⟩ := h
  obtain ⟨d, hd, rfl⟩ := Option.map_eq_some_iff.1
    ((List.getElem?_modify (_) i s.clients j).symm.trans hc)
  refine ⟨d, ⟨hd, ?_⟩, ?_⟩
  · split_ifs at hlive
    · exact hf _ hlive
    · exact hlive
  · split_ifs <;> rfl

theorem OneLive.of_modifyReadyState {f : ReadyState → ReadyState}
    (hf : ∀ state, (f state).isLive → state.isLive) (h : s.OneLive) (i : ℕ) :
    (s.modifyReadyState i f).OneLive where
  unique j k c d hc hd := by
    obtain ⟨c', hc', -⟩ := hc.of_modifyReadyState hf
    obtain ⟨d', hd', -⟩ := hd.of_modifyReadyState hf
    exact h.unique j k c' d' hc' hd'
  current j c hc := by
    obtain ⟨c', hc', hkey⟩ := hc.of_modifyReadyState hf
    rw [hkey]
    exact h.current j c' hc'
  unmounted hm := by
    refine ⟨fun j c hc => ?_, (h.unmounted hm).2⟩
    obtain ⟨c', hc', -⟩ := hc.of_modifyReadyState hf
    exact (h.unmounted hm).1 j c' hc'

/-- A client is live after `connectGateway` if it is the new one or was live before. -/
theorem liveAt_connectGateway {key : String} {j : ℕ} {c : PageClient} :
    (s.connectGateway key).LiveAt j c ↔
      s.LiveAt j c ∨ j = s.clients.length ∧ c = ⟨.connecting, key⟩ := by
  unfold LiveAt connectGateway
  simp only [clients_clearReconnectTimer, List.getElem?_append, List.getElem?_singleton]
  constructor
  · rintro ⟨hc, hlive⟩
    split_ifs at hc with hlt h0
    · exact Or.inl ⟨hc, hlive⟩
    · exact Or.inr ⟨by omega, (Option.some.inj hc).symm⟩
  · rintro (⟨hc, hlive⟩ | ⟨rfl, rfl⟩)
    · have hlt := (List.getElem?_eq_some_iff.1 hc).1
      rw [if_pos hlt]
      exact ⟨hc, hlive⟩
    · simp [ReadyState.isLive]

theorem oneLive_connectGateway {key : String} (hnone : ∀ j c, ¬ s.LiveAt j c)
    (hmounted : s.mounted = true) (hkey : key = s.sessionKey) : (s.connectGateway key).OneLive where
  unique i j c d hc hd := by
    obtain ⟨rfl, -⟩ := (liveAt_connectGateway.1 hc).resolve_left (hnone _ _)
    obtain ⟨rfl, -⟩ := (liveAt_connectGateway.1 hd).resolve_left (hnone _ _)
    rfl
  current j c hc := by
    obtain ⟨rfl, rfl⟩ := (liveAt_connectGateway.1 hc).resolve_left (hnone _ _)
    simp [connectGateway, hkey]
  unmounted hm := by
    simp [connectGateway, hmounted] at hm

end Live

/-! ## Runs -/

/-- What every run keeps whose timers reconnect alone. -/
structure Kept (s : SessionConnection) : Prop where
  oneLive : s.OneLive
  timers : s.TimersKept
  unmounted : s.mounted = false → s.clients = [] ∨ s.closedByUserRef = true

section Kept

variable {s : SessionConnection}

theorem kept_initial : initial.Kept where
  oneLive := by
    constructor
    · rintro i j c d ⟨hc, -⟩
      cases hc
    · rintro j c ⟨hc, -⟩
      cases hc
    · refine fun _ => ⟨?_, rfl⟩
      rintro j c ⟨hc, -⟩
      cases hc
  timers := nofun
  unmounted _ := Or.inl rfl

theorem timersKept_of_nil (h : s.timers = []) : s.TimersKept := by
  intro p hp
  rw [h] at hp
  cases hp

theorem timers_connectGateway {key : String} (h : s.TimersKept) :
    (s.connectGateway key).timers = [] :=
  timers_clearReconnectTimer s h

/-- Connecting is safe when no client is live. -/
theorem kept_connectGateway {key : String} (htimers : s.TimersKept)
    (hnone : ∀ j c, ¬ s.LiveAt j c) (hmounted : s.mounted = true) (hkey : key = s.sessionKey) :
    (s.connectGateway key).Kept where
  oneLive := oneLive_connectGateway hnone hmounted hkey
  timers := timersKept_of_nil (timers_connectGateway htimers)
  unmounted hm := by
    simp [connectGateway, hmounted] at hm

theorem kept_effect (key : String) (htimers : s.TimersKept) (hnone : ∀ j c, ¬ s.LiveAt j c) :
    (s.effect key).Kept :=
  kept_connectGateway htimers hnone rfl rfl

theorem not_liveAt_cleanup (h : s.OneLive) (j : ℕ) (c : PageClient) : ¬ s.cleanup.LiveAt j c := by
  refine clients_closeCurrent_live _ (fun j c hc => ?_) j c
  rw [clientRef_clearReconnectTimer]
  refine (h.current j c ?_).1
  simpa [LiveAt] using hc

theorem timers_closeCurrent (s : SessionConnection) : s.closeCurrent.timers = s.timers := by
  unfold closeCurrent
  cases s.clientRef <;> rfl

theorem closedByUserRef_closeCurrent (s : SessionConnection) :
    s.closeCurrent.closedByUserRef = s.closedByUserRef := by
  unfold closeCurrent
  cases s.clientRef <;> rfl

theorem timers_cleanup (h : s.TimersKept) : s.cleanup.timers = [] := by
  have hkept : { s with closedByUserRef := true }.TimersKept := h
  exact (timers_closeCurrent _).trans (timers_clearReconnectTimer _ hkept)

theorem closedByUserRef_cleanup (s : SessionConnection) : s.cleanup.closedByUserRef = true :=
  (closedByUserRef_closeCurrent _).trans (closedByUserRef_clearReconnectTimer _)

theorem kept_unmount (h : s.Kept) : { s.cleanup with mounted := false }.Kept where
  oneLive := by
    have hnone := not_liveAt_cleanup h.oneLive
    exact ⟨fun i _ c _ hc => absurd hc (hnone i c), fun j c hc => absurd hc (hnone j c),
      fun _ => ⟨hnone, timers_cleanup h.timers⟩⟩
  timers := timersKept_of_nil (timers_cleanup h.timers)
  unmounted _ := Or.inr (closedByUserRef_cleanup s)

theorem kept_modifyReadyState {f : ReadyState → ReadyState}
    (hf : ∀ state, (f state).isLive → state.isLive) (h : s.Kept) (i : ℕ) :
    (s.modifyReadyState i f).Kept where
  oneLive := h.oneLive.of_modifyReadyState hf i
  timers := h.timers
  unmounted hm := by
    rcases h.unmounted hm with hnil | hclosed
    · left
      simp [modifyReadyState, hnil]
    · exact Or.inr hclosed

/-- Arming the timer while the page is mounted. -/
theorem kept_setReconnectTimer (key : String) (h : s.Kept) (hmounted : s.mounted = true) :
    (s.clearReconnectTimer.setReconnectTimer key).Kept where
  oneLive := by
    have hlive (j : ℕ) (c : PageClient) :
        (s.clearReconnectTimer.setReconnectTimer key).LiveAt j c → s.LiveAt j c := by
      simp [LiveAt, setReconnectTimer]
    refine ⟨fun i j c d hc hd => h.oneLive.unique i j c d (hlive i c hc) (hlive j d hd),
      fun j c hc => ?_, fun hm => ?_⟩
    · simpa [setReconnectTimer] using h.oneLive.current j c (hlive j c hc)
    · simp [setReconnectTimer, hmounted] at hm
  timers p hp := by
    simp only [setReconnectTimer, timers_clearReconnectTimer s h.timers, List.nil_append,
      List.mem_singleton] at hp ⊢
    rw [hp]
  unmounted hm := by
    simp [setReconnectTimer, hmounted] at hm

theorem kept_onClosed (h : s.Kept) (j : ℕ) : (s.onClosed j).Kept := by
  unfold onClosed
  cases hc : s.clients[j]? with
  | none => exact h
  | some c =>
    have hclosed := kept_modifyReadyState (f := fun _ => .closed) nofun h j
    dsimp only
    split_ifs with hstate hflag
    · exact h
    · exact hclosed
    · refine kept_setReconnectTimer c.sessionKey hclosed ?_
      by_contra hm
      rcases h.unmounted (Bool.eq_false_of_not_eq_true hm) with hnil | hset
      · rw [hnil] at hc
        cases hc
      · exact hflag hset

theorem mem_of_armed? {t : ℕ} {key : String} (h : s.armed? t = some key) :
    (t, key) ∈ s.timers := by
  obtain ⟨p, hp, rfl⟩ := Option.map_eq_some_iff.1 h
  have ht : p.1 = t := by simpa using List.find?_some hp
  rw [← ht]
  exact List.mem_of_find?_eq_some hp

theorem kept_step (step : ConnectionStep) (h : s.Kept) (hok : s.ReconnectsAlone step) :
    (s.step step).Kept := by
  cases step with
  | mount key =>
    show (if s.mounted then s else s.effect key).Kept
    split_ifs with hm
    · exact h
    · exact kept_effect key h.timers (h.oneLive.unmounted (Bool.eq_false_of_not_eq_true hm)).1
  | switch key =>
    show (if s.mounted ∧ key ≠ s.sessionKey then s.cleanup.effect key else s).Kept
    split_ifs with hm
    · exact kept_effect key (timersKept_of_nil (timers_cleanup h.timers))
        (not_liveAt_cleanup h.oneLive)
    · exact h
  | unmount =>
    show (if s.mounted then { s.cleanup with mounted := false } else s).Kept
    split_ifs with hm
    · exact kept_unmount h
    · exact h
  | opened j => exact kept_modifyReadyState (fun state hlive => by simpa using hlive) h j
  | close j => exact kept_modifyReadyState (fun state hlive => by simp at hlive) h j
  | closed j => exact kept_onClosed h j
  | timer t =>
    simp only [SessionConnection.step]
    cases harmed : s.armed? t with
    | none => exact h
    | some key =>
      obtain ⟨hkey, hnone⟩ := hok key harmed
      refine kept_connectGateway (fun p hp => h.timers p (List.mem_of_mem_filter hp)) hnone ?_ hkey
      by_contra hm
      have hnil := (h.oneLive.unmounted (Bool.eq_false_of_not_eq_true hm)).2
      have hmem := mem_of_armed? harmed
      rw [hnil] at hmem
      cases hmem

/-- A timer of another key, or one that fires beside a live client, makes a client too many. -/
theorem not_oneLive_step (step : ConnectionStep) (hok : ¬ s.ReconnectsAlone step) :
    ¬ (s.step step).OneLive := by
  cases step with
  | timer t =>
    intro h
    apply hok
    intro key harmed
    have hstep : s.step (.timer t) = (s.clearTimeout t).connectGateway key := by
      simp only [SessionConnection.step, Option.mem_def.1 harmed]
    rw [hstep] at h
    have hnew : ((s.clearTimeout t).connectGateway key).LiveAt s.clients.length
        ⟨.connecting, key⟩ := liveAt_connectGateway.2 (Or.inr ⟨rfl, rfl⟩)
    constructor
    · simpa [connectGateway, clearTimeout] using (h.current _ _ hnew).2
    · intro j c hc
      have hold : ((s.clearTimeout t).connectGateway key).LiveAt j c :=
        liveAt_connectGateway.2 (Or.inl hc)
      have hj := h.unique _ _ _ _ hold hnew
      have hlt := (List.getElem?_eq_some_iff.1 hc.1).1
      omega
  | _ => exact absurd trivial hok

end Kept

/-- A page has one live client throughout a run exactly when every reconnect timer that fires was
armed for the current key and finds no live client. -/
theorem oneLive_iff (steps : List ConnectionStep) :
    Always step OneLive initial steps ↔ Each step ReconnectsAlone initial steps :=
  @always_iff_each _ _ step OneLive Kept ReconnectsAlone (fun _ => Kept.oneLive)
    (fun _ => kept_step) (fun _ event _ => not_oneLive_step event) _ kept_initial steps

/-- The close event of the old session's client arrives when the new effect has reset the flag, and
its timer connects a second client under the old key. -/
theorem stale_reconnect :
    ¬ Always step OneLive initial
      [.mount "a", .opened 0, .switch "b", .closed 0, .opened 1, .timer 0] := by
  intro h
  have hlast := (always_iff_run step OneLive initial _).1 h _ [] (List.append_nil _).symm
  have hindex := hlast.unique 1 2 ⟨.open, "b"⟩ ⟨.connecting, "a"⟩ ⟨by decide, rfl⟩ ⟨by decide, rfl⟩
  exact absurd hindex (by decide)

end SessionConnection

end Vertx
