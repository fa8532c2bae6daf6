import Vertx.Js.Value
import Vertx.Lib.OrderedMap

/-!
# Agent events

`emitAgentEvent` numbers the events of each agent run and completes them from the run's context.
Numbers and contexts are kept per run until the run is cleared or has been idle for too long.  The
gateway looks up the session of a run in its context, then in a cache, then in the session store.
-/

namespace Vertx

inductive VerboseLevel
  | off
  | on
  | full
  deriving DecidableEq, Repr

structure AgentEventPayload where
  runId : String
  seq : ℕ
  stream : String
  ts : ℤ
  data : JsValue
  sessionKey : Option String
  deriving DecidableEq

structure AgentRunContext where
  sessionKey : Option String
  verboseLevel : Option VerboseLevel
  isHeartbeat : Option Bool
  isControlUiVisible : Option Bool
  registeredAt : Option ℤ
  lastActiveAt : Option ℤ
  deriving DecidableEq

structure AgentEventState where
  seqByRun : OrderedMap String ℕ
  runContextById : OrderedMap String AgentRunContext

namespace AgentEventState

def initial : AgentEventState := ⟨OrderedMap.empty, OrderedMap.empty⟩

/-- A run's context with what a second registration brings. -/
def updateContext (existing context : AgentRunContext) : AgentRunContext :=
  { existing with
    sessionKey := (context.sessionKey.filter (· ≠ "")).or existing.sessionKey
    verboseLevel := context.verboseLevel.or existing.verboseLevel
    isControlUiVisible := context.isControlUiVisible.or existing.isControlUiVisible
    isHeartbeat := context.isHeartbeat.or existing.isHeartbeat }

def registerAgentRunContext (now : ℤ) (runId : String) (context : AgentRunContext)
    (s : AgentEventState) : AgentEventState :=
  if runId = "" then s
  else
    let context := match s.runContextById.get? runId with
      | none => { context with registeredAt := some (context.registeredAt.getD now) }
      | some existing => updateContext existing context
    { s with runContextById := s.runContextById.set runId context }

def getAgentRunContext (runId : String) (s : AgentEventState) : Option AgentRunContext :=
  s.runContextById.get? runId

def clearAgentRunContext (runId : String) (s : AgentEventState) : AgentEventState :=
  ⟨s.seqByRun.delete runId, s.runContextById.delete runId⟩

def defaultRunContextMaxAgeMs : ℤ := 30 * 60 * 1000

/-- The run has not been seen for longer than `maxAgeMs`; a run never seen is infinitely old. -/
def isStale (now maxAgeMs : ℤ) (context : AgentRunContext) : Bool :=
  match context.lastActiveAt.or context.registeredAt with
  | none => true
  | some lastSeen => lastSeen = 0 || maxAgeMs < now - lastSeen

/-- The runs that `sweepStaleRunContexts` clears. -/
def staleRuns (now maxAgeMs : ℤ) (s : AgentEventState) : List String :=
  (s.runContextById.filter fun _ => isStale now maxAgeMs).keys

def sweepStaleRunContexts (now maxAgeMs : ℤ) (s : AgentEventState) : AgentEventState :=
  (s.staleRuns now maxAgeMs).foldl (fun s runId => s.clearAgentRunContext runId) s

/-- The event that `emitAgentEvent` hands to its listeners. -/
def enriched (now : ℤ) (runId stream : String) (data : JsValue) (sessionKey : Option String)
    (s : AgentEventState) : AgentEventPayload :=
  let context := s.runContextById.get? runId
  let isControlUiVisible := (context.bind (·.isControlUiVisible)).getD true
  let eventSessionKey := sessionKey.filter nonBlank
  { runId
    seq := (s.seqByRun.get? runId).getD 0 + 1
    stream
    ts := now
    data
    sessionKey :=
      if isControlUiVisible then eventSessionKey.or (context.bind (·.sessionKey)) else none }

/-- The state in which `emitAgentEvent` calls its listeners. -/
def afterEmit (now : ℤ) (runId : String) (s : AgentEventState) : AgentEventState where
  seqByRun := s.seqByRun.set runId ((s.seqByRun.get? runId).getD 0 + 1)
  runContextById :=
    match s.runContextById.get? runId with
    | none => s.runContextById
    | some context => s.runContextById.set runId { context with lastActiveAt := some now }

variable {s : AgentEventState} {now maxAgeMs : ℤ} {runId r : String}

@[simp] theorem seqByRun_registerAgentRunContext (context : AgentRunContext) :
    (s.registerAgentRunContext now runId context).seqByRun = s.seqByRun := by
  unfold registerAgentRunContext
  split_ifs <;> rfl

theorem get?_seqByRun_clear :
    (s.clearAgentRunContext runId).seqByRun.get? r =
      if r = runId then none else s.seqByRun.get? r := OrderedMap.get?_delete _ _ _

theorem get?_seqByRun_afterEmit :
    (s.afterEmit now runId).seqByRun.get? r =
      if r = runId then some ((s.seqByRun.get? runId).getD 0 + 1) else s.seqByRun.get? r :=
  OrderedMap.get?_set _ _ _ _

/-- Clearing runs one after the other forgets their numbers and no others. -/
theorem get?_seqByRun_clearAll (runs : List String) :
    (runs.foldl (fun s runId => s.clearAgentRunContext runId) s).seqByRun.get? r =
      if r ∈ runs then none else s.seqByRun.get? r := by
  induction runs generalizing s with
  | nil => simp
  | cons run runs ih =>
    rw [List.foldl_cons, ih, get?_seqByRun_clear]
    by_cases h : r = run
    · simp [h]
    · simp [h]

end AgentEventState

/-! ## The session of a run -/

structure RunLookupCacheEntry where
  /-- Missing when the store knew no session. -/
  sessionKey : Option String
  expiresAt : Option ℤ

def runLookupCacheLimit : ℕ := 256
def runLookupMissTtlMs : ℤ := 1000

/-- `setResolvedSessionKeyCache`. -/
def setResolvedSessionKeyCache (now : ℤ) (runId : String) (sessionKey : Option String)
    (cache : OrderedMap String RunLookupCacheEntry) : OrderedMap String RunLookupCacheEntry :=
  if runId = "" then cache
  else
    let cache :=
      if !cache.has runId && runLookupCacheLimit ≤ cache.size then
        match cache.keys with
        | oldest :: _ => if oldest = "" then cache else cache.delete oldest
        | [] => cache
      else cache
    cache.set runId
      ⟨sessionKey, if sessionKey.isNone then some (now + runLookupMissTtlMs) else none⟩

/-- Looks for the session of a run in the session store and remembers what it finds. -/
def lookUpSessionKeyForRun (storeSessionKey : String → Option String) (now : ℤ) (runId : String)
    (events : AgentEventState) (cache : OrderedMap String RunLookupCacheEntry) :
    Option String × AgentEventState × OrderedMap String RunLookupCacheEntry :=
  match (storeSessionKey runId).filter (· ≠ "") with
  | some sessionKey =>
    (some sessionKey,
      events.registerAgentRunContext now runId ⟨some sessionKey, none, none, none, none, none⟩,
      setResolvedSessionKeyCache now runId (some sessionKey) cache)
  | none => (none, events, setResolvedSessionKeyCache now runId none cache)

/-- `resolveSessionKeyForRun`, where `storeSessionKey` is the key that the session store has for a
run.  The result comes with the state it leaves. -/
def resolveSessionKeyForRun (storeSessionKey : String → Option String) (now : ℤ) (runId : String)
    (events : AgentEventState) (cache : OrderedMap String RunLookupCacheEntry) :
    Option String × AgentEventState × OrderedMap String RunLookupCacheEntry :=
  match ((events.getAgentRunContext runId).bind (·.sessionKey)).filter (· ≠ "") with
  | some sessionKey => (some sessionKey, events, cache)
  | none =>
    match cache.get? runId with
    | none => lookUpSessionKeyForRun storeSessionKey now runId events cache
    | some ⟨some sessionKey, _⟩ => (some sessionKey, events, cache)
    | some ⟨none, expiresAt⟩ =>
      if now < expiresAt.getD 0 then (none, events, cache)
      else lookUpSessionKeyForRun storeSessionKey now runId events (cache.delete runId)

section

variable (storeSessionKey : String → Option String) (now : ℤ) (runId : String)
  (events : AgentEventState) (cache : OrderedMap String RunLookupCacheEntry)

theorem seqByRun_lookUpSessionKeyForRun :
    (lookUpSessionKeyForRun storeSessionKey now runId events cache).2.1.seqByRun =
      events.seqByRun := by
  unfold lookUpSessionKeyForRun
  split <;> simp

theorem seqByRun_resolveSessionKeyForRun :
    (resolveSessionKeyForRun storeSessionKey now runId events cache).2.1.seqByRun =
      events.seqByRun := by
  unfold resolveSessionKeyForRun
  split
  · rfl
  · split
    · exact seqByRun_lookUpSessionKeyForRun _ _ _ _ _
    · rfl
    · split_ifs
      · rfl
      · exact seqByRun_lookUpSessionKeyForRun _ _ _ _ _

variable {storeSessionKey now runId events cache}

theorem get?_setResolvedSessionKeyCache (h : runId ≠ "") (sessionKey : Option String) :
    (setResolvedSessionKeyCache now runId sessionKey cache).get? runId =
      some ⟨sessionKey, if sessionKey.isNone then some (now + runLookupMissTtlMs) else none⟩ := by
  unfold setResolvedSessionKeyCache
  rw [if_neg h]
  exact OrderedMap.get?_set_self _ _ _

/-- The context of a run for which a session key was found has the key. -/
theorem sessionKey_registerAgentRunContext (h : runId ≠ "") {sessionKey : String}
    (hkey : sessionKey ≠ "") :
    (((events.registerAgentRunContext now runId
      ⟨some sessionKey, none, none, none, none, none⟩).getAgentRunContext runId).bind
        (·.sessionKey)).filter (· ≠ "") = some sessionKey := by
  unfold AgentEventState.registerAgentRunContext AgentEventState.getAgentRunContext
  rw [if_neg h]
  dsimp only
  rw [OrderedMap.get?_set_self]
  split <;> simp [AgentEventState.updateContext, hkey, Option.filter]

theorem lookUpSessionKeyForRun_some {sessionKey : String}
    (hstore : (storeSessionKey runId).filter (· ≠ "") = some sessionKey) :
    lookUpSessionKeyForRun storeSessionKey now runId events cache =
      (some sessionKey,
        events.registerAgentRunContext now runId ⟨some sessionKey, none, none, none, none, none⟩,
        setResolvedSessionKeyCache now runId (some sessionKey) cache) := by
  unfold lookUpSessionKeyForRun
  rw [hstore]

theorem lookUpSessionKeyForRun_none (hstore : (storeSessionKey runId).filter (· ≠ "") = none) :
    lookUpSessionKeyForRun storeSessionKey now runId events cache =
      (none, events, setResolvedSessionKeyCache now runId none cache) := by
  unfold lookUpSessionKeyForRun
  rw [hstore]

theorem resolveSessionKeyForRun_known {sessionKey : String}
    (hcontext : ((events.getAgentRunContext runId).bind (·.sessionKey)).filter (· ≠ "") =
      some sessionKey) :
    resolveSessionKeyForRun storeSessionKey now runId events cache =
      (some sessionKey, events, cache) := by
  unfold resolveSessionKeyForRun
  rw [hcontext]

theorem resolveSessionKeyForRun_new
    (hcontext : ((events.getAgentRunContext runId).bind (·.sessionKey)).filter (· ≠ "") = none)
    (hcache : cache.get? runId = none) :
    resolveSessionKeyForRun storeSessionKey now runId events cache =
      lookUpSessionKeyForRun storeSessionKey now runId events cache := by
  unfold resolveSessionKeyForRun
  rw [hcontext, hcache]

theorem lookUpSessionKeyForRun_again
    (hcontext : ((events.getAgentRunContext runId).bind (·.sessionKey)).filter (· ≠ "") = none)
    (hcache : cache.get? runId = none) :
    (resolveSessionKeyForRun storeSessionKey now runId
      (lookUpSessionKeyForRun storeSessionKey now runId events cache).2.1
      (lookUpSessionKeyForRun storeSessionKey now runId events cache).2.2).1 =
    (lookUpSessionKeyForRun storeSessionKey now runId events cache).1 := by
  cases hstore : (storeSessionKey runId).filter (· ≠ "") with
  | some sessionKey =>
    rw [lookUpSessionKeyForRun_some hstore]
    have hkey : sessionKey ≠ "" := by simpa using (Option.filter_eq_some_iff.1 hstore).2
    by_cases hrun : runId = ""
    · -- A run without an id is never remembered.
      have hevents : events.registerAgentRunContext now runId
          ⟨some sessionKey, none, none, none, none, none⟩ = events := if_pos hrun
      have hsame : setResolvedSessionKeyCache now runId (some sessionKey) cache = cache :=
        if_pos hrun
      rw [hevents, hsame, resolveSessionKeyForRun_new hcontext hcache,
        lookUpSessionKeyForRun_some hstore]
    · rw [resolveSessionKeyForRun_known (sessionKey_registerAgentRunContext hrun hkey)]
  | none =>
    rw [lookUpSessionKeyForRun_none hstore]
    by_cases hrun : runId = ""
    · have hsame : setResolvedSessionKeyCache now runId none cache = cache := if_pos hrun
      rw [hsame, resolveSessionKeyForRun_new hcontext hcache, lookUpSessionKeyForRun_none hstore]
    · have hfresh : now < now + runLookupMissTtlMs := by
        unfold runLookupMissTtlMs
        omega
      unfold resolveSessionKeyForRun
      rw [hcontext, get?_setResolvedSessionKeyCache hrun]
      simp [hfresh]

/-- A session that is looked up twice at one time is found to be the same. -/
theorem resolveSessionKeyForRun_again :
    (resolveSessionKeyForRun storeSessionKey now runId
      (resolveSessionKeyForRun storeSessionKey now runId events cache).2.1
      (resolveSessionKeyForRun storeSessionKey now runId events cache).2.2).1 =
    (resolveSessionKeyForRun storeSessionKey now runId events cache).1 := by
  have hsame : ∀ key, resolveSessionKeyForRun storeSessionKey now runId events cache =
      (key, events, cache) →
      (resolveSessionKeyForRun storeSessionKey now runId
        (resolveSessionKeyForRun storeSessionKey now runId events cache).2.1
        (resolveSessionKeyForRun storeSessionKey now runId events cache).2.2).1 =
      (resolveSessionKeyForRun storeSessionKey now runId events cache).1 := by
    intro key h
    rw [h, h]
  cases hcontext : ((events.getAgentRunContext runId).bind (·.sessionKey)).filter (· ≠ "") with
  | some sessionKey =>
    exact hsame (some sessionKey) (resolveSessionKeyForRun_known hcontext)
  | none =>
    cases hcache : cache.get? runId with
    | none =>
      rw [resolveSessionKeyForRun_new hcontext hcache]
      exact lookUpSessionKeyForRun_again hcontext hcache
    | some entry =>
      obtain ⟨key, expiresAt⟩ := entry
      cases key with
      | some sessionKey =>
        refine hsame (some sessionKey) ?_
        unfold resolveSessionKeyForRun
        rw [hcontext, hcache]
      | none =>
        by_cases hexp : now < expiresAt.getD 0
        · refine hsame none ?_
          unfold resolveSessionKeyForRun
          rw [hcontext, hcache]
          exact if_pos hexp
        · have hnew : resolveSessionKeyForRun storeSessionKey now runId events cache =
              lookUpSessionKeyForRun storeSessionKey now runId events (cache.delete runId) := by
            unfold resolveSessionKeyForRun
            rw [hcontext, hcache]
            exact if_neg hexp
          rw [hnew]
          exact lookUpSessionKeyForRun_again hcontext (OrderedMap.get?_delete_self _ _)

/-- Remembering the session of a run keeps whether clients may see the run. -/
theorem isControlUiVisible_registerAgentRunContext (sessionKey : String) :
    ((events.registerAgentRunContext now runId
      ⟨some sessionKey, none, none, none, none, none⟩).getAgentRunContext runId).bind
        (·.isControlUiVisible) =
      (events.getAgentRunContext runId).bind (·.isControlUiVisible) := by
  unfold AgentEventState.registerAgentRunContext AgentEventState.getAgentRunContext
  split_ifs
  · rfl
  · dsimp only
    rw [OrderedMap.get?_set_self]
    cases events.runContextById.get? runId <;> rfl

theorem isControlUiVisible_resolveSessionKeyForRun :
    ((resolveSessionKeyForRun storeSessionKey now runId events cache).2.1.getAgentRunContext
      runId).bind (·.isControlUiVisible) =
      (events.getAgentRunContext runId).bind (·.isControlUiVisible) := by
  have hlookUp : ∀ cache, ((lookUpSessionKeyForRun storeSessionKey now runId events
      cache).2.1.getAgentRunContext runId).bind (·.isControlUiVisible) =
      (events.getAgentRunContext runId).bind (·.isControlUiVisible) := by
    intro cache
    unfold lookUpSessionKeyForRun
    split
    · exact isControlUiVisible_registerAgentRunContext _
    · rfl
  unfold resolveSessionKeyForRun
  split
  · rfl
  · split
    · exact hlookUp _
    · rfl
    · split_ifs
      · rfl
      · exact hlookUp _

end

end Vertx
