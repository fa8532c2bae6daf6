import Vertx.Domain.Operations

/-!
# Times that are no dates

The mirror turns the number in `ts` into an ISO string, and `toISOString` throws on a number beyond
the range of dates.  `mirror_returns_iff` says for which events that happens.
-/

namespace Vertx

open Repository

/-- An ISO string can be made of every value but a number out of range. -/
theorem isoFromValue_isOk (clock : Clock) (k : ℕ) (v : JsValue) :
    (isoFromValue clock k v).toOption.isSome = !v.outOfRange := by
  cases v with
  | str s =>
    rw [isoFromValue]
    split_ifs <;> rfl
  | num x =>
    cases x with
    | finite q => exact toISOString_isOk q
    | posInf | negInf | nan => rfl
  | _ => rfl

/-- The finite number in a field is out of range exactly when the field's value is. -/
theorem outOfRange_numberField (payload : JsValue) (key : String) :
    (JsValue.ofNumber? (numberField payload [key])).outOfRange =
    (payload.field key).outOfRange := by
  simp only [numberField, List.findSome?_cons, List.findSome?_nil]
  cases payload.field key with
  | num x => cases x <;> rfl
  | _ => rfl

/-- The event carries a time out of range in `ts`, and the mirror needs it: to start an unknown run,
or to update a session that the payload gives no time as a string. -/
def ProductApiMirrorEvent.BadTime (state : ProductApiState) (e : ProductApiMirrorEvent) : Prop :=
  e.payload.isObject ∧ (e.payload.field "ts").outOfRange ∧
    match e.event with
    | .runStatus =>
      ∃ runId, stringField e.payload ["runId", "id"] = some runId ∧ state.getRunDetail runId = none
    | .sessionMessage =>
      (sessionIdFromPayload e.payload).isSome ∧
        stringField e.payload ["updatedAt", "createdAt"] = none
    | .sessionsChanged =>
      (sessionIdFromPayload e.payload).isSome ∧ stringField e.payload ["updatedAt"] = none
    | .chat | .toolStatus | .approvalRequested | .approvalResolved => False

/-! ## The records that can be written -/

section Records

variable (clock : Clock) (state : ProductApiState)

theorem mirroredRun_isOk (input : MirrorRunInput) :
    (mirroredRun clock state input).toOption.isSome =
      ((state.getRunDetail input.runId).isSome || !input.ts.outOfRange) := by
  unfold mirroredRun
  cases state.getRunDetail input.runId with
  | some run => rfl
  | none =>
    rw [Option.isSome_none, Bool.false_or, ← isoFromValue_isOk clock 0]
    cases isoFromValue clock 0 input.ts <;> rfl

theorem mirroredSession_isOk (input : MirrorSessionInput) :
    (mirroredSession clock state input).toOption.isSome = !input.updatedAt.outOfRange := by
  unfold mirroredSession
  rw [← isoFromValue_isOk clock 2]
  cases isoFromValue clock 2 input.updatedAt <;> rfl

theorem mirroredRun_toOption_none {state : ProductApiState} (input : MirrorRunInput)
    (hd : state.getRunDetail input.runId = none) (ht : input.ts.outOfRange) :
    (mirroredRun clock state input).toOption = none := by
  rw [← Option.isSome_eq_false_iff.trans Option.isNone_iff_eq_none, mirroredRun_isOk, hd, ht]
  rfl

theorem mirroredSession_toOption_none (state : ProductApiState) (input : MirrorSessionInput)
    (ht : input.updatedAt.outOfRange) : (mirroredSession clock state input).toOption = none := by
  rw [← Option.isSome_eq_false_iff.trans Option.isNone_iff_eq_none, mirroredSession_isOk, ht]
  rfl

/-- A time that falls back on `ts` is out of range when there is no string and `ts` is. -/
theorem outOfRange_orElse (payload : JsValue) (text : Option String) :
    ((JsValue.ofString? text).orElse (.ofNumber? (numberField payload ["ts"]))).outOfRange ↔
      text = none ∧ (payload.field "ts").outOfRange := by
  cases text with
  | some s => simp [JsValue.ofString?, JsValue.orElse, JsValue.isNullish, JsValue.outOfRange]
  | none =>
    simp [JsValue.ofString?, JsValue.orElse, JsValue.isNullish, outOfRange_numberField]

end Records

/-! ## The mirror -/

/-- A program returns from a state. -/
def JsM.Returns {σ α : Type} (x : JsM σ α) (s : σ) : Prop := ∃ a t, x.run s = .ok a t

theorem JsM.returns_pure {σ α : Type} (a : α) (s : σ) : (pure a : JsM σ α).Returns s := ⟨a, s, rfl⟩

section

variable {δ : Type} [Persist δ] [ReliablePersist δ] (clock : Clock) (r : Repository δ)

theorem returns_mirrorRun_bind {α : Type} (input : MirrorRunInput)
    (k : WorkflowRunDetail → RepoM δ α) (hk : ∀ run t, (k run).Returns t) :
    (mirrorRun clock input >>= k).Returns r ↔
      ((r.state.getRunDetail input.runId).isSome ∨ ¬ input.ts.outOfRange) := by
  have hok := mirroredRun_isOk clock r.state input
  unfold JsM.Returns
  rw [EStateM.run_bind, run_mirrorRun]
  cases hrun : mirroredRun clock r.state input with
  | ok run =>
    rw [hrun] at hok
    have hret : (k run).Returns (r.update (·.upsertRun run)) := hk run _
    exact ⟨fun _ => by simpa [Except.toOption] using hok, fun _ => hret⟩
  | error e =>
    rw [hrun] at hok
    simpa [Except.toOption] using hok

theorem returns_mirrorSession (input : MirrorSessionInput) :
    (mirrorSession clock input >>= fun _ => (pure () : RepoM δ Unit)).Returns r ↔
      ¬ input.updatedAt.outOfRange := by
  have hok := mirroredSession_isOk clock r.state input
  unfold JsM.Returns
  rw [EStateM.run_bind, run_mirrorSession]
  cases hsession : mirroredSession clock r.state input with
  | ok session =>
    rw [hsession] at hok
    simpa [Except.toOption] using hok
  | error e =>
    rw [hsession] at hok
    simpa [Except.toOption] using hok

theorem returns_mirrorAudit (action : String) (level : AuditLevel) :
    (mirrorAudit clock action level).Returns r :=
  ⟨_, _, run_mirrorAudit clock action level r⟩

/-- A chat event always writes its session: the time is the clock's. -/
theorem mirroredSession_chat (state : ProductApiState) (payload : JsValue) (sessionId : String) :
    ∃ session, mirroredSession clock state (chatSessionInput clock payload sessionId) =
      .ok session := by
  have hok := mirroredSession_isOk clock state (chatSessionInput clock payload sessionId)
  cases h : mirroredSession clock state (chatSessionInput clock payload sessionId) with
  | ok session => exact ⟨session, rfl⟩
  | error e =>
    rw [h] at hok
    cases hok

theorem returns_mirrorChat (payload : JsValue) : (mirrorChat clock payload).Returns r := by
  unfold mirrorChat JsM.Returns
  cases stringField payload ["runId"] with
  | none =>
    cases sessionIdFromPayload payload with
    | none => exact ⟨_, _, rfl⟩
    | some sessionId =>
      obtain ⟨session, hs⟩ := mirroredSession_chat clock r.state payload sessionId
      simp [run_mirrorSession, hs]
  | some runId =>
    obtain ⟨run, hr⟩ := mirroredRun_chat clock r.state payload runId
    cases sessionIdFromPayload payload with
    | none => simp [run_mirrorRun, hr]
    | some sessionId =>
      obtain ⟨session, hs⟩ :=
        mirroredSession_chat clock (r.state.upsertRun run) payload sessionId
      simp [run_mirrorRun, hr, run_mirrorSession, hs]

theorem returns_mirror (e : ProductApiMirrorEvent) :
    (mirrorRealtimeEventToProductApiRepository clock e).Returns r ↔ ¬ e.BadTime r.state := by
  obtain ⟨event, payload⟩ := e
  by_cases hp : payload.isObject
  swap
  · refine iff_of_true ?_ fun h => hp h.1
    unfold mirrorRealtimeEventToProductApiRepository
    rw [if_neg hp]
    exact JsM.returns_pure () r
  unfold mirrorRealtimeEventToProductApiRepository ProductApiMirrorEvent.BadTime
  simp only [hp, if_true, true_and]
  cases event with
  | runStatus =>
    unfold mirrorRunStatus
    cases stringField payload ["runId", "id"] with
    | none => exact iff_of_true (JsM.returns_pure () r) (by simp)
    | some runId =>
      refine (returns_mirrorRun_bind clock r _ _ fun run t =>
        returns_mirrorAudit clock t _ _).trans ?_
      cases hd : r.state.getRunDetail runId <;> simp [runStatusInput, hd]
  | toolStatus =>
    unfold mirrorToolStatus
    simp only [and_false, not_false_eq_true, iff_true]
    cases stringField payload ["runId"] with
    | none => exact ⟨_, _, rfl⟩
    | some runId =>
      refine (returns_mirrorRun_bind clock r _ _ fun run t => returns_mirrorAudit clock t _ _).2 ?_
      refine .inr ?_
      unfold toolStatusInput JsValue.ofString?
      cases stringField payload ["startedAt", "updatedAt"] <;> simp [JsValue.outOfRange]
  | chat =>
    simp only [and_false, not_false_eq_true, iff_true]
    exact returns_mirrorChat clock r payload
  | sessionMessage =>
    unfold mirrorSessionMessage
    cases sessionIdFromPayload payload with
    | none => exact iff_of_true (JsM.returns_pure () r) (by simp)
    | some sessionId =>
      refine (returns_mirrorSession clock r _).trans ?_
      rw [sessionMessageInput, outOfRange_orElse]
      simp [and_comm]
  | sessionsChanged =>
    unfold mirrorSessionsChanged
    cases sessionIdFromPayload payload with
    | none => exact iff_of_true (JsM.returns_pure () r) (by simp)
    | some sessionId =>
      refine (returns_mirrorSession clock r _).trans ?_
      rw [sessionsChangedInput, outOfRange_orElse]
      simp [and_comm]
  | approvalRequested =>
    unfold mirrorApprovalRequest JsM.Returns
    simp [run_mirrorAudit]
  | approvalResolved =>
    unfold mirrorApprovalResolved JsM.Returns
    simp [run_mirrorAudit]

/-- An event that makes the mirror throw writes nothing. -/
theorem mirrorWrites_of_badTime {clock : Clock} {state : ProductApiState}
    {e : ProductApiMirrorEvent} (h : e.BadTime state) : mirrorWrites clock state e = [] := by
  obtain ⟨event, payload⟩ := e
  obtain ⟨hp, hts, h⟩ := h
  have hp : payload.isObject = true := hp
  have hts : (payload.field "ts").outOfRange = true := hts
  unfold mirrorWrites ProductApiMirrorEvent.runWritten ProductApiMirrorEvent.sessionWritten
    ProductApiMirrorEvent.run? ProductApiMirrorEvent.session? ProductApiMirrorEvent.workbench?
    ProductApiMirrorEvent.audit?
  simp only [hp, if_true]
  cases event with
  | runStatus =>
    obtain ⟨runId, hid, hd⟩ := h
    have hid : stringField payload ["runId", "id"] = some runId := hid
    have hnone := mirroredRun_toOption_none clock (runStatusInput payload runId) hd hts
    simp only [hid, Option.map_some, Option.bind_some, hnone]
    rfl
  | sessionMessage =>
    obtain ⟨hid, htext⟩ := h
    obtain ⟨sessionId, hid⟩ := Option.isSome_iff_exists.1 hid
    have hid : sessionIdFromPayload payload = some sessionId := hid
    have hnone := mirroredSession_toOption_none clock state
      (sessionMessageInput payload sessionId)
      ((outOfRange_orElse payload _).2 ⟨htext, hts⟩)
    simp only [hid, Option.map_some, Option.bind_some, hnone]
    rfl
  | sessionsChanged =>
    obtain ⟨hid, htext⟩ := h
    obtain ⟨sessionId, hid⟩ := Option.isSome_iff_exists.1 hid
    have hid : sessionIdFromPayload payload = some sessionId := hid
    have hnone := mirroredSession_toOption_none clock state
      (sessionsChangedInput payload sessionId)
      ((outOfRange_orElse payload _).2 ⟨htext, hts⟩)
    simp only [hid, Option.map_some, Option.bind_some, hnone]
    rfl
  | chat | toolStatus | approvalRequested | approvalResolved => cases h

/-- No event is mirrored in part: the repository is as it was when the mirror throws. -/
theorem mirror_throws_unchanged {clock : Clock} {r t : Repository δ} {e : ProductApiMirrorEvent}
    {x : JsError} (h : (mirrorRealtimeEventToProductApiRepository clock e).run r = .error x t) :
    t = r := by
  have hbad : e.BadTime r.state := by
    by_contra hgood
    obtain ⟨a, t', hok⟩ := (returns_mirror clock r e).2 hgood
    rw [h] at hok
    cases hok
  have hafter := stateAfter_mirror clock e r
  rw [JsM.stateAfter, h, mirrorWrites_of_badTime hbad] at hafter
  exact hafter

end

/-- The mirror returns from exactly those events that do not make it date a time out of range, and
an event from which it does not return leaves the repository as it was. -/
theorem mirror_returns_iff {δ : Type} [Persist δ] [ReliablePersist δ] (clock : Clock)
    (r : Repository δ) (e : ProductApiMirrorEvent) :
    ((mirrorRealtimeEventToProductApiRepository clock e).Returns r ↔ ¬ e.BadTime r.state) ∧
      ∀ x t, (mirrorRealtimeEventToProductApiRepository clock e).run r = .error x t → t = r :=
  ⟨returns_mirror clock r e, fun _ _ h => mirror_throws_unchanged h⟩

/-- A run that is not known yet, reported with a time beyond the range of dates. -/
def lateRunStatus : ProductApiMirrorEvent :=
  ⟨.runStatus, .obj [("runId", .str "r"), ("ts", .num (.finite 8640000000000001))]⟩

theorem mirror_throws_lateRunStatus :
    ¬ (mirrorRealtimeEventToProductApiRepository (fun _ => 0) lateRunStatus).Returns
      (createInMemoryProductApiRepository createMockProductApiState) := by
  have hthrows : (match (mirrorRealtimeEventToProductApiRepository (fun _ => 0) lateRunStatus).run
      (createInMemoryProductApiRepository createMockProductApiState) with
      | .ok _ _ => true
      | .error _ _ => false) = false := by
    decide +kernel
  rintro ⟨a, t, h⟩
  rw [h] at hthrows
  cases hthrows

/-- The same event with a time in range is mirrored. -/
theorem mirror_returns_inTime :
    (mirrorRealtimeEventToProductApiRepository (fun _ => 0)
        ⟨.runStatus, .obj [("runId", .str "r"), ("ts", .num (.finite 0))]⟩).Returns
      (createInMemoryProductApiRepository createMockProductApiState) := by
  refine (mirror_returns_iff _ _ _).1.2 fun h => ?_
  exact absurd h.2.1 (by decide +kernel)

end Vertx
