import Vertx.Domain.Ids

/-!
# Audit ids

The store numbers an audit entry by its private counter, the mirror by the length of the list.  The
two generators agree as long as no mirrored event has added an entry since the store was built;
the first audited call after such an event repeats an id.
-/

namespace Vertx

open Repository Runs Numbered

/-- The audit entries have distinct ids. -/
def AuditIdsUnique (s : Server) : Prop := (s.repository.state.auditEvents.map (·.id)).Nodup

/-- An approval request mirrored before the first call: both entries are `audit-3`. -/
theorem audit_ids_collide :
    ¬ Always serverStep AuditIdsUnique initialServer
      [.mirror (fun _ => 0) ⟨.approvalRequested, .obj []⟩,
        .call (fun _ => 0) (.createWorkflow (.obj []))] := by
  intro h
  have hend : AuditIdsUnique _ := h.2.2
  revert hend
  unfold AuditIdsUnique
  decide

/-- A call that adds an audit entry comes when the counter is one past the number of entries. -/
def AuditInStep (s : Server) : ServerStep → Prop
  | .call _ op =>
    op.accepted s.repository.state → s.auditCounter = s.repository.state.auditEvents.length + 1
  | _ => True

/-- What holds of the audit ids while every call is in step. -/
structure AuditInv (s : Server) : Prop where
  coherent : Coherent s
  packed : Packed IdKind.audit.label (IdKind.audit.view s)

theorem auditInv_initial : AuditInv initialServer where
  coherent := coherent_initial
  packed := by
    have h := fresh_initial .audit
    rw [view_initial] at h ⊢
    refine ⟨h.nodup, fun n h1 h2 => ?_, h.below, by decide, le_rfl⟩
    have h2 : n ≤ 2 := h2
    interval_cases n <;> simp

theorem audit_length (s : Server) :
    (IdKind.audit.view s).ids.length = s.repository.state.auditEvents.length :=
  List.length_map _

/-- A mirrored event numbers its audit entry by the length of the list. -/
theorem mirrorAudit_id {clock : Clock} {s : Server} {e : ProductApiMirrorEvent}
    {entry : AuditEventSummary} (h : mirrorAudit? clock s.repository.state e = some entry) :
    entry.id = IdKind.audit.label ((IdKind.audit.view s).ids.length + 1) := by
  obtain ⟨_, -, rfl⟩ := Option.map_eq_some_iff.1 h
  rw [audit_length]
  rfl

theorem auditInv_step {s : Server} {step : ServerStep} (h : AuditInv s) (hok : AuditInStep s step) :
    AuditInv (serverStep s step) := by
  refine ⟨coherent_step step h.coherent, ?_⟩
  rw [view_step h.coherent]
  cases step with
  | call clock op =>
    by_cases hacc : op.accepted s.repository.state
    · simp only [idAction, hacc, if_true, true_or]
      exact h.packed.accept IdKind.audit.label_injective (by rw [audit_length]; exact hok hacc)
    · have hop : op.kind ≠ some .audit := by cases op <;> simp [StoreOp.kind]
      simp only [idAction, hacc, hop, and_false, if_false]
      exact h.packed
  | mirror clock e =>
    simp only [idAction]
    cases he : mirrorAudit? clock s.repository.state e with
    | none => exact h.packed
    | some entry =>
      simp only [mirrorAudit_id he]
      exact h.packed.insert IdKind.audit.label_injective
  | restart => exact h.packed.restart

/-- The first call that is out of step repeats an id. -/
theorem not_unique_of_not_inStep {s : Server} {step : ServerStep} (h : AuditInv s)
    (hok : ¬ AuditInStep s step) : ¬ AuditIdsUnique (serverStep s step) := by
  change ¬ (IdKind.audit.view (serverStep s step)).ids.Nodup
  rw [view_step h.coherent]
  cases step with
  | call clock op =>
    simp only [AuditInStep, Classical.not_imp] at hok
    simp only [idAction, hok.1, if_true, true_or]
    exact h.packed.not_nodup_accept (by rw [audit_length]; exact hok.2)
  | mirror clock e => exact absurd trivial hok
  | restart => exact absurd trivial hok

/-- The audit ids stay distinct in exactly the runs in which every audited call is in step. -/
theorem audit_ids_unique_iff (steps : List ServerStep) :
    Always serverStep AuditIdsUnique initialServer steps ↔
      Each serverStep AuditInStep initialServer steps :=
  always_iff_each (fun _ h => h.packed.nodup) (fun _ _ h hok => auditInv_step h hok)
    (fun _ _ h hok => not_unique_of_not_inStep h hok) auditInv_initial steps

end Vertx
