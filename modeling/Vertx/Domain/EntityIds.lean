import Vertx.Domain.Ids

/-!
# Ids of workflows, knowledge sources and automations

The ids of these lists come from the store's counters only.  A counter is consumed before the
input is read, so a request that throws leaves a gap in the numbers; a restart then seeds the
counter from the length of the list, which the gaps have made smaller than the numbers in use.
-/

namespace Vertx

open Repository Runs Numbered

/-- The kinds of entity that are created by a request of their own. -/
def entityKinds : List IdKind := [.workflow, .knowledge, .automation]

/-- The entities of each kind have distinct ids. -/
def EntityIdsUnique (s : Server) : Prop := ∀ k ∈ entityKinds, (k.ids s.repository.state).Nodup

/-- At a restart no id in use is numbered above the length of its list. -/
def SeedsPastIds (s : Server) : ServerStep → Prop
  | .restart =>
    ∀ k ∈ entityKinds, ∀ n, k.label n ∈ k.ids s.repository.state →
      n ≤ (k.ids s.repository.state).length
  | _ => True

/-- What holds of the entity ids while every restart seeds past the ids in use. -/
structure EntityInv (s : Server) : Prop where
  coherent : Coherent s
  fresh : ∀ k ∈ entityKinds, Fresh k.label (k.view s)

theorem entityInv_initial : EntityInv initialServer where
  coherent := coherent_initial
  fresh := fun k _ => fresh_initial k

theorem entityInv_step {s : Server} {step : ServerStep} (h : EntityInv s)
    (hok : SeedsPastIds s step) : EntityInv (serverStep s step) := by
  refine ⟨coherent_step step h.coherent, fun k hk => ?_⟩
  have hf := h.fresh k hk
  rw [view_step h.coherent]
  cases step with
  | call clock op =>
    simp only [idAction]
    split_ifs
    · exact hf.accept k.label_injective
    · exact hf
    · exact hf.reject
    · exact hf
  | mirror clock e =>
    simp only [entityKinds, List.mem_cons, List.not_mem_nil, or_false] at hk
    rcases hk with rfl | rfl | rfl <;> exact hf
  | restart => exact hf.restart fun n hn => Nat.lt_succ_of_le (hok k hk n hn)

/-- After a restart that does not seed past the ids in use, some number of requests repeats an
id. -/
theorem exists_posts_of_not_seedsPast (clock : Clock) {s : Server} (hs : Startable s)
    (hok : ¬ SeedsPastIds s .restart) :
    ∃ k ∈ entityKinds, ∃ n, ¬ EntityIdsUnique
      (run serverStep s (.restart :: List.replicate n (.call clock k.post))) := by
  simp only [SeedsPastIds, not_forall, Nat.not_le] at hok
  obtain ⟨k, hk, m, hm, hlen⟩ := hok
  have hview := view_step hs.toCoherent .restart k
  refine ⟨k, hk, m - (k.view (serverStep s .restart)).counter + 1, fun hu => ?_⟩
  have hn := hu k hk
  change (k.view _).ids.Nodup at hn
  rw [run_cons, view_posts clock k _ (startable_step _ hs), hview] at hn
  exact not_nodup_accepts (a := (k.view s).step k.label .restart) hm hlen hn

/-- The ids stay distinct in every run whose restarts all seed past the ids in use, and a restart
that does not can be followed by requests that repeat an id. -/
theorem entity_ids_unique (clock : Clock) (steps : List ServerStep) :
    (Each serverStep SeedsPastIds initialServer steps →
      Always serverStep EntityIdsUnique initialServer steps) ∧
    (¬ SeedsPastIds (run serverStep initialServer steps) .restart →
      ∃ k ∈ entityKinds, ∃ n, ¬ EntityIdsUnique
        (run serverStep initialServer
          (steps ++ .restart :: List.replicate n (.call clock k.post)))) := by
  refine ⟨fun h => ?_, fun hok => ?_⟩
  · exact (Always.of_each (fun _ _ => entityInv_step) entityInv_initial h).imp
      fun _ hs k hk => (hs.fresh k hk).nodup
  · simp only [run_append]
    refine exists_posts_of_not_seedsPast clock ?_ hok
    exact run_of_step (fun _ => startable_step) startable_initial steps

/-- A failed request before a restart is harmless, one before a request that succeeds is not. -/
theorem entity_ids_unique_null :
    Always serverStep EntityIdsUnique initialServer
      [.call (fun _ => 0) (.createWorkflow .null), .restart] ∧
    ∃ k ∈ entityKinds, ∃ n, ¬ EntityIdsUnique
      (run serverStep initialServer
        ([.call (fun _ => 0) (.createWorkflow .null),
          .call (fun _ => 0) (.createWorkflow (.obj []))] ++
          .restart :: List.replicate n (.call (fun _ => 0) k.post))) := by
  refine ⟨(entity_ids_unique (fun _ => 0) _).1 ⟨trivial, fun k _ n hn => ?_, trivial⟩,
    (entity_ids_unique (fun _ => 0) _).2 fun h => ?_⟩
  · have hids : k.ids (serverStep initialServer
        (.call (fun _ => 0) (.createWorkflow .null))).repository.state =
          [k.label 1, k.label 2] := by
      cases k <;> decide
    rw [hids] at hn ⊢
    simp only [List.mem_cons, k.label_injective.eq_iff, List.not_mem_nil, or_false] at hn
    simp only [List.length_cons, List.length_nil]
    omega
  · have hn := h .workflow (by decide) 4 (by decide)
    revert hn
    decide

/-- A request with body `null`, one that succeeds, a restart, another request: `wf-4` twice. -/
theorem entity_ids_collide :
    ¬ Always serverStep EntityIdsUnique initialServer
      [.call (fun _ => 0) (.createWorkflow .null), .call (fun _ => 0) (.createWorkflow (.obj [])),
        .restart, .call (fun _ => 0) (.createWorkflow (.obj []))] := by
  intro h
  have hend : EntityIdsUnique _ := h.2.2.2.2
  revert hend
  unfold EntityIdsUnique entityKinds
  decide

end Vertx
