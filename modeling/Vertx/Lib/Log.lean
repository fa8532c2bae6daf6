import Vertx.Lib.Runs

/-!
# Logs that only grow

A system that acts on its surroundings keeps a log of what it did.  `Appends P` says that a log was
extended by entries with `P` only.  It composes along the parts of a step and along a run.
-/

namespace Vertx

variable {α β : Type*}

/-- The second list is the first one with further entries, all with `P`. -/
def Appends (P : α → Prop) (l l' : List α) : Prop := ∃ added, l' = l ++ added ∧ ∀ a ∈ added, P a

namespace Appends

variable {P Q : α → Prop} {l l' l'' : List α}

theorem refl (l : List α) : Appends P l l := ⟨[], (List.append_nil l).symm, by simp⟩

theorem of_eq (h : l' = l) : Appends P l l' := by
  rw [h]
  exact refl l

theorem trans (h : Appends P l l') (h' : Appends P l' l'') : Appends P l l'' := by
  obtain ⟨added, rfl, hP⟩ := h
  obtain ⟨added', rfl, hP'⟩ := h'
  refine ⟨added ++ added', List.append_assoc _ _ _, fun a ha => ?_⟩
  exact (List.mem_append.1 ha).elim (hP a) (hP' a)

theorem imp (hPQ : ∀ a, P a → Q a) (h : Appends P l l') : Appends Q l l' := by
  obtain ⟨added, hl, hP⟩ := h
  exact ⟨added, hl, fun a ha => hPQ a (hP a ha)⟩

theorem concat {a : α} (h : P a) (l : List α) : Appends P l (l ++ [a]) :=
  ⟨[a], rfl, by simpa using h⟩

theorem append {added : List α} (h : ∀ a ∈ added, P a) (l : List α) : Appends P l (l ++ added) :=
  ⟨added, rfl, h⟩

/-- A view of the log that shows nothing of the new entries does not change. -/
theorem filterMap_eq {f : α → Option β} (h : Appends P l l') (hf : ∀ a, P a → f a = none) :
    l'.filterMap f = l.filterMap f := by
  obtain ⟨added, rfl, hP⟩ := h
  rw [List.filterMap_append, List.filterMap_eq_nil_iff.2 fun a ha => hf a (hP a ha),
    List.append_nil]

open Runs in
/-- What the steps of a run append while an invariant holds that they keep. -/
theorem run {σ ι : Type*} {log : σ → List α} {step : σ → ι → σ} {Inv : σ → Prop} {ok : σ → ι → Prop}
    (keep : ∀ s i, Inv s → ok s i → Inv (step s i))
    (h : ∀ s i, Inv s → ok s i → Appends P (log s) (log (step s i))) {s : σ} {is : List ι}
    (hs : Inv s) (hok : Each step ok s is) : Appends P (log s) (log (Runs.run step s is)) := by
  induction is generalizing s with
  | nil => exact refl _
  | cons i is ih => exact (h s i hs hok.1).trans (ih (keep s i hs hok.1) hok.2)

end Appends

end Vertx
