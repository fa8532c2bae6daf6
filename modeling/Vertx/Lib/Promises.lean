import Mathlib

/-!
# Promises

A list of promises, each unsettled or holding its result.  Settling a promise that is settled, or
one that does not exist, changes nothing.
-/

namespace Vertx.Promises

variable {α : Type*}

/-- Settles the `k`-th promise, unless it is settled. -/
def settle (ps : List (Option α)) (r : ℕ × α) : List (Option α) :=
  ps.modify r.1 (·.or (some r.2))

/-- Settles promises in turn. -/
def settleAll (ps : List (Option α)) (rs : List (ℕ × α)) : List (Option α) := rs.foldl settle ps

/-- The result of the `k`-th promise. -/
def result? (ps : List (Option α)) (k : ℕ) : Option α := ps[k]?.join

@[simp] theorem settleAll_nil (ps : List (Option α)) : settleAll ps [] = ps := rfl

theorem settleAll_cons (ps : List (Option α)) (r : ℕ × α) (rs : List (ℕ × α)) :
    settleAll ps (r :: rs) = settleAll (settle ps r) rs := rfl

@[simp] theorem length_settle (ps : List (Option α)) (r : ℕ × α) :
    (settle ps r).length = ps.length := List.length_modify _ _ _

@[simp] theorem length_settleAll (ps : List (Option α)) (rs : List (ℕ × α)) :
    (settleAll ps rs).length = ps.length := by
  induction rs generalizing ps with
  | nil => rfl
  | cons r rs ih => rw [settleAll_cons, ih, length_settle]

theorem result?_settle (ps : List (Option α)) (r : ℕ × α) (k : ℕ) :
    result? (settle ps r) k =
      (result? ps k).or (if r.1 = k ∧ k < ps.length then some r.2 else none) := by
  unfold result? settle
  rw [List.getElem?_modify]
  by_cases hk : k < ps.length
  · rw [List.getElem?_eq_getElem hk]
    by_cases hr : r.1 = k
    · simp [hr, hk]
    · simp [hr]
  · rw [List.getElem?_eq_none (Nat.le_of_not_lt hk)]
    simp [hk]

/-- The `k`-th promise keeps its result or takes the first one that it is settled with. -/
theorem result?_settleAll (ps : List (Option α)) (rs : List (ℕ × α)) (k : ℕ) :
    result? (settleAll ps rs) k =
      (result? ps k).or (if k < ps.length then (rs.find? (·.1 = k)).map (·.2) else none) := by
  induction rs generalizing ps with
  | nil => simp
  | cons r rs ih =>
    rw [settleAll_cons, ih, result?_settle, length_settle, Option.or_assoc]
    by_cases hk : k < ps.length
    · by_cases hr : r.1 = k
      · simp [hk, hr]
      · simp [hk, hr]
    · simp [hk]

theorem isSome_settleAll (ps : List (Option α)) (rs : List (ℕ × α)) (k : ℕ) :
    (result? (settleAll ps rs) k).isSome ↔
      (result? ps k).isSome ∨ k < ps.length ∧ k ∈ rs.map (·.1) := by
  rw [result?_settleAll, Option.isSome_or, Bool.or_eq_true]
  refine or_congr_right ?_
  split_ifs with hk
  · simp [hk]
  · simp [hk]

/-- A new promise is unsettled. -/
theorem result?_append_none (ps : List (Option α)) (k : ℕ) :
    result? (ps ++ [none]) k = result? ps k := by
  unfold result?
  rw [List.getElem?_append]
  split_ifs with hk
  · rfl
  · rw [List.getElem?_eq_none (Nat.le_of_not_lt hk)]
    cases hi : k - ps.length <;> simp

end Vertx.Promises
