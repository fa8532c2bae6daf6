import Mathlib

/-!
# Maps in insertion order

An `OrderedMap` is a finite map that lists its keys in the order in which they were first set: a
key that is set again keeps its place, a key that is deleted and set again moves to the end.  The
absence of duplicate keys is part of the type.
-/

namespace Vertx

universe u v

structure OrderedMap (κ : Type u) (α : Type v) where
  entries : List (κ × α)
  nodup : (entries.map (·.1)).Nodup

namespace OrderedMap

variable {κ : Type u} {α : Type v}

def empty : OrderedMap κ α := ⟨[], List.nodup_nil⟩

def keys (m : OrderedMap κ α) : List κ := m.entries.map (·.1)

def size (m : OrderedMap κ α) : ℕ := m.entries.length

theorem nodup_keys (m : OrderedMap κ α) : m.keys.Nodup := m.nodup

theorem size_eq_length_keys (m : OrderedMap κ α) : m.size = m.keys.length :=
  (List.length_map _).symm

@[simp] theorem entries_empty : (empty : OrderedMap κ α).entries = [] := rfl

variable [DecidableEq κ]

instance [DecidableEq α] : DecidableEq (OrderedMap κ α) := fun m n =>
  decidable_of_iff (m.entries = n.entries) (by cases m; cases n; simp)

def get? (m : OrderedMap κ α) (k : κ) : Option α := (m.entries.find? (·.1 = k)).map (·.2)

def has (m : OrderedMap κ α) (k : κ) : Bool := (m.get? k).isSome

/-- The entries after `k` is set to `v`. -/
def setEntry (k : κ) (v : α) : List (κ × α) → List (κ × α)
  | [] => [(k, v)]
  | e :: rest => if e.1 = k then (k, v) :: rest else e :: setEntry k v rest

theorem keys_setEntry (k : κ) (v : α) (l : List (κ × α)) :
    (setEntry k v l).map (·.1) =
      if k ∈ l.map (·.1) then l.map (·.1) else l.map (·.1) ++ [k] := by
  induction l with
  | nil => simp [setEntry]
  | cons e rest ih =>
    by_cases he : e.1 = k
    · simp [setEntry, he]
    · have hk : k ≠ e.1 := fun h => he h.symm
      simp only [setEntry, he, if_false, List.map_cons, ih, List.mem_cons, hk, false_or]
      split_ifs <;> rfl

def set (m : OrderedMap κ α) (k : κ) (v : α) : OrderedMap κ α where
  entries := setEntry k v m.entries
  nodup := by
    rw [keys_setEntry]
    split_ifs with h
    · exact m.nodup
    · exact List.nodup_append.2 ⟨m.nodup, List.nodup_singleton k, fun a ha b hb =>
        fun e => h (List.mem_singleton.1 hb ▸ e ▸ ha)⟩

/-- The entries that pass a test, in their order. -/
def filter (p : κ → α → Bool) (m : OrderedMap κ α) : OrderedMap κ α where
  entries := m.entries.filter fun e => p e.1 e.2
  nodup := m.nodup.sublist (List.filter_sublist.map _)

def delete (m : OrderedMap κ α) (k : κ) : OrderedMap κ α := m.filter fun j _ => j ≠ k

/-- Deletes the keys of a list. -/
def deleteAll (m : OrderedMap κ α) (ks : List κ) : OrderedMap κ α := ks.foldl delete m

variable {m : OrderedMap κ α} {j k : κ} {v w : α}

theorem get?_eq_some : m.get? k = some v ↔ (k, v) ∈ m.entries := by
  rw [get?]
  constructor
  · intro h
    obtain ⟨e, he, rfl⟩ := Option.map_eq_some_iff.1 h
    have hk : e.1 = k := by simpa using List.find?_some he
    rw [← hk]
    exact List.mem_of_find?_eq_some he
  · intro h
    have hnodup := m.nodup
    generalize m.entries = l at h hnodup
    induction l with
    | nil => simp at h
    | cons e rest ih =>
      rw [List.map_cons, List.nodup_cons] at hnodup
      rcases List.mem_cons.1 h with rfl | h
      · simp
      · have hne : e.1 ≠ k := fun he => hnodup.1 (he ▸ List.mem_map_of_mem (f := Prod.fst) h)
        rw [List.find?_cons_of_neg (by simpa using hne)]
        exact ih h hnodup.2

theorem get?_eq_none : m.get? k = none ↔ k ∉ m.keys := by
  rw [Option.eq_none_iff_forall_ne_some, keys, List.mem_map]
  constructor
  · rintro h ⟨e, he, rfl⟩
    exact h e.2 (get?_eq_some.2 he)
  · exact fun h v hv => h ⟨(k, v), get?_eq_some.1 hv, rfl⟩

theorem mem_keys : k ∈ m.keys ↔ ∃ v, m.get? k = some v := by
  rw [← not_iff_not, ← get?_eq_none, Option.eq_none_iff_forall_ne_some, not_exists]

theorem has_iff : m.has k = true ↔ ∃ v, m.get? k = some v := by
  rw [has, Option.isSome_iff_exists]

theorem has_eq_false : m.has k = false ↔ m.get? k = none := by
  rw [has, Option.isSome_eq_false_iff, Option.isNone_iff_eq_none]

@[simp] theorem get?_empty (k : κ) : (empty : OrderedMap κ α).get? k = none := rfl

@[simp] theorem has_empty (k : κ) : (empty : OrderedMap κ α).has k = false := rfl

theorem get?_set (m : OrderedMap κ α) (k : κ) (v : α) (j : κ) :
    (m.set k v).get? j = if j = k then some v else m.get? j := by
  simp only [get?, set]
  generalize m.entries = l
  induction l with
  | nil =>
    by_cases h : k = j
    · simp [setEntry, h]
    · simp [setEntry, h, Ne.symm h]
  | cons e rest ih =>
    by_cases he : e.1 = k
    · by_cases h : j = k
      · simp [setEntry, he, h]
      · have hk : ¬ k = j := fun e => h e.symm
        simp [setEntry, h, hk, he]
    · by_cases h : e.1 = j
      · have hk : j ≠ k := fun hj => he (h.trans hj)
        simp [setEntry, h, hk]
      · simp only [setEntry, he, if_false, List.find?_cons, h, decide_false]
        exact ih

@[simp] theorem get?_set_self (m : OrderedMap κ α) (k : κ) (v : α) :
    (m.set k v).get? k = some v := by
  rw [get?_set, if_pos rfl]

theorem get?_set_of_ne (h : j ≠ k) : (m.set k v).get? j = m.get? j := by rw [get?_set, if_neg h]

theorem get?_filter (p : κ → α → Bool) (m : OrderedMap κ α) (k : κ) :
    (m.filter p).get? k = (m.get? k).filter (p k) := by
  ext v
  rw [get?_eq_some, filter, List.mem_filter, ← get?_eq_some, Option.filter_eq_some_iff]

theorem get?_delete (m : OrderedMap κ α) (k j : κ) :
    (m.delete k).get? j = if j = k then none else m.get? j := by
  rw [delete, get?_filter]
  split_ifs with h
  · simp [h]
  · cases m.get? j <;> simp [h, Option.filter]

@[simp] theorem get?_delete_self (m : OrderedMap κ α) (k : κ) : (m.delete k).get? k = none := by
  rw [get?_delete, if_pos rfl]

theorem get?_delete_of_ne (h : j ≠ k) : (m.delete k).get? j = m.get? j := by
  rw [get?_delete, if_neg h]

theorem get?_of_delete (h : (m.delete k).get? j = some v) : m.get? j = some v := by
  rw [get?_delete] at h
  split_ifs at h
  exact h

theorem has_delete : (m.delete k).has j = true ↔ m.has j = true ∧ j ≠ k := by
  rw [has, get?_delete]
  split_ifs with h
  · simp [h]
  · simp [h, has]

theorem get?_deleteAll (m : OrderedMap κ α) (ks : List κ) (j : κ) :
    (m.deleteAll ks).get? j = if j ∈ ks then none else m.get? j := by
  induction ks generalizing m with
  | nil => simp [deleteAll]
  | cons k ks ih =>
    rw [deleteAll, List.foldl_cons, ← deleteAll, ih, get?_delete]
    by_cases hk : j = k
    · simp [hk]
    · simp [hk]

theorem get?_of_deleteAll {ks : List κ} (h : (m.deleteAll ks).get? j = some v) :
    m.get? j = some v := by
  rw [get?_deleteAll] at h
  split_ifs at h
  exact h

/-- Deleting the keys of the entries that pass a test keeps the other entries. -/
theorem get?_deleteAll_filter (p : κ → α → Bool) (m : OrderedMap κ α) (j : κ) :
    (m.deleteAll (m.filter p).keys).get? j = (m.get? j).filter fun v => !p j v := by
  rw [get?_deleteAll]
  cases hj : m.get? j with
  | none => simp
  | some v =>
    cases hp : p j v with
    | true =>
      rw [if_pos (mem_keys.2 ⟨v, by rw [get?_filter, hj]; simp [Option.filter, hp]⟩)]
      simp [Option.filter, hp]
    | false =>
      rw [if_neg]
      · simp [Option.filter, hp]
      · rw [mem_keys]
        rintro ⟨w, hw⟩
        rw [get?_filter, hj] at hw
        simp [Option.filter, hp] at hw

end OrderedMap

/-- A set in insertion order. -/
abbrev OrderedSet (κ : Type u) := OrderedMap κ Unit

namespace OrderedSet

variable {κ : Type u} [DecidableEq κ]

def add (s : OrderedSet κ) (k : κ) : OrderedSet κ := s.set k ()

theorem has_add (s : OrderedSet κ) (k j : κ) : (s.add k).has j = (decide (j = k) || s.has j) := by
  rw [OrderedMap.has, add, OrderedMap.get?_set]
  split_ifs with h
  · simp [h]
  · simp [h, OrderedMap.has]

theorem has_foldl_add (l : List κ) (s : OrderedSet κ) (k : κ) :
    (l.foldl add s).has k = true ↔ k ∈ l ∨ s.has k = true := by
  induction l generalizing s with
  | nil => simp
  | cons j l ih =>
    rw [List.foldl_cons, ih, has_add, List.mem_cons, Bool.or_eq_true, decide_eq_true_eq]
    tauto

theorem has_iff_mem {s : OrderedSet κ} {k : κ} : s.has k = true ↔ k ∈ s.keys := by
  rw [OrderedMap.has_iff, OrderedMap.mem_keys]

theorem size_eq_zero {s : OrderedSet κ} : s.size = 0 ↔ ∀ k, s.has k = false := by
  rw [OrderedMap.size_eq_length_keys, List.length_eq_zero_iff, List.eq_nil_iff_forall_not_mem]
  simp only [← has_iff_mem, Bool.not_eq_true]

end OrderedSet

end Vertx
