import Vertx.Lib.OrderedMap
import Vertx.Lib.Runs

/-!
# A relation kept in two maps

A `MultiMap` maps a key to a set; it keeps no empty sets (`Full`).  A `TwoWay` keeps a relation
twice, as the map from the left to the right side and as the map back.  `Represents` ties it to the
relation; every operation keeps that, so after any run two elements are related exactly when they
were linked and not unlinked since (`represents_run`).
-/

namespace Vertx

variable {α β : Type} [DecidableEq α] [DecidableEq β]

abbrev MultiMap (α β : Type) := OrderedMap α (OrderedSet β)

namespace MultiMap

def Related (m : MultiMap α β) (a : α) (b : β) : Prop := ∃ s, m.get? a = some s ∧ s.has b = true

/-- No set of the map is empty. -/
def Full (m : MultiMap α β) : Prop := ∀ a s, m.get? a = some s → s.size ≠ 0

def insert (m : MultiMap α β) (a : α) (b : β) : MultiMap α β :=
  m.set a (((m.get? a).getD OrderedMap.empty).add b)

def remove (m : MultiMap α β) (a : α) (b : β) : MultiMap α β :=
  match m.get? a with
  | none => m
  | some s => if (s.delete b).size = 0 then OrderedMap.delete m a else m.set a (s.delete b)

def removeFrom (m : MultiMap α β) (as : List α) (b : β) : MultiMap α β :=
  as.foldl (fun m a => m.remove a b) m

variable {m : MultiMap α β} {a c : α} {b d : β}

theorem not_has_of_size {s : OrderedSet β} (h : s.size = 0) (b : β) : s.has b = false := by
  rw [OrderedMap.has_eq_false, OrderedMap.get?_eq_none, OrderedMap.keys,
    List.length_eq_zero_iff.1 h]
  simp

@[simp] theorem related_empty : ¬ Related (OrderedMap.empty : MultiMap α β) a b := by
  simp [Related]

omit [DecidableEq β] in
theorem full_empty : Full (OrderedMap.empty : MultiMap α β) := by simp [Full]

theorem related_iff_getD :
    m.Related a b ↔ ((m.get? a).getD OrderedMap.empty).has b = true := by
  rw [Related]
  cases m.get? a <;> simp

theorem related_insert : (m.insert a b).Related c d ↔ (c = a ∧ d = b) ∨ m.Related c d := by
  rw [related_iff_getD, related_iff_getD, insert, OrderedMap.get?_set]
  split_ifs with h
  · subst h
    simp [OrderedSet.has_add]
  · simp [h]

theorem full_insert (h : m.Full) : (m.insert a b).Full := by
  intro c s hs
  rw [insert, OrderedMap.get?_set] at hs
  split_ifs at hs with hc
  · rw [← Option.some.inj hs]
    intro h0
    have hb := not_has_of_size h0 b
    rw [OrderedSet.has_add] at hb
    simp at hb
  · exact h c s hs

theorem related_delete : Related (OrderedMap.delete m a) c d ↔ m.Related c d ∧ c ≠ a := by
  rw [Related, OrderedMap.get?_delete]
  split_ifs with h
  · simp [h]
  · simp [h, Related]

omit [DecidableEq β] in
theorem full_delete (h : m.Full) : Full (OrderedMap.delete m a) := by
  intro c s hs
  rw [OrderedMap.get?_delete] at hs
  split_ifs at hs
  exact h c s hs

theorem related_remove : (m.remove a b).Related c d ↔ m.Related c d ∧ ¬ (c = a ∧ d = b) := by
  unfold remove
  cases hm : m.get? a with
  | none =>
    have hnot : c = a → ¬ m.Related c d := by
      rintro rfl ⟨s, hs, -⟩
      rw [hm] at hs
      cases hs
    show m.Related c d ↔ _
    tauto
  | some s =>
    have hrelated (d : β) : m.Related a d ↔ s.has d = true := by simp [Related, hm]
    dsimp only
    split_ifs with h0
    · rw [related_delete]
      refine and_congr_right fun hcd => not_congr ⟨fun hc => ⟨hc, ?_⟩, fun hc => hc.1⟩
      -- Nothing but `b` was in the set.
      by_contra hd
      rw [hc, hrelated] at hcd
      have hmem := OrderedMap.has_delete.2 ⟨hcd, hd⟩
      rw [not_has_of_size h0] at hmem
      cases hmem
    · rw [Related, OrderedMap.get?_set]
      split_ifs with hc
      · rw [hc, hrelated]
        simp only [Option.some.injEq, exists_eq_left', OrderedMap.has_delete, true_and]
      · simp [Related, hc]

theorem full_remove (h : m.Full) : (m.remove a b).Full := by
  unfold remove
  split
  · exact h
  · split_ifs with h0
    · exact full_delete h
    · intro c s hs
      rw [OrderedMap.get?_set] at hs
      split_ifs at hs with hc
      · rw [← Option.some.inj hs]
        exact h0
      · exact h c s hs

theorem related_removeFrom (as : List α) :
    (m.removeFrom as b).Related c d ↔ m.Related c d ∧ ¬ (c ∈ as ∧ d = b) := by
  induction as generalizing m with
  | nil => simp [removeFrom]
  | cons a as ih =>
    rw [removeFrom, List.foldl_cons, ← removeFrom, ih, related_remove, List.mem_cons]
    tauto

theorem full_removeFrom (h : m.Full) (as : List α) : (m.removeFrom as b).Full := by
  induction as generalizing m with
  | nil => exact h
  | cons a as ih => exact ih (full_remove h)

end MultiMap

/-! ## Both maps -/

structure TwoWay (α β : Type) where
  right : MultiMap α β
  left : MultiMap β α

/-- One operation on a relation kept in two maps. -/
inductive TwoWayStep (α β : Type)
  | link (a : α) (b : β)
  | unlink (a : α) (b : β)
  | unlinkAll (a : α)
  | clear

namespace TwoWay

def empty : TwoWay α β := ⟨OrderedMap.empty, OrderedMap.empty⟩

def step (t : TwoWay α β) : TwoWayStep α β → TwoWay α β
  | .link a b => ⟨t.right.insert a b, t.left.insert b a⟩
  | .unlink a b => ⟨t.right.remove a b, t.left.remove b a⟩
  | .unlinkAll a =>
    match t.right.get? a with
    | none => t
    | some s => ⟨OrderedMap.delete t.right a, t.left.removeFrom s.keys a⟩
  | .clear => empty

/-- Both maps hold the relation, and neither holds an empty set. -/
structure Represents (t : TwoWay α β) (R : α → β → Prop) : Prop where
  right : ∀ a b, t.right.Related a b ↔ R a b
  left : ∀ a b, t.left.Related b a ↔ R a b
  fullRight : t.right.Full
  fullLeft : t.left.Full

/-- The operation links the two. -/
def Links (a : α) (b : β) : TwoWayStep α β → Prop
  | .link c d => c = a ∧ d = b
  | .unlink _ _ | .unlinkAll _ | .clear => False

/-- The operation takes the link of the two away. -/
def Unlinks (a : α) (b : β) : TwoWayStep α β → Prop
  | .link _ _ => False
  | .unlink c d => c = a ∧ d = b
  | .unlinkAll c => c = a
  | .clear => True

/-- What an operation does to the relation. -/
def relate (R : α → β → Prop) (op : TwoWayStep α β) (a : α) (b : β) : Prop :=
  Links a b op ∨ (R a b ∧ ¬ Unlinks a b op)

variable {t : TwoWay α β} {R : α → β → Prop}

theorem represents_empty : (empty : TwoWay α β).Represents fun _ _ => False :=
  ⟨by simp [empty], by simp [empty], MultiMap.full_empty, MultiMap.full_empty⟩

theorem Represents.congr {R' : α → β → Prop} (h : t.Represents R) (hR : ∀ a b, R a b ↔ R' a b) :
    t.Represents R' := by
  rwa [show R' = R from funext fun a => funext fun b => propext (hR a b).symm]

theorem Represents.step (h : t.Represents R) (op : TwoWayStep α β) :
    (t.step op).Represents (relate R op) := by
  cases op with
  | link c d =>
    refine ⟨fun a b => ?_, fun a b => ?_, MultiMap.full_insert h.fullRight,
      MultiMap.full_insert h.fullLeft⟩
    · rw [TwoWay.step, MultiMap.related_insert, h.right, relate, Links, Unlinks, eq_comm,
        @eq_comm _ b]
      tauto
    · rw [TwoWay.step, MultiMap.related_insert, h.left, relate, Links, Unlinks, eq_comm,
        @eq_comm _ a]
      tauto
  | unlink c d =>
    refine ⟨fun a b => ?_, fun a b => ?_, MultiMap.full_remove h.fullRight,
      MultiMap.full_remove h.fullLeft⟩
    · rw [TwoWay.step, MultiMap.related_remove, h.right, relate, Links, Unlinks, eq_comm,
        @eq_comm _ b]
      tauto
    · rw [TwoWay.step, MultiMap.related_remove, h.left, relate, Links, Unlinks, eq_comm,
        @eq_comm _ a]
      tauto
  | unlinkAll c =>
    have hstep : t.step (.unlinkAll c) = match t.right.get? c with
      | none => t
      | some s => ⟨OrderedMap.delete t.right c, t.left.removeFrom s.keys c⟩ := rfl
    rw [hstep]
    cases hc : t.right.get? c with
    | none =>
      have hnot (b : β) : ¬ R c b := by
        rw [← h.right]
        rintro ⟨s, hs, -⟩
        rw [hc] at hs
        cases hs
      have hiff (a : α) (b : β) : R a b ↔ relate R (.unlinkAll c) a b := by
        simp only [relate, Links, Unlinks, false_or, iff_self_and]
        rintro hab rfl
        exact hnot b hab
      exact ⟨fun a b => (h.right a b).trans (hiff a b), fun a b => (h.left a b).trans (hiff a b),
        h.fullRight, h.fullLeft⟩
    | some s =>
      have hmem (b : β) : b ∈ s.keys ↔ R c b := by
        rw [← h.right, MultiMap.Related, hc]
        simp [OrderedMap.mem_keys, OrderedMap.has_iff]
      refine ⟨fun a b => ?_, fun a b => ?_, MultiMap.full_delete h.fullRight,
        MultiMap.full_removeFrom h.fullLeft _⟩
      · show MultiMap.Related (OrderedMap.delete t.right c) a b ↔ _
        rw [MultiMap.related_delete, h.right, relate, Links, Unlinks, ne_eq, eq_comm]
        tauto
      · show MultiMap.Related (t.left.removeFrom s.keys c) b a ↔ _
        rw [MultiMap.related_removeFrom, h.left, hmem, relate, Links, Unlinks]
        constructor
        · rintro ⟨hab, hn⟩
          exact Or.inr ⟨hab, fun hca => hn ⟨hca ▸ hab, hca.symm⟩⟩
        · rintro (hl | ⟨hab, hn⟩)
          · exact hl.elim
          · exact ⟨hab, fun hca => hn hca.2.symm⟩
  | clear =>
    refine ⟨fun a b => ?_, fun a b => ?_, MultiMap.full_empty, MultiMap.full_empty⟩
    · simp [TwoWay.step, empty, relate, Links, Unlinks]
    · simp [TwoWay.step, empty, relate, Links, Unlinks]

/-- A key has a set exactly when it is related to something. -/
theorem Represents.mem_keys_right (h : t.Represents R) {a : α} :
    a ∈ OrderedMap.keys t.right ↔ ∃ b, R a b := by
  rw [OrderedMap.mem_keys]
  constructor
  · rintro ⟨s, hs⟩
    obtain ⟨⟨b, _⟩, hb⟩ := List.exists_mem_of_length_pos (Nat.pos_of_ne_zero (h.fullRight a s hs))
    exact ⟨b, (h.right a b).1 ⟨s, hs, OrderedMap.has_iff.2 ⟨_, OrderedMap.get?_eq_some.2 hb⟩⟩⟩
  · rintro ⟨b, hb⟩
    obtain ⟨s, hs, -⟩ := (h.right a b).2 hb
    exact ⟨s, hs⟩

variable {σ ι : Type*}

/-- A system that keeps a relation in two maps, some of whose inputs are operations on it: after
every run two elements are related, in both maps, exactly when some input linked them and no later
one unlinked them. -/
theorem represents_run {view : σ → TwoWay α β} {step : σ → ι → σ}
    (op? : ι → Option (TwoWayStep α β))
    (hstep : ∀ s i R, (view s).Represents R →
      (view (step s i)).Represents ((op? i).elim R (relate R)))
    {s : σ} (hs : view s = empty) (is : List ι) :
    (view (Runs.run step s is)).Represents fun a b =>
      Runs.LiveSince (fun i => ∃ op ∈ op? i, Links a b op) (fun i => ∃ op ∈ op? i, Unlinks a b op)
        is := by
  let relate? (R : α → β → Prop) (i : ι) : α → β → Prop := (op? i).elim R (relate R)
  have hrun : (view (Runs.run step s is)).Represents
      (Runs.run relate? (fun (_ : α) (_ : β) => False) is) := by
    induction is using List.reverseRecOn with
    | nil =>
      rw [Runs.run_nil, hs]
      exact represents_empty
    | append_singleton is i ih =>
      rw [Runs.run_append, Runs.run_append]
      exact hstep _ _ _ ih
  have hstep? (a : α) (b : β) (R : α → β → Prop) (i : ι) : relate? R i a b ↔
      (∃ op ∈ op? i, Links a b op) ∨ (R a b ∧ ¬ ∃ op ∈ op? i, Unlinks a b op) := by
    show (op? i).elim R (relate R) a b ↔ _
    cases op? i <;> simp [relate]
  have hlast (a : α) (b : β) : Runs.run relate? (fun (_ : α) (_ : β) => False) is a b ↔ _ :=
    Runs.run_iff_last (P := fun R : α → β → Prop => R a b) (hstep? a b) (fun _ _ => False) is
  simp only [false_and, false_or] at hlast
  exact ⟨fun a b => (hrun.right a b).trans (hlast a b),
    fun a b => (hrun.left a b).trans (hlast a b), hrun.fullRight, hrun.fullLeft⟩

end TwoWay

end Vertx
