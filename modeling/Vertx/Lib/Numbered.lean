import Vertx.Lib.Keyed
import Vertx.Lib.Runs

/-!
# Numbered identifiers

An allocator hands out `label 1`, `label 2`, … from a counter into a list that may also receive
identifiers from elsewhere, and that a restart seeds the counter from.  `Below label c ids` says
that the number `c` and all later ones are unused; `Dense label n ids` that every number from `1`
to `n` is used.
-/

namespace Vertx.Numbered

variable {α : Type*} (label : ℕ → α)

/-- Every number in use is smaller than `c`. -/
def Below (c : ℕ) (ids : List α) : Prop := ∀ k, label k ∈ ids → k < c

/-- Every number from `1` to `n` is in use. -/
def Dense (n : ℕ) (ids : List α) : Prop := ∀ k, 1 ≤ k → k ≤ n → label k ∈ ids

section Bounds

variable {label} {c n : ℕ} {ids : List α}

theorem Below.notMem (h : Below label c ids) : label c ∉ ids := fun hc => (h c hc).false

theorem Below.mono {d : ℕ} (h : Below label c ids) (hcd : c ≤ d) : Below label d ids :=
  fun k hk => (h k hk).trans_le hcd

/-- Handing out the counter's number. -/
theorem Below.cons (inj : Function.Injective label) (h : Below label c ids) :
    Below label (c + 1) (label c :: ids) := by
  intro k hk
  rcases List.mem_cons.1 hk with hk | hk
  · rw [inj hk]
    exact Nat.lt_succ_self c
  · exact (h k hk).trans (Nat.lt_succ_self c)

/-- Adding an identifier that is no number from `c` on. -/
theorem Below.cons_other {x : α} (h : Below label c ids) (hx : ∀ k, x = label k → k < c) :
    Below label c (x :: ids) := by
  intro k hk
  rcases List.mem_cons.1 hk with hk | hk
  · exact hx k hk.symm
  · exact h k hk

theorem Dense.cons (h : Dense label n ids) : Dense label (n + 1) (label (n + 1) :: ids) := by
  intro k h1 hk
  rcases Nat.lt_or_eq_of_le hk with hk | rfl
  · exact List.mem_cons_of_mem _ (h k h1 (Nat.le_of_lt_succ hk))
  · exact List.mem_cons_self

end Bounds

/-! ## The allocator -/

/-- The identifiers in use, newest first, and the number handed out next. -/
structure Allocator (α : Type*) where
  ids : List α
  counter : ℕ
  deriving DecidableEq

/-- What happens to an allocator. -/
inductive Action (α : Type*)
  /-- The counter's number is handed out. -/
  | accept
  /-- The counter's number is consumed by a request that fails. -/
  | reject
  /-- An identifier from elsewhere is added. -/
  | insert (x : α)
  /-- The counter is seeded from the number of identifiers. -/
  | restart
  | idle

def Allocator.step (a : Allocator α) : Action α → Allocator α
  | .accept => ⟨label a.counter :: a.ids, a.counter + 1⟩
  | .reject => ⟨a.ids, a.counter + 1⟩
  | .insert x => ⟨x :: a.ids, a.counter⟩
  | .restart => ⟨a.ids, a.ids.length + 1⟩
  | .idle => a

section Allocator

variable {label} {a : Allocator α}

open Runs

/-- Identifiers are never removed. -/
theorem mem_step {x : α} (h : x ∈ a.ids) (act : Action α) : x ∈ (a.step label act).ids := by
  cases act with
  | accept => exact List.mem_cons_of_mem _ h
  | insert y => exact List.mem_cons_of_mem _ h
  | reject => exact h
  | restart => exact h
  | idle => exact h

/-- The identifiers are distinct and the counter is past every number in use. -/
structure Fresh (label : ℕ → α) (a : Allocator α) : Prop where
  nodup : a.ids.Nodup
  below : Below label a.counter a.ids

theorem Fresh.accept (inj : Function.Injective label) (h : Fresh label a) :
    Fresh label (a.step label .accept) where
  nodup := List.nodup_cons.2 ⟨h.below.notMem, h.nodup⟩
  below := h.below.cons inj

theorem Fresh.reject (h : Fresh label a) : Fresh label (a.step label .reject) where
  nodup := h.nodup
  below := h.below.mono (Nat.le_succ _)

theorem Fresh.insert (h : Fresh label a) {x : α} (hx : x ∉ a.ids)
    (hk : ∀ k, x = label k → k < a.counter) : Fresh label (a.step label (.insert x)) where
  nodup := List.nodup_cons.2 ⟨hx, h.nodup⟩
  below := h.below.cons_other hk

theorem Fresh.restart (h : Fresh label a) (hb : Below label (a.ids.length + 1) a.ids) :
    Fresh label (a.step label .restart) where
  nodup := h.nodup
  below := hb

/-- Handing out numbers from `c` on reaches a number in use. -/
theorem not_nodup_accepts {k : ℕ} (hk : label k ∈ a.ids) (hc : a.counter ≤ k) :
    ¬ (run (Allocator.step label) a (List.replicate (k - a.counter + 1) .accept)).ids.Nodup := by
  induction h : k - a.counter generalizing a with
  | zero =>
    have hkc : a.counter = k := by omega
    rw [List.replicate_succ, run_cons]
    simp only [List.replicate_zero, run_nil, Allocator.step, List.nodup_cons, hkc, hk,
      not_true_eq_false, false_and, not_false_eq_true]
  | succ n ih =>
    rw [List.replicate_succ, run_cons]
    refine ih (mem_step hk _) ?_ ?_ <;> simp only [Allocator.step] <;> omega

/-- The numbers in use are exactly those up to the number of identifiers. -/
structure Packed (label : ℕ → α) (a : Allocator α) : Prop where
  nodup : a.ids.Nodup
  dense : Dense label a.ids.length a.ids
  below : Below label (a.ids.length + 1) a.ids
  pos : 1 ≤ a.counter
  le : a.counter ≤ a.ids.length + 1

/-- Adding the first unused number, whatever the counter does. -/
theorem Packed.cons (inj : Function.Injective label) (h : Packed label a) {c : ℕ} (hpos : 1 ≤ c)
    (hle : c ≤ a.ids.length + 2) : Packed label ⟨label (a.ids.length + 1) :: a.ids, c⟩ where
  nodup := List.nodup_cons.2 ⟨h.below.notMem, h.nodup⟩
  dense := h.dense.cons
  below := h.below.cons inj
  pos := hpos
  le := hle

theorem Packed.accept (inj : Function.Injective label) (h : Packed label a)
    (hc : a.counter = a.ids.length + 1) : Packed label (a.step label .accept) := by
  simp only [Allocator.step, hc]
  exact h.cons inj (by omega) (by omega)

/-- A counter that lags behind hands out a number in use. -/
theorem Packed.not_nodup_accept (h : Packed label a) (hc : a.counter ≠ a.ids.length + 1) :
    ¬ (a.step label .accept).ids.Nodup := by
  have hmem : label a.counter ∈ a.ids := h.dense _ h.pos (by have := h.le; omega)
  exact fun hn => (List.nodup_cons.1 hn).1 hmem

theorem Packed.insert (inj : Function.Injective label) (h : Packed label a) :
    Packed label (a.step label (.insert (label (a.ids.length + 1)))) :=
  h.cons inj h.pos (h.le.trans (Nat.le_succ _))

theorem Packed.restart (h : Packed label a) : Packed label (a.step label .restart) where
  nodup := h.nodup
  dense := h.dense
  below := h.below
  pos := Nat.le_add_left _ _
  le := le_rfl

end Allocator

/-! ## Numbers without a gap -/

/-- Increasing numbers have no gap exactly when every number between two of them is one of them. -/
theorem isChain_succ_iff {l : List ℕ} (h : l.Pairwise (· < ·)) :
    (l.IsChain fun m n => n = m + 1) ↔ ∀ m ∈ l, ∀ k ∈ l, ∀ n, m < n → n < k → n ∈ l := by
  induction l with
  | nil => simp
  | cons a l ih =>
    rw [List.pairwise_cons] at h
    cases l with
    | nil => simp; omega
    | cons b l =>
      rw [List.isChain_cons_cons, ih h.2]
      have hab := h.1 b List.mem_cons_self
      constructor
      · rintro ⟨rfl, hl⟩ m hm k hk n hmn hnk
        rcases List.mem_cons.1 hk with rfl | hk
        · rcases List.mem_cons.1 hm with rfl | hm
          · omega
          · have := h.1 m hm
            omega
        rcases List.mem_cons.1 hm with rfl | hm
        · rcases Nat.lt_or_eq_of_le hmn with hn | rfl
          · exact List.mem_cons_of_mem _ (hl _ List.mem_cons_self k hk n hn hnk)
          · exact List.mem_cons_of_mem _ List.mem_cons_self
        · exact List.mem_cons_of_mem _ (hl m hm k hk n hmn hnk)
      · intro hl
        refine ⟨?_, fun m hm k hk n hmn hnk => ?_⟩
        · by_contra hb
          have hmem := hl a List.mem_cons_self b (List.mem_cons_of_mem _ List.mem_cons_self) (a + 1)
            (Nat.lt_succ_self a) (by omega)
          rcases List.mem_cons.1 hmem with hmem | hmem
          · omega
          rcases List.mem_cons.1 hmem with hmem | hmem
          · exact hb hmem.symm
          · have := (List.pairwise_cons.1 h.2).1 _ hmem
            omega
        · have hn := hl m (List.mem_cons_of_mem _ hm) k (List.mem_cons_of_mem _ hk) n hmn hnk
          rcases List.mem_cons.1 hn with rfl | hn
          · have := h.1 m hm
            omega
          · exact hn

/-- Of numbered items without a gap, those that pass a test have numbers without a gap exactly when
no item that fails has a number between two that pass. -/
theorem isChain_filter_iff {f : α → Option ℕ} {l : List α} {p : α → Bool}
    (h : (l.filterMap f).IsChain fun m n => n = m + 1) :
    (((l.filter p).filterMap f).IsChain fun m n => n = m + 1) ↔
      ∀ a ∈ l, ∀ n, f a = some n → p a = false →
        ∀ m ∈ (l.filter p).filterMap f, ∀ k ∈ (l.filter p).filterMap f, ¬ (m < n ∧ n < k) := by
  have hsorted : (l.filterMap f).Pairwise (· < ·) :=
    List.isChain_iff_pairwise.1 (h.imp fun m n (hn : n = m + 1) => by omega)
  have hsub : ((l.filter p).filterMap f).Sublist (l.filterMap f) :=
    List.filter_sublist.filterMap f
  rw [isChain_succ_iff (hsorted.sublist hsub)]
  rw [isChain_succ_iff hsorted] at h
  constructor
  · rintro hl a ha n hn hp m hm k hk ⟨hmn, hnk⟩
    obtain ⟨a', ha', hn'⟩ := List.mem_filterMap.1 (hl m hm k hk n hmn hnk)
    obtain ⟨ha', hp'⟩ := List.mem_filter.1 ha'
    have hnodup : (l.filterMap f).Nodup := hsorted.imp fun hlt => hlt.ne
    rw [Keyed.eq_of_nodup_filterMap hnodup ha ha' hn hn', hp'] at hp
    cases hp
  · intro hl m hm k hk n hmn hnk
    obtain ⟨a, ha, hn⟩ := List.mem_filterMap.1 (h m (hsub.mem hm) k (hsub.mem hk) n hmn hnk)
    cases hp : p a with
    | true => exact List.mem_filterMap.2 ⟨a, List.mem_filter.2 ⟨ha, hp⟩, hn⟩
    | false => exact absurd ⟨hmn, hnk⟩ (hl a ha n hn hp m hm k hk)

end Vertx.Numbered
