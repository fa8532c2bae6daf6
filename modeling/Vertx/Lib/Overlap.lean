import Mathlib

/-!
# Appending with an overlap

`appendOverlap base new` appends `new` to `base` without repeating what `base` already ends with.
It is the shortest list that begins with `base` and ends with `new` (`length_appendOverlap_le`).
-/

namespace Vertx.Overlap

variable {α : Type*} [DecidableEq α]

/-- The greatest `k ≤ n` such that the first `k` elements of `new` end `base`. -/
def overlapUpTo (base new : List α) : ℕ → ℕ
  | 0 => 0
  | k + 1 => if new.take (k + 1) <:+ base then k + 1 else overlapUpTo base new k

/-- The length of the longest beginning of `new` that ends `base`. -/
def overlap (base new : List α) : ℕ := overlapUpTo base new (min base.length new.length)

def appendOverlap (base new : List α) : List α := base ++ new.drop (overlap base new)

variable {base new : List α}

theorem overlapUpTo_le (n : ℕ) : overlapUpTo base new n ≤ n := by
  induction n with
  | zero => exact le_rfl
  | succ n ih =>
    unfold overlapUpTo
    split_ifs
    · exact le_rfl
    · exact ih.trans (Nat.le_succ n)

theorem take_overlapUpTo (n : ℕ) : new.take (overlapUpTo base new n) <:+ base := by
  induction n with
  | zero => exact List.nil_suffix
  | succ n ih =>
    unfold overlapUpTo
    split_ifs with h
    · exact h
    · exact ih

theorem le_overlapUpTo {n k : ℕ} (hk : k ≤ n) (h : new.take k <:+ base) :
    k ≤ overlapUpTo base new n := by
  induction n with
  | zero => exact hk
  | succ n ih =>
    unfold overlapUpTo
    split_ifs with hn
    · exact hk
    · rcases Nat.lt_or_eq_of_le hk with hlt | rfl
      · exact ih (Nat.le_of_lt_succ hlt)
      · exact absurd h hn

theorem overlap_le_left : overlap base new ≤ base.length :=
  (overlapUpTo_le _).trans (min_le_left _ _)

theorem overlap_le_right : overlap base new ≤ new.length :=
  (overlapUpTo_le _).trans (min_le_right _ _)

theorem take_overlap : new.take (overlap base new) <:+ base := take_overlapUpTo _

theorem le_overlap {k : ℕ} (hb : k ≤ base.length) (hn : k ≤ new.length)
    (h : new.take k <:+ base) : k ≤ overlap base new := le_overlapUpTo (le_min hb hn) h

theorem prefix_appendOverlap : base <+: appendOverlap base new := List.prefix_append _ _

theorem suffix_appendOverlap : new <:+ appendOverlap base new := by
  obtain ⟨front, hfront⟩ : new.take (overlap base new) <:+ base := take_overlap
  refine ⟨front, ?_⟩
  rw [appendOverlap, ← hfront, List.append_assoc, hfront, List.take_append_drop]

@[simp] theorem appendOverlap_nil_right : appendOverlap base [] = base := by simp [appendOverlap]

theorem appendOverlap_nil_left : appendOverlap [] new = new := by
  have h : overlap ([] : List α) new = 0 := Nat.le_zero.1 overlap_le_left
  rw [appendOverlap, h]
  simp

/-- Of the lists that begin with `base` and end with `new`, `appendOverlap` is the shortest. -/
theorem length_appendOverlap_le {l : List α} (hb : base <+: l) (hn : new <:+ l) :
    (appendOverlap base new).length ≤ l.length := by
  rw [appendOverlap, List.length_append, List.length_drop]
  have hbl := hb.length_le
  have hnl := hn.length_le
  by_cases hlong : base.length + new.length ≤ l.length
  · omega
  -- The two overlap in `l` by the rest.
  obtain ⟨k, hk⟩ : ∃ k, l.length + k = base.length + new.length :=
    ⟨base.length + new.length - l.length, by omega⟩
  have hoverlap : k ≤ overlap base new := by
    refine le_overlap (by omega) (by omega) ?_
    obtain ⟨back, rfl⟩ := hb
    obtain ⟨front, hfront⟩ := hn
    refine ⟨front, ?_⟩
    have hlen : (front ++ new.take k).length = base.length := by
      have h1 := congrArg List.length hfront
      simp only [List.length_append, List.length_take] at h1 hk ⊢
      omega
    have htake := congrArg (List.take base.length) hfront
    rw [List.take_left, ← hlen, List.take_append, List.take_of_length_le (by simp)] at htake
    rw [← htake]
    congr 2
    simp only [List.length_append, List.length_take] at hlen ⊢
    omega
  omega

/-- Nothing is left out exactly when no beginning of `new` ends `base`. -/
theorem appendOverlap_eq_append_iff :
    appendOverlap base new = base ++ new ↔ ∀ k, 0 < k → k ≤ new.length → ¬ new.take k <:+ base := by
  constructor
  · intro h k hk hkn hsuffix
    have hkb : k ≤ base.length := by simpa [hkn] using hsuffix.length_le
    have hle := le_overlap hkb hkn hsuffix
    have hlen := congrArg List.length h
    simp only [appendOverlap, List.length_append, List.length_drop] at hlen
    omega
  · intro h
    have hzero : overlap base new = 0 := by
      by_contra hne
      exact h _ (Nat.pos_of_ne_zero hne) overlap_le_right take_overlap
    rw [appendOverlap, hzero, List.drop_zero]

end Vertx.Overlap
