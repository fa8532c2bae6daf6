import Mathlib

/-!
# Lists of records addressed by a key

`modifyFirst` changes the first record that satisfies a test, `upsertFirst` changes the record with
a given key or puts a new one at the front.
-/

namespace Vertx.Keyed

variable {α κ β : Type*}

/-- Applies `f` to the first element that satisfies `p`. -/
def modifyFirst (p : α → Bool) (f : α → α) : List α → List α
  | [] => []
  | a :: l => if p a then f a :: l else a :: modifyFirst p f l

section Modify

variable (p : α → Bool) (f : α → α)

/-- A column that `f` keeps is unchanged. -/
theorem map_modifyFirst (g : α → β) (hf : ∀ a, p a → g (f a) = g a) (l : List α) :
    (modifyFirst p f l).map g = l.map g := by
  induction l with
  | nil => rfl
  | cons a l ih =>
    unfold modifyFirst
    split_ifs with h
    · simp [hf a h]
    · simp [ih]

/-- A projection of the changed list is the changed projection. -/
theorem map_modifyFirst_comm {q : β → Bool} {g : α → β} {f' : β → β} (hq : ∀ a, q (g a) = p a)
    (hf : ∀ a, p a → g (f a) = f' (g a)) (l : List α) :
    (modifyFirst p f l).map g = modifyFirst q f' (l.map g) := by
  induction l with
  | nil => rfl
  | cons a l ih =>
    simp only [modifyFirst, List.map_cons, hq]
    split_ifs with h
    · simp [hf a h]
    · simp [ih]

theorem find?_modifyFirst (hf : ∀ a, p a → p (f a)) (l : List α) :
    (modifyFirst p f l).find? p = (l.find? p).map f := by
  induction l with
  | nil => rfl
  | cons a l ih =>
    unfold modifyFirst
    split_ifs with h
    · simp [h, hf a h]
    · simp [h, ih]

/-- A search that neither the old nor the new record answers is unaffected. -/
theorem find?_modifyFirst_ne {q : α → Bool} (hq : ∀ a, p a → q a = false ∧ q (f a) = false)
    (l : List α) : (modifyFirst p f l).find? q = l.find? q := by
  induction l with
  | nil => rfl
  | cons a l ih =>
    unfold modifyFirst
    split_ifs with h
    · simp [(hq a h).1, (hq a h).2]
    · simp [List.find?_cons, ih]

theorem mem_modifyFirst {l : List α} {b : α} (h : b ∈ modifyFirst p f l) :
    b ∈ l ∨ ∃ a ∈ l, p a ∧ b = f a := by
  induction l with
  | nil => simp [modifyFirst] at h
  | cons a l ih =>
    unfold modifyFirst at h
    split_ifs at h with hp
    · rcases List.mem_cons.1 h with rfl | h
      · exact Or.inr ⟨a, List.mem_cons_self, hp, rfl⟩
      · exact Or.inl (List.mem_cons_of_mem _ h)
    · rcases List.mem_cons.1 h with rfl | h
      · exact Or.inl List.mem_cons_self
      · rcases ih h with h | ⟨c, hc, h⟩
        · exact Or.inl (List.mem_cons_of_mem _ h)
        · exact Or.inr ⟨c, List.mem_cons_of_mem _ hc, h⟩

/-- Place by place, the list stays as it was or holds the changed first match. -/
theorem forall₂_modifyFirst {R : α → α → Prop} {l : List α}
    (h : ∀ a, l.find? p = some a → R a (f a)) :
    List.Forall₂ (fun a b => a = b ∨ p a ∧ R a b) l (modifyFirst p f l) := by
  induction l with
  | nil => exact .nil
  | cons a l ih =>
    unfold modifyFirst
    have hrefl : List.Forall₂ (fun a b => a = b ∨ p a ∧ R a b) l l :=
      List.forall₂_same.2 fun _ _ => .inl rfl
    split_ifs with hp
    · exact .cons (.inr ⟨hp, h a (by simp [hp])⟩) hrefl
    · refine .cons (.inl rfl) (ih fun b hb => h b ?_)
      rw [List.find?_cons_of_neg hp, hb]

/-- The list stays as it was exactly when its first match does. -/
theorem modifyFirst_eq_self {l : List α} :
    modifyFirst p f l = l ↔ ∀ a, l.find? p = some a → f a = a := by
  induction l with
  | nil => simp [modifyFirst]
  | cons a l ih =>
    unfold modifyFirst
    split_ifs with h
    · simp [h]
    · simp [h, ih]

/-- Only the place of the first match changes. -/
theorem getElem?_modifyFirst (l : List α) (i : ℕ) :
    (modifyFirst p f l)[i]? = l[i]?.map fun a => if l.findIdx? p = some i then f a else a := by
  induction l generalizing i with
  | nil => rfl
  | cons a l ih =>
    rw [modifyFirst, List.findIdx?_cons]
    by_cases h : p a
    · rw [if_pos h, if_pos h]
      cases i with
      | zero => rfl
      | succ i => simp
    · rw [if_neg h, if_neg h]
      cases i with
      | zero => simp
      | succ i =>
        rw [List.getElem?_cons_succ, List.getElem?_cons_succ, ih]
        simp

end Modify

/-- The first answers to two searches are the same when each answers the other search. -/
theorem eq_of_find?_eq_some {p q : α → Bool} {l : List α} {a b : α} (ha : l.find? p = some a)
    (hb : l.find? q = some b) (hqa : q a) (hpb : p b) : a = b := by
  induction l with
  | nil => cases ha
  | cons c l ih =>
    rw [List.find?_cons] at ha hb
    by_cases hp : p c <;> by_cases hq : q c
    · rw [hp] at ha
      rw [hq] at hb
      exact (Option.some.inj ha).symm.trans (Option.some.inj hb)
    · rw [hp] at ha
      obtain rfl := Option.some.inj ha
      exact absurd hqa hq
    · rw [hq] at hb
      obtain rfl := Option.some.inj hb
      exact absurd hpb hp
    · simp only [hp, hq] at ha hb
      exact ih ha hb

/-- A projection of a list with one place changed. -/
theorem map_modify {f : α → α} {g : β → β} {p : α → β} (h : ∀ a, p (f a) = g (p a)) (k : ℕ)
    (l : List α) : (l.modify k f).map p = (l.map p).modify k g := by
  apply List.ext_getElem?
  intro i
  simp only [List.getElem?_map, List.getElem?_modify]
  cases l[i]? with
  | none => rfl
  | some a =>
    by_cases hi : k = i
    · simp [hi, h]
    · simp [hi]

/-- A projection that the change keeps. -/
theorem map_modify_of_eq {f : α → α} {p : α → β} (h : ∀ a, p (f a) = p a) (k : ℕ) (l : List α) :
    (l.modify k f).map p = l.map p := by
  rw [@map_modify _ _ f id p h, List.modify_id]

/-- Two lists related place by place have related places, or both have none. -/
theorem forall₂_getElem? {R : α → β → Prop} {l : List α} {m : List β}
    (h : List.Forall₂ R l m) (i : ℕ) : Option.Rel R l[i]? m[i]? := by
  induction h generalizing i with
  | nil => exact .none
  | cons hab _ ih =>
    cases i with
    | zero => exact .some hab
    | succ i => simpa using ih i

/-- A relation of two lists, place by place, after a change of one place. -/
theorem forall₂_modify {R : α → β → Prop} {f : α → α} {g : β → β} {l : List α} {m : List β}
    (h : List.Forall₂ R l m) (i : ℕ)
    (hi : ∀ a ∈ l[i]?, ∀ b ∈ m[i]?, R a b → R (f a) (g b)) :
    List.Forall₂ R (l.modify i f) (m.modify i g) := by
  induction h generalizing i with
  | nil =>
    cases i with
    | zero => exact .nil
    | succ i => exact .nil
  | cons hab htail ih =>
    cases i with
    | zero => exact .cons (hi _ rfl _ rfl hab) htail
    | succ i => exact .cons hab (ih i (by simpa using hi))

/-- What one record has more of, all records together have more of. -/
theorem flatMap_modify_perm {f : α → α} {g : α → List β} {new : List β} :
    ∀ {l : List α} {k : ℕ} {a : α}, l[k]? = some a → g (f a) = g a ++ new →
      ((l.modify k f).flatMap g).Perm (l.flatMap g ++ new)
  | [], _, _, hk, _ => by simp at hk
  | a :: l, 0, _, hk, hf => by
    obtain rfl := Option.some.inj hk
    simp only [List.modify_zero_cons, List.flatMap_cons, hf, List.append_assoc]
    exact List.perm_append_comm.append_left (g a)
  | a :: l, k + 1, _, hk, hf => by
    simp only [List.modify_succ_cons, List.flatMap_cons, List.append_assoc]
    exact (flatMap_modify_perm (by simpa using hk) hf).append_left (g a)

theorem filterMap_modify_of_eq {f : α → α} {g : α → Option β} (hf : ∀ a, g (f a) = g a) (i : ℕ)
    (l : List α) : (l.modify i f).filterMap g = l.filterMap g := by
  have hmap : (l.modify i f).map g = l.map g := map_modify_of_eq hf i l
  simpa [List.filterMap_map] using congrArg (List.filterMap id) hmap

/-- Places of a list that have one label are the same when the labels differ. -/
theorem index_eq_of_nodup_filterMap {f : α → Option β} {l : List α} (h : (l.filterMap f).Nodup)
    {i j : ℕ} {a b : α} {k : β} (ha : l[i]? = some a) (hb : l[j]? = some b) (hak : f a = some k)
    (hbk : f b = some k) : i = j := by
  induction l generalizing i j with
  | nil => cases ha
  | cons c l ih =>
    have hmem {n : ℕ} {d : α} (hd : l[n]? = some d) (hdk : f d = some k) : k ∈ l.filterMap f :=
      List.mem_filterMap.2 ⟨d, List.mem_of_getElem? hd, hdk⟩
    have htail : (l.filterMap f).Nodup := h.sublist ((List.sublist_cons_self c l).filterMap f)
    have hhead (hc : f c = some k) : k ∉ l.filterMap f := by
      rw [List.filterMap_cons_some hc, List.nodup_cons] at h
      exact h.1
    rcases i with _ | i <;> rcases j with _ | j
    · rfl
    · obtain rfl := Option.some.inj ha
      exact absurd (hmem hb hbk) (hhead hak)
    · obtain rfl := Option.some.inj hb
      exact absurd (hmem ha hak) (hhead hbk)
    · rw [ih htail ha hb]

/-- Elements of a list that have one label are equal when the labels differ. -/
theorem eq_of_nodup_filterMap {f : α → Option β} {l : List α} (h : (l.filterMap f).Nodup) {a b : α}
    {k : β} (ha : a ∈ l) (hb : b ∈ l) (hak : f a = some k) (hbk : f b = some k) : a = b := by
  obtain ⟨i, hi⟩ := List.mem_iff_getElem?.1 ha
  obtain ⟨j, hj⟩ := List.mem_iff_getElem?.1 hb
  obtain rfl := index_eq_of_nodup_filterMap h hi hj hak hbk
  exact Option.some.inj (hi.symm.trans hj)

/-- What follows the last separator of a text. -/
theorem eq_of_append_cons_eq {a : α} {l m s t : List α} (hs : a ∉ s) (ht : a ∉ t)
    (h : l ++ a :: s = m ++ a :: t) : s = t := by
  classical
  have hlast (l s : List α) (hs : a ∉ s) :
      (l ++ a :: s).reverse.takeWhile (· ≠ a) = s.reverse := by
    rw [List.reverse_append, List.reverse_cons, List.append_assoc, List.takeWhile_append_of_pos]
    · simp
    · intro b hb
      simp only [decide_eq_true_eq]
      rintro rfl
      exact hs (List.mem_reverse.1 hb)
  rw [← List.reverse_inj, ← hlast l s hs, ← hlast m t ht, h]

variable [DecidableEq κ] (key : α → κ)

/-- Takes the record with a key out of a list whose keys differ. -/
theorem perm_cons_filter {l : List α} (h : (l.map key).Nodup) {x : α} (hx : x ∈ l) :
    l.Perm (x :: l.filter (key · ≠ key x)) := by
  induction l with
  | nil => cases hx
  | cons a l ih =>
    rw [List.map_cons, List.nodup_cons] at h
    rcases List.mem_cons.1 hx with rfl | hx
    · have hrest : l.filter (key · ≠ key x) = l := by
        apply List.filter_eq_self.2
        intro b hb
        simp only [decide_eq_true_eq]
        exact fun hk => h.1 (hk ▸ List.mem_map_of_mem hb)
      rw [List.filter_cons_of_neg (by simp), hrest]
    · have hne : key a ≠ key x := fun hk => h.1 (hk ▸ List.mem_map_of_mem hx)
      rw [List.filter_cons_of_pos (by simpa using hne)]
      exact ((ih h.2 hx).cons a).trans (List.Perm.swap x a _)

/-- A list of records with different keys holds one record with the key of a member. -/
theorem filter_eq_singleton {l : List α} (h : (l.map key).Nodup) {x : α} (hx : x ∈ l) :
    l.filter (key · = key x) = [x] := by
  have hfilter := (perm_cons_filter key h hx).filter (key · = key x)
  rw [List.filter_cons_of_pos (by simp), List.filter_filter] at hfilter
  have hnone : l.filter (fun a => decide (key a = key x) && decide (key a ≠ key x)) = [] := by
    refine List.filter_eq_nil_iff.2 fun a _ => ?_
    by_cases ha : key a = key x <;> simp [ha]
  rw [hnone] at hfilter
  exact List.perm_singleton.1 hfilter

/-- Replaces the first record with the key of `x` by `merge` of it, or puts `x` at the front. -/
def upsertFirst (merge : α → α) (x : α) (l : List α) : List α :=
  if l.any (key · = key x) then modifyFirst (key · = key x) merge l else x :: l

section Upsert

variable {merge : α → α} {x : α} {l : List α}

theorem upsertFirst_of_mem (h : key x ∈ l.map key) :
    upsertFirst key merge x l = modifyFirst (key · = key x) merge l := by
  obtain ⟨a, ha, hk⟩ := List.mem_map.1 h
  exact if_pos (List.any_eq_true.2 ⟨a, ha, by simpa using hk⟩)

theorem upsertFirst_of_notMem (h : key x ∉ l.map key) : upsertFirst key merge x l = x :: l := by
  refine if_neg fun ha => h ?_
  obtain ⟨a, ha, hk⟩ := List.any_eq_true.1 ha
  exact List.mem_map.2 ⟨a, ha, by simpa using hk⟩

/-- The keys after an upsert: the same ones, or one more at the front. -/
theorem map_key_upsertFirst (hm : ∀ a, key a = key x → key (merge a) = key x) :
    (upsertFirst key merge x l).map key =
      if key x ∈ l.map key then l.map key else key x :: l.map key := by
  split_ifs with h
  · rw [upsertFirst_of_mem key h]
    refine map_modifyFirst _ _ key (fun a ha => ?_) l
    have ha : key a = key x := by simpa using ha
    rw [hm a ha, ha]
  · rw [upsertFirst_of_notMem key h, List.map_cons]

theorem mem_upsertFirst {b : α} (h : b ∈ upsertFirst key merge x l) :
    b ∈ l ∨ b = x ∨ ∃ a ∈ l, key a = key x ∧ b = merge a := by
  unfold upsertFirst at h
  split_ifs at h
  · rcases mem_modifyFirst _ _ h with h | ⟨a, ha, hk, hb⟩
    · exact .inl h
    · exact .inr (.inr ⟨a, ha, by simpa using hk, hb⟩)
  · exact (List.mem_cons.1 h).elim (fun h => .inr (.inl h)) .inl

/-- The change that a write under the key `k` makes to a list: records that were there keep their
places, those with another key stay as they were and one with the key `k` changes as `R` says; a new
record comes to the front. -/
def WrittenAt (k : κ) (R : α → α → Prop) (old new : List α) : Prop :=
  (k ∈ old.map key → List.Forall₂ (fun a b => a = b ∨ key a = k ∧ key b = k ∧ R a b) old new) ∧
    (k ∉ old.map key → ∃ x, key x = k ∧ new = x :: old)

theorem writtenAt_upsertFirst {R : α → α → Prop}
    (h : ∀ a, l.find? (key · = key x) = some a → key (merge a) = key x ∧ R a (merge a)) :
    WrittenAt key (key x) R l (upsertFirst key merge x l) := by
  refine ⟨fun hmem => ?_, fun hmem => ⟨x, rfl, upsertFirst_of_notMem key hmem⟩⟩
  rw [upsertFirst_of_mem key hmem]
  have hplaces := @forall₂_modifyFirst _ (key · = key x) merge
    (fun a b => key b = key x ∧ R a b) l h
  exact hplaces.imp fun a b hab => by simpa using hab

/-- The records with other keys are the same ones in the same order. -/
theorem WrittenAt.filter_ne {k : κ} {R : α → α → Prop} {old new : List α}
    (h : WrittenAt key k R old new) : new.filter (key · ≠ k) = old.filter (key · ≠ k) := by
  by_cases hmem : k ∈ old.map key
  · have hplaces := h.1 hmem
    clear h hmem
    induction hplaces with
    | nil => rfl
    | cons hab _ ih =>
      rcases hab with rfl | ⟨ha, hb, -⟩
      · rw [List.filter_cons, List.filter_cons, ih]
      · rw [List.filter_cons_of_neg (by simpa using hb),
          List.filter_cons_of_neg (by simpa using ha), ih]
  · obtain ⟨x, hx, rfl⟩ := h.2 hmem
    exact List.filter_cons_of_neg (by simpa using hx)

/-- A projection of the upserted list is the upserted projection. -/
theorem map_upsertFirst {key' : β → κ} {g : α → β} {merge' : β → β} (hk : ∀ a, key' (g a) = key a)
    (hm : ∀ a, g (merge a) = merge' (g a)) :
    (upsertFirst key merge x l).map g = upsertFirst key' merge' (g x) (l.map g) := by
  simp only [upsertFirst, List.any_map, Function.comp_def, hk]
  split_ifs
  · exact map_modifyFirst_comm _ _ (fun a => by rw [hk]) (fun a _ => hm a) l
  · rfl

/-- The record found under the key that was written. -/
theorem find?_upsertFirst_self (hm : ∀ a, key a = key x → key (merge a) = key x) :
    (upsertFirst key merge x l).find? (key · = key x) =
      some (((l.find? (key · = key x)).map merge).getD x) := by
  by_cases h : key x ∈ l.map key
  · rw [upsertFirst_of_mem key h, find?_modifyFirst]
    · obtain ⟨a, ha, hk⟩ := List.mem_map.1 h
      obtain ⟨b, hb⟩ := Option.isSome_iff_exists.1
        (List.find?_isSome.2 ⟨a, ha, by simpa using hk⟩ :
          (l.find? (key · = key x)).isSome)
      simp [hb]
    · intro a ha
      simpa using hm a (by simpa using ha)
  · rw [upsertFirst_of_notMem key h]
    have hn : l.find? (key · = key x) = none := by
      rw [List.find?_eq_none]
      intro a ha hk
      exact h (List.mem_map.2 ⟨a, ha, by simpa using hk⟩)
    simp [hn]

/-- The record found under any other key. -/
theorem find?_upsertFirst_ne (hm : ∀ a, key a = key x → key (merge a) = key x) {k : κ}
    (hk : k ≠ key x) :
    (upsertFirst key merge x l).find? (key · = k) = l.find? (key · = k) := by
  by_cases h : key x ∈ l.map key
  · rw [upsertFirst_of_mem key h]
    refine find?_modifyFirst_ne _ _ (fun a ha => ?_) l
    have ha : key a = key x := by simpa using ha
    simp [ha, hm a ha, hk.symm]
  · rw [upsertFirst_of_notMem key h]
    simp [hk.symm]

/-- An upsert changes nothing exactly when the key is there and the merge keeps its record. -/
theorem upsertFirst_eq_self :
    upsertFirst key merge x l = l ↔ ∃ a, l.find? (key · = key x) = some a ∧ merge a = a := by
  by_cases h : key x ∈ l.map key
  · rw [upsertFirst_of_mem key h, modifyFirst_eq_self]
    obtain ⟨b, hb, hk⟩ := List.mem_map.1 h
    obtain ⟨a, ha⟩ := Option.isSome_iff_exists.1
      (List.find?_isSome.2 ⟨b, hb, by simpa using hk⟩ : (l.find? (key · = key x)).isSome)
    simp [ha]
  · rw [upsertFirst_of_notMem key h]
    refine iff_of_false (fun hl => ?_) fun ⟨a, ha, _⟩ => h ?_
    · exact absurd (congrArg List.length hl) (by simp)
    · exact List.mem_map.2 ⟨a, List.mem_of_find?_eq_some ha, by simpa using List.find?_some ha⟩

/-- Putting a record in the place of all with its key gives a list exactly when that list has the
record wherever it has the key, and agrees with the other list at the other places. -/
theorem map_replace_eq_iff {m : List α} :
    m.map (fun a => if key a = key x then x else a) = l ↔
      List.Forall₂ (fun a b => a = b ∨ key a = key x ∧ key b = key x) m l ∧
        ∀ b ∈ l, key b = key x → b = x := by
  induction l generalizing m with
  | nil => simp
  | cons b l ih =>
    cases m with
    | nil => simp
    | cons a m =>
      rw [List.map_cons, List.cons.injEq, ih, List.forall₂_cons, List.forall_mem_cons]
      have hhead : (if key a = key x then x else a) = b ↔
          (a = b ∨ key a = key x ∧ key b = key x) ∧ (key b = key x → b = x) := by
        split_ifs with ha
        · constructor
          · rintro rfl
            exact ⟨.inr ⟨ha, rfl⟩, fun _ => rfl⟩
          · rintro ⟨rfl | ⟨-, hb⟩, hx⟩
            · exact (hx ha).symm
            · exact (hx hb).symm
        · constructor
          · rintro rfl
            exact ⟨.inl rfl, fun hb => absurd hb ha⟩
          · rintro ⟨rfl | ⟨ha', -⟩, -⟩
            · rfl
            · exact absurd ha' ha
      rw [hhead]
      tauto

/-- Putting a record in the place of all with its key is an upsert of it into another list exactly
when the two lists agree at the places of other keys, and every further record with the key in the
other list is the same record already. -/
theorem map_replace_eq_upsertFirst_iff {m : List α} (h : key x ∈ l.map key) :
    m.map (fun a => if key a = key x then x else a) = upsertFirst key (fun _ => x) x l ↔
      List.Forall₂ (fun a b => a = b ∨ key a = key x ∧ key b = key x) m l ∧
        ∀ b ∈ (l.dropWhile (key · ≠ key x)).tail, key b = key x → b = x := by
  rw [upsertFirst_of_mem key h]
  clear h
  induction l generalizing m with
  | nil => simp [modifyFirst]
  | cons b l ih =>
    cases m with
    | nil =>
      unfold modifyFirst
      split_ifs <;> simp
    | cons a m =>
      rw [List.map_cons, List.forall₂_cons]
      by_cases hb : key b = key x
      · have hdrop : (b :: l).dropWhile (key · ≠ key x) = b :: l :=
          List.dropWhile_cons_of_neg (by simpa using hb)
        have hfirst : modifyFirst (key · = key x) (fun _ => x) (b :: l) = x :: l :=
          if_pos (decide_eq_true hb)
        rw [hfirst, hdrop, List.tail_cons, List.cons.injEq, map_replace_eq_iff]
        have hhead : (if key a = key x then x else a) = x ↔
            a = b ∨ key a = key x ∧ key b = key x := by
          split_ifs with ha
          · exact iff_of_true rfl (.inr ⟨ha, hb⟩)
          · refine iff_of_false (fun hax => ha (by rw [hax])) ?_
            rintro (rfl | ⟨ha', -⟩)
            · exact ha hb
            · exact ha ha'
        rw [hhead, and_assoc]
      · have hdrop : (b :: l).dropWhile (key · ≠ key x) = l.dropWhile (key · ≠ key x) :=
          List.dropWhile_cons_of_pos (by simpa using hb)
        have hlater : modifyFirst (key · = key x) (fun _ => x) (b :: l) =
            b :: modifyFirst (key · = key x) (fun _ => x) l :=
          if_neg (by simpa using hb)
        rw [hlater, hdrop, List.cons.injEq, ih]
        have hhead : (if key a = key x then x else a) = b ↔
            a = b ∨ key a = key x ∧ key b = key x := by
          split_ifs with ha
          · refine iff_of_false (fun hxb => hb (by rw [← hxb])) ?_
            rintro (rfl | ⟨-, hb'⟩)
            · exact hb ha
            · exact hb hb'
          · exact ⟨.inl, fun h => h.resolve_right fun hk => hb hk.2⟩
        rw [hhead, and_assoc]

end Upsert

end Vertx.Keyed
