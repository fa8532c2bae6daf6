import Mathlib

/-!
# Histories of keyed entries

A history is a list of entries with keys, the newest last.  `latest` reads the newest value of a key
and `firstKeys` the keys in the order in which they appear first.  Where an entry with a value opens
its key and one without closes it, `track` keeps the open keys: `tracks_foldl` says that these are
all of them, each with the value that opened it, in the order in which they were opened.
-/

namespace Vertx.History

variable {κ β : Type*} [DecidableEq κ]

/-! ## Newest values and first appearances -/

/-- The value of the newest entry with a key. -/
def latest (log : List (κ × β)) (key : κ) : Option β := (log.reverse.find? (·.1 = key)).map (·.2)

/-- The keys in the order of their first entries. -/
def firstKeys (log : List (κ × β)) : List κ := (log.map (·.1)).eraseDups

@[simp] theorem latest_nil (key : κ) : latest ([] : List (κ × β)) key = none := rfl

theorem latest_concat (log : List (κ × β)) (entry : κ × β) (key : κ) :
    latest (log ++ [entry]) key = if entry.1 = key then some entry.2 else latest log key := by
  unfold latest
  rw [List.reverse_append, List.reverse_singleton, List.singleton_append]
  by_cases h : entry.1 = key
  · rw [List.find?_cons_of_pos (by simpa using h), if_pos h, Option.map_some]
  · rw [List.find?_cons_of_neg (by simpa using h), if_neg h]

theorem mem_of_latest {log : List (κ × β)} {key : κ} {value : β} (h : latest log key = some value) :
    (key, value) ∈ log := by
  obtain ⟨⟨k, v⟩, hfind, rfl⟩ := Option.map_eq_some_iff.1 h
  have hk : k = key := by simpa using List.find?_some hfind
  rw [← hk]
  exact List.mem_reverse.1 (List.mem_of_find?_eq_some hfind)

theorem mem_firstKeys {log : List (κ × β)} {key : κ} :
    key ∈ firstKeys log ↔ key ∈ log.map (·.1) := List.mem_eraseDups

/-- A new key comes last. -/
theorem firstKeys_concat (log : List (κ × β)) (entry : κ × β) :
    firstKeys (log ++ [entry]) =
      if entry.1 ∈ firstKeys log then firstKeys log else firstKeys log ++ [entry.1] := by
  have happend : firstKeys (log ++ [entry]) =
      firstKeys log ++ ([entry.1].removeAll (log.map (·.1))).eraseDups := by
    unfold firstKeys
    rw [List.map_append, List.eraseDups_append, List.map_singleton]
  rw [happend]
  split_ifs with h <;> rw [mem_firstKeys] at h
  · simp [List.removeAll, h]
  · simp [List.removeAll, List.eraseDups_cons, h]

theorem nodup_firstKeys (log : List (κ × β)) : (firstKeys log).Nodup := by
  induction log using List.reverseRecOn with
  | nil => exact List.nodup_nil
  | append_singleton log entry ih =>
    rw [firstKeys_concat]
    split_ifs with h
    · exact ih
    · rw [← List.concat_eq_append]
      exact ih.concat h

/-! ## Open keys -/

/-- The newest entry with the key opens it. -/
def IsOpen (log : List (κ × Option β)) (key : κ) : Prop :=
  ∃ value, latest log key = some (some value)

/-- Entry `n` opened the current period of a key, and had the value. -/
structure OpenedAt (log : List (κ × Option β)) (n : ℕ) (opened : κ × β) : Prop where
  entry : log[n]? = some (opened.1, some opened.2)
  closed : ¬ IsOpen (log.take n) opened.1
  since : (opened.1, none) ∉ log.drop (n + 1)

/-- A list of keys with values holds exactly the open keys, once each, with the values that opened
them and in the order in which they were opened. -/
structure Tracks (log : List (κ × Option β)) (keys : List (κ × β)) : Prop where
  nodup : (keys.map (·.1)).Nodup
  mem_iff : ∀ key, key ∈ keys.map (·.1) ↔ IsOpen log key
  opened : ∀ key ∈ keys, ∃ n, OpenedAt log n key
  order : keys.Pairwise fun a b => ∃ m n, m < n ∧ OpenedAt log m a ∧ OpenedAt log n b

/-- Keeps the open keys: one that is opened again stays as it is. -/
def track (keys : List (κ × β)) : κ × Option β → List (κ × β)
  | (key, some value) => if key ∈ keys.map (·.1) then keys else keys ++ [(key, value)]
  | (key, none) => keys.filter (·.1 ≠ key)

variable {log : List (κ × Option β)} {keys : List (κ × β)}

/-- An entry with a value opens its key. -/
theorem isOpen_concat_some {key k : κ} (value : β) :
    IsOpen (log ++ [(key, some value)]) k ↔ key = k ∨ IsOpen log k := by
  unfold IsOpen
  rw [latest_concat]
  by_cases h : key = k
  · simp [h]
  · simp [h]

/-- An entry without a value closes its key. -/
theorem isOpen_concat_none {key k : κ} :
    IsOpen (log ++ [(key, none)]) k ↔ key ≠ k ∧ IsOpen log k := by
  unfold IsOpen
  rw [latest_concat]
  by_cases h : key = k
  · simp [h]
  · simp [h]

/-- An entry that does not close the key leaves its period as it was. -/
theorem OpenedAt.concat {n : ℕ} {opened : κ × β} (h : OpenedAt log n opened) {entry : κ × Option β}
    (hentry : entry ≠ (opened.1, none)) : OpenedAt (log ++ [entry]) n opened := by
  obtain ⟨hn, -⟩ := List.getElem?_eq_some_iff.1 h.entry
  refine ⟨?_, ?_, ?_⟩
  · rw [List.getElem?_append_left hn]
    exact h.entry
  · rw [List.take_append_of_le_length hn.le]
    exact h.closed
  · rw [List.drop_append_of_le_length hn, List.mem_append, List.mem_singleton]
    rintro (hmem | rfl)
    · exact h.since hmem
    · exact hentry rfl

/-- An entry with a value opens a key that is not open. -/
theorem openedAt_concat {key : κ} (h : ¬ IsOpen log key) (value : β) :
    OpenedAt (log ++ [(key, some value)]) log.length (key, value) := by
  refine ⟨?_, ?_, ?_⟩
  · simp
  · rw [List.take_left]
    exact h
  · simp

theorem tracks_nil : Tracks ([] : List (κ × Option β)) [] where
  nodup := List.nodup_nil
  mem_iff _ := by simp [IsOpen]
  opened := nofun
  order := .nil

/-- What is closed leaves the list. -/
theorem Tracks.close (h : Tracks log keys) (key : κ) :
    Tracks (log ++ [(key, none)]) (keys.filter (·.1 ≠ key)) := by
  have hkeep {a : κ × β} {n : ℕ} (ha : a ∈ keys.filter (·.1 ≠ key)) (hn : OpenedAt log n a) :
      OpenedAt (log ++ [(key, none)]) n a := by
    have hne : a.1 ≠ key := by simpa using (List.mem_filter.1 ha).2
    exact hn.concat fun heq => hne (Prod.ext_iff.1 heq).1.symm
  refine ⟨?_, fun k => ?_, fun a ha => ?_, ?_⟩
  · exact h.nodup.sublist (List.filter_sublist.map _)
  · rw [isOpen_concat_none, ← h.mem_iff, List.mem_map, List.mem_map]
    constructor
    · rintro ⟨a, ha, rfl⟩
      obtain ⟨hmem, hne⟩ := List.mem_filter.1 ha
      exact ⟨Ne.symm (by simpa using hne), a, hmem, rfl⟩
    · rintro ⟨hne, a, ha, rfl⟩
      exact ⟨a, List.mem_filter.2 ⟨ha, by simpa using hne.symm⟩, rfl⟩
  · obtain ⟨n, hn⟩ := h.opened a (List.mem_of_mem_filter ha)
    exact ⟨n, hkeep ha hn⟩
  · refine (h.order.filter _).imp_of_mem fun ha hb hab => ?_
    obtain ⟨m, n, hlt, hm, hn⟩ := hab
    exact ⟨m, n, hlt, hkeep ha hm, hkeep hb hn⟩

/-- What is open already stays where it is. -/
theorem Tracks.reopen (h : Tracks log keys) {key : κ} (hmem : key ∈ keys.map (·.1)) (value : β) :
    Tracks (log ++ [(key, some value)]) keys := by
  have hkeep {a : κ × β} {n : ℕ} (hn : OpenedAt log n a) :
      OpenedAt (log ++ [(key, some value)]) n a := hn.concat (by simp)
  refine ⟨h.nodup, fun k => ?_, fun a ha => ?_, ?_⟩
  · rw [isOpen_concat_some, ← h.mem_iff]
    constructor
    · exact .inr
    · rintro (rfl | hk)
      · exact hmem
      · exact hk
  · obtain ⟨n, hn⟩ := h.opened a ha
    exact ⟨n, hkeep hn⟩
  · refine h.order.imp fun hab => ?_
    obtain ⟨m, n, hlt, hm, hn⟩ := hab
    exact ⟨m, n, hlt, hkeep hm, hkeep hn⟩

/-- What is opened comes last. -/
theorem Tracks.add (h : Tracks log keys) {key : κ} (hmem : key ∉ keys.map (·.1)) (value : β) :
    Tracks (log ++ [(key, some value)]) (keys ++ [(key, value)]) := by
  have hkeep {a : κ × β} {n : ℕ} (hn : OpenedAt log n a) :
      OpenedAt (log ++ [(key, some value)]) n a := hn.concat (by simp)
  have hnew := openedAt_concat (mt (h.mem_iff key).2 hmem) value
  refine ⟨?_, fun k => ?_, fun a ha => ?_, ?_⟩
  · rw [List.map_append, List.map_singleton, ← List.concat_eq_append]
    exact h.nodup.concat hmem
  · rw [isOpen_concat_some, ← h.mem_iff, List.map_append, List.mem_append, List.map_singleton,
      List.mem_singleton, or_comm, @eq_comm _ k]
  · rcases List.mem_append.1 ha with ha | ha
    · obtain ⟨n, hn⟩ := h.opened a ha
      exact ⟨n, hkeep hn⟩
    · rw [List.mem_singleton.1 ha]
      exact ⟨_, hnew⟩
  · refine List.pairwise_append.2 ⟨?_, List.pairwise_singleton _ _, fun a ha b hb => ?_⟩
    · refine h.order.imp fun hab => ?_
      obtain ⟨m, n, hlt, hm, hn⟩ := hab
      exact ⟨m, n, hlt, hkeep hm, hkeep hn⟩
    · rw [List.mem_singleton.1 hb]
      obtain ⟨n, hn⟩ := h.opened a ha
      obtain ⟨hlt, -⟩ := List.getElem?_eq_some_iff.1 hn.entry
      exact ⟨n, log.length, hlt, hkeep hn, hnew⟩

/-- The list that a history leaves tracks it. -/
theorem tracks_foldl (log : List (κ × Option β)) : Tracks log (log.foldl track []) := by
  induction log using List.reverseRecOn with
  | nil => exact tracks_nil
  | append_singleton log entry ih =>
    rw [List.foldl_append, List.foldl_cons, List.foldl_nil]
    obtain ⟨key, _ | value⟩ := entry
    · exact ih.close key
    · rw [track]
      split_ifs with hmem
      · exact ih.reopen hmem value
      · exact ih.add hmem value

end Vertx.History
