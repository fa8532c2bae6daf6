import Mathlib

/-!
# Runs of a transition system

A system is a total step function; what the environment chooses is the step's input.  A run is a
list of inputs.  `Always` says that a predicate holds in every state of a run, `Each` that every
input meets a condition in the state it arrives in.  The rules say how an invariant that one step
keeps gives `Always`, and how a step condition that is exact for one step is exact for runs.
-/

namespace Vertx.Runs

variable {σ ι : Type*} (step : σ → ι → σ)

/-- The state after a run. -/
def run (s : σ) (is : List ι) : σ := is.foldl step s

/-- `P` holds in the first state and after every step. -/
def Always (P : σ → Prop) : σ → List ι → Prop
  | s, [] => P s
  | s, i :: is => P s ∧ Always P (step s i) is

/-- Every step meets `ok` in the state it is taken in. -/
def Each (ok : σ → ι → Prop) : σ → List ι → Prop
  | _, [] => True
  | s, i :: is => ok s i ∧ Each ok (step s i) is

@[simp] theorem run_nil (s : σ) : run step s [] = s := rfl

@[simp] theorem run_cons (s : σ) (i : ι) (is : List ι) :
    run step s (i :: is) = run step (step s i) is := rfl

theorem run_append (s : σ) (is js : List ι) :
    run step s (is ++ js) = run step (run step s is) js := List.foldl_append

/-- `Always` is a statement about the state after every prefix of the run. -/
theorem always_iff_run (P : σ → Prop) (s : σ) (is : List ι) :
    Always step P s is ↔ ∀ pre post, is = pre ++ post → P (run step s pre) := by
  induction is generalizing s with
  | nil => simp [Always]
  | cons i is ih =>
    rw [Always, ih]
    constructor
    · rintro ⟨h0, h⟩ pre post e
      cases pre with
      | nil => exact h0
      | cons j pre =>
        obtain ⟨rfl, e'⟩ := List.cons.inj e
        exact h pre post e'
    · intro h
      exact ⟨h [] _ rfl, fun pre post e => h (i :: pre) post (by rw [e]; rfl)⟩

variable {step} {P Inv : σ → Prop} {ok : σ → ι → Prop}

theorem Always.head {s : σ} {is : List ι} (h : Always step P s is) : P s := by
  cases is with
  | nil => exact h
  | cons i is => exact h.1

theorem Always.imp {Q : σ → Prop} (h : ∀ s, P s → Q s) :
    ∀ {s : σ} {is : List ι}, Always step P s is → Always step Q s is
  | _, [], hp => h _ hp
  | _, _ :: _, hp => ⟨h _ hp.1, hp.2.imp h⟩

theorem Each.imp {ok' : σ → ι → Prop} (h : ∀ s i, ok s i → ok' s i) :
    ∀ {s : σ} {is : List ι}, Each step ok s is → Each step ok' s is
  | _, [], _ => trivial
  | _, _ :: _, hp => ⟨h _ _ hp.1, hp.2.imp h⟩

/-- A step condition that holds in every state with `P`. -/
theorem Always.each (h : ∀ s i, P s → ok s i) :
    ∀ {s : σ} {is : List ι}, Always step P s is → Each step ok s is
  | _, [], _ => trivial
  | _, _ :: _, hp => ⟨h _ _ hp.1, hp.2.each h⟩

/-- An invariant that every step meeting `ok` keeps holds all along a run of such steps. -/
theorem Always.of_each (keep : ∀ s i, Inv s → ok s i → Inv (step s i)) :
    ∀ {s : σ} {is : List ι}, Inv s → Each step ok s is → Always step Inv s is
  | _, [], hs, _ => hs
  | _, _ :: _, hs, h => ⟨hs, Always.of_each keep (keep _ _ hs h.1) h.2⟩

/-- What steps meeting `ok` do while the invariant holds that they keep. -/
theorem Each.of_each {ok' : σ → ι → Prop} (keep : ∀ s i, Inv s → ok s i → Inv (step s i))
    (h : ∀ s i, Inv s → ok s i → ok' s i) :
    ∀ {s : σ} {is : List ι}, Inv s → Each step ok s is → Each step ok' s is
  | _, [], _, _ => trivial
  | _, _ :: _, hs, hok => ⟨h _ _ hs hok.1, Each.of_each keep h (keep _ _ hs hok.1) hok.2⟩

/-- An invariant that every step keeps holds all along every run. -/
theorem Always.of_step (keep : ∀ s i, Inv s → Inv (step s i)) {s : σ} (hs : Inv s) :
    ∀ is : List ι, Always step Inv s is
  | [] => hs
  | i :: is => ⟨hs, Always.of_step keep (keep s i hs) is⟩

theorem run_of_step (keep : ∀ s i, Inv s → Inv (step s i)) {s : σ} (hs : Inv s) (is : List ι) :
    Inv (run step s is) :=
  (always_iff_run step Inv s is).1 (Always.of_step keep hs is) is [] (by simp)

/-- When steps meeting `ok` keep the invariant and every other step breaks `P` at once, a run keeps
`P` exactly when all its steps meet `ok`. -/
theorem always_iff_each (good : ∀ s, Inv s → P s) (keep : ∀ s i, Inv s → ok s i → Inv (step s i))
    (break_ : ∀ s i, Inv s → ¬ ok s i → ¬ P (step s i)) {s : σ} (hs : Inv s) (is : List ι) :
    Always step P s is ↔ Each step ok s is := by
  constructor
  · intro h
    induction is generalizing s with
    | nil => trivial
    | cons i is ih =>
      have hok : ok s i := by
        by_contra hn
        exact break_ s i hs hn h.2.head
      exact ⟨hok, ih (keep s i hs hok) h.2⟩
  · exact fun h => (Always.of_each keep hs h).imp good

/-- Two step conditions that agree while the invariant holds, and keep it, agree on runs. -/
theorem each_iff_each {ok' : σ → ι → Prop} (hiff : ∀ s i, Inv s → (ok s i ↔ ok' s i))
    (keep : ∀ s i, Inv s → ok' s i → Inv (step s i)) {s : σ} (hs : Inv s) (is : List ι) :
    Each step ok s is ↔ Each step ok' s is := by
  induction is generalizing s with
  | nil => rfl
  | cons i is ih =>
    simp only [Each, hiff s i hs]
    exact and_congr_right fun hok => ih (keep s i hs hok)

/-- `Each` is a statement about every place of the run. -/
theorem each_iff_split (s : σ) (is : List ι) :
    Each step ok s is ↔ ∀ early i late, is = early ++ i :: late → ok (run step s early) i := by
  induction is generalizing s with
  | nil => simp [Each]
  | cons i is ih =>
    rw [Each, ih]
    constructor
    · rintro ⟨h0, h⟩ early j late e
      cases early with
      | nil =>
        obtain ⟨rfl, -⟩ := List.cons.inj e
        exact h0
      | cons j' early =>
        obtain ⟨rfl, e'⟩ := List.cons.inj e
        exact h early j late e'
    · intro h
      exact ⟨h [] i is rfl, fun early j late e => h (i :: early) j late (by rw [e]; rfl)⟩

/-- What only steps with `Q` bring about holds after a run that had such a step. -/
theorem run_iff_exists {Q : σ → ι → Prop} (h : ∀ s i, P (step s i) ↔ P s ∨ Q s i) (s : σ)
    (is : List ι) :
    P (run step s is) ↔
      P s ∨ ∃ early i late, is = early ++ i :: late ∧ Q (run step s early) i := by
  induction is generalizing s with
  | nil => simp
  | cons i is ih =>
    rw [run_cons, ih, h, or_assoc]
    refine or_congr_right ⟨?_, ?_⟩
    · rintro (hq | ⟨early, j, late, rfl, hq⟩)
      · exact ⟨[], i, is, rfl, hq⟩
      · exact ⟨i :: early, j, late, rfl, hq⟩
    · rintro ⟨early, j, late, e, hq⟩
      cases early with
      | nil =>
        obtain ⟨rfl, -⟩ := List.cons.inj e
        exact .inl hq
      | cons i' early =>
        obtain ⟨rfl, rfl⟩ := List.cons.inj e
        exact .inr ⟨early, j, late, rfl, hq⟩

/-- What only steps with `Q` can bring about did not come without such a step. -/
theorem exists_of_run {Q : σ → ι → Prop} (h : ∀ s i, P (step s i) → P s ∨ Q s i) {s : σ}
    {is : List ι} (hs : ¬ P s) (hrun : P (run step s is)) :
    ∃ early i late, is = early ++ i :: late ∧ Q (run step s early) i := by
  induction is generalizing s with
  | nil => exact absurd hrun hs
  | cons i is ih =>
    by_cases hP : P (step s i)
    · exact ⟨[], i, is, rfl, (h s i hP).resolve_left hs⟩
    · obtain ⟨early, j, late, rfl, hQ⟩ := ih hP hrun
      exact ⟨i :: early, j, late, rfl, hQ⟩

/-- Some input of a list begins something that no later one ends. -/
def LiveSince (begins ends : ι → Prop) (is : List ι) : Prop :=
  ∃ early i late, is = early ++ i :: late ∧ begins i ∧ ∀ j ∈ late, ¬ ends j

theorem liveSince_congr {begins ends begins' ends' : ι → Prop} (hb : ∀ i, begins i ↔ begins' i)
    (he : ∀ i, ends i ↔ ends' i) (is : List ι) :
    LiveSince begins ends is ↔ LiveSince begins' ends' is := by
  rw [show begins = begins' from funext fun i => propext (hb i),
    show ends = ends' from funext fun i => propext (he i)]

theorem liveSince_and {begins ends : ι → Prop} (c : Prop) (is : List ι) :
    LiveSince (fun i => c ∧ begins i) ends is ↔ c ∧ LiveSince begins ends is := by
  constructor
  · rintro ⟨early, i, late, e, ⟨hc, hi⟩, hlate⟩
    exact ⟨hc, early, i, late, e, hi, hlate⟩
  · rintro ⟨hc, early, i, late, e, hi, hlate⟩
    exact ⟨early, i, late, e, ⟨hc, hi⟩, hlate⟩

/-- What a step that neither begins nor ends it leaves as it was. -/
theorem kept_iff {p p' begins ends : Prop} (h : p' ↔ p) (hbegins : ¬ begins) (hends : ¬ ends) :
    p' ↔ begins ∨ (p ∧ ¬ ends) := by
  rw [h]
  exact ⟨fun hp => .inr ⟨hp, hends⟩, fun h' => (h'.resolve_left hbegins).1⟩

/-- What some steps begin and others end, as long as an invariant holds that they all keep, holds
after a run when the last such step began it. -/
theorem run_iff_since {begins ends : σ → ι → Prop} (keep : ∀ s i, Inv s → Inv (step s i))
    (h : ∀ s i, Inv s → (P (step s i) ↔ begins s i ∨ (P s ∧ ¬ ends s i))) {s : σ} (hs : Inv s)
    (is : List ι) :
    P (run step s is) ↔ (P s ∧ Each step (fun s i => ¬ ends s i) s is) ∨
      ∃ early i late, is = early ++ i :: late ∧ begins (run step s early) i ∧
        Each step (fun s i => ¬ ends s i) (run step s (early ++ [i])) late := by
  induction is generalizing s with
  | nil => simp [Each]
  | cons i is ih =>
    rw [run_cons, ih (keep s i hs), h s i hs, Each]
    constructor
    · rintro (⟨hi | ⟨hs, hi⟩, hlate⟩ | ⟨early, j, late, rfl, hj, hlate⟩)
      · exact .inr ⟨[], i, is, rfl, hi, hlate⟩
      · exact .inl ⟨hs, hi, hlate⟩
      · exact .inr ⟨i :: early, j, late, rfl, hj, hlate⟩
    · rintro (⟨hs, hi, hlate⟩ | ⟨early, j, late, e, hj, hlate⟩)
      · exact .inl ⟨.inr ⟨hs, hi⟩, hlate⟩
      · cases early with
        | nil =>
          obtain ⟨rfl, rfl⟩ := List.cons.inj e
          exact .inl ⟨.inl hj, hlate⟩
        | cons i' early =>
          obtain ⟨rfl, rfl⟩ := List.cons.inj e
          exact .inr ⟨early, j, late, rfl, hj, hlate⟩

theorem each_iff_forall_mem {p : ι → Prop} (s : σ) (is : List ι) :
    Each step (fun _ i => p i) s is ↔ ∀ i ∈ is, p i := by
  induction is generalizing s with
  | nil => simp [Each]
  | cons i is ih => rw [Each, ih, List.forall_mem_cons]

/-- What some inputs begin and others end holds after a run when its last such input began it. -/
theorem run_iff_last {begins ends : ι → Prop}
    (h : ∀ s i, P (step s i) ↔ begins i ∨ (P s ∧ ¬ ends i))
    (s : σ) (is : List ι) :
    P (run step s is) ↔ (P s ∧ ∀ i ∈ is, ¬ ends i) ∨ LiveSince begins ends is := by
  have hkeep : ∀ (s : σ) (i : ι), True → True := fun _ _ h => h
  rw [run_iff_since hkeep (fun s i _ => h s i) trivial]
  simp only [each_iff_forall_mem, LiveSince]

/-- What a run adds to a log that every step extends, one of its steps has added. -/
theorem mem_drop_log {α : Type*} {log : σ → List α} {out : σ → ι → List α}
    (h : ∀ s i, log (step s i) = log s ++ out s i) (s : σ) (is : List ι) (a : α) :
    a ∈ (log (run step s is)).drop (log s).length ↔
      ∃ early i late, is = early ++ i :: late ∧ a ∈ out (run step s early) i := by
  have hadded : ∃ added, log (run step s is) = log s ++ added ∧
      (a ∈ added ↔ ∃ early i late, is = early ++ i :: late ∧ a ∈ out (run step s early) i) := by
    induction is generalizing s with
    | nil => exact ⟨[], (List.append_nil _).symm, by simp⟩
    | cons i is ih =>
      obtain ⟨added, hlog, hmem⟩ := ih (step s i)
      refine ⟨out s i ++ added, ?_, ?_⟩
      · rw [run_cons, hlog, h, List.append_assoc]
      · rw [List.mem_append, hmem]
        constructor
        · rintro (hi | ⟨early, j, late, rfl, hj⟩)
          · exact ⟨[], i, is, rfl, hi⟩
          · exact ⟨i :: early, j, late, rfl, hj⟩
        · rintro ⟨early, j, late, e, hj⟩
          cases early with
          | nil =>
            obtain ⟨rfl, -⟩ := List.cons.inj e
            exact .inl hj
          | cons i' early =>
            obtain ⟨rfl, rfl⟩ := List.cons.inj e
            exact .inr ⟨early, j, late, rfl, hj⟩
  obtain ⟨added, hlog, hmem⟩ := hadded
  rw [hlog, List.drop_left, hmem]

theorem each_and {ok' : σ → ι → Prop} (s : σ) (is : List ι) :
    Each step (fun s i => ok s i ∧ ok' s i) s is ↔ Each step ok s is ∧ Each step ok' s is := by
  induction is generalizing s with
  | nil => simp [Each]
  | cons i is ih =>
    simp only [Each, ih]
    tauto

/-- Two step conditions that agree everywhere agree on runs. -/
theorem each_congr {ok' : σ → ι → Prop} (h : ∀ s i, ok s i ↔ ok' s i) (s : σ) (is : List ι) :
    Each step ok s is ↔ Each step ok' s is :=
  ⟨Each.imp fun s i => (h s i).1, Each.imp fun s i => (h s i).2⟩

end Vertx.Runs
