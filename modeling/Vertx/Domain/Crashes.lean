import Vertx.Js.Convert
import Vertx.Domain.Types
import Vertx.Domain.FileRepository
import Vertx.Domain.FailedWrites

/-!
# Crashes

`writeFileSync` truncates the file and then writes its bytes in order, and the file is read back by
`JSON.parse` without a fallback.  A crash can leave any of the contents that the file has in
between, so that every operation that writes at all can leave a file that cannot be opened again.
-/

namespace Vertx

open Repository Runs

/-! ## The text of a state -/

/-- The bytes of `JSON.stringify(state, null, 2)` in the file.  The order of a record's properties
does not change their number. -/
def ProductApiState.size (state : ProductApiState) : ℕ :=
  (JsValue.pretty 0 (.obj state.props)).utf8ByteSize

theorem ProductApiState.size_pos (state : ProductApiState) : 0 < state.size := by
  have hbrackets (lines : List String) :
      0 < (JsValue.bracketed 0 "\x7b" "\x7d" lines).utf8ByteSize := by
    have hopening : "\x7b".utf8ByteSize = 1 := by decide
    unfold JsValue.bracketed
    split_ifs
    · rw [String.utf8ByteSize_append, hopening]
      omega
    · dsimp only
      simp only [String.utf8ByteSize_append, hopening]
      omega
  exact hbrackets _

/-! ## What a crash leaves -/

/-- What the state file holds: nothing, or the first bytes of the text of a state. -/
inductive FileImage
  | absent
  | bytes (state : ProductApiState) (written : ℕ)

/-- What `JSON.parse` throws on a text that ends too early. -/
def syntaxError : JsError := .error "Unexpected end of JSON input"

/-- `readState`.  The text of an object that ends too early is none. -/
def readImage : FileImage → Except JsError ProductApiState
  | .absent => .ok createMockProductApiState
  | .bytes state written => if written < state.size then .error syntaxError else .ok state.wire

theorem readImage_truncated (state : ProductApiState) :
    readImage (.bytes state 0) = .error syntaxError := by
  rw [readImage, if_pos state.size_pos]

theorem readImage_whole (state : ProductApiState) :
    readImage (.bytes state state.size) = .ok state.wire := by
  rw [readImage, if_neg (lt_irrefl state.size)]

/-- The contents that a state file has had, the last one first. -/
structure CrashFile where
  images : List FileImage

/-- `writeState`: the file is truncated and then grows by one byte at a time. -/
instance : Persist CrashFile where
  persist state disk :=
    (.ok (), ⟨((List.range (state.size + 1)).map (.bytes state)).reverse ++ disk.images⟩)

instance : ReliablePersist CrashFile := ⟨fun _ _ => rfl⟩

def StateFile.image (file : StateFile) : FileImage :=
  match file.content with
  | none => .absent
  | some state => .bytes state state.size

namespace Operation

variable (s : Server) (o : Operation)

/-- The store over a file of which every content is kept. -/
def onCrashFile : Store CrashFile := s.withDisk ⟨[s.repository.disk.image]⟩

/-- The contents of the file that a crash during the operation can leave. -/
def crashImages : List FileImage :=
  (o.perform.stateAfter (onCrashFile s)).repository.disk.images

/-- Whenever the operation is cut short, the file can be opened again, with the state before the
operation or the state after it. -/
def CrashConsistent : Prop :=
  ∀ image ∈ o.crashImages s,
    readImage image = .ok s.repository.state.wire ∨
      readImage image = .ok (o.perform.stateAfter s).repository.state.wire

variable {s o}

/-- What the file has held once, it has held later too. -/
theorem mem_images_updates {image : FileImage} {r : Repository CrashFile}
    (h : image ∈ r.disk.images) (fs : List (ProductApiState → ProductApiState)) :
    image ∈ (r.updates fs).disk.images := by
  induction fs generalizing r with
  | nil => exact h
  | cons f fs ih => exact ih (List.mem_append_right _ h)

/-- A crash can come after any number of bytes of the first write. -/
theorem mem_crashImages {f : ProductApiState → ProductApiState}
    {fs : List (ProductApiState → ProductApiState)} (h : o.writes s = f :: fs) {n : ℕ}
    (hn : n < (f s.repository.state).size + 1) :
    .bytes (f s.repository.state) n ∈ o.crashImages s := by
  rw [crashImages, (o.performs _).view_stateAfter, onCrashFile, writes_withDisk, h]
  refine mem_images_updates (List.mem_append_left _ (List.mem_reverse.2 ?_)) fs
  exact List.mem_map_of_mem (List.mem_range.2 hn)

/-- A crash right after the file was truncated leaves a file that cannot be opened. -/
theorem not_crashConsistent (h : o.writes s ≠ []) : ¬ o.CrashConsistent s := by
  intro hconsistent
  obtain ⟨f, fs, hfs⟩ := List.exists_cons_of_ne_nil h
  have htruncated := mem_crashImages hfs (Nat.succ_pos _)
  rcases hconsistent _ htruncated with hread | hread <;>
    exact absurd ((readImage_truncated _).symm.trans hread) (by simp)

theorem crashConsistent_of_nil (hsaved : s.repository.Saved) (h : o.writes s = []) :
    o.CrashConsistent s := by
  intro image himage
  rw [crashImages, (o.performs _).view_stateAfter, onCrashFile, writes_withDisk, h] at himage
  obtain rfl := List.mem_singleton.1 himage
  left
  have himage : s.repository.disk.image = .bytes s.repository.state.wire _ :=
    congrArg StateFile.image hsaved
  rw [himage, readImage_whole, ProductApiState.wire_wire]

/-- The operation finds nothing to act on, cannot read its input, or mirrors an event that names
nothing or carries a time out of range. -/
def Ignored (s : Server) : Operation → Prop
  | call _ op => op.accepted s.repository.state = false
  | mirror clock event =>
    (event.run? = none ∧ event.session? clock = none ∧
      event.workbench? s.repository.state = none) ∨ event.BadTime s.repository.state

theorem mirrorWrites_eq_nil_iff (clock : Clock) (state : ProductApiState)
    (e : ProductApiMirrorEvent) :
    mirrorWrites clock state e = [] ↔
      (e.run? = none ∧ e.session? clock = none ∧ e.workbench? state = none) ∨ e.BadTime state := by
  by_cases hbad : e.BadTime state
  · exact iff_of_true (mirrorWrites_of_badTime hbad) (.inr hbad)
  rw [or_iff_left hbad]
  constructor
  · intro hnil
    unfold mirrorWrites at hnil
    simp only [List.append_eq_nil_iff, List.map_eq_nil_iff, Option.toList_eq_nil_iff] at hnil
    obtain ⟨⟨⟨hrun, hsession⟩, hworkbench⟩, -⟩ := hnil
    refine ⟨?_, ?_, hworkbench⟩
    · cases hinput : e.run? with
      | none => rfl
      | some input =>
        obtain ⟨run, hok⟩ := mirroredRun_of_good hbad hinput
        rw [ProductApiMirrorEvent.runWritten, hinput, Option.bind_some, hok] at hrun
        cases hrun
    · cases hinput : e.session? clock with
      | none => rfl
      | some input =>
        obtain ⟨session, hok⟩ := mirroredSession_of_good hbad hinput
        rw [ProductApiMirrorEvent.sessionWritten, hinput, Option.bind_some, hok] at hsession
        cases hsession
  · rintro ⟨hrun, hsession, hworkbench⟩
    by_contra hwrites
    have hdoes := ProductApiMirrorEvent.does_of_writes hwrites
    generalize mirrorWrites clock state e = fs at hdoes
    cases hdoes with
    | run h | auditedRun h | runAndSession h =>
      rw [hrun] at h
      cases h
    | session _ h =>
      rw [hsession] at h
      cases h
    | approval _ _ h =>
      rw [hworkbench] at h
      cases h

theorem writes_eq_nil_iff (s : Server) (o : Operation) : o.writes s = [] ↔ o.Ignored s := by
  cases o with
  | mirror clock event => exact mirrorWrites_eq_nil_iff clock s.repository.state event
  | call clock op =>
    change op.writes clock s = [] ↔ op.accepted s.repository.state = false
    rw [← isSome_effect clock s op, StoreOp.writes]
    cases op.effect clock s with
    | none => simp
    | some e => simp

/-- An operation is crash consistent exactly when it is ignored, and writes nothing. -/
theorem crash_consistent_iff (steps : List ServerStep) (o : Operation) :
    o.CrashConsistent (run serverStep initialServer steps) ↔
      o.Ignored (run serverStep initialServer steps) := by
  have hs := run_of_step summariesInv_step ⟨coherent_initial, rfl⟩ steps
  rw [← writes_eq_nil_iff]
  exact ⟨fun h => by_contra fun hwrites => not_crashConsistent hwrites h,
    crashConsistent_of_nil hs.coherent.saved⟩

/-- The start of a run. -/
def startRun : Operation := .call (fun _ => 0) (.startWorkflowRun "wf-1")

/-- Cut short, the start of a run can leave a file that cannot be opened, and one with the run but
without its audit entry. -/
theorem start_cut_short :
    ¬ startRun.CrashConsistent initialServer ∧
      (∃ image ∈ startRun.crashImages initialServer, readImage image = .error syntaxError) ∧
      ∃ image ∈ startRun.crashImages initialServer, ∃ state, readImage image = .ok state ∧
        (state.getRunDetail "run-3").isSome ∧ state.auditEvents.length = 2 := by
  obtain ⟨f, fs, hwrites, hf⟩ : ∃ f fs, startRun.writes initialServer = f :: fs ∧
      ((f initialServer.repository.state).wire.getRunDetail "run-3").isSome ∧
      (f initialServer.repository.state).wire.auditEvents.length = 2 :=
    ⟨_, _, rfl, by decide +kernel⟩
  have himages (n : ℕ) (hn : n < (f initialServer.repository.state).size + 1) :
      .bytes (f initialServer.repository.state) n ∈ startRun.crashImages initialServer :=
    mem_crashImages hwrites hn
  refine ⟨not_crashConsistent (by rw [hwrites]; simp), ⟨_, himages 0 (Nat.succ_pos _), ?_⟩,
    ⟨_, himages _ (Nat.lt_succ_self _), _, readImage_whole _, hf⟩⟩
  exact readImage_truncated _

end Operation

end Vertx
