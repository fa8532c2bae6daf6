import Vertx.Domain.Ids
import Vertx.Domain.RunStatus

/-!
# Run ids

Runs that the store starts are named `run-<counter>`, mirrored runs by upstream.  Writing a mirrored
run looks its id up, starting a run does not, so the two kinds stay apart only while upstream uses
neither an id that the store has given out nor one that its counter has yet to reach.
-/

namespace Vertx

open Repository Runs Numbered Keyed

/-- A server and the ids of the runs that its store has started. -/
structure RunLedger where
  server : Server
  created : List String

def initialLedger : RunLedger := ⟨initialServer, []⟩

def ledgerStep (l : RunLedger) (step : ServerStep) : RunLedger where
  server := serverStep l.server step
  created :=
    match step with
    | .call _ op =>
      if op.accepted l.server.repository.state ∧ op.kind = some .run then
        IdKind.run.label l.server.runCounter :: l.created
      else l.created
    | _ => l.created

theorem run_ledger (l : RunLedger) (steps : List ServerStep) :
    (run ledgerStep l steps).server = run serverStep l.server steps := by
  induction steps generalizing l with
  | nil => rfl
  | cons step steps ih => exact ih _

/-- The runs have distinct ids. -/
def RunIdsUnique (l : RunLedger) : Prop := (l.server.repository.state.runDetails.map (·.id)).Nodup

/-- A mirrored event leaves the runs that the store has started as they are. -/
def KeepsCreated (l : RunLedger) : ServerStep → Prop
  | .mirror clock e => ∀ runId ∈ l.created,
    (serverStep l.server (.mirror clock e)).repository.state.getRunDetail runId =
      l.server.repository.state.getRunDetail runId
  | _ => True

/-- A mirrored event is written to a run that the store has started. -/
def LandsOnCreated (l : RunLedger) : ServerStep → Prop
  | .mirror clock e =>
    ∃ run ∈ e.runWritten clock l.server.repository.state, run.id ∈ l.created
  | _ => False

/-- A mirrored event names no run that the store has started and no number that its counter has yet
to reach. -/
def NamesApart (l : RunLedger) : ServerStep → Prop
  | .mirror clock e => ∀ runId ∈ e.runId? clock l.server.repository.state,
    runId ∉ l.created ∧ ∀ n, runId = IdKind.run.label n → n < l.server.runCounter
  | _ => True

/-- What holds while upstream names its runs apart. -/
structure RunInv (l : RunLedger) : Prop where
  coherent : Coherent l.server
  fresh : Fresh IdKind.run.label (IdKind.run.view l.server)
  le : l.server.runCounter ≤ (IdKind.run.view l.server).ids.length + 1

theorem runInv_initial : RunInv initialLedger where
  coherent := coherent_initial
  fresh := fresh_initial .run
  le := by decide

theorem runInv_step {l : RunLedger} {step : ServerStep} (h : RunInv l) (hok : NamesApart l step) :
    RunInv (ledgerStep l step) := by
  have hcoherent := coherent_step step h.coherent
  suffices hview : Fresh IdKind.run.label (IdKind.run.view (serverStep l.server step)) ∧
      (IdKind.run.view (serverStep l.server step)).counter ≤
        (IdKind.run.view (serverStep l.server step)).ids.length + 1 from
    ⟨hcoherent, hview.1, hview.2⟩
  rw [view_step h.coherent]
  cases step with
  | call clock op =>
    simp only [idAction, ne_eq, not_true_eq_false, false_and, if_false]
    split_ifs
    · exact ⟨h.fresh.accept IdKind.run.label_injective, Nat.succ_le_succ h.le⟩
    · exact ⟨h.fresh, h.le⟩
    · exact ⟨h.fresh, h.le⟩
  | mirror clock e =>
    simp only [idAction]
    cases hrun : e.runWritten clock l.server.repository.state with
    | none => exact ⟨h.fresh, h.le⟩
    | some run =>
      have hid : e.runId? clock l.server.repository.state = some run.id := by
        rw [← runWritten_id, hrun, Option.map_some]
      dsimp only
      split_ifs with hmem
      · exact ⟨h.fresh, h.le⟩
      · exact ⟨h.fresh.insert hmem (hok run.id hid).2, h.le.trans (Nat.le_succ _)⟩
  | restart =>
    exact ⟨h.fresh.restart (h.fresh.below.mono h.le), le_rfl⟩

theorem keepsCreated_of_namesApart {l : RunLedger} {step : ServerStep} (hok : NamesApart l step) :
    KeepsCreated l step := by
  cases step with
  | mirror clock e =>
    intro runId hmem
    rw [mirror_state, getRunDetail_mirror]
    cases hrun : e.runWritten clock l.server.repository.state with
    | none => rfl
    | some run =>
      have hid : e.runId? clock l.server.repository.state = some run.id := by
        rw [← runWritten_id, hrun, Option.map_some]
      have hne : runId ≠ run.id := fun heq => (hok run.id hid).1 (heq ▸ hmem)
      exact if_neg hne
  | call clock op => trivial
  | restart => trivial

/-- An event that names a run of the store lands on it; one that names a number to come lets later
starts repeat that number. -/
theorem repeats_of_not_namesApart (clock : Clock) {l : RunLedger} {step : ServerStep}
    (hs : Startable l.server) (hok : ¬ NamesApart l step) :
    LandsOnCreated l step ∨ ∃ n, ¬ RunIdsUnique
      (run ledgerStep l (step :: List.replicate n (.call clock (.startWorkflowRun "wf-1")))) := by
  cases step with
  | mirror clock' e =>
    simp only [NamesApart, not_forall] at hok
    obtain ⟨runId, hid, hok⟩ := hok
    have hid' := hid
    rw [← runWritten_id] at hid
    obtain ⟨written, hrun, rfl⟩ := Option.map_eq_some_iff.1 hid
    by_cases hmem : written.id ∈ l.created
    · exact .inl ⟨written, hrun, hmem⟩
    · right
      simp only [hmem, not_false_eq_true, true_and, not_forall, Nat.not_lt] at hok
      obtain ⟨n, hn, hcounter⟩ := hok
      refine ⟨n - l.server.runCounter + 1, fun hu => ?_⟩
      change (IdKind.run.view _).ids.Nodup at hu
      rw [run_ledger, run_cons, show StoreOp.startWorkflowRun "wf-1" = IdKind.run.post from rfl,
        view_posts clock .run _ (startable_step _ hs), view_step hs.toCoherent] at hu
      simp only [idAction, hrun] at hu
      split_ifs at hu with hin
      · exact not_nodup_accepts (a := IdKind.run.view l.server) (hn ▸ hin) hcounter hu
      · exact not_nodup_accepts
          (a := (IdKind.run.view l.server).step IdKind.run.label (.insert written.id))
          (hn ▸ List.mem_cons_self) hcounter hu
  | call clock op => exact absurd trivial hok
  | restart => exact absurd trivial hok

/-- While upstream names its runs apart, run ids stay distinct and mirrored events leave the runs of
the store alone; the first event that does not lands on a run of the store or can be followed by
starts that repeat an id. -/
theorem run_ids_unique (clock : Clock) (steps : List ServerStep) (step : ServerStep) :
    (Each ledgerStep NamesApart initialLedger steps →
      Always ledgerStep RunIdsUnique initialLedger steps ∧
        Each ledgerStep KeepsCreated initialLedger steps) ∧
    (¬ NamesApart (run ledgerStep initialLedger steps) step →
      LandsOnCreated (run ledgerStep initialLedger steps) step ∨
      ∃ n, ¬ RunIdsUnique (run ledgerStep initialLedger
        (steps ++ step :: List.replicate n (.call clock (.startWorkflowRun "wf-1"))))) := by
  refine ⟨fun h => ⟨?_, h.imp fun _ _ => keepsCreated_of_namesApart⟩, fun hok => ?_⟩
  · exact (Always.of_each (fun _ _ => runInv_step) runInv_initial h).imp fun _ hl => hl.fresh.nodup
  · simp only [run_append]
    refine repeats_of_not_namesApart clock ?_ hok
    rw [run_ledger]
    exact run_of_step (fun _ => startable_step) startable_initial steps

/-- A `run.status` event about a run. -/
def runningEvent (runId : String) : ProductApiMirrorEvent :=
  ⟨.runStatus, .obj [("runId", .str runId), ("status", .str "running")]⟩

/-- An upstream run named `main` is kept apart, one named `run-3` is not. -/
theorem run_ids_unique_main :
    (Always ledgerStep RunIdsUnique initialLedger
        [.mirror (fun _ => 0) (runningEvent "main"),
          .call (fun _ => 0) (.startWorkflowRun "wf-1")] ∧
      Each ledgerStep KeepsCreated initialLedger
        [.mirror (fun _ => 0) (runningEvent "main"),
          .call (fun _ => 0) (.startWorkflowRun "wf-1")]) ∧
    (LandsOnCreated initialLedger (.mirror (fun _ => 0) (runningEvent "run-3")) ∨
      ∃ n, ¬ RunIdsUnique (run ledgerStep initialLedger
        ([] ++ .mirror (fun _ => 0) (runningEvent "run-3") ::
          List.replicate n (.call (fun _ => 0) (.startWorkflowRun "wf-1"))))) := by
  refine ⟨(run_ids_unique (fun _ => 0) _ .restart).1 ⟨fun runId hid => ?_, trivial, trivial⟩,
    (run_ids_unique (fun _ => 0) [] _).2 fun h => ?_⟩
  · have hmain : "main" = runId := by
      have : (runningEvent "main").runId? (fun _ => 0) initialServer.repository.state =
        some "main" := by decide
      exact Option.some.inj (this.symm.trans hid)
    subst hmain
    refine ⟨by decide, fun n hn => ?_⟩
    have := congrArg (fun s => s.toList.head?) hn
    simp [IdKind.label] at this
  · have hn := (h "run-3" (by decide)).2 3 (by decide)
    exact absurd hn (by decide)

/-- A mirrored run named `run-3` before the first started run: two runs `run-3`. -/
theorem run_ids_collide :
    ¬ Always ledgerStep RunIdsUnique initialLedger
      [.mirror (fun _ => 0) (runningEvent "run-3"),
        .call (fun _ => 0) (.startWorkflowRun "wf-1")] := by
  intro h
  have hend : RunIdsUnique _ := h.2.2
  revert hend
  unfold RunIdsUnique
  decide

end Vertx
