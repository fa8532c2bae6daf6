import Vertx.Lib.Runs
import Vertx.Web.Client

/-!
# Reports of gaps

The client compares the number of an event frame with one more than the number before it, not with
all the numbers that it has received.  So a frame that follows a repeated or an older number can be
reported although every number that it skips has arrived: `gaps_truthful_iff` says that this happens
exactly when the frame comes back into the block of consecutive numbers that the expected one
begins, or right after it, without being the expected one.  From `2 ^ 53` on the sum can be rounded
up, and a frame with the expected number goes unreported although it is two beyond the largest one.
-/

namespace Vertx

open Runs

/-- An integer that a variable can hold. -/
abbrev JsInteger := {n : ℤ // (JsNumber.finite n).IsDouble}

def JsInteger.ofNat (n : ℕ) (h : n ≤ 2 ^ 53) : JsInteger :=
  ⟨n, JsNumber.isDouble_intCast (by rw [Nat.abs_cast]; exact_mod_cast h)⟩

/-- A frame, numbered by an integer if it is an event. -/
inductive NumberedFrame
  | hello (frame : HelloFrame)
  | event (name : GatewayEventName) (seq : JsInteger) (payload stateVersion : JsValue)
  | res (id : String)
  | error (message : JsValue)

namespace NumberedFrame

/-- The frame as the client handles it. -/
def frame : NumberedFrame → GatewayFrame
  | hello frame => .hello frame
  | event name seq payload stateVersion =>
    .event ⟨name, .num (.finite seq.1), payload, stateVersion⟩
  | res id => .res id
  | error message => .error message

/-- The number of an event. -/
def seq? : NumberedFrame → Option JsInteger
  | event _ seq _ _ => some seq
  | _ => none

end NumberedFrame

/-- A client's connection: what it remembers, and the numbers received since the hello, newest
first. -/
structure GapDetector where
  lastSeq : JsValue
  received : List JsInteger

namespace GapDetector

/-- The connection when the hello has arrived. -/
def greeted : GapDetector := ⟨.null, []⟩

def receive (s : GapDetector) (f : NumberedFrame) : GapDetector where
  lastSeq := nextLastSeq s.lastSeq f.frame
  received :=
    match f with
    | .hello _ => []
    | .event _ seq _ _ => seq :: s.received
    | .res _ | .error _ => s.received

/-- The numbers received. -/
def numbers (s : GapDetector) : List ℤ := s.received.map (·.1)

/-- A report on the frame names at least one number that has not been received. -/
def Sound (s : GapDetector) (f : NumberedFrame) : Prop :=
  ∀ info, gapReport s.lastSeq f.frame = some info →
    ∃ n : ℤ, (JsNumber.finite n).lt info.expected = false ∧
      (JsNumber.finite n).lt (seqNumber info.received) = true ∧ n ∉ s.numbers

/-- A frame beyond the number after the largest one is reported. -/
def Complete (s : GapDetector) (f : NumberedFrame) : Prop :=
  ∀ seq ∈ f.seq?, ∀ largest ∈ s.numbers, (∀ m ∈ s.numbers, m ≤ largest) → largest + 1 < seq.1 →
    (gapReport s.lastSeq f.frame).isSome

/-- The end of the block of consecutive numbers of `received` that starts after `last`, at most
`fuel` numbers on. -/
def blockEnd (received : List ℤ) (last : ℤ) : ℕ → ℤ
  | 0 => last
  | fuel + 1 => if last + 1 ∈ received then blockEnd received (last + 1) fuel else last

/-- The frame has no number; or the number that the client expects at most, and at most one more
than some number received; or one beyond the number after the block that the expected one begins. -/
def LeavesBlock (s : GapDetector) (f : NumberedFrame) : Prop :=
  ∀ seq ∈ f.seq?, ∀ last ∈ s.received.head?, ∀ expected : ℤ,
    (JsNumber.finite last.1).add (.ofNat 1) = .finite expected →
      (seq.1 ≤ expected ∧ ∃ m ∈ s.numbers, seq.1 ≤ m + 1) ∨
        blockEnd s.numbers (expected - 1) s.numbers.length + 1 < seq.1

/-! ## Blocks of numbers -/

theorem le_blockEnd (received : List ℤ) (last : ℤ) (fuel : ℕ) :
    last ≤ blockEnd received last fuel := by
  induction fuel generalizing last with
  | zero => exact le_rfl
  | succ fuel ih =>
    unfold blockEnd
    split_ifs
    · exact (le_add_of_nonneg_right zero_le_one).trans (ih _)
    · exact le_rfl

/-- The numbers of the block have been received. -/
theorem mem_of_le_blockEnd {received : List ℤ} {last n : ℤ} {fuel : ℕ} (hlt : last < n)
    (hle : n ≤ blockEnd received last fuel) : n ∈ received := by
  induction fuel generalizing last with
  | zero => exact absurd (hlt.trans_le hle) (lt_irrefl _)
  | succ fuel ih =>
    unfold blockEnd at hle
    split_ifs at hle with hnext
    · rcases (Int.add_one_le_iff.2 hlt).eq_or_lt with heq | hgt
      · exact heq ▸ hnext
      · exact ih hgt hle
    · exact absurd (hlt.trans_le hle) (lt_irrefl _)

/-- The block ends before a number that has not been received, or where the fuel does. -/
theorem blockEnd_cases (received : List ℤ) (last : ℤ) (fuel : ℕ) :
    blockEnd received last fuel + 1 ∉ received ∨ blockEnd received last fuel = last + fuel := by
  induction fuel generalizing last with
  | zero => exact .inr (by simp [blockEnd])
  | succ fuel ih =>
    unfold blockEnd
    split_ifs with hnext
    · refine (ih (last + 1)).imp_right fun h => ?_
      rw [h]
      push_cast
      omega
    · exact .inl hnext

/-- With as much fuel as there are numbers, the next one has not been received. -/
theorem blockEnd_notMem (received : List ℤ) (last : ℤ) :
    blockEnd received last received.length + 1 ∉ received := by
  rcases blockEnd_cases received last received.length with h | h
  · exact h
  · intro hmem
    -- The numbers up to the end of the block and the next one are more than there are.
    have hsub : Finset.Ioc last (last + received.length + 1) ⊆ received.toFinset := by
      intro n hn
      rw [Finset.mem_Ioc] at hn
      rw [List.mem_toFinset]
      by_cases hle : n ≤ blockEnd received last received.length
      · exact mem_of_le_blockEnd hn.1 hle
      · have heq : n = blockEnd received last received.length + 1 := by omega
        exact heq ▸ hmem
    have hcard := (Finset.card_le_card hsub).trans received.toFinset_card_le
    rw [Int.card_Ioc] at hcard
    omega

/-! ## What is reported -/

/-- The client remembers the number received last. -/
def Tracks (s : GapDetector) : Prop :=
  s.lastSeq = (s.received.head?.map fun n => JsValue.num (.finite n.1)).getD .null

theorem tracks_receive {s : GapDetector} (h : s.Tracks) (f : NumberedFrame) :
    (s.receive f).Tracks := by
  cases f with
  | hello | event => rfl
  | res | error => exact h

theorem lt_intCast (m n : ℤ) : (JsNumber.finite m).lt (.finite n) = decide (m < n) := by
  rw [JsNumber.lt, decide_eq_decide, Int.cast_lt]

/-- Nothing is reported on the first event after a hello. -/
theorem gapReport_of_nil {s : GapDetector} (h : s.Tracks) (hnil : s.received.head? = none)
    (f : NumberedFrame) : gapReport s.lastSeq f.frame = none := by
  rw [h, hnil]
  cases f with
  | hello | res | error => rfl
  | event => simp [gapReport, NumberedFrame.frame]

/-- What is reported on an event after one whose number has the successor `expected`. -/
theorem gapReport_event {s : GapDetector} (h : s.Tracks) {last : JsInteger}
    (hlast : s.received.head? = some last) {expected : ℤ}
    (hexpected : (JsNumber.finite last.1).add (.ofNat 1) = .finite expected)
    (name : GatewayEventName) (seq : JsInteger) (payload stateVersion : JsValue) :
    gapReport s.lastSeq (NumberedFrame.event name seq payload stateVersion).frame =
      if expected < seq.1 then some ⟨.finite expected, .num (.finite seq.1)⟩ else none := by
  rw [h, hlast]
  simp only [gapReport, NumberedFrame.frame, Option.map_some, Option.getD_some, seqNumber,
    hexpected, lt_intCast, decide_eq_true_eq, ne_eq, reduceCtorEq, not_false_eq_true, true_and]

/-- Without a report the frame is complete exactly if it is at most one beyond a number received. -/
theorem complete_iff_of_none {s : GapDetector} {f : NumberedFrame} {seq : JsInteger}
    (hseq : f.seq? = some seq) (hreceived : s.numbers ≠ [])
    (hnone : gapReport s.lastSeq f.frame = none) :
    s.Complete f ↔ ∃ m ∈ s.numbers, seq.1 ≤ m + 1 := by
  unfold Complete
  simp only [hseq, hnone, Option.mem_def, Option.some.injEq, forall_eq', Option.isSome_none,
    Bool.false_eq_true, imp_false, not_lt]
  constructor
  · intro h
    obtain ⟨largest, hlargest, hmax⟩ :=
      s.numbers.toFinset.exists_max_image id (List.toFinset_nonempty_iff _ |>.2 hreceived)
    rw [List.mem_toFinset] at hlargest
    exact ⟨largest, hlargest, h largest hlargest fun m hm => hmax m (List.mem_toFinset.2 hm)⟩
  · rintro ⟨m, hm, hle⟩ largest - hmax
    exact hle.trans ((add_le_add_iff_right 1).2 (hmax m hm))

/-- A report is sound exactly if the frame leaves the block that the expected number begins. -/
theorem sound_iff_of_some {s : GapDetector} {f : NumberedFrame} {expected seq : ℤ}
    (hreport : gapReport s.lastSeq f.frame = some ⟨.finite expected, .num (.finite seq)⟩) :
    s.Sound f ↔ blockEnd s.numbers (expected - 1) s.numbers.length + 1 < seq := by
  unfold Sound
  simp only [hreport, Option.some.injEq, forall_eq', seqNumber, lt_intCast,
    decide_eq_false_iff_not, not_lt, decide_eq_true_eq]
  constructor
  · rintro ⟨n, hle, hn, hmissing⟩
    have hend : blockEnd s.numbers (expected - 1) s.numbers.length < n := by
      by_contra hmem
      exact hmissing (mem_of_le_blockEnd (by omega) (not_lt.1 hmem))
    omega
  · intro hn
    have hle := le_blockEnd s.numbers (expected - 1) s.numbers.length
    exact ⟨_, by omega, hn, blockEnd_notMem s.numbers (expected - 1)⟩

/-- On the first event after a hello there is nothing to report. -/
theorem truthful_of_nil {s : GapDetector} (h : s.Tracks) (hnil : s.received = [])
    (f : NumberedFrame) : s.Sound f ∧ s.Complete f := by
  have hnone := gapReport_of_nil h (by rw [hnil]; rfl) f
  constructor
  · intro info hinfo
    rw [hnone] at hinfo
    cases hinfo
  · intro seq _ largest hlargest
    rw [numbers, hnil] at hlargest
    cases hlargest

/-- The reports on an event are sound and complete exactly if it leaves the block. -/
theorem truthful_event_iff {s : GapDetector} (h : s.Tracks) {last : JsInteger}
    (hlast : s.received.head? = some last) (name : GatewayEventName) (seq : JsInteger)
    (payload stateVersion : JsValue) :
    s.Sound (.event name seq payload stateVersion) ∧
        s.Complete (.event name seq payload stateVersion) ↔
      s.LeavesBlock (.event name seq payload stateVersion) := by
  have hreceived : s.numbers ≠ [] := by
    rw [numbers, ne_eq, List.map_eq_nil_iff, ← List.head?_eq_none_iff, hlast]
    exact Option.some_ne_none last
  obtain ⟨expected, hexpected⟩ := JsNumber.exists_add_ofNat_one last.2
  have hreport := gapReport_event h hlast hexpected name seq payload stateVersion
  have hunique (e : ℤ) : (JsNumber.finite last.1).add (.ofNat 1) = .finite e ↔ expected = e := by
    rw [hexpected, JsNumber.finite.injEq, Int.cast_inj]
  unfold LeavesBlock
  simp only [NumberedFrame.seq?, hlast, Option.mem_def, Option.some.injEq, forall_eq', hunique]
  by_cases hlt : expected < seq.1
  · rw [if_pos hlt] at hreport
    rw [sound_iff_of_some hreport, or_iff_right fun hle => hlt.not_ge hle.1, and_iff_left]
    intro _ _ _ _ _ _
    rw [hreport]
    rfl
  · rw [if_neg hlt] at hreport
    have hle := le_blockEnd s.numbers (expected - 1) s.numbers.length
    rw [complete_iff_of_none rfl hreceived hreport, or_iff_left (by omega),
      and_iff_right (not_lt.1 hlt), and_iff_right]
    intro info hinfo
    rw [hreport] at hinfo
    cases hinfo

theorem truthful_iff {s : GapDetector} (h : s.Tracks) (f : NumberedFrame) :
    s.Sound f ∧ s.Complete f ↔ s.LeavesBlock f := by
  cases f with
  | hello | res | error =>
    refine iff_of_true ⟨fun info hinfo => ?_, fun seq hseq => ?_⟩ fun seq hseq => ?_
    · cases hinfo
    · cases hseq
    · cases hseq
  | event name seq payload stateVersion =>
    cases hreceived : s.received with
    | nil =>
      refine iff_of_true (truthful_of_nil h hreceived _) fun _ _ last hlast => ?_
      rw [hreceived] at hlast
      cases hlast
    | cons last rest => exact truthful_event_iff h (by rw [hreceived]; rfl) _ _ _ _

/-- Every report names a number that is missing, and every frame beyond the largest number and the
next one is reported, exactly if every frame leaves the block of the last number. -/
theorem gaps_truthful_iff (frames : List NumberedFrame) :
    Each receive (fun s f => s.Sound f ∧ s.Complete f) greeted frames ↔
      Each receive LeavesBlock greeted frames := by
  have hgreeted : greeted.Tracks := rfl
  have hkeep (s : GapDetector) (f : NumberedFrame) (h : s.Tracks) (_ : s.LeavesBlock f) :
      (s.receive f).Tracks := tracks_receive h f
  exact each_iff_each (fun _ f h => truthful_iff h f) hkeep hgreeted frames

/-- Numbers 1 and 2, then 1 and 3 of an upstream connection made anew: number 2 is reported. -/
theorem gap_reported_received :
    ¬ Each receive (fun s f => s.Sound f ∧ s.Complete f) greeted
      [.event .chat (.ofNat 1 (by decide)) .null .null,
        .event .chat (.ofNat 2 (by decide)) .null .null,
        .event .chat (.ofNat 1 (by decide)) .null .null,
        .event .chat (.ofNat 3 (by decide)) .null .null] := by
  intro h
  obtain ⟨n, hle, hlt, hmissing⟩ :=
    h.2.2.2.1.1 ⟨.finite 2, .num (.finite 3)⟩ (by decide +kernel)
  simp only [JsNumber.lt, decide_eq_false_iff_not, not_lt] at hle
  simp only [JsNumber.lt, seqNumber, decide_eq_true_eq] at hlt
  have hn : n = 2 := by
    have hle' : 2 ≤ n := by exact_mod_cast hle
    have hlt' : n < 3 := by exact_mod_cast hlt
    omega
  subst hn
  exact hmissing (by decide +kernel)

end GapDetector

end Vertx
