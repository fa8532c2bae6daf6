import Vertx.Js.Value
import Vertx.Lib.Overlap
import Vertx.Lib.Runs

/-!
# The text of a streamed reply

Upstream removes directive tags from a reply's text, hides replies that are internal control tokens
and merges the texts and deltas of a run's assistant events into one text.  A delta makes the
shortest text that can follow (`appendUniqueSuffix_shortest`); `mergedText_run` says when the merged
text only grows, when it is the last snapshot, and when it is the concatenation of the deltas.
-/

namespace Vertx

/-- `s.length`, in code units. -/
def jsLength (s : String) : ℕ := (s.toList.map fun c => if c.toNat < 0x10000 then 1 else 2).sum

/-! ## Control replies -/

def silentReplyToken : String := "NO_REPLY"

def suppressedControlReplyTokens : List String := [silentReplyToken, "ANNOUNCE_SKIP", "REPLY_SKIP"]

def minBarePrefixLength (token : String) : ℕ := if token = silentReplyToken then 2 else 3

/-- Whether two texts are equal up to the case of their ASCII letters. -/
def equalIgnoreCase (s t : List Char) : Bool := s.map Char.toUpper == t.map Char.toUpper

/-- The exact silent token with optional white space around it. -/
def isSilentReplyText (text token : String) : Bool :=
  text ≠ "" && equalIgnoreCase (jsTrim text).toList token.toList

def isSuppressedControlReplyText (text : String) : Bool :=
  suppressedControlReplyTokens.any (isSilentReplyText (jsTrim text))

/-- The upper case of a character, when it consists of the letters `A` to `Z` and `_`. -/
def controlUpperCase (c : Char) : Option (List Char) :=
  if c.isUpper || c = '_' then some [c]
  else if c.isLower then some [c.toUpper]
  else
    match c with
    | 'ß' => some ['S', 'S']
    | 'ı' => some ['I']
    | 'ſ' => some ['S']
    | 'ﬀ' => some ['F', 'F']
    | 'ﬁ' => some ['F', 'I']
    | 'ﬂ' => some ['F', 'L']
    | 'ﬃ' => some ['F', 'F', 'I']
    | 'ﬄ' => some ['F', 'F', 'L']
    | 'ﬅ' | 'ﬆ' => some ['S', 'T']
    | _ => none

def normalizeSuppressedControlReplyFragment (text : String) : String :=
  match (jsTrim text).toList.mapM controlUpperCase with
  | some parts => String.ofList parts.flatten
  | none => ""

def isSuppressedControlReplyLeadFragment (text : String) : Bool :=
  let trimmed := jsTrim text
  let normalized := normalizeSuppressedControlReplyFragment text
  if normalized = "" then false
  else
    suppressedControlReplyTokens.any fun token =>
      if normalized = token then false
      else if !normalized.toList.isPrefixOf token.toList then false
      else if '_' ∈ normalized.toList then true
      else if token ≠ silentReplyToken ∧ trimmed ≠ normalized then false
      else minBarePrefixLength token ≤ jsLength normalized

/-- What follows a token at the beginning of a text, whatever its case. -/
def afterToken? (token : String) (cs : List Char) : Option (List Char) :=
  if equalIgnoreCase (cs.take token.toList.length) token.toList then
    some (cs.drop token.toList.length)
  else none

/-- The part of `startsWithSilentToken` after leading white space, at most `fuel` tokens on. -/
def startsWithTokens (wordStart : Char → Bool) (token : String) : ℕ → List Char → Bool
  | 0, _ => false
  | fuel + 1, cs =>
    match afterToken? token cs with
    | none => false
    | some rest =>
      match rest with
      | [] => false
      | c :: _ =>
        wordStart c ||
          (isJsSpace c && startsWithTokens wordStart token fuel (rest.dropWhile isJsSpace))

/-- One or more silent tokens of which the last is glued to a letter or digit.  `wordStart` is the
class `[\p{L}\p{N}]`. -/
def startsWithSilentToken (wordStart : Char → Bool) (text : String) : Bool :=
  startsWithTokens wordStart silentReplyToken text.toList.length (text.toList.dropWhile isJsSpace)

/-- Takes tokens, each after optional white space, off the beginning of a text. -/
def dropTokens (token : String) : ℕ → List Char → List Char
  | 0, cs => cs
  | fuel + 1, cs =>
    match afterToken? token (cs.dropWhile isJsSpace) with
    | none => cs
    | some rest => dropTokens token fuel rest

def stripLeadingSilentToken (text : String) : String :=
  jsTrim (String.ofList (dropTokens silentReplyToken text.toList.length text.toList))

/-! ## Directive tags -/

/-- Takes out every match of a pattern, where `matchLength` is the length of the match at the
beginning of a text, or `0`, and `skip` characters of a match are still to be passed. -/
def removeMatches (matchLength : List Char → ℕ) : ℕ → List Char → List Char
  | _, [] => []
  | skip + 1, _ :: rest => removeMatches matchLength skip rest
  | 0, c :: rest =>
    match matchLength (c :: rest) with
    | 0 => c :: removeMatches matchLength 0 rest
    | n + 1 => removeMatches matchLength n rest

/-- What follows `[[`, white space and a keyword. -/
def afterTagKeyword? (keyword : String) (cs : List Char) : Option (List Char) :=
  match cs with
  | '[' :: '[' :: rest => afterToken? keyword (rest.dropWhile isJsSpace)
  | _ => none

/-- The length of a text up to `rest`, when `rest` goes on with white space and `]]`. -/
def closedTagLength (cs rest : List Char) : ℕ :=
  match rest.dropWhile isJsSpace with
  | ']' :: ']' :: after => cs.length - after.length
  | _ => 0

def audioTagLength (cs : List Char) : ℕ :=
  match afterTagKeyword? "audio_as_voice" cs with
  | some rest => closedTagLength cs rest
  | none => 0

/-- The target of a reply tag: white space apart it is one line, and it is not only line feeds. -/
def isReplyTarget (body : List Char) : Bool :=
  if (jsTrim (String.ofList body)).isEmpty then body.any (· ≠ '\n')
  else ! '\n' ∈ (jsTrim (String.ofList body)).toList

def replyTagLength (cs : List Char) : ℕ :=
  match (afterTagKeyword? "reply_to_current" cs).map (closedTagLength cs) with
  | some (n + 1) => n + 1
  | _ =>
    match (afterTagKeyword? "reply_to" cs).map (·.dropWhile isJsSpace) with
    | some (':' :: rest) =>
      if isReplyTarget (rest.takeWhile (· ≠ ']')) then
        closedTagLength cs (rest.dropWhile (· ≠ ']'))
      else 0
    | _ => 0

def stripInlineDirectiveTagsForDisplay (text : String) : String :=
  String.ofList (removeMatches replyTagLength 0 (removeMatches audioTagLength 0 text.toList))

/-! ## Merging -/

/-- `appendUniqueSuffix(base, suffix)`. -/
def appendUniqueSuffix (base new : String) : String :=
  String.ofList (Overlap.appendOverlap base.toList new.toList)

def resolveMergedAssistantText (previousText nextText nextDelta : String) : String :=
  if nextText ≠ "" ∧ previousText ≠ "" ∧
    previousText.toList.isPrefixOf nextText.toList then nextText
  else if nextText ≠ "" ∧ previousText ≠ "" ∧ nextText.toList.isPrefixOf previousText.toList ∧
      nextDelta = "" then previousText
  else if nextDelta ≠ "" then appendUniqueSuffix previousText nextDelta
  else if nextText ≠ "" then nextText
  else previousText

/-- One event's text and delta merged into the text before. -/
def mergeStep (text : String) (e : String × String) : String :=
  resolveMergedAssistantText text e.1 e.2

/-- The later text goes on from the earlier one. -/
def Extends (earlier later : String) : Prop := earlier.toList <+: later.toList

/-- The event does not replace the text before: it brings a delta, or a text of which one of the
two goes on from the other. -/
def Continues (text : String) (e : String × String) : Prop :=
  e.2 ≠ "" ∨ Extends text e.1 ∨ Extends e.1 text

/-- No beginning of the delta ends the text before. -/
def Fresh (text : String) (e : String × String) : Prop :=
  ∀ k, 0 < k → k ≤ e.2.toList.length → ¬ e.2.toList.take k <:+ text.toList

theorem Extends.refl (s : String) : Extends s s := List.prefix_refl _

theorem extends_empty (s : String) : Extends "" s := List.nil_prefix

theorem extends_appendUniqueSuffix (base new : String) :
    Extends base (appendUniqueSuffix base new) := by
  unfold Extends appendUniqueSuffix
  rw [String.toList_ofList]
  exact Overlap.prefix_appendOverlap

/-- A delta makes the shortest text that begins with the text before and ends with the delta. -/
theorem appendUniqueSuffix_shortest (base new : String) :
    Extends base (appendUniqueSuffix base new) ∧
      new.toList <:+ (appendUniqueSuffix base new).toList ∧
      ∀ text : String, Extends base text → new.toList <:+ text.toList →
        (appendUniqueSuffix base new).toList.length ≤ text.toList.length := by
  refine ⟨extends_appendUniqueSuffix base new, ?_, fun text hbase hnew => ?_⟩
  · rw [appendUniqueSuffix, String.toList_ofList]
    exact Overlap.suffix_appendOverlap
  · rw [appendUniqueSuffix, String.toList_ofList]
    exact Overlap.length_appendOverlap_le hbase hnew

/-- The merged text goes on from the text before exactly when the event does not replace it. -/
theorem extends_mergeStep_iff (text : String) (e : String × String) :
    Extends text (mergeStep text e) ↔ Continues text e := by
  unfold mergeStep resolveMergedAssistantText Continues
  simp only [List.isPrefixOf_iff_prefix]
  split_ifs with h1 h2 h3 h4
  · exact iff_of_true h1.2.2 (.inr (.inl h1.2.2))
  · exact iff_of_true (Extends.refl text) (.inr (.inr h2.2.2.1))
  · exact iff_of_true (extends_appendUniqueSuffix _ _) (.inl h3)
  · -- The event's text is all there is to show.
    simp only [h3, false_or]
    refine ⟨.inl, fun h => h.elim id fun h => ?_⟩
    by_cases htext : text = ""
    · rw [htext]
      exact extends_empty _
    · exact absurd ⟨h4, htext, h, not_not.1 h3⟩ h2
  · rw [not_not] at h4
    refine iff_of_true (Extends.refl text) (.inr (.inr ?_))
    rw [h4]
    exact extends_empty text

/-- A snapshot that goes on from the text before replaces it, unless it is the first text of all
and comes with another delta. -/
theorem mergeStep_snapshot {text : String} {e : String × String} (he : e.1 ≠ "")
    (h : Extends text e.1) (hfirst : text = "" → e.2 = "" ∨ e.2 = e.1) :
    mergeStep text e = e.1 := by
  unfold mergeStep resolveMergedAssistantText
  by_cases htext : text = ""
  · subst htext
    rcases hfirst rfl with h2 | h2
    · simp [he, h2]
    · simp [he, h2, appendUniqueSuffix, Overlap.appendOverlap_nil_left]
  · rw [if_pos ⟨he, htext, List.isPrefixOf_iff_prefix.2 h⟩]

theorem toList_mergeStep_delta {text : String} {e : String × String} (he : e.1 = "") :
    (mergeStep text e).toList = Overlap.appendOverlap text.toList e.2.toList := by
  unfold mergeStep resolveMergedAssistantText
  by_cases h2 : e.2 = ""
  · simp [he, h2]
  · simp [he, h2, appendUniqueSuffix]

section Runs

open Runs

/-- Snapshots that go on from a text and from each other leave the last one. -/
theorem run_snapshots {text : String} {events : List (String × String)} (htext : text ≠ "")
    (hne : ∀ e ∈ events, e.1 ≠ "") (hchain : (text :: events.map (·.1)).IsChain Extends) :
    run mergeStep text events = (events.map (·.1)).getLastD text := by
  induction events generalizing text with
  | nil => rfl
  | cons e events ih =>
    rw [List.map_cons, List.isChain_cons_cons] at hchain
    have he := hne e List.mem_cons_self
    rw [run_cons, mergeStep_snapshot he hchain.1 (fun h => absurd h htext),
      ih he (fun e' he' => hne e' (List.mem_cons_of_mem _ he')) hchain.2, List.map_cons,
      List.getLastD_cons]

theorem length_run_deltas_le {text : String} {events : List (String × String)}
    (h : ∀ e ∈ events, e.1 = "") : (run mergeStep text events).toList.length ≤
      text.toList.length + (events.flatMap (·.2.toList)).length := by
  induction events generalizing text with
  | nil => simp
  | cons e events ih =>
    have hle : (run mergeStep (mergeStep text e) events).toList.length ≤ _ :=
      ih fun e' he' => h e' (List.mem_cons_of_mem _ he')
    have hstep : (mergeStep text e).toList.length ≤ text.toList.length + e.2.toList.length := by
      rw [toList_mergeStep_delta (h e List.mem_cons_self), Overlap.appendOverlap,
        List.length_append, List.length_drop]
      omega
    rw [run_cons, List.flatMap_cons, List.length_append]
    omega

theorem run_deltas_iff {text : String} {events : List (String × String)}
    (h : ∀ e ∈ events, e.1 = "") :
    (run mergeStep text events).toList = text.toList ++ events.flatMap (·.2.toList) ↔
      Each mergeStep Fresh text events := by
  induction events generalizing text with
  | nil => simp [Each]
  | cons e events ih =>
    have hrest : ∀ e' ∈ events, e'.1 = "" := fun e' he' => h e' (List.mem_cons_of_mem _ he')
    have hstep : (mergeStep text e).toList = Overlap.appendOverlap text.toList e.2.toList :=
      toList_mergeStep_delta (h e List.mem_cons_self)
    rw [run_cons, Each]
    by_cases hfresh : Fresh text e
    · have happend : (mergeStep text e).toList = text.toList ++ e.2.toList := by
        rw [hstep]
        exact Overlap.appendOverlap_eq_append_iff.2 hfresh
      have hiff : (run mergeStep (mergeStep text e) events).toList = _ ↔ _ := ih hrest
      rw [happend, List.append_assoc] at hiff
      rw [List.flatMap_cons, hiff]
      simp [hfresh]
    · -- The text has become too short for good.
      simp only [hfresh, false_and, iff_false]
      intro heq
      have hle : (run mergeStep (mergeStep text e) events).toList.length ≤ _ :=
        length_run_deltas_le hrest
      rw [heq, List.flatMap_cons, List.length_append, List.length_append] at hle
      refine hfresh (Overlap.appendOverlap_eq_append_iff.1 ?_)
      have hsame : (Overlap.appendOverlap text.toList e.2.toList).length ≥
          (text.toList ++ e.2.toList).length := by
        rw [← hstep, List.length_append]
        omega
      rw [Overlap.appendOverlap, List.length_append, List.length_append, List.length_drop] at hsame
      have hzero : Overlap.overlap text.toList e.2.toList = 0 := by
        have hle' : Overlap.overlap text.toList e.2.toList ≤ e.2.toList.length :=
          Overlap.overlap_le_right
        omega
      rw [Overlap.appendOverlap, hzero, List.drop_zero]

/-- The merged text of a run whose events came as `events`: each text goes on from the one before
exactly when no event replaces it; snapshots that go on from each other leave the last one, when the
delta of the first is empty or its text; and deltas alone leave their concatenation exactly when no
delta begins with an end of the text before it. -/
theorem mergedText_run (events : List (String × String)) :
    ((∀ early e late, events = early ++ e :: late →
        Extends (run mergeStep "" early) (mergeStep (run mergeStep "" early) e)) ↔
      Each mergeStep Continues "" events) ∧
    ((∀ e ∈ events, e.1 ≠ "") → (events.map (·.1)).IsChain Extends →
      (∀ e ∈ events.head?, e.2 = "" ∨ e.2 = e.1) →
      run mergeStep "" events = (events.map (·.1)).getLastD "") ∧
    ((∀ e ∈ events, e.1 = "") →
      ((run mergeStep "" events).toList = events.flatMap (·.2.toList) ↔
        Each mergeStep Fresh "" events)) := by
  refine ⟨?_, fun hne hchain hfirst => ?_, fun h => ?_⟩
  · rw [each_iff_split]
    simp only [extends_mergeStep_iff]
  · cases events with
    | nil => rfl
    | cons e events =>
      have he := hne e List.mem_cons_self
      rw [run_cons, mergeStep_snapshot he (extends_empty _) (fun _ => hfirst e rfl),
        run_snapshots he (fun e' he' => hne e' (List.mem_cons_of_mem _ he')) hchain, List.map_cons,
        List.getLastD_cons]
  · exact run_deltas_iff h

end Runs

/-- A repeated syllable that comes as two deltas is lost. -/
example : Runs.run mergeStep "" [("", "ha"), ("", "ha")] = "ha" := by decide

end Vertx
