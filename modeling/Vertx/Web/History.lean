import Vertx.Lib.Runs
import Vertx.Web.Page

/-!
# The history of a session page

`loadHistory` sends a `chat.history` request; when its response arrives, the messages of the page
are replaced by those that `toHistoryMessages` makes of the payload.  The decoder reads the field
`items`, upstream puts the transcript into the field `messages`.
-/

namespace Vertx

/-! ## Decoding a response -/

/-- The message that an item of the history stands for, if it has something to show. -/
def historyMessage (item : JsValue) (index : ℕ) : Option ChatMessage :=
  match item with
  | .obj _ =>
    let role := if item.field "role" = .str "user" then .user else .assistant
    let text := ((item.stringAt "text").or ((item.field "message").stringAt "text")).getD ""
    if nonBlank text then
      some { id := (item.stringAt "id").getD ("history:" ++ index.repr), role, text }
    else none
  | _ => none

def toHistoryMessages (payload : JsValue) : List ChatMessage :=
  match payload with
  | .obj fields =>
    match JsValue.lookup "items" fields with
    | .arr items => items.zipIdx.filterMap fun (item, index) => historyMessage item index
    | _ => []
  | _ => []

/-- A block in the content of a transcript message. -/
inductive TranscriptBlock
  | text (text : String)
  | other (fields : List (String × JsValue))

def TranscriptBlock.payload : TranscriptBlock → JsValue
  | .text s => .obj [("type", .str "text"), ("text", .str s)]
  | .other fields => .obj fields

def TranscriptBlock.text? : TranscriptBlock → Option String
  | .text s => some s
  | .other _ => none

/-- What a transcript message carries: a text, or a content array. -/
inductive TranscriptBody
  | text (text : String)
  | content (blocks : List TranscriptBlock)

def TranscriptBody.field : TranscriptBody → String × JsValue
  | .text s => ("text", .str s)
  | .content blocks => ("content", .arr (blocks.map (·.payload)))

/-- The text of a message; that of a content array is its text blocks on lines of their own. -/
def TranscriptBody.shownText : TranscriptBody → String
  | .text s => s
  | .content blocks => "\n".intercalate (blocks.filterMap (·.text?))

/-- A message of a transcript, with whatever other fields it has. -/
structure TranscriptMessage where
  role : String
  body : TranscriptBody
  more : List (String × JsValue)

namespace TranscriptMessage

def payload (m : TranscriptMessage) : JsValue :=
  .obj (("role", .str m.role) :: m.body.field :: m.more)

def chatRole (m : TranscriptMessage) : Option ChatRole :=
  if m.role = "user" then some .user else if m.role = "assistant" then some .assistant else none

/-- The entry of the thread that a user or assistant message with something to show stands for. -/
def entry (m : TranscriptMessage) : Option (ChatRole × String) :=
  (m.chatRole.map (·, m.body.shownText)).filter (nonBlank ·.2)

end TranscriptMessage

/-- What upstream answers to `chat.history`. -/
structure ChatHistory where
  sessionKey : String
  sessionId : Option String
  messages : List TranscriptMessage
  thinkingLevel : JsValue
  fastMode : JsValue
  verboseLevel : JsValue

namespace ChatHistory

/-- The response as it arrives. -/
def payload (h : ChatHistory) : JsValue :=
  (JsValue.obj [
    ("sessionKey", .str h.sessionKey),
    ("sessionId", (h.sessionId.map .str).getD .undefined),
    ("messages", .arr (h.messages.map (·.payload))),
    ("thinkingLevel", h.thinkingLevel),
    ("fastMode", h.fastMode),
    ("verboseLevel", h.verboseLevel)]).wire

/-- The entries that the thread should have. -/
def entries (h : ChatHistory) : List (ChatRole × String) := h.messages.filterMap (·.entry)

/-- After the response is applied the thread has an entry for every message to show, in order. -/
def Restored (h : ChatHistory) (clock : Clock) (state : RealtimeState) : Prop :=
  ∃ state', realtimeReducer clock state (.historyLoaded (toHistoryMessages h.payload)) =
    .ok state' ∧
    h.entries.Sublist (state'.chatMessages.map fun m => (m.role, m.text))

end ChatHistory

namespace JsValue

/-- A property that an object does not have does not appear on the wire. -/
theorem lookup_wireFields_of_notMem {key : String} :
    ∀ {fields : List (String × JsValue)}, key ∉ fields.map (·.1) →
      lookup key (wireFields fields) = undefined
  | [], _ => rfl
  | (k, v) :: rest, h => by
    rw [List.map_cons, List.mem_cons, not_or] at h
    obtain ⟨hk, hrest⟩ := h
    have ih := lookup_wireFields_of_notMem hrest
    rw [wireFields]
    split_ifs with hv
    · exact ih
    · rw [lookup_cons, if_neg (Ne.symm hk)]
      exact ih

end JsValue

/-- Nothing is decoded from a response of upstream. -/
theorem toHistoryMessages_payload (h : ChatHistory) : toHistoryMessages h.payload = [] := by
  unfold ChatHistory.payload
  rw [JsValue.wire]
  dsimp only [toHistoryMessages]
  rw [JsValue.lookup_wireFields_of_notMem (by simp)]

/-- A response of upstream is restored exactly when its transcript has no message to show. -/
theorem ChatHistory.restored_iff (h : ChatHistory) (clock : Clock) (state : RealtimeState) :
    h.Restored clock state ↔ h.entries = [] := by
  unfold Restored
  rw [toHistoryMessages_payload]
  constructor
  · rintro ⟨state', hstate, hsub⟩
    cases hstate
    exact List.sublist_nil.mp hsub
  · intro hnone
    exact ⟨_, rfl, List.sublist_nil.mpr hnone⟩

/-- A transcript with one answer empties the thread. -/
theorem answer_not_restored :
    ¬ ChatHistory.Restored
      ⟨"main", none, [⟨"assistant", .text "Hello", []⟩], .str "off", .undefined, .undefined⟩
      (fun _ => 0) initialRealtimeState := by
  rintro ⟨state', hstate, hsub⟩
  rw [toHistoryMessages_payload] at hstate
  cases hstate
  revert hsub
  decide

end Vertx
