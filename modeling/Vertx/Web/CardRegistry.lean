import Vertx.Lib.History
import Vertx.Web.ToolCards

/-!
# The registry of tool cards

The reducer holds the cards three times: in a table by id, as the ids in their order, and as the
cards in that order.  One branch updates the three by hand and all others leave them alone.  Since
the last reset they are therefore the history of the tool frames: the ids in the order in which they
came first, each with its newest payload.
-/

namespace Vertx

open History Runs

/-! ## The history of tool frames -/

def RealtimeAction.isReset : RealtimeAction → Bool
  | .sessionReset => true
  | _ => false

/-- The call that a tool frame names, with the payload of the frame. -/
def RealtimeAction.toolCall? : RealtimeAction → Option (String × JsValue)
  | .event frame =>
    if frame.event = .toolStatus then
      (frame.payload.stringAt "toolCallId").map fun id => (id, frame.payload)
    else none
  | _ => none

/-- The calls that tool frames have named since the last reset. -/
def toolCalls (actions : List RealtimeAction) : List (String × JsValue) :=
  (actions.rtakeWhile fun action => !action.isReset).filterMap (·.toolCall?)

/-- A tool frame names its call by a text, which is not the name of the prototype. -/
def RealtimeAction.NamesCall : RealtimeAction → Prop
  | .event frame => frame.event = .toolStatus →
    ∃ id, frame.payload.stringAt "toolCallId" = some id ∧ id ≠ "__proto__"
  | _ => True

/-- The entry of the table under an id. -/
def RealtimeState.cardAt (s : RealtimeState) : JsValue → JsValue
  | .str id => JsValue.lookup id s.toolStreamById
  | _ => .undefined

/-- The registry shows the calls of a history. -/
structure Registered (calls : List (String × JsValue)) (s : RealtimeState) : Prop where
  nodup : s.toolStreamOrder.Nodup
  order : s.toolStreamOrder = (firstKeys calls).map .str
  keys_nodup : (s.toolStreamById.map (·.1)).Nodup
  keys : ∀ id, id ∈ s.toolStreamById.map (·.1) ↔ .str id ∈ s.toolStreamOrder
  entries : ∀ id ∈ s.toolStreamById.map (·.1),
    latest calls id = some (JsValue.lookup id s.toolStreamById)
  messages : s.chatToolMessages = s.toolStreamOrder.map s.cardAt

/-- An action that is not a reset removes no card, and leaves the order of those that are there. -/
def KeepsCards (s : RealtimeState) (i : Clock × RealtimeAction) : Prop :=
  i.2.isReset = false →
    s.toolStreamOrder <+: (reduceStep s i).toolStreamOrder ∧
      ∀ id ∈ s.toolStreamById.map (·.1), id ∈ (reduceStep s i).toolStreamById.map (·.1)

theorem toolCalls_reset {action : RealtimeAction} (h : action.isReset)
    (actions : List RealtimeAction) :
    toolCalls (actions ++ [action]) = [] := by
  rw [toolCalls, List.rtakeWhile_concat_neg _ _ _ (by simp [h])]
  rfl

theorem toolCalls_concat {action : RealtimeAction} (h : action.isReset = false)
    (actions : List RealtimeAction) :
    toolCalls (actions ++ [action]) = toolCalls actions ++ action.toolCall?.toList := by
  rw [toolCalls, List.rtakeWhile_concat_pos _ _ _ (by simp [h]), List.filterMap_append, toolCalls,
    List.filterMap_cons]
  cases action.toolCall? <;> rfl

/-- A named call has a card to show, under a key of the table. -/
theorem named_toolCalls {actions : List RealtimeAction} (h : ∀ action ∈ actions, action.NamesCall)
    {call : String × JsValue} (hcall : call ∈ toolCalls actions) :
    call.1 ≠ "__proto__" ∧ call.2.truthy := by
  obtain ⟨action, hmem, hsome⟩ := List.mem_filterMap.1 hcall
  have hnames := h action ((List.rtakeWhile_suffix _ _).subset hmem)
  cases action with
  | event frame =>
    rw [RealtimeAction.toolCall?] at hsome
    split_ifs at hsome with hevent
    obtain ⟨id, hid, hne⟩ := hnames hevent
    rw [hid] at hsome
    cases hsome
    refine ⟨hne, ?_⟩
    cases hpayload : frame.payload with
    | obj fields => rfl
    | _ =>
      rw [hpayload] at hid
      cases hid
  | _ => cases hsome

/-- A table that holds the newest value of every key of a history. -/
structure HoldsLatest (log : List (String × JsValue)) (fields : List (String × JsValue)) :
    Prop where
  nodup : (fields.map (·.1)).Nodup
  keys : ∀ key, key ∈ fields.map (·.1) ↔ key ∈ firstKeys log
  entries : ∀ key ∈ fields.map (·.1), latest log key = some (JsValue.lookup key fields)

theorem HoldsLatest.setField {log fields : List (String × JsValue)} (h : HoldsLatest log fields)
    (key : String) (v : JsValue) :
    HoldsLatest (log ++ [(key, v)]) (JsValue.setField key v fields) where
  nodup := JsValue.nodup_setField h.nodup key v
  keys k := by
    rw [JsValue.mem_keys_setField, h.keys, mem_firstKeys, mem_firstKeys, List.map_append,
      List.mem_append, List.map_singleton, List.mem_singleton]
  entries k hk := by
    rw [latest_concat, JsValue.lookup_setField]
    split_ifs with heq
    · rfl
    · exact h.entries k ((JsValue.mem_keys_setField.1 hk).resolve_right (Ne.symm heq))

/-! ## What a tool frame does -/

theorem syncToolMessages_str (proto : JsValue) (cards : List (String × JsValue)) {ids : List String}
    (hproto : "__proto__" ∉ ids) (h : ∀ id ∈ ids, (JsValue.lookup id cards).truthy) :
    syncToolMessages proto cards (ids.map .str) =
      .ok (ids.map fun id => JsValue.lookup id cards) := by
  have hentries : ((ids.map JsValue.str).mapM fun id => do
      return getCard proto cards (← id.toStr) : Except JsError (List JsValue)) =
        .ok (ids.map fun id => JsValue.lookup id cards) := by
    clear h
    induction ids with
    | nil => rfl
    | cons id ids ih =>
      rw [List.mem_cons, not_or] at hproto
      rw [List.map_cons, List.mapM_cons, ih hproto.2]
      simp [JsValue.toStr, getCard, Ne.symm hproto.1, bind, Except.bind, pure, Except.pure]
  unfold syncToolMessages
  rw [hentries]
  refine congrArg Except.ok (List.filter_eq_self.2 fun card hcard => ?_)
  obtain ⟨id, hid, rfl⟩ := List.mem_map.1 hcard
  exact h id hid

theorem orderWith_str (id : String) (ids : List String) :
    orderWith (.str id) (ids.map .str) = (if id ∈ ids then ids else ids ++ [id]).map .str := by
  have hany : (ids.map JsValue.str).any (JsValue.sameValueZero (.str id)) ↔ id ∈ ids := by
    simp [JsValue.sameValueZero]
  unfold orderWith
  split_ifs with h h' h'
  · rfl
  · exact absurd (hany.1 h) h'
  · exact absurd (hany.2 h') h
  · simp

section

variable {clock : Clock} {s s' : RealtimeState} {calls : List (String × JsValue)} {id : String}
  {payload : JsValue}

theorem Registered.congr (h : Registered calls s) (hcards : s'.cards = s.cards)
    (hmessages : s'.chatToolMessages = s.chatToolMessages) : Registered calls s' := by
  obtain ⟨hbyId, horder⟩ := Prod.ext_iff.1 hcards
  dsimp only [RealtimeState.cards] at hbyId horder
  have hcard : s'.cardAt = s.cardAt := by
    funext id
    unfold RealtimeState.cardAt
    rw [hbyId]
  refine ⟨?_, ?_, ?_, ?_, ?_, ?_⟩
  · rw [horder]
    exact h.nodup
  · rw [horder]
    exact h.order
  · rw [hbyId]
    exact h.keys_nodup
  · rw [hbyId, horder]
    exact h.keys
  · rw [hbyId]
    exact h.entries
  · rw [hmessages, horder, hcard]
    exact h.messages

theorem Registered.holdsLatest (h : Registered calls s) : HoldsLatest calls s.toolStreamById where
  nodup := h.keys_nodup
  keys id := by
    rw [h.keys, h.order]
    simp
  entries := h.entries

theorem registered_of_holdsLatest (h : HoldsLatest calls s.toolStreamById)
    (horder : s.toolStreamOrder = (firstKeys calls).map .str)
    (hmessages : s.chatToolMessages =
      (firstKeys calls).map fun id => JsValue.lookup id s.toolStreamById) : Registered calls s where
  nodup := by
    rw [horder]
    exact (nodup_firstKeys calls).map fun _ _ heq => JsValue.str.inj heq
  order := horder
  keys_nodup := h.nodup
  keys id := by
    rw [h.keys, horder]
    simp
  entries := h.entries
  messages := by
    rw [hmessages, horder, List.map_map]
    rfl

theorem registered_initial : Registered [] initialRealtimeState :=
  registered_of_holdsLatest ⟨List.nodup_nil, fun _ => Iff.rfl, nofun⟩ rfl rfl

/-- A tool frame puts its call into the registry. -/
theorem Registered.tool (clock : Clock) (h : Registered calls s)
    (hid : payload.stringAt "toolCallId" = some id)
    (hnamed : ∀ call ∈ calls ++ [(id, payload)], call.1 ≠ "__proto__" ∧ call.2.truthy) :
    ∃ s', applyToolStatus clock s payload = .ok s' ∧ Registered (calls ++ [(id, payload)]) s' := by
  obtain ⟨fields, rfl, hfield⟩ := stringAt_eq_some hid
  have hset : setCard id (.obj fields) s.toolStreamById =
      JsValue.setField id (.obj fields) s.toolStreamById :=
    if_neg (hnamed (id, .obj fields) (by simp)).1
  have horder : orderWith (.str id) s.toolStreamOrder =
      (firstKeys (calls ++ [(id, .obj fields)])).map .str := by
    rw [h.order, orderWith_str, firstKeys_concat]
  have htable := h.holdsLatest.setField id (.obj fields)
  have hproto : "__proto__" ∉ firstKeys (calls ++ [(id, .obj fields)]) := fun hmem => by
    obtain ⟨call, hcall, heq⟩ := List.mem_map.1 (mem_firstKeys.1 hmem)
    exact (hnamed call hcall).1 heq
  have hsync := syncToolMessages_str (cardPrototype id (.obj fields))
    (JsValue.setField id (.obj fields) s.toolStreamById) hproto fun k hk =>
      (hnamed _ (mem_of_latest (htable.entries k ((htable.keys k).2 hk)))).2
  have hid' : (JsValue.obj fields).field "toolCallId" = .str id := hfield
  rw [← horder, ← hset, ← hid'] at hsync
  rw [← hset] at htable
  rw [← hid'] at horder
  exact ⟨_, applyToolStatus_iff.2 ⟨rfl, id, _, by rw [hid', JsValue.toStr], hsync, rfl⟩,
    registered_of_holdsLatest htable horder rfl⟩

end

/-! ## Runs -/

/-- What an action does to the registry: a reset empties it, a tool frame puts its call in, and
every other action leaves it alone. -/
theorem Registered.step {s : RealtimeState} {actions : List RealtimeAction}
    (h : Registered (toolCalls actions) s) (clock : Clock) {action : RealtimeAction}
    (hnames : ∀ a ∈ actions ++ [action], a.NamesCall) :
    Registered (toolCalls (actions ++ [action])) (reduceStep s (clock, action)) := by
  have hother (hreset : action.isReset = false) (hcall : action.toolCall? = none) :
      toolCalls (actions ++ [action]) = toolCalls actions := by
    rw [toolCalls_concat hreset, hcall, Option.toList_none, List.append_nil]
  cases action with
  | sessionReset =>
    rw [toolCalls_reset rfl]
    exact registered_initial
  | event frame =>
    by_cases hevent : frame.event = .toolStatus
    · obtain ⟨id, hid, -⟩ := hnames (.event frame) (by simp) hevent
      have hcall : (RealtimeAction.event frame).toolCall? = some (id, frame.payload) := by
        rw [RealtimeAction.toolCall?, if_pos hevent, hid]
        rfl
      have hcalls : toolCalls (actions ++ [.event frame]) =
          toolCalls actions ++ [(id, frame.payload)] := by
        rw [toolCalls_concat rfl, hcall, Option.toList_some]
      have hseq : Registered (toolCalls actions) { s with lastSeq := frame.seq } := h.congr rfl rfl
      have hnamed := fun call hmem => @named_toolCalls _ hnames call hmem
      rw [hcalls] at hnamed ⊢
      obtain ⟨s', hs', hnext⟩ := hseq.tool clock hid hnamed
      have hreduce : realtimeReducer clock s (.event frame) = .ok s' := by
        rw [realtimeReducer, applyEvent, hevent]
        exact hs'
      rw [reduceStep_of_ok hreduce]
      exact hnext
    · rw [hother rfl (if_neg hevent)]
      cases hr : realtimeReducer clock s (.event frame) with
      | error e =>
        rw [reduceStep_of_error hr]
        exact h
      | ok s' =>
        obtain ⟨hcards, hmessages⟩ := cards_of_ne_tool hevent hr
        rw [reduceStep_of_ok hr]
        exact h.congr hcards hmessages
  | _ =>
    rw [hother rfl rfl]
    exact h.congr rfl rfl

theorem registered_run (steps : List (Clock × RealtimeAction)) (h : ∀ i ∈ steps, i.2.NamesCall) :
    Registered (toolCalls (steps.map (·.2))) (run reduceStep initialRealtimeState steps) := by
  induction steps using List.reverseRecOn with
  | nil => exact registered_initial
  | append_singleton steps i ih =>
    rw [run_append, List.map_append]
    refine (ih fun j hj => h j (List.mem_append_left _ hj)).step i.1 fun action haction => ?_
    rw [← List.map_singleton, ← List.map_append] at haction
    obtain ⟨j, hj, rfl⟩ := List.mem_map.1 haction
    exact h j hj

/-- The registry is consistent after every run whose tool frames name their calls, and no action of
the run but a reset removes a card or reorders the cards. -/
theorem registry_consistent (steps : List (Clock × RealtimeAction))
    (h : ∀ i ∈ steps, i.2.NamesCall) :
    Registered (toolCalls (steps.map (·.2))) (run reduceStep initialRealtimeState steps) ∧
      Each reduceStep KeepsCards initialRealtimeState steps := by
  refine ⟨registered_run steps h, (each_iff_split _ _).2 ?_⟩
  rintro early i late rfl hreset
  have hearly := registered_run early fun j hj => h j (by simp [hj])
  have hnames : ∀ a ∈ early.map (·.2) ++ [i.2], a.NamesCall := by
    intro a ha
    rcases List.mem_append.1 ha with ha | ha
    · obtain ⟨j, hj, rfl⟩ := List.mem_map.1 ha
      exact h j (by simp [hj])
    · rw [List.mem_singleton.1 ha]
      exact h i (by simp)
  have hnext := hearly.step i.1 hnames
  rw [toolCalls_concat hreset] at hnext
  have horder : (run reduceStep initialRealtimeState early).toolStreamOrder <+:
      (reduceStep (run reduceStep initialRealtimeState early) i).toolStreamOrder := by
    rw [hearly.order, hnext.order]
    refine List.IsPrefix.map _ ?_
    cases i.2.toolCall? with
    | none => rw [Option.toList_none, List.append_nil]
    | some call =>
      rw [Option.toList_some, firstKeys_concat]
      split_ifs
      · exact List.prefix_rfl
      · exact List.prefix_append _ _
  refine ⟨horder, fun id hid => ?_⟩
  rw [hearly.keys] at hid
  rw [hnext.keys]
  exact horder.subset hid

/-- A tool frame of a call. -/
def toolStep (toolCallId phase : String) : Clock × RealtimeAction :=
  (fun _ => 0, .event ⟨.toolStatus, .undefined,
    .obj [("toolCallId", .str toolCallId), ("phase", .str phase)], .undefined⟩)

/-- Two calls that overlap, with a reconnect between their frames. -/
def overlappingCalls : List (Clock × RealtimeAction) :=
  [toolStep "a" "started", toolStep "b" "started", (fun _ => 0, .connectStart),
    toolStep "a" "completed"]

theorem namesCall_toolStep {toolCallId : String} (h : toolCallId ≠ "__proto__") (phase : String) :
    (toolStep toolCallId phase).2.NamesCall := fun _ => ⟨toolCallId, rfl, h⟩

theorem registry_consistent_overlapping :
    Registered (toolCalls (overlappingCalls.map (·.2)))
        (run reduceStep initialRealtimeState overlappingCalls) ∧
      Each reduceStep KeepsCards initialRealtimeState overlappingCalls := by
  refine registry_consistent overlappingCalls ?_
  simp only [overlappingCalls, List.forall_mem_cons]
  exact ⟨namesCall_toolStep (by decide) _, namesCall_toolStep (by decide) _, trivial,
    namesCall_toolStep (by decide) _, fun _ => nofun⟩

example : (run reduceStep initialRealtimeState overlappingCalls).toolStreamOrder =
    [.str "a", .str "b"] := by decide +kernel

end Vertx
