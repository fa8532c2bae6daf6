import Vertx.Js.Value

/-!
# Types of plain data

The types that TypeScript declarations give to data without functions, and what it means for a
value to have one.  An object has the fields that its type declares and no others, so a type says
exactly which properties are there.
-/

namespace Vertx

/-- A type of plain data. -/
inductive TsType
  | string
  | number
  | literals (options : List String)
  | optional (type : TsType)
  | array (element : TsType)
  | object (fields : List (String × TsType))

namespace TsType

open JsValue

mutual

/-- The value has the type. -/
def has : TsType → JsValue → Bool
  | string, v => v.asString?.isSome
  | number, v => match v with
    | .num _ => true
    | _ => false
  | literals options, v => v.asString?.any (options.contains ·)
  | optional type, v => v = .undefined || type.has v
  | array element, v => match v with
    | .arr xs => xs.all element.has
    | _ => false
  | object fields, v => match v with
    | .obj props => props.all (fun kv => fields.any (·.1 = kv.1)) && hasFields fields props
    | _ => false

/-- The declared fields have their types. -/
def hasFields : List (String × TsType) → List (String × JsValue) → Bool
  | [], _ => true
  | (key, type) :: fields, props => type.has (lookup key props) && hasFields fields props

end

theorem has_array {element : TsType} {xs : List JsValue} :
    (array element).has (.arr xs) ↔ ∀ x ∈ xs, element.has x := by
  rw [has, List.all_eq_true]

/-- A list of records has the type when every record has its element type. -/
theorem has_array_map {α : Type} {element : TsType} {l : List α} {f : α → JsValue} :
    (array element).has (.arr (l.map f)) ↔ ∀ a ∈ l, element.has (f a) := by
  rw [has_array, List.forall_mem_map]

theorem hasFields_iff {fields : List (String × TsType)} {props : List (String × JsValue)} :
    hasFields fields props ↔ ∀ field ∈ fields, field.2.has (lookup field.1 props) := by
  induction fields with
  | nil => simp [hasFields]
  | cons field fields ih => simp [hasFields, ih]

theorem has_object {fields : List (String × TsType)} {props : List (String × JsValue)} :
    (object fields).has (.obj props) ↔
      (∀ key ∈ props.map (·.1), key ∈ fields.map (·.1)) ∧
        ∀ field ∈ fields, field.2.has (lookup field.1 props) := by
  rw [has, Bool.and_eq_true, hasFields_iff, List.all_eq_true, List.forall_mem_map]
  refine and_congr_left' (forall₂_congr fun kv _ => ?_)
  simp only [List.any_eq_true, decide_eq_true_eq, List.mem_map]

/-- `v ?? fallback` has a type that the fallback has when `v` is missing or has it. -/
theorem has_orElse {type : TsType} {v fallback : JsValue} (h : type.has fallback) :
    type.has (v.orElse fallback) ↔ v.isNullish || type.has v := by
  unfold orElse
  by_cases hv : v.isNullish <;> simp [hv, h]

/-- Every property that `...props` copies is declared and arrives with its declared type. -/
def hasPartial (fields : List (String × TsType)) (props : List (String × JsValue)) : Bool :=
  props.all fun kv => fields.any (·.1 = kv.1) &&
    fields.all fun field => field.1 ≠ kv.1 || field.2.has (lookup field.1 (merge [] props))

theorem hasPartial_iff {fields : List (String × TsType)} {props : List (String × JsValue)} :
    hasPartial fields props ↔ ∀ key ∈ props.map (·.1), key ∈ fields.map (·.1) ∧
      ∀ field ∈ fields, field.1 = key → field.2.has (lookup field.1 (merge [] props)) := by
  rw [hasPartial, List.all_eq_true, List.forall_mem_map]
  refine forall₂_congr fun kv _ => ?_
  simp only [Bool.and_eq_true, List.any_eq_true, decide_eq_true_eq, List.mem_map, List.all_eq_true,
    Bool.or_eq_true, ne_eq, decide_not, Bool.not_eq_true', decide_eq_false_iff_not,
    imp_iff_not_or]

/-- An object that has its type keeps it when other properties are copied over it, exactly when
these are declared and have their types. -/
theorem has_merge_iff {fields : List (String × TsType)} {props more : List (String × JsValue)}
    (h : (object fields).has (.obj props)) :
    (object fields).has (.obj (merge props more)) ↔ hasPartial fields more := by
  obtain ⟨hkeys, htypes⟩ := has_object.1 h
  rw [has_object, hasPartial_iff]
  constructor
  · rintro ⟨hkeys', htypes'⟩ key hkey
    refine ⟨hkeys' key (mem_keys_merge.2 (.inr hkey)), ?_⟩
    rintro field hf rfl
    rw [lookup_merge_of_mem hkey [] props]
    exact htypes' field hf
  · intro hmore
    refine ⟨fun key hkey => ?_, fun field hf => ?_⟩
    · rcases mem_keys_merge.1 hkey with hkey | hkey
      · exact hkeys key hkey
      · exact (hmore key hkey).1
    · by_cases hkey : field.1 ∈ more.map (·.1)
      · rw [lookup_merge_of_mem hkey props []]
        exact (hmore field.1 hkey).2 field hf rfl
      · rw [lookup_merge_of_notMem hkey]
        exact htypes field hf

end TsType

end Vertx
