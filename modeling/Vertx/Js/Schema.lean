import Vertx.Js.Value

/-!
# JSON schemas

The part of JSON Schema that `Type.Object` and its relatives build and a validator checks without
changing the value.  Objects admit no additional properties.
-/

namespace Vertx

/-- A schema; an object has properties with their names, which are required unless they are marked
as optional. -/
inductive JsonSchema
  | unknown
  | string (minLength : ℕ) (maxLength : Option ℕ)
  | enum (options : List String)
  | integer (minimum : ℤ) (maximum : Option ℤ)
  | boolean
  | array (items : JsonSchema)
  | optional (schema : JsonSchema)
  | object (properties : List (String × JsonSchema))

namespace JsonSchema

open JsValue

/-- `Type.String()`. -/
def anyString : JsonSchema := string 0 none

mutual

/-- The validator accepts a parsed value; `undefined` stands for a property that is not there. -/
def accepts : JsonSchema → JsValue → Bool
  | unknown, v => v ≠ .undefined
  | string minLength maxLength, v =>
    v.asString?.any fun s => minLength ≤ s.length ∧ ∀ n ∈ maxLength, s.length ≤ n
  | enum options, v => v.asString?.any (options.contains ·)
  | integer minimum maximum, v => match v with
    | .num (.finite q) => q.den = 1 ∧ minimum ≤ q ∧ ∀ n ∈ maximum, q ≤ n
    | _ => false
  | boolean, v => match v with
    | .bool _ => true
    | _ => false
  | array items, v => match v with
    | .arr xs => xs.all items.accepts
    | _ => false
  | optional schema, v => v = .undefined || schema.accepts v
  | object properties, v => match v with
    | .obj fields =>
      fields.all (fun kv => properties.any (·.1 = kv.1)) && acceptsAll properties fields
    | _ => false

/-- The properties of a schema accept the fields of an object. -/
def acceptsAll : List (String × JsonSchema) → List (String × JsValue) → Bool
  | [], _ => true
  | (key, schema) :: properties, fields =>
    schema.accepts (lookup key fields) && acceptsAll properties fields

end

theorem acceptsAll_iff {properties : List (String × JsonSchema)}
    {fields : List (String × JsValue)} :
    acceptsAll properties fields ↔ ∀ p ∈ properties, p.2.accepts (lookup p.1 fields) := by
  induction properties with
  | nil => simp [acceptsAll]
  | cons p properties ih => simp [acceptsAll, ih]

/-- An object is accepted when it has no other fields and each property accepts its own. -/
theorem accepts_object {properties : List (String × JsonSchema)}
    {fields : List (String × JsValue)} :
    (object properties).accepts (.obj fields) ↔
      (∀ kv ∈ fields, kv.1 ∈ properties.map (·.1)) ∧
        ∀ p ∈ properties, p.2.accepts (lookup p.1 fields) := by
  rw [accepts, Bool.and_eq_true, acceptsAll_iff, List.all_eq_true]
  refine and_congr_left' (forall₂_congr fun kv _ => ?_)
  simp only [List.any_eq_true, decide_eq_true_eq, List.mem_map]

/-- A property that does not accept its field. -/
theorem not_accepts_object {properties : List (String × JsonSchema)}
    {fields : List (String × JsValue)} {p : String × JsonSchema} (hp : p ∈ properties)
    (h : p.2.accepts (lookup p.1 fields) = false) :
    (object properties).accepts (.obj fields) = false := by
  refine Bool.eq_false_iff.2 fun haccepts => ?_
  have hfield := (accepts_object.1 haccepts).2 p hp
  rw [h] at hfield
  cases hfield

theorem accepts_string {minLength : ℕ} {maxLength : Option ℕ} {s : String} :
    (string minLength maxLength).accepts (.str s) ↔
      minLength ≤ s.length ∧ ∀ n ∈ maxLength, s.length ≤ n := by
  simp [accepts, asString?]

theorem accepts_integer_ofNat {minimum maximum : ℤ} {n : ℕ} :
    (integer minimum (some maximum)).accepts (.num (.ofNat n)) ↔
      minimum ≤ n ∧ (n : ℤ) ≤ maximum := by
  simp only [accepts, JsNumber.ofNat, Rat.den_natCast, Option.mem_def, Option.some.injEq,
    forall_eq', true_and, decide_eq_true_eq]
  norm_cast

theorem accepts_optional {schema : JsonSchema} {v : JsValue} :
    (optional schema).accepts v ↔ v = .undefined ∨ schema.accepts v := by
  simp [accepts]

/-- No string schema accepts an object. -/
theorem accepts_string_obj (minLength : ℕ) (maxLength : Option ℕ)
    (fields : List (String × JsValue)) :
    (string minLength maxLength).accepts (.obj fields) = false := by
  simp [accepts, asString?]

end JsonSchema

end Vertx
