import Vertx.Lib.FloatFormat

/-!
# JavaScript values

The programs exchange parsed JSON and plain objects built from it.  `JsValue` is such a value; it
has `undefined` beside JSON's own kinds because the code builds objects with `undefined` fields
before it serialises them.  A number is a double: a rational that a double can be, or one of the
three special values.  Sums, differences and numbers read from a text are rounded to doubles.  An
object is the list of its own properties in insertion order.
-/

namespace Vertx

/-- What a JavaScript function throws. -/
inductive JsError
  | typeError
  | rangeError
  | error (message : String)
  deriving DecidableEq, Repr

/-- A function of a JavaScript program over mutable state: a throw keeps the writes made before. -/
abbrev JsM (σ α : Type) := EStateM JsError σ α

/-- A pure computation that may throw, as a step of a program. -/
def JsM.ofExcept {σ α : Type} : Except JsError α → JsM σ α
  | .ok a => pure a
  | .error e => throw e

@[simp] theorem JsM.run_ofExcept_ok {σ α : Type} (a : α) (s : σ) :
    (JsM.ofExcept (.ok a)).run s = .ok a s := rfl

@[simp] theorem JsM.run_ofExcept_error {σ α : Type} (e : JsError) (s : σ) :
    (JsM.ofExcept (.error e) : JsM σ α).run s = .error e s := rfl

/-- The state a program ends in, whether it returns or throws. -/
def JsM.stateAfter {σ α : Type} (x : JsM σ α) (s : σ) : σ :=
  match x.run s with
  | .ok _ t | .error _ t => t

/-! ## Numbers -/

/-- The doubles, without their largest one: `JsNumber.ofRat` takes care of it. -/
def binary64 : FloatFormat := ⟨53, -1074, by decide⟩

/-- A number.  Those of a program are doubles (`IsDouble`); another rational is rounded when it is
added or printed. -/
inductive JsNumber
  | finite (q : ℚ)
  | posInf
  | negInf
  | nan
  deriving DecidableEq, Repr

namespace JsNumber

/-- The number of a counter. -/
def ofNat (n : ℕ) : JsNumber := finite n

/-- `Number.isFinite` on a number. -/
def isFinite : JsNumber → Bool
  | finite _ => true
  | _ => false

/-- The least power of two that is too large for a double. -/
def overflow : ℚ := 2 ^ 1024

/-- The double nearest to a rational. -/
def ofRat (q : ℚ) : JsNumber :=
  let r := binary64.round q
  if overflow ≤ r then posInf else if r ≤ -overflow then negInf else finite r

/-- The operator `+` on two numbers. -/
def add : JsNumber → JsNumber → JsNumber
  | finite a, finite b => ofRat (binary64.round a + binary64.round b)
  | nan, _ | _, nan | posInf, negInf | negInf, posInf => nan
  | posInf, _ | _, posInf => posInf
  | negInf, _ | _, negInf => negInf

example : (finite 9007199254740992).add (ofNat 1) = finite 9007199254740992 := by decide +kernel

/-- The unary operator `-` on a number. -/
def neg : JsNumber → JsNumber
  | finite q => finite (-q)
  | posInf => negInf
  | negInf => posInf
  | nan => nan

/-- The operator `-` on two numbers. -/
def sub (a b : JsNumber) : JsNumber := a.add b.neg

example : (finite (3 / 10)).sub (finite (1 / 10)) = finite (7205759403792793 / 2 ^ 55) := by
  decide +kernel

/-- The operator `<` on two numbers; false when one is `NaN`. -/
def lt : JsNumber → JsNumber → Bool
  | finite a, finite b => a < b
  | nan, _ | _, nan | posInf, _ | _, negInf => false
  | negInf, _ | _, posInf => true

/-- `Math.max` of two numbers. -/
def max (a b : JsNumber) : JsNumber :=
  if a = nan ∨ b = nan then nan else if a.lt b then b else a

/-- The number is one that a variable can hold. -/
def IsDouble : JsNumber → Prop
  | finite q => binary64.Holds q ∧ |q| < overflow
  | _ => True

theorem isDouble_ofRat (q : ℚ) : (ofRat q).IsDouble := by
  unfold ofRat
  dsimp only
  by_cases hhigh : overflow ≤ binary64.round q
  · rw [if_pos hhigh]
    trivial
  by_cases hlow : binary64.round q ≤ -overflow
  · rw [if_neg hhigh, if_pos hlow]
    trivial
  · rw [if_neg hhigh, if_neg hlow]
    exact ⟨binary64.holds_round q, abs_lt.2 ⟨not_le.1 hlow, not_le.1 hhigh⟩⟩

theorem isDouble_add (a b : JsNumber) : (a.add b).IsDouble := by
  cases a <;> cases b <;> first | exact isDouble_ofRat _ | trivial

theorem isDouble_intCast {n : ℤ} (h : |n| ≤ 2 ^ 53) : (finite n).IsDouble := by
  refine ⟨binary64.holds_intCast (by decide) h, ?_⟩
  have h' : |(n : ℚ)| ≤ 2 ^ 53 := by exact_mod_cast h
  exact h'.trans_lt (pow_lt_pow_right₀ one_lt_two (by norm_num))

theorem ofRat_of_isDouble {q : ℚ} (h : (finite q).IsDouble) : ofRat q = finite q := by
  obtain ⟨hlow, hhigh⟩ := abs_lt.1 h.2
  unfold ofRat
  rw [h.1.round_eq]
  dsimp only
  rw [if_neg hhigh.not_ge, if_neg hlow.not_ge]

theorem add_ofNat_one {q : ℚ} (h : (finite q).IsDouble) :
    (finite q).add (ofNat 1) = ofRat (q + 1) := by
  have hone : binary64.round ((1 : ℕ) : ℚ) = 1 := by
    rw [Nat.cast_one]
    exact_mod_cast (binary64.holds_intCast (n := 1) (by decide) (by decide)).round_eq
  show ofRat (binary64.round q + binary64.round _) = _
  rw [h.1.round_eq, hone]

/-- The sum with 1 is exact if it is a number. -/
theorem add_ofNat_one_of_isDouble {q : ℚ} (h : (finite q).IsDouble)
    (hnext : (finite (q + 1)).IsDouble) : (finite q).add (ofNat 1) = finite (q + 1) := by
  rw [add_ofNat_one h, ofRat_of_isDouble hnext]

/-- One more than an integer is an integer, though perhaps not the next one. -/
theorem exists_add_ofNat_one {n : ℤ} (h : (finite n).IsDouble) :
    ∃ next : ℤ, (finite n).add (ofNat 1) = finite next := by
  obtain ⟨next, hnext⟩ := binary64.exists_round_intCast (n + 1)
  rw [Int.cast_add, Int.cast_one] at hnext
  have hnear := binary64.abs_sub_round_le ((n : ℚ) + 1) h.1
  rw [hnext, add_sub_cancel_left, abs_one, abs_le] at hnear
  obtain ⟨hbelow, habove⟩ := hnear
  have hmargin : |(n : ℚ)| + 2 < overflow := by
    have htop : overflow = 2 ^ (1024 : ℤ) := (zpow_natCast 2 1024).symm
    have hsmall : (2 : ℚ) < 2 ^ (1024 - (binary64.precision : ℤ)) := by
      have := zpow_lt_zpow_right₀ (one_lt_two (α := ℚ))
        (show (1 : ℤ) < 1024 - binary64.precision by decide)
      rwa [zpow_one] at this
    have habove := h.2
    rw [htop] at habove ⊢
    exact ((add_lt_add_iff_left _).2 hsmall).trans_le (h.1.abs_add_le habove)
  have hdouble : (finite next).IsDouble := by
    refine ⟨hnext ▸ binary64.holds_round _, abs_lt.2 ?_⟩
    have hlow := neg_abs_le (n : ℚ)
    have hhigh := le_abs_self (n : ℚ)
    constructor <;> linarith
  refine ⟨next, ?_⟩
  rw [add_ofNat_one h, ← ofRat_of_isDouble hdouble]
  unfold ofRat
  rw [hnext, hdouble.1.round_eq]

/-- The decimal digits of `n`, without a sign. -/
private def digits (n : ℕ) : List Char := n.repr.toList

/-- `Number.prototype.toString` on a positive number `m · 10 ^ e` with the digits of `m`. -/
private def layout (ds : List Char) (e : ℤ) : String :=
  let k : ℤ := ds.length
  let n := k + e
  if k ≤ n ∧ n ≤ 21 then String.ofList (ds ++ List.replicate (n - k).toNat '0')
  else if 0 < n ∧ n ≤ 21 then String.ofList (ds.take n.toNat ++ '.' :: ds.drop n.toNat)
  else if -6 < n ∧ n ≤ 0 then
    String.ofList ('0' :: '.' :: List.replicate (-n).toNat '0' ++ ds)
  else
    let mantissa := match ds with
      | [d] => [d]
      | d :: rest => d :: '.' :: rest
      | [] => []
    let sign := if 0 ≤ n - 1 then '+' else '-'
    String.ofList (mantissa ++ 'e' :: sign :: digits (n - 1).natAbs)

/-- A decimal of `k` digits, as an integer and a power of ten, that is read as the double `x`: of
two the nearer one. -/
private def decimal? (x : ℚ) (k : ℕ) : Option (ℕ × ℤ) :=
  let e := Int.log 10 x + 1 - k
  let scaled := x / 10 ^ e
  let nearest := nearestEven scaled
  let next := if nearest ≤ scaled then nearest + 1 else nearest - 1
  ([nearest, next].find? fun m : ℤ => ofRat (m * 10 ^ e) = ofRat x).map fun m => (m.toNat, e)

/-- Removes the trailing zeros of an integer. -/
private def dropZeros (m : ℕ) : ℕ → ℕ × ℤ
  | 0 => (m, 0)
  | fuel + 1 => if m % 10 = 0 then let (m', e) := dropZeros (m / 10) fuel; (m', e + 1) else (m, 0)

/-- `Number.prototype.toString`: the shortest decimal that is read as the number.  Every double has
one of 17 digits. -/
def toString : JsNumber → String
  | posInf => "Infinity"
  | negInf => "-Infinity"
  | nan => "NaN"
  | finite q =>
    let x := binary64.round q
    if x = 0 then "0"
    else
      let (m, e) := ((List.range 17).findSome? fun k => decimal? |x| (k + 1)).getD (0, 0)
      let (m', e') := dropZeros m 17
      (if x < 0 then "-" else "") ++ layout (digits m') (e + e')

example : (finite (1 / 3)).toString = "0.3333333333333333" := by decide +kernel

end JsNumber

/-- A number that a variable can hold. -/
abbrev JsDouble := {x : JsNumber // x.IsDouble}

/-! ## Values -/

/-- A parsed JSON value, or a plain object or array built from such values. -/
inductive JsValue
  | undefined
  | null
  | bool (b : Bool)
  | num (x : JsNumber)
  | str (s : String)
  | arr (xs : List JsValue)
  | obj (fields : List (String × JsValue))
  deriving Repr

namespace JsValue

mutual

/-- Equality of two values is decided by their structure. -/
def decEq : (a b : JsValue) → Decidable (a = b)
  | undefined, undefined => isTrue rfl
  | null, null => isTrue rfl
  | bool a, bool b => decidable_of_iff (a = b) (by simp)
  | num a, num b => decidable_of_iff (a = b) (by simp)
  | str a, str b => decidable_of_iff (a = b) (by simp)
  | arr a, arr b => @decidable_of_iff _ (a = b) (by simp) (decEqList a b)
  | obj a, obj b => @decidable_of_iff _ (a = b) (by simp) (decEqFields a b)
  | undefined, null | undefined, bool _ | undefined, num _ | undefined, str _ | undefined, arr _
  | undefined, obj _ | null, undefined | null, bool _ | null, num _ | null, str _ | null, arr _
  | null, obj _ | bool _, undefined | bool _, null | bool _, num _ | bool _, str _ | bool _, arr _
  | bool _, obj _ | num _, undefined | num _, null | num _, bool _ | num _, str _ | num _, arr _
  | num _, obj _ | str _, undefined | str _, null | str _, bool _ | str _, num _ | str _, arr _
  | str _, obj _ | arr _, undefined | arr _, null | arr _, bool _ | arr _, num _ | arr _, str _
  | arr _, obj _ | obj _, undefined | obj _, null | obj _, bool _ | obj _, num _ | obj _, str _
  | obj _, arr _ => isFalse nofun

/-- Equality of two lists of values. -/
def decEqList : (a b : List JsValue) → Decidable (a = b)
  | [], [] => isTrue rfl
  | [], _ :: _ | _ :: _, [] => isFalse nofun
  | a :: as, b :: bs =>
    @decidable_of_iff _ (a = b ∧ as = bs) (by simp)
      (@instDecidableAnd _ _ (decEq a b) (decEqList as bs))

/-- Equality of two property lists. -/
def decEqFields : (a b : List (String × JsValue)) → Decidable (a = b)
  | [], [] => isTrue rfl
  | [], _ :: _ | _ :: _, [] => isFalse nofun
  | (k, a) :: as, (l, b) :: bs =>
    @decidable_of_iff _ (k = l ∧ a = b ∧ as = bs) (by simp [and_assoc])
      (@instDecidableAnd _ _ _ (@instDecidableAnd _ _ (decEq a b) (decEqFields as bs)))

end

instance : DecidableEq JsValue := decEq

/-- `value === null || value === undefined`. -/
def isNullish : JsValue → Bool
  | undefined | null => true
  | _ => false

/-- `a ?? b`. -/
def orElse (a b : JsValue) : JsValue := if a.isNullish then b else a

/-- `Boolean(value)`. -/
def truthy : JsValue → Bool
  | undefined | null => false
  | bool b => b
  | num x => x ≠ .nan ∧ x ≠ .finite 0
  | str s => s ≠ ""
  | arr _ | obj _ => true

/-- `typeof value === "object"` for a value that is not `null`. -/
def isObject : JsValue → Bool
  | arr _ | obj _ => true
  | _ => false

/-- The value when it is a string. -/
def asString? : JsValue → Option String
  | str s => some s
  | _ => none

/-- The value of the own property `key` of a property list. -/
def lookup (key : String) (fields : List (String × JsValue)) : JsValue :=
  match fields.find? (·.1 = key) with
  | some (_, v) => v
  | none => undefined

/-- `value.key` for a value known not to be nullish, where `key` is none of the built-in
properties of strings, arrays and objects. -/
def field (v : JsValue) (key : String) : JsValue :=
  match v with
  | obj fields => lookup key fields
  | _ => undefined

/-- `value.key`, which throws on `null` and `undefined`. -/
def get (v : JsValue) (key : String) : Except JsError JsValue :=
  if v.isNullish then .error .typeError else .ok (v.field key)

/-- The object with property `key` set to `v`: in its place when it exists, else at the end. -/
def setField (key : String) (v : JsValue) : List (String × JsValue) → List (String × JsValue)
  | [] => [(key, v)]
  | (k, w) :: rest => if k = key then (k, v) :: rest else (k, w) :: setField key v rest

/-- The own enumerable properties that `...value` copies. -/
def spread : JsValue → List (String × JsValue)
  | obj fields => fields
  | arr xs => xs.zipIdx.map fun (x, i) => (i.repr, x)
  | str s => s.toList.zipIdx.map fun (c, i) => (i.repr, str (String.singleton c))
  | _ => []

/-- `{...fields, ...more}` of two property lists. -/
def merge (fields more : List (String × JsValue)) : List (String × JsValue) :=
  more.foldl (fun acc kv => setField kv.1 kv.2 acc) fields

mutual

/-- `String(value)`.  An object with an own property `toString` has no callable one, since its
properties are data, and its conversion throws. -/
def toStr : JsValue → Except JsError String
  | undefined => .ok "undefined"
  | null => .ok "null"
  | bool b => .ok (if b then "true" else "false")
  | num x => .ok x.toString
  | str s => .ok s
  | arr xs => joinStrs xs
  | obj fields => if fields.any (·.1 = "toString") then .error .typeError else .ok "[object Object]"

/-- `values.join(",")`, where `null` and `undefined` print as nothing. -/
def joinStrs : List JsValue → Except JsError String
  | [] => .ok ""
  | [x] => if x.isNullish then .ok "" else toStr x
  | x :: y :: rest => do
    let head ← if x.isNullish then .ok "" else toStr x
    let tail ← joinStrs (y :: rest)
    return head ++ "," ++ tail

end

mutual

/-- A value that no string can be made of: an object with an own property `toString`, or an array
with such an element. -/
def unprintable : JsValue → Bool
  | arr xs => unprintableAny xs
  | obj fields => fields.any (·.1 = "toString")
  | _ => false

/-- A list with an element that no string can be made of. -/
def unprintableAny : List JsValue → Bool
  | [] => false
  | x :: xs => x.unprintable || unprintableAny xs

end

mutual

theorem toStr_isOk : (v : JsValue) → v.toStr.toOption.isSome = !v.unprintable
  | undefined | null | bool _ | num _ | str _ => rfl
  | arr xs => by rw [toStr, unprintable, joinStrs_isOk xs]
  | obj fields => by
    rw [toStr, unprintable]
    cases fields.any (·.1 = "toString") <;> rfl

theorem joinStrs_isOk : (xs : List JsValue) →
    (joinStrs xs).toOption.isSome = !unprintableAny xs
  | [] => rfl
  | [x] => by
    have hx := toStr_isOk x
    rw [joinStrs, unprintableAny, unprintableAny, Bool.or_false]
    cases x <;> first | rfl | exact hx
  | x :: y :: rest => by
    have hbind (head tail : Except JsError String) :
        (do return (← head) ++ "," ++ (← tail) : Except JsError String).toOption.isSome =
          (head.toOption.isSome && tail.toOption.isSome) := by
      cases head <;> cases tail <;> rfl
    have htail := joinStrs_isOk (y :: rest)
    rw [joinStrs, unprintableAny, Bool.not_or, ← htail]
    by_cases hn : x.isNullish
    · have hx : x.unprintable = false := by cases x <;> simp_all [isNullish, unprintable]
      rw [if_pos hn, hx]
      exact hbind (.ok "") _
    · rw [if_neg hn, ← toStr_isOk x]
      exact hbind x.toStr _

end

mutual

/-- `JSON.parse(JSON.stringify(value))`: properties that are `undefined` are dropped, `undefined`
elements and numbers that are not finite become `null`. -/
def wire : JsValue → JsValue
  | num x => if x.isFinite then num x else null
  | arr xs => arr (wireList xs)
  | obj fields => obj (wireFields fields)
  | undefined => undefined
  | null => null
  | bool b => bool b
  | str s => str s

/-- The elements of a serialised array. -/
def wireList : List JsValue → List JsValue
  | [] => []
  | x :: xs => (if x = undefined then null else wire x) :: wireList xs

/-- The properties of a serialised object. -/
def wireFields : List (String × JsValue) → List (String × JsValue)
  | [] => []
  | (k, v) :: rest => if v = undefined then wireFields rest else (k, wire v) :: wireFields rest

end

theorem wire_eq_undefined {v : JsValue} : v.wire = undefined ↔ v = undefined := by
  cases v with
  | num x =>
    rw [wire]
    split_ifs <;> simp
  | _ => simp [wire]

mutual

/-- What has been serialised once is not changed by serialising it again. -/
theorem wire_wire : (v : JsValue) → v.wire.wire = v.wire
  | undefined | null | bool _ | str _ => rfl
  | num x => by
    rw [wire]
    split_ifs with h
    · rw [wire, if_pos h]
    · rfl
  | arr xs => by rw [wire, wire, wireList_wireList xs]
  | obj fields => by rw [wire, wire, wireFields_wireFields fields]

theorem wireList_wireList : (xs : List JsValue) → wireList (wireList xs) = wireList xs
  | [] => rfl
  | x :: xs => by
    have hx := wire_wire x
    have hxs := wireList_wireList xs
    rw [wireList, wireList, hxs]
    by_cases h : x = undefined
    · rw [if_pos h]
      rfl
    · rw [if_neg h, if_neg (mt wire_eq_undefined.1 h), hx]

theorem wireFields_wireFields :
    (fields : List (String × JsValue)) → wireFields (wireFields fields) = wireFields fields
  | [] => rfl
  | (k, v) :: rest => by
    have hv := wire_wire v
    have hrest := wireFields_wireFields rest
    rw [wireFields]
    by_cases h : v = undefined
    · rw [if_pos h, hrest]
    · rw [if_neg h, wireFields, if_neg (mt wire_eq_undefined.1 h), hv, hrest]

end

@[simp] theorem field_obj (fields : List (String × JsValue)) (key : String) :
    (obj fields).field key = lookup key fields := rfl

@[simp] theorem get_obj (fields : List (String × JsValue)) (key : String) :
    (obj fields).get key = .ok (lookup key fields) := rfl

/-- Only an object has a text under a key. -/
theorem isObject_of_field {v : JsValue} {key text : String} (h : v.field key = .str text) :
    v.isObject := by
  cases v with
  | obj fields => rfl
  | _ => cases h

@[simp] theorem lookup_nil (key : String) : lookup key [] = undefined := rfl

theorem lookup_cons (key k : String) (v : JsValue) (rest : List (String × JsValue)) :
    lookup key ((k, v) :: rest) = if k = key then v else lookup key rest := by
  unfold lookup
  by_cases h : k = key <;> simp [h]

theorem lookup_setField (key k : String) (v : JsValue) (fields : List (String × JsValue)) :
    lookup key (setField k v fields) = if k = key then v else lookup key fields := by
  induction fields with
  | nil => simp [setField, lookup_cons]
  | cons kw rest ih =>
    obtain ⟨l, w⟩ := kw
    by_cases hl : l = k
    · subst hl
      by_cases h : l = key <;> simp [setField, lookup_cons, h]
    · by_cases h : l = key
      · subst h
        simp [setField, lookup_cons, hl, Ne.symm hl]
      · simp [setField, lookup_cons, hl, h, ih]

/-- Setting a property to the value it has changes nothing. -/
theorem setField_eq_self {key : String} {v : JsValue} {fields : List (String × JsValue)}
    (hv : v ≠ undefined) : setField key v fields = fields ↔ lookup key fields = v := by
  constructor
  · intro h
    rw [← h, lookup_setField, if_pos rfl]
  · intro h
    induction fields with
    | nil => exact absurd h.symm hv
    | cons kw rest ih =>
      obtain ⟨k, w⟩ := kw
      rw [lookup_cons] at h
      unfold setField
      split_ifs at h ⊢ with hk
      · rw [h]
      · rw [ih h]

/-- Properties that are not copied over stay. -/
theorem lookup_merge_of_notMem {key : String} {fields more : List (String × JsValue)}
    (h : key ∉ more.map (·.1)) : lookup key (merge fields more) = lookup key fields := by
  unfold merge
  induction more generalizing fields with
  | nil => rfl
  | cons kv more ih =>
    simp only [List.map_cons, List.mem_cons, not_or] at h
    rw [List.foldl_cons, ih h.2, lookup_setField, if_neg (Ne.symm h.1)]

/-- A new property comes last. -/
theorem keys_setField (key : String) (v : JsValue) (fields : List (String × JsValue)) :
    (setField key v fields).map (·.1) =
      if key ∈ fields.map (·.1) then fields.map (·.1) else fields.map (·.1) ++ [key] := by
  induction fields with
  | nil => rfl
  | cons kw rest ih =>
    obtain ⟨k, w⟩ := kw
    unfold setField
    by_cases hk : k = key
    · simp [hk]
    · rw [if_neg hk, List.map_cons, ih, List.map_cons]
      split_ifs with hmem hcons hcons
      · rfl
      · exact absurd (List.mem_cons_of_mem k hmem) hcons
      · exact absurd ((List.mem_cons.1 hcons).resolve_left (Ne.symm hk)) hmem
      · rfl

theorem mem_keys_setField {key k : String} {v : JsValue} {fields : List (String × JsValue)} :
    key ∈ (setField k v fields).map (·.1) ↔ key ∈ fields.map (·.1) ∨ key = k := by
  rw [keys_setField]
  split_ifs with hmem
  · exact ⟨.inl, fun h => h.elim id fun hk => hk ▸ hmem⟩
  · rw [List.mem_append, List.mem_singleton]

theorem nodup_setField {fields : List (String × JsValue)} (h : (fields.map (·.1)).Nodup)
    (key : String) (v : JsValue) : ((setField key v fields).map (·.1)).Nodup := by
  rw [keys_setField]
  split_ifs with hmem
  · exact h
  · rw [← List.concat_eq_append]
    exact h.concat hmem

/-- The properties of a merged object are those of both. -/
theorem mem_keys_merge {key : String} {fields more : List (String × JsValue)} :
    key ∈ (merge fields more).map (·.1) ↔ key ∈ fields.map (·.1) ∨ key ∈ more.map (·.1) := by
  unfold merge
  induction more generalizing fields with
  | nil => simp
  | cons kv more ih =>
    rw [List.foldl_cons, ih, mem_keys_setField, List.map_cons, List.mem_cons, or_assoc]

/-- What a property that is copied over becomes does not depend on what it was. -/
theorem lookup_merge_of_mem {key : String} {more : List (String × JsValue)}
    (h : key ∈ more.map (·.1)) (fields fields' : List (String × JsValue)) :
    lookup key (merge fields more) = lookup key (merge fields' more) := by
  induction more generalizing fields fields' with
  | nil => cases h
  | cons kv more ih =>
    by_cases hm : key ∈ more.map (·.1)
    · exact ih hm _ _
    · have hk : key = kv.1 := (List.mem_cons.1 h).resolve_right hm
      have hlast (fields : List (String × JsValue)) :
          lookup key (merge fields (kv :: more)) = kv.2 := by
        change lookup key (merge (setField kv.1 kv.2 fields) more) = kv.2
        rw [lookup_merge_of_notMem hm, lookup_setField, if_pos hk.symm]
      rw [hlast, hlast]

end JsValue

/-! ## Strings -/

/-- The white space and line terminators that `String.prototype.trim` removes. -/
def isJsSpace (c : Char) : Bool :=
  c.toNat ∈ [0x9, 0xA, 0xB, 0xC, 0xD, 0x20, 0xA0, 0x1680, 0x2028, 0x2029, 0x202F, 0x205F, 0x3000,
    0xFEFF] || (0x2000 ≤ c.toNat && c.toNat ≤ 0x200A)

/-- `s.trim()`. -/
def jsTrim (s : String) : String :=
  String.ofList ((s.toList.dropWhile isJsSpace).reverse.dropWhile isJsSpace).reverse

/-- `s.trim()` is not empty. -/
def nonBlank (s : String) : Bool := jsTrim s ≠ ""

theorem nonBlank_iff (s : String) : nonBlank s = true ↔ ∃ c ∈ s.toList, isJsSpace c = false := by
  have hof (l : List Char) : String.ofList l = "" ↔ l = [] := by
    rw [← String.toList_inj]
    simp
  rw [← not_iff_not]
  simp only [nonBlank, jsTrim, decide_eq_true_eq, ne_eq, not_not, hof, List.reverse_eq_nil_iff,
    List.dropWhile_eq_nil_iff, List.mem_reverse, not_exists, not_and, Bool.not_eq_false]
  constructor
  · intro h c hc
    rw [← @List.takeWhile_append_dropWhile _ isJsSpace s.toList, List.mem_append] at hc
    rcases hc with hc | hc
    · exact List.mem_takeWhile_imp hc
    · exact h c hc
  · exact fun h c hc => h c ((List.dropWhile_suffix _).subset hc)

theorem nonBlank_ne_empty {s : String} (h : nonBlank s = true) : s ≠ "" := by
  rintro rfl
  simp [nonBlank_iff] at h

end Vertx
