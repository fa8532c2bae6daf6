import Vertx.Js.Value

/-!
# Dates

`Date.prototype.toISOString` and the wall clock.  A date is a number of milliseconds since the
epoch; `new Date(x)` is invalid beyond `8.64e15` milliseconds and `toISOString` throws on an
invalid date.
-/

namespace Vertx

/-- The last millisecond a date can name, on either side of the epoch. -/
def maxDateMillis : ℤ := 8640000000000000

/-- The milliseconds of `new Date(x)`, or nothing when the date is invalid. -/
def timeClip : JsNumber → Option ℤ
  | .finite q =>
    if |q| ≤ maxDateMillis then some (if 0 ≤ q then ⌊q⌋ else ⌈q⌉) else none
  | _ => none

/-- The proleptic Gregorian date `(year, month, day)` of a number of days since the epoch. -/
def civilFromDays (days : ℤ) : ℤ × ℕ × ℕ :=
  -- Years start on the first of March, so that the leap day is the last one of a year.
  let z := days + 719468
  let era := z / 146097
  let dayOfEra := z % 146097
  let yearOfEra :=
    (dayOfEra - dayOfEra / 1460 + dayOfEra / 36524 - dayOfEra / 146096) / 365
  let dayOfYear := dayOfEra - (365 * yearOfEra + yearOfEra / 4 - yearOfEra / 100)
  let m := (5 * dayOfYear + 2) / 153
  let day := dayOfYear - (153 * m + 2) / 5 + 1
  let month := if m < 10 then m + 3 else m - 9
  let year := yearOfEra + era * 400 + (if month ≤ 2 then 1 else 0)
  (year, month.toNat, day.toNat)

/-- The decimal digits of `n`, padded with zeros to `width`. -/
def padded (width n : ℕ) : String :=
  String.ofList (List.replicate (width - n.repr.length) '0') ++ n.repr

/-- The year of an ISO string: four digits, or a sign and six. -/
def isoYear (y : ℤ) : String :=
  if 0 ≤ y ∧ y ≤ 9999 then padded 4 y.toNat
  else (if y < 0 then "-" else "+") ++ padded 6 y.natAbs

/-- `new Date(ms).toISOString()` for a valid date. -/
def isoOfMillis (ms : ℤ) : String :=
  let (y, m, d) := civilFromDays (ms / 86400000)
  let t := (ms % 86400000).toNat
  isoYear y ++ "-" ++ padded 2 m ++ "-" ++ padded 2 d ++ "T" ++ padded 2 (t / 3600000) ++ ":" ++
    padded 2 (t / 60000 % 60) ++ ":" ++ padded 2 (t / 1000 % 60) ++ "." ++ padded 3 (t % 1000) ++
      "Z"

example : isoOfMillis 1700000000000 = "2023-11-14T22:13:20.000Z" := by decide +kernel

/-- `new Date(x).toISOString()`. -/
def toISOString (x : JsNumber) : Except JsError String :=
  match timeClip x with
  | some ms => .ok (isoOfMillis ms)
  | none => .error .rangeError

/-- A number that is finite and beyond the range of dates. -/
def JsValue.outOfRange : JsValue → Bool
  | .num (.finite q) => maxDateMillis < |q|
  | _ => false

/-- A finite number has an ISO string when it is within the range of dates. -/
theorem toISOString_isOk (q : ℚ) :
    (toISOString (.finite q)).toOption.isSome = !(JsValue.num (.finite q)).outOfRange := by
  rw [toISOString, timeClip, JsValue.outOfRange]
  by_cases h : |q| ≤ maxDateMillis
  · rw [if_pos h, decide_eq_false (not_lt.2 h)]
    rfl
  · rw [if_neg h, decide_eq_true (not_le.1 h)]
    rfl

/-- The wall clock during one synchronous call: its successive readings in milliseconds. -/
abbrev Clock := ℕ → ℤ

/-- `new Date().toISOString()` at the `k`-th reading of the clock. -/
def isoNow (clock : Clock) (k : ℕ) : String := isoOfMillis (clock k)

end Vertx
