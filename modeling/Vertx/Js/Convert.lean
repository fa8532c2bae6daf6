import Vertx.Js.Value

/-!
# Conversions

`ToNumber`, which `Math.max` applies to its arguments, `JSON.stringify` with an indentation of two
spaces, and `SameValueZero`, by which `Array.prototype.includes` compares.
-/

namespace Vertx

/-! ## Numbers from strings -/

/-- The value of a digit in a base up to 16. -/
def digitValue (base : ℕ) (c : Char) : Option ℕ :=
  let n :=
    if c.isDigit then c.toNat - '0'.toNat
    else if 'a' ≤ c ∧ c ≤ 'f' then c.toNat - 'a'.toNat + 10
    else if 'A' ≤ c ∧ c ≤ 'F' then c.toNat - 'A'.toNat + 10
    else base
  if n < base then some n else none

/-- The natural number that a list of digits denotes, if it is one. -/
def ofDigits (base : ℕ) : List Char → Option ℕ
  | [] => none
  | cs => cs.foldlM (fun n c => (digitValue base c).map (base * n + ·)) 0

/-- A decimal exponent with its sign. -/
def parseExponent : List Char → Option ℤ
  | '+' :: cs => (ofDigits 10 cs).map (↑)
  | '-' :: cs => (ofDigits 10 cs).map fun n => -(n : ℤ)
  | cs => (ofDigits 10 cs).map (↑)

/-- A decimal number without a sign. -/
def parseDecimal (cs : List Char) : Option ℚ := do
  let mantissa := cs.takeWhile fun c => c ≠ 'e' ∧ c ≠ 'E'
  let exponent ← match cs.drop mantissa.length with
    | [] => some 0
    | _ :: rest => parseExponent rest
  let whole := mantissa.takeWhile (· ≠ '.')
  let fraction := mantissa.drop (whole.length + 1)
  let n ← ofDigits 10 (whole ++ fraction)
  return n * (10 : ℚ) ^ (exponent - fraction.length)

/-- `Number(s)`. -/
def JsNumber.ofString (s : String) : JsNumber :=
  let finiteOr (q : Option ℚ) : JsNumber := (q.map .ofRat).getD .nan
  let radix (base : ℕ) (cs : List Char) : JsNumber := finiteOr ((ofDigits base cs).map (↑))
  match (jsTrim s).toList with
  | [] => .finite 0
  | '0' :: 'x' :: cs | '0' :: 'X' :: cs => radix 16 cs
  | '0' :: 'o' :: cs | '0' :: 'O' :: cs => radix 8 cs
  | '0' :: 'b' :: cs | '0' :: 'B' :: cs => radix 2 cs
  | '+' :: cs => if cs = "Infinity".toList then .posInf else finiteOr (parseDecimal cs)
  | '-' :: cs =>
    if cs = "Infinity".toList then .negInf else finiteOr ((parseDecimal cs).map (-·))
  | cs => if cs = "Infinity".toList then .posInf else finiteOr (parseDecimal cs)

example : JsNumber.ofString " -1.5e1 " = .finite (-15) := by decide +kernel

namespace JsValue

/-- `ToNumber(value)`.  An array or object is converted through its string. -/
def toNumber : JsValue → Except JsError JsNumber
  | undefined => .ok .nan
  | null | bool false => .ok (.finite 0)
  | bool true => .ok (.finite 1)
  | num x => .ok x
  | str s => .ok (JsNumber.ofString s)
  | arr xs => (joinStrs xs).map JsNumber.ofString
  | obj fields => (toStr (obj fields)).map JsNumber.ofString

/-- `SameValueZero`, where an array or object is the same as itself only. -/
def sameValueZero : JsValue → JsValue → Bool
  | arr _, _ | _, arr _ | obj _, _ | _, obj _ => false
  | a, b => a = b

/-! ## JSON text -/

/-- The lower-case hexadecimal digits of `n`, at least `width` of them. -/
def hexPadded (width n : ℕ) : String :=
  let ds := Nat.toDigits 16 n
  String.ofList (List.replicate (width - ds.length) '0' ++ ds)

/-- A character inside a JSON string. -/
def escapeChar (c : Char) : String :=
  match c with
  | '"' => "\\\""
  | '\\' => "\\\\"
  | '\n' => "\\n"
  | '\r' => "\\r"
  | '\t' => "\\t"
  | c =>
    if c.toNat = 8 then "\\b"
    else if c.toNat = 12 then "\\f"
    else if c.toNat < 32 then "\\u" ++ hexPadded 4 c.toNat
    else String.singleton c

/-- A JSON string. -/
def quote (s : String) : String := "\"" ++ String.join (s.toList.map escapeChar) ++ "\""

/-- Lines between brackets, each indented by `n + 2` spaces. -/
def bracketed (n : ℕ) (opening closing : String) (lines : List String) : String :=
  if lines.isEmpty then opening ++ closing
  else
    let pad (k : ℕ) := "\n" ++ String.ofList (List.replicate k ' ')
    opening ++ pad (n + 2) ++ String.intercalate ("," ++ pad (n + 2)) lines ++ pad n ++ closing

mutual

/-- `JSON.stringify(value, null, 2)` of a value nested `n` spaces deep; `undefined` has no text. -/
def pretty (n : ℕ) : JsValue → String
  | undefined | null => "null"
  | bool b => if b then "true" else "false"
  | num x => if x.isFinite then x.toString else "null"
  | str s => quote s
  | arr xs => bracketed n "[" "]" (prettyItems (n + 2) xs)
  | obj fields => bracketed n "\x7b" "\x7d" (prettyFields (n + 2) fields)

def prettyItems (n : ℕ) : List JsValue → List String
  | [] => []
  | x :: xs => pretty n x :: prettyItems n xs

def prettyFields (n : ℕ) : List (String × JsValue) → List String
  | [] => []
  | (k, v) :: rest =>
    if v = undefined then prettyFields n rest
    else (quote k ++ ": " ++ pretty n v) :: prettyFields n rest

end

end JsValue

end Vertx
