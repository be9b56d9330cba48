import CellScript.Decimal.Numeral

/-!
# JSON documents

A document keeps its numbers as they are written and its objects as lists of fields in order,
repeated ones included, so that a reader of a particular format can decide what to make of them.

## Main definitions

* `Json` — documents.
* `Json.integer?`, `Json.float?` — what a number stands for.
-/

namespace CellScript

/-- A JSON document. -/
inductive Json where
  | null
  | bool (b : Bool)
  /-- a number as written -/
  | number (text : String)
  | string (s : String)
  /-- a string that names half of a surrogate pair, and so stands for no text -/
  | brokenString
  | array (items : List Json)
  | object (fields : List (String × Json))
  deriving Inhabited

namespace Json

/-- The parts of a written number: its sign, and the digits of its whole part, fraction and
exponent. -/
structure NumberParts where
  negative : Bool
  whole : List Char
  fraction : Option (List Char)
  exponent : Option (List Char)

/-- Take a number apart. The text is assumed to be a number of the JSON grammar. -/
def NumberParts.ofText (text : String) : NumberParts :=
  let cs := text.toList
  let negative := cs.head? = some '-'
  let cs := if negative then cs.drop 1 else cs
  let whole := cs.takeWhile Char.isDigit
  let rest := cs.dropWhile Char.isDigit
  let (fraction, rest) := match rest with
    | '.' :: rest => (some (rest.takeWhile Char.isDigit), rest.dropWhile Char.isDigit)
    | _ => (none, rest)
  ⟨negative, whole, fraction, match rest with
    | _ :: exponent => some exponent
    | [] => none⟩

/-- The integer that a number stands for: one written without fraction and exponent, not a negative
zero, and no larger than 64 bits hold with or without a sign. -/
def integer? (text : String) : Option Int :=
  let parts := NumberParts.ofText text
  if parts.fraction.isSome || parts.exponent.isSome then none
  else
    let n := Decimal.ofDigits 0 parts.whole
    if parts.negative then if n = 0 || Int.pow 2 63 < n then none else some (-n)
    else if n < Int.pow 2 64 then some n else none

/-- Digits read as long as they fit 64 bits: the number read, how many digits were read, and how
many were left out. -/
def significand (start : Nat) (digits : List Char) : Nat × Nat × Nat :=
  match digits with
  | [] => (start, 0, 0)
  | c :: rest =>
    let next := Decimal.ofDigits start [c]
    if Nat.pow 2 64 ≤ next then (start, 0, digits.length)
    else
      let (n, taken, skipped) := significand next rest
      (n, taken + 1, skipped)

/-- The nearest float to a power of ten that has one. -/
def powerOfTen (n : Nat) : Float :=
  Float.ofScientific (Nat.pow 10 n) false 0

/-- Scale `x` by a power of ten in one multiplication or division; below the range of powers, by
several divisions. The answer is none if the result is too large. -/
def scale : Nat → Float → Int → Option Float
  | 0, x, _ => some x
  | fuel + 1, x, exponent =>
    if exponent.natAbs ≤ 308 then
      let power := powerOfTen exponent.natAbs
      if 0 ≤ exponent then
        let y := x * power
        if y.isInf then none else some y
      else some (x / power)
    else if x == 0.0 then some x
    else if 0 ≤ exponent then none
    else scale fuel (x / powerOfTen 308) (exponent + 308)

/-- The float that a number stands for. The first nineteen or so digits are taken as an integer,
which is rounded and then scaled, so that the result of a long number may differ from the nearest
float in its last place. -/
def float? (text : String) : Option Float :=
  match integer? text with
  | some n => some (Float.ofInt n)
  | none =>
    let parts := NumberParts.ofText text
    let (n, _, skipped) := significand 0 parts.whole
    let (n, taken, _) := significand n (parts.fraction.getD [])
    let start : Int := skipped - taken
    let sign (x : Float) : Float := if parts.negative then -x else x
    let written := parts.exponent.getD ['0']
    let falls := written.head? = some '-'
    let size := Decimal.ofDigits 0 (written.filter Char.isDigit)
    if Nat.pow 2 31 ≤ size then if n ≠ 0 && !falls then none else some (sign 0.0)
    else (scale 10 (Float.ofNat n) (if falls then start - size else start + size)).map sign

end Json

end CellScript
