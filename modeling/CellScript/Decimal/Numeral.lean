import CellScript.Text.Category

/-!
# Numerals

Reading numbers from text: signed and unsigned integers of a fixed range, and decimal fractions with
an exponent. A numeral has to fill the whole text; blanks are not skipped here.

## Main definitions

* `readNat?`, `readInt?` — plain integers.
* `Numeral` — a decimal fraction as it is written, and its value as a float.
* `readFloat?` — a fraction, or one of the names of infinity and not-a-number.
-/

namespace CellScript.Decimal

/-- The number that a list of decimal digits denotes, read onto `start`. -/
def ofDigits (start : Nat) (digits : List Char) : Nat :=
  digits.foldl (fun n c => 10 * n + (c.toNat - '0'.toNat)) start

/-- An unsigned integer: digits, with an optional plus sign. -/
def readNat? (cs : List Char) : Option Nat :=
  let digits := match cs with
    | '+' :: rest => rest
    | _ => cs
  if digits.isEmpty || !digits.all Char.isDigit then none else some (ofDigits 0 digits)

/-- A signed integer: digits, with an optional sign. -/
def readInt? (cs : List Char) : Option Int :=
  match cs with
  | '-' :: rest => if rest.head? = some '+' then none else (readNat? rest).map fun n => -(n : Int)
  | _ => (readNat? cs).map Int.ofNat

/-- An unsigned integer below `2 ^ bits`. -/
def readUnsigned? (bits : Nat) (s : String) : Option Nat :=
  (readNat? s.toList).filter (· < Nat.pow 2 bits)

/-- A signed integer of `bits` bits. -/
def readSigned? (bits : Nat) (s : String) : Option Int :=
  (readInt? s.toList).filter fun n => -(Int.pow 2 (bits - 1)) ≤ n && n < Int.pow 2 (bits - 1)

/-- A 64-bit integer. -/
def readInt64? (s : String) : Option Int64 :=
  (readSigned? 64 s).map Int64.ofInt

/-- A decimal fraction as written: the digits as one number, how many of them follow the point, and
the exponent. -/
structure Numeral where
  digits : Nat
  places : Nat
  exponent : Int
  deriving Repr

namespace Numeral

/-- The power of ten that the digits are multiplied by. -/
def scale (n : Numeral) : Int :=
  n.exponent - n.places

/-- The nearest float. A number beyond every float's range is decided by its size alone, so that no
power of ten of that size is formed. -/
def toFloat (n : Numeral) : Float :=
  let size := ((Nat.toDigits 10 n.digits).length : Int) + n.scale
  if n.digits = 0 then 0.0
  else if 310 < size then 1.0 / 0.0
  else if size < -400 then 0.0
  else if 0 ≤ n.scale then Float.ofScientific (n.digits * Nat.pow 10 n.scale.toNat) false 0
  else Float.ofScientific n.digits true (-n.scale).toNat

end Numeral

/-- The exponent of a fraction: nothing, or `e`, an optional sign and digits. -/
def readExponent? : List Char → Option Int
  | [] => some 0
  | c :: rest => if c = 'e' || c = 'E' then readInt? rest else none

/-- An unsigned fraction: digits with an optional point among, before or after them, and an optional
exponent. -/
def readNumeral? (cs : List Char) : Option Numeral :=
  let whole := cs.takeWhile Char.isDigit
  let afterWhole := cs.dropWhile Char.isDigit
  let pointed := match afterWhole with
    | '.' :: rest => (rest.takeWhile Char.isDigit, rest.dropWhile Char.isDigit)
    | _ => ([], afterWhole)
  if whole.isEmpty && pointed.1.isEmpty then none
  else
    (readExponent? pointed.2).map fun exponent =>
      ⟨ofDigits 0 (whole ++ pointed.1), pointed.1.length, exponent⟩

/-- A fraction without its sign, or a name of infinity or not-a-number in any case. -/
def readMagnitude? (cs : List Char) : Option Float :=
  let name := String.ofList (cs.map Char.toLower)
  if name = "inf" || name = "infinity" then some (1.0 / 0.0)
  else if name = "nan" then some (0.0 / 0.0)
  else (readNumeral? cs).map Numeral.toFloat

/-- A float with an optional sign. -/
def readFloat? (s : String) : Option Float :=
  match s.toList with
  | '-' :: rest => (readMagnitude? rest).map fun x => -x
  | '+' :: rest => readMagnitude? rest
  | cs => readMagnitude? cs

/-- The integer that a text denotes: a numeral, the whole part of a fraction, or zero. -/
def intOfText (s : String) : Int64 :=
  let t := Text.trim s
  match readInt64? t with
  | some n => n
  | none => ((readFloat? t).map Float.toInt64).getD 0

/-- The float that a text denotes, zero if it is no numeral. -/
def floatOfText (s : String) : Float :=
  (readFloat? (Text.trim s)).getD 0.0

end CellScript.Decimal
