/-!
# Writing floats

The shortest decimal that reads back as a given float is found in exact integer arithmetic. A float
is taken apart into `mantissa * 2 ^ exponent`. The decimals that round to it fill an interval around
it; its ends belong to the interval when the mantissa is even. For one digit, two digits and so on,
the two neighbours of the value on the grid of that many digits are tried, and the first grid with a
neighbour in the interval gives the digits.

The shortest decimal of a float is laid out positionally or with an exponent, as a `Style` lays
down. Three styles are in use: for values shown to a script, for program listings and for program
images.

## Main definitions

* `Binary` — a positive float taken apart, and `Binary.ofFloat?`.
* `Shortest` — digits and a power of ten, and `Binary.shortest`.
* `Style`, `Style.write` — a layout of floats and the text it gives.
* `plain`, `listing`, `image` — the styles in use.
* `valueText` — a float as a value of a script shows it.
* `fixed` — a float with a number of decimal places, exact halves rounded to an even digit.
-/

namespace CellScript.Decimal

/-! ## Shortest decimals -/

/-- The number `mantissa * 2 ^ exponent`. `narrow` tells that the next smaller float is only half as
far away as the next larger one. -/
structure Binary where
  mantissa : Nat
  exponent : Int
  narrow : Bool
  deriving Repr

namespace Binary

/-- The magnitude of a finite float other than zero. -/
def ofFloat? (x : Float) : Option Binary :=
  let bits := x.toBits.toNat
  let fraction : Nat := bits % Nat.pow 2 52
  let scale : Nat := bits / Nat.pow 2 52 % Nat.pow 2 11
  if scale = Nat.pow 2 11 - 1 then none
  else if scale = 0 then
    if fraction = 0 then none else some ⟨fraction, -1074, false⟩
  else some ⟨Nat.pow 2 52 + fraction, (scale : Int) - 1075, fraction = 0 && 1 < scale⟩

/-- A quarter of the distance to the next larger float, as numerator over denominator. -/
def quarter (b : Binary) : Nat × Nat :=
  let e := b.exponent - 2
  (Nat.pow 2 e.toNat, Nat.pow 2 (-e).toNat)

end Binary

/-- The number `digits * 10 ^ exponent`. -/
structure Shortest where
  digits : Nat
  exponent : Int
  deriving Repr, DecidableEq

/-- The interval of numbers that round to one float: `low` and `high` over `den`, around `value`
over `den`. -/
structure Rounding where
  low : Nat
  value : Nat
  high : Nat
  den : Nat
  closed : Bool

namespace Rounding

/-- The interval of a float. -/
def ofBinary (b : Binary) : Rounding :=
  let (num, den) := b.quarter
  ⟨(4 * b.mantissa - if b.narrow then 1 else 2) * num, 4 * b.mantissa * num,
    (4 * b.mantissa + 2) * num, den, b.mantissa % 2 = 0⟩

/-- Whether `digits * 10 ^ exponent` rounds to the float. -/
def holds (r : Rounding) (s : Shortest) : Bool :=
  let up := Nat.pow 10 (-s.exponent).toNat
  let here := s.digits * Nat.pow 10 s.exponent.toNat * r.den
  if r.closed then r.low * up ≤ here && here ≤ r.high * up
  else r.low * up < here && here < r.high * up

/-- How many decimal places the value has before its point; not positive for a value below one
tenth. The search for a small value looks at most `fuel` places behind the point. -/
def magnitude (r : Rounding) : Int :=
  if r.den ≤ r.value then (Nat.toDigits 10 (r.value / r.den)).length
  else behind 400 r.value 0
where
  behind : Nat → Nat → Nat → Int
    | 0, _, places => -places
    | fuel + 1, num, places =>
      if r.den ≤ 10 * num then -places else behind fuel (10 * num) (places + 1)

/-- The nearest neighbour of the value with a last digit at `10 ^ exponent` that rounds to the
float, the larger one if both are as near. -/
def neighbour? (r : Rounding) (exponent : Int) : Option Shortest :=
  let num := r.value * Nat.pow 10 (-exponent).toNat
  let den := r.den * Nat.pow 10 exponent.toNat
  let below : Shortest := ⟨num / den, exponent⟩
  let above : Shortest := ⟨num / den + 1, exponent⟩
  match r.holds below, r.holds above with
  | true, true => if 2 * (num % den) < den then some below else some above
  | true, false => some below
  | false, true => some above
  | false, false => none

/-- Try grids of `count` more and more digits, the last one with `count + fuel` digits. -/
def search (r : Rounding) (magnitude : Int) : Nat → Nat → Option Shortest
  | 0, _ => none
  | fuel + 1, count =>
    match r.neighbour? (magnitude - count) with
    | some s => some s
    | none => search r magnitude fuel (count + 1)

end Rounding

/-- Without the zeros at the end of the digits. -/
def Shortest.trimmed (s : Shortest) : Shortest :=
  strip 20 s
where
  strip : Nat → Shortest → Shortest
    | 0, s => s
    | fuel + 1, s =>
      if s.digits % 10 = 0 && s.digits ≠ 0 then strip fuel ⟨s.digits / 10, s.exponent + 1⟩ else s

/-- The shortest decimal that reads back as the float. Seventeen digits are always enough. -/
def Binary.shortest (b : Binary) : Shortest :=
  let r := Rounding.ofBinary b
  ((r.search r.magnitude 17 1).getD ⟨b.mantissa, 0⟩).trimmed

/-! ## Layout -/

/-- How floats are written. A float is positional when its point stands after at least `least` and
at most `most` digits (counted from the first digit that is not zero, negative counts meaning zeros
after the point). -/
structure Style where
  least : Option Int
  most : Option Int
  /-- an integral float ends in `.0` -/
  keepsFraction : Bool
  /-- an exponent always carries a sign and has at least two digits -/
  widensExponent : Bool
  infinity : String
  notNumber : String

namespace Style

/-- The digits `ds` with the point after the first `point` of them. -/
def positional (style : Style) (ds : List Char) (point : Int) : String :=
  if ds.length ≤ point then
    String.ofList (ds ++ List.replicate (point - ds.length).toNat '0') ++
      if style.keepsFraction then ".0" else ""
  else if 0 < point then
    String.ofList (ds.take point.toNat) ++ "." ++ String.ofList (ds.drop point.toNat)
  else "0." ++ String.ofList (List.replicate (-point).toNat '0' ++ ds)

/-- The text of an exponent. -/
def exponentText (style : Style) (e : Int) : String :=
  let digits := Nat.toDigits 10 e.natAbs
  let sign := if e < 0 then "-" else if style.widensExponent then "+" else ""
  let zero := if style.widensExponent && digits.length < 2 then "0" else ""
  sign ++ zero ++ String.ofList digits

/-- One digit before the point and the exponent after the digits. -/
def scientific (style : Style) (ds : List Char) (point : Int) : String :=
  let fraction := String.ofList (ds.drop 1)
  String.ofList (ds.take 1) ++ (if fraction.isEmpty then "" else "." ++ fraction) ++ "e" ++
    style.exponentText (point - 1)

/-- A positive finite number. -/
def writeShortest (style : Style) (s : Shortest) : String :=
  let ds := Nat.toDigits 10 s.digits
  let point := ds.length + s.exponent
  if style.least.all (· ≤ point) && style.most.all (point ≤ ·) then style.positional ds point
  else style.scientific ds point

/-- The text of a float. Zero is positional and keeps its sign. -/
def write (style : Style) (x : Float) : String :=
  if x.isNaN then style.notNumber
  else
    let sign := if 0x8000000000000000 ≤ x.toBits then "-" else ""
    if x.isInf then sign ++ style.infinity
    else
      match Binary.ofFloat? x with
      | none => sign ++ style.positional ['0'] 1
      | some b => sign ++ style.writeShortest b.shortest

end Style

/-- Never an exponent, never a point without need. -/
def plain : Style := ⟨none, none, false, false, "inf", "NaN"⟩

/-- Program listings: an exponent below `1e-4` and from `1e16` on. -/
def listing : Style := ⟨some (-3), some 16, true, false, "inf", "NaN"⟩

/-- Program images: a widened exponent below `1e-5` and from `1e16` on, and no number for what is
not finite. -/
def image : Style := ⟨some (-4), some 16, true, true, "null", "null"⟩

/-- A float as a script shows it: an integral one below `1e15` keeps one decimal place, so that it
differs from an integer; any other is plain. -/
def valueText (x : Float) : String :=
  if x == x.floor && x.abs < 1e15 then { plain with keepsFraction := true }.write x
  else plain.write x

/-! ## Fixed places -/

/-- The quotient of `n` by `d`, rounded to the nearest integer, a half to the even one. -/
def roundHalfEven (n d : Nat) : Nat :=
  let q := n / d
  let r := n % d
  if 2 * r < d then q else if d < 2 * r then q + 1 else q + q % 2

/-- Digits with a point before the last `places` of them. -/
def pointed (places n : Nat) : String :=
  let ds := Nat.toDigits 10 n
  let ds := List.replicate (places + 1 - ds.length) '0' ++ ds
  let whole := String.ofList (ds.take (ds.length - places))
  if places = 0 then whole else whole ++ "." ++ String.ofList (ds.drop (ds.length - places))

/-- A finite float with `places` decimal places. -/
def fixed (places : Nat) (x : Float) : String :=
  let sign := if 0x8000000000000000 ≤ x.toBits then "-" else ""
  match Binary.ofFloat? x with
  | none => sign ++ pointed places 0
  | some b =>
    let n := b.mantissa * Nat.pow 10 places
    let scaled :=
      if 0 ≤ b.exponent then n * Nat.pow 2 b.exponent.toNat
      else roundHalfEven n (Nat.pow 2 (-b.exponent).toNat)
    sign ++ pointed places scaled

end CellScript.Decimal
