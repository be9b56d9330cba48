/-!
# Searching text

A text is searched for another one, or is compared with a pattern: there `*` stands for any run of
characters, `?` for exactly one, and any other character for itself. The matcher goes back to the
last star only: once a later star is reached, an earlier one is never tried at another place.

## Main definitions

* `position?` — where a text first occurs in another.
* `holds` — whether it does.
* `Wildcard.attempt` — match from one place on, without moving the last star.
* `Wildcard.fits` — whether a pattern fits a whole text.
-/

namespace CellScript.Text

/-- The number of characters before the first occurrence of `needle`. -/
def positionIn? (needle : List Char) : List Char → Option Nat
  | [] => if needle.isEmpty then some 0 else none
  | c :: rest =>
    if needle.isPrefixOf (c :: rest) then some 0
    else (positionIn? needle rest).map (· + 1)

/-- The number of characters before the first occurrence of `needle` in a text. -/
def position? (needle text : String) : Option Nat :=
  positionIn? needle.toList text.toList

/-- Whether `needle` occurs in a text. -/
def holds (needle text : String) : Bool :=
  (position? needle text).isSome

/-- The text `n` times over. -/
def repeated (text : String) (n : Nat) : String :=
  String.join (List.replicate n text)

/-! ## Patterns -/

namespace Wildcard

/-- How an attempt to match from one place ends. -/
inductive Attempt where
  /-- the rest of the text fits -/
  | fits
  /-- it does not, and the last star may be tried further on -/
  | differs
  /-- it does not, wherever the last star is tried -/
  | hopeless
  deriving DecidableEq, Repr

mutual

/-- Match the whole of a text against a pattern. -/
def attempt (pattern text : List Char) : Attempt :=
  match pattern, text with
  | pattern, [] => if pattern.all (· = '*') then .fits else .hopeless
  | '*' :: pattern, text => seek pattern text
  | [], _ :: _ => .differs
  | p :: pattern, t :: text => if p = '?' || p = t then attempt pattern text else .differs
termination_by (pattern.length, 0, text.length)

/-- Match the pattern after a star, which takes one character more after each attempt that
differs. -/
def seek (pattern text : List Char) : Attempt :=
  match attempt pattern text with
  | .differs =>
    match text with
    | [] => .hopeless
    | _ :: text => seek pattern text
  | ended => ended
termination_by (pattern.length, 1, text.length)

end

/-- Whether the pattern fits the whole text. -/
def fits (pattern text : String) : Bool :=
  attempt pattern.toList text.toList = .fits

end Wildcard

end CellScript.Text
