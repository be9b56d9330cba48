import CellScript.Pattern.CharSet

/-!
# Patterns

A pattern says which texts it matches and which of several matches it prefers. Matching goes through
the text one character at a time: `Pattern.advance` lists, the preferred first, what is left of a
pattern after the next character, and where the pattern may end before it.

## Main definitions

* `Boundary` — conditions on the place between two characters.
* `Pattern` — patterns.
* `Pattern.advance` — the alternatives of a pattern at a place of a text.
* `Pattern.matchLength?`, `Pattern.find?` — the preferred match at a place, and the first place with
  a match.
* `Pattern.split` — the pieces of a text between the matches.
-/

namespace CellScript

/-- A condition on the characters before and after a place. -/
inductive Boundary where
  | textStart
  | textEnd
  | lineStart
  | lineEnd
  /-- with a carriage return, a line feed or both as the end of a line -/
  | lineStartAny
  | lineEndAny
  /-- between a character of a set and one outside of it -/
  | edge (letters : CharSet)
  | noEdge (letters : CharSet)
  /-- with a character of the set after the place and none before it -/
  | wordStart (letters : CharSet)
  | wordEnd (letters : CharSet)
  /-- with no character of the set before the place -/
  | afterOther (letters : CharSet)
  | beforeOther (letters : CharSet)
  deriving DecidableEq, Inhabited, Repr

/-- Whether a condition holds between two characters; at an end of the text there is none. -/
def Boundary.holds (before after : Option Char) : Boundary → Bool
  | .textStart => before.isNone
  | .textEnd => after.isNone
  | .lineStart => before.isNone || before == some '\n'
  | .lineEnd => after.isNone || after == some '\n'
  | .lineStartAny =>
    before.isNone || before == some '\n' || (before == some '\r' && after != some '\n')
  | .lineEndAny => after.isNone || after == some '\r' || (after == some '\n' && before != some '\r')
  | .edge letters => before.any letters.has != after.any letters.has
  | .noEdge letters => before.any letters.has == after.any letters.has
  | .wordStart letters => !before.any letters.has && after.any letters.has
  | .wordEnd letters => before.any letters.has && !after.any letters.has
  | .afterOther letters => !before.any letters.has
  | .beforeOther letters => !after.any letters.has

/-- A pattern. A greedy repetition prefers more rounds. -/
inductive Pattern where
  | empty
  /-- one character of a set -/
  | set (s : CharSet)
  | boundary (b : Boundary)
  | seq (p q : Pattern)
  /-- either, the first preferred -/
  | alt (p q : Pattern)
  | exactly (n : Nat) (p : Pattern)
  | atMost (n : Nat) (greedy : Bool) (p : Pattern)
  /-- at least one round; an empty first round is the last -/
  | oneOrMore (greedy : Bool) (p : Pattern)
  /-- any number of further rounds, none of them empty -/
  | more (greedy : Bool) (p : Pattern)
  deriving DecidableEq, Inhabited, Repr

namespace Pattern

/-- One pattern and then another. -/
def followedBy : Pattern → Pattern → Pattern
  | empty, q => q
  | p, empty => p
  | p, q => seq p q

/-- Whether a pattern may match the empty text somewhere. -/
def canBeEmpty : Pattern → Bool
  | empty | boundary _ | atMost _ _ _ | more _ _ => true
  | set _ => false
  | seq p q => p.canBeEmpty && q.canBeEmpty
  | alt p q => p.canBeEmpty || q.canBeEmpty
  | exactly n p => n == 0 || p.canBeEmpty
  | oneOrMore _ p => p.canBeEmpty

/-- Any number of rounds. -/
def star (greedy : Bool) (p : Pattern) : Pattern :=
  if p.canBeEmpty then atMost 1 greedy (oneOrMore greedy p) else more greedy p

/-- At least `least` rounds and, if there is a bound, at most `most`. -/
def rounds (least : Nat) (most : Option Nat) (greedy : Bool) (p : Pattern) : Pattern :=
  match least, most with
  | 0, none => p.star greedy
  | least + 1, none => (exactly least p).followedBy (oneOrMore greedy p)
  | least, some most =>
    if most = least then exactly least p
    else (exactly least p).followedBy (atMost (most - least) greedy p)

/-- How many steps a pattern comes to when its repetitions are written out. -/
def weight : Pattern → Nat
  | empty | set _ | boundary _ => 1
  | seq p q | alt p q => p.weight + q.weight
  | exactly n p | atMost n _ p => n * p.weight + 1
  | oneOrMore _ p | more _ p => p.weight + 1

/-! ## Matching -/

/-- An exact number of rounds, given the alternatives of one. -/
def advanceExactly (p : Pattern) (round : List (Option Pattern)) : Nat → List (Option Pattern)
  | 0 => [none]
  | n + 1 =>
    round.flatMap fun
      | none => advanceExactly p round n
      | some r => [some (r.followedBy (exactly n p))]

/-- A bounded number of rounds, given the alternatives of one. -/
def advanceAtMost (greedy : Bool) (p : Pattern) (round : List (Option Pattern)) :
    Nat → List (Option Pattern)
  | 0 => [none]
  | n + 1 =>
    let taken := round.flatMap fun
      | none => advanceAtMost greedy p round n
      | some r => [some (r.followedBy (atMost n greedy p))]
    if greedy then taken ++ [none] else none :: taken

/-- The alternatives of a pattern at a place, the preferred first: `none` where the pattern ends,
otherwise what is left of it after the next character. -/
def advance (before next : Option Char) : Pattern → List (Option Pattern)
  | empty => [none]
  | set s => if next.any s.has then [some empty] else []
  | boundary b => if b.holds before next then [none] else []
  | seq p q =>
    ((p.advance before next).flatMap fun
      | none => q.advance before next
      | some r => [some (r.followedBy q)]).eraseDups
  | alt p q => (p.advance before next ++ q.advance before next).eraseDups
  | exactly n p => (advanceExactly p (p.advance before next) n).eraseDups
  | atMost n greedy p => (advanceAtMost greedy p (p.advance before next) n).eraseDups
  | oneOrMore greedy p =>
    (p.advance before next).map fun
      | none => none
      | some r => some (r.followedBy (more greedy p))
  | more greedy p =>
    let taken := (p.advance before next).filterMap fun
      | none => none
      | some r => some (some (r.followedBy (more greedy p)))
    if greedy then taken ++ [none] else none :: taken

/-- The length of the preferred match of one of several patterns, the preferred first. `passed`
characters lie behind, and `found` is the length of the match so far. -/
def preferred (patterns : List Pattern) (before : Option Char) (passed : Nat) (found : Option Nat) :
    List Char → Option Nat
  | [] =>
    if (patterns.flatMap (advance before none)).contains none then some passed else found
  | c :: rest =>
    let ways := (patterns.flatMap (advance before (some c))).eraseDups
    let found := if ways.contains none then some passed else found
    match (ways.takeWhile Option.isSome).filterMap id with
    | [] => found
    | left => preferred left (some c) (passed + 1) found rest

/-- The length of the preferred match at the start of a text that stands behind a character. -/
def matchLength? (p : Pattern) (before : Option Char) (text : List Char) : Option Nat :=
  preferred [p] before 0 none text

/-- The first match in a text: how far from its start it begins, and its length. -/
def find? (p : Pattern) (before : Option Char) : List Char → Option (Nat × Nat)
  | [] => (p.matchLength? before []).map (0, ·)
  | c :: rest =>
    match p.matchLength? before (c :: rest) with
    | some length => some (0, length)
    | none => (p.find? (some c) rest).map fun (start, length) => (start + 1, length)

/-- Whether a pattern matches somewhere in a text. -/
def occursIn (p : Pattern) (text : String) : Bool :=
  (p.find? none text.toList).isSome

/-- The pieces between matches. `piece` is the beginning of the piece in backward order; an empty
match counts unless `afterMatch` says that another match ends at its place. -/
def pieces (p : Pattern) (before : Option Char) (piece : List Char) (afterMatch : Bool)
    (text : List Char) :
    List (List Char) :=
  match p.find? before text with
  | none => [piece.reverse ++ text]
  | some (start, length) =>
    if start + length = 0 then
      if afterMatch then
        match text with
        | [] => [piece.reverse]
        | c :: rest => p.pieces (some c) (c :: piece) false rest
      else piece.reverse :: p.pieces before [] true text
    else if text.length = 0 then [piece.reverse]
    else
      (piece.reverse ++ text.take start) ::
        p.pieces ((text.take (start + length)).getLast?.or before) [] true
          (text.drop (start + length))
termination_by 2 * text.length + if afterMatch then 0 else 1
decreasing_by
  · simp_all
    omega
  · simp_all
  · rw [List.length_drop]
    simp only [reduceIte]
    omega

/-- The pieces of a text between the matches of a pattern. -/
def split (p : Pattern) (text : String) : List String :=
  (p.pieces none [] false text.toList).map String.ofList

end Pattern

end CellScript
