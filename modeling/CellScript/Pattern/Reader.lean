import CellScript.Pattern.Basic
import CellScript.Json.Reader

/-!
# Reading patterns

The text form of patterns: alternatives separated by `|`, repetitions `*`, `+`, `?` and `{n,m}`,
groups with switches, sets in brackets with nesting and set operations, and escapes.

## Main definitions

* `Switches` — what a group may switch on and off.
* `readSet?` — a set in brackets.
* `Pattern.compile?` — the pattern of a text, when it is well formed.
-/

namespace CellScript

namespace Pattern

/-- What a group may switch on and off. -/
structure Switches where
  ignoreCase : Bool
  /-- `^` and `$` also match at lines -/
  multiLine : Bool
  /-- `.` also matches a line end -/
  dotAll : Bool
  /-- repetitions are greedy only with `?` -/
  swapGreed : Bool
  /-- classes have the characters of all scripts -/
  allScripts : Bool
  /-- a carriage return is a line end too -/
  anyLineEnd : Bool
  /-- blanks and comments are left out -/
  verbose : Bool
  deriving DecidableEq, Inhabited, Repr

def Switches.standard : Switches :=
  ⟨false, false, false, false, true, false, false⟩

/-- Turn the switch of a letter on or off. -/
def Switches.turn? (s : Switches) (letter : Char) (on : Bool) : Option Switches :=
  match letter with
  | 'i' => some { s with ignoreCase := on }
  | 'm' => some { s with multiLine := on }
  | 's' => some { s with dotAll := on }
  | 'U' => some { s with swapGreed := on }
  | 'u' => some { s with allScripts := on }
  | 'R' => some { s with anyLineEnd := on }
  | 'x' => some { s with verbose := on }
  | _ => none

/-! ## Blanks, numbers and escapes -/

/-- The text after the blanks and comments at its start. -/
def skipComments : Bool → List Char → List Char
  | _, [] => []
  | true, c :: rest => skipComments (c ≠ '\n') rest
  | false, c :: rest =>
    if Text.isBlank c then skipComments false rest
    else if c = '#' then skipComments true rest
    else c :: rest

/-- The text after what the verbose form leaves out. -/
def skip (s : Switches) (text : List Char) : List Char :=
  if s.verbose then skipComments false text else text

/-- A number with blanks around it. -/
def readCount? (text : List Char) : Option (Nat × List Char) :=
  let text := text.dropWhile Text.isBlank
  let digits := text.takeWhile Char.isDigit
  let number := digits.foldl (fun n c => n * 10 + (c.toNat - 48)) 0
  if digits.isEmpty || 4294967295 < number then none
  else some (number, (text.dropWhile Char.isDigit).dropWhile Text.isBlank)

def hexValue? (digits : List Char) : Option Nat :=
  digits.foldlM (fun n c => (CellScript.Json.hexValue? c).map (n * 16 + ·)) 0

/-- The character of a code point. -/
def charOf? (code : Nat) : Option Char :=
  if h : code.isValidChar then some (Char.ofNatAux code h) else none

/-- The character that `width` hexadecimal digits, or any number of them in braces, stand for. -/
def readHex? (width : Nat) (text : List Char) : Option (Char × List Char) :=
  match text with
  | '\x7b' :: rest =>
    let digits := rest.takeWhile (· ≠ '\x7d')
    if digits.isEmpty || rest.length = digits.length then none
    else do return (← charOf? (← hexValue? digits), rest.drop (digits.length + 1))
  | text =>
    if text.length < width then none
    else do return (← charOf? (← hexValue? (text.take width)), text.drop width)

/-- What an escape stands for. -/
inductive Escape where
  | char (c : Char)
  | set (s : CharSet)
  | boundary (b : Boundary)

/-- The words that stand for the sets of the short escapes. -/
def shortSet? (s : Switches) : Char → Option CharSet
  | 'd' => some (if s.allScripts then .digit else .asciiDigit)
  | 's' => some (if s.allScripts then .blank else .asciiBlank)
  | 'w' => some (if s.allScripts then .word else .asciiWord)
  | _ => none

/-- All cases of the characters of a set, when case is ignored. -/
def foldSet (s : Switches) (chars : CharSet) : CharSet :=
  if s.ignoreCase then .folded chars else chars

/-- The complement of a set; without all scripts it would hold parts of characters. -/
def negateSet? (s : Switches) (chars : CharSet) : Option CharSet :=
  if s.allScripts then some (.compl chars) else none

/-- The property after `\p`: a letter, or a name in braces, perhaps behind `^` or the kind of the
property. -/
def readProperty? (s : Switches) (negated : Bool) (text : List Char) :
    Option (Escape × List Char) :=
  let plain (name : List Char) : String :=
    String.ofList ((name.filter fun c => c ≠ ' ' && c ≠ '_' && c ≠ '-').map Char.toLower)
  let finish (negated : Bool) (name : List Char) (rest : List Char) : Option
    (Escape × List Char) := do
    let value := match plain (name.takeWhile (· ≠ '=')), name.dropWhile (· ≠ '=') with
      | "gc", '=' :: value | "generalcategory", '=' :: value => value
      | _, _ => name
    let chars := foldSet s (← CharSet.ofProperty? (plain value))
    return (.set (if negated then .compl chars else chars), rest)
  if !s.allScripts then none
  else
    match text with
    | '\x7b' :: rest =>
      let name := rest.takeWhile (· ≠ '\x7d')
      let after := rest.drop (name.length + 1)
      if rest.length = name.length then none
      else
        match name with
        | '^' :: name => finish (!negated) name after
        | name => finish negated name after
    | c :: rest => finish negated [c] rest
    | [] => none

/-- The boundary after `\b`, perhaps named in braces. -/
def readEdge (letters : CharSet) (text : List Char) : Escape × List Char :=
  let name := String.ofList (text.takeWhile (· ≠ '\x7d'))
  let after := text.drop (name.length + 1)
  match name with
  | "\x7bstart" => (.boundary (.wordStart letters), after)
  | "\x7bend" => (.boundary (.wordEnd letters), after)
  | "\x7bstart-half" => (.boundary (.afterOther letters), after)
  | "\x7bend-half" => (.boundary (.beforeOther letters), after)
  | _ => (.boundary (.edge letters), text)

/-- Whether the name of a boundary is begun and is none, which makes the pattern ill formed. -/
def badEdgeName (text : List Char) : Bool :=
  match text with
  | '\x7b' :: c :: rest =>
    (c.isAlpha || c = '-') &&
      !(["start", "end", "start-half", "end-half"].any
        fun name => (name.toList ++ ['\x7d']).isPrefixOf (c :: rest))
  | ['\x7b'] => true
  | _ => false

/-- An escape, behind its backslash. -/
def readEscape? (s : Switches) : List Char → Option (Escape × List Char)
  | [] => none
  | c :: rest =>
    let letters := if s.allScripts then CharSet.word else .asciiWord
    match c with
    | 'd' | 's' | 'w' => (shortSet? s c).map fun chars => (.set chars, rest)
    | 'D' | 'S' | 'W' => do return (.set (← negateSet? s (← shortSet? s c.toLower)), rest)
    | 'p' => readProperty? s false rest
    | 'P' => readProperty? s true rest
    | 'x' => do
      let (c, rest) ← readHex? 2 rest
      return (.char c, rest)
    | 'u' => do
      let (c, rest) ← readHex? 4 rest
      return (.char c, rest)
    | 'U' => do
      let (c, rest) ← readHex? 8 rest
      return (.char c, rest)
    | 'a' => some (.char (Char.ofNat 7), rest)
    | 'f' => some (.char (Char.ofNat 12), rest)
    | 't' => some (.char '\t', rest)
    | 'n' => some (.char '\n', rest)
    | 'r' => some (.char '\r', rest)
    | 'v' => some (.char (Char.ofNat 11), rest)
    | 'A' => some (.boundary .textStart, rest)
    | 'z' => some (.boundary .textEnd, rest)
    | 'b' => if badEdgeName rest then none else some (readEdge letters rest)
    | 'B' => some (.boundary (.noEdge letters), rest)
    | '<' => some (.boundary (.wordStart letters), rest)
    | '>' => some (.boundary (.wordEnd letters), rest)
    | c => if c.toNat < 128 && !c.isAlphanum then some (.char c, rest) else none

/-! ## Sets in brackets -/

/-- An item of a set: a character, which may begin a range, or a set. -/
def readItem? (s : Switches) : List Char → Option ((Char ⊕ CharSet) × List Char)
  | [] => none
  | '\\' :: rest =>
    match readEscape? s rest with
    | some (.char c, rest) => some (.inl c, rest)
    | some (.set chars, rest) => some (.inr chars, rest)
    | _ => none
  | c :: rest => some (.inl c, rest)

/-- A character, a range or an escaped set. -/
def readRange? (s : Switches) (text : List Char) : Option (CharSet × List Char) := do
  let (first, rest) ← readItem? s text
  let rest := skip s rest
  let alone : CharSet := match first with
    | .inl c => .single c
    | .inr chars => chars
  match rest with
  | [] => none
  | '-' :: after =>
    match skip s after with
    | ']' :: _ | '-' :: _ => return (alone, rest)
    | after => do
      let (last, rest) ← readItem? s after
      match first, last with
      | .inl first, .inl last => if first ≤ last then return (.range first last, rest) else none
      | _, _ => none
  | _ => return (alone, rest)

/-- A named set such as `[:alpha:]`, behind its bracket. -/
def readNamed? (text : List Char) : Option (CharSet × List Char) :=
  match text with
  | ':' :: rest =>
    let (negated, rest) := match rest with
      | '^' :: rest => (true, rest)
      | rest => (false, rest)
    let name := rest.takeWhile (· ≠ ':')
    match rest.drop name.length with
    | ':' :: ']' :: after =>
      (CharSet.ofAsciiName? (String.ofList name)).map fun chars =>
        (if negated then .compl chars else chars, after)
    | _ => none
  | _ => none

/-- How two sets are put together. -/
inductive SetOperator where
  | inter
  | diff
  | symmDiff

def SetOperator.apply : SetOperator → CharSet → CharSet → CharSet
  | .inter => .inter
  | .diff => .diff
  | .symmDiff => .symmDiff

/-- The hyphens at the start of a set, which stand for themselves. -/
def leadingHyphens (s : Switches) : List Char → Nat → CharSet × List Char
  | text, 0 => (.none, text)
  | text, n + 1 =>
    match text with
    | '-' :: rest => (.single '-', (leadingHyphens s (skip s rest) n).2)
    | text => (.none, text)

mutual

/-- The rest of a set. `items` are the items since the last operator, `left` what stands before
it. -/
def readItems? (s : Switches) : Nat → Option (CharSet × SetOperator) → CharSet → List Char →
    Option (CharSet × List Char)
  | 0, _, _, _ => none
  | n + 1, left, items, text =>
    let joined := match left with
      | some (chars, op) => op.apply (foldSet s chars) (foldSet s items)
      | none => items
    match skip s text with
    | [] => none
    | ']' :: rest => some (joined, rest)
    | '&' :: '&' :: rest => readItems? s n (some (joined, .inter)) .none rest
    | '-' :: '-' :: rest => readItems? s n (some (joined, .diff)) .none rest
    | '~' :: '~' :: rest => readItems? s n (some (joined, .symmDiff)) .none rest
    | '[' :: rest =>
      match readNamed? rest with
      | some (chars, rest) => readItems? s n left (.union items chars) rest
      | none => do
        let (chars, rest) ← readSet? s n rest
        readItems? s n left (.union items chars) rest
    | text => do
      let (chars, rest) ← readRange? s text
      readItems? s n left (.union items chars) rest

/-- A set, behind its bracket. -/
def readSet? (s : Switches) : Nat → List Char → Option (CharSet × List Char)
  | 0, _ => none
  | n + 1, text => do
    let (negated, text) := match skip s text with
      | '^' :: rest => (true, skip s rest)
      | text => (false, text)
    let (hyphens, text) := leadingHyphens s text text.length
    let (start, text) := match hyphens, text with
      | .none, ']' :: rest => (CharSet.single ']', rest)
      | hyphens, text => (hyphens, text)
    let (chars, rest) ← readItems? s n none start text
    let chars := foldSet s chars
    if negated then return (← negateSet? s chars, rest) else return (chars, rest)

end

/-! ## Groups -/

/-- What is known while a pattern is read: the switches and the names of groups. -/
structure Progress where
  switches : Switches
  names : List String

/-- The switches of a group up to `:` or `)`. `seen` are the letters so far, `on` is false behind a
hyphen. -/
def readSwitches? (s : Switches) (on : Bool) (seen : List Char) :
    List Char → Option (Switches × List Char × List Char)
  | [] => none
  | c :: rest =>
    if c = ':' || c = ')' then
      if seen.head? = some '-' then none else some (s, seen, c :: rest)
    else if seen.contains c then none
    else if c = '-' then readSwitches? s false (c :: seen) rest
    else do readSwitches? (← s.turn? c on) on (c :: seen) rest

/-- Whether a character may stand in the name of a group. -/
def isNameCharacter (first : Bool) (c : Char) : Bool :=
  c = '_' || Text.isWordCharacter c && (!first || !Text.isDecimalDigit c) ||
    (!first && (c = '.' || c = '[' || c = ']'))

/-- The name of a group up to `>`. -/
def readGroupName? (names : List String) (text : List Char) : Option (String × List Char) :=
  let name := text.takeWhile (· ≠ '>')
  if name.isEmpty || name.length = text.length then none
  else if !(name.take 1).all (isNameCharacter true) || !name.all (isNameCharacter false) then none
  else if names.contains (String.ofList name) then none
  else some (String.ofList name, text.drop (name.length + 1))

/-- How a group begins. -/
inductive Opening where
  /-- a group with its own switches -/
  | group (p : Progress)
  /-- switches for the rest of the group around it -/
  | switches (s : Switches)

/-- The beginning of a group, behind its parenthesis. -/
def readOpening? (p : Progress) (text : List Char) : Option (Opening × List Char) :=
  match skip p.switches text with
  | '?' :: '=' :: _ | '?' :: '!' :: _ | '?' :: '<' :: '=' :: _ | '?' :: '<' :: '!' :: _ => none
  | '?' :: 'P' :: '<' :: rest | '?' :: '<' :: rest => do
    let (name, rest) ← readGroupName? p.names rest
    return (.group { p with names := name :: p.names }, rest)
  | '?' :: rest =>
    match readSwitches? p.switches true [] rest with
    | some (s, seen, ')' :: rest) => if seen.isEmpty then none else some (.switches s, rest)
    | some (s, _, ':' :: rest) => some (.group { p with switches := s }, rest)
    | _ => none
  | text => some (.group p, text)

/-! ## Patterns -/

/-- The pattern of a single character. -/
def literal (s : Switches) (c : Char) : Pattern :=
  .set (foldSet s (.single c))

/-- What `.` stands for. -/
def dot? (s : Switches) : Option CharSet :=
  negateSet? s (if s.dotAll then .none
    else if s.anyLineEnd then .union (.single '\r') (.single '\n') else .single '\n')

def startBoundary (s : Switches) : Boundary :=
  if !s.multiLine then .textStart else if s.anyLineEnd then .lineStartAny else .lineStart

def endBoundary (s : Switches) : Boundary :=
  if !s.multiLine then .textEnd else if s.anyLineEnd then .lineEndAny else .lineEnd

/-- The bounds of a repetition in braces, behind the opening one. -/
def readBounds? (text : List Char) : Option (Nat × Option Nat × List Char) := do
  let (least, rest) ← readCount? text
  match rest with
  | '\x7d' :: rest => return (least, some least, rest)
  | ',' :: '\x7d' :: rest => return (least, none, rest)
  | ',' :: rest =>
    match ← readCount? rest with
    | (most, '\x7d' :: rest) => if least ≤ most then return (least, some most, rest) else none
    | _ => none
  | _ => none

/-- The bounds of a repetition and the text after it; nothing where no repetition begins. An ill
formed one is `some none`. -/
def readRepetition (s : Switches) : List Char → Option (Option (Nat × Option Nat × List Char))
  | '*' :: rest => some (some (0, none, rest))
  | '+' :: rest => some (some (1, none, rest))
  | '?' :: rest => some (some (0, some 1, rest))
  | '\x7b' :: rest =>
    some ((readBounds? (skip s rest)).map fun (least, most, rest) => (least, most, skip s rest))
  | _ => none

/-- A `?` behind a repetition makes it prefer fewer rounds. -/
def readGreed (s : Switches) : List Char → Bool × List Char
  | '?' :: rest => (s.swapGreed, rest)
  | rest => (!s.swapGreed, rest)

/-- The largest weight that a pattern may have. -/
def weightLimit : Nat := 327680

mutual

/-- Alternatives up to `)` or the end. -/
def readAlternatives? : Nat → Progress → List Char → Option (Pattern × Progress × List Char)
  | 0, _, _ => none
  | n + 1, p, text => do
    let (first, p, rest) ← readSequence? n p .empty none text
    match rest with
    | '|' :: rest => do
      let (others, p, rest) ← readAlternatives? n p rest
      return (.alt first others, p, rest)
    | rest => return (first, p, rest)

/-- A sequence up to `|`, `)` or the end. `last` is the part that a repetition would repeat. -/
def readSequence? : Nat → Progress → Pattern → Option Pattern → List Char →
    Option (Pattern × Progress × List Char)
  | 0, _, _, _, _ => none
  | n + 1, p, done, last, text =>
    let s := p.switches
    let text := skip s text
    match text with
    | [] | '|' :: _ | ')' :: _ => some (done.followedBy (last.getD .empty), p, text)
    | c :: rest =>
      match readRepetition s text with
      | some none => none
      | some (some (least, most, rest)) =>
        match last with
        | none => none
        | some last =>
          let (greedy, rest) := readGreed s rest
          let repeated := rounds least most greedy last
          if weightLimit < repeated.weight then none
          else readSequence? n p done (some repeated) rest
      | none =>
        let done := done.followedBy (last.getD .empty)
        let go (part : Pattern) (rest : List Char) := readSequence? n p done (some part) rest
        match c with
        | '(' =>
          match readOpening? p rest with
          | some (.switches switches, rest) => readSequence? n { p with switches } done none rest
          | some (.group inner, rest) =>
            match readAlternatives? n inner rest with
            | some (part, inner, ')' :: rest) =>
              readSequence? n { inner with switches := s } done (some part) rest
            | _ => none
          | none => none
        | '[' => do
          let (chars, rest) ← readSet? s n rest
          go (.set chars) rest
        | '.' => do go (.set (← dot? s)) rest
        | '^' => go (.boundary (startBoundary s)) rest
        | '$' => go (.boundary (endBoundary s)) rest
        | '\\' =>
          match readEscape? s rest with
          | some (.char c, rest) => go (literal s c) rest
          | some (.set chars, rest) => go (.set chars) rest
          | some (.boundary b, rest) => go (.boundary b) rest
          | none => none
        | c => go (literal s c) rest

end

/-- The pattern of a text. -/
def compile? (source : String) : Option Pattern :=
  let text := source.toList
  match readAlternatives? (2 * text.length + 2) ⟨.standard, []⟩ text with
  | some (p, _, []) => if weightLimit < p.weight then none else some p
  | _ => none

end Pattern

end CellScript
