import CellScript.Json.Basic

/-!
# Reading JSON

A reader for JSON texts over the list of their characters. It accepts exactly one value with blanks
around it.

## Main definitions

* `Json.read?` — the document that a text holds.
-/

namespace CellScript.Json

/-- The text without leading blanks. -/
def skipBlanks (cs : List Char) : List Char :=
  cs.dropWhile fun c => c = ' ' || c = '\n' || c = '\t' || c = '\r'

/-- The value of a hexadecimal digit. -/
def hexValue? (c : Char) : Option Nat :=
  if c.isDigit then some (c.toNat - '0'.toNat)
  else if 'a' ≤ c && c ≤ 'f' then some (c.toNat - 'a'.toNat + 10)
  else if 'A' ≤ c && c ≤ 'F' then some (c.toNat - 'A'.toNat + 10)
  else none

/-- Four hexadecimal digits and what follows them. -/
def readHex4? : List Char → Option (Nat × List Char)
  | a :: b :: c :: d :: rest => do
    let a ← hexValue? a
    let b ← hexValue? b
    let c ← hexValue? c
    let d ← hexValue? d
    some (((a * 16 + b) * 16 + c) * 16 + d, rest)
  | _ => none

/-- One piece of a string: a character or a 16-bit unit written as an escape. -/
inductive Piece where
  | char (c : Char)
  | unit (n : Nat)

/-- The character that a short escape stands for. -/
def shortEscape? : Char → Option Char
  | '"' => some '"'
  | '\\' => some '\\'
  | '/' => some '/'
  | 'b' => some '\x08'
  | 'f' => some '\x0c'
  | 'n' => some '\n'
  | 'r' => some '\r'
  | 't' => some '\t'
  | _ => none

/-- The pieces of a string up to its closing quote, and what follows it. -/
def readPieces? : Nat → List Char → Option (List Piece × List Char)
  | 0, _ => none
  | _, [] => none
  | _ + 1, '"' :: rest => some ([], rest)
  | fuel + 1, '\\' :: 'u' :: rest => do
    let (n, rest) ← readHex4? rest
    let (pieces, rest) ← readPieces? fuel rest
    some (.unit n :: pieces, rest)
  | fuel + 1, '\\' :: c :: rest => do
    let c ← shortEscape? c
    let (pieces, rest) ← readPieces? fuel rest
    some (.char c :: pieces, rest)
  | fuel + 1, c :: rest =>
    if c.toNat < 0x20 then none
    else do
      let (pieces, rest) ← readPieces? fuel rest
      some (.char c :: pieces, rest)

/-- The text that pieces stand for: two units that form a surrogate pair are one character, and half
of a pair alone is none. -/
def joinPieces? : List Piece → Option (List Char)
  | [] => some []
  | .char c :: rest => (joinPieces? rest).map (c :: ·)
  | .unit n :: rest =>
    if 0xd800 ≤ n && n < 0xdc00 then
      match rest with
      | .unit m :: rest =>
        if 0xdc00 ≤ m && m < 0xe000 then
          (joinPieces? rest).map (Char.ofNat (0x10000 + (n - 0xd800) * 0x400 + (m - 0xdc00)) :: ·)
        else none
      | _ => none
    else if 0xdc00 ≤ n && n < 0xe000 then none
    else (joinPieces? rest).map (Char.ofNat n :: ·)

/-- The end of a number after its whole part: an optional fraction and an optional exponent. -/
def readNumberTail? (cs : List Char) : Option (List Char × List Char) :=
  let fraction := match cs with
    | '.' :: rest =>
      let digits := rest.takeWhile Char.isDigit
      if digits.isEmpty then none else some ('.' :: digits, rest.dropWhile Char.isDigit)
    | _ => some ([], cs)
  fraction.bind fun (fraction, rest) =>
    match rest with
    | e :: rest' =>
      if e = 'e' || e = 'E' then
        let sign := rest'.takeWhile fun c => c = '+' || c = '-'
        let after := rest'.drop sign.length
        let digits := after.takeWhile Char.isDigit
        if 1 < sign.length || digits.isEmpty then none
        else some (fraction ++ e :: (sign ++ digits), after.dropWhile Char.isDigit)
      else some (fraction, rest)
    | [] => some (fraction, [])

/-- A number, kept as written. No digit follows a leading zero. -/
def readNumber? (cs : List Char) : Option (String × List Char) :=
  let sign := if cs.head? = some '-' then ['-'] else []
  let cs := cs.drop sign.length
  let whole := match cs with
    | '0' :: _ => ['0']
    | _ => cs.takeWhile Char.isDigit
  let rest := cs.drop whole.length
  if whole.isEmpty || (rest.head?.any Char.isDigit) then none
  else (readNumberTail? rest).map fun (tail, rest) => (String.ofList (sign ++ whole ++ tail), rest)

/-- What follows a word that the text has to start with. -/
def expect? (word : String) (cs : List Char) : Option (List Char) :=
  if word.toList.isPrefixOf cs then some (cs.drop word.length) else none

mutual

/-- A value and what follows it. Every call consumes fuel, and none needs more than the text is
long. -/
def readValue? : Nat → List Char → Option (Json × List Char)
  | 0, _ => none
  | fuel + 1, cs =>
    match skipBlanks cs with
    | '[' :: rest =>
      match skipBlanks rest with
      | ']' :: rest => some (.array [], rest)
      | rest => (readItems? fuel rest).map fun (items, rest) => (.array items, rest)
    | '{' :: rest =>
      match skipBlanks rest with
      | '}' :: rest => some (.object [], rest)
      | rest => (readFields? fuel rest).map fun (fields, rest) => (.object fields, rest)
    | '"' :: rest =>
      (readPieces? (rest.length + 1) rest).map fun (pieces, rest) =>
        (match joinPieces? pieces with
          | some s => .string (String.ofList s)
          | none => .brokenString, rest)
    | 'n' :: rest => (expect? "ull" rest).map (.null, ·)
    | 't' :: rest => (expect? "rue" rest).map (.bool true, ·)
    | 'f' :: rest => (expect? "alse" rest).map (.bool false, ·)
    | cs => (readNumber? cs).map fun (text, rest) => (.number text, rest)

/-- The items of an array up to its end. -/
def readItems? : Nat → List Char → Option (List Json × List Char)
  | 0, _ => none
  | fuel + 1, cs => do
    let (item, rest) ← readValue? fuel cs
    match skipBlanks rest with
    | ']' :: rest => some ([item], rest)
    | ',' :: rest =>
      let (items, rest) ← readItems? fuel rest
      some (item :: items, rest)
    | _ => none

/-- The fields of an object up to its end. -/
def readFields? : Nat → List Char → Option (List (String × Json) × List Char)
  | 0, _ => none
  | fuel + 1, cs => do
    let '"' :: rest := skipBlanks cs | none
    let (pieces, rest) ← readPieces? (rest.length + 1) rest
    let ':' :: rest := skipBlanks rest | none
    let name ← joinPieces? pieces
    let (value, rest) ← readValue? fuel rest
    let field := (String.ofList name, value)
    match skipBlanks rest with
    | '}' :: rest => some ([field], rest)
    | ',' :: rest =>
      let (fields, rest) ← readFields? fuel rest
      some (field :: fields, rest)
    | _ => none

end

/-- The document that a text holds. -/
def read? (text : String) : Option Json :=
  let cs := text.toList
  match readValue? (2 * cs.length + 2) cs with
  | some (value, rest) => if (skipBlanks rest).isEmpty then some value else none
  | none => none

end CellScript.Json
