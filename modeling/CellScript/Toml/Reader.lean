import CellScript.Decimal.Numeral
import CellScript.Json.Reader
import CellScript.Text.Category
import CellScript.Toml.Basic

/-!
# Reading TOML

A reader for configuration texts over the list of their characters. Numbers, booleans, dates and
times are cut out as one token first and told apart afterwards.

## Main definitions

* `Toml.Scan` — readers that take what they read off the front of a text.
* `Toml.tokenValue?` — the value that a token denotes.
* `Toml.read?` — the table that a text holds.
-/

namespace CellScript.Toml

/-- A reader takes what it reads off the front of the text. -/
abbrev Scan := StateT (List Char) Option

namespace Scan

def next : Scan Char
  | [] => none
  | c :: rest => some (c, rest)

/-- The longest run of characters with a property. -/
def run (p : Char → Bool) : Scan (List Char) :=
  fun cs => some (cs.takeWhile p, cs.dropWhile p)

/-- Whether the text goes on with a word, which is then read. -/
def accept (word : String) : Scan Bool :=
  fun cs => some (if word.toList.isPrefixOf cs then (true, cs.drop word.length) else (false, cs))

def expect (word : String) : Scan Unit := do
  guard (← accept word)

def blanks : Scan Unit := do
  discard (run fun c => c = ' ' || c = '\t')

/-- Whether the line ends here; the line end is then read. -/
def newline : Scan Bool := do
  if ← accept "\n" then return true
  accept "\r\n"

/-- Whether a character may stand in a comment or in a quoted text as it is. -/
def isPlain (c : Char) : Bool :=
  c = '\t' || (' ' ≤ c && c ≠ '\x7f')

/-- A comment, if there is one. -/
def comment : Scan Unit := do
  if ← accept "#" then discard (run isPlain)

/-- The rest of a line without content, and the line end or the end of the text. -/
def lineEnd : Scan Unit := do
  blanks
  comment
  guard ((← newline) || (← get).isEmpty)

/-- Blanks, line ends and comments. -/
def gap : Nat → Scan Unit
  | 0 => return ()
  | fuel + 1 => do
    blanks
    if (← get).head? = some '#' then
      comment
      guard (← newline)
      gap fuel
    else if ← newline then gap fuel

/-! ## Quoted text -/

/-- A character written as hexadecimal digits. -/
def codePoint (count : Nat) : Scan Char := do
  let digits ← StateT.lift (((← get).take count).mapM Json.hexValue?)
  let n := digits.foldl (16 * · + ·) 0
  guard (digits.length = count && n.isValidChar)
  modify (·.drop count)
  return Char.ofNat n

/-- The character of an escape after its backslash. -/
def escape : Scan Char := do
  match ← next with
  | 'b' => return '\x08'
  | 't' => return '\t'
  | 'n' => return '\n'
  | 'f' => return '\x0c'
  | 'r' => return '\r'
  | '"' => return '"'
  | '\\' => return '\\'
  | 'u' => codePoint 4
  | 'U' => codePoint 8
  | _ => failure

/-- The rest of a text between double quotes. -/
def basicText : Nat → Scan (List Char)
  | 0 => failure
  | fuel + 1 => do
    match ← next with
    | '"' => return []
    | '\\' => return (← escape) :: (← basicText fuel)
    | c =>
      guard (isPlain c)
      return c :: (← basicText fuel)

/-- The rest of a text between single quotes. -/
def literalText : Scan (List Char) := do
  let text ← run fun c => isPlain c && c ≠ '\''
  expect "'"
  return text

/-- The end of a text between triple quotes, with one or two further quotes before it. -/
def longEnd (quote : Char) : Scan (Option (List Char)) := do
  let quotes := (← get).takeWhile (· = quote)
  if quotes.length < 3 then return none
  let count := min 5 quotes.length
  modify (·.drop count)
  return some (List.replicate (count - 3) quote)

/-- The text after its leading blanks and line ends. -/
def afterGap : List Char → List Char
  | ' ' :: rest => afterGap rest
  | '\t' :: rest => afterGap rest
  | '\n' :: rest => afterGap rest
  | '\r' :: '\n' :: rest => afterGap rest
  | cs => cs

/-- Whether a backslash ends the line here, which then goes on after the blanks and line ends that
follow. -/
def continuation : Scan Bool := do
  let before ← get
  if ← accept "\\" then
    blanks
    if ← newline then
      modify afterGap
      return true
  set before
  return false

/-- The rest of a text between triple quotes. Only double quotes know escapes. -/
def longText (quote : Char) : Nat → Scan (List Char)
  | 0 => failure
  | fuel + 1 => do
    if let some quotes ← longEnd quote then return quotes
    if ← newline then return '\n' :: (← longText quote fuel)
    if quote = '"' then
      if ← continuation then return ← longText quote fuel
      if ← accept "\\" then return (← escape) :: (← longText quote fuel)
    let c ← next
    guard (isPlain c)
    return c :: (← longText quote fuel)

/-- A text between quotes, if one starts here. -/
def shortQuoted? : Scan (Option String) := do
  if ← accept "\"" then return some (String.ofList (← basicText ((← get).length + 1)))
  if ← accept "'" then return some (String.ofList (← literalText))
  return none

/-- A text between quotes or triple quotes, if one starts here. A line end right after triple quotes
does not belong to it. -/
def quoted? : Scan (Option String) := do
  for quote in ['"', '\''] do
    if ← accept (String.ofList [quote, quote, quote]) then
      discard newline
      return some (String.ofList (← longText quote ((← get).length + 1)))
  shortQuoted?

/-! ## Keys -/

def isBare (c : Char) : Bool :=
  c.isAlphanum || c = '_' || c = '-'

def simpleKey : Scan String := do
  match ← shortQuoted? with
  | some key => return key
  | none =>
    let key ← run isBare
    guard (!key.isEmpty)
    return String.ofList key

/-- A key with dots, and the blanks around its parts: the path and the last part. -/
def key : Nat → Scan (List String × String)
  | 0 => failure
  | fuel + 1 => do
    blanks
    let first ← simpleKey
    blanks
    if ← accept "." then
      let (path, last) ← key fuel
      return (first :: path, last)
    return ([], first)

end Scan

/-! ## Tokens -/

/-- Digits of a kind with single underscores between them, without these. -/
def ungroup? (p : Char → Bool) (cs : List Char) : Option (List Char) :=
  let groups := Text.pieces (· = '_') cs
  if groups.all fun group => !group.isEmpty && group.all p then some groups.flatten else none

/-- The sign of a token, and what follows it. -/
def splitSign : List Char → Bool × List Char
  | '-' :: rest => (true, rest)
  | '+' :: rest => (false, rest)
  | cs => (false, cs)

/-- A decimal number without leading zeros. -/
def wholeDigits? (cs : List Char) : Option (List Char) :=
  (ungroup? Char.isDigit cs).filter fun digits => digits.length = 1 || digits.head? ≠ some '0'

/-- Digits of a base that is a power of two. -/
def baseDigits? (base : Nat) (cs : List Char) : Option Nat := do
  let digits ← ungroup? (fun c => (Json.hexValue? c).any (· < base)) cs
  return (← digits.mapM Json.hexValue?).foldl (base * · + ·) 0

def integer? (cs : List Char) : Option Int :=
  let value := match cs with
    | '0' :: 'x' :: digits => (baseDigits? 16 digits).map Int.ofNat
    | '0' :: 'o' :: digits => (baseDigits? 8 digits).map Int.ofNat
    | '0' :: 'b' :: digits => (baseDigits? 2 digits).map Int.ofNat
    | _ =>
      let (negative, cs) := splitSign cs
      (wholeDigits? cs).map fun digits =>
        let n : Int := Decimal.ofDigits 0 digits
        if negative then -n else n
  value.filter fun n => -(Int.pow 2 63) ≤ n && n < Int.pow 2 63

/-- An exponent with its mark, or nothing. -/
def exponent? (cs : List Char) : Option (List Char) :=
  match cs with
  | [] => some []
  | e :: rest =>
    if e = 'e' || e = 'E' then
      let (negative, digits) := splitSign rest
      (ungroup? Char.isDigit digits).map fun digits =>
        'e' :: (if negative then '-' :: digits else digits)
    else none

/-- A number with a fraction, an exponent or both, or one of the names of infinity and not-a-number.
A number beyond the largest one is refused. -/
def float? (cs : List Char) : Option Float := do
  let (negative, cs) := splitSign cs
  let sign (x : Float) := if negative then -x else x
  if cs = ['i', 'n', 'f'] then return sign (1 / 0)
  if cs = ['n', 'a', 'n'] then return sign (0 / 0)
  let isWhole (c : Char) := c.isDigit || c = '_'
  let whole ← wholeDigits? (cs.takeWhile isWhole)
  let text ← match cs.dropWhile isWhole with
    | [] => none
    | '.' :: rest => do
      let fraction ← ungroup? Char.isDigit (rest.takeWhile isWhole)
      pure (whole ++ '.' :: fraction ++ (← exponent? (rest.dropWhile isWhole)))
    | rest => (exponent? rest).map (whole ++ ·)
  let x ← Decimal.readFloat? (String.ofList text)
  if x.isFinite || negative then some (sign x) else none

/-- A number of a fixed count of digits within bounds, and what follows it. -/
def digits? (count low high : Nat) (cs : List Char) : Option (Nat × List Char) :=
  let digits := cs.take count
  let n := Decimal.ofDigits 0 digits
  if digits.length = count && digits.all Char.isDigit && low ≤ n &&
    n ≤ high then some (n, cs.drop count) else none

/-- What follows a character that a token has to go on with. -/
def after? (c : Char) : List Char → Option (List Char)
  | [] => none
  | d :: rest => if d = c then some rest else none

def daysOfMonth (year month : Nat) : Nat :=
  if month = 2 then if year % 4 = 0 && (year % 100 ≠ 0 || year % 400 = 0) then 29 else 28
  else if month ∈ [4, 6, 9, 11] then 30 else 31

/-- What follows a date. -/
def afterDate? (cs : List Char) : Option (List Char) := do
  let (year, cs) ← digits? 4 0 9999 cs
  let (month, cs) ← digits? 2 1 12 (← after? '-' cs)
  let (_, cs) ← digits? 2 1 (daysOfMonth year month) (← after? '-' cs)
  return cs

/-- What follows a time of the day. -/
def afterTime? (cs : List Char) : Option (List Char) := do
  let (_, cs) ← digits? 2 0 23 cs
  let (_, cs) ← digits? 2 0 59 (← after? ':' cs)
  let (_, cs) ← digits? 2 0 60 (← after? ':' cs)
  match cs with
  | '.' :: rest =>
    if (rest.head?.any Char.isDigit) then some (rest.dropWhile Char.isDigit) else none
  | _ => some cs

/-- Whether a token ends with nothing or with an offset of a time zone. -/
def isOffset : List Char → Bool
  | [] => true
  | ['Z'] => true
  | ['z'] => true
  | sign :: rest =>
    (sign = '+' || sign = '-') &&
      (do
        let (_, rest) ← digits? 2 0 23 rest
        let (_, rest) ← digits? 2 0 59 (← after? ':' rest)
        guard rest.isEmpty : Option Unit).isSome

/-- Whether a token is a date, a time or both. -/
def isMoment (cs : List Char) : Bool :=
  match afterDate? cs with
  | some [] => true
  | some (mark :: rest) => mark ∈ ['T', 't', ' '] && (afterTime? rest).any isOffset
  | none => (afterTime? cs).any (·.isEmpty)

/-- The value that a token denotes. -/
def tokenValue? (cs : List Char) : Option Toml :=
  if cs = ['t', 'r', 'u', 'e'] then some (.boolean true)
  else if cs = ['f', 'a', 'l', 's', 'e'] then some (.boolean false)
  else if isMoment cs then some .moment
  else ((integer? cs).map .integer).or ((float? cs).map .float)

namespace Scan

def isToken (c : Char) : Bool :=
  c.isAlphanum || c ∈ ['+', '-', '.', ':', '_']

/-- A token. A date and a time with a blank between them are one. -/
def token : Scan (List Char) := do
  let first ← run isToken
  match afterDate? first, ← get with
  | some [], ' ' :: rest =>
    if rest.head?.any Char.isDigit then
      set rest
      return first ++ ' ' :: (← run isToken)
    return first
  | _, _ => return first

/-! ## Values and lines -/

mutual

/-- A value that opens at most `room` lists and tables inside one another. Every call uses up fuel,
and none needs more than the text is long. -/
def value (room : Nat) : Nat → Scan Toml
  | 0 => failure
  | fuel + 1 => do
    match ← quoted? with
    | some s => return .text s
    | none =>
      if ← accept "[" then
        guard (0 < room)
        gap (fuel + 1)
        return .list (← items (room - 1) fuel)
      else if ← accept "\x7b" then
        guard (0 < room)
        blanks
        if ← accept "\x7d" then return .table .inline []
        ofPairs? (← pairs (room - 1) fuel)
      else tokenValue? (← token)

/-- The items of a list up to its end. -/
def items (room : Nat) : Nat → Scan (List Toml)
  | 0 => failure
  | fuel + 1 => do
    if ← accept "]" then return []
    let item ← value room fuel
    gap (fuel + 1)
    if ← accept "," then
      gap (fuel + 1)
      return item :: (← items room fuel)
    expect "]"
    return [item]

/-- The entries between braces up to the closing one. -/
def pairs (room : Nat) : Nat → Scan (List (List String × String × Toml))
  | 0 => failure
  | fuel + 1 => do
    let (path, last) ← key (fuel + 1)
    expect "="
    blanks
    let pair := (path, last, ← value room fuel)
    blanks
    if ← accept "," then return pair :: (← pairs room fuel)
    expect "\x7d"
    return [pair]

end

/-- The content of a line that has any. -/
def line (fuel : Nat) : Scan Line := do
  let read : Scan Line := do
    if ← accept "[[" then
      let (path, last) ← key fuel
      expect "]]"
      return .element path last
    if ← accept "[" then
      let (path, last) ← key fuel
      expect "]"
      return .header path last
    let (path, last) ← key fuel
    expect "="
    blanks
    return .entry path last (← value 80 fuel)
  let line ← read
  lineEnd
  return line

/-- The lines up to the end of the text. -/
def lines : Nat → Scan (List Line)
  | 0 => failure
  | fuel + 1 => do
    blanks
    match (← get).head? with
    | none => return []
    | some c =>
      if c = '#' || c = '\n' || c = '\r' then
        lineEnd
        lines fuel
      else
        let line ← line (fuel + 1)
        return line :: (← lines fuel)

end Scan

/-- The table that a text holds. -/
def read? (text : String) : Option Toml :=
  let cs := text.toList
  let cs := if cs.head? = some '\ufeff' then cs.tail else cs
  ((Scan.lines (2 * cs.length + 2)).run' cs).bind ofLines?

end CellScript.Toml
