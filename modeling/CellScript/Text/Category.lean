import CellScript.Text.Category.Table

/-!
# Classes of characters

`Category.ofChar` finds the category of a character by halving the table of runs. The character
classes that text handling needs are stated in terms of it, and so are trimming and splitting at
white space and at line ends.

## Main definitions

* `Category.ofChar` — the category of a character.
* `isBlank`, `isDecimalDigit`, `isWordCharacter`, `isPrintable` — classes of characters.
* `isCased`, `isCaseIgnorable`, `extendsGrapheme` — classes that case mapping and quoting consult.
* `trim`, `trimStart` — the text without the white space around it.
* `words` — the maximal runs of other characters.
* `lines` — the lines of a text, a carriage return before a line feed belonging to the line end.
-/

namespace CellScript.Text

namespace Category

/-- The index of the last run among `lo`, …, `hi - 1` that starts at or before `code`; `lo` if none
does. -/
def lastRun (table : Array Run) (code lo hi : Nat) : Nat :=
  if hi ≤ lo + 1 then lo
  else
    let mid := (lo + hi) / 2
    if (table.getD mid ⟨0, .cx⟩).start ≤ code then lastRun table code mid hi
    else lastRun table code lo mid
termination_by hi - lo

/-- The category of a character. -/
def ofChar (c : Char) : Category :=
  (runs.getD (lastRun runs c.toNat 0 runs.size) ⟨0, .cx⟩).category

end Category

/-- Whether `code` lies in one of the closed ranges. -/
def inRanges (ranges : List (Nat × Nat)) (c : Char) : Bool :=
  ranges.any fun r => r.1 ≤ c.toNat && c.toNat ≤ r.2

/-- White space: the characters that trimming removes and that separate words. -/
def isBlank (c : Char) : Bool :=
  inRanges [(0x9, 0xd), (0x20, 0x20), (0x85, 0x85), (0xa0, 0xa0), (0x1680, 0x1680),
    (0x2000, 0x200a), (0x2028, 0x2029), (0x202f, 0x202f), (0x205f, 0x205f), (0x3000, 0x3000)] c

/-- A digit of some decimal script. -/
def isDecimalDigit (c : Char) : Bool :=
  Category.ofChar c = .nd

/-- Letters, marks, digits, connectors, the circled letters and the two joiners. -/
def isWordCharacter (c : Char) : Bool :=
  match Category.ofChar c with
  | .lc | .lm | .lo | .mn | .me | .mc | .nd | .nl | .pc => true
  | _ => inRanges [(0x200c, 0x200d), (0x24b6, 0x24e9), (0x1f130, 0x1f149), (0x1f150, 0x1f169),
      (0x1f170, 0x1f189)] c

/-- Characters that quoted text shows as they are: no control, no separator other than the plain
space. -/
def isPrintable (c : Char) : Bool :=
  match Category.ofChar c with
  | .zs => c = ' '
  | .cf | .cx => false
  | _ => true

/-- Characters that attach to the one before: marks, and a few spacing marks and letters like
them. -/
def extendsGrapheme (c : Char) : Bool :=
  match Category.ofChar c with
  | .mn | .me => true
  | _ => inRanges [(0x9be, 0x9be), (0x9d7, 0x9d7), (0xb3e, 0xb3e), (0xb57, 0xb57), (0xbbe, 0xbbe),
      (0xbd7, 0xbd7), (0xcc2, 0xcc2), (0xcd5, 0xcd6), (0xd3e, 0xd3e), (0xd57, 0xd57),
      (0xdcf, 0xdcf), (0xddf, 0xddf), (0x1b35, 0x1b35), (0x200c, 0x200c), (0x302e, 0x302f),
      (0xff9e, 0xff9f), (0x1133e, 0x1133e), (0x11357, 0x11357), (0x114b0, 0x114b0),
      (0x114bd, 0x114bd), (0x115af, 0x115af), (0x11930, 0x11930), (0x1d165, 0x1d165),
      (0x1d16e, 0x1d172), (0xe0020, 0xe007f)] c

/-- Letters with case, and the modifiers, numerals and symbols drawn as cased letters. -/
def isCased (c : Char) : Bool :=
  Category.ofChar c = .lc ||
    inRanges [(0xaa, 0xaa), (0xba, 0xba), (0x2b0, 0x2b8), (0x2c0, 0x2c1), (0x2e0, 0x2e4),
      (0x345, 0x345), (0x37a, 0x37a), (0x10fc, 0x10fc), (0x1d2c, 0x1d6a), (0x1d78, 0x1d78),
      (0x1d9b, 0x1dbf), (0x2071, 0x2071), (0x207f, 0x207f), (0x2090, 0x209c), (0x2160, 0x217f),
      (0x24b6, 0x24e9), (0x2c7c, 0x2c7d), (0xa69c, 0xa69d), (0xa770, 0xa770), (0xa7f2, 0xa7f4),
      (0xa7f8, 0xa7f9), (0xab5c, 0xab5f), (0xab69, 0xab69), (0x10780, 0x10780), (0x10783, 0x10785),
      (0x10787, 0x107b0), (0x107b2, 0x107ba), (0x1e030, 0x1e06d), (0x1f130, 0x1f149),
      (0x1f150, 0x1f169), (0x1f170, 0x1f189)] c

/-- Characters that case mapping looks past: marks, modifiers, format controls and inner
punctuation. -/
def isCaseIgnorable (c : Char) : Bool :=
  match Category.ofChar c with
  | .mn | .me | .cf | .lm | .sk => true
  | _ =>
    inRanges [(0x27, 0x27), (0x2e, 0x2e), (0x3a, 0x3a), (0xb7, 0xb7), (0x387, 0x387),
      (0x55f, 0x55f),
      (0x5f4, 0x5f4), (0x2018, 0x2019), (0x2024, 0x2024), (0x2027, 0x2027), (0xfe13, 0xfe13),
      (0xfe52, 0xfe52), (0xfe55, 0xfe55), (0xff07, 0xff07), (0xff0e, 0xff0e), (0xff1a, 0xff1a)] c

/-! ## Blanks, words and lines -/

/-- The text without its leading white space. -/
def trimStart (s : String) : String :=
  String.ofList (s.toList.dropWhile isBlank)

/-- A list without the trailing elements that satisfy `p`. -/
def dropTrailing {α : Type} (p : α → Bool) (xs : List α) : List α :=
  (xs.reverse.dropWhile p).reverse

/-- The text without the white space at either end. -/
def trim (s : String) : String :=
  String.ofList (dropTrailing isBlank (s.toList.dropWhile isBlank))

/-- The pieces of a list between the elements that satisfy `p`, empty ones included. -/
def pieces {α : Type} (p : α → Bool) : List α → List (List α)
  | [] => [[]]
  | x :: xs =>
    match pieces p xs with
    | [] => [[x]]
    | piece :: rest => if p x then [] :: piece :: rest else (x :: piece) :: rest

/-- The words of a text: the maximal runs of characters that are not white space. -/
def words (s : String) : List String :=
  ((pieces isBlank s.toList).filter (!·.isEmpty)).map String.ofList

/-- A line without the carriage return that belongs to its end. -/
def dropReturn (line : List Char) : List Char :=
  if line.getLast? = some '\r' then line.dropLast else line

/-- The lines of a text. A text that ends in a line feed has no empty line after it. -/
def lines (s : String) : List String :=
  let parts := pieces (· = '\n') s.toList
  let ended := parts.dropLast.map dropReturn
  let last := parts.getLastD []
  (if last.isEmpty then ended else ended ++ [last]).map String.ofList

end CellScript.Text
