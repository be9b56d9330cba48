import CellScript.Text.Case

/-!
# Sets of characters

## Main definitions

* `CharSet` — sets of characters, as expressions.
* `CharSet.has` — membership.
* `CharSet.ofProperty?`, `CharSet.ofAsciiName?` — sets by the name of a property.
-/

namespace CellScript

/-- A set of characters. -/
inductive CharSet where
  | none
  | range (first last : Char)
  /-- the digits of all decimal scripts -/
  | digit
  /-- white space -/
  | blank
  /-- letters, marks, digits and connectors -/
  | word
  | category (c : Text.Category)
  /-- letters with case that have a small form -/
  | capital
  | union (a b : CharSet)
  | inter (a b : CharSet)
  | compl (a : CharSet)
  /-- all cases of the characters of a set -/
  | folded (a : CharSet)
  deriving DecidableEq, Inhabited, Repr

namespace CharSet

/-- Membership. -/
def has : CharSet → Char → Bool
  | none, _ => false
  | range first last, c => first ≤ c && c ≤ last
  | digit, c => Text.isDecimalDigit c
  | blank, c => Text.isBlank c
  | word, c => Text.isWordCharacter c
  | category k, c => Text.Category.ofChar c = k
  | capital, c => Text.Category.ofChar c = .lc && Text.lowerChar c ≠ [c]
  | union a b, c => a.has c || b.has c
  | inter a b, c => a.has c && b.has c
  | compl a, c => !a.has c
  | folded a, c => a.has c || (Text.caseMates c).any a.has

def single (c : Char) : CharSet :=
  range c c

def all : CharSet :=
  compl none

def unions (sets : List CharSet) : CharSet :=
  sets.foldl union none

def diff (a b : CharSet) : CharSet :=
  inter a (compl b)

/-- The characters of exactly one of two sets. -/
def symmDiff (a b : CharSet) : CharSet :=
  union (diff a b) (diff b a)

def asciiDigit : CharSet :=
  range '0' '9'

def asciiLetter : CharSet :=
  union (range 'a' 'z') (range 'A' 'Z')

def asciiWord : CharSet :=
  unions [asciiLetter, asciiDigit, single '_']

/-- Tab, line feed, vertical tab, form feed, carriage return and space. -/
def asciiBlank : CharSet :=
  union (range '\t' '\r') (single ' ')

/-- The named sets of ASCII characters. -/
def ofAsciiName? : String → Option CharSet
  | "alnum" => some (union asciiLetter asciiDigit)
  | "alpha" => some asciiLetter
  | "ascii" => some (range (Char.ofNat 0) (Char.ofNat 127))
  | "blank" => some (union (single '\t') (single ' '))
  | "cntrl" => some (union (range (Char.ofNat 0) (Char.ofNat 31)) (single (Char.ofNat 127)))
  | "digit" => some asciiDigit
  | "graph" => some (range '!' '~')
  | "lower" => some (range 'a' 'z')
  | "print" => some (range ' ' '~')
  | "punct" => some (diff (range '!' '~') (union asciiLetter asciiDigit))
  | "space" => some asciiBlank
  | "upper" => some (range 'A' 'Z')
  | "word" => some asciiWord
  | "xdigit" => some (unions [asciiDigit, range 'a' 'f', range 'A' 'F'])
  | _ => .none

def categories (cs : List Text.Category) : CharSet :=
  unions (cs.map category)

/-- The set of a property, by its name in small letters without spaces, hyphens and underscores. -/
def ofProperty? : String → Option CharSet
  | "any" => some all
  | "ascii" => some (range (Char.ofNat 0) (Char.ofNat 127))
  | "l" | "letter" => some (categories [.lc, .lm, .lo])
  | "lc" | "casedletter" => some (category .lc)
  | "lu" | "uppercaseletter" | "uppercase" | "upper" => some capital
  | "ll" | "lowercaseletter" | "lowercase" | "lower" => some (diff (category .lc) capital)
  | "lm" | "modifierletter" => some (category .lm)
  | "lo" | "otherletter" => some (category .lo)
  | "m" | "mark" | "combiningmark" => some (categories [.mn, .mc, .me])
  | "mn" | "nonspacingmark" => some (category .mn)
  | "mc" | "spacingmark" => some (category .mc)
  | "me" | "enclosingmark" => some (category .me)
  | "n" | "number" => some (categories [.nd, .nl, .no])
  | "nd" | "decimalnumber" | "digit" => some digit
  | "nl" | "letternumber" => some (category .nl)
  | "no" | "othernumber" => some (category .no)
  | "p" | "punctuation" | "punct" => some (categories [.pc, .px])
  | "pc" | "connectorpunctuation" => some (category .pc)
  | "s" | "symbol" => some (categories [.sk, .sx])
  | "sk" | "modifiersymbol" => some (category .sk)
  | "zs" | "spaceseparator" => some (category .zs)
  | "z" | "separator" => some (union (category .zs) (range (Char.ofNat 0x2028) (Char.ofNat 0x2029)))
  | "cf" | "format" => some (category .cf)
  | "alphabetic" | "alpha" => some (diff word (union (categories [.mn, .mc, .me, .nd, .pc])
      (range (Char.ofNat 0x200c) (Char.ofNat 0x200d))))
  | "whitespace" | "space" | "wspace" => some blank
  | _ => .none

end CharSet

end CellScript
