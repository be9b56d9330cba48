/-!
# Consoles

A console serves prepared input lines and keeps the output. A screen differs from output in memory
in that a control sequence clears it.

## Main definitions

* `Console` — prepared input lines and the output so far.
* `Console.ofInput`, `Console.screen` — a console in memory and one on a screen.
* `Console.readLine`, `print`, `printLine`, `clear`, `takeOutput` — the operations.
-/

namespace CellScript

/-- A console with its input and output in memory. -/
structure Console where
  input : List String
  output : String
  /-- prompts belong to the output -/
  showsPrompts : Bool
  isScreen : Bool
  /-- the output when a line was first asked for in vain -/
  unanswered : Option String
  deriving DecidableEq, Inhabited, Repr

namespace Console

def ofInput (lines : List String) : Console :=
  ⟨lines, "", false, false, none⟩

def screen (lines : List String) (showsPrompts : Bool) : Console :=
  ⟨lines, "", showsPrompts, true, none⟩

def print (c : Console) (text : String) : Console :=
  { c with output := c.output ++ text }

def printLine (c : Console) (text : String) : Console :=
  { c with output := c.output ++ text ++ "\n" }

/-- The next line, or nothing at the end of the input. -/
def readLine (c : Console) (prompt : String) : Option String × Console :=
  let c := if c.showsPrompts then c.print prompt else c
  match c.input with
  | line :: rest => (some line, { c with input := rest })
  | [] => (none, { c with unanswered := c.unanswered.or (some c.output) })

def clear (c : Console) : Console :=
  if c.isScreen then c.print "\x1b[2J\x1b[H" else { c with output := "" }

/-- The output, which is then empty. -/
def takeOutput (c : Console) : String × Console :=
  (c.output, { c with output := "" })

end Console

end CellScript
