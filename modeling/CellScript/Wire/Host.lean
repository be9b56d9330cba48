import CellScript.Wire.Value

/-!
# Host classes as documents

A class is an object with its name, what it extends and implements, and lists of its constructors,
methods and fields. The body of a member is a list that begins with what the member does.

## Main definitions

* `HostType.ofSpelling` — the type that a spelling stands for.
* `HostClass.ofDocument` — the class that a document shows.
-/

namespace CellScript

/-- The types with a spelling of their own. -/
def HostType.plain : List HostType :=
  [.void, .boolean, .char, .byte, .short, .int, .long, .float, .double, .text, .object,
    .collection, .map]

/-- The type of a spelling without its array brackets; a class may be marked as one. -/
def HostType.ofName (name : List Char) : HostType :=
  match name with
  | 'c' :: 'l' :: 'a' :: 's' :: 's' :: ':' :: name => .named (String.ofList name)
  | name => (plain.find? (·.spelling == String.ofList name)).getD (.named (String.ofList name))

/-- The type whose spelling is `name` read backwards. -/
def HostType.ofBackward : List Char → HostType
  | ']' :: '[' :: rest => .array (ofBackward rest)
  | name => ofName name.reverse

/-- The type of a spelling. -/
def HostType.ofSpelling (s : String) : HostType :=
  ofBackward s.toList.reverse

namespace Wire

def types (j : Json) : List HostType :=
  j.items.map fun t => .ofSpelling t.asText

/-- What a member of a class does. -/
def body (className : String) (j : Json) : MemberBody :=
  match j with
  | .array [.string "label", l] => .label l.asText
  | .array [.string "char", s] => .give (.char (s.asText.toList.headD ' '))
  | .array [.string "panic", s] => .panic s.asText
  | .array [.string "callback", s] => .callback s.asText
  | .array [.string "no_such_member", s] => .fail (.noSuchMember s.asText)
  | .array [.string "illegal", s] => .fail (.illegalArgument s.asText)
  | .array [.string "inaccessible", s] => .fail (.inaccessible s.asText)
  | .array [.string "instantiation", s] => .fail (.instantiation s.asText)
  | .array [.string "throw", s] => .fail (.thrown s.asText)
  | .array [.string "fatal", s] => .fail (.fatal s.asText)
  | .array [.string "taint", s] => .fail (.taintViolation s.asText)
  | .array [.string "echo"] => .echo
  | .array [.string "list"] => .list
  | .array [.string "map"] => .map
  | .array [.string "true"] => .give (.bool true)
  | .array [.string "new"] => .make className
  | _ => .give .null

/-- Add a method to a class. -/
def addMethod (c : HostClass) (j : Json) : HostClass :=
  match j.items with
  | name :: params :: returns :: kind :: rest =>
    let does := body c.name (rest.headD .null)
    let returns := HostType.ofSpelling returns.asText
    match kind.asText with
    | "static" => c.withStatic name.asText (types params) returns does
    | "abstract" => c.withMethod name.asText (types params) returns .forward
    | _ => c.withMethod name.asText (types params) returns does
  | _ => c

def addConstructor (c : HostClass) (j : Json) : HostClass :=
  match j.items with
  | [params, does] => c.withConstructor (types params) (body c.name does)
  | _ => c

/-- Add a field to a class. A static field holds the value of its document. -/
def addField (c : HostClass) (j : Json) : HeapM HostClass := do
  match j.items with
  | [name, type, .string "static", value] =>
    let cell ← cell room value
    let value ← HeapM.ask fun h => (h.natural (h.content cell)).toOption.getD .null
    return c.withStaticField name.asText (.ofSpelling type.asText) value
  | [name, type, _, does] =>
    return c.withField name.asText (.ofSpelling type.asText) (body c.name does)
  | _ => return c

end Wire

/-- The class that a document shows. -/
def HostClass.ofDocument (j : Json) : HeapM HostClass := do
  let c : HostClass :=
    { HostClass.ofName (j.field "name").asText with
      isInterface := (j.field "interface").isTrue
      superclass := (j.field "extends").text?
      interfaces := (j.field "implements").items.map Json.asText }
  let c := (j.field "ctors").items.foldl Wire.addConstructor c
  let c := (j.field "methods").items.foldl Wire.addMethod c
  (j.field "fields").items.foldlM Wire.addField c

end CellScript
