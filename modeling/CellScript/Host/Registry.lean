import CellScript.Host.Class

/-!
# The registry of host classes

Classes are known by name, and by aliases that stand for a name. A class has the methods and fields
of the classes it extends, and its objects can stand where a class or interface is declared that a
chain of superclasses and interfaces leads to.

## Main definitions

* `HostRegistry`, `lookup?` — classes and aliases.
* `isAssignable` — whether one class can stand for another.
* `methods`, `field` — members with those that are inherited.
* `Match`, `score`, `resolve` — the choice between overloads.
-/

namespace CellScript

/-- Classes by name, and other names for them. -/
structure HostRegistry where
  classes : Dictionary HostClass
  aliases : Dictionary String
  deriving Inhabited

/-- The outcome of a search for a field. -/
inductive FieldSearch where
  | found (field : HostField)
  | missing
  /-- the superclasses form a cycle -/
  | endless

namespace HostRegistry

def empty : HostRegistry :=
  ⟨.empty, .empty⟩

def register (r : HostRegistry) (c : HostClass) : HostRegistry :=
  { r with classes := r.classes.insert c.name c }

/-- Let `short` stand for the class of name `full`. -/
def addAlias (r : HostRegistry) (short full : String) : HostRegistry :=
  { r with aliases := r.aliases.insert short full }

/-- The class of a name or alias. -/
def lookup? (r : HostRegistry) (name : String) : Option HostClass :=
  r.classes.get? ((r.aliases.get? name).getD name)

def classNames (r : HostRegistry) : List String :=
  r.classes.keys

def isInterface (r : HostRegistry) (name : String) : Bool :=
  (r.lookup? name).any (·.isInterface)

/-- More than the names that all classes mention. -/
def nameBound (r : HostRegistry) : Nat :=
  r.classes.values.foldl (fun n c => n + c.interfaces.length + 1) 1

/-- Whether a pending name, or one that its class leads to, is the target. A name is followed
once. -/
def leadsTo (r : HostRegistry) (target : String) : Nat → List String → List String → Bool
  | 0, _, _ => false
  | _, _, [] => false
  | n + 1, seen, name :: rest =>
    if name == target then true
    else if seen.contains name then leadsTo r target n seen rest
    else
      match r.lookup? name with
      | none => leadsTo r target n (name :: seen) rest
      | some c =>
        if c.name == target then true
        else leadsTo r target n (name :: seen) (rest ++ c.superclass.toList ++ c.interfaces)

/-- Whether a value of one class can stand where another class or interface is declared. -/
def isAssignable (r : HostRegistry) (source target : String) : Bool :=
  let target := (r.lookup? target).elim target (·.name)
  r.leadsTo target ((r.nameBound + 1) * (r.nameBound + 1)) [] [source]

/-- The methods of a superclass and of those above it. -/
def inheritedMethods (r : HostRegistry) (name : String) (arity : Nat) (isStatic : Bool) :
    Nat → List String → Option String → List HostMethod
  | 0, _, _ => []
  | _, _, none => []
  | n + 1, seen, some parent =>
    if seen.contains parent then []
    else
      match r.lookup? parent with
      | none => []
      | some c =>
        c.methodsNamed name arity isStatic ++
          inheritedMethods r name arity isStatic n (parent :: seen) c.superclass

/-- The methods of a name, those of the class itself first and then those of each superclass in
turn. -/
def methods (r : HostRegistry) (c : HostClass) (name : String) (arity : Nat) (isStatic : Bool) :
    List HostMethod :=
  c.methodsNamed name arity isStatic ++
    r.inheritedMethods name arity isStatic (r.nameBound + 1) [c.name] c.superclass

/-- The search for a field through at most `n` superclasses. -/
def searchField (r : HostRegistry) (name : String) : Nat → HostClass → FieldSearch
  | 0, _ => .endless
  | n + 1, c =>
    match c.fieldNamed? name with
    | some field => .found field
    | none =>
      match c.superclass.bind r.lookup? with
      | none => .missing
      | some parent => if parent.name == c.name then .missing else searchField r name n parent

/-- The field of a name in a class or in the nearest superclass that has one. -/
def field (r : HostRegistry) (c : HostClass) (name : String) : FieldSearch :=
  r.searchField name (r.nameBound + 1) c

end HostRegistry

/-! ## Overloads -/

/-- How well a value fits a type. -/
inductive Match where
  | no
  | maybe
  | yes
  deriving DecidableEq, Repr

/-- How well content fits a type. -/
def score (h : Heap) (r : HostRegistry) : Content → HostType → Match
  | _, .void => .no
  | .null, type => if type.isPrimitive then .maybe else .yes
  | .int _, .long => .yes
  | .int _, .object => .maybe
  | .int _, type => if type.isNumeric then .maybe else .no
  | .float _, .double => .yes
  | .float _, .object => .maybe
  | .float _, type => if type.isNumeric then .maybe else .no
  | .text _, .text => .yes
  | .text s, .char => if s.length = 1 then .maybe else .no
  | .text _, .named name => if name == "String" then .yes else .maybe
  | .text _, type => if type.isPrimitive then .no else .maybe
  | .sequence _, .array _ => .yes
  | .sequence _, .collection => .yes
  | .sequence _, .object => .maybe
  | .sequence _, _ => .no
  | .table _, .map => .yes
  | .table _, .object => .maybe
  | .table _, _ => .no
  | .function _, .named name => if r.isInterface name then .yes else .no
  | .function _, .object => .maybe
  | .function _, _ => .no
  | .object _, .object => .yes
  | .object o, .named name => if r.isAssignable (h.object o).className name then .yes else .no
  | .object _, _ => .no

/-- The scores of the arguments for a method, unless one does not fit. -/
def HostMethod.scores? (h : Heap) (r : HostRegistry) (args : List Content) (m : HostMethod) :
    Option (List Match) :=
  if m.params.length = args.length then
    let scores := (args.zip m.params).map fun (arg, type) => score h r arg type
    if scores.contains .no then none else some scores
  else none

/-- Whether a candidate is better than the best so far: more exact scores, then more specific
parameters. -/
def betterThan (a b : Nat × Nat) : Bool :=
  b.1 < a.1 || (b.1 == a.1 && b.2 < a.2)

/-- The best of ranked methods, the earliest of those of one rank. -/
def best? : List ((Nat × Nat) × HostMethod) → Option HostMethod
  | [] => none
  | first :: rest =>
    some (rest.foldl (fun best next => if betterThan next.1 best.1 then next else best) first).2

/-- The overload that arguments call: the first that fits exactly, else the one with the most exact
scores, then with the most specific parameters, then declared first. -/
def resolve (h : Heap) (r : HostRegistry) (candidates : List HostMethod) (args : List Content) :
    Option HostMethod :=
  let scored := candidates.filterMap fun m => (m.scores? h r args).map (m, ·)
  match scored.find? fun (_, scores) => scores.all (· == .yes) with
  | some (m, _) => some m
  | none =>
    best? (scored.map fun (m, scores) =>
      ((scores.count .yes, m.params.foldl (fun n type => n + type.specificity) 0), m))

end CellScript
