import CellScript.Host.Value
import CellScript.Text.Quoted

/-!
# Host classes

## Main definitions

* `MemberBody`, `BuiltinMember` — what a member of a class does.
* `HostMethod`, `HostField`, `HostClass` — methods, fields and classes.
* `HostMethod.signature`, `HostClass.listing` — their text.
-/

namespace CellScript

/-- The members of the standard classes. -/
inductive BuiltinMember where
  | absInt | absFloat | maxInt | maxFloat | minInt | minFloat | pow | sqrt
  | parseInt | toHexString
  | newText | textLength | toUpperCase | toLowerCase | trim | substringFrom | substring | indexOf
  | charAt
  | startsWith | equals | textToString
  | newBuilder | newBuilderOf | newBuilderSized | appendText | appendInt | appendFloat
  | builderLength
  | builderReverse | builderToString
  | getKey | getValue
  | sort | reverse
  deriving DecidableEq, Inhabited, Repr

/-- What a member does. -/
inductive MemberBody where
  /-- the label followed by the arguments in parentheses -/
  | label (label : String)
  /-- the first argument, or null -/
  | echo
  /-- all arguments as an array -/
  | list
  /-- all arguments as a map under `k0`, `k1`, … -/
  | map
  | give (value : HostValue)
  /-- an object of a class, labelled with the class and the arguments -/
  | make (className : String)
  /-- calls a method on the proxy that is the first argument with the other arguments -/
  | callback (method : String)
  | fail (fault : HostFault)
  | panic (text : String)
  /-- of an interface: calls the method on the proxy that is the receiver -/
  | forward
  | builtin (member : BuiltinMember)
  deriving Inhabited

/-- A method or constructor. -/
structure HostMethod where
  name : String
  params : List HostType
  returns : HostType
  isStatic : Bool
  body : MemberBody
  deriving Inhabited

/-- A field. The body of an instance field gets no arguments. -/
structure HostField where
  name : String
  type : HostType
  isStatic : Bool
  body : MemberBody
  deriving Inhabited

/-- A class or interface. -/
structure HostClass where
  name : String
  superclass : Option String
  interfaces : List String
  isInterface : Bool
  constructors : List HostMethod
  methods : List HostMethod
  fields : List HostField
  deriving Inhabited

namespace HostMethod

/-- The name and the types of the parameters. -/
def signature (m : HostMethod) : String :=
  m.name ++ "(" ++ ", ".intercalate (m.params.map HostType.spelling) ++ ")"

/-- The signature with the type of the result. -/
def listing (m : HostMethod) : String :=
  (if m.isStatic then "static " else "") ++ m.signature ++ " -> " ++ m.returns.spelling

end HostMethod

namespace HostClass

/-- A class without members. -/
def ofName (name : String) : HostClass :=
  ⟨name, none, [], false, [], [], []⟩

/-- An interface without members. -/
def interface (name : String) : HostClass :=
  { ofName name with isInterface := true }

def withConstructor (c : HostClass) (params : List HostType) (body : MemberBody) : HostClass :=
  { c with constructors := c.constructors ++ [⟨c.name, params, .named c.name, true, body⟩] }

def withMethod (c : HostClass) (name : String) (params : List HostType) (returns : HostType)
    (body : MemberBody) :
    HostClass :=
  { c with methods := c.methods ++ [⟨name, params, returns, false, body⟩] }

def withStatic (c : HostClass) (name : String) (params : List HostType) (returns : HostType)
    (body : MemberBody) :
    HostClass :=
  { c with methods := c.methods ++ [⟨name, params, returns, true, body⟩] }

def withField (c : HostClass) (name : String) (type : HostType) (body : MemberBody) : HostClass :=
  { c with fields := c.fields ++ [⟨name, type, false, body⟩] }

def withStaticField (c : HostClass) (name : String) (type : HostType) (value : HostValue) :
    HostClass :=
  { c with fields := c.fields ++ [⟨name, type, true, .give value⟩] }

/-- The methods of a name that take `arity` arguments, in the order of their declaration. -/
def methodsNamed (c : HostClass) (name : String) (arity : Nat) (isStatic : Bool) :
    List HostMethod :=
  c.methods.filter fun m => m.name == name && m.params.length == arity && m.isStatic == isStatic

def fieldNamed? (c : HostClass) (name : String) : Option HostField :=
  c.fields.find? (·.name == name)

/-- A description of a class for listings. -/
def listing (c : HostClass) : String :=
  let parent := match c.superclass with
    | none => "None"
    | some name => "Some(" ++ Text.quoted name ++ ")"
  "HostClass \x7b name: " ++ Text.quoted c.name ++ ", superclass: " ++ parent ++
    ", interfaces: [" ++
    ", ".intercalate (c.interfaces.map Text.quoted) ++ "], methods: [" ++
    ", ".intercalate (c.methods.map HostMethod.listing) ++ "] \x7d"

end HostClass

end CellScript
