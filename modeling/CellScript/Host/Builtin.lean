import CellScript.Host.Registry
import CellScript.Text.Case
import CellScript.Text.Search

/-!
# Standard host classes

The classes that every engine starts with.

## Main definitions

* `HostRegistry.standard` — the classes.
* `BuiltinMember.apply?` — the members that need nothing but their arguments and the text of their
  receiver.
-/

namespace CellScript

namespace HostClass

open HostType

def math : HostClass :=
  ((((((((((ofName "Math").withStaticField "PI" double (.float 3.141592653589793)).withStaticField
    "E" double (.float 2.718281828459045)).withStatic
    "abs" [long] long (.builtin .absInt)).withStatic
    "abs" [double] double (.builtin .absFloat)).withStatic
    "max" [long, long] long (.builtin .maxInt)).withStatic
    "max" [double, double] double (.builtin .maxFloat)).withStatic
    "min" [long, long] long (.builtin .minInt)).withStatic
    "min" [double, double] double (.builtin .minFloat)).withStatic
    "pow" [double, double] double (.builtin .pow)).withStatic
    "sqrt" [double] double (.builtin .sqrt)

def integer : HostClass :=
  ((((ofName "Integer").withStaticField "MAX_VALUE" int (.int 2147483647)).withStaticField
    "MIN_VALUE" int (.int (-2147483648))).withStatic
    "parseInt" [text] int (.builtin .parseInt)).withStatic
    "toHexString" [int] text (.builtin .toHexString)

def string : HostClass :=
  (((((((((((((ofName "String").withConstructor [] (.builtin .newText)).withConstructor
    [text] (.builtin .newText)).withMethod
    "length" [] int (.builtin .textLength)).withMethod
    "toUpperCase" [] text (.builtin .toUpperCase)).withMethod
    "toLowerCase" [] text (.builtin .toLowerCase)).withMethod
    "trim" [] text (.builtin .trim)).withMethod
    "substring" [int] text (.builtin .substringFrom)).withMethod
    "substring" [int, int] text (.builtin .substring)).withMethod
    "indexOf" [text] int (.builtin .indexOf)).withMethod
    "charAt" [int] char (.builtin .charAt)).withMethod
    "startsWith" [text] boolean (.builtin .startsWith)).withMethod
    "equals" [object] boolean (.builtin .equals)).withMethod
    "toString" [] text (.builtin .textToString)

def stringBuilder : HostClass :=
  let this := named "StringBuilder"
  (((((((((((ofName "StringBuilder").withConstructor [] (.builtin .newBuilder)).withConstructor
    [text] (.builtin .newBuilderOf)).withConstructor
    [int] (.builtin .newBuilderSized)).withMethod
    "append" [text] this (.builtin .appendText)).withMethod
    "append" [char] this (.builtin .appendText)).withMethod
    "append" [long] this (.builtin .appendInt)).withMethod
    "append" [double] this (.builtin .appendFloat)).withMethod
    "append" [object] this (.builtin .appendText)).withMethod
    "length" [] int (.builtin .builderLength)).withMethod
    "reverse" [] this (.builtin .builderReverse)).withMethod
    "toString" [] text (.builtin .builderToString)

def keyValuePair : HostClass :=
  ((ofName "KeyValuePair").withMethod "getKey" [] object (.builtin .getKey)).withMethod
    "getValue" [] object (.builtin .getValue)

def collections : HostClass :=
  ((ofName "Collections").withStatic "sort" [collection, named "Comparator"] collection
    (.builtin .sort)).withStatic
    "reverse" [collection] collection (.builtin .reverse)

def comparator : HostClass :=
  (interface "Comparator").withMethod "compare" [object, object] int .forward

def runnable : HostClass :=
  (interface "Runnable").withMethod "run" [] void .forward

end HostClass

/-- The standard classes. -/
def HostRegistry.standard : HostRegistry :=
  [HostClass.comparator, .runnable, .math, .integer, .string, .stringBuilder, .keyValuePair,
    .collections].foldl
    HostRegistry.register .empty

/-! ## Members -/

/-- The text of the argument at a position. -/
def hostText (h : Heap) (args : List HostValue) (i : Nat) : String :=
  match args[i]? with
  | some value => h.renderHost value
  | none => ""

def hostInt (args : List HostValue) (i : Nat) : Int64 :=
  (args[i]?.bind HostValue.int?).getD 0

def hostFloat (args : List HostValue) (i : Nat) : Float :=
  (args[i]?.bind HostValue.float?).getD 0

/-- The greater of two floats; one that is a number, if only one is. -/
def greaterFloat (x y : Float) : Float :=
  if x.isNaN then y else if x < y then y else x

/-- The lesser of two floats; one that is a number, if only one is. -/
def lesserFloat (x y : Float) : Float :=
  if x.isNaN then y else if y < x then y else x

/-- The characters of a text from one index up to, but without, another. -/
def characterRange (s : String) (first last : Int) : Except HostFault String :=
  let cs := s.toList
  if first < 0 ∨ cs.length < last ∨ last < first then
    .error
      (.thrown s!"StringIndexOutOfBoundsException: begin {first}, end {last}, length {cs.length}")
  else .ok (String.ofList ((cs.drop first.toNat).take (last - first).toNat))

/-- Members of `Math` and `Integer`, and conversions. -/
def BuiltinMember.onNumbers? (h : Heap) (args : List HostValue) :
    BuiltinMember → Option (Except HostFault HostValue)
  | .absInt => some (.ok (.int (if hostInt args 0 < 0 then -hostInt args 0 else hostInt args 0)))
  | .absFloat => some (.ok (.float (hostFloat args 0).abs))
  | .maxInt => some (.ok (.int (max (hostInt args 0) (hostInt args 1))))
  | .maxFloat => some (.ok (.float (greaterFloat (hostFloat args 0) (hostFloat args 1))))
  | .minInt => some (.ok (.int (min (hostInt args 0) (hostInt args 1))))
  | .minFloat => some (.ok (.float (lesserFloat (hostFloat args 0) (hostFloat args 1))))
  | .pow => some (.ok (.float ((hostFloat args 0).pow (hostFloat args 1))))
  | .sqrt => some (.ok (.float (hostFloat args 0).sqrt))
  | .parseInt =>
    let s := hostText h args 0
    match Decimal.readSigned? 32 (Text.trim s) with
    | some n => some (.ok (.int (Int64.ofInt n)))
    | none => some (.error (.thrown ("NumberFormatException: For input string: \"" ++ s ++ "\"")))
  | .toHexString =>
    some (.ok (.text (Text.hexDigits (hostInt args 0).toInt32.toUInt32.toNat)))
  | .reverse =>
    match args.head? with
    | some (.list items) => some (.ok (.list items.reverse))
    | some (.array items) => some (.ok (.list items.reverse))
    | _ => some (.ok .null)
  | _ => none

/-- Members of `String`, on the text of the receiver. -/
def BuiltinMember.onText? (h : Heap) (s : String) (args : List HostValue) :
    BuiltinMember → Option (Except HostFault HostValue)
  | .textLength => some (.ok (.int (Int64.ofNat s.length)))
  | .toUpperCase => some (.ok (.text (Text.upper s)))
  | .toLowerCase => some (.ok (.text (Text.lower s)))
  | .trim => some (.ok (.text (Text.trim s)))
  | .substringFrom => some ((characterRange s (hostInt args 0).toInt s.length).map .text)
  | .substring => some ((characterRange s (hostInt args 0).toInt (hostInt args 1).toInt).map .text)
  | .indexOf =>
    match Text.position? (hostText h args 0) s with
    | some i => some (.ok (.int (Int64.ofNat i)))
    | none => some (.ok (.int (-1)))
  | .charAt =>
    let index := hostInt args 0
    match if index < 0 then none else s.toList[index.toNatClampNeg]? with
    | some c => some (.ok (.char c))
    | none => some (.error (.thrown s!"StringIndexOutOfBoundsException: index {index}"))
  | .startsWith => some (.ok (.bool ((hostText h args 0).toList.isPrefixOf s.toList)))
  | .equals =>
    match args.head? with
    | some (.text t) => some (.ok (.bool (s == t)))
    | some (.object o) =>
      match h.object o with
      | .text t => some (.ok (.bool (s == t)))
      | _ => some (.ok (.bool false))
    | _ => some (.ok (.bool false))
  | .textToString => some (.ok (.text s))
  | _ => none

end CellScript
