import CellScript.Host.Builtin
import CellScript.Machine.Basic
import CellScript.Panic
import CellScript.Sort

/-!
# Calls into the host

A member of a host class is called with marshaled arguments. Its failure becomes a throw, a fatal
fault or a soft fault; a panic becomes a fatal fault.

## Main definitions

* `Host.invokeProxy` — a call of an interface method on a proxy.
* `Host.runMember` — a member on marshaled arguments.
* `Host.construct`, `Host.invokeStatic`, `Host.invokeMember` — what scripts do with host classes.
-/

namespace CellScript

/-- A computation of the machine that may fail as host code does. -/
abbrev HostRun (α : Type) := ExceptT HostFault (ExceptT Stop (StateM Machine)) α

namespace Host

/-- A conversion to host values. -/
def marshal {α : Type} (conversion : Marshal α) : HostRun α := fun m =>
  let h := m.heap
  let m := { m with heap := default }
  let (result, h) := conversion h
  (.ok result, { m with heap := h })

/-- A computation of the machine, as part of host code. -/
def run {α : Type} (x : Run α) : HostRun α :=
  ExceptT.lift x

/-- The host fault for a fault of a function that host code has called. -/
def faultOf (h : Heap) : Fault → HostFault
  | .thrown value => .thrown (h.text value)
  | .taintViolation text => .taintViolation text
  | f => if f.isFatal then .fatal (h.faultMessage f) else .thrown (h.faultMessage f)

/-- The type of the result of an interface method. -/
def resultType (r : HostRegistry) (interface method : String) (arity : Nat) : HostType :=
  match (r.lookup? interface).bind fun c =>
      c.methods.find? fun m => m.name == method && m.params.length == arity with
  | some m => m.returns
  | none => .object

/-- Call a method on a proxy: its function gets the name of the method as its message. -/
def invokeProxy (self : Reentry) (function : FunctionRef) (interface method : String)
    (args : List HostValue) :
    HostRun HostValue := do
  let returns ← run (Run.ask fun m => resultType m.hosts interface method args.length)
  let cells ← run (Run.onHeap (fromHostItems args))
  match ← run (Run.attempt (self.invoke function (some method) cells)) with
  | .error f => throw (← run (Run.askHeap fun h => faultOf h f))
  | .ok result =>
    let registry ← run (Run.ask (·.hosts))
    let content ← run (Run.askHeap (·.content result))
    marshal (toHost registry returns content)

/-- The function and interface of a proxy. -/
def proxy? (h : Heap) (o : ObjectRef) : Option (FunctionRef × String) :=
  match h.object o with
  | .proxy f interface => some (f, interface)
  | _ => none

/-- Whether a comparison by a proxy puts one value before another. -/
def comesBefore (self : Reentry) (comparator : ObjectRef) (a b : HostValue) : HostRun Bool := do
  match ← run (Run.askHeap fun h => proxy? h comparator) with
  | none => throw (.illegalArgument "comparator is not callable")
  | some (f, interface) =>
    let verdict ← invokeProxy self f interface "compare" [a, b]
    return verdict.int?.getD 0 < 0

/-- `Collections.sort`. -/
def sortItems (self : Reentry) (args : List HostValue) : HostRun HostValue := do
  match args.getLast? with
  | some (.object comparator) =>
    match args.dropLast.getLast? with
    | some (.list items) => return .list (← sortBy (comesBefore self comparator) items)
    | some (.array items) => return .list (← sortBy (comesBefore self comparator) items)
    | _ => return .null
  | _ => throw (.illegalArgument "a Comparator is required")

/-- The text of a builder that is the receiver. -/
def builderText (receiver : ObjectRef) : HostRun String := do
  match ← run (Run.askHeap (·.object receiver)) with
  | .builder s => return s
  | _ => throw (.illegalArgument "receiver is not a StringBuilder")

/-- Give the builder another text; the result is the builder. -/
def setBuilder (receiver : ObjectRef) (f : String → String) : HostRun HostValue := do
  let s ← builderText receiver
  run (Run.changeHeap (·.setObject receiver (.builder (f s))))
  return .object receiver

/-- A new object. -/
def newObject (object : HostObject) : HostRun HostValue := do
  return .object (← run (Run.onHeap (HeapM.newObject object)))

/-- The host value of the key or the value of a pair that is the receiver. -/
def pairPart (receiver : ObjectRef) (part : CellRef × CellRef → CellRef) : HostRun HostValue := do
  match ← run (Run.askHeap (·.object receiver)) with
  | .pair key value =>
    match ← run (Run.askHeap fun h => h.natural (h.content (part (key, value)))) with
    | .ok value => return value
    | .error f => throw f
  | _ => throw (.illegalArgument "receiver is not a KeyValuePair")

/-- A standard member with a receiver. -/
def runMethod (member : BuiltinMember) (receiver : ObjectRef) (args : List HostValue) :
    HostRun HostValue := do
  match member with
  | .appendText =>
    let s ← run (Run.askHeap fun h => hostText h args 0)
    setBuilder receiver (· ++ s)
  | .appendInt => setBuilder receiver (· ++ toString (hostInt args 0))
  | .appendFloat => setBuilder receiver (· ++ Decimal.valueText (hostFloat args 0))
  | .builderLength => return .int (Int64.ofNat (← builderText receiver).length)
  | .builderReverse => setBuilder receiver fun s => String.ofList s.toList.reverse
  | .builderToString => return .text (← builderText receiver)
  | .getKey => pairPart receiver (·.1)
  | .getValue => pairPart receiver (·.2)
  | member =>
    match ← run (Run.askHeap (·.object receiver)) with
    | .text s =>
      match ← run (Run.askHeap fun h => member.onText? h s args) with
      | some (.ok value) => return value
      | some (.error f) => throw f
      | none => return .null
    | _ => throw (.illegalArgument "receiver is not a String")

/-- A standard member. -/
def runBuiltin (self : Reentry) (method : String) (member : BuiltinMember)
    (receiver : Option ObjectRef) (args : List HostValue) : HostRun HostValue := do
  match ← run (Run.askHeap fun h => member.onNumbers? h args) with
  | some (.ok value) => return value
  | some (.error f) => throw f
  | none =>
    match member with
    | .sort => sortItems self args
    | .newText => newObject (.text (← run (Run.askHeap fun h => hostText h args 0)))
    | .newBuilder => newObject (.builder "")
    | .newBuilderOf => newObject (.builder (← run (Run.askHeap fun h => hostText h args 0)))
    | .newBuilderSized =>
      if hostInt args 0 < 0 then throw (.thrown "NegativeArraySizeException")
        else newObject (.builder "")
    | member =>
      match receiver with
      | some receiver => runMethod member receiver args
      | none => throw (.illegalArgument s!"instance method {method} called without a receiver")

/-- What a call of a method on the first argument comes to. -/
def runCallback (self : Reentry) (method : String) (args : List HostValue) : HostRun HostValue := do
  match args with
  | [] => throw (.illegalArgument "no callback")
  | .object o :: rest =>
    match ← run (Run.askHeap fun h => proxy? h o) with
    | some (f, interface) => invokeProxy self f interface method rest
    | none =>
      let className ← run (Run.askHeap fun h => (h.object o).className)
      throw (.illegalArgument s!"{className} is not a proxy")
  | value :: _ =>
    let text ← run (Run.askHeap fun h => h.debugHost value)
    throw (.illegalArgument s!"{text} is not an object")

/-- Run a member on marshaled arguments. -/
def runMember (self : Reentry) (name : String) (body : MemberBody) (isStatic : Bool)
    (receiver : Option ObjectRef) (args : List HostValue) : HostRun HostValue := do
  match body with
  | .builtin member => runBuiltin self name member receiver args
  | .forward =>
    match ← run (Run.askHeap fun h => receiver.bind (proxy? h)) with
    | some (f, interface) => invokeProxy self f interface name args
    | none => throw (.inaccessible s!"abstract method {name}")
  | body =>
    if !isStatic && receiver.isNone then
      throw (.illegalArgument s!"instance method {name} called without a receiver")
    let texts ← run (Run.askHeap fun h => args.map h.renderHost)
    match body with
    | .label label => return .text (label ++ "(" ++ ", ".intercalate texts ++ ")")
    | .echo => return args.headD .null
    | .list => return .array args
    | .map => return .map (args.mapIdx fun i value => (s!"k{i}", value))
    | .give value => return value
    | .make className => newObject (.labelled className (className ++ " " ++ ",".intercalate texts))
    | .callback method => runCallback self method args
    | .fail f => throw f
    | .panic text => run (Run.fail (PanicError.toFault ⟨text⟩))
    | .forward | .builtin _ => return .null

/-- Marshal arguments for the parameters of a method. -/
def marshalArgs (r : HostRegistry) (params : List HostType) (args : List Content) :
    Marshal (List HostValue) :=
  (args.zip params).mapM fun (arg, type) => toHost r type arg

/-- Read a field of an object or, without one, of its class. -/
def runField (self : Reentry) (field : HostField) (receiver : Option ObjectRef) :
    HostRun HostValue :=
  if field.isStatic then runMember self field.name field.body true receiver []
  else if receiver.isNone then throw (.illegalArgument s!"field {field.name} needs a receiver")
  else runMember self field.name field.body false receiver []

/-! ## Scripts and host classes -/

/-- The types of argument cells. -/
def typesText (h : Heap) (args : List CellRef) : String :=
  ", ".intercalate (args.map h.typeName)

/-- No overload fits. -/
def noMatch (what : String) (candidates : List HostMethod) (args : List CellRef) : Run CellRef := do
  let types ← Run.askHeap (typesText · args)
  if candidates.isEmpty then Run.softFault s!"{what}({types}) not found"
  else
    let known := ", ".intercalate (candidates.map HostMethod.signature)
    Run.softFault s!"no overload of {what} accepts ({types}); candidates: {known}"

/-- Call a method or constructor. -/
def callMethod (self : Reentry) (method : HostMethod) (receiver : Option ObjectRef)
    (args : List CellRef) (description : String) : Run CellRef := do
  let registry ← Run.ask (·.hosts)
  let contents ← Run.askHeap fun h => args.map h.content
  match ← (marshal (marshalArgs registry method.params contents)).run with
  | .error f => Run.softFault (description ++ ": " ++ f.message)
  | .ok values =>
    match ← (runMember self method.name method.body method.isStatic receiver values).run with
    | .ok value => Run.onHeap (fromHost value)
    | .error (.thrown text) =>
      let c ← Run.askContext id
      Run.changeContext (·.recordFrame ⟨description, c.currentSource, c.line⟩)
      Run.fail (.thrown (← HeapM.text text))
    | .error (.fatal text) => Run.fail (.fatal text)
    | .error (.taintViolation text) => Run.fail (.taintViolation text)
    | .error other => Run.softFault (description ++ ": " ++ other.message)

/-- The value of a field. -/
def readField (self : Reentry) (field : HostField) (receiver : Option ObjectRef) (what : String) :
    Run CellRef := do
  match ← (runField self field receiver).run with
  | .ok value => Run.onHeap (fromHost value)
  | .error (.fatal text) => Run.fail (.fatal text)
  | .error (.taintViolation text) => Run.fail (.taintViolation text)
  | .error other => Run.softFault (what ++ ": " ++ other.message)

/-- The overload that argument cells call. -/
def chosen (candidates : List HostMethod) (args : List CellRef) : Run (Option HostMethod) :=
  Run.ask fun m => resolve m.heap m.hosts candidates (args.map m.heap.content)

/-- A new object of a class. -/
def construct (self : Reentry) (className : String) (args : List CellRef) : Run CellRef := do
  match ← Run.ask fun m => m.hosts.lookup? className with
  | none => Run.softFault s!"class {className} not found"
  | some c =>
    if c.isInterface then Run.softFault s!"cannot instantiate interface {className}"
    else
      match ← chosen c.constructors args with
      | some constructor => callMethod self constructor none args ("new " ++ c.name)
      | none => noMatch ("new " ++ c.name) c.constructors args

/-- The field of a class, where the search ends. -/
def findField (c : HostClass) (name : String) : Run (Option HostField) := do
  match ← Run.ask fun m => m.hosts.field c name with
  | .found field => return some field
  | .missing => return none
  | .endless => throw .exhausted

/-- A static member of a class: a method, or a field when there are no arguments. -/
def invokeStatic (self : Reentry) (className member : String) (args : List CellRef) :
    Run CellRef := do
  match ← Run.ask fun m => m.hosts.lookup? className with
  | none => Run.softFault s!"class {className} not found"
  | some c =>
    let candidates ← Run.ask fun m => m.hosts.methods c member args.length true
    let what := s!"{c.name}.{member}"
    match ← chosen candidates args with
    | some method => callMethod self method none args what
    | none =>
      let field? ← if args.isEmpty then findField c member else pure none
      match field?.filter (·.isStatic) with
      | some field => readField self field none what
      | none => noMatch what candidates args

/-- The object that a message goes to. A string or number becomes a host string. -/
def receiverOf (receiver : CellRef) (member : String) : Run ObjectRef := do
  match ← Run.askHeap (·.content receiver) with
  | .object o => return o
  | .text s => HeapM.newObject (.text s)
  | .int n => HeapM.newObject (.text (toString n))
  | .float x => HeapM.newObject (.text (Decimal.valueText x))
  | other => Run.fail (.badCast (.noMessages member other.typeName))

/-- A member of an object: a method, or a field when there are no arguments. -/
def invokeMember (self : Reentry) (receiver : CellRef) (member : String) (args : List CellRef) :
    Run CellRef := do
  let o ← receiverOf receiver member
  let className ← Run.askHeap fun h => (h.object o).className
  match ← Run.ask fun m => m.hosts.lookup? className with
  | none => Run.softFault s!"no host class registered for {className}"
  | some c =>
    let candidates ← Run.ask fun m => m.hosts.methods c member args.length false
    let what := s!"{c.name}.{member}"
    match ← chosen candidates args with
    | some method => callMethod self method (some o) args what
    | none =>
      match ← if args.isEmpty then findField c member else pure none with
      | some field => readField self field (some o) what
      | none => noMatch what candidates args

end Host

end CellScript
