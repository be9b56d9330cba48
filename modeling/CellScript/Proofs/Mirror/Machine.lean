import CellScript.Machine.Policy
import CellScript.Proofs.Mirror.Host
import CellScript.Proofs.Run.General

/-!
# Machines in other places

Machines that are alike have heaps, scripts and contexts that are alike. They know the same host
classes, have written the same, have told the same and have asked the same of the same system. What
the second one holds besides is as it was.

## Main definitions

* `Machines` — machines that are alike.
* `Whole` — machines in which all is there that can be reached.

## Main statements

* Instances of `Sim` for operations of the machine.
* `Whole.after` — what does the same in other places leaves nothing out.
-/

namespace CellScript.Mirror

variable {e : Surroundings} {w : Links} {α β σ : Type}

/-! ## Scripts -/

instance : Plain LibraryFunction := ⟨⟩
instance : Plain Probe := ⟨⟩
instance : Plain TaintPolicy := ⟨⟩
instance : Plain EngineConfig := ⟨⟩
instance : Plain Profiler := ⟨⟩
instance : Plain CallStat := ⟨⟩
instance : Plain StackFrame := ⟨⟩
instance : Plain FrameStats := ⟨⟩
instance : Plain DebugFlags := ⟨⟩
instance : Plain Marks := ⟨⟩
instance : Plain Warning := ⟨⟩
instance : Plain IoFault := ⟨⟩
instance : Plain WorkerError := ⟨⟩
instance : Plain Stream := ⟨⟩
instance : Plain (Eventual α) := ⟨⟩
instance : Plain (Undertaking α) := ⟨⟩
instance : Plain Ports := ⟨⟩

instance (c c' : EngineConfig) (flags : DebugFlags) [h : Alike w c c'] :
    Alike w { c with debug := flags } { c' with debug := flags } := by
  rw [h.eq]
  infer_instance

/-- Functions that are alike. -/
inductive Functions (w : Links) : Function → Function → Prop where
  | library (f : LibraryFunction) : Functions w (.library f) (.library f)
  | probe (f : Probe) : Functions w (.probe f) (.probe f)
  | bound {f f' : FunctionRef} : Alike w f f' → Functions w (.bound f) (.bound f')
  | guarded (policy : TaintPolicy) {f f' : Function} : Functions w f f' →
    Functions w (.guarded policy f) (.guarded policy f')

theorem Functions.mono {w w' : Links} (le : w ≤ w') {f f' : Function} :
    Functions w f f' → Functions w' f f'
  | .library f => .library f
  | .probe f => .probe f
  | .bound h => .bound (h.mono le)
  | .guarded policy h => .guarded policy (h.mono le)

instance : Paired Function := ⟨Functions, fun le h => h.mono le⟩

section Functions

instance (f f' : FunctionRef) [h : Alike w f f'] : Alike w (Function.bound f) (.bound f') :=
  ⟨.bound h⟩

variable (f f' : Function) [hf : Alike w f f']

instance : Alike w f.taintPolicy f'.taintPolicy := by
  cases hf.rel <;> exact ⟨rfl⟩

theorem Functions.closure? {f f' : Function} (h : Functions w f f') :
    Alike w f.closure? f'.closure? := by
  induction h with
  | bound same => exact ⟨.some same.rel⟩
  | guarded _ _ ih => exact ih
  | _ => exact ⟨.none⟩

instance : Alike w f.closure? f'.closure? := Functions.closure? hf.rel

end Functions

instance : Paired Environment := .via fun e => (e.functions, e.inlines)

section Environments

variable (n n' : Environment) [h : Alike w n n']

instance : Alike w n.functions n'.functions := ⟨h.rel.1⟩

instance : Alike w n.inlines n'.inlines := ⟨h.rel.2⟩

instance (functions functions' : Dictionary Function) (inlines inlines' : Dictionary Block)
    [h₁ : Alike w functions functions'] [h₂ : Alike w inlines inlines'] :
    Alike w (Environment.mk functions inlines) (.mk functions' inlines') := ⟨h₁.rel, h₂.rel⟩

end Environments

instance : Paired Script :=
  .via fun s => (s.name, s.main, s.environment, s.globals, s.config, s.watchers, s.profiler,
    s.lastTrace, s.lastStats, s.loaded)

section Scripts

variable (s s' : Script) [h : Alike w s s']

instance : Alike w s.name s'.name := ⟨h.rel.1⟩

instance : Alike w s.main s'.main := ⟨h.rel.2.1⟩

instance : Alike w s.environment s'.environment := ⟨h.rel.2.2.1⟩

instance : Alike w s.globals s'.globals := ⟨h.rel.2.2.2.1⟩

instance : Alike w s.config s'.config := ⟨h.rel.2.2.2.2.1⟩

instance : Alike w s.watchers s'.watchers := ⟨h.rel.2.2.2.2.2.1⟩

instance : Alike w s.profiler s'.profiler := ⟨h.rel.2.2.2.2.2.2.1⟩

instance : Alike w s.lastTrace s'.lastTrace := ⟨h.rel.2.2.2.2.2.2.2.1⟩

instance : Alike w s.lastStats s'.lastStats := ⟨h.rel.2.2.2.2.2.2.2.2.1⟩

instance : Alike w s.loaded s'.loaded := ⟨h.rel.2.2.2.2.2.2.2.2.2⟩

instance (name name' : String) (main main' : Block) (environment environment' : Environment)
    (globals globals' : VarsRef) (config config' : EngineConfig) (watchers watchers' : List Nat)
    (profiler profiler' : Profiler) (lastTrace lastTrace' : List StackFrame)
    (lastStats lastStats' : FrameStats) (loaded loaded' : Bool) [h₁ : Alike w name name']
    [h₂ : Alike w main main'] [h₃ : Alike w environment environment']
    [h₄ : Alike w globals globals'] [h₅ : Alike w config config'] [h₆ : Alike w watchers watchers']
    [h₇ : Alike w profiler profiler'] [h₈ : Alike w lastTrace lastTrace']
    [h₉ : Alike w lastStats lastStats'] [h₁₀ : Alike w loaded loaded'] :
    Alike w (Script.mk name main environment globals config watchers profiler lastTrace
      lastStats loaded)
      (.mk name' main' environment' globals' config' watchers' profiler' lastTrace' lastStats'
        loaded') :=
  ⟨h₁.rel, h₂.rel, h₃.rel, h₄.rel, h₅.rel, h₆.rel, h₇.rel, h₈.rel, h₉.rel, h₁₀.rel⟩

end Scripts

/-! ## Contexts -/

instance : Paired Context :=
  .via fun c => (c.script, c.base, c.frames, c.stats, c.handlers, c.sources, c.iterators,
    c.scope, c.trace, c.lastTrace, c.line, c.flags, c.taint, c.maxDepth)

section Contexts

variable (c c' : Context) [h : Alike w c c']

instance : Alike w c.script c'.script := ⟨h.rel.1⟩

instance : Alike w c.base c'.base := ⟨h.rel.2.1⟩

instance : Alike w c.frames c'.frames := ⟨h.rel.2.2.1⟩

instance : Alike w c.stats c'.stats := ⟨h.rel.2.2.2.1⟩

instance : Alike w c.handlers c'.handlers := ⟨h.rel.2.2.2.2.1⟩

instance : Alike w c.sources c'.sources := ⟨h.rel.2.2.2.2.2.1⟩

instance : Alike w c.iterators c'.iterators := ⟨h.rel.2.2.2.2.2.2.1⟩

instance : Alike w c.scope c'.scope := ⟨h.rel.2.2.2.2.2.2.2.1⟩

instance : Alike w c.trace c'.trace := ⟨h.rel.2.2.2.2.2.2.2.2.1⟩

instance : Alike w c.lastTrace c'.lastTrace := ⟨h.rel.2.2.2.2.2.2.2.2.2.1⟩

instance : Alike w c.line c'.line := ⟨h.rel.2.2.2.2.2.2.2.2.2.2.1⟩

instance : Alike w c.flags c'.flags := ⟨h.rel.2.2.2.2.2.2.2.2.2.2.2.1⟩

instance : Alike w c.taint c'.taint := ⟨h.rel.2.2.2.2.2.2.2.2.2.2.2.2.1⟩

instance : Alike w c.maxDepth c'.maxDepth := ⟨h.rel.2.2.2.2.2.2.2.2.2.2.2.2.2⟩

instance (script script' : ScriptRef) (base base' : List CellRef)
    (frames frames' : List (List CellRef)) (stats stats' : FrameStats)
    (counted : frames.length + stats.killed = stats.created)
    (counted' : frames'.length + stats'.killed = stats'.created)
    (handlers handlers' sources sources' : List String) (iterators iterators' : List IterState)
    (scope scope' : ScopeChain) (trace trace' lastTrace lastTrace' : List StackFrame)
    (line line' : UInt32) (flags flags' : DebugFlags) (taint taint' : Bool)
    (maxDepth maxDepth' : Nat) [h₁ : Alike w script script'] [h₂ : Alike w base base']
    [h₃ : Alike w frames frames'] [h₄ : Alike w stats stats'] [h₅ : Alike w handlers handlers']
    [h₆ : Alike w sources sources'] [h₇ : Alike w iterators iterators'] [h₈ : Alike w scope scope']
    [h₉ : Alike w trace trace'] [h₁₀ : Alike w lastTrace lastTrace'] [h₁₁ : Alike w line line']
    [h₁₂ : Alike w flags flags'] [h₁₃ : Alike w taint taint'] [h₁₄ : Alike w maxDepth maxDepth'] :
    Alike w
      (Context.mk script base frames stats counted handlers sources iterators scope trace
        lastTrace line flags taint maxDepth)
      (Context.mk script' base' frames' stats' counted' handlers' sources' iterators' scope'
        trace' lastTrace' line' flags'
        taint' maxDepth') :=
  ⟨h₁.rel, h₂.rel, h₃.rel, h₄.rel, h₅.rel, h₆.rel, h₇.rel, h₈.rel, h₉.rel, h₁₀.rel, h₁₁.rel,
    h₁₂.rel, h₁₃.rel, h₁₄.rel⟩

instance (script script' : ScriptRef) (scope scope' : ScopeChain) (flags : DebugFlags)
    (taint : Bool) (maxDepth : Nat) [Alike w script script'] [Alike w scope scope'] :
    Alike w (Context.start script scope flags taint maxDepth)
      (Context.start script' scope' flags taint maxDepth) := by
  unfold Context.start
  infer_instance

/-! ### Frames and stacks -/

theorem Alike.frames_eq {c c' : Context} (h : Alike w c c') : c.frames.length = c'.frames.length :=
  (inferInstance : Alike w c.frames c'.frames).length_eq

theorem Alike.stats_eq {c c' : Context} (h : Alike w c c') : c.stats = c'.stats :=
  Alike.eq (w := w) inferInstance

instance : Alike w c.frameDepth c'.frameDepth := ⟨congrArg (· + 1) h.frames_eq⟩

instance [Paired α] (xs ys : List α) (depth : Nat) [h : Alike w xs ys] :
    Alike w (truncateStack xs depth) (truncateStack ys depth) := by
  unfold truncateStack
  rw [h.length_eq]
  infer_instance

instance : Alike w c.createFrame c'.createFrame := by
  unfold Context.createFrame
  simp only [h.stats_eq]
  infer_instance

instance : Alike w c.killFrame c'.killFrame := by
  unfold Context.killFrame
  simp only [h.stats_eq, h.frames_eq]
  infer_instance

theorem Alike.modifyHead [Paired α] {xs ys : List α} (same : Alike w xs ys) {f g : α → α}
    (hf : ∀ a b, Alike w a b → Alike w (f a) (g b)) :
    Alike w (xs.modifyHead f) (ys.modifyHead g) := by
  obtain ⟨rfl, rfl⟩ | ⟨x, y, xs, ys, rfl, rfl, first, _⟩ := same.list
  · exact ⟨.nil⟩
  · have := hf x y first
    rw [List.modifyHead_cons, List.modifyHead_cons]
    infer_instance

theorem Alike.modifyFrame {c c' : Context} (h : Alike w c c') {f g : List CellRef → List CellRef}
    (hf : ∀ xs ys, Alike w xs ys → Alike w (f xs) (g ys)) :
    Alike w (c.modifyFrame f) (c'.modifyFrame g) := by
  have frames : Alike w (c.frames.modifyHead f) (c'.frames.modifyHead g) :=
    (inferInstance : Alike w c.frames c'.frames).modifyHead hf
  have base := hf c.base c'.base inferInstance
  have empty : c.frames.isEmpty = c'.frames.isEmpty :=
    (inferInstance : Alike w c.frames c'.frames).isEmpty_eq
  unfold Context.modifyFrame
  simp only [empty]
  infer_instance

instance : Alike w c.operands c'.operands :=
  inferInstanceAs (Alike w (c.frames.headD c.base) (c'.frames.headD c'.base))

instance (cell cell' : CellRef) [Alike w cell cell'] : Alike w (c.push cell) (c'.push cell') :=
  h.modifyFrame fun _ _ _ => inferInstance

instance : Alike w c.pop c'.pop := by
  have rest : Alike w (c.modifyFrame List.tail) (c'.modifyFrame List.tail) :=
    h.modifyFrame fun _ _ _ => inferInstance
  unfold Context.pop
  infer_instance

instance : Alike w c.clearFrame c'.clearFrame := h.modifyFrame fun _ _ _ => ⟨.nil⟩

instance (depth : Nat) : Alike w (c.truncateFrames depth) (c'.truncateFrames depth) := by
  unfold Context.truncateFrames
  simp only [h.stats_eq, h.frames_eq]
  infer_instance

instance : Alike w c.marks c'.marks := by
  have handlers : c.handlers = c'.handlers := Alike.eq (w := w) inferInstance
  have sources : c.sources = c'.sources := Alike.eq (w := w) inferInstance
  have iterators : c.iterators.length = c'.iterators.length :=
    (inferInstance : Alike w c.iterators c'.iterators).length_eq
  unfold Context.marks Context.frameDepth
  rw [h.frames_eq, handlers, sources, iterators]
  infer_instance

instance (marks : Marks) (keepIterators : Bool) :
    Alike w (c.unwind marks keepIterators) (c'.unwind marks keepIterators) := by
  unfold Context.unwind
  infer_instance

instance : Alike w c.currentSource c'.currentSource :=
  inferInstanceAs (Alike w c.sources.head? c'.sources.head?)

instance : Alike w c.hasHandler c'.hasHandler :=
  ⟨congrArg not (inferInstance : Alike w c.handlers c'.handlers).isEmpty_eq⟩

instance : Alike w c.settleTrace c'.settleTrace := by
  unfold Context.settleTrace
  infer_instance

instance (frame : StackFrame) : Alike w (c.recordFrame frame) (c'.recordFrame frame) := by
  unfold Context.recordFrame
  infer_instance

end Contexts

/-! ## Machines -/

/-- Machines that are alike. -/
class Machines (e : outParam Surroundings) (w : Links) (m m' : Machine) : Prop where
  heap : Heaps e w m.heap m'.heap
  scripts : Pool e w .script e.machine.scripts m.scripts m'.scripts
  hosts : Alike w m.hosts m'.hosts
  /-- host classes are neither added nor changed -/
  classes : m.hosts.classes = e.machine.hosts.classes
  console : m.console = m'.console
  outside : m.outside = m'.outside
  system : m.outside.system = e.machine.outside.system
  logs : m.logs = m'.logs
  /-- nor are logs added -/
  watched : m.logs.size = e.machine.logs.size
  activeCalls : m.activeCalls = m'.activeCalls
  context : Alike w m.context m'.context

instance : Setting Machine := ⟨fun e w m m' => Machines e w m m'⟩

/-- Two machines that are alike. -/
structure TwoMachines (e : Surroundings) (w : Links) where
  left : Machine
  right : Machine
  machines : Machines e w left right

instance (p : TwoMachines e w) : Machines e w p.left p.right := p.machines

section Machines

variable (m m' : Machine) [machines : Machines e w m m']

instance : Heaps e w m.heap m'.heap := machines.heap

instance : Alike w m.hosts m'.hosts := machines.hosts

instance : Alike w m.context m'.context := machines.context

instance : Alike w m.activeCalls m'.activeCalls := ⟨machines.activeCalls⟩

instance (s s' : ScriptRef) [h : Alike w s s'] :
    Alike w (m.scripts.getD s.index default) (m'.scripts.getD s'.index default) :=
      machines.scripts.getD h.rel _ _

end Machines

/-- Machines with other heaps, in which more is linked. -/
theorem Machines.onHeap {m m' : Machine} (machines : Machines e w m m') (v : w.Later) {h h' : Heap}
    (heaps : Heaps e v.now h h') :
    Machines e v.now { m with heap := h } { m' with heap := h' } where
  heap := heaps
  scripts := machines.scripts.later v.le v.scripts
  hosts := machines.hosts.mono v.le
  classes := machines.classes
  console := machines.console
  outside := machines.outside
  system := machines.system
  logs := machines.logs
  watched := machines.watched
  activeCalls := machines.activeCalls
  context := machines.context.mono v.le

/-! ## Computations -/

/-- Stops that are alike. -/
inductive Stops (w : Links) : Stop → Stop → Prop where
  | fault {f f' : Fault} : Alike w f f' → Stops w (.fault f) (.fault f')
  | exhausted : Stops w .exhausted .exhausted

instance : Paired Stop where
  rel := Stops
  mono le
    | .fault h => .fault (h.mono le)
    | .exhausted => .exhausted

instance (f f' : Fault) [h : Alike w f f'] : Alike w (Stop.fault f) (.fault f') := ⟨.fault h⟩

instance : Alike w Stop.exhausted .exhausted := ⟨.exhausted⟩

section Computations

variable [Paired α]

instance (f f' : Fault) [Alike w f f'] : Sim e w (Run.fail f : Run α) (Run.fail f') :=
  inferInstanceAs (Sim e w (throw (Stop.fault f)) (throw (Stop.fault f')))

instance (x y : HeapM α) [h : Sim e w x y] : Sim e w (Run.onHeap x) (Run.onHeap y) :=
  ⟨fun m m' machines => by
    obtain ⟨v, heaps, results⟩ := h.follows m.heap m'.heap machines.heap
    change Heaps e v.now (x m.heap).2 (y m'.heap).2 at heaps
    change Alike v.now (x m.heap).1 (y m'.heap).1 at results
    have later := machines.onHeap v heaps
    change Meet e w (Run.onHeap x m) (Run.onHeap y m')
    rw [Run.onHeap_run, Run.onHeap_run]
    generalize x m.heap = r, y m'.heap = r' at later results
    obtain ⟨r, l⟩ := r
    obtain ⟨r', l'⟩ := r'
    obtain ⟨f, f', rfl, rfl, failed⟩ | ⟨a, b, rfl, rfl, same⟩ := results.except
    · exact ⟨v, later, ⟨.error (.fault failed)⟩⟩
    · exact ⟨v, later, ⟨.ok same.rel⟩⟩⟩

instance (x y : HeapM α) [Sim e w x y] : Sim e w (liftM x : Run α) (liftM y) :=
  inferInstanceAs (Sim e w (Run.onHeap x) (Run.onHeap y))

instance (f g : Machine → α) [same : ∀ p : TwoMachines e w, Alike w (f p.left) (g p.right)] :
    Sim e w (Run.ask f) (Run.ask g) :=
  ⟨fun m m' machines => ⟨w.here, machines, ⟨.ok (same ⟨m, m', machines⟩).rel⟩⟩⟩

instance (f g : Heap → α) [same : ∀ p : TwoHeaps e w, Alike w (f p.left) (g p.right)] :
    Sim e w (Run.askHeap f) (Run.askHeap g) :=
  ⟨fun m m' machines => ⟨w.here, machines, ⟨.ok (same ⟨m.heap, m'.heap, machines.heap⟩).rel⟩⟩⟩

instance (f g : Context → α) [same : ∀ p : Both w Context, Alike w (f p.left) (g p.right)] :
    Sim e w (Run.askContext f) (Run.askContext g) :=
  ⟨fun m m' machines =>
    ⟨w.here, machines, ⟨.ok (same ⟨m.context, m'.context, machines.context.rel⟩).rel⟩⟩⟩

/-- Going on from the heap. -/
theorem sim_fromHeap {f g : Heap → Run α} (h : ∀ p : TwoHeaps e w, Sim e w (f p.left) (g p.right)) :
    Sim e w (Run.askHeap id >>= f) (Run.askHeap id >>= g) :=
  ⟨fun m m' machines => (h ⟨m.heap, m'.heap, machines.heap⟩).follows m m' machines⟩

instance (f g : Machine → Machine)
    [same : ∀ p : TwoMachines e w, Machines e w (f p.left) (g p.right)] :
    Sim e w (Run.changeMachine f) (Run.changeMachine g) :=
  ⟨fun m m' machines => ⟨w.here, same ⟨m, m', machines⟩, ⟨.ok rfl⟩⟩⟩

instance (f g : Heap → Heap) [same : ∀ p : TwoHeaps e w, Heaps e w (f p.left) (g p.right)] :
    Sim e w (Run.changeHeap f) (Run.changeHeap g) :=
  ⟨fun m m' machines => ⟨w.here, machines.onHeap w.here (same ⟨m.heap, m'.heap, machines.heap⟩),
    ⟨.ok rfl⟩⟩⟩

instance (f g : Context → Context) [same : ∀ p : Both w Context, Alike w (f p.left) (g p.right)] :
    Sim e w (Run.changeContext f) (Run.changeContext g) :=
  ⟨fun m m' machines => ⟨w.here,
    { machines with context := same ⟨m.context, m'.context, machines.context.rel⟩ }, ⟨.ok rfl⟩⟩⟩

/-- A step of the context with a result. -/
theorem sim_onContext {x y : Run α} {f g : Context → α × Context}
    (same : ∀ p : Both w Context, Alike w (f p.left) (g p.right))
    (left : ∀ m, x m = (.ok (f m.context).1, { m with context := (f m.context).2 }) := by
      exact fun _ => rfl)
    (right : ∀ m, y m = (.ok (g m.context).1, { m with context := (g m.context).2 }) := by
      exact fun _ => rfl) :
    Sim e w x y :=
  ⟨fun m m' machines => by
    have alike := same ⟨m.context, m'.context, machines.context.rel⟩
    change Meet e w (x m) (y m')
    rw [left, right]
    exact ⟨w.here, { machines with context := ⟨alike.rel.2⟩ }, ⟨.ok alike.rel.1⟩⟩⟩

/-- The same is asked of the same system. -/
instance [Discrete α] (f : System → Nat → α) : Sim e w (Run.request f) (Run.request f) :=
  ⟨fun m m' machines => by
    change Meet e w (Run.request f m) (Run.request f m')
    unfold Run.request
    rw [← machines.outside]
    exact ⟨w.here, { machines with outside := rfl, system := machines.system },
      ⟨.ok (Discrete.rel_iff.mpr rfl)⟩⟩⟩

instance : Sim e w Run.ports Run.ports :=
  ⟨fun _ _ machines => ⟨w.here, machines, ⟨.ok (congrArg Outside.ports machines.outside)⟩⟩⟩

instance (ports : Ports) : Sim e w (Run.changePorts ports) (Run.changePorts ports) :=
  ⟨fun _ _ machines => ⟨w.here,
    { machines with
      outside := congrArg (fun outside => { outside with ports }) machines.outside
      system := machines.system }, ⟨.ok rfl⟩⟩⟩

instance (s s' : ScriptRef) (f g : Script → Script) [hs : Alike w s s']
    [same : ∀ p : Both w Script, Alike w (f p.left) (g p.right)] :
    Sim e w (Run.changeScript s f) (Run.changeScript s' g) :=
  ⟨fun m m' machines => by
    have linked : w.Has .script s.index s'.index := hs.rel
    have changed :=
      machines.scripts.modify (f := f) (g := g) linked fun a b alike => same ⟨a, b, alike.rel⟩
    exact ⟨w.here, { machines with scripts := changed }, ⟨.ok rfl⟩⟩⟩

instance (x y : Run α) [h : Sim e w x y] : Sim e w (Run.attempt x) (Run.attempt y) :=
  ⟨fun m m' machines => by
    obtain ⟨v, machines, results⟩ := h.follows m m' machines
    change Machines e v.now (x m).2 (y m').2 at machines
    change Alike v.now (x m).1 (y m').1 at results
    change Meet e w (Run.attempt x m) (Run.attempt y m')
    rw [Run.attempt_run, Run.attempt_run]
    generalize x m = r, y m' = r' at machines results
    obtain ⟨r, l⟩ := r
    obtain ⟨r', l'⟩ := r'
    obtain ⟨stop, stop', rfl, rfl, failed⟩ | ⟨a, b, rfl, rfl, same⟩ := results.except
    · cases failed.rel with
      | fault same => exact ⟨v, machines, ⟨.ok (.error same.rel)⟩⟩
      | exhausted => exact ⟨v, machines, ⟨.error .exhausted⟩⟩
    · exact ⟨v, machines, ⟨.ok (.ok same.rel)⟩⟩⟩

instance (r r' : Except Fault α) [h : Alike w r r'] : Sim e w (Run.settle r) (Run.settle r') := by
  obtain ⟨f, f', rfl, rfl, failed⟩ | ⟨a, b, rfl, rfl, same⟩ := h.except
  · exact inferInstanceAs (Sim e w (Run.fail f) (Run.fail f'))
  · exact inferInstanceAs (Sim e w (pure a) (pure b))

/-- Loops whose rounds follow each other. -/
theorem sim_iterate [Paired σ] {step step' : σ → Run (σ ⊕ α)} (w : Links)
    (round : ∀ (v : w.Later) (p : Both v.now σ), Sim e v.now (step p.left) (step' p.right))
    (n : Nat) (s s' : σ)
    [hs : Alike w s s'] : Sim e w (Run.iterate step n s) (Run.iterate step' n s') := by
  induction n generalizing s s' w with
  | zero => exact inferInstanceAs (Sim e w (throw Stop.exhausted : Run α) (throw Stop.exhausted))
  | succ n ih =>
    rw [Run.iterate_succ, Run.iterate_succ]
    refine (round w.here ⟨s, s', hs.rel⟩).seq fun v ⟨r, r', same⟩ => ?_
    cases same with
    | inl same =>
      have := Alike.mk same
      exact ih v.now (fun v' => round (v.after v')) _ _
    | inr same =>
      have := Alike.mk same
      infer_instance

end Computations

/-! ## Machines on their own -/

section Whole

variable [Paired α] {x y : Run α} {m m' m₁' : Machine}

/-- What follows a computation that comes to an end. -/
theorem Sim.ok (h : Sim e w x y) (machines : Machines e w m m') {b : α}
    (run : y m' = (.ok b, m₁')) :
    ∃ (v : w.Later) (a : α) (m₁ : Machine), Machines e v.now m₁ m₁' ∧ Alike v.now a b := by
  obtain ⟨v, later, results⟩ := h.follows m m' machines
  change Machines e v.now (x m).2 (y m').2 at later
  change Alike v.now (x m).1 (y m').1 at results
  rw [run] at later results
  obtain ⟨_, _, -, ⟨⟩, -⟩ | ⟨a, _, -, ⟨⟩, same⟩ := results.except
  exact ⟨v, a, (x m).2, later, same⟩

/-- All that can be reached in a machine is there, so that it can be alike to another machine. -/
def Whole (m : Machine) : Prop :=
  ∃ e w m', Machines e w m' m

/-- What does the same in other places leaves nothing out. -/
theorem Whole.after (whole : Whole m) (h : ∀ e w, Sim e w x x) : Whole (x m).2 := by
  obtain ⟨e, w, m', machines⟩ := whole
  obtain ⟨v, later, -⟩ := (h e w).follows m' m machines
  exact ⟨e, v.now, _, later⟩

/-- A cell that stands for another one is there. -/
theorem Machines.inside (machines : Machines e w m m') {c c' : CellRef} (h : Alike w c c') :
    c'.index < m'.heap.cells.size :=
  machines.heap.cells.lt_right h.rel

end Whole

/-! ## Reports -/

section Reports

instance : Sim e w Run.script Run.script := inferInstanceAs (Sim e w (Run.ask _) (Run.ask _))

instance (f f' : Fault) [Alike w f f'] : Sim e w (Run.messageOf f) (Run.messageOf f') :=
  inferInstanceAs (Sim e w (Run.askHeap _) (Run.askHeap _))

theorem sim_changeOwnScript {f g : Script → Script}
    (same : ∀ (v : w.Later) (p : Both v.now Script), Alike v.now (f p.left) (g p.right)) :
    Sim e w (Run.changeOwnScript f) (Run.changeOwnScript g) := by
  refine .andThen fun v s => ?_
  have := same v
  infer_instance

instance (f g : Script → Script) [same : ∀ (v : w.Later) (p : Both v.now Script), Alike v.now
    (f p.left) (g p.right)] :
    Sim e w (Run.changeOwnScript f) (Run.changeOwnScript g) := sim_changeOwnScript same

instance (note : Warning) : Sim e w (Run.notify note) (Run.notify note) := by
  refine .andThen fun v s => ?_
  have watchers : s.left.watchers = s.right.watchers := Alike.eq (w := v.now) inferInstance
  dsimp only
  rw [watchers]
  have told (p : TwoMachines e v.now) : Machines e v.now
      { p.left with logs := s.right.watchers.foldl (fun logs i =>
        logs.modify i (note :: ·)) p.left.logs }
      { p.right with
        logs := s.right.watchers.foldl (fun logs i => logs.modify i (note :: ·)) p.right.logs } :=
    { p.machines with
      logs :=
        congrArg (fun logs => s.right.watchers.foldl (fun logs i => logs.modify i (note :: ·)) logs)
          p.machines.logs
      watched := (Machine.size_foldl_modify _ note _).trans p.machines.watched }
  infer_instance

instance (message : String) (line : UInt32) (trace : Bool) :
    Sim e w (Run.report message line trace) (Run.report message line trace) :=
  inferInstanceAs (Sim e w (_ >>= _) (_ >>= _))

/-- What depends on the flags and the line of the context. -/
theorem sim_atLine [Paired α] {f g : Context → Run α}
    (h : ∀ (v : w.Later) (p : Both v.now Context), p.left.flags = p.right.flags →
      p.left.line = p.right.line →
      Sim e v.now (f p.left) (g p.right)) : Sim e w (Run.askContext id >>= f) (Run.askContext id >>=
        g) :=
  .andThen fun v p => h v p (Alike.eq (w := v.now) inferInstance)
    (Alike.eq (w := v.now) inferInstance)

instance (message : String) : Sim e w (Run.warn message) (Run.warn message) :=
  sim_atLine fun v p flags line => by
    rw [flags, line]
    infer_instance

instance (message : String) (line : UInt32) :
    Sim e w (Run.reportError message line) (Run.reportError message line) :=
  inferInstanceAs (Sim e w (_ >>= _) (_ >>= _))

instance (message : String) : Sim e w (Run.traceTaint message) (Run.traceTaint message) :=
  sim_atLine fun v p flags line => by
    rw [flags, line]
    infer_instance

instance (message : String) : Sim e w (Run.traceLogic message) (Run.traceLogic message) :=
  sim_atLine fun v p flags line => by
    rw [flags, line]
    infer_instance

instance (message : String) : Sim e w (Run.softFault message) (Run.softFault message) :=
  inferInstanceAs (Sim e w (_ >>= _) (_ >>= _))

end Reports

/-! ## Frames -/

instance : Sim e w Run.createFrame Run.createFrame :=
  inferInstanceAs (Sim e w (Run.changeContext _) (Run.changeContext _))

instance : Sim e w Run.killFrame Run.killFrame :=
  sim_onContext (f := (·.killFrame)) (g := (·.killFrame)) fun _ => inferInstance

instance (cell cell' : CellRef) [Alike w cell cell'] : Sim e w (Run.push cell) (Run.push cell') :=
  inferInstanceAs (Sim e w (Run.changeContext _) (Run.changeContext _))

instance : Sim e w Run.pop Run.pop := by
  refine (sim_onContext (f := (·.pop)) (g := (·.pop)) fun _ => inferInstance).seq
    fun v ⟨top, top', same⟩ => ?_
  obtain ⟨rfl, rfl⟩ | ⟨cell, cell', rfl, rfl, _⟩ := (Alike.mk same).option <;> infer_instance

/-! ## Taint -/

instance (cells cells' : List CellRef) (cell cell' : CellRef) (what : String) [Alike w cells cells']
    [Alike w cell cell'] :
    Sim e w (Run.propagate cells cell what) (Run.propagate cells' cell' what) :=
  inferInstanceAs (Sim e w (_ >>= _) (_ >>= _))

theorem Alike.findIdx?_eq [Paired α] {as bs : List α} (h : Alike w as bs) {p q : α → Bool}
    (hp : ∀ a b, Alike w a b → p a = q b) : as.findIdx? p = bs.findIdx? q := by
  induction as generalizing bs with
  | nil =>
    obtain ⟨-, rfl⟩ | ⟨_, _, _, _, ⟨⟩, -⟩ := h.list
    rfl
  | cons a as ih =>
    obtain ⟨⟨⟩, -⟩ | ⟨_, b, _, bs, ⟨rfl, rfl⟩, rfl, hd, tl⟩ := h.list
    rw [List.findIdx?_cons, List.findIdx?_cons, hp a b hd, ih tl]

instance (name : String) (args args' : List CellRef) [ha : Alike w args args'] :
    Sim e w (Run.refuseTainted name args) (Run.refuseTainted name args') := by
  have first (p : TwoHeaps e w) :
      Alike w ((args.findIdx? p.left.isTainted).bind fun i => (args[i]?).map (i, ·))
      ((args'.findIdx? p.right.isTainted).bind fun i => (args'[i]?).map (i, ·)) := by
    have same (c c' : CellRef) (_ : Alike w c c') : p.left.isTainted c = p.right.isTainted c' :=
      Alike.eq (w := w) inferInstance
    rw [ha.findIdx?_eq same]
    cases args'.findIdx? p.right.isTainted with
    | none => exact ⟨.none⟩
    | some i => exact (inferInstance : Alike w args[i]? args'[i]?).map fun _ _ _ => inferInstance
  refine .andThen fun v ⟨found, found', same⟩ => ?_
  obtain ⟨rfl, rfl⟩ | ⟨⟨i, cell⟩, ⟨i', cell'⟩, rfl, rfl, which⟩ := (Alike.mk same).option
  · infer_instance
  · obtain rfl : i = i' := which.rel.1
    have := Alike.mk which.rel.2
    infer_instance

instance (name : String) (cell cell' : CellRef) [Alike w cell cell'] :
    Sim e w (Run.taintResult name cell) (Run.taintResult name cell') :=
      inferInstanceAs (Sim e w (_ >>= _) (_ >>= _))

instance (cell cell' : CellRef) [Alike w cell cell'] :
    Sim e w (Run.cleanResult cell) (Run.cleanResult cell') :=
  inferInstanceAs (Sim e w (_ >>= _) (_ >>= _))

/-! ## Evaluators -/

/-- An evaluator whose blocks and calls do the same in other places. -/
class Mirrors (e : Surroundings) (self : Reentry) : Prop where
  block : ∀ w b resume, Sim e w (self.block b resume) (self.block b resume)
  call : ∀ w c c' message args args', Alike w c c' → Alike w args args' →
    Sim e w (self.call c message args) (self.call c' message args')
  invoke : ∀ w f f' message args args', Alike w f f' → Alike w args args' →
    Sim e w (self.invoke f message args) (self.invoke f' message args')

section Evaluators

variable (self : Reentry) [Mirrors e self]

instance (b : Block) (resume : Option Cursor) :
    Sim e w (self.block b resume) (self.block b resume) :=
  Mirrors.block w b resume

instance (c c' : CellRef) (message : Option String) (args args' : List CellRef) [hc : Alike w c c']
    [ha : Alike w args args'] :
    Sim e w (self.call c message args) (self.call c' message args') :=
      Mirrors.call w c c' message args args' hc ha

instance (f f' : FunctionRef) (message : Option String) (args args' : List CellRef)
    [hf : Alike w f f'] [ha : Alike w args args'] :
    Sim e w (self.invoke f message args) (self.invoke f' message args') :=
  Mirrors.invoke w f f' message args args' hf ha

end Evaluators

end CellScript.Mirror
