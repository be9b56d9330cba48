import CellScript.Machine.HostCall
import CellScript.Proofs.Machine.Sound
import CellScript.Proofs.Run.Calm
import CellScript.Proofs.Run.Monitor
import CellScript.Sort

/-!
# Relations between computations

Two evaluators differ in what they do to blocks and calls, and nowhere else. Whatever is to be said
about how they are related, it has to be said of blocks and calls, and it has to be passed on by
everything that is made of them. A `Run.Relation` is such a thing to say: it holds of a computation
and itself where the computation is a plain operation that does not look at what monitors it, and
sequencing passes it on. `Run.Related` is its class form: each function has an instance, and
computations are related when instances for their parts are found.

## Main definitions

* `Machine.Serves` — what plain operations leave.
* `Machine.Tells` — of calls, nothing is left but what watchers were told.
* `Run.Settles` — computations that leave no trace of throws, and nothing of calls.
* `Run.Relation` — a relation that sequencing passes on, also in host code.
* `Run.Relation.IsSighted` — a relation that holds of plain operations whatever they look at.
* `Run.Relation.IsCurious`, `Run.Relation.IsWatchful` — a relation that holds where a computation
  looks at its monitor, and where it sets flags.
* `Run.Relation.IsRecording` — a relation that holds where host code throws.
* `Run.Related`, `Host.Related` — related computations.
* `Reentry.RelatedCalls`, `Reentry.CallsBack`, `Reentry.Related` — evaluators with related calls.

## Main statements

* `Run.Related.of_serves` — plain operations are related to themselves.
* Instances for sequencing, choice, loops over lists, sorting and reports.
-/

namespace CellScript

/-- What plain operations leave: nothing has changed in code, on the stacks of the context or in the
number of calls, maps are sound if they were, and names are bound in the current scope alone. -/
structure Machine.Serves (m m' : Machine) : Prop where
  quiet : m.Quiet m'
  maps : m.heap.MapsSound → m'.heap.MapsSound
  calls : m'.activeCalls = m.activeCalls
  stays : m.Stays m'

theorem Machine.Serves.refl (m : Machine) : m.Serves m :=
  ⟨⟨rfl, rfl, rfl, rfl, rfl⟩, id, rfl, .refl m⟩

/-- Another heap with the same functions and variables. -/
theorem Machine.Serves.of_heap {m : Machine} {h : Heap} (functions : h.functions = m.heap.functions)
    (vars : m.heap.KeepsBut none h) (maps : m.heap.MapsSound → h.MapsSound) :
    m.Serves { m with heap := h } :=
  ⟨⟨by simp only [Machine.code, functions], rfl, rfl, rfl, rfl⟩, maps, rfl,
    .of_code rfl rfl vars functions⟩

/-- What a change of a script leaves alone is the same of all scripts. -/
theorem Script.map_modify {β : Type} (g : Script → β) {f : Script → Script}
    (same : ∀ script, g (f script) = g script) (scripts : Array Script) (i : Nat) :
    (scripts.modify i f).map g = scripts.map g := by
  refine Array.ext (by simp) fun i h₁ h₂ => ?_
  simp only [Array.getElem_map, Array.getElem_modify]
  split
  · exact same _
  · rfl

/-- A change of a script that leaves its code alone. -/
theorem Machine.code_modify (m : Machine) (s : ScriptRef) {f : Script → Script}
    (h : ∀ script, (f script).main = script.main ∧ (f script).environment = script.environment) :
    ({ m with scripts := m.scripts.modify s.index f } : Machine).code = m.code := by
  simp only [Machine.code]
  congr 1
  exact Script.map_modify _ (fun script => by rw [(h script).1, (h script).2]) m.scripts s.index

/-- What a script has to do with calls: who is told of them, how many there were, and how many may
be in progress. -/
def Script.books (s : Script) : List Nat × Profiler × Nat :=
  (s.watchers, s.profiler, s.config.maxCallDepth)

/-- The watchers of the current script were told some things. In all that has to do with calls the
machine is as it was. -/
structure Machine.Tells (notes : List Warning) (m m' : Machine) : Prop where
  traces : ∀ w ∈ notes, w.trace → m.context.flags.tracesMore
  logs : m'.logs = m.noted (notes.map (m.context.script, ·))
  script : m'.context.script = m.context.script
  limit : m'.context.maxDepth = m.context.maxDepth
  calls : m'.activeCalls = m.activeCalls
  books : m'.scripts.map (·.books) = m.scripts.map (·.books)

/-- A change of a script that leaves its books alone. -/
theorem Machine.Tells.modifyScript (m : Machine) (s : ScriptRef) {f : Script → Script}
    (h : ∀ script, (f script).books = script.books) :
    m.Tells [] { m with scripts := m.scripts.modify s.index f } where
  traces := nofun
  logs := rfl
  script := rfl
  limit := rfl
  calls := rfl
  books := Script.map_modify _ h m.scripts s.index

/-- A computation that leaves no trace of throws where there is none, and nothing of calls but what
it tells. -/
structure Run.Settles {α : Type} (x : Run α) (m : Machine) : Prop where
  trace : m.context.trace = [] → (x m).2.context.trace = []
  tells : ∃ notes, m.Tells notes (x m).2

namespace Run

variable {α : Type} {m : Machine}

/-- A computation that leaves the trace alone. -/
theorem Settles.of_same {x : Run α} (trace : (x m).2.context.trace = m.context.trace)
    (tells : ∃ notes, m.Tells notes (x m).2 := by exact ⟨[], nofun, rfl, rfl, rfl, rfl, rfl⟩) :
    Settles x m :=
  ⟨trace.trans, tells⟩

theorem Settles.onHeap (op : HeapM α) : Settles (onHeap op) m := by
  have same : ∃ heap, (Run.onHeap op m).2 = { m with heap } := by
    rw [onHeap_run]
    rcases op m.heap with ⟨_ | _, heap⟩ <;> exact ⟨heap, rfl⟩
  obtain ⟨heap, same⟩ := same
  exact .of_same (by rw [same]) (by rw [same]; exact ⟨[], nofun, rfl, rfl, rfl, rfl, rfl⟩)

theorem Settles.of_reports {x : Run Unit} (h : Reports x) : Settles x m := by
  obtain ⟨notes, traces, run⟩ := h m
  exact .of_same (by rw [run]) (by rw [run]; exact ⟨notes, traces, rfl, rfl, rfl, rfl, rfl⟩)

end Run

/-- How a script goes on with what host code has come to: it fails where host code failed fatally,
in the same way. -/
structure Host.PassesOn {α β : Type} (k : Except HostFault α → Run β) : Prop where
  fatal : ∀ text, k (.error (.fatal text)) = Run.fail (.fatal text)
  taint : ∀ text, k (.error (.taintViolation text)) = Run.fail (.taintViolation text)

/-- Throw a text out of a call of host code, which is recorded. -/
def Host.throwText (description text : String) : Run CellRef := do
  let c ← Run.askContext id
  Run.changeContext (·.recordFrame ⟨description, c.currentSource, c.line⟩)
  Run.fail (.thrown (← HeapM.text text))

/-- The text is that of a new cell, and the call is recorded on top of what was recorded before. -/
theorem Host.throwText_run (description text : String) (m : Machine) :
    throwText description text m =
      (.error (.fault (.thrown ⟨m.heap.cells.size⟩)),
        { m with
          heap := { m.heap with cells := m.heap.cells.push (.clean (.text text)) }
          context :=
            m.context.recordFrame ⟨description, m.context.currentSource, m.context.line⟩ }) := rfl

theorem Host.blind_throwText (description text : String) : Run.Blind (throwText description text) :=
  .of_same fun _ _ => rfl

theorem Host.serves_throwText (description text : String) (m : Machine) :
    m.Serves (throwText description text m).2 :=
  ⟨⟨rfl, rfl, rfl, rfl, rfl⟩, id, rfl, .of_code⟩

/-- A relation between two computations from a machine. It holds of plain operations that are blind
to monitors, and whatever is computed step by step keeps it. Host code has failures of its own, so
it has a relation of its own. -/
structure Run.Relation where
  holds : {α : Type} → Run α → Run α → Machine → Prop
  onHost : {α : Type} → HostRun α → HostRun α → Machine → Prop
  serves : ∀ {α : Type} {x : Run α} {m : Machine}, Blind x → m.Serves (x m).2 → Settles x m →
    holds x x m
  bind : ∀ {α β : Type} {x y : Run α} {f g : α → Run β} {m : Machine}, holds x y m →
    (∀ a m', x m = (.ok a, m') → holds (f a) (g a) m') → holds (x >>= f) (y >>= g) m
  hostServes : ∀ {α : Type} {x : HostRun α} {m : Machine}, Blind x.run → m.Serves (x m).2 →
    Settles x.run m → onHost x x m
  hostRun : ∀ {α : Type} {x y : Run α} {m : Machine}, holds x y m →
    onHost (Host.run x) (Host.run y) m
  hostBind : ∀ {α β : Type} {x y : HostRun α} {f g : α → HostRun β} {m : Machine}, onHost x y m →
    (∀ a m', x m = (.ok (.ok a), m') → onHost (f a) (g a) m') → onHost (x >>= f) (y >>= g) m
  hostEnds : ∀ {α β : Type} {x y : HostRun α} {f g : Except HostFault α → Run β} {m : Machine},
    onHost x y m →
    Host.PassesOn f → (∀ r m', x m = (.ok r, m') → holds (f r) (g r) m') →
    holds (x.run >>= f) (y.run >>= g) m

namespace Run

variable {α β : Type} {ρ : Relation}

/-- A relation for which host code is nothing special. -/
def Relation.plain (holds : {α : Type} → Run α → Run α → Machine → Prop)
    (serves : ∀ {α : Type} {x : Run α} {m : Machine}, Blind x → m.Serves (x m).2 → Settles x m →
      holds x x m)
    (bind : ∀ {α β : Type} {x y : Run α} {f g : α → Run β} {m : Machine}, holds x y m →
      (∀ a m', x m = (.ok a, m') → holds (f a) (g a) m') →
      holds (x >>= f) (y >>= g) m) : Relation where
  holds := holds
  onHost x y m := holds x.run y.run m
  serves := serves
  bind := bind
  hostServes := serves
  hostRun h := bind h fun _ _ _ => serves (.of_same fun _ _ => rfl) (.refl _) (.of_same rfl)
  hostBind h next := bind h fun r m' run => by
    cases r with
    | ok a => exact next a m' run
    | error e => exact serves (.of_same fun _ _ => rfl) (.refl _) (.of_same rfl)
  hostEnds h _ next := bind h next

/-- A relation that holds of plain operations also where they look at what monitors them. -/
class Relation.IsSighted (ρ : Relation) : Prop where
  serves : ∀ {α : Type} {x : Run α} {m : Machine}, m.Serves (x m).2 → Settles x m → ρ.holds x x m

/-- A relation that holds where a computation looks at what monitors it. -/
class Relation.IsCurious (ρ : Relation) : Prop where
  askContext : ∀ {α : Type} (f : Context → α) (m : Machine), ρ.holds (askContext f) (askContext f) m
  script : ∀ m : Machine, ρ.holds script script m

/-- A relation that also holds where a computation sets flags. -/
class Relation.IsWatchful (ρ : Relation) : Prop extends ρ.IsCurious where
  setFlags : ∀ (flags : DebugFlags) (m : Machine),
    ρ.holds (changeContext ({ · with flags })) (changeContext ({ · with flags })) m
  keepFlags : ∀ (flags : DebugFlags) (m : Machine),
    ρ.holds (changeOwnScript fun s => { s with config := { s.config with debug := flags } })
      (changeOwnScript fun s => { s with config := { s.config with debug := flags } }) m

/-- A relation that holds where a text is thrown out of host code, which is recorded. -/
class Relation.IsRecording (ρ : Relation) : Prop where
  throwText : ∀ {description text : String} {m : Machine},
    ρ.holds (Host.throwText description text) (Host.throwText description text) m

/-- Two computations are related, wherever they start. -/
class Related (ρ : Relation) (x y : Run α) : Prop where
  holds : ∀ m, ρ.holds x y m

/-- A plain operation. -/
theorem Related.of_serves {x : Run α} (h : ∀ m : Machine, m.Serves (x m).2)
    (blind : Blind x := by first | infer_instance | exact .of_same fun _ _ => rfl)
    (settles : ∀ m : Machine, Settles x m := by exact fun _ => .of_same rfl) : Related ρ x x :=
  ⟨fun m => ρ.serves blind (h m) (settles m)⟩

/-- A plain operation that may look at its monitor. -/
theorem Related.of_sighted [sighted : ρ.IsSighted] {x : Run α} (h : ∀ m : Machine, m.Serves (x m).2)
    (settles : ∀ m : Machine, Settles x m := by exact fun _ => .of_same rfl) : Related ρ x x :=
  ⟨fun m => sighted.serves (h m) (settles m)⟩

/-- A computation and one that depends on its result and on where it has ended. -/
theorem Related.flow {x y : Run α} {f g : α → Run β} [hx : Related ρ x y]
    (h : ∀ m a m', x m = (.ok a, m') → ρ.holds (f a) (g a) m') : Related ρ (x >>= f) (y >>= g) :=
  ⟨fun m => ρ.bind (hx.holds m) (h m)⟩

instance Related.bind (x y : Run α) (f g : α → Run β) [Related ρ x y]
    [hf : ∀ a, Related ρ (f a) (g a)] :
    Related ρ (x >>= f) (y >>= g) :=
  .flow fun _ a m' _ => (hf a).holds m'

/-- A computation and one that depends on its result. -/
theorem Related.seq {x y : Run α} {f g : α → Run β} (hx : Related ρ x y)
    (hf : ∀ a, Related ρ (f a) (g a)) :
    Related ρ (x >>= f) (y >>= g) := inferInstance

/-- The same when the first computations are known to be related. -/
theorem Related.andThen {x y : Run α} {f g : α → Run β} [Related ρ x y]
    (h : ∀ a, Related ρ (f a) (g a)) :
    Related ρ (x >>= f) (y >>= g) := inferInstance

instance (a : α) : Related ρ (pure a) (pure a) := .of_serves .refl

instance (f : Fault) : Related ρ (fail f : Run α) (fail f) := .of_serves .refl

instance (stop : Stop) : Related ρ (throw stop : Run α) (throw stop) := .of_serves .refl

instance (r : Except Fault α) : Related ρ (settle r) (settle r) := by
  cases r <;> simp only [settle_ok, settle_error] <;> infer_instance

instance (f : Machine → α) [Machine.Apart f] : Related ρ (ask f) (ask f) := .of_serves .refl

instance (f : Heap → α) : Related ρ (askHeap f) (askHeap f) := .of_serves .refl

instance (f : Context → α) [Context.Apart f] : Related ρ (askContext f) (askContext f) :=
  .of_serves .refl

instance (priority := low) [ρ.IsSighted] (f : Machine → α) : Related ρ (ask f) (ask f) :=
  .of_sighted .refl

instance (priority := low) [curious : ρ.IsCurious] (f : Context → α) :
    Related ρ (askContext f) (askContext f) :=
  ⟨curious.askContext f⟩

instance [curious : ρ.IsCurious] : Related ρ script script := ⟨curious.script⟩

instance [watchful : ρ.IsWatchful] (flags : DebugFlags) :
    Related ρ (changeContext ({ · with flags })) (changeContext ({ · with flags })) :=
      ⟨watchful.setFlags flags⟩

instance [watchful : ρ.IsWatchful] (flags : DebugFlags) :
    Related ρ (changeOwnScript fun s => { s with config := { s.config with debug := flags } })
      (changeOwnScript fun s => { s with config := { s.config with debug := flags } }) :=
        ⟨watchful.keepFlags flags⟩

/-- Going on from a context, from which nothing of its monitor is used. -/
theorem Related.ofContext {f g : Context → Run α} (h : ∀ c, Related ρ (f c) (g c))
    (hf : ∀ c, f c = f (c.under default) := by exact fun _ => rfl)
    (hg : ∀ c, g c = g (c.under default) := by exact fun _ => rfl) :
    Related ρ (askContext id >>= f) (askContext id >>= g) := by
  have : Context.Apart (·.under default) := ⟨fun _ _ => rfl⟩
  have bare {f : Context → Run α} (hf : ∀ c, f c = f (c.under default)) :
      askContext id >>= f = askContext (·.under default) >>= f :=
        funext fun m => congrFun (hf m.context) m
  rw [bare hf, bare hg]
  exact .andThen h

theorem serves_onHeap (op : HeapM α) [hop : op.Calm] (m : Machine) : m.Serves (onHeap op m).2 := by
  have functions := hop.functions m.heap
  have maps := hop.maps m.heap
  have vars := hop.vars m.heap
  rw [onHeap_run]
  cases run : op m.heap with
  | mk r h' =>
    rw [run] at functions maps vars
    cases r <;> exact .of_heap functions vars maps

instance (op : HeapM α) [op.Calm] : Related ρ (onHeap op) (onHeap op) :=
  .of_serves (serves_onHeap op) inferInstance fun _ => .onHeap op

instance (op : HeapM α) [op.Calm] : Related ρ (liftM op : Run α) (liftM op) :=
  inferInstanceAs (Related ρ (onHeap op) (onHeap op))

/-- A change of the heap that leaves functions, maps and variables alone. -/
theorem Related.changeHeap {f : Heap → Heap} (h : ∀ heap : Heap, heap.Spares (f heap)) :
    Related ρ (changeHeap f) (changeHeap f) :=
  .of_serves fun m =>
    .of_heap (h m.heap).functions (.of_vars (h m.heap).vars) fun sound =>
      sound.of_tables (h m.heap).tables

/-- Going on from the scope of a machine. -/
theorem Related.inScope {f g : ScopeChain → Run α}
    (h : ∀ m : Machine, ρ.holds (f m.context.scope) (g m.context.scope) m) :
    Related ρ (askContext (·.scope) >>= f) (askContext (·.scope) >>= g) :=
  .flow fun m _ _ asked => by
    cases asked
    exact h m

/-- A name is bound in one of the containers of the current scope. -/
theorem Relation.holds_putVariable (ρ : Relation) {m : Machine} {f : Heap → Heap} {vars : VarsRef}
    (seen : vars ∈ m.context.scope.containers) (name : String) (cell : CellRef)
    (bound : f m.heap = m.heap.putVariable vars name cell) :
    ρ.holds (Run.changeHeap f) (Run.changeHeap f) m := by
  refine ρ.serves inferInstance ?_ (.of_same rfl)
  rw [changeHeap_run, bound]
  exact ⟨⟨rfl, rfl, rfl, rfl, rfl⟩, fun sound => sound.of_tables rfl, rfl,
    .putVariable seen name cell⟩

instance (c : Prop) [Decidable c] (x y x' y' : Run α) [Related ρ x y] [Related ρ x' y'] :
    Related ρ (if c then x else x') (if c then y else y') := by
  split <;> infer_instance

/-! ## Scripts -/

/-- Going on from the script of the context of a machine, from which nothing of its monitor is
used. -/
theorem Related.atScript {f g : Script → Run α}
    (h : ∀ m : Machine, ρ.holds (f (m.own.under default)) (g (m.own.under default)) m)
    (hf : ∀ s, f s = f (s.under default) := by exact fun _ => rfl)
    (hg : ∀ s, g s = g (s.under default) := by exact fun _ => rfl) :
    Related ρ (script >>= f) (script >>= g) := by
  have : Machine.Apart (·.own.under default) := ⟨fun m o => by
    obtain ⟨p, own⟩ := m.getD_under' o m.context.script.index
    exact congrArg (·.under default) own⟩
  have bare {f : Script → Run α} (hf : ∀ s, f s = f (s.under default)) :
      script >>= f = ask (·.own.under default) >>= f := funext fun m => congrFun (hf m.own) m
  rw [bare hf, bare hg]
  refine .flow fun m _ _ asked => ?_
  cases asked
  exact h m

/-- The same wherever it goes on. -/
theorem Related.ofScript {f g : Script → Run α} (h : ∀ s, Related ρ (f s) (g s))
    (hf : ∀ s, f s = f (s.under default) := by exact fun _ => rfl)
    (hg : ∀ s, g s = g (s.under default) := by exact fun _ => rfl) :
    Related ρ (script >>= f) (script >>= g) := .atScript (fun m => (h _).holds m) hf hg

/-- A change of a script that leaves its code and its variables alone. -/
theorem Related.changeOwnScript [ρ.IsSighted] {f : Script → Script}
    (h : ∀ script, (f script).main = script.main ∧ (f script).environment = script.environment)
    (globals : ∀ script, (f script).globals = script.globals := by exact fun _ => rfl)
    (books : ∀ script, (f script).books = script.books := by exact fun _ => rfl) :
    Related ρ (changeOwnScript f) (changeOwnScript f) :=
  .andThen fun s => .of_sighted
    (fun m => ⟨⟨Machine.code_modify m s h, rfl, rfl, rfl, rfl⟩, id, rfl, .modifyScript s globals⟩)
    fun m => .of_same rfl ⟨[], .modifyScript m s books⟩

instance [ρ.IsSighted] : ρ.IsWatchful where
  askContext f m := (Related.of_sighted .refl : Related ρ (askContext f) (askContext f)).holds m
  script m := (Related.of_sighted .refl : Related ρ script script).holds m
  setFlags flags m :=
    (Related.of_sighted fun _ => ⟨⟨rfl, rfl, rfl, rfl, rfl⟩, id, rfl, .of_code⟩ : Related
      ρ (changeContext _) _).holds m
  keepFlags flags m :=
    have kept :
        Related ρ (changeOwnScript fun s => { s with config := { s.config with debug := flags } })
        (changeOwnScript fun s => { s with config := { s.config with debug := flags } }) :=
      .changeOwnScript fun _ => ⟨rfl, rfl⟩
    kept.holds m

/-! ## Reports -/

theorem Related.of_reports {x : Run Unit} (h : Reports x) : Related ρ x x := by
  refine .of_serves (fun m => ?_) (.of_reports h) fun _ => .of_reports h
  obtain ⟨logs, run⟩ := h.run m
  rw [run]
  exact ⟨⟨rfl, rfl, rfl, rfl, rfl⟩, id, rfl, .of_code⟩

instance (f : Fault) : Related ρ (messageOf f) (messageOf f) :=
  inferInstanceAs (Related ρ (askHeap _) (askHeap _))

instance (message : String) (line : UInt32) (source : Option String) :
    Related ρ (notify ⟨message, line, source, false⟩) (notify ⟨message, line, source, false⟩) :=
  .of_reports fun _ => reports_notify nofun

instance (message : String) (line : UInt32) :
    Related ρ (report message line false) (report message line false) :=
  .of_reports (reports_report message line)

instance (message : String) : Related ρ (warn message) (warn message) :=
  .of_reports (reports_warn message)

instance (message : String) (line : UInt32) :
    Related ρ (reportError message line) (reportError message line) :=
  .of_reports (reports_reportError message line)

instance (message : String) : Related ρ (traceTaint message) (traceTaint message) :=
  .of_reports (reports_traceTaint message)

instance (message : String) : Related ρ (traceLogic message) (traceLogic message) :=
  .of_reports (reports_traceLogic message)

/-- Warnings are thrown under every monitor or under none. -/
instance (message : String) : Related ρ (softFault message) (softFault message) := by
  have flags : softFault message = (do
      if ← askContext (·.flags.throwWarnings) then
        let cell ← onHeap (HeapM.text message)
        fail (.thrown cell)
      else
        warn message
        onHeap HeapM.null) := rfl
  rw [flags]
  infer_instance

/-! ## Loops over lists -/

theorem Related.forIn {items : List α} {b : β} {f g : α → β → Run (ForInStep β)}
    (h : ∀ a b, Related ρ (f a b) (g a b)) : Related ρ (forIn items b f) (forIn items b g) := by
  induction items generalizing b with
  | nil =>
    rw [List.forIn_nil, List.forIn_nil]
    infer_instance
  | cons a items ih =>
    rw [List.forIn_cons, List.forIn_cons]
    refine .andThen fun next => ?_
    cases next with
    | done b => infer_instance
    | yield b => exact ih

instance (items : List α) (b : β) (f g : α → β → Run (ForInStep β))
    [h : ∀ a b, Related ρ (f a b) (g a b)] :
    Related ρ (forIn items b f) (forIn items b g) := .forIn h

instance (f g : α → Run β) (items : List α) [∀ a, Related ρ (f a) (g a)] :
    Related ρ (items.mapM f) (items.mapM g) := by
  induction items with
  | nil =>
    rw [List.mapM_nil, List.mapM_nil]
    infer_instance
  | cons a items ih =>
    rw [List.mapM_cons, List.mapM_cons]
    infer_instance

instance (f g : α → Run Bool) (items acc : List α) [∀ a, Related ρ (f a) (g a)] :
    Related ρ (items.filterAuxM f acc) (items.filterAuxM g acc) := by
  induction items generalizing acc with
  | nil => exact inferInstanceAs (Related ρ (pure acc) (pure acc))
  | cons a items ih => exact .andThen fun keep => ih _

instance (f g : α → Run Bool) (items : List α) [∀ a, Related ρ (f a) (g a)] :
    Related ρ (items.filterM f) (items.filterM g) :=
  inferInstanceAs (Related ρ (items.filterAuxM f [] >>= _) (items.filterAuxM g [] >>= _))

end Run

/-! ## Sorting -/

section Sorting

variable {m : Type → Type} [Monad m] {α : Type} {before before' : α → α → m Bool}
  (related : ∀ {β : Type}, m β → m β → Prop)
  (atPure : ∀ {β : Type} (b : β), related (pure b) (pure b))
  (atBind : ∀ {β γ : Type} {x y : m β} {f g : β → m γ}, related x y → (∀ b, related (f b) (g b)) →
    related (x >>= f) (y >>= g))
  (h : ∀ a b, related (before a b) (before' a b))

include atPure atBind h in
/-- Merging with related comparisons is related, for whatever relation computations keep. -/
theorem mergeSorted_related (xs ys : List α) :
    related (mergeSorted before xs ys) (mergeSorted before' xs ys) := by
  fun_induction mergeSorted before xs ys with
  | case1 ys =>
    rw [mergeSorted]
    exact atPure ys
  | case2 xs =>
    rw [mergeSorted]
    · exact atPure xs
    · assumption
  | case3 x xs y ys later earlier =>
    rw [mergeSorted]
    refine atBind (h y x) fun first => ?_
    cases first with
    | true => exact atBind later fun rest => atPure _
    | false => exact atBind earlier fun rest => atPure _

include atPure atBind h in
theorem sortBy_related (items : List α) : related (sortBy before items) (sortBy before' items) := by
  induction items using sortBy.induct with
  | case1 items short =>
    unfold sortBy
    rw [dif_pos short, dif_pos short]
    exact atPure items
  | case2 items long left right =>
    unfold sortBy
    rw [dif_neg long, dif_neg long]
    exact atBind left fun left => atBind right fun right =>
      mergeSorted_related related atPure atBind h left right

end Sorting

instance {α : Type} {ρ : Run.Relation} (f g : α → α → Run Bool) (items : List α)
    [h : ∀ a b, Run.Related ρ (f a b) (g a b)] : Run.Related ρ (sortBy f items) (sortBy g items) :=
  sortBy_related (Run.Related ρ) (fun _ => inferInstance) (fun _ h => .andThen h) h items

/-! ## Host code -/

namespace Host

variable {α β : Type} {ρ : Run.Relation}

theorem bind_run (x : HostRun α) (f : α → HostRun β) (m : Machine) :
    (x >>= f) m = match x m with
      | (.ok (.ok a), m) => f a m
      | (.ok (.error e), m) => (.ok (.error e), m)
      | (.error stop, m) => (.error stop, m) := by
  change ExceptT.bindCont (ExceptT.bindCont f : Except HostFault α → Run (Except HostFault β))
    (x m).1 (x m).2 = _
  rcases x m with ⟨_ | _ | _, _⟩ <;> rfl

theorem run_run (x : Run α) (m : Machine) :
    run x m = match x m with
      | (.ok a, m) => (.ok (.ok a), m)
      | (.error stop, m) => (.error stop, m) := by
  change ExceptT.bindCont (fun a => pure (.ok a) : α → Run (Except HostFault α)) (x m).1 (x m).2 = _
  rcases x m with ⟨_ | _, _⟩ <;> rfl

/-- Two computations of host code are related, wherever they start. -/
class Related (ρ : Run.Relation) (x y : HostRun α) : Prop where
  holds : ∀ m, ρ.onHost x y m

instance (a : α) : Related ρ (pure a) (pure a) :=
  ⟨fun m => ρ.hostServes (.of_same fun _ _ => rfl) (.refl m) (.of_same rfl)⟩

instance (e : HostFault) : Related ρ (throw e : HostRun α) (throw e) :=
  ⟨fun m => ρ.hostServes (.of_same fun _ _ => rfl) (.refl m) (.of_same rfl)⟩

instance (x y : HostRun α) (f g : α → HostRun β) [hx : Related ρ x y]
    [hf : ∀ a, Related ρ (f a) (g a)] :
    Related ρ (x >>= f) (y >>= g) :=
  ⟨fun m => ρ.hostBind (hx.holds m) fun a m' _ => (hf a).holds m'⟩

theorem Related.andThen {x y : HostRun α} {f g : α → HostRun β} [Related ρ x y]
    (h : ∀ a, Related ρ (f a) (g a)) :
    Related ρ (x >>= f) (y >>= g) := inferInstance

instance (c : Prop) [Decidable c] (x y x' y' : HostRun α) [Related ρ x y] [Related ρ x' y'] :
    Related ρ (if c then x else x') (if c then y else y') := by
  split <;> infer_instance

instance (x y : Run α) [h : Run.Related ρ x y] : Related ρ (run x) (run y) :=
  ⟨fun m => ρ.hostRun (h.holds m)⟩

instance (f g : α → α → HostRun Bool) (items : List α) [h : ∀ a b, Related ρ (f a b) (g a b)] :
    Related ρ (sortBy f items) (sortBy g items) :=
  sortBy_related (Related ρ) (fun _ => inferInstance) (fun _ h => .andThen h) h items

/-- What a script makes of host code that it has called. -/
theorem Related.ends {x y : HostRun α} {f g : Except HostFault α → Run β} [hx : Related ρ x y]
    (passes : PassesOn f) (h : ∀ r, Run.Related ρ (f r) (g r)) :
    Run.Related ρ (x.run >>= f) (y.run >>= g) :=
  ⟨fun m => ρ.hostEnds (hx.holds m) passes fun r m' _ => (h r).holds m'⟩

/-- Call a function for host code, to which a fault of the function is a host fault. -/
def callBack (self : Reentry) (function : FunctionRef) (message : Option String)
    (args : List CellRef) :
    HostRun CellRef := do
  match ← run (Run.attempt (self.invoke function message args)) with
  | .error f => throw (← run (Run.askHeap fun h => faultOf h f))
  | .ok result => return result

end Host

/-- Two evaluators with related calls. -/
class Reentry.RelatedCalls (ρ : Run.Relation) (s s' : Reentry) : Prop where
  call : ∀ target message args, Run.Related ρ (s.call target message args)
    (s'.call target message args)
  invoke : ∀ f message args, Run.Related ρ (s.invoke f message args) (s'.invoke f message args)

/-- Two evaluators that are related where host code calls back. -/
class Reentry.CallsBack (ρ : Run.Relation) (s s' : Reentry) : Prop where
  callBack : ∀ f message args, Host.Related ρ (Host.callBack s f message args)
    (Host.callBack s' f message args)

/-- Two evaluators with related calls, also where host code calls back. -/
class Reentry.Related (ρ : Run.Relation) (s s' : Reentry) : Prop extends
  Reentry.RelatedCalls ρ s s', Reentry.CallsBack ρ s s'

attribute [instance] Reentry.RelatedCalls.call Reentry.RelatedCalls.invoke
    Reentry.CallsBack.callBack

end CellScript
