import CellScript.Eval.Call
import CellScript.Proofs.Run.Tidy

/-!
# Relations that evaluators pass on

Evaluators also change the context, and they look at the faults of what they compute. A regular
relation holds of everything that keeps maps sound, upholds what is said about functions and is
blind to monitors, and is passed on where a fault is looked at. For that there is a condition on
what is done about the fault: nothing but to clean up, when it is one that scripts cannot catch.
What evaluators do about their monitors is in few places: where calls are counted and traced, where
a context is made for a script, where a condition is traced, and in the library functions that show
and set diagnostics. A relation is carried when it is passed on there as well. A broad relation is
regular whatever computations look at, and a general one holds of whatever keeps maps sound.

## Main definitions

* `Machine.entered` — the machine in which a computation in a new context begins.
* `Machine.Unmoved` — what is left of a machine after nothing but cleaning up.
* `Machine.Upholds` — the context and the functions of scripts are what they were, but for new
  definitions.
* `Run.Cleans`, `Run.FailsWith` — computations that do nothing but to clean up.
* `Run.GivesUp` — on account of a fatal fault, nothing is done but to clean up and to fail with it.
* `Run.Passes` — on account of any fault, nothing is done but to cut stacks and to fail with it.
* `Context.Still` — changes of a context that leave its scope alone.
* `Run.Relation.IsLocal`, `Run.Relation.IsSimple` — relations that are passed on where faults are
  passed on, of what stays in its scope and of whatever there is.
* `Run.Relation.IsAttentive` — relations that are passed on where faults are looked at.
* `Run.Relation.IsRegular`, `Run.Relation.IsBroad`, `Run.Relation.IsGeneral` — relations that are
  passed on where faults are passed on and where they are looked at.
* `Run.Relation.IsCarried` — relations that evaluators pass on.
* `Reentry.Whole` — evaluators that are related on blocks as well as on calls.

## Main statements

* `Run.Related.attemptThen`, `Run.Related.passThen` — the rules for faults that are looked at, and
  for faults that are passed on.
* `Run.related_iterate` — the rule for loops.
-/

namespace CellScript

/-- The machine in which a computation in a new context of a script begins, with a container for its
variables. -/
def Machine.entered (m : Machine) (s : ScriptRef) : Machine :=
  let script := m.scripts.getD s.index default
  { m with
    heap := m.heap.newVars.2
    context :=
      .start s ⟨.ofBase m.heap.newVars.1 none, [], script.globals⟩ script.config.debug
        script.config.taint script.config.maxCallDepth }

/-- Nothing has happened but that stacks were cut and calls were recorded: all cells, containers,
functions and variables, the code of all scripts, the classes of the host, the console and the
system outside are as they were. -/
structure Machine.Unmoved (m m' : Machine) : Prop where
  heap : m'.heap = m.heap
  code : m'.code = m.code
  hosts : m'.hosts = m.hosts
  console : m'.console = m.console
  outside : m'.outside = m.outside

namespace Machine.Unmoved

variable {m m' m'' : Machine}

theorem refl (m : Machine) : m.Unmoved m :=
  ⟨rfl, rfl, rfl, rfl, rfl⟩

theorem trans (h : m.Unmoved m') (h' : m'.Unmoved m'') : m.Unmoved m'' :=
  ⟨h'.heap.trans h.heap, h'.code.trans h.code, h'.hosts.trans h.hosts, h'.console.trans h.console,
    h'.outside.trans h.outside⟩

end Machine.Unmoved

/-- Whether the name stands for a function of a kind in a script, or for none. -/
def Machine.every (m : Machine) (kind : Function → Bool) (s : ScriptRef) (name : String) : Bool :=
  ((m.scripts.getD s.index default).environment.functions.get? name).all kind

/-- Whether calls of a name in a script hand taint on: the name stands for a function that does not
settle taint itself, or for none. -/
def Machine.isPermeable (m : Machine) (s : ScriptRef) (name : String) : Bool :=
  ((m.scripts.getD s.index default).environment.functions.get? name).all
  (·.taintPolicy == .permeable)

/-- Taint is watched in the current context as before, and names stand for what they stood for or
for closures. -/
structure Machine.Upholds (m m' : Machine) : Prop where
  script : m'.context.script = m.context.script
  taint : m'.context.taint = m.context.taint
  scripts : m'.scripts.size = m.scripts.size
  functions : ∀ kind : Function → Bool, (∀ closure, kind (.bound closure)) →
    ∀ s name, m.every kind s name →
    m'.every kind s name

namespace Machine.Upholds

variable {m m' m'' : Machine}

theorem refl (m : Machine) : m.Upholds m :=
  ⟨rfl, rfl, rfl, fun _ _ _ _ => id⟩

theorem trans (h : m.Upholds m') (h' : m'.Upholds m'') : m.Upholds m'' :=
  ⟨h'.script.trans h.script, h'.taint.trans h.taint, h'.scripts.trans h.scripts,
    fun kind bound s name => h'.functions kind bound s name ∘ h.functions kind bound s name⟩

theorem of_quiet (h : m.Quiet m') : m.Upholds m' where
  script := congrArg (·.1) h.rigid
  taint := congrArg (·.2.2.2.1) h.rigid
  scripts := by simpa [code] using congrArg (·.2.size) h.code
  functions kind _ s name stood := by
    unfold Machine.every at stood ⊢
    rwa [(scripts_of_map (congrArg (·.2) h.code) s.index).2]

/-- Functions that hand taint on still do. -/
theorem permeable (h : m.Upholds m') (s : ScriptRef) (name : String) :
    m.isPermeable s name → m'.isPermeable s name :=
  h.functions (·.taintPolicy == .permeable) (fun _ => rfl) s name

end Machine.Upholds

/-- A change of a context that has nothing to do with monitors, records no call and leaves alone
whose it is, whether it watches taint and how many calls may be in progress. -/
class Context.Steady (f : Context → Context) : Prop where
  same : ∀ c, (f c).script = c.script ∧ (f c).taint = c.taint ∧ (f c).maxDepth = c.maxDepth
  trace : ∀ c, c.trace = [] → (f c).trace = []
  under : ∀ c flags, f (c.under flags) = (f c).under flags

/-- A steady change of a context that leaves its scope and its last trace alone. -/
class Context.Still (f : Context → Context) : Prop extends Context.Steady f where
  scope : ∀ c, (f c).scope = c.scope
  lastTrace : ∀ c, (f c).lastTrace = c.lastTrace

theorem Context.Still.of_steady {f : Context → Context} (steady : Context.Steady f)
    (scope : ∀ c, (f c).scope = c.scope := by exact fun _ => rfl)
    (lastTrace : ∀ c, (f c).lastTrace = c.lastTrace := by exact fun _ => rfl) : Context.Still f :=
  { steady with scope, lastTrace }

/-- A change of a script that has nothing to do with monitors, leaves its variables and its books
alone, and after which names stand for what they stood for or for closures. -/
class Script.Steady (f : Script → Script) : Prop where
  globals : ∀ script, (f script).globals = script.globals
  books : ∀ script, (f script).books = script.books
  functions : ∀ kind : Function → Bool, (∀ closure, kind (.bound closure)) →
    ∀ (script : Script) (name : String), (script.environment.functions.get? name).all kind →
    ((f script).environment.functions.get? name).all kind
  under : ∀ script p, f (script.under p) = (f script).under p

namespace Run

variable {α β σ : Type} {ρ : Relation}

/-- Back in a context, unless there is no fuel left. -/
def leaving (c : Context) : Except Stop α × Machine → Except Stop α × Machine
  | (.error .exhausted, m) => (.error .exhausted, m)
  | (r, m) => (r, { m with context := c })

@[simp] theorem leaving_fst (c : Context) (e : Except Stop α × Machine) :
    (leaving c e).1 = e.1 := by
  rcases e with ⟨(_ | _) | _, _⟩ <;> rfl

@[simp] theorem leaving_scripts (c : Context) (e : Except Stop α × Machine) :
    (leaving c e).2.scripts = e.2.scripts := by
  rcases e with ⟨(_ | _) | _, _⟩ <;> rfl

theorem within_eq (c : Context) (x : Run α) (m : Machine) :
    Eval.within c x m = leaving m.context (x { m with context := c }) := by
  unfold Eval.within
  rw [bind_run, askContext_run]
  dsimp only
  rw [bind_run, changeContext_run]
  dsimp only
  rw [bind_run, attempt_run]
  rcases x { m with context := c } with ⟨(_ | _) | _, _⟩ <;> rfl

theorem newContext_within (s : ScriptRef) (x : Run α) (m : Machine) :
    (Eval.newContext s >>= (Eval.within · x)) m =
      Eval.within (m.entered s).context x { m with heap := (m.entered s).heap } := rfl

/-- A computation that comes to a result and does nothing but to clean up. -/
class Cleans (x : Run α) : Prop where
  ends : ∀ m, ∃ a m', x m = (.ok a, m') ∧ m.Unmoved m'

/-- A computation that fails and does nothing but to clean up. -/
class FailsWith (f : Fault) (x : Run α) : Prop where
  ends : ∀ m, ∃ m', x m = (.error (.fault f), m') ∧ m.Unmoved m'

/-- A computation that changes nothing but the context and how many calls there are. -/
theorem Cleans.of_context {x : Run α}
    (h : ∀ m, ∃ a c n, x m = (.ok a, { m with context := c, activeCalls := n })) : Cleans x where
  ends m := by
    obtain ⟨a, c, n, run⟩ := h m
    exact ⟨a, _, run, rfl, rfl, rfl, rfl, rfl⟩

instance (a : α) : Cleans (pure a) := .of_context fun _ => ⟨_, _, _, rfl⟩

instance (f : Context → α) : Cleans (askContext f) := .of_context fun _ => ⟨_, _, _, rfl⟩

instance (f : Context → Context) : Cleans (changeContext f) := .of_context fun _ => ⟨_, _, _, rfl⟩

instance : Cleans killFrame := .of_context fun _ => ⟨_, _, _, rfl⟩

instance (f : Nat → Nat) :
    Cleans (changeMachine fun m => { m with activeCalls := f m.activeCalls }) :=
  .of_context fun _ => ⟨_, _, _, rfl⟩

instance (message : String) (line : UInt32) (trace : Bool) :
    Cleans (report message line trace) where
  ends m := by
    exact ⟨(),
      { m with
        logs := m.noted [(m.context.script, ⟨message, line, m.context.currentSource, trace⟩)] },
      rfl, rfl, rfl, rfl, rfl, rfl⟩

/-- A change of a script that leaves its code alone. -/
theorem Cleans.changeOwnScript {f : Script → Script}
    (h : ∀ script, (f script).main = script.main ∧ (f script).environment = script.environment) :
    Cleans (changeOwnScript f) :=
  ⟨fun m => ⟨(), { m with scripts := m.scripts.modify m.context.script.index f }, rfl,
    rfl, m.code_modify _ h, rfl, rfl, rfl⟩⟩

variable {f : Fault}

instance : FailsWith f (fail f : Run α) := ⟨fun m => ⟨m, rfl, .refl m⟩⟩

instance : FailsWith f (settle (.error f) : Run α) := inferInstanceAs (FailsWith f (fail f))

instance (x : Run α) (k : α → Run β) [hx : Cleans x] [hk : ∀ a, FailsWith f (k a)] :
    FailsWith f (x >>= k) where
  ends m := by
    obtain ⟨a, m₁, run, unmoved⟩ := hx.ends m
    obtain ⟨m', fails, unmoved'⟩ := (hk a).ends m₁
    exact ⟨m', by rw [bind_run, run]; exact fails, unmoved.trans unmoved'⟩

/-- Cleaning up on the way to a failure. -/
theorem FailsWith.andThen {x : Run α} {k : α → Run β} [Cleans x] (h : ∀ a, FailsWith f (k a)) :
    FailsWith f (x >>= k) :=
  inferInstance

/-- What fails goes no further. -/
instance (x : Run α) (k : α → Run β) [hx : FailsWith f x] : FailsWith f (x >>= k) where
  ends m := by
    obtain ⟨m', fails, unmoved⟩ := hx.ends m
    exact ⟨m', by rw [bind_run, fails], unmoved⟩

instance (c : Prop) [Decidable c] (x y : Run α) [FailsWith f x] [FailsWith f y] :
    FailsWith f (if c then x else y) := by
  split <;> infer_instance

/-- What is done with the outcome of a computation: where that is a fatal fault, nothing but to
clean up, and to fail with it. -/
class GivesUp (k : Except Fault α → Run β) : Prop where
  fails : ∀ f : Fault, f.isFatal → FailsWith f (k (.error f))

/-- What is done with the outcome of a computation: whatever fault it is, nothing but to change the
context, which stays one of the same script with the same flags, and to fail with it. -/
class Passes (k : Except Fault α → Run β) : Prop where
  fails : ∀ (f : Fault) (m : Machine), ∃ c,
    k (.error f) m = (.error (.fault f), { m with context := c }) ∧
    c.trace = m.context.trace ∧ c.script = m.context.script ∧ c.flags = m.context.flags

instance (priority := low) (k : Except Fault α → Run β) [passes : Passes k] : GivesUp k where
  fails f _ := ⟨fun m => by
    obtain ⟨c, run, -⟩ := passes.fails f m
    exact ⟨_, run, rfl, rfl, rfl, rfl, rfl⟩⟩

/-- A relation that holds of everything that keeps maps sound, upholds what is said about functions,
is blind, leaves no trace of throws and stays in its scope, and that is passed on where faults are
passed on. -/
class Relation.IsLocal (ρ : Relation) : Prop where
  keeps : ∀ {α : Type} {x : Run α} {m : Machine}, Blind x →
    (m.heap.MapsSound → (x m).2.heap.MapsSound) →
    m.Upholds (x m).2 → Settles x m → m.Stays (x m).2 → ρ.holds x x m
  attempt : ∀ {α β : Type} {x y : Run α} {k : Except Fault α → Run β} {m : Machine}, ρ.holds x y m →
    Passes k →
    (∀ r m', Run.attempt x m = (.ok r, m') → ρ.holds (k r) (k r) m') →
    ρ.holds (Run.attempt x >>= k) (Run.attempt y >>= k) m

/-- A relation that is passed on where faults are looked at. -/
class Relation.IsAttentive (ρ : Relation) : Prop where
  attempt : ∀ {α β : Type} {x y : Run α} {f g : Except Fault α → Run β} {m : Machine},
    ρ.holds x y m → GivesUp f →
    (∀ r m', Run.attempt x m = (.ok r, m') → ρ.holds (f r) (g r) m') →
    ρ.holds (Run.attempt x >>= f) (Run.attempt y >>= g) m

/-- A relation that holds of everything that keeps maps sound, upholds what is said about functions,
is blind and leaves no trace of throws, and that is passed on where faults are passed on. -/
class Relation.IsSimple (ρ : Relation) : Prop where
  keeps : ∀ {α : Type} {x : Run α} {m : Machine}, Blind x →
    (m.heap.MapsSound → (x m).2.heap.MapsSound) →
    m.Upholds (x m).2 → Settles x m → ρ.holds x x m
  attempt : ∀ {α β : Type} {x y : Run α} {k : Except Fault α → Run β} {m : Machine}, ρ.holds x y m →
    Passes k →
    (∀ r m', Run.attempt x m = (.ok r, m') → ρ.holds (k r) (k r) m') →
    ρ.holds (Run.attempt x >>= k) (Run.attempt y >>= k) m

/-- A relation that holds of everything that keeps maps sound, upholds what is said about functions
and is blind, and that is passed on where faults are looked at. -/
class Relation.IsRegular (ρ : Relation) : Prop where
  keeps : ∀ {α : Type} {x : Run α} {m : Machine}, Blind x →
    (m.heap.MapsSound → (x m).2.heap.MapsSound) →
    m.Upholds (x m).2 → ρ.holds x x m
  attempt : ∀ {α β : Type} {x y : Run α} {f g : Except Fault α → Run β} {m : Machine},
    ρ.holds x y m → GivesUp f →
    (∀ r m', Run.attempt x m = (.ok r, m') → ρ.holds (f r) (g r) m') →
    ρ.holds (Run.attempt x >>= f) (Run.attempt y >>= g) m

/-- The same whatever computations look at, and also into other contexts. -/
class Relation.IsBroad (ρ : Relation) : Prop where
  keeps : ∀ {α : Type} {x : Run α} {m : Machine}, (m.heap.MapsSound → (x m).2.heap.MapsSound) →
    m.Upholds (x m).2 →
    ρ.holds x x m
  attempt : ∀ {α β : Type} {x y : Run α} {f g : Except Fault α → Run β} {m : Machine},
    ρ.holds x y m → GivesUp f →
    (∀ r m', Run.attempt x m = (.ok r, m') → ρ.holds (f r) (g r) m') →
    ρ.holds (Run.attempt x >>= f) (Run.attempt y >>= g) m
  within : ∀ {α : Type} {x y : Run α} {c : Context} {m : Machine},
    ρ.holds x y { m with context := c } →
    ρ.holds (Eval.within c x) (Eval.within c y) m

instance [ρ.IsSimple] : ρ.IsLocal where
  keeps blind maps upholds settles _ := Relation.IsSimple.keeps blind maps upholds settles
  attempt := Relation.IsSimple.attempt

instance [ρ.IsRegular] : ρ.IsAttentive where
  attempt := Relation.IsRegular.attempt

instance [ρ.IsRegular] : ρ.IsSimple where
  keeps blind maps upholds _ := Relation.IsRegular.keeps blind maps upholds
  attempt h _ next := Relation.IsRegular.attempt h inferInstance next

instance [ρ.IsRegular] : ρ.IsRecording where
  throwText {description text m} :=
    have serves := Host.serves_throwText description text m
    Relation.IsRegular.keeps (Host.blind_throwText description text) serves.maps
      (.of_quiet serves.quiet)

instance [ρ.IsBroad] : ρ.IsRegular where
  keeps _ := Relation.IsBroad.keeps
  attempt := Relation.IsBroad.attempt

instance [ρ.IsBroad] : ρ.IsSighted where
  serves serves _ := Relation.IsBroad.keeps serves.maps (.of_quiet serves.quiet)

/-- A relation that holds of everything that keeps maps sound and that is passed on where faults are
looked at. -/
class Relation.IsGeneral (ρ : Relation) : Prop where
  keeps : ∀ {α : Type} {x : Run α} {m : Machine}, (m.heap.MapsSound → (x m).2.heap.MapsSound) →
    ρ.holds x x m
  attempt : ∀ {α β : Type} {x y : Run α} {f g : Except Fault α → Run β} {m : Machine},
    ρ.holds x y m → GivesUp f →
    (∀ r m', Run.attempt x m = (.ok r, m') → ρ.holds (f r) (g r) m') →
    ρ.holds (Run.attempt x >>= f) (Run.attempt y >>= g) m

/-- What is computed in another context is computed between two changes of the context. -/
instance [ρ.IsGeneral] : ρ.IsBroad where
  keeps kept _ := Relation.IsGeneral.keeps kept
  attempt := Relation.IsGeneral.attempt
  within {α x y c m} h := by
    refine ρ.bind (Relation.IsGeneral.keeps id) fun outer m₁ asked => ?_
    cases asked
    refine ρ.bind (Relation.IsGeneral.keeps id) fun _ m₂ entered => ?_
    cases entered
    refine Relation.IsGeneral.attempt h ⟨fun _ _ => inferInstance⟩ fun r m₃ _ => ?_
    refine ρ.bind (Relation.IsGeneral.keeps id) fun _ m₄ _ => Relation.IsGeneral.keeps
      fun sound => ?_
    cases r <;> exact sound

section Local

variable [ρ.IsLocal]

/-- A computation that leaves all maps alone and stays in its scope. -/
theorem Related.of_stays {x : Run α} (h : ∀ m : Machine, (x m).2.heap.tables = m.heap.tables)
    (stays : ∀ m : Machine, m.Stays (x m).2 := by exact fun _ => .of_code)
    (upholds : ∀ m : Machine, m.Upholds (x m).2 := by
      exact fun _ => ⟨rfl, rfl, rfl, fun _ _ _ _ => id⟩)
    (blind : Blind x := by first | infer_instance | exact .of_same fun _ _ => rfl)
    (settles : ∀ m : Machine, Settles x m := by exact fun _ => .of_same rfl) : Related ρ x x :=
  ⟨fun m => Relation.IsLocal.keeps blind (fun sound => sound.of_tables (h m)) (upholds m)
    (settles m) (stays m)⟩

/-- A computation whose faults are passed on. -/
theorem Related.passThen {x y : Run α} {k : Except Fault α → Run β} [hx : Related ρ x y]
    (passes : Passes k) (h : ∀ r, Related ρ (k r) (k r)) :
    Related ρ (attempt x >>= k) (attempt y >>= k) :=
  ⟨fun m => Relation.IsLocal.attempt (hx.holds m) passes fun r m' _ => (h r).holds m'⟩

theorem blind_changeContext {f : Context → Context} (hf : Context.Steady f) :
    Blind (changeContext f) :=
  .of_same fun m o => by
    rw [changeContext_run, changeContext_run]
    exact congrArg (fun context => (Except.ok (), { m.under o with context }))
      (hf.under m.context o.flags)

theorem upholds_changeContext {f : Context → Context} (hf : Context.Steady f) (m : Machine) :
    m.Upholds (changeContext f m).2 :=
  ⟨(hf.same m.context).1, (hf.same m.context).2.1, rfl, fun _ _ _ _ => id⟩

theorem settles_changeContext {f : Context → Context} (hf : Context.Steady f) (m : Machine) :
    Settles (changeContext f) m where
  trace := hf.trace m.context
  tells :=
    ⟨[], List.forall_mem_nil _, rfl, (hf.same m.context).1, (hf.same m.context).2.2, rfl, rfl⟩

instance (f : Context → Context) [hf : Context.Still f] :
    Related ρ (changeContext f) (changeContext f) :=
  .of_stays (fun _ => rfl) (fun m => .of_code (hf.scope m.context) (hf.lastTrace m.context))
    (upholds_changeContext hf.toSteady) (blind_changeContext hf.toSteady)
    (settles_changeContext hf.toSteady)

instance : Related ρ createFrame createFrame :=
  have : Context.Still (·.createFrame) :=
    Context.Still.of_steady ⟨fun _ => ⟨rfl, rfl, rfl⟩, fun _ empty => empty, fun _ _ => rfl⟩
  inferInstanceAs (Related ρ (changeContext _) (changeContext _))

instance (cell : CellRef) : Related ρ (push cell) (push cell) :=
  have : Context.Still (·.push cell) :=
    Context.Still.of_steady ⟨fun _ => ⟨rfl, rfl, rfl⟩, fun _ empty => empty, fun _ _ => rfl⟩
  inferInstanceAs (Related ρ (changeContext _) (changeContext _))

instance : Related ρ killFrame killFrame := .of_stays fun _ => rfl

instance : Related ρ pop pop := by
  have top :
      Related ρ (fun m => let (top, c) := m.context.pop; (.ok top, { m with context := c }) :
        Run (Option CellRef))
      (fun m => let (top, c) := m.context.pop; (.ok top, { m with context := c })) :=
        .of_stays fun _ => rfl
  refine .seq top fun top => ?_
  cases top <;> infer_instance

instance (f : Script → Script) [hf : Script.Steady f] :
    Related ρ (changeOwnScript f) (changeOwnScript f) := by
  refine .of_stays (fun _ => rfl) (fun m => .modifyScript m.context.script hf.globals)
    (fun m => ⟨rfl, rfl, Array.size_modify, fun kind bound s name stood => ?_⟩)
    (.of_same fun m o => ?_)
    fun m => .of_same rfl ⟨[], .modifyScript m m.context.script hf.books⟩
  · unfold Machine.every at stood ⊢
    rcases Machine.getD_modify m.scripts m.context.script.index s.index f with same | changed
    · exact same ▸ stood
    · exact changed ▸ hf.functions kind bound _ name stood
  · exact congrArg (Prod.mk (Except.ok ())) (m.under_modify hf.under m.context.script.index o)

/-- A new name of a function. -/
instance (name : String) (script : ScriptRef) :
    Related ρ (liftM (HeapM.newFunction (.named name script)) : Run _)
    (liftM (HeapM.newFunction (.named name script))) :=
  .of_stays (fun _ => rfl) fun _ => .newFunction rfl (.of_vars rfl) rfl nofun

end Local

section Simple

variable [ρ.IsSimple]

/-- A computation that leaves all maps alone. -/
theorem Related.of_tables {x : Run α} (h : ∀ m : Machine, (x m).2.heap.tables = m.heap.tables)
    (upholds : ∀ m : Machine, m.Upholds (x m).2 := by
      exact fun _ => ⟨rfl, rfl, rfl, fun _ _ _ _ => id⟩)
    (blind : Blind x := by first | infer_instance | exact .of_same fun _ _ => rfl)
    (settles : ∀ m : Machine, Settles x m := by exact fun _ => .of_same rfl) : Related ρ x x :=
  ⟨fun m => Relation.IsSimple.keeps blind (fun sound => sound.of_tables (h m)) (upholds m)
    (settles m)⟩

instance (f : Context → Context) [hf : Context.Steady f] :
    Related ρ (changeContext f) (changeContext f) :=
  .of_tables (fun _ => rfl) (upholds_changeContext hf) (blind_changeContext hf)
    (settles_changeContext hf)

/-- An operation that binds names in one container. -/
theorem Related.binds (but : Option VarsRef) (op : HeapM α) [hop : op.CalmBut but] :
    Related ρ (liftM op : Run α) (liftM op) := by
  refine ⟨fun m => Relation.IsSimple.keeps (inferInstanceAs (Blind (onHeap op))) (fun sound => ?_)
    ?_ (.onHeap op)⟩
  · have maps := hop.maps m.heap sound
    rw [liftM_heap, onHeap_run]
    rcases run : op m.heap with ⟨_ | _, h⟩ <;> rw [run] at maps <;> exact maps
  · rw [liftM_heap, onHeap_run]
    rcases op m.heap with ⟨_ | _, h⟩ <;> exact ⟨rfl, rfl, rfl, fun _ _ _ _ => id⟩

end Simple

/-- A computation whose faults are looked at. -/
theorem Related.attemptThen [ρ.IsAttentive] {x y : Run α} {f g : Except Fault α → Run β}
    [hx : Related ρ x y] (gives : GivesUp f) (h : ∀ r, Related ρ (f r) (g r)) :
    Related ρ (attempt x >>= f) (attempt y >>= g) :=
  ⟨fun m => Relation.IsAttentive.attempt (hx.holds m) gives fun r m' _ => (h r).holds m'⟩

section Broad

variable [ρ.IsBroad]

/-- A computation that leaves all maps alone, whatever it looks at. -/
theorem Related.of_broad {x : Run α} (h : ∀ m : Machine, (x m).2.heap.tables = m.heap.tables)
    (upholds : ∀ m : Machine, m.Upholds (x m).2 := by
      exact fun _ => ⟨rfl, rfl, rfl, fun _ _ _ _ => id⟩) :
    Related ρ x x :=
  ⟨fun m => Relation.IsBroad.keeps (fun sound => sound.of_tables (h m)) (upholds m)⟩

instance (c : Context) (x y : Run α) [hx : Related ρ x y] :
    Related ρ (Eval.within c x) (Eval.within c y) :=
  ⟨fun m => Relation.IsBroad.within (hx.holds { m with context := c })⟩

end Broad

/-- One round of a loop and the rest of it. -/
theorem iterate_succ (step : σ → Run (σ ⊕ α)) (n : Nat) (s : σ) :
    iterate step (n + 1) s = step s >>= fun
      | .inl s => iterate step n s
      | .inr value => pure value := by
  funext m
  rw [bind_run, iterate]
  dsimp only
  rcases step s m with ⟨(_ | _ | _), _⟩ <;> rfl

/-- Rounds that are related. -/
theorem related_iterate {step step' : σ → Run (σ ⊕ α)} (round : ∀ s, Related ρ (step s) (step' s))
    (n : Nat) (s : σ) :
    Related ρ (iterate step n s) (iterate step' n s) := by
  induction n generalizing s with
  | zero => exact inferInstanceAs (Related ρ (throw .exhausted : Run α) (throw .exhausted))
  | succ n ih =>
    rw [iterate_succ, iterate_succ]
    refine .seq (round s) fun next => ?_
    cases next with
    | inl s => exact ih s
    | inr value => infer_instance

end Run

/-- Two evaluators that are related as a whole: on calls and on blocks. -/
class Reentry.Whole (ρ : Run.Relation) (s s' : Reentry) : Prop extends Reentry.Related ρ s s' where
  rounds : s.rounds = s'.rounds
  block : ∀ b resume, Run.Related ρ (s.block b resume) (s'.block b resume)

attribute [instance] Reentry.Whole.block

end CellScript
