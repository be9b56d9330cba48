import CellScript.Proofs.Engine.Run

/-!
# Reachable engines

What engines come to that load built programs only, run and call their scripts, and change between
runs what a host may change. Their machines are sound. Their scripts take away as many frames as
they make, and none of their blocks leaves anything behind on the stacks of its context.

## Main definitions

* `Program.IsBuilt` — programs that a front end has built without raw steps.
* `Engine.Reachable` — what engines come to.

## Main statements

* `Engine.Reachable.sound` — machines of reachable engines are sound.
* `Engine.load_run` — loading a program comes to an end.
* `Engine.Reachable.frames_balanced` — the frames of runs and calls.
* `Engine.Reachable.stacks_restored` — handlers, sources, iterators and scopes.
-/

namespace CellScript

/-- A program that was built from statements, none of which is a raw step, in the main block or in
any other. -/
def Program.IsBuilt (p : Program) : Prop :=
  ∃ (name : String) (body : Body), body.isBuilt ∧ p = .ofBlock name body.build

theorem Program.IsBuilt.isBalanced {p : Program} (h : p.IsBuilt) : p.main.isBalanced := by
  obtain ⟨name, body, built, rfl⟩ := h
  exact (Block.isBalanced_withDefaultSource _ _).trans (Body.isBalanced_build body built)

/-- Scripts and closures are the same; all else may have changed. -/
structure Machine.SameCode (m m' : Machine) : Prop where
  scripts : (m'.scripts.map fun s => (s.main, s.environment)) =
    m.scripts.map fun s => (s.main, s.environment)
  closures : ∀ f, m'.heap.closure? f = m.heap.closure? f

/-- What an engine comes to whose scripts are run by evaluators of a family. A run that is out of
fuel comes to nothing. -/
inductive Engine.Reachable (evaluator : Nat → Reentry) : Engine → Prop
  | create (config : EngineConfig) (console : Console) (system : System) :
    Reachable evaluator (.create config console system)
  | withSharedGlobals {e : Engine} : Reachable evaluator e → Reachable evaluator e.withSharedGlobals
  | withProbes {e : Engine} : Reachable evaluator e → Reachable evaluator e.withProbes
  | load {e : Engine} {p : Program} :
    Reachable evaluator e → p.IsBuilt → Reachable evaluator (Engine.load p e).2
  | serve {e : Engine} {n : Nat} {s : ScriptRef} {request : Engine.Request} :
    Reachable evaluator e →
    (request.serve (evaluator n) s e.machine).1 ≠ .error .exhausted →
    Reachable evaluator (perform (request.serve (evaluator n) s) e).2
  /-- the host calls a function itself -/
  | invoke {e : Engine} {n : Nat} {f : FunctionRef} {message : Option String}
    {args : List CellRef} :
    Reachable evaluator e →
    (Eval.invoke (evaluator n) f message args e.machine).1 ≠ .error .exhausted →
    Reachable evaluator (perform (Eval.invoke (evaluator n) f message args) e).2
  | undefine {e : Engine} {s : ScriptRef} {function : String} : Reachable evaluator e →
    Reachable evaluator (Engine.undefine s function e).2
  | publish {e : Engine} {s : ScriptRef} {function : String} : Reachable evaluator e →
    Reachable evaluator (Engine.publish s function e).2
  /-- the host changes values, variables, flags and logs, takes output, or unloads a script -/
  | host {e : Engine} {m : Machine} : Reachable evaluator e → e.machine.SameCode m →
    Reachable evaluator { e with machine := m }

/-! ## Loading -/

namespace Run

variable {α β : Type} {x : Run α} {f : α → Run β}

/-- A computation that comes to an end from every machine, without a fault and on any fuel. -/
def Total (x : Run α) : Prop :=
  ∀ m, ∃ a m', x m = (.ok a, m')

/-- A computation that comes to an end from every machine, and leaves the classes of the host, the
console and the system outside alone. -/
def Loads (x : Run α) : Prop :=
  ∀ m, ∃ a m', x m = (.ok a, m') ∧ m'.hosts = m.hosts ∧ m'.console = m.console ∧
    m'.outside = m.outside

theorem Loads.andThen (hx : x.Loads) (hf : ∀ a, (f a).Loads) : (x >>= f).Loads := fun m => by
  obtain ⟨a, m₁, first, hosts, console, outside⟩ := hx m
  obtain ⟨b, m₂, second, hosts', console', outside'⟩ := hf a m₁
  exact ⟨b, m₂, by rw [bind_run, first]; exact second, hosts'.trans hosts, console'.trans console,
    outside'.trans outside⟩

theorem Loads.total (hx : x.Loads) : x.Total := fun m =>
  have ⟨a, m', run, _⟩ := hx m
  ⟨a, m', run⟩

/-- What a tidy computation leaves that comes to an end. -/
theorem Total.leaves (hx : x.Total) [tidy : Tidy False x x] {m : Machine} (hm : m.Sound) :
    ∃ a m', x m = (.ok a, m') ∧ m.Leaves [] m' := by
  obtain ⟨a, m', run⟩ := hx m
  refine ⟨a, m', run, ?_⟩
  rcases tidy.agrees m hm with ⟨⟨⟩, -⟩ | ⟨-, meets⟩
  · rw [run] at meets
    exact meets

end Run

namespace Eval

theorem loads_bind (name : String) (body : Block) (isInline : Bool) (site : Nat) :
    (bind name body isInline site).Loads := by
  unfold bind
  split
  · exact fun _ => ⟨_, _, rfl, rfl, rfl, rfl⟩
  · refine .andThen (fun _ => ⟨_, _, rfl, rfl, rfl, rfl⟩) fun script =>
      .andThen (fun _ => ⟨_, _, rfl, rfl, rfl, rfl⟩) fun own => ?_
    refine .andThen (fun _ => ⟨_, _, rfl, rfl, rfl, rfl⟩) fun known => ?_
    split
    · exact fun _ => ⟨_, _, rfl, rfl, rfl, rfl⟩
    · exact fun _ => ⟨_, _, rfl, rfl, rfl, rfl⟩

theorem loads_hoist : ∀ steps, (hoist steps).Loads
  | [] => fun _ => ⟨_, _, rfl, rfl, rfl, rfl⟩
  | .mk line i :: rest => by
    cases i with
    | bind name body isInline site =>
      exact .andThen (fun _ => ⟨_, _, rfl, rfl, rfl, rfl⟩) fun _ =>
        .andThen (loads_bind name body isInline site) fun _ =>
          loads_hoist rest
    | _ => exact loads_hoist rest

theorem total_hoist (steps : List Step) : (hoist steps).Total :=
  (loads_hoist steps).total

/-- Definitions of a balanced block are bound to balanced blocks. -/
theorem tidy_hoist {lax : Prop} : ∀ {steps : List Step} {σ τ : Shape}, shapeAfter σ steps = some τ →
    Run.Tidy lax (hoist steps) (hoist steps)
  | [], _, _, _ => by
    unfold hoist
    infer_instance
  | .mk line i :: rest, σ, τ, h => by
    obtain ⟨ρ, hi, after⟩ := shapeAfter_cons h
    have ih : Run.Tidy lax (hoist rest) (hoist rest) := tidy_hoist after
    cases i with
    | bind name body isInline site =>
      have balanced : body.isBalanced := by
        simp only [Instruction.shape?] at hi
        split at hi
        · assumption
        · cases hi
      exact .andThen fun _ => .seq (tidy_bind name balanced isInline site) fun _ => ih
    | _ => exact ih

/-- Computing in another context, and coming back from it. -/
theorem within_run {α : Type} {c : Context} {x : Run α} {m m' : Machine} {a : α}
    (h : x { m with context := c } = (.ok a, m')) :
    within c x m = (.ok a, { m' with context := m.context }) := by
  have attempted : Run.attempt x { m with context := c } = (.ok (.ok a), m') := by
    rw [Run.attempt_run, h]
  unfold within
  rw [Run.bind_run, Run.askContext_run]
  dsimp only
  rw [Run.bind_run, Run.changeContext_run]
  dsimp only
  rw [Run.bind_run, attempted]
  rfl

theorem loads_within {α : Type} {x : Run α} (hx : x.Loads) (c : Context) : (within c x).Loads :=
  fun m => by
    obtain ⟨a, m', run, left⟩ := hx { m with context := c }
    exact ⟨a, _, within_run run, left⟩

theorem loads_install (script : Script) : (install script).Loads :=
  .andThen (fun _ => ⟨_, _, rfl, rfl, rfl, rfl⟩) fun _ =>
    .andThen (fun _ => ⟨_, _, rfl, rfl, rfl, rfl⟩) fun _ =>
    .andThen (fun _ => ⟨_, _, rfl, rfl, rfl, rfl⟩) fun c =>
      .andThen (loads_within (loads_hoist script.main.steps) c) fun _ =>
        fun _ => ⟨_, _, rfl, rfl, rfl, rfl⟩

end Eval

/-- One more script. -/
theorem Machine.Sound.pushScript {m : Machine} (hm : m.Sound) {script : Script} (h : script.Sound) :
    ({ m with scripts := m.scripts.push script } : Machine).Sound where
  scripts i := by
    simp only [Array.getD_eq_getD_getElem?, Array.getElem?_push]
    split
    · exact h
    · simpa only [Array.getD_eq_getD_getElem?] using hm.scripts i
  closures := hm.closures

namespace Eval

/-- Adding a script comes to an end, and leaves a sound machine. -/
theorem install_run {script : Script} (h : script.Sound) {m : Machine} (hm : m.Sound) :
    ∃ s m', install script m = (.ok s, m') ∧ m'.Sound := by
  obtain ⟨σ, flat⟩ : ∃ σ, shapeAfter .flat script.main.steps = some σ :=
      ⟨_, (Block.isBalanced_iff _).mp h.main⟩
  have tidy : Run.Tidy False (hoist script.main.steps) (hoist script.main.steps) := tidy_hoist flat
  let m₁ : Machine := { m with scripts := m.scripts.push script }
  have pushed : m₁.Sound := hm.pushScript h
  obtain ⟨c, m₂, made, code⟩ : ∃ c m₂, newContext ⟨m.scripts.size⟩ m₁ = (.ok c, m₂) ∧
    m₂.code = m₁.code := ⟨_, _, rfl, rfl⟩
  have entered : ({ m₂ with context := c } : Machine).Sound := (pushed.of_code code).of_code rfl
  obtain ⟨_, m₃, bound, left⟩ := (total_hoist script.main.steps).leaves entered
  refine ⟨⟨m.scripts.size⟩, { m₃ with context := m₂.context }, ?_, left.sound.of_code rfl⟩
  unfold install
  rw [Run.bind_run, Run.ask_run]
  dsimp only
  rw [Run.bind_run, Run.changeMachine_run]
  dsimp only
  rw [Run.bind_run, made]
  dsimp only
  rw [Run.bind_run, within_run bound]
  rfl

end Eval

namespace Engine

theorem perform_run {α : Type} (x : Run α) (e : Engine) :
    perform x e = ((x e.machine).1, { e with machine := (x e.machine).2 }) := rfl

/-- What is there before a program is loaded has no inline blocks. -/
theorem sound_scriptOf {e : Engine} {p : Program} (hp : p.main.isBalanced)
    (he : e.environment.inlines = .empty) (globals : VarsRef) : (e.scriptOf p globals).Sound where
  main := (Block.isBalanced_numbered _).trans hp
  inlines name b found := by
    simp [scriptOf, Environment.extend, Environment.library, he, Dictionary.extend,
      Dictionary.empty, Dictionary.get?, Dictionary.find?] at found

/-- Loading a program comes to an end, and leaves a sound machine. -/
theorem load_run {e : Engine} {p : Program} (hp : p.main.isBalanced) (hm : e.machine.Sound)
    (he : e.environment.inlines = .empty) :
    ∃ s m', Engine.load p e = (.ok s, { e with machine := m' }) ∧ m'.Sound := by
  obtain ⟨globals, m₁, made, code⟩ : ∃ globals m₁, e.globalsFor e.machine = (.ok globals, m₁) ∧
    m₁.code = e.machine.code := by
    unfold globalsFor
    cases e.globals with
    | some vars => exact ⟨_, _, rfl, rfl⟩
    | none => exact ⟨_, _, rfl, rfl⟩
  obtain ⟨s, m', installed, sound⟩ :=
      Eval.install_run (sound_scriptOf hp he globals) (hm.of_code code)
  refine ⟨s, m', ?_, sound⟩
  have run :
      (do Eval.install (e.scriptOf p (← e.globalsFor)) : Run ScriptRef) e.machine =
      (.ok s, m') := by
    rw [Run.bind_run, made]
    exact installed
  change perform (do Eval.install (e.scriptOf p (← e.globalsFor))) e = _
  unfold perform
  dsimp only
  rw [run]

end Engine

/-! ## What engines come to -/

theorem Machine.Sound.of_sameCode {m m' : Machine} (hm : m.Sound) (h : m.SameCode m') :
    m'.Sound where
  scripts i := by
    obtain ⟨main, environment⟩ := scripts_of_map h.scripts i
    refine ⟨main ▸ (hm.scripts i).main, fun name b => ?_⟩
    rw [environment]
    exact (hm.scripts i).inlines name b
  closures f c hc := hm.closures f c (by rwa [← h.closures f])

namespace Engine

/-- Publishing a function changes neither the machine nor the inline blocks of the engine. -/
theorem publish_run (e : Engine) (s : ScriptRef) (function : String) :
    (Engine.publish s function e).2.machine = e.machine ∧
      (Engine.publish s function e).2.environment.inlines = e.environment.inlines := by
  change ((Engine.publish s function).run e).2.machine = _ ∧
    ((Engine.publish s function).run e).2.environment.inlines = _
  cases known : (e.script s).environment.functions.get? function with
  | none =>
    simp only [Engine.publish, StateT.run_bind, StateT.run_get, pure_bind, known]
    exact ⟨rfl, rfl⟩
  | some f =>
    simp only [Engine.publish, StateT.run_bind, StateT.run_get, pure_bind, known]
    exact ⟨rfl, rfl⟩

variable {evaluator : Nat → Reentry} {e : Engine}

/-- What there is in reachable engines is sound, and no inline block gets into what scripts start
with. -/
theorem Reachable.sound (agree : ∀ n, Reentry.Agree False (evaluator n) (evaluator n))
    (h : Reachable evaluator e) :
    e.machine.Sound ∧ e.environment.inlines = .empty := by
  induction h with
  | create config console system =>
    refine ⟨⟨fun i => ⟨rfl, nofun⟩, fun f c found => ?_⟩, rfl⟩
    cases found
  | withSharedGlobals _ ih => exact ⟨ih.1.of_code rfl, ih.2⟩
  | @withProbes e _ ih =>
    refine ⟨ih.1, ?_⟩
    change e.environment.inlines.extend .empty = .empty
    rw [ih.2]
    rfl
  | @load e p _ built ih =>
    obtain ⟨s, m', run, sound⟩ := load_run built.isBalanced ih.1 ih.2
    rw [run]
    exact ⟨sound, ih.2⟩
  | @serve e n s request _ ends ih =>
    have agree := agree n
    have served :
        Run.Agrees False (request.serve (evaluator n) s) (request.serve (evaluator n) s)
          _ e.machine :=
      agrees_serve s request ih.1
    obtain ⟨_, -, balanced⟩ := served.ends rfl ends
    exact ⟨balanced.1.sound, ih.2⟩
  | @invoke e n f message args _ ends ih =>
    have agree := agree n
    have invoked : Run.Agrees False (Eval.invoke (evaluator n) f message args)
        (Eval.invoke (evaluator n) f message args) _ e.machine :=
          Eval.agrees_invoke f message args ih.1
    obtain ⟨_, -, left⟩ := invoked.ends rfl ends
    exact ⟨left.sound, ih.2⟩
  | undefine _ ih => exact ⟨ih.1.changeScript _ _ fun _ h => ⟨h.main, h.inlines⟩, ih.2⟩
  | @publish e s function _ ih =>
    obtain ⟨machine, inlines⟩ := publish_run e s function
    exact ⟨machine ▸ ih.1, inlines.trans ih.2⟩
  | host _ same ih => exact ⟨ih.1.of_sameCode same, ih.2⟩

/-! ## Balance -/

namespace Reachable

open Eval (reentry watched keepsDepth restores)

/-- A generator that a loop over it leaves in the middle with a throw. -/
def thrownOut : Body :=
  .mk none 1
    [.define "&g"
      (.mk none 2 [.while .always (.mk none 3 [.flow .yield (some (.literal (.int 7)))])]) false,
      .try
      (.mk none 5
        [.foreach none "$i" (.call "&g" []) (.mk none 6 [.flow .throw (some (.var "$i"))])]) "$e"
        (.mk none 8 [.flow .return (some (.var "$e"))])]

/-- An engine that has loaded one script. -/
def loadedEngine : Engine :=
  (Engine.load (.ofBlock "main" thrownOut.build) (.create .standard (.ofInput []))).2

theorem reachable_loadedEngine : Reachable reentry loadedEngine :=
  .load (.create _ _ _) ⟨"main", thrownOut, by decide, rfl⟩

/-- A run or a call in a context of its own ends with as many frames taken away as were made, and so
do the counts that the script keeps. A watch on the frame depth of every block in it sees nothing.
The depth is accounted for in every context there is. -/
theorem frames_balanced (h : Reachable reentry e) (n : Nat) (s : ScriptRef) (request : Request) :
    (∀ c m r m', Eval.newContext s e.machine = (.ok c, m) →
      request.body (reentry n) s { m with context := c } = (r, m') → r ≠ .error .exhausted →
      m'.context.frameDepth = 1 ∧ m'.context.stats.created = m'.context.stats.killed) ∧
    (∀ r m', request.serve (reentry n) s e.machine = (r, m') → r ≠ .error .exhausted →
      (m'.lastStats s).created = (m'.lastStats s).killed) ∧
    (∀ alarm, request.serve (watched keepsDepth alarm n) s e.machine =
      request.serve (reentry n) s e.machine) ∧
    ∀ c : Context, c.frameDepth + c.stats.killed = 1 + c.stats.created := by
  have sound := (h.sound Eval.agree_reentry).1
  have plain : Reentry.Agree False (reentry n) (reentry n) := Eval.agree_reentry n
  refine ⟨fun c m r m' made run ends => ?_, fun r m' run ends => ?_, fun alarm => ?_, fun c => ?_⟩
  · have fresh : c.frameDepth = 1 ∧ m.code = e.machine.code := by
      cases made
      exact ⟨rfl, rfl⟩
    have entered : ({ m with context := c } : Machine).Sound := (sound.of_code fresh.2).of_code rfl
    have agrees : Run.Agrees False (request.body (reentry n) s) (request.body (reentry n) s) _ _ :=
      agrees_body s entered request
    obtain ⟨_, -, ended⟩ := agrees.ends run ends
    have depth : m'.context.frameDepth = 1 := ended.depth.trans fresh.1
    exact ⟨depth, Context.isBalanced_stats depth⟩
  · have agrees :
        Run.Agrees False (request.serve (reentry n) s) (request.serve (reentry n) s) _ e.machine :=
      agrees_serve s request sound
    obtain ⟨_, -, -, balanced⟩ := agrees.ends run ends
    exact balanced
  · have seen := Eval.agree_watched Eval.isKept_keepsDepth alarm n
    exact (agrees_serve s request sound).same.symm
  · have counted := c.counted
    simp only [Context.frameDepth]
    omega

theorem frames_balanced_loadedEngine : Reachable reentry loadedEngine ∧
    ∀ alarm, Request.run.serve (watched keepsDepth alarm 20) ⟨0⟩ loadedEngine.machine =
      Request.run.serve (reentry 20) ⟨0⟩ loadedEngine.machine :=
  ⟨reachable_loadedEngine, (frames_balanced reachable_loadedEngine 20 ⟨0⟩ .run).2.2.1⟩

/-- No block that began at its start and was not suspended leaves anything behind on the stacks of
its context, in any run or call of a script or of a function by the host: the handlers, sources and
iterators are those that it found, and so is the scope with all its levels and containers. Each of
its steps has left the scope as it found it. -/
theorem stacks_restored (h : Reachable reentry e) (n : Nat) (alarm : Run Flow) :
    (∀ s request, Request.serve (watched restores alarm n) s request e.machine =
      request.serve (reentry n) s e.machine) ∧
    ∀ f message args, Eval.invoke (watched restores alarm n) f message args e.machine =
      Eval.invoke (reentry n) f message args e.machine := by
  have sound := (h.sound Eval.agree_reentry).1
  have seen := Eval.agree_watched Eval.isKept_restores alarm n
  exact ⟨fun s request => (agrees_serve s request sound).same.symm,
    fun f message args => (Eval.agrees_invoke f message args sound).same.symm⟩

theorem stacks_restored_loadedEngine : Reachable reentry loadedEngine ∧
    Request.run.serve (watched restores (Run.fail (.runtime .noIterator)) 20) ⟨0⟩
      loadedEngine.machine =
      Request.run.serve (reentry 20) ⟨0⟩ loadedEngine.machine :=
  ⟨reachable_loadedEngine, (stacks_restored reachable_loadedEngine 20 _).1 ⟨0⟩ .run⟩

end Reachable

end Engine

end CellScript
