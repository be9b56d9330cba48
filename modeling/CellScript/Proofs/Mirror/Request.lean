import CellScript.Proofs.Engine.House
import CellScript.Proofs.Engine.Run
import CellScript.Proofs.Mirror.Document
import CellScript.Proofs.Mirror.Eval

/-!
# Requests and deeds in other places

Between requests, the context of an engine means nothing. Requests that are made of scripts that are
alike come to the same, and a program that is loaded is one more script that is alike. So whatever a
host does for a party comes to the same, wherever the data of the party are: the host is told the
same, and sees the same.

## Main definitions

* `Settled` — machines that are alike but for their contexts.
* `Rests` — computations that lead from machines that are alike to such machines, between requests.

## Main statements

* `Settled.entered`, `Settled.detached` — computations in contexts of their own.
* `Settled.install` — one more script.
* `rests_work` — deeds come to the same.
* `Settled.outcome_eq`, `Settled.sight_eq` — the host is told the same and sees the same.
-/

namespace CellScript.Mirror

open Eval

variable {e : Surroundings} {w : Links} {α : Type}

/-! ## Ends of requests -/

section Ends

instance (flow flow' : Flow) [h : Alike w flow flow'] :
    Sim e w (valueOfFlow flow) (valueOfFlow flow') := by
  cases h.rel <;> unfold valueOfFlow <;> infer_instance

instance (line : UInt32) (outcome outcome' : Except Fault CellRef) [h : Alike w outcome outcome'] :
    Sim e w (reportUncaught line outcome) (reportUncaught line outcome') := by
  obtain ⟨f, f', rfl, rfl, failed⟩ | ⟨c, c', rfl, rfl, _⟩ := h.except
  · cases failed.rel with
    | thrown same =>
      have := Alike.mk same
      refine .next fun v text => .andThen fun v' s => ?_
      have name : s.left.name = s.right.name := Alike.eq (w := v'.now) inferInstance
      rw [name]
      infer_instance
    | other ne =>
      cases f with
      | thrown c => exact absurd rfl (ne c)
      | _ => exact inferInstanceAs (Sim e w (pure _) (pure _))
  · exact inferInstanceAs (Sim e w (pure _) (pure _))

instance (outcome outcome' : Except Fault CellRef) [h : Alike w outcome outcome'] :
    Sim e w (finish outcome) (finish outcome') := by
  refine .andThen fun v ⟨c, c', same⟩ => ?_
  have context : Alike v.now c c' := ⟨same⟩
  have trace : c.trace = c'.trace := Alike.eq (w := v.now) inferInstance
  have lastTrace : c.lastTrace = c'.lastTrace := Alike.eq (w := v.now) inferInstance
  have stats : c.stats = c'.stats := Alike.eq (w := v.now) inferInstance
  have line : c.line = c'.line := Alike.eq (w := v.now) inferInstance
  dsimp only
  rw [trace, lastTrace, stats, line]
  exact .andThen fun _ _ => .andThen fun _ outcome => inferInstance

instance (self : Reentry) [Mirrors e self] (s s' : ScriptRef) [Alike w s s'] :
    Sim e w (runMain self s) (runMain self s') :=
  inferInstanceAs (Sim e w (_ >>= _) (_ >>= _))

theorem sim_hoist (w : Links) : ∀ steps : List Step, Sim e w (hoist steps) (hoist steps)
  | [] => by
    unfold hoist
    infer_instance
  | .mk line i :: rest => by
    have others (v : Links) : Sim e v (hoist rest) (hoist rest) := sim_hoist v rest
    cases i with
    | bind name body isInline site => exact .andThen fun v _ => .andThen fun v' _ => others v'.now
    | _ => exact others w

end Ends

/-- Adding a script and binding its definitions in a context of its own. -/
theorem install_eq (script : Script) (m : Machine) :
    install script m =
      ((newContext ⟨m.scripts.size⟩ >>= (within · (hoist script.main.steps))) >>=
        fun _ => pure ⟨m.scripts.size⟩)
        { m with scripts := m.scripts.push script } := by
  simp only [bind_assoc]
  rfl

/-! ## Machines between requests -/

/-- What is alike stays so when scripts are added. -/
theorem Heaps.later {w' : Links} {h h' : Heap} (heaps : Heaps e w h h') (le : w ≤ w')
    (same : ∀ {kind : Kind} {i j : Nat}, kind ≠ .script → w'.Has kind i j → w.Has kind i j) :
    Heaps e w' h h' where
  cells := heaps.cells.later le (same nofun)
  sequences := heaps.sequences.later le (same nofun) (same nofun)
  sound := heaps.sound
  tables := heaps.tables.later le (same nofun)
  objects := heaps.objects.later le (same nofun)
  functions := heaps.functions.later le (same nofun)
  vars := heaps.vars.later le (same nofun)

/-- Machines that are alike but for their contexts. -/
structure Settled (e : Surroundings) (w : Links) (m m' : Machine) : Prop where
  heap : Heaps e w m.heap m'.heap
  scripts : Pool e w .script e.machine.scripts m.scripts m'.scripts
  hosts : Alike w m.hosts m'.hosts
  classes : m.hosts.classes = e.machine.hosts.classes
  console : m.console = m'.console
  outside : m.outside = m'.outside
  system : m.outside.system = e.machine.outside.system
  logs : m.logs = m'.logs
  watched : m.logs.size = e.machine.logs.size
  activeCalls : m.activeCalls = m'.activeCalls

namespace Settled

variable {m m' : Machine} {s s' : ScriptRef}

/-- Back in contexts that mean nothing. -/
theorem leaving {r r' : Except Stop α × Machine} (c c' : Context)
    (machines : Machines e w r.2 r'.2) :
    Settled e w (Run.leaving c r).2 (Run.leaving c' r').2 := by
  rcases r with ⟨(_ | _) | _, _⟩ <;> rcases r' with ⟨(_ | _) | _, _⟩ <;>
    exact ⟨machines.heap, machines.scripts, machines.hosts, machines.classes, machines.console,
      machines.outside, machines.system, machines.logs, machines.watched, machines.activeCalls⟩

variable (settled : Settled e w m m')

include settled

/-- Machines with other heaps, in which more is linked. -/
theorem inHeap (v : w.Later) {h h' : Heap} (heaps : Heaps e v.now h h') :
    Settled e v.now { m with heap := h } { m' with heap := h' } where
  heap := heaps
  scripts := settled.scripts.later v.le v.scripts
  hosts := settled.hosts.mono v.le
  classes := settled.classes
  console := settled.console
  outside := settled.outside
  system := settled.system
  logs := settled.logs
  watched := settled.watched
  activeCalls := settled.activeCalls

/-- Machines in which a computation goes on in contexts that are alike. -/
theorem inContext (v : w.Later) {h h' : Heap} (heaps : Heaps e v.now h h') (c c' : Context)
    [hc : Alike v.now c c'] :
    Machines e v.now { m with heap := h, context := c } { m' with heap := h', context := c' } :=
  { settled.inHeap v heaps with context := hc }

/-- Machines in which computations begin in contexts of their own. -/
theorem entered (s s' : ScriptRef) [Alike w s s'] :
    ∃ v : w.Later, Machines e v.now (m.entered s) (m'.entered s') := by
  have heaps := settled.heap
  let v := heaps.vars.grow
  have script : Alike v.now (m.scripts.getD s.index default) (m'.scripts.getD s'.index default) :=
    (settled.scripts.getD (Alike.rel (a := s) (b := s')) _ _).mono v.le
  have config :
      (m.scripts.getD s.index default).config = (m'.scripts.getD s'.index default).config :=
    Alike.eq (w := v.now) inferInstance
  have vars : Alike v.now m.heap.newVars.1 m'.heap.newVars.1 := ⟨heaps.vars.has_grow⟩
  have context : Alike v.now (m.entered s).context (m'.entered s').context := by
    unfold Machine.entered ScopeLevel.ofBase
    dsimp only
    rw [config]
    infer_instance
  exact ⟨v, settled.inContext v (heaps.pushVars .empty .empty) (m.entered s).context
    (m'.entered s').context⟩

/-- Computations in contexts of their own. -/
theorem detached [Paired α] (s s' : ScriptRef) [Alike w s s'] {x y : Run α}
    (h : ∀ v : w.Later, Sim e v.now x y) :
    ∃ v : w.Later, Settled e v.now ((newContext s >>= (within · x)) m).2
      ((newContext s' >>= (within · y)) m').2 ∧
      Alike v.now ((newContext s >>= (within · x)) m).1
        ((newContext s' >>= (within · y)) m').1 := by
  obtain ⟨v, begun⟩ := settled.entered s s'
  obtain ⟨v', machines, results⟩ := (h v).follows _ _ begun
  rw [Run.newContext_within, Run.within_eq, Run.newContext_within, Run.within_eq, Run.leaving_fst,
    Run.leaving_fst]
  exact ⟨v.after v', .leaving _ _ machines, results⟩

/-- One more script. -/
theorem install (script script' : Script) [hs : Alike w script script'] :
    ∃ v : Links, w ≤ v ∧ Settled e v (Eval.install script m).2 (Eval.install script' m').2 ∧
      Alike v (Eval.install script m).1 (Eval.install script' m').1 := by
  let pool := settled.scripts
  have added :
      Settled e pool.more { m with scripts := m.scripts.push script }
        { m' with scripts := m'.scripts.push script' } :=
    { heap := settled.heap.later pool.le_more fun ne => (pool.more_other ne).mp
      scripts := pool.pushMore (hs.mono pool.le_more)
      hosts := settled.hosts.mono pool.le_more
      classes := settled.classes
      console := settled.console
      outside := settled.outside
      system := settled.system
      logs := settled.logs
      watched := settled.watched
      activeCalls := settled.activeCalls }
  have linked : Alike pool.more (ScriptRef.mk m.scripts.size) ⟨m'.scripts.size⟩ := ⟨pool.has_more⟩
  have main : script.main = script'.main := Alike.eq (w := w) inferInstance
  obtain ⟨v, bound, results⟩ := added.detached ⟨m.scripts.size⟩ ⟨m'.scripts.size⟩ fun v =>
    sim_hoist v.now script.main.steps
  refine ⟨v.now, pool.le_more.trans v.le, ?_⟩
  rw [install_eq, install_eq, ← main]
  generalize newContext ⟨m.scripts.size⟩ >>= (within · (hoist script.main.steps)) = x,
    newContext ⟨m'.scripts.size⟩ >>= (within · (hoist script.main.steps)) = y at bound results
  rw [Run.bind_run x, Run.bind_run y]
  generalize x { m with scripts := m.scripts.push script } = r,
    y { m' with scripts := m'.scripts.push script' } = r' at bound results
  obtain ⟨r, l⟩ := r
  obtain ⟨r', l'⟩ := r'
  obtain ⟨_, _, rfl, rfl, failed⟩ | ⟨_, _, rfl, rfl, -⟩ := results.except
  · exact ⟨bound, ⟨.error failed.rel⟩⟩
  · exact ⟨bound, ⟨.ok (linked.mono v.le).rel⟩⟩

end Settled

/-! ## Computations between requests -/

open Engine (Answer Holding Offer Deed)

variable {β : Type}

/-- Two computations come to the same between requests. Scripts may be added. -/
def Rests [Paired α] (e : Surroundings) (w : Links) (x y : Run α) : Prop :=
  ∀ m m', Settled e w m m' → ∃ v, w ≤ v ∧ Settled e v (x m).2 (y m').2 ∧ Alike v (x m).1 (y m').1

namespace Rests

variable [Paired α] [Paired β]

theorem pure {a b : α} (h : Alike w a b) : Rests e w (Pure.pure a) (Pure.pure b) :=
  fun _ _ settled => ⟨w, le_rfl, settled, ⟨.ok h.rel⟩⟩

theorem bind {x y : Run α} {f g : α → Run β} (hx : Rests e w x y)
    (hf : ∀ v, w ≤ v → ∀ a b, Alike v a b → Rests e v (f a) (g b)) :
    Rests e w (x >>= f) (y >>= g) := by
  intro m m' settled
  obtain ⟨v, le, settled, results⟩ := hx m m' settled
  rw [Run.bind_run x, Run.bind_run y]
  generalize x m = r, y m' = r' at settled results
  obtain ⟨r, l⟩ := r
  obtain ⟨r', l'⟩ := r'
  obtain ⟨_, _, rfl, rfl, failed⟩ | ⟨a, b, rfl, rfl, same⟩ := results.except
  · exact ⟨v, le, settled, ⟨.error failed.rel⟩⟩
  · obtain ⟨v', le', settled, results⟩ := hf v le a b same l l' settled
    exact ⟨v', le.trans le', settled, results⟩

theorem onHeap {x y : HeapM α} (h : Sim e w x y) : Rests e w (Run.onHeap x) (Run.onHeap y) := by
  intro m m' settled
  obtain ⟨v, heaps, results⟩ := h.follows m.heap m'.heap settled.heap
  change Heaps e v.now (x m.heap).2 (y m'.heap).2 at heaps
  change Alike v.now (x m.heap).1 (y m'.heap).1 at results
  rw [Run.onHeap_run, Run.onHeap_run]
  generalize x m.heap = r, y m'.heap = r' at heaps results
  obtain ⟨r, l⟩ := r
  obtain ⟨r', l'⟩ := r'
  have kept := settled.inHeap v heaps
  obtain ⟨f, f', rfl, rfl, failed⟩ | ⟨a, b, rfl, rfl, same⟩ := results.except
  · exact ⟨v.now, v.le, kept, ⟨.error (.fault failed)⟩⟩
  · exact ⟨v.now, v.le, kept, ⟨.ok same.rel⟩⟩

theorem serve {self : Reentry} [Mirrors e self] {s s' : ScriptRef} [Alike w s s']
    {request request' : Engine.Request}
    (body : ∀ v : w.Later, Sim e v.now (request.body self s) (request'.body self s')) :
    Rests e w (request.serve self s) (request'.serve self s') := by
  intro m m' settled
  have finished (v : w.Later) : Sim e v.now (do Eval.finish (← Run.attempt (request.body self s)))
      (do Eval.finish (← Run.attempt (request'.body self s'))) := by
    have := body v
    infer_instance
  obtain ⟨v, settled, results⟩ := settled.detached s s' finished
  exact ⟨v.now, v.le, settled, results⟩

theorem install {script script' : Script} [Alike w script script'] :
    Rests e w (Eval.install script) (Eval.install script') :=
  fun _ _ settled => settled.install script script'

end Rests

/-! ## Environments -/

theorem Alike.insertAll [Paired α] {d d' : Dictionary α} (h : Alike w d d')
    {entries entries' : List (String × α)} (he : Alike w entries entries') :
    Alike w (entries.foldl (fun d entry => d.insert entry.1 entry.2) d)
      (entries'.foldl (fun d entry => d.insert entry.1 entry.2) d') := by
  induction entries generalizing entries' d d' with
  | nil =>
    obtain ⟨-, rfl⟩ | ⟨_, _, _, _, ⟨⟩, -⟩ := he.list
    exact h
  | cons entry entries ih =>
    obtain ⟨⟨⟩, -⟩ | ⟨_, entry', _, entries', ⟨rfl, rfl⟩, rfl, first, rest⟩ := he.list
    obtain ⟨name, a, b, rfl, rfl, _⟩ := first.entry
    exact ih (inferInstance : Alike w (d.insert name a) (d'.insert name b)) rest

instance [Paired α] (d d' other other' : Dictionary α) [h : Alike w d d']
    [ho : Alike w other other'] :
    Alike w (d.extend other) (d'.extend other') := h.insertAll ho.entries

/-- Functions that are no closures. -/
theorem alike_of_closure? : ∀ {f : Function}, f.closure? = none → Alike w f f
  | .library f, _ => ⟨.library f⟩
  | .probe f, _ => ⟨.probe f⟩
  | .guarded policy f, h => ⟨.guarded policy (alike_of_closure? (f := f) h).rel⟩

theorem alike_natives {entries : List (String × Function)}
    (h : ∀ entry ∈ entries, entry.2.closure? = none) :
    Alike w entries entries :=
  ⟨List.forall₂_same.mpr fun entry among => ⟨rfl, (alike_of_closure? (h entry among)).rel⟩⟩

theorem alike_inlines (inlines : Dictionary Block) : Alike w inlines inlines :=
  ⟨(Discrete.rel_iff (a := inlines.entries)).mpr rfl⟩

theorem alike_environment {environment : Environment} (h : environment.IsNative) :
    Alike w environment environment :=
  ⟨(alike_natives h).rel, (alike_inlines environment.inlines).rel⟩

theorem alike_library (taint : Bool) :
    Alike w (Environment.library taint) (Environment.library taint) := by
  have table : Alike w
      (LibraryFunction.table.map
        fun entry => (entry.1, (Function.library entry.2).wrap entry.2.taintPolicy taint))
      (LibraryFunction.table.map
        fun entry => (entry.1, (Function.library entry.2).wrap entry.2.taintPolicy taint)) := by
    refine alike_natives fun entry among => ?_
    obtain ⟨⟨name, f⟩, -, rfl⟩ := List.mem_map.mp among
    dsimp only
    unfold Function.wrap
    split <;> rfl
  exact ⟨((inferInstance : Alike w Dictionary.empty Dictionary.empty).insertAll table).rel,
    (alike_inlines .empty).rel⟩

/-- What a script is given when it is loaded. -/
theorem alike_scriptOf {engine engine' : Engine}
    (same : engine = { engine' with machine := engine.machine })
    (native : engine'.environment.IsNative) (p : Program) (globals globals' : VarsRef)
    [Alike w globals globals'] :
    Alike w (engine.scriptOf p globals) (engine'.scriptOf p globals') := by
  have library := alike_library (w := w) engine'.config.taint
  have environment := alike_environment (w := w) native
  rw [same]
  unfold Engine.scriptOf Environment.extend
  infer_instance

/-! ## Deeds -/

inductive Answers (w : Links) : Answer → Answer → Prop where
  | script {s s' : ScriptRef} : Alike w s s' → Answers w (.script s) (.script s')
  | value {c c' : CellRef} : Alike w c c' → Answers w (.value c) (.value c')
  | nothing : Answers w .nothing .nothing

instance : Paired Answer where
  rel := Answers
  mono le h := by
    cases h <;> constructor <;> exact Alike.mono ‹_› le

instance (s s' : ScriptRef) [h : Alike w s s'] : Alike w (Answer.script s) (.script s') :=
  ⟨.script h⟩

instance (c c' : CellRef) [h : Alike w c c'] : Alike w (Answer.value c) (.value c') := ⟨.value h⟩

instance : Alike w Answer.nothing .nothing := ⟨.nothing⟩

instance : Paired Holding := .via fun h => (h.script, h.results)

section Holdings

variable (h h' : Holding) [hh : Alike w h h']

instance : Alike w h.script h'.script := ⟨hh.rel.1⟩

instance : Alike w h.results h'.results := ⟨hh.rel.2⟩

instance (result result' : Except Stop Answer) [hr : Alike w result result'] :
    Alike w (h.after result) (h'.after result') := by
  obtain ⟨_, _, rfl, rfl, -⟩ | ⟨_, _, rfl, rfl, same⟩ := hr.except
  · exact hh
  · cases same.rel with
    | script made => exact ⟨.some made.rel, hh.rel.2⟩
    | @value c c' made =>
      have grown : Alike w (h.results ++ [c]) (h'.results ++ [c']) := inferInstance
      exact ⟨hh.rel.1, grown.rel⟩
    | nothing => exact hh

end Holdings

instance (results results' : List CellRef) [Alike w results results'] (offer : Offer) :
    Sim e w (offer.cell results) (offer.cell results') := by
  cases offer with
  | document j => exact inferInstanceAs (Sim e w (Wire.cell _ j) (Wire.cell _ j))
  | earlier i =>
    unfold Offer.cell
    dsimp only
    obtain ⟨left, right⟩ | ⟨c, c', left, right, _⟩ :=
        (inferInstance : Alike w results[i]? results'[i]?).option <;>
      rw [left, right] <;> infer_instance

instance : Plain Offer := ⟨⟩

section Deeds

variable {engine engine' : Engine} (same : engine = { engine' with machine := engine.machine })
  (native : engine'.environment.IsNative) (unshared : engine'.globals = none)

include same native unshared

omit native in
theorem rests_globalsFor : Rests e w engine.globalsFor engine'.globalsFor := by
  have own (engine : Engine) (unshared : engine.globals = none) :
      engine.globalsFor = Run.onHeap HeapM.newVars := by
    unfold Engine.globalsFor
    rw [unshared]
    rfl
  rw [own engine (by rw [same]; exact unshared), own engine' unshared]
  exact .onHeap inferInstance

/-- Deeds come to the same. -/
theorem rests_work (n : Nat) (holding holding' : Holding) [Alike w holding holding'] (deed : Deed) :
    Rests e w (deed.work n engine holding) (deed.work n engine' holding') := by
  have script : Alike w holding.script holding'.script := inferInstance
  cases deed with
  | load p =>
    refine (rests_globalsFor same unshared).bind fun v _ globals globals' _ => ?_
    have := alike_scriptOf (w := v) same native p globals globals'
    exact Rests.install.bind fun _ _ _ _ _ => .pure inferInstance
  | run =>
    unfold Deed.work
    obtain ⟨left, right⟩ | ⟨s, s', left, right, _⟩ := script.option <;> rw [left, right]
    · exact .pure inferInstance
    · have body (v : w.Later) : Sim e v.now (Engine.Request.body (Eval.reentry n) s .run)
          (Engine.Request.body (Eval.reentry n) s' .run) :=
        inferInstanceAs (Sim e v.now (Eval.runMain _ s) (Eval.runMain _ s'))
      exact (Rests.serve body).bind fun _ _ _ _ _ => .pure inferInstance
  | call function offers =>
    unfold Deed.work
    obtain ⟨left, right⟩ | ⟨s, s', left, right, script⟩ := script.option <;> rw [left, right]
    · exact .pure inferInstance
    · refine (Rests.onHeap inferInstance).bind fun v le args args' _ => ?_
      have := script.mono le
      have body (v' : v.Later) :
          Sim e v'.now (Engine.Request.body (Eval.reentry n) s (.call function args))
          (Engine.Request.body (Eval.reentry n) s' (.call function args')) :=
        inferInstanceAs
          (Sim e v'.now (Eval.callFunction _ function args) (Eval.callFunction _ function args'))
      exact (Rests.serve body).bind fun _ _ _ _ _ => .pure inferInstance

end Deeds

/-! ## What the host is told -/

theorem alike_faultClass {f f' : Fault} (h : Alike w f f') : f.faultClass = f'.faultClass := by
  cases h.rel <;> rfl

/-- The host is told the same of what deeds have come to. -/
theorem tellOutcome_eq (h h' : Heap) [Heaps e w h h'] {result result' : Except Stop Answer}
    (same : Alike w result result') :
    Engine.tellOutcome h result = Engine.tellOutcome h' result' := by
  obtain ⟨stop, stop', rfl, rfl, stopped⟩ | ⟨answer, answer', rfl, rfl, answered⟩ := same.except
  · cases stopped.rel with
    | @fault f f' failed =>
      have message : h.faultMessage f = h'.faultMessage f' := Alike.eq (w := w) inferInstance
      unfold Engine.tellOutcome
      dsimp only
      rw [alike_faultClass failed, message]
    | exhausted => rfl
  · cases answered.rel with
    | @value c c' _ =>
      have document : h.document c = h'.document c' := Alike.eq (w := w) inferInstance
      exact congrArg (Except.ok ∘ some) document
    | script | nothing => rfl

/-! ## What the host sees -/

theorem functionSight_eq (h h' : Heap) [Heaps e w h h'] {f f' : Function}
    (same : Functions w f f') :
    f.sight h = f'.sight h' := by
  induction same with
  | library | probe => rfl
  | @bound f f' _ =>
    have described : (h.callable f).describe = (h'.callable f').describe :=
      Alike.eq (w := w) inferInstance
    have body : (h.closure? f).map (·.body) = (h'.closure? f').map (·.body) := by
      obtain ⟨left, right⟩ | ⟨c, c', left, right, _⟩ :=
          (inferInstance : Alike w (h.closure? f) (h'.closure? f')).option <;>
        rw [left, right]
      exact congrArg some (Alike.eq (w := w) inferInstance)
    unfold Function.sight
    rw [described, body]
  | guarded policy _ ih => exact congrArg (FunctionSight.guarded policy) ih

theorem variableNames_eq (h h' : Heap) [heaps : Heaps e w h h'] {vars vars' : VarsRef}
    (hv : Alike w vars vars') :
    h.variableNames vars = h'.variableNames vars' :=
  (heaps.vars.getD hv.rel default default).keys_eq

/-- The host sees the same of scripts that are alike. -/
theorem Settled.sight_eq {engine engine' : Engine}
    (settled : Settled e w engine.machine engine'.machine) {s s' : ScriptRef} (hs : Alike w s s') :
    engine.sight s = engine'.sight s' := by
  have := settled.heap
  have script : Alike w (engine.script s) (engine'.script s') := settled.scripts.getD hs.rel _ _
  have globals : Alike w (engine.script s).globals (engine'.script s').globals := inferInstance
  have values : ((engine.machine.heap.variableNames (engine.script s).globals).map fun name =>
        (name, (engine.global? s name).map engine.machine.heap.document)) =
      (engine'.machine.heap.variableNames (engine'.script s').globals).map fun name =>
        (name, (engine'.global? s' name).map engine'.machine.heap.document) := by
    rw [variableNames_eq engine.machine.heap engine'.machine.heap globals]
    refine List.map_congr_left fun name _ => congrArg (Prod.mk name) ?_
    have found : Alike w (engine.global? s name) (engine'.global? s' name) :=
      inferInstanceAs (Alike w (engine.machine.heap.findVariable? _ name)
        (engine'.machine.heap.findVariable? _ name))
    obtain ⟨left, right⟩ | ⟨c, c', left, right, _⟩ := found.option <;> rw [left, right]
    · rfl
    · have shown : engine.machine.heap.document c = engine'.machine.heap.document c' :=
        Alike.eq (w := w) inferInstance
      exact congrArg some shown
  have functions := (inferInstance : Alike w (engine.script s).environment.functions
    (engine'.script s').environment.functions).entries.mapEntriesEq
      (f := fun entry => (entry.1, entry.2.sight engine.machine.heap))
      (g := fun entry => (entry.1, entry.2.sight engine'.machine.heap)) fun name _ _ bound =>
        congrArg (Prod.mk name) (functionSight_eq engine.machine.heap engine'.machine.heap
          bound.rel)
  have inlines :
      (engine.script s).environment.inlines.entries =
      (engine'.script s').environment.inlines.entries :=
    (inferInstance : Alike w (engine.script s).environment.inlines
      (engine'.script s').environment.inlines).entries.eq
  have profile : (engine.script s).profiler = (engine'.script s').profiler :=
    Alike.eq (w := w) inferInstance
  have lastTrace : (engine.script s).lastTrace = (engine'.script s').lastTrace :=
    Alike.eq (w := w) inferInstance
  have lastStats : (engine.script s).lastStats = (engine'.script s').lastStats :=
    Alike.eq (w := w) inferInstance
  have config : (engine.script s).config = (engine'.script s').config :=
    Alike.eq (w := w) inferInstance
  unfold Engine.sight
  rw [values, functions, inlines, profile, lastTrace, lastStats, config]

end CellScript.Mirror
