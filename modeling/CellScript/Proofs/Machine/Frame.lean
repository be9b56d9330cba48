import CellScript.Proofs.Machine.Sound
import Mathlib.Data.List.Nodup
import Mathlib.Data.List.Perm.Subperm

/-!
# Scope levels that are apart

Each call has a scope level of its own, and a closure that is suspended keeps its level until it
goes on. The containers of these levels are apart when no container is in two of them, and none is
shared: among the private variables of a closure or the global variables of a script. What is
computed in a context frames all containers but those that can be seen from the current level,
whatever containers there are elsewhere.

## Main definitions

* `ScopeChain.all`, `ScopeChain.outer` — the levels of the calls in progress, and of those that are
  waiting.
* `Heap.suspendedLevels` — the levels that suspended closures keep.
* `Machine.Shares` — containers that belong to no level.
* `Machine.Separate`, `Machine.Isolated` — levels that are apart, in a heap and in a context.
* `Machine.Stays` — what plain operations leave of scopes.
* `Machine.Frames` — what computations leave of scopes.
* `Machine.Shifts` — what is left where containers are put on the current level or taken off it.

## Main statements

* `Machine.Separate.step` — levels stay apart when new containers are added to them.
* `Machine.Stays.frames` — plain operations keep to the current scope.
-/

namespace CellScript

/-! ## Levels -/

/-- The containers of levels. -/
def localsOf (levels : List ScopeLevel) : List VarsRef :=
  levels.flatMap (·.locals)

@[simp] theorem localsOf_nil : localsOf [] = [] := rfl

@[simp] theorem localsOf_cons (level : ScopeLevel) (levels : List ScopeLevel) :
    localsOf (level :: levels) = level.locals ++ localsOf levels := rfl

@[simp] theorem localsOf_append (levels levels' : List ScopeLevel) :
    localsOf (levels ++ levels') = localsOf levels ++ localsOf levels' :=
  List.flatMap_append

namespace ScopeLevel

@[simp] theorem locals_ofBase (base : VarsRef) (this : Option VarsRef) :
    (ofBase base this).locals = [base] := rfl

@[simp] theorem locals_push (l : ScopeLevel) (vars : VarsRef) :
    (l.push vars).locals = vars :: l.locals := rfl

theorem base_mem_locals (l : ScopeLevel) : l.base ∈ l.locals := by
  simp [locals]

theorem top_mem_locals (l : ScopeLevel) : l.top ∈ l.locals := by
  unfold top locals
  cases l.inner <;> simp

theorem locals_pop_sublist (l : ScopeLevel) : l.pop.locals.Sublist l.locals :=
  (List.tail_sublist _).append_right _

theorem locals_truncate_sublist (l : ScopeLevel) (depth : Nat) :
    (l.truncate depth).locals.Sublist l.locals :=
  (List.drop_sublist _ _).append_right _

end ScopeLevel

namespace ScopeChain

variable {s t : ScopeChain}

/-- The levels, the current one first. -/
def all (s : ScopeChain) : List ScopeLevel :=
  s.levels ++ [s.base]

/-- The levels below the current one. -/
def outer (s : ScopeChain) : List ScopeLevel :=
  s.all.tail

theorem all_eq_cons (s : ScopeChain) : s.all = s.current :: s.outer := by
  unfold outer all current
  cases s.levels <;> rfl

theorem base_mem_locals (s : ScopeChain) : s.base.base ∈ localsOf s.all := by
  unfold all
  rw [localsOf_append]
  exact List.mem_append_right _ (List.mem_append_left _ s.base.base_mem_locals)

@[simp] theorem outer_pushLevel (s : ScopeChain) (level : ScopeLevel) :
    (s.pushLevel level).outer = s.all := rfl

@[simp] theorem current_pushLevel (s : ScopeChain) (level : ScopeLevel) :
    (s.pushLevel level).current = level := rfl

@[simp] theorem outer_modifyCurrent (s : ScopeChain) (f : ScopeLevel → ScopeLevel) :
    (s.modifyCurrent f).outer = s.outer := by
  unfold modifyCurrent outer all
  cases s.levels <;> rfl

@[simp] theorem current_modifyCurrent (s : ScopeChain) (f : ScopeLevel → ScopeLevel) :
    (s.modifyCurrent f).current = f s.current := by
  unfold modifyCurrent current
  cases s.levels <;> rfl

@[simp] theorem global_modifyCurrent (s : ScopeChain) (f : ScopeLevel → ScopeLevel) :
    (s.modifyCurrent f).global = s.global := by
  unfold modifyCurrent
  cases s.levels <;> rfl

/-- The container of a context stays at the bottom of its levels. -/
theorem base_modifyCurrent (s : ScopeChain) {f : ScopeLevel → ScopeLevel}
    (h : ∀ l, (f l).base = l.base) :
    (s.modifyCurrent f).base.base = s.base.base := by
  unfold modifyCurrent
  cases s.levels with
  | nil => exact h s.base
  | cons level rest => rfl

/-- Back from a call, there are the levels that there were when it was made. -/
theorem popLevel_eq (outer : s.outer = t.all) (global : s.global = t.global) :
    s.popLevel = (some s.current, t) := by
  obtain ⟨base, levels, g⟩ := s
  cases levels with
  | nil =>
    have lengths := congrArg List.length outer
    simp [ScopeChain.outer, all] at lengths
  | cons level rest =>
    obtain ⟨rests, bases⟩ :=
        List.append_inj' (show rest ++ [base] = t.levels ++ [t.base] from outer) rfl
    cases rests
    cases bases
    cases global
    rfl

/-- Where names can be bound. -/
theorem mem_containers {v : VarsRef} :
    v ∈ s.containers ↔ v ∈ s.current.locals ∨ s.current.this = some v ∨ v = s.global := by
  simp [containers]

/-- The container in which a name is bound. -/
theorem bound_mem_containers (s : ScopeChain) (h : Heap) (name : String) :
    (s.find? h name).getD s.global ∈ s.containers := by
  cases found : s.find? h name with
  | some vars => exact List.mem_of_find?_eq_some found
  | none => exact mem_containers.mpr (.inr (.inr rfl))

end ScopeChain

/-! ## Suspended levels -/

/-- The level that a suspended closure keeps. -/
def Closure.suspendedLevel? (c : Closure) : Option ScopeLevel :=
  c.suspension.bind (·.level)

def Callable.suspendedLevel? : Callable → Option ScopeLevel
  | .closure c => c.suspendedLevel?
  | _ => none

namespace Heap

variable {h h' : Heap}

/-- The levels of suspended closures. -/
def suspendedLevels (h : Heap) : List ScopeLevel :=
  h.functions.toList.filterMap (·.suspendedLevel?)

theorem suspendedLevels_of_functions (same : h'.functions = h.functions) :
    h'.suspendedLevels = h.suspendedLevels := by
  simp only [suspendedLevels, same]

theorem closure?_of_functions (same : h'.functions = h.functions) (f : FunctionRef) :
    h'.closure? f = h.closure? f := by
  simp only [closure?, callable, same]

/-- A closure gives up the level that it has kept for one that it keeps from now on. -/
theorem suspendedLevels_setSuspension {f : FunctionRef} {c : Closure}
    (found : h.closure? f = some c) (s : Option Suspension) : ∃ before after,
      h.suspendedLevels = before ++ (c.suspendedLevel?.toList ++ after) ∧
        (h.setSuspension f s).suspendedLevels = before ++ ((s.bind (·.level)).toList ++ after) := by
  obtain ⟨i⟩ := f
  have entry : h.functions.toList[i]? = some (.closure c) := by
    simp only [closure?, callable, Array.getD_eq_getD_getElem?] at found
    rw [Array.getElem?_toList]
    cases at? : h.functions[i]? with
    | none => simp [at?] at found
    | some callable =>
      rw [at?, Option.getD_some] at found
      cases callable <;> simp_all
  obtain ⟨bound, value⟩ := List.getElem?_eq_some_iff.mp entry
  have cons (callable : Callable) (rest : List Callable) :
      (callable :: rest).filterMap (·.suspendedLevel?) =
      callable.suspendedLevel?.toList ++ rest.filterMap (·.suspendedLevel?) := by
    cases level : callable.suspendedLevel? <;> simp [level]
  refine ⟨(h.functions.toList.take i).filterMap (·.suspendedLevel?),
    (h.functions.toList.drop (i + 1)).filterMap (·.suspendedLevel?), ?_, ?_⟩
  · have split := List.take_append_drop i h.functions.toList
    rw [List.drop_eq_getElem_cons bound, value] at split
    unfold suspendedLevels
    conv_lhs => rw [← split]
    rw [List.filterMap_append, cons]
    rfl
  · unfold suspendedLevels setSuspension
    rw [Array.toList_modify, List.modify_eq_take_cons_drop bound, value, List.filterMap_append,
      cons]
    rfl

theorem setSuspension_of_none {f : FunctionRef} (missing : h.closure? f = none)
    (s : Option Suspension) :
    h.setSuspension f s = h := by
  have functions : (h.setSuspension f s).functions = h.functions := by
    refine Array.ext_getElem? fun i => ?_
    simp only [setSuspension, Array.getElem?_modify]
    split
    · rename_i same
      subst same
      simp only [closure?, callable, Array.getD_eq_getD_getElem?] at missing
      cases entry : h.functions[f.index]? with
      | none => rfl
      | some callable =>
        rw [entry] at missing
        cases callable with
        | closure _ => cases missing
        | _ => rfl
    · rfl
  exact congrArg (fun functions => { h with functions }) functions

/-- The names of a container. -/
def variables? (h : Heap) (vars : VarsRef) : Option (Dictionary CellRef) :=
  h.vars[vars.index]?

theorem variables?_putVariable {vars w : VarsRef} (other : w ≠ vars) (h : Heap) (name : String)
    (cell : CellRef) :
    (h.putVariable vars name cell).variables? w = h.variables? w := by
  have apart : vars.index ≠ w.index := fun same => other (congrArg VarsRef.mk same.symm)
  simp [variables?, putVariable, Array.getElem?_modify, apart]

theorem variables?_newVars {w : VarsRef} (old : w.index < h.vars.size) :
    h.newVars.2.variables? w = h.variables? w := by
  simp [variables?, newVars, Array.getElem?_push, Nat.ne_of_lt old]

/-- Containers that there were are as they were, but for one. -/
def KeepsBut (but : Option VarsRef) (h h' : Heap) : Prop :=
  h.vars.size ≤ h'.vars.size ∧
    ∀ w : VarsRef, w.index < h.vars.size → but ≠ some w → h'.variables? w = h.variables? w

theorem KeepsBut.of_vars {but : Option VarsRef} (same : h'.vars = h.vars) : h.KeepsBut but h' := by
  simp [KeepsBut, variables?, same]

theorem KeepsBut.trans {but : Option VarsRef} {h'' : Heap} (first : h.KeepsBut but h')
    (next : h'.KeepsBut but h'') :
    h.KeepsBut but h'' :=
  ⟨Nat.le_trans first.1 next.1, fun w old other =>
    (next.2 w (Nat.lt_of_lt_of_le old first.1) other).trans (first.2 w old other)⟩

theorem KeepsBut.mono {but : Option VarsRef} (kept : h.KeepsBut none h') : h.KeepsBut but h' :=
  ⟨kept.1, fun w old _ => kept.2 w old nofun⟩

/-- Names in a new container. -/
theorem KeepsBut.fresh {h'' : Heap} {v : VarsRef} (first : h.KeepsBut none h')
    (next : h'.KeepsBut (some v) h'') (new : h.vars.size ≤ v.index) : h.KeepsBut none h'' := by
  refine ⟨Nat.le_trans first.1 next.1, fun w old _ => ?_⟩
  refine (next.2 w (Nat.lt_of_lt_of_le old first.1) fun same => ?_).trans (first.2 w old nofun)
  obtain rfl := Option.some_inj.mp same
  omega

theorem keepsBut_newVars (but : Option VarsRef) (h : Heap) : h.KeepsBut but h.newVars.2 :=
  ⟨by simp [newVars], fun _ old _ => variables?_newVars old⟩

theorem keepsBut_putVariable (h : Heap) (vars : VarsRef) (name : String) (cell : CellRef) :
    h.KeepsBut (some vars) (h.putVariable vars name cell) :=
  ⟨by simp [putVariable], fun _ _ other => variables?_putVariable
    (fun same => other (congrArg some same.symm)) ..⟩

end Heap

/-! ## Levels that are apart -/

namespace Machine

variable {m m' m'' : Machine} {R R' : List VarsRef}

/-- Whether a container holds the private variables of a closure or the global variables of a
script. -/
def Shares (m : Machine) (v : VarsRef) : Prop :=
  (∃ i, (m.scripts.getD i default).globals = v) ∨ ∃ f c, m.heap.closure? f = some c ∧ c.this = v

/-- The containers `R`, those of suspended levels and those that are shared are apart from each
other. -/
structure Separate (R : List VarsRef) (m : Machine) : Prop where
  nodup : (R ++ localsOf m.heap.suspendedLevels).Nodup
  old : ∀ v ∈ R ++ localsOf m.heap.suspendedLevels, v.index < m.heap.vars.size
  unshared : ∀ v ∈ R ++ localsOf m.heap.suspendedLevels, ¬ m.Shares v
  shared : ∀ v, m.Shares v → v.index < m.heap.vars.size
  this : ∀ level ∈ m.heap.suspendedLevels, ∀ v, level.this = some v → m.Shares v

/-- The containers of all levels of the context are apart from each other, and from `R`, suspended
levels and what is shared. -/
structure Isolated (R : List VarsRef) (m : Machine) : Prop where
  separate : m.Separate (R ++ localsOf m.context.scope.all)
  this : ∀ level ∈ m.context.scope.all, ∀ v, level.this = some v → m.Shares v
  global : m.Shares m.context.scope.global

/-- Levels stay apart when new containers are added, when shared containers are added that are new,
and when containers are taken away. -/
theorem Separate.step (fresh : List VarsRef) (h : m.Separate R)
    (grown : m.heap.vars.size ≤ m'.heap.vars.size)
    (levels : (R' ++ localsOf m'.heap.suspendedLevels).Subperm
      (fresh ++ (R ++ localsOf m.heap.suspendedLevels)))
    (nodup : fresh.Nodup) (new : ∀ v ∈ fresh, m.heap.vars.size ≤ v.index ∧
      v.index < m'.heap.vars.size)
    (shared : ∀ v, m'.Shares v → m.Shares v ∨ m.heap.vars.size ≤ v.index ∧
      v.index < m'.heap.vars.size ∧ v ∉ fresh)
    (this : ∀ level ∈ m'.heap.suspendedLevels, ∀ v, level.this = some v → m'.Shares v) :
    m'.Separate R' := by
  have parts (v : VarsRef) (hv : v ∈ R' ++ localsOf m'.heap.suspendedLevels) :
      v ∈ fresh ∨ v ∈ R ++ localsOf m.heap.suspendedLevels := List.mem_append.mp (levels.subset hv)
  refine ⟨?_, fun v hv => ?_, fun v hv shares => ?_, fun v shares => ?_, this⟩
  · obtain ⟨_, perm, sublist⟩ := levels
    refine perm.nodup_iff.mp
      (sublist.nodup (List.nodup_append'.mpr ⟨nodup, h.nodup, fun v isFresh isOld => ?_⟩))
    exact absurd (h.old v isOld) (by have := new v isFresh; omega)
  · rcases parts v hv with isFresh | isOld
    · exact (new v isFresh).2
    · exact Nat.lt_of_lt_of_le (h.old v isOld) grown
  · rcases shared v shares with before | ⟨later, -, notFresh⟩
    · rcases parts v hv with isFresh | isOld
      · exact absurd (h.shared v before) (by have := new v isFresh; omega)
      · exact h.unshared v isOld before
    · rcases parts v hv with isFresh | isOld
      · exact notFresh isFresh
      · exact absurd (h.old v isOld) (by omega)
  · rcases shared v shares with before | ⟨-, bound, -⟩
    · exact Nat.lt_of_lt_of_le (h.shared v before) grown
    · exact bound

/-- The same heap, as far as levels are concerned. -/
theorem Separate.of_same (h : m.Separate R) (grown : m.heap.vars.size ≤ m'.heap.vars.size)
    (levels : m'.heap.suspendedLevels = m.heap.suspendedLevels)
    (shares : ∀ v, m'.Shares v ↔ m.Shares v)
    (sub : R'.Subperm R) : m'.Separate R' :=
  h.step [] grown (by rw [levels]; exact (List.subperm_append_right _).mpr sub) .nil nofun
    (fun v hv => .inl ((shares v).mp hv)) fun level hl v hv =>
      (shares v).mpr (h.this level (levels ▸ hl) v hv)

theorem Separate.sub (h : m.Separate R) (sub : R'.Subperm R) : m.Separate R' :=
  h.of_same (Nat.le_refl _) rfl (fun _ => .rfl) sub

/-- A container that is apart cannot be seen from the current level. -/
theorem Isolated.hidden (h : m.Isolated R) {v : VarsRef}
    (hv : v ∈ R ++ localsOf m.context.scope.outer) :
    v ∉ m.context.scope.containers := by
  have separate := h.separate
  have inside : v ∈ R ++ localsOf m.context.scope.all := by
    rw [m.context.scope.all_eq_cons, localsOf_cons]
    rw [List.mem_append] at hv ⊢
    rw [List.mem_append]
    tauto
  have unshared : ¬ m.Shares v := separate.unshared v (List.mem_append_left _ inside)
  rw [ScopeChain.mem_containers]
  rintro (inCurrent | isThis | rfl)
  · have nodup := separate.nodup.sublist (List.sublist_append_left _ _)
    rw [m.context.scope.all_eq_cons, localsOf_cons] at nodup
    have swapped :
        (m.context.scope.current.locals ++ (R ++ localsOf m.context.scope.outer)).Nodup := by
      refine List.Perm.nodup_iff ?_ |>.mp nodup
      rw [← List.append_assoc, ← List.append_assoc]
      exact List.perm_append_comm.append_right _
    exact List.disjoint_of_nodup_append swapped inCurrent hv
  · exact unshared (h.this _ (by rw [m.context.scope.all_eq_cons]; exact List.mem_cons_self)
      v isThis)
  · exact unshared h.global

/-! ## Plain operations -/

/-- What plain operations leave: the scope is what it was, only its containers have got other names,
and no closure has been suspended or resumed. There may be new containers, and new closures with
private variables in new containers. -/
structure Stays (m m' : Machine) : Prop where
  scope : m'.context.scope = m.context.scope
  lastTrace : m'.context.lastTrace = m.context.lastTrace
  globals : ∀ i, (m'.scripts.getD i default).globals = (m.scripts.getD i default).globals
  grown : m.heap.vars.size ≤ m'.heap.vars.size
  vars : ∀ w : VarsRef, w.index < m.heap.vars.size → w ∉ m.context.scope.containers →
    m'.heap.variables? w = m.heap.variables? w
  closures : ∀ f c, m.heap.closure? f = some c → m'.heap.closure? f = some c
  suspended : m'.heap.suspendedLevels = m.heap.suspendedLevels
  shares : ∀ v, m.Shares v → m'.Shares v
  shared : ∀ v, m'.Shares v → m.Shares v ∨ m.heap.vars.size ≤ v.index ∧ v.index < m'.heap.vars.size

theorem shares_of_code (functions : m'.heap.functions = m.heap.functions)
    (globals : ∀ i, (m'.scripts.getD i default).globals = (m.scripts.getD i default).globals)
    (v : VarsRef) :
    m'.Shares v ↔ m.Shares v := by
  simp only [Shares, Heap.closure?_of_functions functions, globals]

/-- Functions and scripts are the same. -/
theorem Stays.of_code (scope : m'.context.scope = m.context.scope := by rfl)
    (lastTrace : m'.context.lastTrace = m.context.lastTrace := by rfl)
    (vars : m.heap.KeepsBut none m'.heap := by exact .of_vars rfl)
    (functions : m'.heap.functions = m.heap.functions := by rfl)
    (globals : ∀ i, (m'.scripts.getD i default).globals = (m.scripts.getD i default).globals := by
      exact fun _ => rfl) :
    m.Stays m' where
  scope := scope
  lastTrace := lastTrace
  globals := globals
  grown := vars.1
  vars w old _ := vars.2 w old nofun
  closures f _ found := (Heap.closure?_of_functions functions f).trans found
  suspended := Heap.suspendedLevels_of_functions functions
  shares v := (shares_of_code functions globals v).mpr
  shared v hv := .inl ((shares_of_code functions globals v).mp hv)

theorem Stays.refl (m : Machine) : m.Stays m := .of_code

/-- A change of a script that leaves its variables alone. -/
theorem Stays.modifyScript (s : ScriptRef) {f : Script → Script}
    (h : ∀ script, (f script).globals = script.globals) :
    m.Stays { m with scripts := m.scripts.modify s.index f } :=
  .of_code rfl rfl (.of_vars rfl) rfl fun i => by
    rcases getD_modify m.scripts s.index i f with same | changed
    · exact congrArg Script.globals same
    · exact (congrArg Script.globals changed).trans (h _)

/-- A new function that, if it is a closure, is not suspended and has private variables in a new
container. -/
theorem Stays.newFunction {h : Heap} {callable : Callable}
    (functions : h.functions = m.heap.functions) (vars : m.heap.KeepsBut none h)
    (plain : callable.suspendedLevel? = none)
    (this : ∀ c, callable = .closure c → m.heap.vars.size ≤ c.this.index ∧
      c.this.index < h.vars.size) :
    m.Stays { m with heap := (HeapM.newFunction callable h).2 } where
  scope := rfl
  lastTrace := rfl
  globals _ := rfl
  grown := vars.1
  vars w old _ := vars.2 w old nofun
  closures f c found :=
    closure?_newFunction_of_closure? h callable f c
      ((Heap.closure?_of_functions functions f).trans found)
  suspended := by
    simp [Heap.suspendedLevels, HeapM.newFunction, functions, plain]
  shares v shares := by
    rcases shares with global | ⟨f, c, found, same⟩
    · exact .inl global
    · have before : h.closure? f = some c := (Heap.closure?_of_functions functions f).trans found
      exact .inr ⟨f, c, closure?_newFunction_of_closure? h callable f c before, same⟩
  shared v shares := by
    rcases shares with ⟨i, same⟩ | ⟨f, c, found, rfl⟩
    · exact .inl (.inl ⟨i, same⟩)
    · rcases closure?_newFunction h callable f c found with before | new
      · exact .inl (.inr ⟨f, c, (Heap.closure?_of_functions functions f).symm.trans before, rfl⟩)
      · exact .inr (this c new)

/-- A name is bound in the current scope. -/
theorem Stays.putVariable {vars : VarsRef} (seen : vars ∈ m.context.scope.containers)
    (name : String) (cell : CellRef) :
    m.Stays { m with heap := m.heap.putVariable vars name cell } where
  scope := rfl
  lastTrace := rfl
  globals _ := rfl
  grown := by simp [Heap.putVariable]
  vars w _ hidden := Heap.variables?_putVariable (fun same => absurd (same ▸ seen) hidden) ..
  closures _ _ := id
  suspended := rfl
  shares _ := id
  shared _ := .inl

/-! ## Frames -/

/-- What computations leave: the levels of other calls are still there, and the containers of these
and of all others that are apart have the names that they had. Levels that were apart still are. -/
structure Frames (m m' : Machine) : Prop where
  globals : ∀ i, (m'.scripts.getD i default).globals = (m.scripts.getD i default).globals
  grown : m.heap.vars.size ≤ m'.heap.vars.size
  shares : ∀ v, m.Shares v → m'.Shares v
  outer : m'.context.scope.outer = m.context.scope.outer
  this : m'.context.scope.current.this = m.context.scope.current.this
  global : m'.context.scope.global = m.context.scope.global
  base : m'.context.scope.base.base = m.context.scope.base.base
  locals : ∀ v ∈ m'.context.scope.current.locals, v ∈ m.context.scope.current.locals ∨
    m.heap.vars.size ≤ v.index
  isolated : ∀ R, m.Isolated R → m'.Isolated R
  kept : ∀ R, m.Isolated R → ∀ v ∈ R ++ localsOf m.context.scope.outer,
    m'.heap.variables? v = m.heap.variables? v

theorem Frames.refl (m : Machine) : m.Frames m :=
  ⟨fun _ => rfl, Nat.le_refl _, fun _ => id, rfl, rfl, rfl, rfl, fun _ => .inl, fun _ => id,
    fun _ _ _ _ => rfl⟩

theorem Frames.trans (h : m.Frames m') (h' : m'.Frames m'') : m.Frames m'' where
  globals i := (h'.globals i).trans (h.globals i)
  grown := Nat.le_trans h.grown h'.grown
  shares v := h'.shares v ∘ h.shares v
  outer := h'.outer.trans h.outer
  this := h'.this.trans h.this
  global := h'.global.trans h.global
  base := h'.base.trans h.base
  locals v hv := by
    rcases h'.locals v hv with before | new
    · exact h.locals v before
    · exact .inr (Nat.le_trans h.grown new)
  isolated R := h'.isolated R ∘ h.isolated R
  kept R isolated v hv :=
    (h'.kept R (h.isolated R isolated) v (h.outer.symm ▸ hv)).trans (h.kept R isolated v hv)

theorem frames_settleTrace (m : Machine) :
    m.Frames { m with context := m.context.settleTrace } where
  globals _ := rfl
  grown := Nat.le_refl _
  shares _ := id
  outer := rfl
  this := rfl
  global := rfl
  base := rfl
  locals _ := .inl
  isolated _ isolated :=
    ⟨isolated.separate.of_same (Nat.le_refl _) rfl (fun _ => .rfl) (List.Subperm.refl _),
      isolated.this, isolated.global⟩
  kept _ _ _ _ := rfl

/-- Containers that are apart are old. -/
theorem Isolated.old (h : m.Isolated R) {v : VarsRef} (hv : v ∈ R ++ localsOf m.context.scope.all) :
    v.index < m.heap.vars.size :=
  h.separate.old v (List.mem_append_left _ hv)

theorem mem_outer_all {v : VarsRef} (hv : v ∈ R ++ localsOf m.context.scope.outer) :
    v ∈ R ++ localsOf m.context.scope.all := by
  rw [m.context.scope.all_eq_cons, localsOf_cons]
  rw [List.mem_append] at hv ⊢
  rw [List.mem_append]
  tauto

/-- Plain operations leave levels apart. -/
theorem Separate.of_stays (h : m.Separate R) (stays : m.Stays m') : m'.Separate R := by
  refine h.step [] stays.grown ?_ .nil nofun (fun v hv => ?_) fun level hl v hv => ?_
  · rw [stays.suspended]
    exact List.Subperm.refl _
  · exact (stays.shared v hv).imp_right fun new => ⟨new.1, new.2, List.not_mem_nil⟩
  · exact stays.shares v (h.this level (stays.suspended ▸ hl) v hv)

/-- Plain operations keep to the current scope. -/
theorem Stays.frames (h : m.Stays m') : m.Frames m' where
  globals := h.globals
  grown := h.grown
  shares := h.shares
  outer := congrArg (·.outer) h.scope
  this := congrArg (·.current.this) h.scope
  global := congrArg (·.global) h.scope
  base := congrArg (·.base.base) h.scope
  locals v hv := .inl (h.scope ▸ hv)
  isolated R isolated := by
    refine ⟨?_, fun level hl v hv => h.shares v (isolated.this level (h.scope ▸ hl) v hv), ?_⟩
    · rw [h.scope]
      exact isolated.separate.of_stays h
    · rw [h.scope]
      exact h.shares _ isolated.global
  kept R isolated v hv := h.vars v (isolated.old (mem_outer_all hv)) (isolated.hidden hv)

/-! ## Containers of the current level -/

/-- What is left of scopes where containers are put on the current level or taken off it, and by
plain operations. -/
structure Shifts (m m' : Machine) : Prop extends m.Frames m' where
  lastTrace : m'.context.lastTrace = m.context.lastTrace
  vars : ∀ w : VarsRef, w.index < m.heap.vars.size → w ∉ m.context.scope.containers →
    m'.heap.variables? w = m.heap.variables? w
  closures : ∀ f c, m.heap.closure? f = some c → m'.heap.closure? f = some c

theorem Stays.shifts (h : m.Stays m') : m.Shifts m' :=
  { h.frames with lastTrace := h.lastTrace, vars := h.vars, closures := h.closures }

/-- The current level gets containers that are new, and may lose some. -/
theorem Shifts.modifyCurrent {h : Heap} {c : Context} {g : ScopeLevel → ScopeLevel}
    (fresh : List VarsRef) (scope : c.scope = m.context.scope.modifyCurrent g)
    (lastTrace : c.lastTrace = m.context.lastTrace)
    (same : ∀ l, (g l).base = l.base ∧ (g l).this = l.this)
    (locals : ∀ l, (g l).locals.Subperm (fresh ++ l.locals)) (nodup : fresh.Nodup)
    (new : ∀ v ∈ fresh, m.heap.vars.size ≤ v.index ∧ v.index < h.vars.size)
    (kept : m.heap.KeepsBut none h) (functions : h.functions = m.heap.functions) :
    m.Shifts { m with heap := h, context := c } := by
  have shares (v : VarsRef) : ({ m with heap := h, context := c } : Machine).Shares v ↔
    m.Shares v :=
    @shares_of_code m { m with heap := h, context := c } functions (fun _ => rfl) v
  have outer : c.scope.outer = m.context.scope.outer := by
    rw [scope, ScopeChain.outer_modifyCurrent]
  have current : c.scope.current = g m.context.scope.current := by
    rw [scope, ScopeChain.current_modifyCurrent]
  have all :
      localsOf c.scope.all = (g m.context.scope.current).locals ++
        localsOf m.context.scope.outer := by
    rw [ScopeChain.all_eq_cons, localsOf_cons, current, outer]
  refine ⟨⟨fun _ => rfl, kept.1, fun v => (shares v).mpr, outer, ?_, ?_, ?_, fun v hv => ?_,
    fun R isolated => ?_, fun R isolated v hv =>
      kept.2 v (isolated.old (mem_outer_all hv)) nofun⟩, lastTrace,
    fun w old _ => kept.2 w old nofun, fun f c => (Heap.closure?_of_functions functions f).trans⟩
  · rw [current]
    exact (same _).2
  · rw [scope, ScopeChain.global_modifyCurrent]
  · rw [scope]
    exact m.context.scope.base_modifyCurrent fun l => (same l).1
  · rw [current] at hv
    rcases List.mem_append.mp ((locals _).subset hv) with isFresh | before
    · exact .inr (new v isFresh).1
    · exact .inl before
  · refine ⟨isolated.separate.step fresh kept.1 ?_ nodup new (fun v hv => .inl ((shares v).mp hv))
      fun level hl v hv => ?_, fun level hl v hv => (shares v).mpr ?_, ?_⟩
    · rw [all, Heap.suspendedLevels_of_functions functions, m.context.scope.all_eq_cons,
        localsOf_cons]
      have wider :=
        (List.subperm_append_right (localsOf m.context.scope.outer)).mpr
          (locals m.context.scope.current)
      refine ((List.subperm_append_right _).mpr ((List.subperm_append_left R).mpr wider)).trans ?_
      refine List.Perm.subperm (List.perm_iff_count.mpr fun v => ?_)
      simp only [List.count_append]
      omega
    · rw [Heap.suspendedLevels_of_functions functions] at hl
      exact (shares v).mpr (isolated.separate.this level hl v hv)
    · rw [ScopeChain.all_eq_cons, current, outer] at hl
      rcases List.mem_cons.mp hl with rfl | below
      · refine isolated.this m.context.scope.current ?_ v ((same _).2 ▸ hv)
        rw [m.context.scope.all_eq_cons]
        exact List.mem_cons_self
      · refine isolated.this level ?_ v hv
        rw [m.context.scope.all_eq_cons]
        exact List.mem_cons_of_mem _ below
    · rw [scope, ScopeChain.global_modifyCurrent]
      exact (shares _).mpr isolated.global

/-- A new container on the current level. -/
theorem Shifts.pushLocal {h : Heap} {c : Context} {v : VarsRef}
    (scope : c.scope = m.context.scope.pushLocal v) (lastTrace : c.lastTrace = m.context.lastTrace)
    (new : m.heap.vars.size ≤ v.index ∧ v.index < h.vars.size) (kept : m.heap.KeepsBut none h)
    (functions : h.functions = m.heap.functions) :
    m.Shifts { m with heap := h, context := c } :=
  .modifyCurrent [v] scope lastTrace (fun _ => ⟨rfl, rfl⟩) (fun _ => List.Subperm.refl _)
    (List.nodup_singleton v)
    (fun _ hw => List.mem_singleton.mp hw ▸ new) kept functions

/-- Containers are taken off the current level. -/
theorem Shifts.narrow {c : Context} {g : ScopeLevel → ScopeLevel}
    (scope : c.scope = m.context.scope.modifyCurrent g)
    (lastTrace : c.lastTrace = m.context.lastTrace)
    (same : ∀ l, (g l).base = l.base ∧ (g l).this = l.this)
    (locals : ∀ l, (g l).locals.Sublist l.locals) : m.Shifts { m with context := c } :=
  .modifyCurrent [] scope lastTrace same (fun l => (locals l).subperm) .nil nofun (.of_vars rfl) rfl

end Machine

end CellScript
