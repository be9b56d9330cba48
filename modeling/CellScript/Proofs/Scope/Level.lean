import CellScript.Proofs.Generator.Call
import CellScript.Proofs.Run.General

/-!
# Levels of calls

A closure that is called is no longer suspended and gets a level of its own: a new one, or the one
that it has kept. When its body has ended the level goes, or the closure keeps it for the next call.
Whatever has happened in between, the containers of all other levels are left alone, and levels that
were apart still are. A call in another context begins with a level that is apart from all levels of
the context in which it is made.

## Main definitions

* `Machine.Enters`, `Machine.Exits` — into the body of a closure, and out of it.

## Main statements

* `Eval.enters_inBody`, `Eval.leaveBody_run` — how calls of closures begin and end.
* `Machine.Enters.frames` — a call of a closure frames what its body frames.
* `Machine.Frames.back` — a call in another context frames all levels of the context in which it is
  made.
-/

namespace CellScript

namespace Machine

variable {m m' m₁ m₂ : Machine} {f : FunctionRef} {c : Closure} {R : List VarsRef} {v : VarsRef}

/-- Into the body of a closure: there is one more level, on which names have been bound, and the
closure is not suspended any more. -/
structure Enters (f : FunctionRef) (m m' : Machine) : Prop where
  outer : m'.context.scope.outer = m.context.scope.all
  global : m'.context.scope.global = m.context.scope.global
  base : m'.context.scope.base = m.context.scope.base
  lastTrace : m'.context.lastTrace = m.context.lastTrace
  scripts : m'.scripts = m.scripts
  shares : ∀ v, m'.Shares v ↔ m.Shares v
  vars : m.heap.KeepsBut (some m'.context.scope.current.base) m'.heap
  closures : ∀ g, m'.heap.closure? g =
    if f = g then (m.heap.closure? g).map ({ · with suspension := none }) else m.heap.closure? g
  isolated : ∀ R, m.Isolated R → m'.Isolated R

/-- Out of the body of a closure: its level goes, or the closure keeps it. -/
structure Exits (f : FunctionRef) (m m' : Machine) : Prop where
  scope : m'.context.scope = m.context.scope.popLevel.2
  lastTrace : m'.context.lastTrace = m.context.lastTrace
  scripts : m'.scripts = m.scripts
  vars : m'.heap.vars = m.heap.vars
  functions : m'.heap.functions = m.heap.functions ∨ ∃ cursor iterators, m'.heap.functions =
    (m.heap.setSuspension f (some ⟨cursor, m.context.scope.popLevel.1, iterators⟩)).functions

/-- Where closures are suspended has nothing to do with what is shared. -/
theorem shares_of_suspension {s : Option Suspension}
    (functions : m'.heap.functions = (m.heap.setSuspension f s).functions)
    (scripts : m'.scripts = m.scripts)
    (v : VarsRef) : m'.Shares v ↔ m.Shares v := by
  have closures (g : FunctionRef) : m'.heap.closure? g =
      if f = g then (m.heap.closure? g).map ({ · with suspension := s }) else m.heap.closure? g :=
    (Heap.closure?_of_functions functions g).trans (closure?_setSuspension m.heap f g s)
  unfold Shares
  rw [scripts]
  refine or_congr .rfl ⟨fun ⟨g, c, found, this⟩ => ?_, fun ⟨g, c, found, this⟩ => ?_⟩
  · rw [closures] at found
    split at found
    · obtain ⟨c', found', rfl⟩ := Option.map_eq_some_iff.mp found
      exact ⟨g, c', found', this⟩
    · exact ⟨g, c, found, this⟩
  · by_cases same : f = g
    · exact ⟨g, { c with suspension := s }, by rw [closures, if_pos same, found, Option.map_some],
        this⟩
    · exact ⟨g, c, by rw [closures, if_neg same, found], this⟩

/-! ## Calls of closures -/

/-- The names of all levels are left alone on the way into the body. -/
theorem Enters.kept (h : m.Enters f m') (isolated : m.Isolated R)
    (hv : v ∈ R ++ localsOf m.context.scope.all) :
    m'.heap.variables? v = m.heap.variables? v := by
  refine h.vars.2 v (isolated.old hv) fun same => ?_
  refine (h.isolated R isolated).hidden (h.outer.symm ▸ hv)
    (ScopeChain.mem_containers.mpr (.inl ?_))
  rw [← Option.some_inj.mp same]
  exact ScopeLevel.base_mem_locals _

/-- The levels around a body are still there when it has ended. -/
theorem Enters.popLevel_eq (h : m.Enters f m₁) (inside : m₁.Frames m₂) :
    m₂.context.scope.popLevel = (some m₂.context.scope.current, m.context.scope) :=
  ScopeChain.popLevel_eq (inside.outer.trans h.outer) (inside.global.trans h.global)

theorem Exits.shares (h : m.Exits f m') (v : VarsRef) : m'.Shares v ↔ m.Shares v := by
  rcases h.functions with same | ⟨cursor, iterators, set⟩
  · exact shares_of_code same (fun i => by rw [h.scripts]) v
  · exact shares_of_suspension set h.scripts v

/-- A level that a closure keeps is still apart from all others, whether the closure has kept
another one or none. -/
theorem Exits.isolated (h : m.Exits f m') (outer : m.context.scope.outer = m'.context.scope.all)
    (level : m.context.scope.popLevel.1 = some m.context.scope.current)
    (global : m.context.scope.global = m'.context.scope.global) (isolated : m.Isolated R) :
    m'.Isolated R := by
  have all : m.context.scope.all = m.context.scope.current :: m'.context.scope.all := by
    rw [ScopeChain.all_eq_cons, outer]
  have separate := isolated.separate
  rw [all, localsOf_cons] at separate
  refine ⟨?_, fun level hl v hv => (h.shares v).mpr (isolated.this level ?_ v hv), ?_⟩
  · have unsuspended (same : m'.heap.functions = m.heap.functions) :
        m'.Separate (R ++ localsOf m'.context.scope.all) := by
      refine separate.of_same (by rw [h.vars]) (Heap.suspendedLevels_of_functions same) h.shares ?_
      exact ((List.sublist_append_right _ _).append_left R).subperm
    rcases h.functions with same | ⟨cursor, iterators, set⟩
    · exact unsuspended same
    · cases found : m.heap.closure? f with
      | none =>
        exact unsuspended (set.trans (congrArg (·.functions) (Heap.setSuspension_of_none found _)))
      | some c =>
        obtain ⟨before, after, levels, levels'⟩ := Heap.suspendedLevels_setSuspension found
          (some ⟨cursor, m.context.scope.popLevel.1, iterators⟩)
        have kept : m'.heap.suspendedLevels = before ++ (m.context.scope.current :: after) := by
          rw [Heap.suspendedLevels_of_functions set, levels', level]
          rfl
        refine separate.step [] (by rw [h.vars]) ?_ .nil nofun
          (fun v hv => .inl ((h.shares v).mp hv))
          fun level hl v hv => (h.shares v).mpr ?_
        · rw [kept, levels]
          have moved : (R ++ localsOf m'.context.scope.all ++
              localsOf (before ++ (m.context.scope.current :: after))).Perm
              (R ++ (m.context.scope.current.locals ++ localsOf m'.context.scope.all) ++
                (localsOf before ++ localsOf after)) := by
            refine List.perm_iff_count.mpr fun v => ?_
            simp only [localsOf_append, localsOf_cons, List.count_append]
            omega
          refine moved.subperm.trans (List.Sublist.subperm ?_)
          simp only [localsOf_append]
          exact ((List.sublist_append_right _ _).append_left _).append_left _
        · rw [kept] at hl
          rcases List.mem_append.mp hl with hl | hl
          · exact isolated.separate.this level (levels ▸ List.mem_append_left _ hl) v hv
          · rcases List.mem_cons.mp hl with rfl | hl
            · exact isolated.this _ (all ▸ List.mem_cons_self) v hv
            · refine isolated.separate.this level ?_ v hv
              rw [levels]
              exact List.mem_append_right _ (List.mem_append_right _ hl)
  · rw [all]
    exact List.mem_cons_of_mem _ hl
  · rw [← global]
    exact (h.shares _).mpr isolated.global

/-- Back from a call, the scope is what it was. -/
theorem Enters.scope_eq (enters : m.Enters f m₁) (inside : m₁.Frames m₂) (exits : m₂.Exits f m') :
    m'.context.scope = m.context.scope := by
  rw [exits.scope, enters.popLevel_eq inside]

/-- The names of all levels are what they were before the call. -/
theorem Enters.kept_back (enters : m.Enters f m₁) (inside : m₁.Frames m₂) (exits : m₂.Exits f m')
    (isolated : m.Isolated R) (hv : v ∈ R ++ localsOf m.context.scope.all) :
    m'.heap.variables? v = m.heap.variables? v := by
  have during := inside.kept R (enters.isolated R isolated) v (enters.outer.symm ▸ hv)
  have after : m'.heap.variables? v = m₂.heap.variables? v := by
    simp only [Heap.variables?, exits.vars]
  exact (after.trans during).trans (enters.kept isolated hv)

/-- A call of a closure frames what its body frames. -/
theorem Enters.frames (enters : m.Enters f m₁) (inside : m₁.Frames m₂) (exits : m₂.Exits f m') :
    m.Frames m' := by
  have scope := enters.scope_eq inside exits
  have left := enters.popLevel_eq inside
  exact {
    globals := fun i => by rw [exits.scripts, inside.globals, enters.scripts]
    grown := by
      rw [exits.vars]
      exact Nat.le_trans enters.vars.1 inside.grown
    shares := fun v shares => (exits.shares v).mpr (inside.shares v ((enters.shares v).mpr shares))
    outer := congrArg (·.outer) scope
    this := congrArg (·.current.this) scope
    global := congrArg (·.global) scope
    base := congrArg (·.base.base) scope
    locals := fun v hv => .inl (scope ▸ hv)
    isolated := fun R isolated => exits.isolated
      (inside.outer.trans (enters.outer.trans (congrArg (·.all) scope.symm)))
      (congrArg (·.1) left)
      (inside.global.trans (enters.global.trans (congrArg (·.global) scope.symm)))
      (inside.isolated R (enters.isolated R isolated))
    kept := fun R isolated v hv => enters.kept_back inside exits isolated (mem_outer_all hv) }

/-! ## Calls in other contexts -/

/-- A new context has a level that is apart from all that were. -/
theorem Separate.entered (separate : m.Separate R) (s : ScriptRef) : (m.entered s).Isolated R := by
  have shares (v : VarsRef) : (m.entered s).Shares v ↔ m.Shares v :=
    shares_of_code rfl (fun _ => rfl) v
  have grown : m.heap.vars.size < (m.entered s).heap.vars.size := by
    simp [Machine.entered, Heap.newVars]
  refine ⟨separate.step [m.heap.newVars.1] grown.le ?_ (List.nodup_singleton _) (fun v hv => ?_)
    (fun v hv => .inl ((shares v).mp hv)) fun level hl v hv =>
      (shares v).mpr (separate.this level hl v hv),
    fun level hl v hv => ?_, .inl ⟨s.index, rfl⟩⟩
  · refine List.Perm.subperm (List.perm_iff_count.mpr fun v => ?_)
    change List.count v (R ++ [m.heap.newVars.1] ++ localsOf m.heap.suspendedLevels) = _
    simp only [List.count_append]
    omega
  · rw [List.mem_singleton.mp hv]
    exact ⟨Nat.le_refl _, grown⟩
  · obtain rfl :=
        List.mem_singleton.mp (show level ∈ [ScopeLevel.ofBase m.heap.newVars.1 none] from hl)
    cases hv

/-- Back from another context, all levels are left alone. -/
theorem Frames.kept_back {s : ScriptRef} (inside : (m.entered s).Frames m₁)
    (isolated : m.Isolated R) (hv : v ∈ R ++ localsOf m.context.scope.all) :
    m₁.heap.variables? v = m.heap.variables? v :=
  (inside.kept _ (isolated.separate.entered s) v (List.mem_append_left _ hv)).trans
  (Heap.variables?_newVars (isolated.old hv))

/-- A call in another context frames all levels of the context in which it is made. -/
theorem Frames.back {s : ScriptRef} (inside : (m.entered s).Frames m₁) :
    m.Frames { m₁ with context := m.context } where
  globals := inside.globals
  grown := Nat.le_trans (Heap.keepsBut_newVars none m.heap).1 inside.grown
  shares v shares := inside.shares v ((shares_of_code rfl (fun _ => rfl) v).mpr shares)
  outer := rfl
  this := rfl
  global := rfl
  base := rfl
  locals _ := .inl
  isolated R isolated := by
    have shares (v : VarsRef) (shares : m.Shares v) : m₁.Shares v :=
      inside.shares v ((shares_of_code rfl (fun _ => rfl) v).mpr shares)
    refine ⟨?_, fun level hl v hv => shares v (isolated.this level hl v hv),
      shares _ isolated.global⟩
    exact (inside.isolated _ (isolated.separate.entered s)).separate.of_same (Nat.le_refl _)
      rfl (fun _ => .rfl)
      (List.sublist_append_left _ _).subperm
  kept R isolated v hv := inside.kept_back isolated (mem_outer_all hv)

end Machine

namespace Eval

variable {f : FunctionRef} {c : Closure} {m : Machine} {level : ScopeLevel} {cursor : Option Cursor}
  {iterators : List IterState} {h : Heap}

/-- The level with which a closure is entered is a new one, or the one that it has kept. -/
structure Entry (f : FunctionRef) (c : Closure) (m : Machine) (level : ScopeLevel)
    (h : Heap) : Prop where
  functions : h.functions = (m.heap.setSuspension f none).functions
  vars : m.heap.KeepsBut none h
  locals : ∃ fresh : List VarsRef, fresh.Nodup ∧
    (∀ v ∈ fresh, m.heap.vars.size ≤ v.index ∧ v.index < h.vars.size) ∧
      level.locals = fresh ++ localsOf c.suspendedLevel?.toList
  this : level.this = some c.this ∨ c.suspendedLevel? = some level

theorem entryOf_run (f : FunctionRef) (c : Closure) (m : Machine) : ∃ level cursor iterators h,
    entryOf f c m = (.ok (level, cursor, iterators), { m with heap := h }) ∧
    Entry f c m level h := by
  have fresh (unkept : c.suspendedLevel? = none) : Entry f c m
      (.ofBase (m.heap.setSuspension f none).newVars.1 (some c.this))
      (m.heap.setSuspension f none).newVars.2 :=
    { functions := rfl
      vars := Heap.keepsBut_newVars none _
      locals := by
        refine ⟨[⟨m.heap.vars.size⟩], List.nodup_singleton _, fun v hv => ?_, by rw [unkept]; rfl⟩
        rw [List.mem_singleton.mp hv]
        simp [Heap.newVars, Heap.setSuspension]
      this := .inl rfl }
  rcases suspended : c.suspension with _ | ⟨cursor, _ | level, iterators⟩
  · exact ⟨_, _, _, _, entryOf_fresh suspended m,
      fresh (by simp [Closure.suspendedLevel?, suspended])⟩
  · refine ⟨_, none, [], _, ?_, fresh (by simp [Closure.suspendedLevel?, suspended])⟩
    simp only [entryOf, suspended]
    rfl
  · have kept : c.suspendedLevel? = some level := by simp [Closure.suspendedLevel?, suspended]
    refine ⟨_, _, _, _, entryOf_suspended suspended m, rfl, .of_vars rfl, ⟨[], .nil, ?_, ?_⟩,
      .inr kept⟩
    · simp
    · simp [kept, localsOf]

/-- A closure is entered. -/
theorem enters_inBody (found : m.heap.closure? f = some c) (entry : Entry f c m level h)
    (message : Option String) (args : List CellRef) (iterators : List IterState) :
    m.Enters f (inBody f c message args level iterators { m with heap := h }) := by
  have functions :
      (bindHeap f message args level.base h).functions = (m.heap.setSuspension f none).functions :=
    (functions_bindHeap level.base h).trans entry.functions
  have bound : h.KeepsBut (some level.base) (bindHeap f message args level.base h) :=
    HeapM.CalmBut.vars h
  have vars := entry.vars.mono.trans bound
  have shares :=
    @Machine.shares_of_suspension m (inBody f c message args level iterators { m with heap := h })
      f none functions rfl
  refine ⟨rfl, rfl, rfl, rfl, rfl, shares, vars, fun g => ?_, fun R isolated => ?_⟩
  · exact (Heap.closure?_of_functions functions g).trans
      (Machine.closure?_setSuspension m.heap f g none)
  · obtain ⟨fresh, nodup, new, locals⟩ := entry.locals
    obtain ⟨before, after, levels, levels'⟩ := Heap.suspendedLevels_setSuspension found none
    have left : (bindHeap f message args level.base h).suspendedLevels = before ++ after :=
      (Heap.suspendedLevels_of_functions functions).trans levels'
    refine ⟨isolated.separate.step fresh vars.1 ?_ nodup (fun v hv => ?_)
      (fun v hv => .inl ((shares v).mp hv))
      fun level hl v hv => ?_, fun level' hl v hv => (shares v).mpr ?_,
      (shares _).mpr isolated.global⟩
    · refine List.Perm.subperm (List.perm_iff_count.mpr fun v => ?_)
      change List.count v (R ++ localsOf (level :: m.context.scope.all) ++
        localsOf (bindHeap f message args level.base h).suspendedLevels) = _
      rw [left, levels]
      simp only [localsOf_cons, localsOf_append, locals, List.count_append]
      omega
    · exact ⟨(new v hv).1, Nat.lt_of_lt_of_le (new v hv).2 bound.1⟩
    · refine (shares v).mpr (isolated.separate.this level ?_ v hv)
      rw [show (inBody f c message args _ iterators { m with heap := h }).heap.suspendedLevels =
        _ from left] at hl
      rw [levels]
      rw [List.mem_append] at hl
      simp only [List.mem_append]
      tauto
    · rcases List.mem_cons.mp (show level' ∈ level :: m.context.scope.all from hl) with rfl | below
      · rcases entry.this with own | kept
        · obtain rfl := Option.some_inj.mp (own.symm.trans hv)
          exact .inr ⟨f, c, found, rfl⟩
        · refine isolated.separate.this level' ?_ v hv
          rw [levels, kept]
          simp
      · exact isolated.this level' below v hv

/-- What is done when a body has ended takes its level off. -/
theorem leaveBody_run (f : FunctionRef) (source : Option String) (count : Nat)
    (r : Except Fault Flow) (m : Machine) :
    ∃ result m', leaveBody f source count r m = (result, m') ∧ result ≠ .error .exhausted ∧
      m.Exits f m' := by
  rcases r with fault | flow
  · exact ⟨_, _, rfl, nofun, rfl, rfl, rfl, rfl, .inl rfl⟩
  · cases flow with
    | yield value cursor => exact ⟨_, _, rfl, nofun, rfl, rfl, rfl, rfl, .inr ⟨cursor, _, rfl⟩⟩
    | callcc target cursor => exact ⟨_, _, rfl, nofun, rfl, rfl, rfl, rfl, .inr ⟨cursor, _, rfl⟩⟩
    | normal | «return» _ | «break» | «continue» | throw _ =>
      exact ⟨_, _, rfl, nofun, rfl, rfl, rfl, rfl, .inl rfl⟩

end Eval

end CellScript
