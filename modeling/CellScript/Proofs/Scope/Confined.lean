import CellScript.Proofs.Eval.Watch
import CellScript.Proofs.Scope.Guard

/-!
# Calls keep to their level

Where levels are apart, a call changes the names of no level but its own, at no moment and however
it ends: an evaluator that stops where a block, a step or a call begins and another level has
changed does the same as the evaluator. What a call may bind names in is what is visible from the
blocks that it runs: the containers of its level, the private variables of the closure and the
global variables. An inline block has a new container on the level of its caller, which goes. The
target of `callcc` is called when the closure has ended, from the level of its caller.

## Main definitions

* `Machine.Preserves` — containers have the names that they had.
* `Guard.sealed`, `Guard.unseen` — what calls keep of containers on other levels, and of those that
  cannot be seen.
* `Eval.KeepsTo` — a computation leaves the scope alone, and the names of containers.
* `Eval.Confined` — calls of all kinds keep to their level.

## Main statements

* `Eval.confined` — where levels are apart, calls keep to theirs.
* `Eval.agree_stopping` — every block, every step and every call begins in a sound machine.
-/

namespace CellScript

namespace Machine

/-- Containers have the names that they had. -/
def Preserves (W : List VarsRef) (m m' : Machine) : Prop :=
  ∀ w ∈ W, m'.heap.variables? w = m.heap.variables? w

variable {m m' : Machine} {R : List VarsRef} {v : VarsRef}

theorem Isolated.sub {R' : List VarsRef} (h : m.Isolated R) (sub : R'.Sublist R) : m.Isolated R' :=
  ⟨h.separate.sub (sub.append_right _).subperm, h.this, h.global⟩

/-- What cannot be seen from a level cannot be seen from it later on. -/
theorem Frames.hidden (h : m.Frames m') (old : v.index < m.heap.vars.size)
    (hidden : v ∉ m.context.scope.containers) :
    v ∉ m'.context.scope.containers := by
  rw [ScopeChain.mem_containers] at hidden ⊢
  rintro (inCurrent | isThis | isGlobal)
  · rcases h.locals v inCurrent with before | new
    · exact hidden (.inl before)
    · omega
  · exact hidden (.inr (.inl (h.this ▸ isThis)))
  · exact hidden (.inr (.inr (h.global ▸ isGlobal)))

/-! ## Containers on other levels -/

/-- Levels are apart, and containers on other levels than the current one have the names that they
had at the start. -/
def Sealed (W : List VarsRef) (start m : Machine) : Prop :=
  ∃ R, m.Isolated R ∧ (∀ w ∈ W, w ∈ R ++ localsOf m.context.scope.outer) ∧ start.Preserves W m

variable {W : List VarsRef} {start : Machine}

theorem Sealed.of_frames (h : Sealed W start m) (frames : m.Frames m') : Sealed W start m' := by
  obtain ⟨R, isolated, outside, kept⟩ := h
  exact ⟨R, frames.isolated R isolated, frames.outer.symm ▸ outside,
    fun w hw => (frames.kept R isolated w (outside w hw)).trans (kept w hw)⟩

/-- Into a call, from which also the level of its caller is another one. -/
theorem Sealed.enters {f : FunctionRef} (isolated : m.Isolated R)
    (outside : ∀ w ∈ W, w ∈ R ++ localsOf m.context.scope.all) (kept : start.Preserves W m)
    (enters : m.Enters f m') : Sealed W start m' :=
  ⟨R, enters.isolated R isolated, enters.outer.symm ▸ outside,
    fun w hw => (enters.kept isolated (outside w hw)).trans (kept w hw)⟩

theorem Sealed.entered (isolated : m.Isolated R)
    (outside : ∀ w ∈ W, w ∈ R ++ localsOf m.context.scope.all) (kept : start.Preserves W m)
    (s : ScriptRef) : Sealed W start (m.entered s) :=
  ⟨_, isolated.separate.entered s, fun w hw => List.mem_append_left _ (outside w hw),
    fun w hw => (Heap.variables?_newVars (isolated.old (outside w hw))).trans (kept w hw)⟩

/-- A container that is no store of global variables cannot be seen, and has the names that it had
at the start. -/
structure Unseen (v : VarsRef) (start m : Machine) : Prop where
  old : v.index < m.heap.vars.size
  notGlobal : ∀ i, (m.scripts.getD i default).globals ≠ v
  hidden : v ∉ m.context.scope.containers
  kept : m.heap.variables? v = start.heap.variables? v

theorem Unseen.of_shifts (h : Unseen v start m) (shifts : m.Shifts m') : Unseen v start m' where
  old := Nat.lt_of_lt_of_le h.old shifts.grown
  notGlobal i := shifts.globals i ▸ h.notGlobal i
  hidden := shifts.toFrames.hidden h.old h.hidden
  kept := (shifts.vars v h.old h.hidden).trans h.kept

/-- A new context has a level with a new container. -/
theorem Unseen.entered {s : ScriptRef} (old : v.index < m.heap.vars.size)
    (notGlobal : ∀ i, (m.scripts.getD i default).globals ≠ v)
    (kept : m.heap.variables? v = start.heap.variables? v) :
    Unseen v start (m.entered s) := by
  refine ⟨Nat.lt_of_lt_of_le old (Heap.keepsBut_newVars none m.heap).1, notGlobal, ?_,
    (Heap.variables?_newVars old).trans kept⟩
  have containers : (m.entered s).context.scope.containers =
      [m.heap.newVars.1, (m.scripts.getD s.index default).globals] := rfl
  rw [containers]
  simp only [List.mem_cons, List.not_mem_nil, or_false, not_or]
  refine ⟨fun same => ?_, fun same => notGlobal s.index same.symm⟩
  rw [same] at old
  exact Nat.lt_irrefl _ old

end Machine

namespace Eval

/-- Levels are not apart, or containers do not have the names that they had at the start. -/
def disturbed (W : List VarsRef) (start : Machine) (_ : Option Block) (m : Machine) : Prop :=
  ¬ (m.Isolated [] ∧ start.Preserves W m)

/-- A container can be seen. -/
def sees (v : VarsRef) (_ : Option Block) (m : Machine) : Prop :=
  v ∈ m.context.scope.containers

end Eval

namespace Guard

/-- Containers on other levels keep the names that they had at the start, and levels stay apart. -/
def sealed (W : List VarsRef) (start : Machine) : Guard where
  ok := Machine.Sealed W start
  stop := Eval.disturbed W start
  lax := False
  strict := fun ⟨_, isolated, _, kept⟩ stopped => stopped ⟨isolated.sub (List.nil_sublist _), kept⟩
  shifts h shifts := h.of_frames shifts.toFrames
  settles h := h.of_frames (Machine.frames_settleTrace _)
  body := fun _ h enters => by
    obtain ⟨R, isolated, outside, kept⟩ := id h
    refine .inr ⟨?_, fun _ _ _ _ frames => h.of_frames frames⟩
    exact .enters isolated (fun w hw => Machine.mem_outer_all (outside w hw)) kept enters
  entered := fun ⟨_, isolated, outside, kept⟩ =>
    .entered isolated (fun w hw => Machine.mem_outer_all (outside w hw)) kept _
  back h _ frames := h.of_frames frames

/-- A container that cannot be seen keeps the names that it had at the start, unless a block, a step
or a call begins from which it can be seen. -/
def unseen (v : VarsRef) (start : Machine) : Guard where
  ok := Machine.Unseen v start
  stop := Eval.sees v
  lax := True
  strict _ _ := trivial
  shifts h shifts := h.of_shifts shifts
  settles h := ⟨h.old, h.notGlobal, h.hidden, h.kept⟩
  body {f c m m₁} _ h enters := by
    by_cases seen : v ∈ m₁.context.scope.containers
    · exact .inl ⟨trivial, seen⟩
    · have other : some m₁.context.scope.current.base ≠ some v := fun same =>
        seen
          (ScopeChain.mem_containers.mpr
            (.inl (Option.some_inj.mp same ▸ ScopeLevel.base_mem_locals _)))
      refine .inr ⟨⟨Nat.lt_of_lt_of_le h.old enters.vars.1, enters.scripts.symm ▸ h.notGlobal, seen,
        (enters.vars.2 v h.old other).trans h.kept⟩, fun m₂ m' h₂ exits frames => ?_⟩
      refine ⟨exits.vars.symm ▸ h₂.old, exits.scripts.symm ▸ h₂.notGlobal,
        frames.hidden h.old h.hidden, ?_⟩
      have same : m'.heap.variables? v = m₂.heap.variables? v := by
        simp only [Heap.variables?, exits.vars]
      exact same.trans h₂.kept
  entered h := .entered h.old h.notGlobal h.kept
  back h h₁ _ := ⟨h₁.old, h₁.notGlobal, h.hidden, h₁.kept⟩

end Guard

namespace Eval

open Run (Related Tidy guarded)

variable {α β : Type} {R W V : List VarsRef} {n : Nat} {m m₁ : Machine} {f : FunctionRef}
  {c : Closure}

/-- What guards keep is kept by a computation. -/
def Guarded (x : Reentry → Run α) (n : Nat) (m : Machine) : Prop :=
  ∀ G : Guard, G.Covers m (x (reentry n) m) (x (hooked (stopping G.stop) n) m)

/-- A computation leaves the scope and the names of the containers `W` alone, at no moment and
however it ends are they disturbed, and it binds names in no container but `V`, stores of global
variables and what can be seen where its blocks, steps and calls begin. -/
structure KeepsTo (W V : List VarsRef) (x : Reentry → Run α) (n : Nat) (m : Machine) : Prop where
  during : x (hooked (stopping (disturbed W m)) n) m = x (reentry n) m
  after : ∀ r m', x (reentry n) m = (r, m') → r ≠ .error .exhausted →
    m'.context.scope = m.context.scope ∧ m.Preserves W m' ∧ m'.Isolated []
  unseen : ∀ v ∉ V, v.index < m.heap.vars.size → (∀ i, (m.scripts.getD i default).globals ≠ v) →
    ∀ r m', x (reentry n) m = (r, m') → r ≠ .error .exhausted →
    x (hooked (stopping (sees v)) n) m = (r, m') →
      m'.heap.variables? v = m.heap.variables? v

/-- What is computed on a visit somewhere else, from where other containers are on other levels. -/
theorem KeepsTo.visit {x : Reentry → Run α} {y : Reentry → Run β}
    {K : Except Stop β × Machine → Except Stop α × Machine} (isolated : m.Isolated R)
    (run : ∀ s, x s m = K (y s m₁)) (inside : Guarded y n m₁)
    (dry : ∀ e, e.1 = .error .exhausted → (K e).1 = .error .exhausted) (sealed : m.Sealed W m₁)
    (back : ∀ e, e = y (reentry n) m₁ → e.1 ≠ .error .exhausted → m₁.Frames e.2 →
      m.Frames (K e).2 ∧ (K e).2.context.scope = m.context.scope ∧
      (K e).2.heap.vars = e.2.heap.vars)
    (unseen : ∀ v ∉ V, v.index < m.heap.vars.size → (∀ i, (m.scripts.getD i default).globals ≠ v) →
      (y (hooked (stopping (sees v)) n) m₁).1 = .error .exhausted ∨
      m.Unseen v m₁) : KeepsTo W V x n m := by
  have sealing := inside (.sealed W m)
  obtain ⟨lax, -⟩ | ⟨same, kept⟩ := sealing.guarded sealed
  · exact lax.elim
  · have ended {r : Except Stop α} {m' : Machine} (ran : x (reentry n) m = (r, m'))
      (ends : r ≠ .error .exhausted) :
        (y (reentry n) m₁).1 ≠ .error .exhausted ∧ (K (y (reentry n) m₁)).2 = m' := by
      rw [run] at ran
      exact ⟨fun stopped => ends (by rw [← dry _ stopped, ran]), by rw [ran]⟩
    have names {m₂ m' : Machine} (vars : m'.heap.vars = m₂.heap.vars) (v : VarsRef) :
        m'.heap.variables? v = m₂.heap.variables? v := by simp only [Heap.variables?, vars]
    refine ⟨?_, fun r m' ran ends => ?_, fun v outside old notGlobal r m' ran ends watched => ?_⟩
    · rw [run, run]
      exact congrArg K same
    · obtain ⟨ends, rfl⟩ := ended ran ends
      obtain ⟨frames, scope, vars⟩ := back _ rfl ends (sealing.frames ends)
      obtain ⟨_, -, -, kept⟩ := kept ends
      exact ⟨scope, fun w hw => (names vars w).trans (kept w hw),
        (frames.isolated R isolated).sub (List.nil_sublist _)⟩
    · rcases unseen v outside old notGlobal with stopped | ok
      · rw [run] at watched
        exact absurd ((congrArg Prod.fst watched).symm.trans (dry _ stopped)) ends
      · have seeing := inside (.unseen v m)
        rcases seeing.guarded ok with ⟨-, stopped⟩ | ⟨-, kept⟩
        · rw [run] at watched
          exact absurd ((congrArg Prod.fst watched).symm.trans (dry _ stopped)) ends
        · obtain ⟨ends, rfl⟩ := ended ran ends
          obtain ⟨-, -, vars⟩ := back _ rfl ends (seeing.frames ends)
          exact (names vars v).trans (kept ends).kept

/-- What leaves the scope alone keeps to the current level. -/
theorem KeepsTo.current {x : Reentry → Run α} (isolated : m.Isolated R) (inside : Guarded x n m)
    (scope : ∀ r m', x (reentry n) m = (r, m') → r ≠ .error .exhausted →
      m'.context.scope = m.context.scope) :
    KeepsTo (R ++ localsOf m.context.scope.outer) m.context.scope.containers x n m := by
  refine .visit (K := id) isolated (fun _ => rfl) inside (fun _ stopped => stopped)
    ⟨R, isolated, fun _ hw => hw, fun _ _ => rfl⟩ (fun e ran ends framed => ⟨framed, ?_, rfl⟩)
    fun v outside old notGlobal => .inr ⟨old, notGlobal, outside, rfl⟩
  exact scope e.1 e.2 ran.symm ends

/-- Names in containers that a computation leaves alone stand for what they stood for. -/
theorem KeepsTo.findVariable? {x : Reentry → Run α} {v : VarsRef} (keeps : KeepsTo W V x n m)
    (ends : (x (reentry n) m).1.isOk) (hv : v ∈ W) (name : String) :
    (x (reentry n) m).2.heap.findVariable? v name = m.heap.findVariable? v name := by
  have kept := (keeps.after _ _ rfl fun dry => by rw [dry] at ends; cases ends).2.1 v hv
  simp only [Heap.findVariable?, Array.getD_eq_getD_getElem?]
  exact congrArg (fun names => (names.getD default).get? name) kept

/-! ## Calls of closures -/

/-- The body of a closure keeps to its own level. -/
theorem keepsTo_runBody (isolated : m.Isolated R) (found : m.heap.closure? f = some c)
    (message : Option String) (args : List CellRef) (n : Nat) :
    KeepsTo (R ++ localsOf m.context.scope.all) [] (runBody · f c message args) n m := by
  obtain ⟨level, cursor, iterators, h, entered, entry⟩ := entryOf_run f c m
  have enters := enters_inBody found entry message args iterators
  have run (s : Reentry) :
      runBody s f c message args m = proceed (leaveBody f c.source m.context.iterators.length)
      (s.block c.body cursor (inBody f c message args level iterators { m with heap := h })) :=
        runBody_run entered
  generalize inBody f c message args level iterators { m with heap := h } = m₁ at enters run
  refine .visit (y := fun s => s.block c.body cursor) isolated run (fun G => ?_)
    (fun e stopped => ?_)
    (.enters isolated (fun _ hw => hw) (fun _ _ => rfl) enters) (fun e _ ends framed => ?_)
    fun v _ old notGlobal => ?_
  · exact (Reentry.Whole.block (ρ := guarded G) c.body cursor).holds m₁
  · obtain ⟨r, m₂⟩ := e
    cases stopped
    rfl
  · obtain ⟨result, m', left, -, exits⟩ : ∃ result m',
        proceed (leaveBody f c.source m.context.iterators.length) e = (result, m') ∧
        result ≠ .error .exhausted ∧
          e.2.Exits f m' := by
      rcases e with ⟨(fault | _) | flow, m₂⟩
      · exact leaveBody_run f c.source m.context.iterators.length (.error fault) m₂
      · exact absurd rfl ends
      · exact leaveBody_run f c.source m.context.iterators.length (.ok flow) m₂
    rw [left]
    exact ⟨enters.frames framed exits, enters.scope_eq framed exits, exits.vars⟩
  · by_cases seen : v ∈ m₁.context.scope.containers
    · have stops : (Guard.unseen v m).Stops (hooked (stopping (sees v)) n) :=
        inferInstanceAs ((Guard.unseen v m).Stops (hooked (stopping (Guard.unseen v m).stop) n))
      exact .inl (stops.block c.body cursor m₁ seen)
    · refine .inr ⟨Nat.lt_of_lt_of_le old enters.vars.1, enters.scripts.symm ▸ notGlobal, seen,
        enters.vars.2 v old fun same => seen (ScopeChain.mem_containers.mpr (.inl ?_))⟩
      exact Option.some_inj.mp same ▸ ScopeLevel.base_mem_locals _

/-- A call that is refused changes nothing. -/
theorem KeepsTo.refused {x : Reentry → Run α} {fault : Fault} (isolated : m.Isolated R)
    (run : ∀ s, x s m = (.error (.fault fault), m)) : KeepsTo W V x n m := by
  refine ⟨(run _).trans (run _).symm, fun r m' ran _ => ?_, fun v _ _ _ r m' ran _ _ => ?_⟩
  · obtain ⟨-, rfl⟩ := Prod.mk.inj ((run _).symm.trans ran)
    exact ⟨rfl, fun _ _ => rfl, isolated.sub (List.nil_sublist R)⟩
  · obtain ⟨-, rfl⟩ := Prod.mk.inj ((run _).symm.trans ran)
    rfl

/-- A call in a context of its own keeps to that context. -/
theorem keepsTo_callDetached (isolated : m.Isolated R) (found : m.heap.closure? f = some c)
    (message : Option String) (args : List CellRef) (n : Nat) :
    KeepsTo (R ++ localsOf m.context.scope.all) [] (callDetached · f c message args) n m := by
  have run (s : Reentry) : callDetached s f c message args m =
      if (m.scripts.getD c.owner.index default).loaded then
        Run.leaving m.context (dispatch c.describe args (runClosure s f c message args)
          (m.entered c.owner))
      else (.error (.fault (.runtime (.ownerUnloaded "closure"))), m) := by
    rw [← detached_run]
    exact ifLoaded_run c.owner _ _ m
  by_cases loaded : (m.scripts.getD c.owner.index default).loaded
  · simp only [loaded, if_true] at run
    refine .visit isolated run (fun G => ?_) (fun e stopped => (Run.leaving_fst _ e).trans stopped)
      (.entered isolated (fun _ hw => hw) (fun _ _ => rfl) _) (fun e _ ends framed => ?_)
      fun v _ old notGlobal => .inr (.entered old notGlobal rfl)
    · exact covers_dispatch _ args
        (covers_runClosure (counted (m.entered c.owner)) found message args)
    · rcases e with ⟨(_ | _) | _, m₂⟩
      · exact ⟨framed.back, rfl, rfl⟩
      · exact absurd rfl ends
      · exact ⟨framed.back, rfl, rfl⟩
  · simp only [loaded] at run
    exact .refused isolated run

/-! ## Calls of all kinds -/

/-- What is tidy leaves the scope alone. -/
theorem scope_of_tidy {x : Run α} [tidy : Tidy False x x] (sound : m.Sound) (r : Except Stop α)
    (m' : Machine) (run : x m = (r, m')) (ends : r ≠ .error .exhausted) :
    m'.context.scope = m.context.scope := by
  obtain ⟨r', -, left⟩ := (tidy.agrees m sound).ends run ends
  cases r' with
  | ok _ => exact left.scope
  | error _ =>
    obtain ⟨_, leaves⟩ := left
    exact leaves.scope

/-- Calls keep to their level: bodies of closures to a level of their own, on which they bind names,
calls in another context to that context, and all other calls, the one of the target of `callcc`
among them, to the current level. -/
structure Confined (n : Nat) (R : List VarsRef) (m : Machine) : Prop where
  body : ∀ f c message args, m.heap.closure? f = some c →
    KeepsTo (R ++ localsOf m.context.scope.all) [] (runBody · f c message args) n m
  detached : ∀ f c message args, m.heap.closure? f = some c →
    KeepsTo (R ++ localsOf m.context.scope.all) [] (callDetached · f c message args) n m
  inline : ∀ name block args,
    (m.scripts.getD m.context.script.index default).environment.inlines.get? name = some block →
      KeepsTo (R ++ localsOf m.context.scope.outer) m.context.scope.containers
        (runInline · name block args) n m
  function : ∀ name args,
    KeepsTo (R ++ localsOf m.context.scope.outer) m.context.scope.containers
      (callFunction · name args) n m
  value : ∀ target message args,
    KeepsTo (R ++ localsOf m.context.scope.outer) m.context.scope.containers
      (callValue · target message args) n m
  invoke : ∀ f message args,
    KeepsTo (R ++ localsOf m.context.scope.outer) m.context.scope.containers
      (invoke · f message args) n m

/-- Where levels are apart, calls keep to theirs. -/
theorem confined (sound : m.Sound) (isolated : m.Isolated R) (n : Nat) : Confined n R m := by
  have agree : Reentry.Agree False (reentry n) (reentry n) := agree_reentry n
  refine ⟨fun f c message args found => keepsTo_runBody isolated found message args n,
    fun f c message args found => keepsTo_callDetached isolated found message args n,
    fun name block args found => ?_, fun name args => ?_, fun target message args =>
      ?_, fun f message args => ?_⟩
  · have tidy :
        Tidy False (runInline (reentry n) name block args)
          (runInline (reentry n) name block args) :=
      tidy_runInline name args ((sound.scripts _).inlines name block found)
    exact .current isolated (fun G => (guarded_runInline (G := G) name block args).holds m)
      (scope_of_tidy sound)
  · exact .current isolated (fun G => (guarded_callFunction (G := G) name args).holds m)
      (scope_of_tidy sound)
  · exact .current isolated (fun G => (guarded_callValue (G := G) target message args).holds m)
      (scope_of_tidy sound)
  · refine .current isolated (fun G => (guarded_invoke (G := G) f message args).holds m)
      fun r m' run ends => ?_
    have invoked :
        Run.Agrees False (invoke (reentry n) f message args) (invoke (reentry n) f message args)
          _ m :=
      agrees_invoke f message args sound
    obtain ⟨_, -, left⟩ := invoked.ends run ends
    exact left.scope

/-! ## Sound machines -/

theorem agrees_stopIf {stop : Machine → Prop} {x y : Run α} {post : Run.Post α}
    (h : Run.Agrees False x y post m) (going : ¬ stop m) :
    Run.Agrees False x (stopIf stop y) post m :=
  h.imp_right fun ⟨same, meets⟩ => ⟨same.trans (stopIf_of_not y going).symm, meets⟩

theorem performs_stopIf {stop : Machine → Prop} {s s' : Reentry} [Reentry.Agree False s s']
    (going : ∀ m : Machine, m.Sound → ¬ stop m) :
    Performs False (step s) (fun resume i => stopIf stop (step s' resume i)) where
  simple simple hi h := agrees_stopIf (performs_step.simple simple hi h) (going _ h.sound)
  flow hi h := agrees_stopIf (performs_step.flow hi h) (going _ h.sound)
  compound compound flow hi open_ hm hown length hk :=
    agrees_stopIf (performs_step.compound compound flow hi open_ hm hown length hk) (going _ hm)

/-- Every block, every step and every call begins in a sound machine: an evaluator that stops at
nothing that is so in sound machines does the same as the evaluator. -/
theorem agree_stopping {stop : Option Block → Machine → Prop}
    (going : ∀ b? m, m.Sound → ¬ stop b? m) (n : Nat) :
    Reentry.Agree False (reentry n) (hooked (stopping stop) n) := by
  induction n with
  | zero => exact agree_zero
  | succ n ih =>
    have below : Reentry.Agree False (reentry (n + 1)) (next n fun _ => hooked (stopping stop) n) :=
      agree_next (.inl rfl)
    refine {
      call := fun target message args => ⟨fun m hm => ?_⟩
      attemptInvoke := fun f message args => ⟨fun m hm => ?_⟩
      rounds := below.rounds
      block := fun hb hk hm hown length => ?_ }
    · exact agrees_stopIf ((below.call target message args).agrees m hm) (going none m hm)
    · have invoked := (below.attemptInvoke f message args).agrees m hm
      refine invoked.imp_right fun ⟨same, meets⟩ => ⟨same.trans ?_, meets⟩
      have going : (hooked (stopping stop) (n + 1)).invoke f message args m =
          (next n fun _ => hooked (stopping stop) n).invoke f message args m :=
            stopIf_of_not _ (going none m hm)
      rw [Run.attempt_run, Run.attempt_run, going]
    · have performs : Performs False (step (reentry n))
          (fun resume i => stopIf (stop none) (step (hooked (stopping stop) n) resume i)) :=
            performs_stopIf (going none)
      exact agrees_stopIf (agrees_blockBy performs hb hk hm hown length) (going _ _ hm)

end Eval

end CellScript
