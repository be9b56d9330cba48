import CellScript.Proofs.Engine.Outcome
import CellScript.Proofs.Engine.Reachable
import CellScript.Proofs.Scope.Confined

/-!
# Levels of engines are apart

From the first program on that an engine loads, the levels that suspended closures keep are apart.
So each request begins in a context with a level that is apart from them, and calls keep to their
levels in whatever runs there are.

## Main definitions

* `Engine.IsNew` — engines that have loaded nothing.
* `Engine.Attainable` — what engines come to whose host leaves the stores of variables to the
  scripts.

## Main statements

* `Engine.Attainable.separate` — suspended levels are apart.
* `Engine.Attainable.calls_confined` — calls keep to their levels.
-/

namespace CellScript

/-- What is picked from lists that have the same to pick at each place. -/
theorem filterMap_of_getElem? {α β : Type} {f : α → Option β} : ∀ {l l' : List α},
    (∀ i : Nat, l'[i]?.bind f = l[i]?.bind f) → l'.filterMap f = l.filterMap f
  | [], [], _ => rfl
  | [], a :: l', h => by
    have first : f a = none := h 0
    rw [List.filterMap_cons_none first]
    exact filterMap_of_getElem? fun i => h (i + 1)
  | a :: l, [], h => by
    have first : none = f a := h 0
    rw [List.filterMap_cons_none first.symm]
    exact filterMap_of_getElem? fun i => h (i + 1)
  | a :: l, b :: l', h => by
    have first : f b = f a := h 0
    have rest : l'.filterMap f = l.filterMap f := filterMap_of_getElem? fun i => h (i + 1)
    simp only [List.filterMap_cons, first, rest]

/-- Levels are kept by closures. -/
theorem Heap.suspendedLevels_of_closures {h h' : Heap} (same : ∀ f, h'.closure? f = h.closure? f) :
    h'.suspendedLevels = h.suspendedLevels := by
  have kept (h : Heap) (i : Nat) : h.functions.toList[i]?.bind (·.suspendedLevel?) =
      (h.closure? ⟨i⟩).bind (·.suspendedLevel?) := by
    simp only [closure?, callable, Array.getD_eq_getD_getElem?, Array.getElem?_toList]
    cases at? : h.functions[i]? with
    | none => rfl
    | some callable => cases callable <;> rfl
  refine filterMap_of_getElem? fun i => ?_
  rw [kept, kept, same]

namespace Machine

variable {m m' : Machine} {R : List VarsRef}

/-- Scripts and closures are the same, with the stores of variables that they had; all else may have
changed. -/
structure SameScopes (m m' : Machine) : Prop extends m.SameCode m' where
  globals : ∀ i, (m'.scripts.getD i default).globals = (m.scripts.getD i default).globals
  grown : m.heap.vars.size ≤ m'.heap.vars.size

theorem SameScopes.shares (h : m.SameScopes m') (v : VarsRef) : m'.Shares v ↔ m.Shares v := by
  simp only [Shares, h.globals, h.closures]

theorem Separate.of_sameScopes (h : m.Separate R) (same : m.SameScopes m') : m'.Separate R :=
  h.of_same same.grown (Heap.suspendedLevels_of_closures same.closures) same.shares
    (List.Subperm.refl R)

/-- In another context, levels are still apart. -/
theorem Separate.inContext (h : m.Separate R) (c : Context) :
    ({ m with context := c } : Machine).Separate R :=
  h.of_same (Nat.le_refl _) rfl (fun _ => .rfl) (List.Subperm.refl R)

/-- One more script, with a store of variables that no suspended closure has on its level. -/
theorem Separate.pushScript (h : m.Separate []) {script : Script}
    (old : script.globals.index < m.heap.vars.size)
    (unkept : script.globals ∉ localsOf m.heap.suspendedLevels) :
    ({ m with scripts := m.scripts.push script } : Machine).Separate [] ∧
      ({ m with scripts := m.scripts.push script } : Machine).Shares script.globals ∧
        ∀ v, m.Shares v → ({ m with scripts := m.scripts.push script } : Machine).Shares v := by
  let pushed : Machine := { m with scripts := m.scripts.push script }
  have entry (i : Nat) : pushed.scripts.getD i default =
      if i = m.scripts.size then script else m.scripts.getD i default := by
    simp only [pushed, Array.getD_eq_getD_getElem?, Array.getElem?_push]
    split <;> rfl
  have missing {i : Nat} (out : m.scripts.size ≤ i) : m.scripts.getD i default = default := by
    simp [Array.getD_eq_getD_getElem?, out]
  have shares (v : VarsRef) (shares : m.Shares v) : pushed.Shares v := by
    rcases shares with ⟨i, same⟩ | closure
    · by_cases out : m.scripts.size ≤ i
      · refine .inl ⟨m.scripts.size + 1, ?_⟩
        rw [entry, if_neg (by omega), missing (by omega), ← same, missing out]
      · exact .inl ⟨i, by rw [entry, if_neg (by omega), same]⟩
    · exact .inr closure
  have shared (v : VarsRef) (shares : pushed.Shares v) : v = script.globals ∨ m.Shares v := by
    rcases shares with ⟨i, same⟩ | closure
    · rw [entry] at same
      split at same
      · exact .inl same.symm
      · exact .inr (.inl ⟨i, same⟩)
    · exact .inr (.inr closure)
  refine ⟨⟨h.nodup, h.old, fun v hv shares => ?_, fun v shares => ?_,
    fun level hl v hv => shares v (h.this level hl v hv)⟩, .inl ⟨m.scripts.size, by
      rw [entry, if_pos rfl]⟩, shares⟩
  · rcases shared v shares with rfl | before
    · exact unkept hv
    · exact h.unshared v hv before
  · rcases shared v shares with rfl | before
    · exact old
    · exact h.shared v before

end Machine

namespace Eval

open Run (Related guarded)

variable {α : Type} {n : Nat} {m : Machine}

/-- What is computed in a new context, or without the evaluator. -/
def Secluded (x : Reentry → Run α) (n : Nat) (m : Machine) : Prop :=
  (∃ (s : ScriptRef) (y : Reentry → Run α), Guarded y n (m.entered s) ∧
    ∀ self, x self m = Run.leaving m.context (y self (m.entered s))) ∨
  ∃ e, (∀ self, x self m = e) ∧ m.Stays e.2

theorem disturbed_nil (start : Machine) : disturbed [] start = fun _ m => ¬ m.Isolated [] := by
  funext b? m
  simp [disturbed, Machine.Preserves]

/-- Where suspended levels are apart, all that is computed in new contexts begins with levels that
are apart. -/
theorem Secluded.during {x : Reentry → Run α} (h : Secluded x n m) (separate : m.Separate []) :
    x (hooked (stopping fun _ m => ¬ m.Isolated []) n) m = x (reentry n) m := by
  rcases h with ⟨s, y, inside, run⟩ | ⟨e, run, -⟩
  · have sealed : Machine.Sealed [] m (m.entered s) := ⟨[], separate.entered s, nofun, nofun⟩
    obtain ⟨lax, -⟩ | ⟨same, -⟩ := (inside (.sealed [] m)).guarded sealed
    · exact lax.elim
    · rw [run, run, ← disturbed_nil m]
      exact congrArg (Run.leaving m.context) same
  · rw [run, run]

/-- When it has ended, suspended levels still are apart. -/
theorem Secluded.after {x : Reentry → Run α} (h : Secluded x n m) (separate : m.Separate [])
    (ends : (x (reentry n) m).1 ≠ .error .exhausted) :
    (x (reentry n) m).2.Separate [] ∧ ∀ v, m.Shares v → (x (reentry n) m).2.Shares v := by
  rcases h with ⟨s, y, inside, run⟩ | ⟨e, run, stays⟩
  · rw [run] at ends ⊢
    rw [Run.leaving_fst] at ends
    have framed := (inside (.sealed [] m)).frames ends
    have apart :=
      (framed.isolated [] (separate.entered s)).separate.sub (List.nil_sublist _).subperm
    have shares (v : VarsRef) (shares : m.Shares v) : (y (reentry n) (m.entered s)).2.Shares v :=
      framed.shares v ((Machine.shares_of_code rfl (fun _ => rfl) v).mpr shares)
    generalize y (reentry n) (m.entered s) = e at ends apart shares
    rcases e with ⟨(_ | _) | _, m₁⟩
    · exact ⟨apart.inContext m.context, shares⟩
    · exact absurd rfl ends
    · exact ⟨apart.inContext m.context, shares⟩
  · rw [run]
    exact ⟨separate.of_stays stays, stays.shares⟩

theorem secluded_serve (s : ScriptRef) (request : Engine.Request) (n : Nat) (m : Machine) :
    Secluded (request.serve · s) n m := by
  refine .inl ⟨s, fun self => do finish (← Run.attempt (request.body self s)), fun G => ?_,
    fun self => runInContext_eq ..⟩
  have body :
      Related (guarded G) (request.body (reentry n) s)
        (request.body (hooked (stopping G.stop) n) s) := by
    cases request with
    | run =>
      exact inferInstanceAs
        (Related (guarded G) (runMain (reentry n) s) (runMain (hooked (stopping G.stop) n) s))
    | call function args => exact guarded_callFunction function args
  exact (body.holds _).attemptThen fun r m' _ =>
    Related.holds (ρ := guarded G) (x := finish r) (y := finish r) m'

theorem Secluded.congr {x y : Reentry → Run α} (same : ∀ self, x self m = y self m)
    (h : Secluded y n m) :
    Secluded x n m :=
  h.imp (fun ⟨s, z, inside, run⟩ => ⟨s, z, inside, fun self => (same self).trans (run self)⟩)
    fun ⟨e, run, stays⟩ => ⟨e, fun self => (same self).trans (run self), stays⟩

/-- What is computed in a new context of a script, if it is loaded. -/
theorem secluded_ifLoaded {y : Reentry → Run CellRef} (s : ScriptRef) (fault : Fault)
    (inside : Guarded y n (m.entered s)) :
    Secluded (fun self => ifLoaded s fault (newContext s >>= (within · (y self)))) n m := by
  by_cases loaded : (m.scripts.getD s.index default).loaded
  · refine .inl ⟨s, y, inside, fun self => ?_⟩
    rw [← detached_run]
    exact (ifLoaded_run ..).trans (if_pos loaded)
  · exact .inr ⟨_, fun self => (ifLoaded_run ..).trans (if_neg loaded), .refl m⟩

/-- Functions of the host are plain operations. -/
theorem stays_reply (message : Option String) (args : List CellRef) (r : HostReply) (m : Machine) :
    m.Stays (reply message args r m).2 := by
  cases r with
  | first =>
    unfold reply Library.argument
    split <;> exact .of_code
  | message => cases message <;> exact .of_code
  | count | give _ | throw _ | fail _ => exact .of_code

/-- The host calls functions in a context of their own. -/
theorem secluded_invoke (f : FunctionRef) (message : Option String) (args : List CellRef) (n : Nat)
    (m : Machine) :
    Secluded (invoke · f message args) n m := by
  cases called : m.heap.callable f with
  | closure c =>
    have run (self : Reentry) :
        invoke self f message args m = callDetached self f c message args m := by
      rw [invoke, Run.bind_run, Run.askHeap_run]
      simp only [called]
    have found : m.heap.closure? f = some c := by simp [Heap.closure?, called]
    exact .congr run
      (secluded_ifLoaded
        (y := fun self => dispatch c.describe args (runClosure self f c message args))
      c.owner _ fun G => covers_dispatch _ args
        (covers_runClosure (counted (m.entered c.owner)) found message args))
  | named name owner =>
    have run (self : Reentry) : invoke self f message args m =
        ifLoaded owner (.runtime (.ownerUnloaded "function"))
          (newContext owner >>= (within · (callFunction self name args)))
          m := by
      rw [invoke, Run.bind_run, Run.askHeap_run]
      simp only [called]
      rfl
    exact .congr run (secluded_ifLoaded (y := fun self => callFunction self name args) owner _
      fun G => (guarded_callFunction (G := G) name args).holds _)
  | host _ does =>
    have run (self : Reentry) : invoke self f message args m = reply message args does m := by
      rw [invoke, Run.bind_run, Run.askHeap_run]
      simp only [called]
    exact .inr ⟨_, run, stays_reply message args does m⟩

end Eval

namespace Engine

open Eval (reentry hooked stopping)

/-- Engines that have loaded nothing. -/
inductive IsNew : Engine → Prop
  | create (config : EngineConfig) (console : Console) (system : System) :
    IsNew (.create config console system)
  | withSharedGlobals {e : Engine} : IsNew e → IsNew e.withSharedGlobals
  | withProbes {e : Engine} : IsNew e → IsNew e.withProbes
  | host {e : Engine} {m : Machine} :
    IsNew e → e.machine.SameScopes m → IsNew { e with machine := m }

/-- What an engine comes to that has loaded a program and whose scripts are run by evaluators of a
family. -/
inductive Attainable (evaluator : Nat → Reentry) : Engine → Prop
  | first {e : Engine} {p : Program} :
    IsNew e → p.IsBuilt → Attainable evaluator (Engine.load p e).2
  | load {e : Engine} {p : Program} :
    Attainable evaluator e → p.IsBuilt → Attainable evaluator (Engine.load p e).2
  | serve {e : Engine} {n : Nat} {s : ScriptRef} {request : Engine.Request} :
    Attainable evaluator e →
    (request.serve (evaluator n) s e.machine).1 ≠ .error .exhausted →
    Attainable evaluator (perform (request.serve (evaluator n) s) e).2
  /-- the host calls a function itself -/
  | invoke {e : Engine} {n : Nat} {f : FunctionRef} {message : Option String}
    {args : List CellRef} :
    Attainable evaluator e →
    (Eval.invoke (evaluator n) f message args e.machine).1 ≠ .error .exhausted →
    Attainable evaluator (perform (Eval.invoke (evaluator n) f message args) e).2
  | undefine {e : Engine} {s : ScriptRef} {function : String} : Attainable evaluator e →
    Attainable evaluator (Engine.undefine s function e).2
  | publish {e : Engine} {s : ScriptRef} {function : String} : Attainable evaluator e →
    Attainable evaluator (Engine.publish s function e).2
  /-- the host changes values, variables, flags and logs, takes output, or unloads a script -/
  | host {e : Engine} {m : Machine} : Attainable evaluator e → e.machine.SameScopes m →
    Attainable evaluator { e with machine := m }

variable {evaluator : Nat → Reentry} {e : Engine}

theorem IsNew.reachable (h : IsNew e) : Reachable evaluator e := by
  induction h with
  | create config console system => exact .create config console system
  | withSharedGlobals _ ih => exact .withSharedGlobals ih
  | withProbes _ ih => exact .withProbes ih
  | host _ same ih => exact .host ih same.toSameCode

theorem Attainable.reachable (h : Attainable evaluator e) : Reachable evaluator e := by
  induction h with
  | first new built => exact .load new.reachable built
  | load _ built ih => exact .load ih built
  | serve _ ends ih => exact .serve ih ends
  | invoke _ ends ih => exact .invoke ih ends
  | undefine _ ih => exact .undefine ih
  | publish _ ih => exact .publish ih
  | host _ same ih => exact .host ih same.toSameCode

/-! ## Suspended levels -/

/-- Where variables of all scripts are shared, their store is among those of the scripts. -/
structure Apart (e : Engine) : Prop where
  separate : e.machine.Separate []
  shares : ∀ v, e.globals = some v → e.machine.Shares v

/-- An engine that has loaded nothing has no code. -/
structure Bare (e : Engine) : Prop where
  scripts : ∀ i, (e.machine.scripts.getD i default).globals = ⟨0⟩
  closures : ∀ f, e.machine.heap.closure? f = none
  old : ∀ v, e.globals = some v → v.index < e.machine.heap.vars.size

theorem IsNew.bare (h : IsNew e) : Bare e := by
  induction h with
  | create config console system => exact ⟨fun _ => rfl, fun _ => rfl, nofun⟩
  | @withSharedGlobals e _ ih =>
    refine ⟨ih.scripts, ih.closures, fun v shared => ?_⟩
    obtain rfl := Option.some_inj.mp shared
    change e.machine.heap.vars.size < e.machine.heap.newVars.2.vars.size
    simp [Heap.newVars]
  | withProbes _ ih => exact ⟨ih.scripts, ih.closures, ih.old⟩
  | host _ same ih =>
    exact ⟨fun i => (same.globals i).trans (ih.scripts i),
      fun f => (same.closures f).trans (ih.closures f), fun v shared =>
        Nat.lt_of_lt_of_le (ih.old v shared) same.grown⟩

/-- Without code, nothing is shared but the first store of variables, and no level is kept. -/
theorem separate_of_bare {m : Machine} (scripts : ∀ i, (m.scripts.getD i default).globals = ⟨0⟩)
    (closures : ∀ f, m.heap.closure? f = none) (old : 0 < m.heap.vars.size) :
    m.Separate [] ∧ m.heap.suspendedLevels = [] := by
  have none : m.heap.suspendedLevels = [] :=
    Heap.suspendedLevels_of_closures (h := .empty) fun f => closures f
  refine ⟨⟨by simp [none], by simp [none], by simp [none], fun v shares => ?_, by simp [none]⟩,
    none⟩
  rcases shares with ⟨i, rfl⟩ | ⟨f, c, found, -⟩
  · rw [scripts]
    exact old
  · rw [closures] at found
    cases found

/-- A script comes to a machine with a store of variables, and its definitions are bound in a
context of its own. -/
theorem separate_install {script : Script} {m : Machine} (separate : m.Separate [])
    (old : script.globals.index < m.heap.vars.size)
    (unkept : script.globals ∉ localsOf m.heap.suspendedLevels) :
    (Eval.install script m).2.Separate [] ∧ (Eval.install script m).2.Shares script.globals := by
  obtain ⟨apart, shares, -⟩ := separate.pushScript old unkept
  let m₁ : Machine := { m with scripts := m.scripts.push script }
  obtain ⟨c, m₂, made, entered⟩ : ∃ c m₂, Eval.newContext ⟨m.scripts.size⟩ m₁ = (.ok c, m₂) ∧
      { m₂ with context := c } = m₁.entered ⟨m.scripts.size⟩ := ⟨_, _, rfl, rfl⟩
  obtain ⟨_, m₃, bound⟩ := Eval.total_hoist script.main.steps (m₁.entered ⟨m.scripts.size⟩)
  have framed : (m₁.entered ⟨m.scripts.size⟩).Frames m₃ := by
    have covers :=
      (Eval.related_hoist (ρ := Run.guarded (.sealed [] m)) script.main.steps).holds
        (m₁.entered ⟨m.scripts.size⟩)
    have frames := Guard.Covers.frames covers
    rw [bound] at frames
    exact frames nofun
  have run : (Eval.install script m).2 = { m₃ with context := m₂.context } := by
    unfold Eval.install
    rw [Run.bind_run, Run.ask_run]
    dsimp only
    rw [Run.bind_run, Run.changeMachine_run]
    dsimp only
    rw [Run.bind_run, made]
    dsimp only
    rw [Run.bind_run, Eval.within_run (entered ▸ bound)]
    rfl
  rw [run]
  refine ⟨?_, framed.shares _ ((Machine.shares_of_code rfl (fun _ => rfl) _).mpr shares)⟩
  have separate := (framed.isolated [] (apart.entered ⟨m.scripts.size⟩)).separate
  exact (separate.sub (List.nil_sublist _).subperm).inContext m₂.context

/-- Loading adds a script with a store of variables of its own, or with the one that all scripts
share. -/
theorem apart_load (p : Program) {v : VarsRef} {m : Machine}
    (made : e.globalsFor e.machine = (.ok v, m)) (separate : m.Separate [])
    (old : v.index < m.heap.vars.size) (unkept : v ∉ localsOf m.heap.suspendedLevels) :
    Apart (Engine.load p e).2 := by
  have run : (Engine.load p e).2 = { e with machine := (Eval.install (e.scriptOf p v) m).2 } := by
    change (perform (do Eval.install (e.scriptOf p (← e.globalsFor))) e).2 = _
    rw [perform_run, Run.bind_run, made]
  rw [run]
  obtain ⟨apart, shares⟩ : (Eval.install (e.scriptOf p v) m).2.Separate [] ∧
    (Eval.install (e.scriptOf p v) m).2.Shares v :=
    separate_install separate old unkept
  refine ⟨apart, fun w shared => ?_⟩
  have same : (.ok w, e.machine) = ((.ok v, m) : Except Stop VarsRef × Machine) := by
    rw [← made, globalsFor, show e.globals = some w from shared]
    rfl
  obtain rfl := Except.ok.inj (Prod.mk.inj same).1
  exact shares

theorem Apart.load (h : Apart e) (p : Program) : Apart (Engine.load p e).2 := by
  cases shared : e.globals with
  | some v =>
    have shares := h.shares v shared
    refine apart_load p (v := v) (m := e.machine) (by rw [globalsFor, shared]; rfl) h.separate
      (h.separate.shared v shares) fun kept => h.separate.unshared v kept shares
  | none =>
    have stays : e.machine.Stays { e.machine with heap := e.machine.heap.newVars.2 } :=
      .of_code rfl rfl (Heap.keepsBut_newVars none _)
    refine apart_load p (v := ⟨e.machine.heap.vars.size⟩) (by rw [globalsFor, shared]; rfl)
      (h.separate.of_stays stays) (by simp [Heap.newVars]) fun kept => ?_
    rw [stays.suspended] at kept
    exact Nat.lt_irrefl _ (h.separate.old _ kept)

theorem Bare.load (h : Bare e) (p : Program) : Apart (Engine.load p e).2 := by
  cases shared : e.globals with
  | some v =>
    have old := h.old v shared
    obtain ⟨separate, unkept⟩ := separate_of_bare h.scripts h.closures (Nat.zero_lt_of_lt old)
    exact apart_load p (v := v) (m := e.machine) (by rw [globalsFor, shared]; rfl) separate
      old (by simp [unkept])
  | none =>
    let m : Machine := { e.machine with heap := e.machine.heap.newVars.2 }
    have grown : e.machine.heap.vars.size < m.heap.vars.size := by simp [m, Heap.newVars]
    obtain ⟨separate, unkept⟩ :=
        separate_of_bare (m := m) h.scripts h.closures (Nat.zero_lt_of_lt grown)
    exact apart_load p (v := ⟨e.machine.heap.vars.size⟩) (m := m) (by rw [globalsFor, shared]; rfl)
      separate grown
      (by simp [unkept])

/-- From the first program on, levels that suspended closures keep are apart. -/
theorem Attainable.apart (h : Attainable reentry e) : Apart e := by
  induction h with
  | @first e p new _ => exact new.bare.load p
  | @load e p _ _ ih => exact ih.load p
  | @serve e n s request _ ends ih =>
    obtain ⟨separate, shares⟩ := (Eval.secluded_serve s request n e.machine).after ih.separate ends
    exact ⟨separate, fun v shared => shares v (ih.shares v shared)⟩
  | @invoke e n f message args _ ends ih =>
    obtain ⟨separate, shares⟩ :=
        (Eval.secluded_invoke f message args n e.machine).after ih.separate ends
    exact ⟨separate, fun v shared => shares v (ih.shares v shared)⟩
  | @undefine e s function _ ih =>
    have stays : e.machine.Stays (Engine.undefine s function e).2.machine :=
      .modifyScript s fun _ => rfl
    exact ⟨ih.separate.of_stays stays, fun v shared => stays.shares v (ih.shares v shared)⟩
  | @publish e s function _ ih =>
    have machine := (publish_run e s function).1
    have globals : (Engine.publish s function e).2.globals = e.globals := by
      change ((Engine.publish s function).run e).2.globals = _
      cases known : (e.script s).environment.functions.get? function <;>
        simp only [Engine.publish, StateT.run_bind, StateT.run_get, pure_bind, known] <;> rfl
    exact ⟨machine ▸ ih.separate, fun v shared => machine ▸ ih.shares v (globals ▸ shared)⟩
  | host _ same ih =>
    exact ⟨ih.separate.of_sameScopes same, fun v shared => (same.shares v).mpr (ih.shares v shared)⟩

/-- In whatever an engine is asked for, every block, every step and every call begins in a sound
machine whose levels are apart, as requests do. From there, calls keep to their levels. -/
theorem Attainable.calls_confined (h : Attainable reentry e) (n : Nat) :
    (∀ s, (e.machine.entered s).Sound ∧ (e.machine.entered s).Isolated []) ∧
    (∀ s request,
      Request.serve (hooked (stopping fun _ m => ¬ m.Sound) n) s request e.machine =
        request.serve (reentry n) s e.machine ∧
      Request.serve (hooked (stopping fun _ m => ¬ m.Isolated []) n) s request e.machine =
        request.serve (reentry n) s e.machine) ∧
    (∀ f message args,
      Eval.invoke (hooked (stopping fun _ m => ¬ m.Sound) n) f message args e.machine =
        Eval.invoke (reentry n) f message args e.machine ∧
      Eval.invoke (hooked (stopping fun _ m => ¬ m.Isolated []) n) f message args e.machine =
        Eval.invoke (reentry n) f message args e.machine) ∧
    ∀ (R : List VarsRef) (m : Machine), m.Sound → m.Isolated R → Eval.Confined n R m := by
  have separate := h.apart.separate
  have sound := (h.reachable.sound Eval.agree_reentry).1
  have agree : Reentry.Agree False (reentry n) (hooked (stopping fun _ m => ¬ m.Sound) n) :=
    Eval.agree_stopping (fun _ _ sound stopped => stopped sound) n
  refine ⟨fun s => ⟨sound.of_code rfl, separate.entered s⟩,
    fun s request => ⟨?_, (Eval.secluded_serve s request n e.machine).during separate⟩,
    fun f message args => ⟨?_, (Eval.secluded_invoke f message args n e.machine).during separate⟩,
    fun R m sound isolated => Eval.confined sound isolated n⟩
  · exact (agrees_serve s request sound).same.symm
  · exact (Eval.agrees_invoke f message args sound).same.symm

theorem attainable_loadedEngine : Attainable reentry Reachable.loadedEngine :=
  .first (.create _ _ _) ⟨"main", Reachable.thrownOut, by decide, rfl⟩

theorem calls_confined_loadedEngine : Attainable reentry Reachable.loadedEngine ∧
    Request.run.serve (hooked (stopping fun _ m => ¬ m.Isolated []) 20) ⟨0⟩
      Reachable.loadedEngine.machine =
      Request.run.serve (reentry 20) ⟨0⟩ Reachable.loadedEngine.machine ∧
    Eval.Confined 20 [] (Reachable.loadedEngine.machine.entered ⟨0⟩) := by
  obtain ⟨begins, runs, -, confined⟩ := Attainable.calls_confined attainable_loadedEngine 20
  exact ⟨attainable_loadedEngine, (runs ⟨0⟩ .run).2, confined [] _ (begins ⟨0⟩).1 (begins ⟨0⟩).2⟩

/-- A sub with the name of a variable that hands itself over to the function that declares local
variables. -/
def declaring : Body :=
  .mk none 1 [.define "$x" (.mk none 1 [.flow .callcc (some (.literal (.str "&local")))]) false]

/-- Where a run of it begins. -/
def declaringMachine : Machine :=
  (Engine.load (.ofBlock "main" declaring.build)
    (.create .standard (.ofInput []))).2.machine.entered ⟨0⟩

/-- The target of `callcc` declares a name on the level of the caller, so that a call as a whole
does not keep to the level of the closure. -/
theorem callcc_declares_for_caller : ¬ Eval.KeepsTo (localsOf declaringMachine.context.scope.all) []
    (Eval.callFunction · "$x" []) (4 + 1) declaringMachine := by
  intro keeps
  have declared : (Eval.callFunction (reentry (4 + 1)) "$x" [] declaringMachine).1.isOk ∧
      (declaringMachine.heap.findVariable? declaringMachine.context.scope.base.base "$x").isNone ∧
      ((Eval.callFunction (reentry (4 + 1)) "$x" [] declaringMachine).2.heap.findVariable?
        declaringMachine.context.scope.base.base "$x").isSome := by decide +kernel
  obtain ⟨ends, before, after⟩ := declared
  rw [keeps.findVariable? ends (ScopeChain.base_mem_locals _),
    Option.isNone_iff_eq_none.mp before] at after
  cases after

end Engine

end CellScript
