import CellScript.Proofs.Diagnostics.Counted
import CellScript.Proofs.Eval.Dispatch

/-!
# Where evaluators look at diagnostics

A call is counted when it has ended, and traced together with its arguments. The verdict of a
predicate is traced. A context that is made for a script is monitored as the script is. Nothing of
that makes a difference to what is computed. The functions that show and set diagnostics are the
exception; their calls are counted like all others.

## Main definitions

* `Run.Brief` — computations that come to an end without making calls.

## Main statements

* `Eval.counted_dispatch`, `Eval.counted_verdictOf`, `Eval.counted_detached`,
  `Eval.counted_diagnose` — evaluators carry the relation between counted runs and others.
-/

namespace CellScript

/-! ## Calls -/

namespace Machine

variable {m : Machine} {name : String} {c : Context} {r : Except Fault CellRef}
  {logs : Array (List Warning)}

/-- What was counted before is still counted after one more call. -/
theorem keepsCounts_concluded : m.KeepsCounts { m.concluded name c r with logs } := by
  have counted : m.KeepsCounts
    { m with scripts := m.scripts.modify m.context.script.index (·.counted name c) } := by
    refine .of_modify _ (fun script other => ?_) fun _ => rfl
    by_cases same : name = other
    · simp [Script.counted, Profiler.record, same]
    · simp [Script.counted, Profiler.record, Dictionary.get?_insert_of_ne _ same]
  unfold concluded
  split
  · exact counted.trans (.of_scripts rfl)
  · exact .of_scripts rfl

/-- The call itself is counted. -/
theorem counts_concluded (profile : c.flags.profile)
    (bound : m.context.script.index < m.scripts.size) :
    ({ m.concluded name c r with logs } : Machine).counts name := by
  rw [counts_iff]
  refine ⟨m.context.script, ?_⟩
  simp only [concluded, if_pos profile]
  rw [getD_modify_self, if_pos bound]
  simp [Script.counted, Profiler.record]

/-- Scripts that have counted a call are under another monitor what they were. -/
theorem mapIdx_counted (scripts : Array Script) (counts : Bool) (i : Nat)
    (monitor : Nat → DebugFlags × Profiler) :
    (if counts then scripts.modify i (·.counted name c) else scripts).mapIdx
    (fun i s => s.under (monitor i)) =
      scripts.mapIdx fun i s => s.under (monitor i) := by
  split
  · refine Array.ext (by simp) fun j h₁ h₂ => ?_
    simp only [Array.getElem_mapIdx, Array.getElem_modify]
    split <;> rfl
  · rfl

/-- Counting a call concerns the monitor alone. -/
theorem alike_concluded (flags : DebugFlags) (o : Monitor) (logs' : Array (List Warning)) :
    ({ m.concluded name c r with logs } : Machine).Alike
      { (m.under o).concluded name (c.under flags) r with logs := logs' } := by
  have context : (c.under flags).concluded name (m.context.under o.flags) r =
      (c.concluded name m.context r).under o.flags := by
    cases r with
    | ok value => rfl
    | error f => cases fatal : f.isFatal <;> simp [Context.concluded, fatal] <;> rfl
  refine .of_under (o := m.monitor) ?_
  simp only [under, concluded, mapIdx_counted, context]
  simp [Context.under, DebugFlags.under, Script.under, Function.comp_def]

theorem Counting.concluded (h : m.Counting) :
    ({ m.concluded name c r with logs } : Machine).Counting := by
  have script : (c.concluded name m.context r).script = m.context.script ∧
      (c.concluded name m.context r).flags = m.context.flags := by
    cases r with
    | ok value => exact ⟨rfl, rfl⟩
    | error f => cases fatal : f.isFatal <;> simp [Context.concluded, fatal] <;> exact ⟨rfl, rfl⟩
  have size : (m.concluded name c r).scripts.size = m.scripts.size := keepsCounts_concluded.scripts
  refine ⟨fun s bound => ?_, fun bound => ?_⟩
  · have profiles := h.scripts s (size ▸ bound)
    unfold Machine.concluded
    dsimp only
    split
    · rcases getD_modify m.scripts m.context.script.index s.index (·.counted name c) with
        same | counted
      · rwa [same]
      · rwa [counted]
    · exact profiles
  · have same : (m.concluded name c r).context = c.concluded name m.context r := rfl
    dsimp only at bound ⊢
    rw [same, script.1, size] at bound
    rw [same, script.2]
    exact h.context bound

end Machine

namespace Eval

open Run (Counted counted)

variable {names : List String} {m : Machine} {name : String} {c : Context}
  {described : Option String} {r : Except Fault CellRef}

/-- What is done when a call has ended, in two contexts that differ in what monitors them. -/
theorem counted_conclude (flags : DebugFlags) (described' : Option String) :
    Counted names (conclude name c described r) (conclude name (c.under flags) described' r) m := by
  obtain ⟨logs, run⟩ := conclude_run name c described r m
  refine ⟨by rw [run]; exact Machine.keepsCounts_concluded, fun o counting _ => ?_⟩
  obtain ⟨logs', run'⟩ := conclude_run name (c.under flags) described' r (m.under o)
  rw [run, run']
  exact .inr ⟨rfl, Machine.alike_concluded flags o logs', counting.concluded⟩

variable {x y : Run CellRef}

/-- A call that is too deep is not made. -/
theorem counted_tooDeep (args : List CellRef) (deep : m.context.maxDepth ≤ m.activeCalls) :
    Counted names (dispatch name args x) (dispatch name args y) m := by
  obtain ⟨described, run⟩ := dispatch_run name args m
  specialize run x
  rw [if_pos deep] at run
  refine .of_step (z := Run.fail _) run (.refl m) id fun o => ?_
  obtain ⟨described', run'⟩ := dispatch_run name args (m.under o)
  specialize run' y
  have deep' : (m.under o).context.maxDepth ≤ (m.under o).activeCalls := deep
  rw [if_pos deep'] at run'
  exact ⟨Run.fail _, run', .of_blind inferInstance (.refl m)⟩

theorem counted_dispatch (args : List CellRef) (h : Run.Related (counted names) x y) :
    Counted names (dispatch name args x) (dispatch name args y) m := by
  have made (described described' : Option String) (flags : DebugFlags) :
      Counted names (Run.attempt x >>= conclude name m.context described)
        (Run.attempt y >>= conclude name (m.context.under flags) described')
        { m with activeCalls := m.activeCalls + 1 } :=
    .bind (.attempt (h.holds _)) fun _ _ _ => counted_conclude flags described'
  by_cases deep : m.context.maxDepth ≤ m.activeCalls
  · exact counted_tooDeep args deep
  · obtain ⟨described, run⟩ := dispatch_run name args m
    specialize run x
    rw [if_neg deep] at run
    refine .of_step run (.of_scripts rfl) (fun counting => ⟨counting.scripts, counting.context⟩)
      fun o => ?_
    obtain ⟨described', run'⟩ := dispatch_run name args (m.under o)
    specialize run' y
    have deep' : ¬ (m.under o).context.maxDepth ≤ (m.under o).activeCalls := deep
    rw [if_neg deep'] at run'
    exact ⟨_, run', made described described' o.flags⟩

/-! ## Conditions -/

/-- What is done about the verdict of a predicate whose operands were described. -/
def told (negated : Bool) (described : Option String) (holds : Bool) : Run Bool := do
  let verdict := holds != negated
  if let some described := described then
    Run.traceLogic (described ++ " -> " ++ if verdict then "true" else "false")
  return verdict

theorem told_run (negated : Bool) (described : Option String) (holds : Bool) (m : Machine) :
    ∃ logs, told negated described holds m = (.ok (holds != negated), { m with logs }) := by
  unfold told
  cases described with
  | none => exact ⟨_, rfl⟩
  | some described =>
    dsimp only
    obtain ⟨logs, run⟩ := (Run.reports_traceLogic
      (described ++ " -> " ++ if (holds != negated) = true then "true" else "false")).run m
    exact ⟨logs, by rw [Run.bind_run, run]; rfl⟩

theorem verdictOf_run (predicate : Predicate) (name : String) (negated : Bool) (args : List CellRef)
    (m : Machine) :
    ∃ described, verdictOf predicate name negated args m =
      (predicate.decide name args >>= told negated described) m := by
  have steps : verdictOf predicate name negated args = (do
      let described ← if (← Run.askContext (·.flags)).traceLogic then
          Run.askHeap fun h => some (describePredicate h name negated args)
        else pure none
      predicate.decide name args >>= told negated described) := rfl
  rw [steps, Run.bind_run, Run.askContext_run]
  dsimp only
  split
  · exact ⟨some (describePredicate m.heap name negated args), by rw [Run.bind_run, Run.askHeap_run]⟩
  · exact ⟨none, by rw [pure_bind]⟩

theorem counted_verdictOf (predicate : Predicate) (negated : Bool) (args : List CellRef) :
    Counted names (verdictOf predicate name negated args) (verdictOf predicate name negated args)
      m := by
  have decided (described described' : Option String) :
      Counted names (predicate.decide name args >>= told negated described)
        (predicate.decide name args >>= told negated described') m := by
    have verdict :
        Run.Related (counted names) (predicate.decide name args) (predicate.decide name args) :=
      inferInstance
    refine .bind (verdict.holds m) fun holds m₁ _ => ?_
    obtain ⟨logs, run⟩ := told_run negated described holds m₁
    refine ⟨by rw [run]; exact .of_scripts rfl, fun o counting _ => ?_⟩
    obtain ⟨logs', run'⟩ := told_run negated described' holds (m₁.under o)
    rw [run, run']
    exact .inr ⟨rfl, ⟨{ o with logs := logs' }, rfl⟩, ⟨counting.scripts, counting.context⟩⟩
  obtain ⟨described, run⟩ := verdictOf_run predicate name negated args m
  refine .of_step run (.refl m) id fun o => ?_
  obtain ⟨described', run'⟩ := verdictOf_run predicate name negated args (m.under o)
  exact ⟨_, run', decided described described'⟩

/-! ## Contexts -/

section Within

variable {α : Type} {x y : Run α}

/-- What is computed in contexts that differ in what monitors them. -/
theorem counted_within (flags : DebugFlags) (h : Counted names x y { m with context := c })
    (counts : m.Counting → c.script.index < m.scripts.size → c.flags.profile) :
    Counted names (within c x) (within (c.under flags) y) m := by
  have entered : m.KeepsCounts { m with context := c } := .of_scripts rfl
  have keeps := entered.trans h.keeps
  have left : (within c x m).2.scripts = (x { m with context := c }).2.scripts := by
    simp [Run.within_eq]
  refine ⟨keeps.trans (.of_scripts left), fun o counting knows => ?_⟩
  obtain diagnosed | ⟨same, alike, still⟩ :=
    h.follows { o with flags } ⟨counting.scripts, counts counting⟩ (entered.knows names knows)
  · exact .inl (Machine.KeepsCounts.hasCalled (.of_scripts left) diagnosed)
  · have size := keeps.scripts
    have run : within (c.under flags) y (m.under o) = Run.leaving (m.context.under o.flags)
      (y (({ m with context := c } : Machine).under { o with flags })) := Run.within_eq _ _ _
    rw [run, Run.within_eq, Run.leaving_fst, Run.leaving_fst]
    refine .inr ⟨same, ?_⟩
    revert same alike still size
    rcases x { m with context := c } with ⟨r, e⟩
    rcases y (({ m with context := c } : Machine).under { o with flags }) with ⟨r', e'⟩
    rintro ⟨⟩ ⟨o', ⟨⟩⟩ still size
    have back (bound : m.context.script.index < e.scripts.size) : m.context.flags.profile :=
      counting.context (size ▸ bound)
    match r with
    | .ok _ | .error (.fault _) => exact ⟨⟨{ o' with flags := o.flags }, rfl⟩, still.scripts, back⟩
    | .error .exhausted => exact ⟨⟨o', rfl⟩, still⟩

theorem counted_detached (s : ScriptRef) (h : Run.Related (counted names) x y) :
    Counted names (newContext s >>= (within · x)) (newContext s >>= (within · y)) m := by
  have made (flags : DebugFlags) : Counted names (within (m.entered s).context x)
      (within ((m.entered s).context.under flags) y) { m with heap := (m.entered s).heap } :=
    counted_within flags (h.holds _) fun counting => counting.scripts s
  refine .of_step (Run.newContext_within s x m) (.of_scripts rfl)
    (fun counting => ⟨counting.scripts, counting.context⟩) fun o => ?_
  obtain ⟨p, script⟩ := m.getD_under' o s.index
  have context : ((m.under o).entered s).context = (m.entered s).context.under p.1 := by
    simp only [Machine.entered, script]
    rfl
  have heap : ((m.under o).entered s).heap = (m.entered s).heap := rfl
  refine ⟨_, ?_, made p.1⟩
  rw [Run.newContext_within, context, heap]
  rfl

end Within

end Eval

/-! ## Functions that show and set diagnostics -/

namespace Run

variable {α β : Type}

/-- A computation that does not run out of fuel, keeps counts and stays in its script. -/
class Brief (x : Run α) : Prop where
  lasts : ∀ m : Machine, (x m).1 ≠ .error .exhausted
  keeps : ∀ m : Machine, m.KeepsCounts (x m).2
  script : ∀ m : Machine, (x m).2.context.script = m.context.script

instance (x : Run α) (f : α → Run β) [hx : Brief x] [hf : ∀ a, Brief (f a)] : Brief (x >>= f) where
  lasts m := by
    have lasts := hx.lasts m
    rw [bind_run]
    revert lasts
    rcases x m with ⟨stop | a, m₁⟩
    · exact fun lasts => by simpa using lasts
    · exact fun _ => (hf a).lasts m₁
  keeps m := by
    have keeps := hx.keeps m
    rw [bind_run]
    revert keeps
    rcases x m with ⟨stop | a, m₁⟩
    · exact id
    · exact fun keeps => keeps.trans ((hf a).keeps m₁)
  script m := by
    have script := hx.script m
    rw [bind_run]
    revert script
    rcases x m with ⟨stop | a, m₁⟩
    · exact id
    · exact fun script => ((hf a).script m₁).trans script

/-- A brief computation comes to an end. -/
theorem Brief.attempt (x : Run α) [hx : Brief x] (m : Machine) :
    ∃ r m', Run.attempt x m = (.ok r, m') ∧ m.KeepsCounts m' ∧
      m'.context.script = m.context.script := by
  have lasts := hx.lasts m
  have keeps := hx.keeps m
  have script := hx.script m
  rw [attempt_run]
  revert lasts keeps script
  rcases x m with ⟨(f | _) | a, m'⟩
  · exact fun _ keeps script => ⟨.error f, m', rfl, keeps, script⟩
  · exact fun lasts => absurd rfl lasts
  · exact fun _ keeps script => ⟨.ok a, m', rfl, keeps, script⟩

/-- A computation and one that depends on its result. -/
theorem Brief.andThen {x : Run α} {f : α → Run β} [Brief x] (h : ∀ a, Brief (f a)) :
    Brief (x >>= f) := inferInstance

instance (a : α) : Brief (pure a) := ⟨fun _ => nofun, .refl, fun _ => rfl⟩

instance (f : Fault) : Brief (fail f : Run α) := ⟨fun _ => nofun, .refl, fun _ => rfl⟩

instance (f : Machine → α) : Brief (ask f) := ⟨fun _ => nofun, .refl, fun _ => rfl⟩

instance (f : Heap → α) : Brief (askHeap f) := ⟨fun _ => nofun, .refl, fun _ => rfl⟩

instance (f : Context → α) : Brief (askContext f) := ⟨fun _ => nofun, .refl, fun _ => rfl⟩

instance (f : Heap → Heap) : Brief (changeHeap f) :=
  ⟨fun _ => nofun, fun _ => .of_scripts rfl, fun _ => rfl⟩

instance (flags : DebugFlags) : Brief (changeContext ({ · with flags })) :=
  ⟨fun _ => nofun, fun _ => .of_scripts rfl, fun _ => rfl⟩

instance (flags : DebugFlags) :
    Brief (changeOwnScript fun s => { s with config := { s.config with debug := flags } }) :=
  ⟨fun _ => nofun, fun m => .of_modify m.context.script (fun _ _ => id) fun _ => rfl, fun _ => rfl⟩

instance (op : HeapM α) : Brief (onHeap op) := by
  have same (m : Machine) :
      ∃ r h, onHeap op m = (Except.mapError .fault r, { m with heap := h }) := by
    rw [onHeap_run]
    rcases op m.heap with ⟨f | a, h⟩
    · exact ⟨.error f, h, rfl⟩
    · exact ⟨.ok a, h, rfl⟩
  refine ⟨fun m => ?_, fun m => ?_, fun m => ?_⟩ <;>
  obtain ⟨r, h, run⟩ := same m <;>
  rw [run]
  · cases r <;> nofun
  · exact .of_scripts rfl

instance (op : HeapM α) : Brief (liftM op : Run α) := inferInstanceAs (Brief (onHeap op))

theorem Brief.of_reports {x : Run Unit} (h : Reports x) : Brief x := by
  refine ⟨fun m => ?_, fun m => ?_, fun m => ?_⟩ <;>
  obtain ⟨logs, run⟩ := h.run m <;>
  rw [run]
  · nofun
  · exact .of_scripts rfl

instance (message : String) : Brief (traceTaint message) := .of_reports (reports_traceTaint message)

instance (c : Prop) [Decidable c] (x y : Run α) [Brief x] [Brief y] :
    Brief (if c then x else y) := by
  split <;> infer_instance

instance : Brief script := inferInstanceAs (Brief (ask _))

instance (args : List CellRef) : Brief (Library.debug args) := by
  refine .andThen fun flags => ?_
  cases args.head? with
  | none => infer_instance
  | some cell => exact .andThen fun level => inferInstance

instance : Brief Library.profile := inferInstanceAs (Brief (_ >>= _))

instance (name : String) (args : List CellRef) : Brief (refuseTainted name args) := by
  refine .andThen fun found => ?_
  split <;> infer_instance

instance (name : String) (cell : CellRef) : Brief (taintResult name cell) :=
  inferInstanceAs (Brief (_ >>= _))

instance (cell : CellRef) : Brief (cleanResult cell) := inferInstanceAs (Brief (_ >>= _))

end Run

namespace Eval

open Run (Counted counted)

variable {names : List String} {m : Machine} {name : String}

theorem brief_evaluate (s : Reentry) (name : String) (args : List CellRef) {f : Function}
    (h : f.isDiagnostic) :
    Run.Brief (evaluate s name args f) := by
  induction f with
  | library f =>
    cases f with
    | debug | profile =>
      unfold evaluate Library.call
      infer_instance
    | _ => cases h
  | probe | bound => cases h
  | guarded policy inner ih =>
    have := ih h
    cases policy <;> unfold evaluate <;> infer_instance

/-- A call of a function that shows or sets diagnostics has been counted when it is over. -/
theorem counted_diagnose {f : Function} (s s' : Reentry) (args : List CellRef) (h : f.isDiagnostic)
    (found : m.own.environment.functions.get? name = some f) :
    Counted names (dispatch name args (evaluate s name args f))
      (dispatch name args (evaluate s' name args f)) m := by
  by_cases deep : m.context.maxDepth ≤ m.activeCalls
  · exact counted_tooDeep args deep
  · have := brief_evaluate s name args h
    obtain ⟨r, m₁, attempted, keeps, script⟩ := Run.Brief.attempt (evaluate s name args f)
      { m with activeCalls := m.activeCalls + 1 }
    obtain ⟨described, called⟩ := dispatch_run name args m
    obtain ⟨logs, concluded⟩ := conclude_run name m.context described r m₁
    have run : dispatch name args (evaluate s name args f) m =
        (r.mapError .fault, { m₁.concluded name m.context r with logs }) := by
      rw [called, if_neg deep, Run.bind_run, attempted]
      exact concluded
    have active : m.KeepsCounts { m with activeCalls := m.activeCalls + 1 } := .of_scripts rfl
    have before := active.trans keeps
    refine ⟨by rw [run]; exact before.trans Machine.keepsCounts_concluded,
      fun o counting knows => .inl ?_⟩
    have own : m.context.script.index < m.scripts.size := by
      by_contra missing
      have unknown : m.own = default := Machine.getD_missing missing
      rw [unknown] at found
      cases found
    have named : name ∈ names := by
      by_contra unnamed
      have innocent := knows m.context.script name unnamed
      unfold Machine.every at innocent
      change (m.own.environment.functions.get? name).all _ at innocent
      simp [found, h] at innocent
    have bound : m₁.context.script.index < m₁.scripts.size := by rwa [script, before.scripts]
    rw [run]
    exact ⟨name, named, Machine.counts_concluded (counting.context own) bound⟩

instance : (counted names).IsCarried where
  dispatch _ args h := ⟨fun _ => counted_dispatch args h⟩
  detached s h := ⟨fun _ => counted_detached s h⟩
  verdict predicate _ negated args := ⟨fun _ => counted_verdictOf predicate negated args⟩
  diagnose s s' args h found := counted_diagnose s s' args h found

/-- Without a hook evaluators are counted, also where host code calls back. -/
instance : Hook.none.Related (counted names) Hook.none where
  block _ _ := id
  step _ _ := id
  call := id
  invoke := id
  callBack h := by
    refine .andThen fun result => ?_
    split <;> infer_instance

end Eval

end CellScript
