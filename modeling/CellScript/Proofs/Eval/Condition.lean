import CellScript.Proofs.Diagnostics.Log
import CellScript.Proofs.Program.Course
import CellScript.Proofs.Taint.Copy

/-!
# Conditions as they are written

The check of a condition, which asks for predicates that may be in the opposite form, does what the
condition says: its predicates are asked from left to right until its value is settled, and the
first failure ends it.

## Main definitions

* `Eval.ask` — the verdict of a predicate, asked in the opposite form or not.
* `Eval.Follows` — computations that follow a course.

## Main statements

* `Eval.constant_run` — a negated constant is asked for without fail, and it is false.
* `Eval.follows_normal` — the check of a condition follows its course.
* `Eval.lowered_follows` — lowering keeps the meaning of conditions.
-/

namespace CellScript.Eval

open Run (Related unlogged SameButLogs)

variable {self : Reentry} {line : UInt32}

/-! ## Asking -/

/-- The verdict of a predicate. Whether it is asked in the opposite form shows in its trace
alone. -/
def ask (self : Reentry) (line : UInt32) (opposite : Bool) (q : Question) : Run Bool :=
  (· != opposite) <$> checkPredicate self (.mk none (lowerAll line q.operands)) q.name opposite

/-- What is asked for in place of a negated constant. -/
def constant (self : Reentry) (line : UInt32) (opposite : Bool) : Run Bool :=
  checkPredicate self (constantBlock line) "-istrue" opposite

/-- A computation that asks what a course says, one question after the other, goes on by the
verdict, stops at the first failure, and returns the value. Where the course meets a constant, the
literal is asked for that stands for it. Nothing else is done. -/
inductive Follows (self : Reentry) (line : UInt32) : Course → Run Bool → Prop where
  | done (value : Bool) : Follows self line (.done value) (pure value)
  | ask (opposite : Bool) (q : Question) {onTrue onFalse : Course} {x y : Run Bool}
    (hx : Follows self line onTrue x) (hy : Follows self line onFalse y) :
    Follows self line (.ask q onTrue onFalse) (do if ← ask self line opposite q then x else y)
  | constant (opposite : Bool) {c : Course} {x : Run Bool} (hx : Follows self line c x) :
    Follows self line (.constant c) (do let _ ← constant self line opposite; x)

namespace Follows

variable {c : Course} {f : Bool → Course} {x : Run Bool} {k : Bool → Run Bool}

theorem bind (h : Follows self line c x) (next : ∀ value, Follows self line (f value) (k value)) :
    Follows self line (c.bind f) (x >>= k) := by
  induction h with
  | done value =>
    rw [pure_bind]
    exact next value
  | ask opposite q _ _ ihTrue ihFalse =>
    rw [bind_assoc, Course.bind]
    convert Follows.ask opposite q ihTrue ihFalse using 2
    funext verdict
    cases verdict <;> rfl
  | constant opposite _ ih =>
    rw [bind_assoc]
    exact .constant opposite ih

/-- A single question, in the form in which it is asked. -/
theorem single (opposite : Bool) (q : Question) :
    Follows self line ((Course.ask q (.done true) (.done false)).oppose opposite)
      (checkPredicate self (.mk none (lowerAll line q.operands)) q.name opposite) := by
  have asked : checkPredicate self (.mk none (lowerAll line q.operands)) q.name opposite = (do
      if ← Eval.ask self line opposite q then pure (true != opposite)
        else pure (false != opposite)) := by
    rw [Eval.ask, bind_map_left]
    conv_lhs => rw [← bind_pure (checkPredicate _ _ _ _)]
    congr
    funext verdict
    cases verdict <;> cases opposite <;> rfl
  rw [asked]
  exact .ask opposite q (.done _) (.done _)

/-- Several checks follow their courses until one of them is false. -/
theorem all {courses : List Course} {checks : List Check}
    (h : List.Forall₂ (fun course k => Follows self line course (check self k)) courses checks) :
    Follows self line (.upTo false courses) (checkAll self checks) := by
  induction h with
  | nil =>
    rw [checkAll]
    exact .done true
  | cons first _ ih =>
    rw [checkAll]
    refine first.bind fun value => ?_
    cases value with
    | true => exact ih
    | false => exact .done false

/-- Several checks follow their courses until one of them is true. -/
theorem any {courses : List Course} {checks : List Check}
    (h : List.Forall₂ (fun course k => Follows self line course (check self k)) courses checks) :
    Follows self line (.upTo true courses) (checkAny self checks) := by
  induction h with
  | nil =>
    rw [checkAny]
    exact .done false
  | cons first _ ih =>
    rw [checkAny]
    refine first.bind fun value => ?_
    cases value with
    | true => exact .done true
    | false => exact ih

end Follows

/-! ## Constants -/

/-- A literal is the one operand of its block, and it is truthy. -/
theorem intoFrame_constant (n : Nat) (line : UInt32) (m : Machine) :
    ∃ cell m', intoFrame (reentry (n + 1)) (constantBlock line) m = (.ok [cell], m') ∧
      m'.heap.isTruthy cell = true := by
  have operands (cell : CellRef) :
      (({ (m.context.createFrame.push cell) with line } : Context).truncateFrames
      m.context.createFrame.frameDepth).killFrame.1 = [cell] := by
    simp [Context.truncateFrames, truncateStack, Context.createFrame, Context.push,
      Context.modifyFrame, Context.killFrame, Context.frameDepth]
  have fresh :
      (m.heap.alloc (.clean (.int 1))).2.get (m.heap.alloc (.clean (.int 1))).1 = .clean (.int 1) :=
    (Heap.get_alloc _ _ _).trans (if_pos rfl)
  refine ⟨(m.heap.alloc (.clean (.int 1))).1, { m with
    heap := (m.heap.alloc (.clean (.int 1))).2
    context := (({ (m.context.createFrame.push (m.heap.alloc (.clean (.int 1))).1) with line } :
      Context).truncateFrames m.context.createFrame.frameDepth).killFrame.2 }, ?_, ?_⟩
  · rw [← operands (m.heap.alloc (.clean (.int 1))).1]
    rfl
  · rw [Heap.isTruthy, Heap.content, fresh]
    rfl

/-- The literal that stands for a negated constant is asked for without fail, and it is true. -/
theorem constant_run (n : Nat) (line : UInt32) (opposite : Bool) (m : Machine) :
    ∃ m', constant (reentry (n + 1)) line opposite m = (.ok (!opposite), m') := by
  obtain ⟨cell, m₁, operands, truthy⟩ := intoFrame_constant n line m
  have asked : constant (reentry (n + 1)) line opposite m =
      verdictOf (.test .truthy) "-istrue" opposite [cell] m₁ := by
    have named : Predicate.ofName? "-istrue" = some (.test .truthy) := by decide
    unfold constant checkPredicate
    rw [Run.bind_run, operands]
    simp only [named]
    rfl
  have decided : (Predicate.test .truthy).decide "-istrue" [cell] m₁ = (.ok true, m₁) :=
    congrArg (fun holds => (Except.ok holds, m₁)) truthy
  obtain ⟨described, verdict⟩ := verdictOf_run (.test .truthy) "-istrue" opposite [cell] m₁
  obtain ⟨logs, told⟩ := told_run opposite described true m₁
  rw [asked, verdict, Run.bind_run, decided]
  dsimp only
  rw [told, Bool.true_bne]
  exact ⟨_, rfl⟩

/-- A constant is asked for, and its value is known beforehand. -/
theorem constant_eq (n : Nat) (line : UInt32) (opposite : Bool) :
    constant (reentry (n + 1)) line opposite = (do
      let _ ← constant (reentry (n + 1)) line opposite
      return !opposite) := by
  funext m
  obtain ⟨m', run⟩ := constant_run n line opposite m
  rw [Run.bind_run, run]
  rfl

/-! ## Conditions -/

/-- The constants of a condition are known. -/
def KnowsConstants (self : Reentry) (line : UInt32) : Prop :=
  ∀ opposite, constant self line opposite = (do
    let _ ← constant self line opposite
    return !opposite)

mutual

/-- The check of a condition below negations follows the course of the condition or of its
opposite. -/
theorem follows_normal (known : KnowsConstants self line) (below : Option Bool) : ∀ c : Cond,
    Follows self line ((c.course below.isSome).oppose (below.getD false))
      (check self (c.normal line below))
  | .pred name args => .single (below.getD false) ⟨name, args⟩
  | .truthy e => by
    have operands : lowerAll line [e] = e.lower line := by rw [lowerAll, lowerAll, List.append_nil]
    rw [Cond.normal, ← operands]
    exact .single (below.getD false) (.truthy e)
  | .always => by
    cases below with
    | none =>
      rw [Cond.normal, check]
      exact .done true
    | some opposite =>
      have course : (Cond.always.course true).oppose opposite = .constant (.done !opposite) := by
        cases opposite <;> rfl
      change Follows self line ((Cond.always.course true).oppose opposite)
        (constant self line opposite)
      rw [course, known opposite]
      exact .constant opposite (.done _)
  | .not c => by
    have opposes : (true != below.getD false) = (flipped below).getD false := Bool.true_bne _
    rw [Cond.course, Cond.normal, Course.oppose_oppose, opposes]
    exact follows_normal known (flipped below) c
  | .and parts => by
    have each := follows_normals known below parts
    rw [Cond.normal, Cond.course]
    cases opposite : below.getD false with
    | true =>
      rw [opposite] at each
      rw [if_pos rfl, check, Course.upTo_oppose]
      exact .any each
    | false =>
      rw [opposite] at each
      rw [if_neg Bool.false_ne_true, check, Course.oppose_false]
      simpa using Follows.all each
  | .or parts => by
    have each := follows_normals known below parts
    rw [Cond.normal, Cond.course]
    cases opposite : below.getD false with
    | true =>
      rw [opposite] at each
      rw [if_pos rfl, check, Course.upTo_oppose]
      exact .all each
    | false =>
      rw [opposite] at each
      rw [if_neg Bool.false_ne_true, check, Course.oppose_false]
      simpa using Follows.any each

theorem follows_normals (known : KnowsConstants self line) (below : Option Bool) :
    ∀ parts : List Cond, List.Forall₂ (fun course k => Follows self line course (check self k))
      ((coursesOf below.isSome parts).map (·.oppose (below.getD false)))
      (normalsOf line below parts)
  | [] => .nil
  | c :: rest => .cons (follows_normal known below c) (follows_normals known below rest)

end

/-! ## Opposites -/

section Opposites

variable {α : Type} {x y : Run Bool} {f g : Bool → Run Bool}

/-- Going on from a computation and from its opposite. -/
theorem related_bind_opposite (h : Related unlogged x ((!·) <$> y))
    (next : ∀ value, Related unlogged (f value) ((!·) <$> g (!value))) :
    Related unlogged (x >>= f) ((!·) <$> (y >>= g)) := by
  have turn : (!·) <$> (y >>= g) = ((!·) <$> y) >>= fun value => (!·) <$> g (!value) := by
    rw [map_bind, bind_map_left]
    simp only [Bool.not_not]
  rw [turn]
  exact .seq h next

/-- A predicate and its opposite differ in their traces alone. -/
theorem related_checkPredicate_opposite [Reentry.Whole unlogged self self] (setup : Block)
    (name : String) (opposite : Bool) :
    Related unlogged (checkPredicate self setup name opposite)
      ((!·) <$> checkPredicate self setup name !opposite) := by
  unfold checkPredicate
  rw [map_bind]
  refine .andThen fun args => ?_
  cases Predicate.ofName? name with
  | none =>
    have fails : (!·) <$> (Run.fail (.runtime (.unknownPredicate name)) : Run Bool) =
      Run.fail (.runtime (.unknownPredicate name)) := rfl
    rw [fails]
    infer_instance
  | some predicate =>
    have opposes : (· != (opposite != !opposite)) = ((!·) : Bool → Bool) := by
      funext value
      cases opposite <;> cases value <;> rfl
    have verdict := related_verdict_opposite name predicate opposite (!opposite) args
    rw [opposes] at verdict
    exact verdict

section Several

variable {checks checks' : List Check} (h : List.Forall₂ (fun k k' =>
  Related unlogged (check self k) ((!·) <$> check self k')) checks checks')

include h

theorem related_checkAll_opposite :
    Related unlogged (checkAll self checks) ((!·) <$> checkAny self checks') := by
  induction h with
  | nil =>
    rw [checkAll, checkAny, map_pure]
    exact inferInstanceAs (Related unlogged (pure true) (pure true))
  | cons first _ ih =>
    rw [checkAll, checkAny]
    refine related_bind_opposite first fun value => ?_
    cases value with
    | true => exact ih
    | false => exact inferInstanceAs (Related unlogged (pure false) (pure false))

theorem related_checkAny_opposite :
    Related unlogged (checkAny self checks) ((!·) <$> checkAll self checks') := by
  induction h with
  | nil =>
    rw [checkAll, checkAny, map_pure]
    exact inferInstanceAs (Related unlogged (pure false) (pure false))
  | cons first _ ih =>
    rw [checkAll, checkAny]
    refine related_bind_opposite first fun value => ?_
    cases value with
    | true => exact inferInstanceAs (Related unlogged (pure true) (pure true))
    | false => exact ih

end Several

mutual

/-- Without constants a condition and its opposite differ in their traces alone. -/
theorem related_normal_opposite [Reentry.Whole unlogged self self] (below : Option Bool) :
    ∀ c : Cond, c.isConstantFree →
    Related unlogged (check self (c.normal line below))
      ((!·) <$> check self (c.normal line (flipped below)))
  | .pred name args, _ => related_checkPredicate_opposite _ name (below.getD false)
  | .truthy e, _ => related_checkPredicate_opposite _ "-istrue" (below.getD false)
  | .always, h => by cases h
  | .not c, h => related_normal_opposite (flipped below) c h
  | .and parts, h => by
    have each := related_normals_opposite below parts h
    cases opposite : below.getD false <;>
      simp only [Cond.normal, flipped, opposite, Option.getD_some, Bool.not_true, Bool.not_false,
        if_true, Bool.false_eq_true, if_false, check]
    · exact related_checkAll_opposite (by simpa [flipped, opposite] using each)
    · exact related_checkAny_opposite (by simpa [flipped, opposite] using each)
  | .or parts, h => by
    have each := related_normals_opposite below parts h
    cases opposite : below.getD false <;>
      simp only [Cond.normal, flipped, opposite, Option.getD_some, Bool.not_true, Bool.not_false,
        if_true, Bool.false_eq_true, if_false, check]
    · exact related_checkAny_opposite (by simpa [flipped, opposite] using each)
    · exact related_checkAll_opposite (by simpa [flipped, opposite] using each)

theorem related_normals_opposite [Reentry.Whole unlogged self self] (below : Option Bool) :
    ∀ parts : List Cond, areConstantFree parts →
    List.Forall₂ (fun k k' => Related unlogged (check self k) ((!·) <$> check self k'))
      (normalsOf line below parts) (normalsOf line (flipped below) parts)
  | [], _ => .nil
  | c :: rest, h => by
    obtain ⟨first, others⟩ : c.isConstantFree ∧ areConstantFree rest := by
      simpa only [areConstantFree, Bool.and_eq_true] using h
    exact .cons (related_normal_opposite below c first) (related_normals_opposite below rest others)

end

/-- A condition and its opposite come to opposite values and do the same, but for what they write to
logs. -/
theorem lower_not_run [Reentry.Whole unlogged self self] {c : Cond} (free : c.isConstantFree)
    (m : Machine) :
    ∃ logs, check self ((Cond.not c).lower line) m =
      ((check self (c.lower line) m).1.map (!·),
        { (check self (c.lower line) m).2 with logs }) := by
  have related :
      Related unlogged (check self (c.lower line))
        ((!·) <$> check self ((Cond.not c).lower line)) := by
    rw [Cond.lower_eq_normal, Cond.lower_eq_normal]
    exact related_normal_opposite none c free
  obtain ⟨logs, run⟩ := related.holds m m.logs
  rw [Run.map_run] at run
  have twice (r : Except Stop Bool) : (r.map (!·)).map (!·) = r := by
    rcases r with _ | _ | _ <;> rfl
  have ended :
      (check self ((Cond.not c).lower line) m).2 = { (check self (c.lower line) m).2 with logs } :=
    congrArg Prod.snd run
  refine ⟨logs, Prod.ext ?_ ended⟩
  rw [← twice (check self ((Cond.not c).lower line) m).1]
  exact congrArg (fun e : Except Stop Bool × Machine => e.1.map (!·)) run

end Opposites

/-- Lowering keeps the meaning of conditions. The check of a condition asks for its predicates as
the condition does when it is evaluated from left to right and no further than its value is open:
each in its turn and at most once, until the value is settled or one of them fails, and then it
returns the value of the condition or fails in that way. Nothing else is asked for but the literals
that stand for constants below negations, which never fail. The check of the opposite asks for the
same predicates, and comes to the opposite value by the same verdicts. Where there are no constants
the two do the same to the machine, whatever it is and whatever the operands do to it, except that
traces of predicates show the form in which they are asked. -/
theorem lowered_follows (n : Nat) (line : UInt32) (c : Cond) :
    let self := reentry (n + 1)
    Follows self line (c.course false) (check self (c.lower line)) ∧
      Follows self line ((Cond.not c).course false) (check self ((Cond.not c).lower line)) ∧
      (∀ opposite m, ∃ m', constant self line opposite m = (.ok (!opposite), m')) ∧
      (∀ verdicts value, (c.course false).Leads verdicts value →
        (verdicts.map (·.1)).Sublist c.questions ∧
        ∀ verdict, (∀ answer ∈ verdicts, verdict answer.1 = answer.2) → c.value verdict = value) ∧
      (∀ verdicts value, ((Cond.not c).course false).Leads verdicts value ↔
        (c.course false).Leads verdicts !value) ∧
      (c.isConstantFree → ∀ m, ∃ logs, check self ((Cond.not c).lower line) m =
        ((check self (c.lower line) m).1.map (!·),
          { (check self (c.lower line) m).2 with logs })) := by
  intro self
  have follows (c : Cond) : Follows self line (c.course false) (check self (c.lower line)) := by
    rw [Cond.lower_eq_normal]
    simpa using follows_normal (constant_eq n line) none c
  exact ⟨follows c, follows (.not c), constant_run n line,
    fun verdicts value leads => ⟨leads.asks, fun verdict given => leads.value_eq verdict given⟩,
    fun verdicts value => Course.leads_not_iff, fun free => lower_not_run free⟩

/-- A condition of three predicates, of which the second settles it; the third does not even
exist. -/
def settledEarly : Cond :=
  .and [.not (.pred "-isnull" [.literal (.int 1)]),
    .or [.truthy (.literal (.int 1)), .pred "unknown" [.literal (.int 1)]]]

/-- The verdicts that settle it. -/
def settlingVerdicts : List (Question × Bool) :=
  [(⟨"-isnull", [.literal (.int 1)]⟩, false), (.truthy (.literal (.int 1)), true)]

/-- Whether a computation has come to true. -/
def comesTrue (r : Except Stop Bool) : Bool :=
  match r with
  | .ok value => value
  | .error _ => false

theorem lowered_follows_settledEarly :
    (settledEarly.course false).Leads settlingVerdicts true ∧ settledEarly.isConstantFree ∧
      (settlingVerdicts.map (·.1)).Sublist settledEarly.questions ∧
      settledEarly.value (·.name == "-istrue") = true ∧
      comesTrue (check (reentry (2 + 1)) (settledEarly.lower 1) default).1 = true ∧
      ∃ logs, check (reentry (2 + 1)) ((Cond.not settledEarly).lower 1) default =
        ((check (reentry (2 + 1)) (settledEarly.lower 1) default).1.map (!·),
          { (check (reentry (2 + 1)) (settledEarly.lower 1) default).2 with logs }) := by
  have leads : (settledEarly.course false).Leads settlingVerdicts true :=
    .onFalse (.onTrue (.done true))
  have free : settledEarly.isConstantFree := by decide
  obtain ⟨-, -, -, meaning, -, opposite⟩ := lowered_follows 2 1 settledEarly
  obtain ⟨asks, value⟩ := meaning settlingVerdicts true leads
  refine ⟨leads, free, asks, value _ ?_, by decide +kernel, opposite free default⟩
  simp [settlingVerdicts, Question.truthy]

end CellScript.Eval
