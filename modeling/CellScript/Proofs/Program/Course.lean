import CellScript.Program.Build

/-!
# Courses of conditions

A condition is evaluated from left to right, and no further than its value is open. Its course says
what is asked one after the other, depending on the verdicts, and which value that comes to.
Lowering carries negations to the predicates by De Morgan's laws, and leaves no negated constant:
that becomes a question about a literal.

## Main definitions

* `Question` — a predicate of a condition.
* `Course`, `Cond.course` — what is asked one after the other.
* `Course.Leads` — verdicts on the way to a value.
* `Cond.questions`, `Cond.value` — all predicates of a condition in order, and its value by their
  verdicts.
* `Cond.normal` — the check of a condition or of its opposite, with negations at the predicates.

## Main statements

* `Course.Leads.asks` — a predicate is asked in its turn and at most once, and nothing else is
  asked.
* `Course.Leads.value_eq` — a course leads to the value of the condition.
* `Course.leads_not_iff` — the course of the opposite is the same but for the value and for
  constants.
* `Cond.lower_eq_normal` — lowering gives the normal form.
-/

namespace CellScript

/-- A predicate of a condition with the expressions of its operands. -/
structure Question where
  name : String
  operands : List Expr

/-- The question whether a value is truthy. -/
def Question.truthy (value : Expr) : Question :=
  ⟨"-istrue", [value]⟩

/-- What is asked one after the other, depending on the verdicts, and the value that it comes to. -/
inductive Course where
  | done (value : Bool)
  | ask (question : Question) (onTrue onFalse : Course)
  /-- meet a constant below a negation -/
  | constant (rest : Course)

namespace Course

/-- Go on in a way that depends on the value. -/
def bind : Course → (Bool → Course) → Course
  | .done value, f => f value
  | .ask q onTrue onFalse, f => .ask q (onTrue.bind f) (onFalse.bind f)
  | .constant rest, f => .constant (rest.bind f)

/-- The same questions, with the opposite value or with the same. -/
def oppose (c : Course) (opposite : Bool) : Course :=
  c.bind fun value => .done (value != opposite)

/-- The questions alone. -/
def plain : Course → Course
  | .done value => .done value
  | .ask q onTrue onFalse => .ask q onTrue.plain onFalse.plain
  | .constant rest => rest.plain

/-- Several courses up to the first that comes to a value, which settles it. -/
def upTo (settles : Bool) : List Course → Course
  | [] => .done !settles
  | c :: rest => c.bind fun value => if value = settles then .done settles else upTo settles rest

/-- Verdicts in the order in which they are given, on the way to a value. -/
inductive Leads : Course → List (Question × Bool) → Bool → Prop where
  | done (value : Bool) : Leads (.done value) [] value
  | onTrue {q : Question} {c d : Course} {verdicts : List (Question × Bool)} {value : Bool}
    (rest : Leads c verdicts value) :
    Leads (.ask q c d) ((q, true) :: verdicts) value
  | onFalse {q : Question} {c d : Course} {verdicts : List (Question × Bool)} {value : Bool}
    (rest : Leads d verdicts value) :
    Leads (.ask q c d) ((q, false) :: verdicts) value
  | constant {c : Course} {verdicts : List (Question × Bool)} {value : Bool}
    (rest : Leads c verdicts value) :
    Leads (.constant c) verdicts value

variable {c : Course} {f g : Bool → Course} {verdicts : List (Question × Bool)}
  {value opposite : Bool}

theorem bind_bind (c : Course) (f g : Bool → Course) :
    (c.bind f).bind g = c.bind fun value => (f value).bind g := by
  induction c with
  | done value => rfl
  | ask q onTrue onFalse ihTrue ihFalse => rw [bind, bind, bind, ihTrue, ihFalse]
  | constant rest ih => rw [bind, bind, bind, ih]

theorem bind_done (c : Course) : c.bind .done = c := by
  induction c with
  | done value => rfl
  | ask q onTrue onFalse ihTrue ihFalse => rw [bind, ihTrue, ihFalse]
  | constant rest ih => rw [bind, ih]

@[simp] theorem oppose_false (c : Course) : c.oppose false = c := by
  simp only [oppose, Bool.bne_false]
  exact c.bind_done

@[simp] theorem oppose_done (value opposite : Bool) :
    (done value).oppose opposite = .done (value != opposite) := rfl

theorem oppose_oppose (c : Course) (b b' : Bool) : (c.oppose b).oppose b' = c.oppose (b != b') := by
  simp only [oppose, bind_bind, bind, Bool.bne_assoc]

theorem oppose_bind (c : Course) (f : Bool → Course) (b : Bool) :
    (c.oppose b).bind f = c.bind fun value => f (value != b) := by
  simp only [oppose, bind_bind, bind]

theorem bind_oppose (c : Course) (f : Bool → Course) (b : Bool) :
    (c.bind f).oppose b = c.bind fun value => (f value).oppose b :=
  c.bind_bind f _

/-- De Morgan's law: not all hold when the opposite of one holds, and none when the opposites of all
hold. -/
theorem upTo_oppose (settles : Bool) (courses : List Course) :
    (upTo settles courses).oppose true = upTo (!settles) (courses.map (·.oppose true)) := by
  induction courses with
  | nil => rw [upTo, oppose_done, List.map_nil, upTo, Bool.bne_true]
  | cons c rest ih =>
    rw [upTo, bind_oppose, List.map_cons, upTo, oppose_bind]
    congr 1
    funext value
    cases value <;> cases settles <;> first | rfl | exact ih

/-- A course that goes on leads first to a value and then on from there. -/
theorem Leads.of_bind (h : (c.bind f).Leads verdicts value) :
    ∃ first between rest, verdicts = first ++ rest ∧ c.Leads first between ∧
      (f between).Leads rest value := by
  induction c generalizing verdicts with
  | done between => exact ⟨[], between, verdicts, rfl, .done between, h⟩
  | ask q onTrue onFalse ihTrue ihFalse =>
    cases h with
    | onTrue later =>
      obtain ⟨first, between, rest, rfl, reaches, goes⟩ := ihTrue later
      exact ⟨_ :: first, between, rest, rfl, .onTrue reaches, goes⟩
    | onFalse later =>
      obtain ⟨first, between, rest, rfl, reaches, goes⟩ := ihFalse later
      exact ⟨_ :: first, between, rest, rfl, .onFalse reaches, goes⟩
  | constant rest ih =>
    cases h with
    | constant later =>
      obtain ⟨first, between, rest, rfl, reaches, goes⟩ := ih later
      exact ⟨first, between, rest, rfl, .constant reaches, goes⟩

theorem Leads.oppose (h : c.Leads verdicts value) (opposite : Bool) :
    (c.oppose opposite).Leads verdicts (value != opposite) := by
  induction h with
  | done value => exact .done _
  | onTrue _ ih => exact .onTrue ih
  | onFalse _ ih => exact .onFalse ih
  | constant _ ih => exact .constant ih

/-- The opposite is decided by the same verdicts in the same order. -/
theorem leads_oppose_iff :
    (c.oppose opposite).Leads verdicts value ↔ c.Leads verdicts (value != opposite) := by
  constructor
  · intro h
    have back := h.oppose opposite
    rwa [oppose_oppose, bne_self_eq_false, oppose_false] at back
  · intro h
    have there := h.oppose opposite
    rwa [Bool.bne_assoc, bne_self_eq_false, Bool.bne_false] at there

theorem plain_bind (c : Course) (f : Bool → Course) :
    (c.bind f).plain = c.plain.bind fun value => (f value).plain := by
  induction c with
  | done value => rfl
  | ask q onTrue onFalse ihTrue ihFalse => rw [bind, plain, plain, bind, ihTrue, ihFalse]
  | constant rest ih => rw [bind, plain, plain, ih]

/-- Constants make no difference to where a course leads. -/
theorem leads_plain_iff : c.plain.Leads verdicts value ↔ c.Leads verdicts value := by
  constructor
  · intro h
    induction c generalizing verdicts with
    | done value => exact h
    | ask q onTrue onFalse ihTrue ihFalse =>
      cases h with
      | onTrue rest => exact .onTrue (ihTrue rest)
      | onFalse rest => exact .onFalse (ihFalse rest)
    | constant rest ih => exact .constant (ih h)
  · intro h
    induction h with
    | done value => exact .done value
    | onTrue _ ih => exact .onTrue ih
    | onFalse _ ih => exact .onFalse ih
    | constant _ ih => exact ih

end Course

/-! ## Conditions -/

mutual

/-- Evaluation from left to right that stops as soon as the value is settled, of a condition that
may stand below a negation. -/
def Cond.course (negated : Bool) : Cond → Course
  | .pred name args => .ask ⟨name, args⟩ (.done true) (.done false)
  | .truthy value => .ask (.truthy value) (.done true) (.done false)
  | .always => if negated then .constant (.done true) else .done true
  | .not c => (c.course true).oppose true
  | .and parts => .upTo false (coursesOf negated parts)
  | .or parts => .upTo true (coursesOf negated parts)

def coursesOf (negated : Bool) : List Cond → List Course
  | [] => []
  | c :: rest => c.course negated :: coursesOf negated rest

end

mutual

/-- The predicates of a condition, from left to right. -/
def Cond.questions : Cond → List Question
  | .pred name args => [⟨name, args⟩]
  | .truthy value => [.truthy value]
  | .always => []
  | .not c => c.questions
  | .and parts => questionsOf parts
  | .or parts => questionsOf parts

def questionsOf : List Cond → List Question
  | [] => []
  | c :: rest => c.questions ++ questionsOf rest

end

mutual

/-- The value of a condition by the verdicts of its predicates. -/
def Cond.value (verdict : Question → Bool) : Cond → Bool
  | .pred name args => verdict ⟨name, args⟩
  | .truthy value => verdict (.truthy value)
  | .always => true
  | .not c => !c.value verdict
  | .and parts => (valuesOf verdict parts).all id
  | .or parts => (valuesOf verdict parts).any id

def valuesOf (verdict : Question → Bool) : List Cond → List Bool
  | [] => []
  | c :: rest => c.value verdict :: valuesOf verdict rest

end

mutual

/-- Whether no constant stands in a condition. -/
def Cond.isConstantFree : Cond → Bool
  | .pred _ _ | .truthy _ => true
  | .always => false
  | .not c => c.isConstantFree
  | .and parts | .or parts => areConstantFree parts

def areConstantFree : List Cond → Bool
  | [] => true
  | c :: rest => c.isConstantFree && areConstantFree rest

end

namespace Course.Leads

variable {verdicts : List (Question × Bool)} {value : Bool} {verdict : Question → Bool}

/-- Some of the questions of a condition and of those after it. -/
theorem asks_append {f : Bool → Course} {c : Course} {qs rest : List Question}
    (first : ∀ {verdicts value}, c.Leads verdicts value → (verdicts.map (·.1)).Sublist qs)
    (next : ∀ {between verdicts value}, (f between).Leads verdicts value →
      (verdicts.map (·.1)).Sublist rest)
    (h : (c.bind f).Leads verdicts value) : (verdicts.map (·.1)).Sublist (qs ++ rest) := by
  obtain ⟨before, between, after, rfl, reaches, goes⟩ := h.of_bind
  rw [List.map_append]
  exact (first reaches).append (next goes)

mutual

/-- Predicates are asked in their order and each at most once, and nothing else is asked. -/
theorem asks {negated : Bool} {verdicts : List (Question × Bool)} {value : Bool} :
    ∀ {c : Cond}, (c.course negated).Leads verdicts value → (verdicts.map (·.1)).Sublist c.questions
  | .pred name args, h => by
    cases h with
    | onTrue rest | onFalse rest =>
      cases rest
      exact .refl _
  | .truthy e, h => by
    cases h with
    | onTrue rest | onFalse rest =>
      cases rest
      exact .refl _
  | .always, h => by
    rw [← Course.leads_plain_iff] at h
    cases negated <;>
    · cases h
      exact .refl _
  | .not c, h => by
    rw [Cond.course, Course.leads_oppose_iff] at h
    rw [Cond.questions]
    exact asks h
  | .and parts, h | .or parts, h => by
    rw [Cond.course] at h
    rw [Cond.questions]
    exact asksUpTo h

theorem asksUpTo {settles negated : Bool} {verdicts : List (Question × Bool)} {value : Bool} :
    ∀ {parts : List Cond}, (Course.upTo settles (coursesOf negated parts)).Leads verdicts value →
      (verdicts.map (·.1)).Sublist (questionsOf parts)
  | [], h => by
    cases h
    exact .refl _
  | c :: rest, h => by
    rw [coursesOf, Course.upTo] at h
    rw [questionsOf]
    refine asks_append asks (fun {between _ _} goes => ?_) h
    split at goes
    · cases goes
      exact List.nil_sublist _
    · exact asksUpTo goes

end

end Course.Leads

/-- The value of a course by the verdicts of its questions. -/
def Course.value (verdict : Question → Bool) : Course → Bool
  | .done value => value
  | .ask q onTrue onFalse => if verdict q then onTrue.value verdict else onFalse.value verdict
  | .constant rest => rest.value verdict

section Values

variable (verdict : Question → Bool)

@[simp] theorem Course.value_bind (c : Course) (f : Bool → Course) :
    (c.bind f).value verdict = (f (c.value verdict)).value verdict := by
  induction c with
  | done value => rfl
  | ask q onTrue onFalse ihTrue ihFalse =>
    rw [Course.bind, Course.value, Course.value, ihTrue, ihFalse]
    split <;> rfl
  | constant rest ih => rw [Course.bind, Course.value, Course.value, ih]

theorem Course.value_upTo (settles : Bool) (courses : List Course) :
    (upTo settles courses).value verdict =
    ((courses.map (·.value verdict)).any (· == settles) == settles) := by
  induction courses with
  | nil => cases settles <;> rfl
  | cons c rest ih =>
    rw [upTo, value_bind, List.map_cons, List.any_cons]
    by_cases settled : c.value verdict = settles
    · simp [settled, value]
    · rw [if_neg settled, beq_false_of_ne settled, Bool.false_or, ih]

mutual

/-- The course of a condition comes to the value of the condition. -/
theorem Cond.value_course (negated : Bool) :
    ∀ c : Cond, (c.course negated).value verdict = c.value verdict
  | .pred name args => by simp [Cond.course, Cond.value, Course.value]
  | .truthy e => by simp [Cond.course, Cond.value, Course.value]
  | .always => by cases negated <;> rfl
  | .not c => by
    simp [Cond.course, Cond.value, Course.oppose, Course.value, Cond.value_course true c]
  | .and parts => by
    rw [Cond.course, Cond.value, Course.value_upTo, values_courses negated parts]
    induction valuesOf verdict parts <;> simp_all
  | .or parts => by
    rw [Cond.course, Cond.value, Course.value_upTo, values_courses negated parts]
    induction valuesOf verdict parts <;> simp_all

theorem values_courses (negated : Bool) :
    ∀ parts : List Cond, (coursesOf negated parts).map (·.value verdict) = valuesOf verdict parts
  | [] => rfl
  | c :: rest => by
    rw [coursesOf, valuesOf, List.map_cons, Cond.value_course negated c,
      values_courses negated rest]

end

/-- A course leads where the verdicts say. -/
theorem Course.Leads.course_value {c : Course} {verdicts : List (Question × Bool)} {value : Bool}
    (h : c.Leads verdicts value) (given : ∀ answer ∈ verdicts, verdict answer.1 = answer.2) :
    c.value verdict = value := by
  induction h with
  | done value => rfl
  | onTrue _ ih | onFalse _ ih =>
    obtain ⟨now, later⟩ := List.forall_mem_cons.mp given
    simp only [Course.value, now, if_true, Bool.false_eq_true, if_false]
    exact ih later
  | constant _ ih => exact ih given

/-- A condition has the value to which its course leads, whatever is said of the questions that are
not asked. -/
theorem Course.Leads.value_eq {c : Cond} {negated : Bool} {verdicts : List (Question × Bool)}
    {value : Bool} (h : (c.course negated).Leads verdicts value)
    (given : ∀ answer ∈ verdicts, verdict answer.1 = answer.2) :
    c.value verdict = value := by
  rw [← c.value_course verdict negated]
  exact h.course_value verdict given

end Values

section Negation

theorem Course.plain_upTo (settles : Bool) (courses : List Course) :
    (upTo settles courses).plain = upTo settles (courses.map plain) := by
  induction courses with
  | nil => rfl
  | cons c rest ih =>
    rw [upTo, plain_bind, List.map_cons, upTo]
    congr 1
    funext value
    split
    · rfl
    · exact ih

mutual

/-- Below a negation the same is asked in the same order, constants apart. -/
theorem Cond.plain_course (negated negated' : Bool) :
    ∀ c : Cond, (c.course negated).plain = (c.course negated').plain
  | .pred name args => rfl
  | .truthy e => rfl
  | .always => by cases negated <;> cases negated' <;> rfl
  | .not c => rfl
  | .and parts | .or parts => by
    rw [Cond.course, Cond.course, Course.plain_upTo, Course.plain_upTo,
      plain_courses negated negated' parts]

theorem plain_courses (negated negated' : Bool) :
    ∀ parts : List Cond, (coursesOf negated parts).map Course.plain =
      (coursesOf negated' parts).map Course.plain
  | [] => rfl
  | c :: rest => by
    rw [coursesOf, coursesOf, List.map_cons, List.map_cons, Cond.plain_course negated negated' c,
      plain_courses negated negated' rest]

end

/-- The opposite of a condition is decided by the same verdicts in the same order. -/
theorem Course.leads_not_iff {c : Cond} {negated : Bool} {verdicts : List (Question × Bool)}
    {value : Bool} :
    ((Cond.not c).course negated).Leads verdicts value ↔
    (c.course negated).Leads verdicts !value := by
  rw [Cond.course, leads_oppose_iff, Bool.bne_true, ← leads_plain_iff,
    ← leads_plain_iff (c := c.course negated), c.plain_course true negated]

end Negation

/-! ## Normal forms -/

/-- The block of the literal that stands for a negated constant. -/
def constantBlock (line : UInt32) : Block :=
  .mk none [.mk line (.literal (.int 1))]

/-- Below one more negation. What stands below none is as it is; what stands below some is in the
opposite form or not. -/
def flipped (below : Option Bool) : Option Bool :=
  some !(below.getD false)

mutual

/-- The check of a condition that stands below negations, with the negations at its predicates. -/
def Cond.normal (line : UInt32) (below : Option Bool) : Cond → Check
  | .pred name args => .predicate (.mk none (lowerAll line args)) name (below.getD false)
  | .truthy value => .predicate (.mk none (value.lower line)) "-istrue" (below.getD false)
  | .and parts =>
    if below.getD false then .or (normalsOf line below parts) else .and (normalsOf line below parts)
  | .or parts =>
    if below.getD false then .and (normalsOf line below parts) else .or (normalsOf line below parts)
  | .always =>
    match below with
    | none => .always
    | some opposite => .predicate (constantBlock line) "-istrue" opposite
  | .not c => c.normal line (flipped below)

def normalsOf (line : UInt32) (below : Option Bool) : List Cond → List Check
  | [] => []
  | c :: rest => c.normal line below :: normalsOf line below rest

end

section Normal

variable (line : UInt32)

mutual

theorem Cond.negate_normal (below : Option Bool) :
    ∀ c : Cond, (c.normal line below).negate line = c.normal line (flipped below)
  | .pred name args => rfl
  | .truthy e => rfl
  | .always => by cases below <;> rfl
  | .not c => by rw [Cond.normal, Cond.normal, Cond.negate_normal (flipped below) c]
  | .and parts => by
    rw [Cond.normal, Cond.normal]
    cases opposite : below.getD false <;> simp [Check.negate, negate_normals, flipped, opposite]
  | .or parts => by
    rw [Cond.normal, Cond.normal]
    cases opposite : below.getD false <;> simp [Check.negate, negate_normals, flipped, opposite]

theorem negate_normals (below : Option Bool) :
    ∀ parts : List Cond, negateChecks line (normalsOf line below parts) =
      normalsOf line (flipped below) parts
  | [] => rfl
  | c :: rest => by
    rw [normalsOf, normalsOf, negateChecks, Cond.negate_normal below c, negate_normals below rest]

end

mutual

/-- Lowering carries negations to the predicates. -/
theorem Cond.lower_eq_normal : ∀ c : Cond, c.lower line = c.normal line none
  | .pred name args => by rw [Cond.lower, Cond.normal, Option.getD_none]
  | .truthy e => by rw [Cond.lower, Cond.normal, Option.getD_none]
  | .always => by rw [Cond.lower, Cond.normal]
  | .not c => by rw [Cond.lower, Cond.normal, Cond.lower_eq_normal c, Cond.negate_normal]
  | .and parts => by
    rw [Cond.lower, Cond.normal, lowerConds_eq_normals parts]
    rfl
  | .or parts => by
    rw [Cond.lower, Cond.normal, lowerConds_eq_normals parts]
    rfl

theorem lowerConds_eq_normals :
    ∀ parts : List Cond, lowerConds line parts = normalsOf line none parts
  | [] => by rw [lowerConds, normalsOf]
  | c :: rest => by rw [lowerConds, normalsOf, Cond.lower_eq_normal c, lowerConds_eq_normals rest]

end

end Normal

end CellScript
