import CellScript.Proofs.Eval.Watch

/-!
# Suspended evaluation

An evaluation that is suspended is called again with the position that it was left at, until it ends
for good. Between two calls a consumer gets the value that was yielded, and the body gets a frame of
its own again.

## Main definitions

* `Consumer` — what is done with each value that is yielded.
* `Machine.Rests` — a machine that stands where another one stood.
* `Drives` — calling again and again until the end.

## Main statements

* `Drives.through` — driving what an evaluation is a part of.
-/

namespace CellScript

/-- What is done with each value that a body yields. It happens in the context around the body, so
that the context inside is nothing to it. -/
structure Consumer where
  consume : CellRef → Machine → Machine
  blind : ∀ value m c, consume value { m with context := c } = { consume value m with context := c }
  sound : ∀ value m, m.Sound → (consume value m).Sound
  grows : ∀ value (m : Machine), m.Extends (consume value m)

namespace Consumer

variable (k : Consumer)

/-- What happens between a suspension and the next call: the value is consumed, and the body goes on
in a new frame, at the line of the call. -/
def between (line : UInt32) (value : CellRef) (m : Machine) : Machine :=
  { k.consume value m with context := { m.context.killFrame.2.createFrame with line } }

theorem between_eq (line : UInt32) (value : CellRef) (m : Machine) (c : Context) :
    k.between line value { m with context := c } =
      { k.consume value m with context := { c.killFrame.2.createFrame with line } } := by
  rw [between, k.blind]

end Consumer

namespace Machine

/-- A machine stands where another one stood: in a frame at the same depth, in the same call and
source, with the same handlers and iterators. -/
structure Rests (m₀ m : Machine) : Prop extends m₀.Kept False m where
  iterators : m.context.iterators = m₀.context.iterators

variable {m₀ m m' : Machine}

namespace Rests

theorem refl (hm : m.Sound) : m.Rests m :=
  ⟨.refl hm, rfl⟩

theorem trans (h : m₀.Rests m) (h' : m.Rests m') : m₀.Rests m' :=
  ⟨h.toKept.trans h'.toKept, h'.iterators.trans h.iterators⟩

theorem of_at (h : m₀.At m₀.context.iterators 0 .flat m) : m₀.Rests m := by
  obtain ⟨own, length, eq⟩ := h.iterators
  obtain rfl := List.length_eq_zero_iff.mp length
  exact ⟨h.kept, eq⟩

theorem at_ (h : m₀.Rests m) : m.At m.context.iterators 0 .flat m :=
  .start h.sound (show m.context.iterators = [] ++ m.context.iterators from rfl) rfl

theorem marks (h : m₀.Rests m) : m.context.marks = m₀.context.marks := by
  simp only [Context.marks, h.level.frameDepth, Context.handlers_of_rigid h.rigid,
    Context.sources_of_rigid h.rigid, h.iterators]

/-- In a frame of its own a body is taken up again where it stood. -/
theorem between (h : m₀.Rests m) (deep : 1 < m₀.context.frameDepth) (k : Consumer) (line : UInt32)
    (value : CellRef) :
    m₀.Rests (k.between line value m) := by
  have inside : 1 < m.context.stack.length := by
    rw [Context.stack_length, h.level.frameDepth]
    exact deep
  have grows : m₀.Extends (k.between line value m) :=
    .around (h.grows.trans (k.grows value m)) rfl rfl
  refine ⟨⟨(k.sound value m h.sound).of_code rfl, grows, h.rigid, h.scope, nofun, ?_⟩, h.iterators⟩
  exact (congrArg List.tail (congrArg ([] :: ·) (Context.stack_killFrame _ inside))).trans h.level

end Rests

end Machine

namespace Eval

/-- Calling an evaluation again and again, from the outcome of a call to the outcome of the last
one. -/
inductive Drives (k : Consumer) (line : UInt32) (x : Option Cursor → Run Flow) :
    Except Stop Flow × Machine → Except Stop Flow × Machine → Prop
  | ended {p : Except Stop Flow × Machine}
    (final : ∀ value cursor, p.1 ≠ .ok (.yield value cursor)) : Drives k line x p p
  | resumed {value : CellRef} {cursor : Cursor} {m : Machine} {q : Except Stop Flow × Machine}
    (rest : Drives k line x (x (some cursor) (k.between line value m)) q) :
    Drives k line x (.ok (.yield value cursor), m) q

variable {k : Consumer} {line line' : UInt32} {x y : Option Cursor → Run Flow}
  {opens : Cursor → Prop} {e m m' : Machine} {p q : Except Stop Flow × Machine}

theorem Drives.failed {stop : Stop} : Drives k line x (.error stop, m) (.error stop, m) :=
  .ended fun _ _ eq => by cases eq

theorem Drives.normal : Drives k line x (.ok .normal, m) (.ok .normal, m) :=
  .ended fun _ _ eq => by cases eq

theorem Drives.thrown {value : CellRef} :
    Drives k line x (.ok (.throw value), m) (.ok (.throw value), m) :=
  .ended fun _ _ eq => by cases eq

/-- What an evaluation comes to that is called from where it can be: it stands where it began when
it goes on after it, and also where it can be called again. -/
def Suspends (opens : Cursor → Prop) (m : Machine) : Run.Post Flow
  | .ok (.yield _ cursor), m' => m.Rests m' ∧ opens cursor
  | .ok .normal, m' | .ok .break, m' | .ok .continue, m' => m.Rests m'
  | _, _ => True

theorem Suspends.after {m₀ : Machine} {r : Except Fault Flow} (h : m₀.Rests m)
    (h' : Suspends opens m r m') :
    Suspends opens m₀ r m' := by
  match r, h' with
  | .ok (.yield _ _), h' => exact ⟨h.trans h'.1, h'.2⟩
  | .ok .normal, h' | .ok .break, h' | .ok .continue, h' => exact h.trans h'
  | .ok (.return _), _ | .ok (.throw _), _ | .ok (.callcc _ _), _ | .error _, _ => trivial

/-- An evaluation that stands where it began whenever it is called. -/
structure Suspendable (x : Option Cursor → Run Flow) (opens : Cursor → Prop) : Prop where
  suspends : ∀ {resume : Option Cursor} {m : Machine}, m.Sound →
    (∀ cursor, resume = some cursor → opens cursor) →
    Run.Meets (Suspends opens m) (x resume m)

/-- An outcome of one of the calls of an evaluation that began in `e`. -/
def Reached (x : Option Cursor → Run Flow) (opens : Cursor → Prop) (e : Machine)
    (p : Except Stop Flow × Machine) : Prop :=
  ∃ resume m, e.Rests m ∧ (∀ cursor, resume = some cursor → opens cursor) ∧ p = x resume m

theorem Reached.first (he : e.Sound) : Reached x opens e (x none e) :=
  ⟨none, e, .refl he, nofun, rfl⟩

theorem Reached.meets (hx : Suspendable x opens) (h : Reached x opens e p) :
    Run.Meets (Suspends opens e) p := by
  obtain ⟨resume, m, rests, here, rfl⟩ := h
  exact (hx.suspends rests.sound here).mono fun _ _ => .after rests

theorem Reached.next {value : CellRef} {cursor : Cursor} (deep : 1 < e.context.frameDepth)
    (rests : e.Rests m) (here : opens cursor) :
    Reached x opens e (x (some cursor) (k.between line value m)) := by
  refine ⟨some cursor, k.between line value m, rests.between deep k line value, fun c eq => ?_, rfl⟩
  obtain rfl := Option.some_inj.mp eq
  exact here

/-- Go on with the outcome of a computation that was attempted. -/
def proceed {α : Type} (f : Except Fault Flow → Run α) :
    Except Stop Flow × Machine → Except Stop α × Machine
  | (.ok flow, m) => f (.ok flow) m
  | (.error (.fault e), m) => f (.error e) m
  | (.error .exhausted, m) => (.error .exhausted, m)

theorem attempt_bind_run {α : Type} (x : Run Flow) (f : Except Fault Flow → Run α) (m : Machine) :
    (Run.attempt x >>= f) m = proceed f (x m) := by
  rw [Run.bind_run, Run.attempt_run]
  rcases x m with ⟨(_ | _) | _, _⟩ <;> rfl

/-- Driving an evaluation drives what it is a part of: what is around lets its suspensions through
and takes it up again where it was, with what is left to do afterwards among `F`. -/
theorem Drives.through {F : (Except Fault Flow → Run Flow) → Prop} (hx : Suspendable x opens)
    (deep : 1 < e.context.frameDepth) (h : Drives k line' x p q) (hp : Reached x opens e p)
    {f : Except Fault Flow → Run Flow} (hf : F f)
    (next : ∀ f value cursor m, F f → e.Rests m → opens cursor → ∃ outer m',
      f (.ok (.yield value cursor)) m = (.ok (.yield value outer), m') ∧
      ∃ g, F g ∧ y (some outer) (k.between line value m') = proceed g
        (x (some cursor) (k.between line' value m)))
    {q' : Except Stop Flow × Machine}
    (final : ∀ f, F f → Reached x opens e q → (∀ value cursor, q.1 ≠ .ok (.yield value cursor)) →
      Drives k line y (proceed f q) q') : Drives k line y (proceed f p) q' := by
  induction h generalizing f with
  | ended ends => exact final f hf hp ends
  | @resumed value cursor m q _ ih =>
    obtain ⟨rests, here⟩ : e.Rests m ∧ opens cursor := hp.meets hx
    obtain ⟨outer, m', out, g, hg, again⟩ := next f value cursor m hf rests here
    change Drives k line y (f (.ok (.yield value cursor)) m) q'
    rw [out]
    refine .resumed ?_
    rw [again]
    exact ih (.next deep rests here) hg final

end Eval

end CellScript
