import CellScript.Machine.Basic

/-!
# Two computations that agree

`Run.Agrees lax x y post m` says that `x` and `y` do the same from `m` and that what they do
satisfies `post`. With `x = y` this is a weakest precondition. With two different computations it
carries the reason why they agree: the evaluator and an evaluator under watch, for instance, agree
because the watch never sees anything. Where `lax` holds, `x` may be out of fuel instead, which is
how an evaluator agrees with one that has more fuel.

## Main statements

* `Agrees.bind`, `Agrees.attempt` — the rules for computations one after another and for faults that
  are looked at.
* `agrees_iterate` — the rule for loops, with an invariant of the rounds.
-/

namespace CellScript.Run

variable {α β σ : Type}

/-! ## Running the operations -/

@[simp] theorem pure_run (a : α) (m : Machine) : (pure a : Run α) m = (.ok a, m) := rfl

theorem bind_run (x : Run α) (f : α → Run β) (m : Machine) :
    (x >>= f) m = match x m with
      | (.ok a, m) => f a m
      | (.error stop, m) => (.error stop, m) := by
  change ExceptT.bindCont f (x m).1 (x m).2 = _
  cases x m with
  | mk r n => cases r <;> rfl

theorem map_run (f : α → β) (x : Run α) (m : Machine) : (f <$> x) m = ((x m).1.map f, (x m).2) := by
  rw [← bind_pure_comp, bind_run]
  rcases x m with ⟨_ | _, _⟩ <;> rfl

/-- The first of two computations comes to a result. -/
theorem bind_of_ok {x : Run α} {f : α → Run β} {a : α} {m m' : Machine} (run : x m = (.ok a, m')) :
    (x >>= f) m = f a m' := by
  rw [bind_run, run]

/-- The first of two computations does not come to a result. -/
theorem bind_of_error {x : Run α} {f : α → Run β} {stop : Stop} {m m' : Machine}
    (run : x m = (.error stop, m')) :
    (x >>= f) m = (.error stop, m') := by
  rw [bind_run, run]

@[simp] theorem throw_run (stop : Stop) (m : Machine) : (throw stop : Run α) m = (.error stop, m) :=
  rfl

@[simp] theorem fail_run (f : Fault) (m : Machine) : (fail f : Run α) m = (.error (.fault f), m) :=
  rfl

@[simp] theorem ask_run (f : Machine → α) (m : Machine) : ask f m = (.ok (f m), m) := rfl

@[simp] theorem askHeap_run (f : Heap → α) (m : Machine) : askHeap f m = (.ok (f m.heap), m) := rfl

@[simp] theorem askContext_run (f : Context → α) (m : Machine) :
    askContext f m = (.ok (f m.context), m) := rfl

@[simp] theorem changeMachine_run (f : Machine → Machine) (m : Machine) :
    changeMachine f m = (.ok (), f m) := rfl

@[simp] theorem changeHeap_run (f : Heap → Heap) (m : Machine) :
    changeHeap f m = (.ok (), { m with heap := f m.heap }) := rfl

@[simp] theorem changeContext_run (f : Context → Context) (m : Machine) :
    changeContext f m = (.ok (), { m with context := f m.context }) := rfl

@[simp] theorem changeScript_run (s : ScriptRef) (f : Script → Script) (m : Machine) :
    changeScript s f m = (.ok (), { m with scripts := m.scripts.modify s.index f }) := rfl

@[simp] theorem killFrame_run (m : Machine) :
    killFrame m = (.ok m.context.killFrame.1, { m with context := m.context.killFrame.2 }) := rfl

@[simp] theorem settle_ok (a : α) : settle (.ok a : Except Fault α) = pure a := rfl

@[simp] theorem settle_error (f : Fault) : settle (.error f : Except Fault α) = fail f := rfl

theorem onHeap_run (op : HeapM α) (m : Machine) :
    onHeap op m = match op m.heap with
      | (.ok a, h) => (.ok a, { m with heap := h })
      | (.error f, h) => (.error (.fault f), { m with heap := h }) := rfl

theorem attempt_run (x : Run α) (m : Machine) :
    attempt x m = match x m with
      | (.ok a, m) => (.ok (.ok a), m)
      | (.error (.fault f), m) => (.ok (.error f), m)
      | (.error .exhausted, m) => (.error .exhausted, m) := rfl

/-- Looking at the outcome and going on with it is no more than the computation. -/
theorem attempt_settle (x : Run α) : attempt x >>= settle = x := by
  funext m
  rw [bind_run, attempt_run]
  rcases x m with ⟨(_ | _) | _, _⟩ <;> rfl

/-- The run of a computation that is known to give something. -/
theorem run_of_toOption {x : Run α} {a : α} {m : Machine} (gives : (x m).1.toOption = some a) :
    x m = (.ok a, (x m).2) := by
  rcases run : x m with ⟨_ | b, m'⟩ <;> rw [run] at gives <;> cases gives
  rfl

@[simp] theorem liftM_heap (op : HeapM α) : (liftM op : Run α) = onHeap op := rfl

/-! ## Agreement -/

/-- What a computation may end with. Nothing is asked of one that runs out of fuel. -/
abbrev Post (α : Type) := Except Fault α → Machine → Prop

/-- Whether the end of a computation satisfies `post`. -/
def Meets (post : Post α) : Except Stop α × Machine → Prop
  | (.ok a, m) => post (.ok a) m
  | (.error (.fault f), m) => post (.error f) m
  | (.error .exhausted, _) => True

/-- `x` and `y` do the same from `m`, and what they do satisfies `post`. With `lax`, `x` may be out
of fuel. -/
def Agrees (lax : Prop) (x y : Run α) (post : Post α) (m : Machine) : Prop :=
  (lax ∧ (x m).1 = .error .exhausted) ∨ (x m = y m ∧ Meets post (x m))

theorem Meets.of_forall {post : Post α} {e : Except Stop α × Machine} (h : ∀ r, post r e.2) :
    Meets post e := by
  rcases e with ⟨(_ | _) | _, m⟩
  · exact h _
  · trivial
  · exact h _

theorem Meets.mono {post post' : Post α} {e : Except Stop α × Machine} (h : Meets post e)
    (weaker : ∀ r m, post r m → post' r m) : Meets post' e := by
  rcases e with ⟨(_ | _) | _, m⟩
  · exact weaker _ _ h
  · trivial
  · exact weaker _ _ h

namespace Agrees

variable {lax : Prop} {x y : Run α} {f g : α → Run β} {post post' : Post α} {m : Machine}

theorem mono (h : Agrees lax x y post m) (weaker : ∀ r m', post r m' → post' r m') :
    Agrees lax x y post' m :=
  h.imp_right fun h => ⟨h.1, h.2.mono weaker⟩

/-- Two things that hold of the end. -/
theorem and (h : Agrees lax x y post m) (h' : Agrees lax x y post' m) :
    Agrees lax x y (fun r m' => post r m' ∧ post' r m') m := by
  refine h.imp_right fun ⟨same, ends⟩ => ⟨same, ?_⟩
  rcases h' with ⟨-, dry⟩ | ⟨-, ends'⟩
  · revert dry
    cases x m with
    | mk r m' =>
      rintro ⟨⟩
      trivial
  · revert ends ends'
    rcases x m with ⟨(_ | _) | _, m'⟩
    · exact And.intro
    · exact fun _ _ => trivial
    · exact And.intro

theorem pure {a : α} (h : post (.ok a) m) : Agrees lax (Pure.pure a) (Pure.pure a) post m :=
  .inr ⟨rfl, h⟩

theorem fail {f : Fault} (h : post (.error f) m) :
    Agrees lax (Run.fail f) (Run.fail f) post m := .inr ⟨rfl, h⟩

/-- A computation whose run is known. -/
theorem of_run {r : Except Stop α} {m' : Machine} (h : x m = (r, m')) (ends : Meets post (r, m')) :
    Agrees lax x x post m := .inr ⟨rfl, h ▸ ends⟩

/-- One computation after another: the second starts where the first ends. -/
theorem bind {post : Post β}
    (h : Agrees lax x y (fun r m' => match r with
      | .ok a => Agrees lax (f a) (g a) post m'
      | .error f => post (.error f) m') m) :
    Agrees lax (x >>= f) (y >>= g) post m := by
  unfold Agrees
  rw [bind_run, bind_run]
  rcases h with ⟨allowed, dry⟩ | ⟨same, after⟩
  · revert dry
    cases x m with
    | mk r m' => cases r with
      | ok a => exact fun dry => nomatch dry
      | error stop => exact fun dry => .inl ⟨allowed, by simpa using dry⟩
  · rw [← same]
    revert after
    cases x m with
    | mk r m' => cases r with
      | ok a => exact id
      | error stop => cases stop with
        | fault f => exact fun h => .inr ⟨rfl, h⟩
        | exhausted => exact fun _ => .inr ⟨rfl, trivial⟩

/-- The same, with a condition for each way in which the first may end. -/
theorem andThen {mid : Post α} {post : Post β} (h : Agrees lax x y mid m)
    (ok : ∀ a m', mid (.ok a) m' → Agrees lax (f a) (g a) post m')
    (error : ∀ f m', mid (.error f) m' → post (.error f) m') :
    Agrees lax (x >>= f) (y >>= g) post m :=
  bind (h.mono fun r m' h => match r, h with
    | .ok a, h => ok a m' h
    | .error f, h => error f m' h)

/-- The same when the second computation is only looked at where the first one has ended. -/
theorem andAfter {mid : Post α} {post : Post β} (h : Agrees lax x y mid m)
    (ok : ∀ a m', x m = (.ok a, m') → mid (.ok a) m' → Agrees lax (f a) (g a) post m')
    (error : ∀ f m', mid (.error f) m' → post (.error f) m') :
    Agrees lax (x >>= f) (y >>= g) post m := by
  have ends : Agrees lax x y (fun r m' => mid r m' ∧ ∀ a, r = .ok a → x m = (.ok a, m')) m := by
    refine h.imp_right fun ⟨same, after⟩ => ⟨same, ?_⟩
    revert after
    rcases x m with ⟨(_ | _) | _, m'⟩
    · exact fun after => ⟨after, nofun⟩
    · exact fun _ => trivial
    · exact fun after => ⟨after, fun | _, rfl => rfl⟩
  exact ends.andThen (fun a m' ⟨after, run⟩ => ok a m' (run a rfl) after)
    fun f m' after => error f m' after.1

/-- A computation whose faults are looked at. -/
theorem attempt {post : Post (Except Fault α)} (h : Agrees lax x y (fun r => post (.ok r)) m) :
    Agrees lax (Run.attempt x) (Run.attempt y) post m := by
  unfold Agrees
  rw [attempt_run, attempt_run]
  rcases h with ⟨allowed, dry⟩ | ⟨same, after⟩
  · revert dry
    cases x m with
    | mk r m' => cases r with
      | ok a => exact fun dry => nomatch dry
      | error stop => cases stop with
        | fault f => exact fun dry => nomatch dry
        | exhausted => exact fun _ => .inl ⟨allowed, rfl⟩
  · rw [← same]
    revert after
    cases x m with
    | mk r m' => cases r with
      | ok a => exact fun h => .inr ⟨rfl, h⟩
      | error stop => cases stop with
        | fault f => exact fun h => .inr ⟨rfl, h⟩
        | exhausted => exact fun _ => .inr ⟨rfl, trivial⟩

/-- What is done with the outcome of a computation. -/
theorem attemptThen {mid : Post α} {post : Post β} {f g : Except Fault α → Run β}
    (h : Agrees lax x y mid m) (after : ∀ r m', mid r m' → Agrees lax (f r) (g r) post m') :
    Agrees lax (Run.attempt x >>= f) (Run.attempt y >>= g) post m :=
  bind (attempt (h.mono after))

theorem settle {r : Except Fault α} (h : post r m) :
    Agrees lax (Run.settle r) (Run.settle r) post m := by
  cases r with
  | ok a => exact pure h
  | error f => exact fail h

theorem changeMachine {f : Machine → Machine} {post : Post Unit} (h : post (.ok ()) (f m)) :
    Agrees lax (Run.changeMachine f) (Run.changeMachine f) post m := .inr ⟨rfl, h⟩

theorem changeContext {f : Context → Context} {post : Post Unit}
    (h : post (.ok ()) { m with context := f m.context }) :
    Agrees lax (Run.changeContext f) (Run.changeContext f) post m := .inr ⟨rfl, h⟩

theorem changeHeap {f : Heap → Heap} {post : Post Unit}
    (h : post (.ok ()) { m with heap := f m.heap }) :
    Agrees lax (Run.changeHeap f) (Run.changeHeap f) post m := .inr ⟨rfl, h⟩

theorem changeOwnScript {f : Script → Script} {post : Post Unit}
    (h : post (.ok ()) { m with scripts := m.scripts.modify m.context.script.index f }) :
    Agrees lax (Run.changeOwnScript f) (Run.changeOwnScript f) post m := .inr ⟨rfl, h⟩

theorem killFrame {post : Post (List CellRef)}
    (h : post (.ok m.context.killFrame.1) { m with context := m.context.killFrame.2 }) :
    Agrees lax Run.killFrame Run.killFrame post m := .inr ⟨rfl, h⟩

theorem ask {f : Machine → α} (h : post (.ok (f m)) m) :
    Agrees lax (Run.ask f) (Run.ask f) post m := .inr ⟨rfl, h⟩

/-- A question that only the second computation asks. -/
theorem askRight {x : Run β} {f : Machine → α} {g : α → Run β} {post : Post β}
    (h : Agrees lax x (g (f m)) post m) :
    Agrees lax x (Run.ask f >>= g) post m := h

theorem askHeap {f : Heap → α} (h : post (.ok (f m.heap)) m) :
    Agrees lax (Run.askHeap f) (Run.askHeap f) post m := .inr ⟨rfl, h⟩

theorem askContext {f : Context → α} (h : post (.ok (f m.context)) m) :
    Agrees lax (Run.askContext f) (Run.askContext f) post m := .inr ⟨rfl, h⟩

/-! ## What agreement says -/

theorem same (h : Agrees False x y post m) : x m = y m :=
  (h.resolve_left (·.1)).1

/-- What holds at the end, unless `x` has run out of fuel. -/
theorem ends {r : Except Stop α} {m' : Machine} (h : Agrees False x y post m) (run : x m = (r, m'))
    (ends : r ≠ .error .exhausted) : ∃ r', r = Except.mapError Stop.fault r' ∧ post r' m' := by
  have meets := (h.resolve_left (·.1)).2
  rw [run] at meets
  match r with
  | .ok a => exact ⟨.ok a, rfl, meets⟩
  | .error (.fault f) => exact ⟨.error f, rfl, meets⟩
  | .error .exhausted => exact absurd rfl ends

end Agrees

/-- Rounds that keep an invariant until they end as `post` says. The second loop may go round more
often where the first may be out of fuel. -/
theorem agrees_iterate {lax : Prop} {step step' : σ → Run (σ ⊕ α)} {post : Post α}
    (inv : σ → Machine → Prop)
    (round : ∀ s m, inv s m → Agrees lax (step s) (step' s) (fun r m' => match r with
      | .ok (.inl s') => inv s' m'
      | .ok (.inr a) => post (.ok a) m'
      | .error f => post (.error f) m') m)
    {n n' : Nat} (rounds : n = n' ∨ lax ∧ n ≤ n') (s : σ) (m : Machine) (h : inv s m) :
    Agrees lax (iterate step n s) (iterate step' n' s) post m := by
  induction n generalizing n' s m with
  | zero =>
    rcases rounds with rfl | ⟨allowed, -⟩
    · exact .inr ⟨rfl, trivial⟩
    · exact .inl ⟨allowed, rfl⟩
  | succ n ih =>
    obtain ⟨k, rfl⟩ : ∃ k, n' = k + 1 :=
      Nat.exists_eq_succ_of_ne_zero (by rcases rounds with h | ⟨-, h⟩ <;> omega)
    replace rounds : n = k ∨ lax ∧ n ≤ k := rounds.imp (by omega) (And.imp_right (by omega))
    unfold Agrees
    simp only [iterate]
    rcases round s m h with ⟨allowed, out⟩ | ⟨same, after⟩
    · revert out
      cases step s m with
      | mk r m' => cases r with
        | ok next => exact fun out => nomatch out
        | error stop => exact fun out => .inl ⟨allowed, by simpa using out⟩
    · rw [← same]
      revert after
      cases step s m with
      | mk r m' => cases r with
        | ok next => cases next with
          | inl s' => exact ih rounds s' m'
          | inr a => exact fun h => .inr ⟨rfl, h⟩
        | error stop => cases stop with
          | fault f => exact fun h => .inr ⟨rfl, h⟩
          | exhausted => exact fun _ => .inr ⟨rfl, trivial⟩

end CellScript.Run
