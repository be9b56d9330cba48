import CellScript.Library.Function
import CellScript.Library.Operator
import CellScript.Proofs.Mirror.Machine

/-!
# The library in other places

Operators, predicates and library functions do the same wherever their operands are. They call
functions of scripts back, which have to do the same.

## Main statements

* `sim_evict`, `sim_put`, `sim_getOrCreate` — maps with their policies.
* `sim_elementAt` — elements of containers.
* `sim_operator`, `sim_predicate` — operators and predicates.
* `sim_library`, `sim_probe` — library functions, one by one.
-/

namespace CellScript.Mirror

variable {e : Surroundings} {w : Links} {α : Type}

/-! ## Maps and elements -/

section Policies

variable (self : Reentry) [Mirrors e self] (t t' : TableRef) (key : String) [ht : Alike w t t']

instance sim_verdict (cell cell' : CellRef) (policy policy' : RemovalPolicy) [Alike w cell cell']
    [hp : Alike w policy policy'] :
    Sim e w (policy.verdict self t key cell) (policy'.verdict self t' key cell') := by
  unfold RemovalPolicy.verdict
  cases hp.rel with
  | longer limit =>
    have longer (p : TwoHeaps e w) :
        Alike w (decide (limit < (p.left.count t : Int)))
          (decide (limit < (p.right.count t' : Int))) := by
      have count : p.left.count t = p.right.count t' := Alike.eq (w := w) inferInstance
      rw [count]
      infer_instance
    exact inferInstanceAs (Sim e w (Run.askHeap _) (Run.askHeap _))
  | _ => infer_instance

instance sim_evict : Sim e w (Table.evict self t) (Table.evict self t') := by
  refine .andThen fun v ⟨found, found', same⟩ => ?_
  obtain ⟨rfl, rfl⟩ | ⟨⟨policy, key, cell?⟩, ⟨policy', key', cell?'⟩, rfl, rfl, found⟩ :=
      (Alike.mk same).option
  · infer_instance
  · obtain ⟨policies, keys, cells⟩ := found.rel
    obtain rfl : key = key' := keys
    have := Alike.mk policies
    obtain ⟨rfl, rfl⟩ | ⟨cell, cell', rfl, rfl, _⟩ := (Alike.mk cells).option <;>
      exact .andThen fun _ _ => inferInstance

instance sim_put (key' : String) (cell cell' : CellRef) [hk : Alike w key key']
    [Alike w cell cell'] :
    Sim e w (Table.put self t key cell) (Table.put self t' key' cell') := by
  obtain rfl := hk.eq
  exact inferInstanceAs (Sim e w (_ >>= _) (_ >>= _))

instance sim_materialize (policy policy' : MissPolicy) [hp : Alike w policy policy'] :
    Sim e w (policy.materialize self t key) (policy'.materialize self t' key) := by
  unfold MissPolicy.materialize
  cases hp.rel <;> infer_instance

instance sim_getOrCreate :
    Sim e w (Table.getOrCreate self t key) (Table.getOrCreate self t' key) := by
  refine .andThen fun v ⟨found, found', same⟩ => ?_
  obtain ⟨rfl, rfl⟩ | ⟨cell, cell', rfl, rfl, _⟩ := (Alike.mk same).option
  · refine .andThen fun v' ⟨policy, policy', same⟩ => ?_
    have added (v : w.Later) (made made' : CellRef) [Alike v.now made made'] : Sim e v.now
        (Run.askHeap (fun h => (h.table t).peek key) >>= fun
          | some cell => pure cell
          | none => do
            Run.changeHeap fun h => h.modifyTable t (·.append key made)
            Table.evict self t
            return made)
        (Run.askHeap (fun h => (h.table t').peek key) >>= fun
          | some cell => pure cell
          | none => do
            Run.changeHeap fun h => h.modifyTable t' (·.append key made')
            Table.evict self t'
            return made') := by
      refine .andThen fun v' ⟨found, found', same⟩ => ?_
      obtain ⟨rfl, rfl⟩ | ⟨cell, cell', rfl, rfl, _⟩ := (Alike.mk same).option <;> infer_instance
    obtain ⟨rfl, rfl⟩ | ⟨policy, policy', rfl, rfl, _⟩ := (Alike.mk same).option
    · exact .andThen fun v'' ⟨made, made', same⟩ =>
        have : Alike ((v.after v').after v'').now made made' := ⟨same⟩
        added ((v.after v').after v'') made made'
    · exact .andThen fun v'' ⟨made, made', same⟩ =>
        have : Alike ((v.after v').after v'').now made made' := ⟨same⟩
        added ((v.after v').after v'') made made'
  · infer_instance

instance (text : String) (index : Int) :
    Alike w (characterAt text index) (characterAt text index) := by
  unfold characterAt
  dsimp only
  repeat' split
  all_goals infer_instance

instance sim_elementOf (content content' : Content) (index index' : CellRef)
    [hc : Alike w content content'] [Alike w index index'] :
    Sim e w (elementOf self content index) (elementOf self content' index') := by
  unfold elementOf
  cases hc.rel with
  | text s =>
    refine .next fun v i => ?_
    obtain ⟨f, found, _⟩ | ⟨c, found, _⟩ :=
        (inferInstance : Alike v.now (characterAt s i.toInt) (characterAt s i.toInt)).result <;>
      rw [found] <;> infer_instance
  | sequence | table => infer_instance
  | _ =>
    dsimp only [Content.typeName]
    infer_instance

instance sim_elementAt (container container' index index' : CellRef) [Alike w container container']
    [Alike w index index'] :
    Sim e w (elementAt self container index) (elementAt self container' index') := by
  refine .andThen fun v ⟨content, content', same⟩ => ?_
  have := Alike.mk same
  cases same with
  | null =>
    refine .next fun v' number => ?_
    cases number <;>
    · simp only [Bool.false_eq_true, if_false, if_true, pure_bind]
      infer_instance
  | _ => infer_instance

end Policies

/-! ## Operators and predicates -/

/-- Two lists that are alike are both of two elements, or both not. -/
theorem Alike.two [Paired α] {as bs : List α} (h : Alike w as bs) :
    (∃ x y x' y', as = [x, y] ∧ bs = [x', y'] ∧ Alike w x x' ∧ Alike w y y') ∨
      (∀ x y, as ≠ [x, y]) ∧ ∀ x y, bs ≠ [x, y] := by
  by_cases two : as.length = 2
  · obtain ⟨x, y, rfl⟩ := List.length_eq_two.mp two
    obtain ⟨x', y', rfl⟩ := List.length_eq_two.mp (h.length_eq.symm.trans two)
    exact .inl ⟨x, y, x', y', rfl, rfl, h.cons.1, h.cons.2.cons.1⟩
  · refine .inr ⟨?_, ?_⟩
    · rintro x y rfl
      exact two rfl
    · rintro x y rfl
      exact two h.length_eq

section Operations

variable (args args' : List CellRef) [ha : Alike w args args']

instance (symbol : String) :
    Sim e w (Operator.operands symbol args) (Operator.operands symbol args') := by
  obtain ⟨x, y, x', y', rfl, rfl, _, _⟩ | ⟨ne, ne'⟩ := ha.two
  · exact inferInstanceAs (Sim e w (pure (x, y)) (pure (x', y')))
  · rw [Operator.operands, Operator.operands, ha.length_eq]
    · infer_instance
    · exact fun _ _ => ne' _ _
    · exact fun _ _ => ne _ _

instance alike_arithmetic (op : Arithmetic) (a b : Num) :
    Alike w (op.apply a b) (op.apply a b) := by
  unfold Arithmetic.apply Arithmetic.onInts
  repeat' split
  all_goals infer_instance

instance sim_operator (op : Operator) (symbol : String) :
    Sim e w (op.apply symbol args) (op.apply symbol args') := by
  have number (v : w.Later) (p : TwoHeaps e v.now) (c : Both v.now CellRef) :
      p.left.number (p.left.content c.left) = p.right.number (p.right.content c.right) :=
        Alike.eq (w := v.now) inferInstance
  have int (v : w.Later) (p : TwoHeaps e v.now) (c : Both v.now CellRef) :
      p.left.cellInt c.left = p.right.cellInt c.right := Alike.eq (w := v.now) inferInstance
  have text (v : w.Later) (p : TwoHeaps e v.now) (c : Both v.now CellRef) :
      p.left.text c.left = p.right.text c.right :=
    Alike.eq (w := v.now) inferInstance
  unfold Operator.apply
  cases op with
  | not =>
    have truth (p : TwoHeaps e w) :
        Alike w (args.head?.any p.left.isTruthy) (args'.head?.any p.right.isTruthy) := by
      obtain ⟨left, right⟩ | ⟨c, c', left, right, _⟩ :=
          (inferInstance : Alike w args.head? args'.head?).option
      · rw [left, right]
        exact ⟨rfl⟩
      · rw [left, right]
        exact inferInstanceAs (Alike w (p.left.isTruthy c) (p.right.isTruthy c'))
    infer_instance
  | arithmetic op =>
    have binary : Sim e w
        (Operator.operands symbol args >>= fun (lhs, rhs) => Run.askHeap id >>= fun h =>
          match op.apply (h.number (h.content lhs)) (h.number (h.content rhs)) with
          | .ok n => (HeapM.cell n.content : Run CellRef)
          | .error f => Run.fail f)
        (Operator.operands symbol args' >>= fun (lhs, rhs) => Run.askHeap id >>= fun h =>
          match op.apply (h.number (h.content lhs)) (h.number (h.content rhs)) with
          | .ok n => (HeapM.cell n.content : Run CellRef)
          | .error f => Run.fail f) := by
      refine .pair fun v lhs rhs => sim_fromHeap fun p => ?_
      simp only [number v p]
      obtain ⟨f, found, _⟩ | ⟨n, found, _⟩ := (alike_arithmetic (w := v.now) op _ _).result <;>
        rw [found] <;> infer_instance
    cases op with
    | subtract =>
      obtain ⟨rfl, rfl⟩ | ⟨x, x', xs, xs', rfl, rfl, _, rest⟩ := ha.list
      · exact binary
      · obtain ⟨rfl, rfl⟩ | ⟨_, _, _, _, rfl, rfl, -, -⟩ := rest.list
        · infer_instance
        · exact binary
    | _ => exact binary
  | _ =>
    refine .pair fun v lhs rhs => sim_fromHeap fun p => ?_
    simp only [int v p, text v p, number v p]
    infer_instance

instance (name : String) :
    Sim e w (Predicate.operands name args) (Predicate.operands name args') := by
  obtain ⟨x, y, x', y', rfl, rfl, _, _⟩ | ⟨ne, ne'⟩ := ha.two
  · exact inferInstanceAs (Sim e w (pure (x, y)) (pure (x', y')))
  · rw [Predicate.operands, Predicate.operands, ha.length_eq]
    · infer_instance
    · exact fun _ _ => ne' _ _
    · exact fun _ _ => ne _ _

instance : Plain Pattern := ⟨⟩

instance (source : String) : Sim e w (compilePattern source) (compilePattern source) := by
  unfold compilePattern
  split <;> infer_instance

section Tests

variable (h h' : Heap) [heaps : Heaps e w h h'] (c c' d d' : CellRef) [hc : Alike w c c']
  [hd : Alike w d d']

instance (t : ValueTest) : Alike w (t.holds h c) (t.holds h' c') := by
  have content : Alike w (h.content c) (h'.content c') := inferInstance
  cases t with
  | sequence | table | function =>
    unfold ValueTest.holds
    dsimp only
    generalize h.content c = x, h'.content c' = y at content
    cases content.rel <;> exact ⟨rfl⟩
  | _ => unfold ValueTest.holds; infer_instance

instance : Alike w (h.identical c d) (h'.identical c' d') := by
  have first : Alike w (h.content c) (h'.content c') := inferInstance
  have second : Alike w (h.content d) (h'.content d') := inferInstance
  have cells : (c == d) = (c' == d') := (hc.beq_eq hd).symm
  unfold Heap.identical
  generalize h.content c = x, h'.content c' = x', h.content d = y,
    h'.content d' = y' at first second
  cases first.rel with
  | sequence same | table same | object same | function same =>
    cases second.rel with
    | sequence same' | table same' | object same' | function same' =>
      first | exact ⟨(same.beq_eq same').symm⟩ | exact ⟨cells⟩
    | _ => exact ⟨cells⟩
  | _ => cases second.rel <;> exact ⟨cells⟩

end Tests

/-- What fails goes no further. -/
theorem sim_failed [Paired α] {β : Type} {k k' : β → Run α} (f : Fault) [Alike w f f] :
    Sim e w (Run.fail f >>= k) (Run.fail f >>= k') :=
  inferInstanceAs (Sim e w (Run.fail f : Run α) (Run.fail f))

theorem operands_eq_fail {args : List CellRef} (ne : ∀ x y, args ≠ [x, y]) (name : String) :
    Predicate.operands name args = Run.fail (.runtime (.predicateOperands name 2 args.length)) := by
  rw [Predicate.operands]
  exact fun x y => ne x y

/-- A predicate of two operands. -/
theorem sim_decide_two (p : Predicate) (name : String) (x y x' y' : CellRef) [Alike w x x']
    [Alike w y y'] :
    Sim e w (p.decide name [x, y]) (p.decide name [x', y']) := by
  refine sim_fromHeap fun h => ?_
  have number : h.left.number (h.left.content x) = h.right.number (h.right.content x') :=
    Alike.eq (w := w) inferInstance
  have number' : h.left.number (h.left.content y) = h.right.number (h.right.content y') :=
    Alike.eq (w := w) inferInstance
  have text : h.left.text x = h.right.text x' := Alike.eq (w := w) inferInstance
  have text' : h.left.text y = h.right.text y' := Alike.eq (w := w) inferInstance
  have content : Alike w (h.left.content x) (h.right.content x') := inferInstance
  have content' : Alike w (h.left.content y) (h.right.content y') := inferInstance
  cases p with
  | test t => infer_instance
  | isIn =>
    simp only [Predicate.operands, pure_bind, text]
    generalize h.left.content y = z, h.right.content y' = z' at content'
    have shown : h.left.contentText z = h.right.contentText z' := Alike.eq (w := w) inferInstance
    cases content'.rel with
    | @sequence s s' =>
      obtain ⟨f, f', left, right, _⟩ | ⟨cells, cells', left, right, same⟩ :=
          (inferInstance : Alike w (h.left.sequences.snapshot s)
            (h.right.sequences.snapshot s')).except
      · simp only [left, right]
        infer_instance
      · have found : (cells.any fun cell => h.left.text cell == h.right.text x') =
            cells'.any fun cell => h.right.text cell == h.right.text x' :=
          same.any_eq fun c c' _ =>
            congrArg (· == h.right.text x') (Alike.eq (w := w) inferInstance)
        simp only [left, right, found]
        infer_instance
    | _ =>
      dsimp only
      rw [shown]
      infer_instance
  | hasKey =>
    simp only [Predicate.operands, pure_bind, text']
    generalize h.left.content x = z, h.right.content x' = z' at content
    cases content.rel with
    | table => infer_instance
    | _ =>
      dsimp only [Content.typeName]
      infer_instance
  | identical =>
    simp only [Predicate.operands, pure_bind]
    infer_instance
  | _ =>
    simp only [Predicate.operands, pure_bind, number, number', text, text']
    infer_instance

/-- With any other number of operands, only tests of one operand are something else than a fault. -/
theorem sim_decide_other (p : Predicate) (name : String) {args args' : List CellRef}
    (ha : Alike w args args') (ne : ∀ x y, args ≠ [x, y]) (ne' : ∀ x y, args' ≠ [x, y]) :
    Sim e w (p.decide name args) (p.decide name args') := by
  refine sim_fromHeap fun h => ?_
  cases p with
  | test t =>
    obtain ⟨rfl, rfl⟩ | ⟨x, x', xs, xs', rfl, rfl, _, rest⟩ := ha.list
    · infer_instance
    · obtain ⟨rfl, rfl⟩ | ⟨_, _, _, _, rfl, rfl, -, -⟩ := rest.list
      · infer_instance
      · dsimp only
        rw [ha.length_eq]
        infer_instance
  | _ =>
    simp only [operands_eq_fail ne, operands_eq_fail ne', ha.length_eq]
    exact sim_failed _

instance sim_predicate (p : Predicate) (name : String) :
    Sim e w (p.decide name args) (p.decide name args') := by
  obtain ⟨x, y, x', y', rfl, rfl, _, _⟩ | ⟨ne, ne'⟩ := ha.two
  · exact sim_decide_two p name x y x' y'
  · exact sim_decide_other p name ha ne ne'

end Operations

/-! ## Arguments -/

open Library

section Arguments

variable (args args' : List CellRef) [ha : Alike w args args']

instance (i : Nat) : Sim e w (argument args i) (argument args' i) := by
  have found : Alike w args[i]? args'[i]? := inferInstance
  unfold argument
  obtain ⟨left, right⟩ | ⟨c, c', left, right, _⟩ :=
      found.option <;> rw [left, right] <;> infer_instance

instance (i : Nat) : Sim e w (textArgument args i) (textArgument args' i) := by
  have found : Alike w args[i]? args'[i]? := inferInstance
  unfold textArgument
  obtain ⟨left, right⟩ | ⟨c, c', left, right, _⟩ :=
      found.option <;> rw [left, right] <;> infer_instance

instance (i : Nat) : Sim e w (intArgument args i) (intArgument args' i) := by
  have found : Alike w args[i]? args'[i]? := inferInstance
  unfold intArgument
  obtain ⟨left, right⟩ | ⟨c, c', left, right, _⟩ :=
      found.option <;> rw [left, right] <;> infer_instance

instance (i : Nat) : Sim e w (contentArgument args i) (contentArgument args' i) := by
  have found : Alike w args[i]? args'[i]? := inferInstance
  unfold contentArgument
  obtain ⟨left, right⟩ | ⟨c, c', left, right, _⟩ :=
      found.option <;> rw [left, right] <;> infer_instance

instance (function : String) (i : Nat) :
    Sim e w (sequenceArgument function args i) (sequenceArgument function args' i) := by
  refine .andThen fun v ⟨content, content', same⟩ => ?_
  cases same <;> dsimp only [Content.typeName] <;> infer_instance

instance (function : String) (i : Nat) :
    Sim e w (tableArgument function args i) (tableArgument function args' i) := by
  refine .andThen fun v ⟨content, content', same⟩ => ?_
  cases same <;> dsimp only [Content.typeName] <;> infer_instance

instance (function : String) (i : Nat) :
    Sim e w (functionArgument function args i) (functionArgument function args' i) := by
  refine .andThen fun v cell => .andThen fun v' ⟨content, content', same⟩ => ?_
  cases same <;> dsimp only [Content.typeName] <;> infer_instance

instance (s s' : SequenceRef) [Alike w s s'] : Sim e w (snapshot s) (snapshot s') :=
  inferInstanceAs (Sim e w (liftM (HeapM.consult _)) (liftM (HeapM.consult _)))

instance : Sim e w nothing nothing :=
  inferInstanceAs (Sim e w (liftM HeapM.null) (liftM HeapM.null))

end Arguments

/-! ## Sequences and maps -/

section Containers

variable (args args' : List CellRef) [ha : Alike w args args']

instance (items items' : List CellRef) [Alike w items items'] :
    Sim e w (copies items) (copies items') :=
  inferInstanceAs (Sim e w (_ >>= _) (_ >>= _))

instance (c c' : CellRef) [Alike w c c'] : Sim e w (pairOf? c) (pairOf? c') := by
  refine .andThen fun v ⟨content, content', same⟩ => ?_
  cases same with
  | object =>
    refine .andThen fun v' ⟨object, object', same⟩ => ?_
    cases same <;> infer_instance
  | _ => infer_instance

instance : Sim e w (size args) (size args') := by
  refine .andThen fun v ⟨content, content', same⟩ => ?_
  cases same <;> infer_instance

instance : Sim e w (push args) (push args') := by
  refine .andThen fun v s => .andThen fun v' last => .seq (sim_forIn _ _ _ fun v'' cell _ => ?_)
    fun _ _ => inferInstance
  exact .andThen fun _ _ => .andThen fun _ _ => inferInstance

instance : Sim e w (pop args) (pop args') := inferInstanceAs (Sim e w (_ >>= _) (_ >>= _))

instance : Sim e w (shift args) (shift args') := inferInstanceAs (Sim e w (_ >>= _) (_ >>= _))

instance : Sim e w (unshift args) (unshift args') := by
  refine .andThen fun v s => .seq (sim_forIn _ _ _ fun v'' cell _ => ?_) fun _ _ => inferInstance
  exact .andThen fun _ _ => .andThen fun _ _ => inferInstance

instance : Sim e w (remove args) (remove args') := by
  refine .andThen fun v target => .andThen fun v' ⟨content, content', same⟩ => ?_
  cases same with
  | table =>
    refine .seq (sim_forIn _ _ _ fun v'' cell _ => ?_) fun _ _ => inferInstance
    exact .next fun _ _ => .andThen fun _ _ => inferInstance
  | _ =>
    refine .andThen fun v s => .seq (sim_forIn _ _ _ fun v'' cell _ => ?_) fun _ _ => inferInstance
    exact .andThen fun _ _ => .next fun _ _ => inferInstance

instance : Sim e w (sublist args) (sublist args') := by
  refine .andThen fun v s => .next fun v' first => ?_
  obtain ⟨left, right⟩ | ⟨c, c', left, right, _⟩ :=
      (inferInstance : Alike v'.now args[2]? args'[2]?).option <;>
    rw [left, right] <;> infer_instance

instance : Sim e w (reverse args) (reverse args') := inferInstanceAs (Sim e w (_ >>= _) (_ >>= _))

instance : Sim e w (keys args) (keys args') := inferInstanceAs (Sim e w (_ >>= _) (_ >>= _))

instance : Sim e w (values args) (values args') := inferInstanceAs (Sim e w (_ >>= _) (_ >>= _))

instance : Sim e w (setMissPolicy args) (setMissPolicy args') := by
  refine .andThen fun v t => .andThen fun v' ⟨content, content', same⟩ => ?_
  cases same <;> infer_instance

instance : Sim e w (setRemovalPolicy args) (setRemovalPolicy args') := by
  refine .andThen fun v t => .andThen fun v' ⟨content, content', same⟩ => ?_
  cases same <;> infer_instance

instance : Sim e w (setCapacity args) (setCapacity args') := by
  refine .andThen fun v t => ?_
  obtain ⟨left, right⟩ | ⟨c, c', left, right, _⟩ :=
      (inferInstance : Alike v.now args[1]? args'[1]?).option <;>
    rw [left, right]
  · infer_instance
  · have capacity (p : TwoHeaps e v.now) : Alike v.now
        (if p.left.isNull c then none else some (p.left.cellInt c).toNatClampNeg)
        (if p.right.isNull c' then none else some (p.right.cellInt c').toNatClampNeg) := by
      have null : p.left.isNull c = p.right.isNull c' := Alike.eq (w := v.now) inferInstance
      have number : p.left.cellInt c = p.right.cellInt c' := Alike.eq (w := v.now) inferInstance
      rw [null, number]
      infer_instance
    infer_instance

instance alike_alternating (items items' : List CellRef) [h : Alike w items items'] :
    Alike w (alternating items) (alternating items') := by
  induction items using alternating.induct generalizing items' with
  | case1 =>
    obtain ⟨-, rfl⟩ | ⟨_, _, _, _, ⟨⟩, -⟩ := h.list
    exact ⟨.nil⟩
  | case2 key =>
    obtain ⟨⟨⟩, -⟩ | ⟨_, key', _, rest', ⟨rfl, rfl⟩, rfl, _, tl⟩ := h.list
    obtain ⟨-, rfl⟩ | ⟨_, _, _, _, ⟨⟩, -⟩ := tl.list
    rw [alternating, alternating]
    infer_instance
  | case3 key value rest ih =>
    obtain ⟨⟨⟩, -⟩ | ⟨_, key', _, rest', ⟨rfl, rfl⟩, rfl, _, tl⟩ := h.list
    obtain ⟨⟨⟩, -⟩ | ⟨_, value', _, rest', ⟨rfl, rfl⟩, rfl, _, tl⟩ := tl.list
    have := ih rest'
    rw [alternating, alternating]
    infer_instance

instance alike_matched (keys keys' values values' : List CellRef) [h : Alike w keys keys']
    [h' : Alike w values values'] :
    Alike w (matched keys values) (matched keys' values') := by
  induction keys generalizing keys' values values' with
  | nil =>
    obtain ⟨-, rfl⟩ | ⟨_, _, _, _, ⟨⟩, -⟩ := h.list
    exact ⟨.nil⟩
  | cons key keys ih =>
    obtain ⟨⟨⟩, -⟩ | ⟨_, key', _, keys', ⟨rfl, rfl⟩, rfl, _, tl⟩ := h.list
    have := ih keys' values.tail values'.tail
    rw [matched, matched]
    infer_instance

section Calls

variable (self : Reentry) [Mirrors e self]

instance (function : String) (mode : MapOrder) :
    Sim e w (tableOfPairs self function mode args) (tableOfPairs self function mode args') := by
  refine .andThen fun v t => .seq (sim_forIn _ _ _ fun v' cell _ => ?_) fun _ _ => inferInstance
  refine .entry (fun _ => ?_) fun _ key value => .andThen fun _ _ => inferInstance
  exact .next fun _ described => .andThen fun _ _ => inferInstance

instance : Sim e w (add self args) (add self args') := by
  refine .andThen fun v target => .andThen fun v' ⟨content, content', same⟩ => ?_
  cases same with
  | table =>
    refine .seq (sim_forIn _ _ _ fun v'' cell _ => ?_) fun _ _ => inferInstance
    exact .entry (fun _ => .andThen fun _ _ => inferInstance) fun _ key value =>
      .andThen fun _ _ => inferInstance
  | _ =>
    exact .andThen fun _ s => .next fun _ index => .andThen fun _ source => .andThen fun _ new =>
      .andThen fun _ _ => inferInstance

instance : Sim e w (copy self args) (copy self args') := by
  refine .andThen fun v ⟨content, content', same⟩ => ?_
  cases same with
  | table =>
    refine .next fun _ mode => .andThen fun _ new => .andThen fun _ entries =>
      .seq (sim_forIn _ _ _ fun _ entry _ => ?_) fun _ _ => inferInstance
    obtain ⟨entry, entry', same⟩ := entry
    obtain ⟨key, cell, cell', rfl, rfl, _⟩ := (Alike.mk same).entry
    exact .andThen fun _ _ => .andThen fun _ _ => inferInstance
  | _ => infer_instance

instance (h h' : Heap) (c c' d d' : CellRef) [Heaps e w h h'] [Alike w c c'] [Alike w d d'] :
    Alike w (naturalOrder h c d) (naturalOrder h' c' d') := by
  have numeric : (h.content c).isNumber = (h'.content c').isNumber :=
    Alike.eq (w := w) inferInstance
  have numeric' : (h.content d).isNumber = (h'.content d').isNumber :=
    Alike.eq (w := w) inferInstance
  have number : h.cellFloat c = h'.cellFloat c' := Alike.eq (w := w) inferInstance
  have number' : h.cellFloat d = h'.cellFloat d' := Alike.eq (w := w) inferInstance
  have text : h.text c = h'.text c' := Alike.eq (w := w) inferInstance
  have text' : h.text d = h'.text d' := Alike.eq (w := w) inferInstance
  unfold naturalOrder
  rw [numeric, numeric', number, number', text, text']
  infer_instance

instance : Sim e w (sort self args) (sort self args') := by
  unfold sort
  rw [ha.length_eq]
  split
  · exact .andThen fun _ s => .andThen fun _ items => .andThen fun _ sorted => inferInstance
  · refine .andThen fun _ comparison => .andThen fun _ s => .andThen fun _ items =>
      .seq (sim_sortBy _ fun _ a b => ?_) fun _ sorted => inferInstance
    exact .andThen fun _ verdict => inferInstance

instance : Sim e w (putAll self args) (putAll self args') := by
  refine .andThen fun v t => .andThen fun v' s => .andThen fun v'' keys =>
    .andThen fun v₃ ⟨content, content', same⟩ => ?_
  cases same with
  | sequence =>
    refine .andThen fun v₄ values => ?_
    simp only [pure_bind]
    refine .seq (sim_forIn _ _ _ fun v₅ ⟨⟨key, value⟩, ⟨key', value'⟩, pair⟩ _ => ?_)
      fun _ _ => inferInstance
    have := Alike.mk pair.1
    obtain ⟨rfl, rfl⟩ | ⟨_, _, rfl, rfl, _⟩ := (Alike.mk pair.2).option <;> infer_instance
  | _ =>
    simp only [pure_bind]
    refine .seq (sim_forIn _ _ _ fun v₅ ⟨⟨key, value⟩, ⟨key', value'⟩, pair⟩ _ => ?_)
      fun _ _ => inferInstance
    have := Alike.mk pair.1
    obtain ⟨rfl, rfl⟩ | ⟨_, _, rfl, rfl, _⟩ := (Alike.mk pair.2).option <;> infer_instance

instance : Sim e w (map self args) (map self args') := by
  refine .andThen fun _ function => .andThen fun _ s => .andThen fun _ items =>
    .andThen fun _ made => ?_
  infer_instance

instance : Sim e w (filter self args) (filter self args') := by
  refine .andThen fun _ function => .andThen fun _ s => .andThen fun _ items =>
    .andThen fun _ kept => ?_
  infer_instance

end Calls

end Containers

/-! ## Strings -/

section Strings

variable (args args' : List CellRef) [ha : Alike w args args']

instance : Sim e w (join args) (join args') := by
  refine .next fun v separator => .andThen fun v' s => .andThen fun v'' items => ?_
  have texts (p : TwoHeaps e v''.now) :
      Alike v''.now (separator.intercalate (items.left.map p.left.text))
      (separator.intercalate (items.right.map p.right.text)) := by
    have same : Alike v''.now items.left items.right := inferInstance
    rw [same.mapEq (f := p.left.text) (g := p.right.text) fun _ _ _ =>
      Alike.eq (w := v''.now) inferInstance]
    infer_instance
  infer_instance

instance : Sim e w (split args) (split args') := inferInstanceAs (Sim e w (_ >>= _) (_ >>= _))

instance : Sim e w (upper args) (upper args') := inferInstanceAs (Sim e w (_ >>= _) (_ >>= _))

instance : Sim e w (lower args) (lower args') := inferInstanceAs (Sim e w (_ >>= _) (_ >>= _))

instance : Sim e w (length args) (length args') := inferInstanceAs (Sim e w (_ >>= _) (_ >>= _))

instance alike_substringOf (text : String) (start : Int) (stop : Option Int) :
    Alike w (substringOf text start stop) (substringOf text start stop) := by
  unfold substringOf
  dsimp only
  split <;> infer_instance

instance : Sim e w (substring args) (substring args') := by
  have piece (w : Links) (text : String) (start : Int) (stop : Option Int) : Sim e w
      (match substringOf text start stop with
        | .ok s => (HeapM.text s : Run CellRef)
        | .error f => Run.fail f)
      (match substringOf text start stop with
        | .ok s => (HeapM.text s : Run CellRef)
        | .error f => Run.fail f) := by
    obtain ⟨f, found, _⟩ | ⟨s, found, _⟩ := (alike_substringOf (w := w) text start stop).result <;>
      rw [found] <;> infer_instance
  refine .next fun v text => ?_
  obtain ⟨left, right⟩ | ⟨c, c', left, right, _⟩ :=
      (inferInstance : Alike v.now args[2]? args'[2]?).option <;>
    rw [left, right]
  · exact .next fun v' stop => .next fun v'' start => piece v''.now text start.toInt stop
  · exact .next fun v' stop => .next fun v'' start => .next fun v₃ first => piece v₃.now text _ _

end Strings

/-! ## Input and output -/

section Handles

variable (args args' : List CellRef) [ha : Alike w args args']

instance (h h' : Heap) (c c' : CellRef) [heaps : Heaps e w h h'] [Alike w c c'] :
    Alike w (handleOf? h c) (handleOf? h' c') := by
  have content : Alike w (h.content c) (h'.content c') := inferInstance
  unfold handleOf?
  generalize h.content c = x, h'.content c' = x' at content
  cases content.rel with
  | @object o o' =>
    have object : Alike w (h.object o) (h'.object o') := inferInstance
    dsimp only
    generalize h.object o = y, h'.object o' = y' at object
    cases object.rel <;> infer_instance
  | _ => infer_instance

/-- Handles that were found are the same, and their objects are linked. -/
theorem Alike.handle {x y : ObjectRef × String × Handle} (h : Alike w x y) :
    ∃ o o' label handle, x = (o, label, handle) ∧ y = (o', label, handle) ∧ Alike w o o' := by
  obtain ⟨o, label, handle⟩ := x
  obtain ⟨o', label', handle'⟩ := y
  obtain ⟨objects, labels, handles⟩ := h.rel
  obtain rfl : label = label' := labels
  obtain rfl : handle = handle' := handles
  exact ⟨o, o', label, handle, rfl, rfl, ⟨objects⟩⟩

instance (f : IoFault) : Alike w f.toFault f.toFault := by
  cases f <;> unfold IoFault.toFault <;> infer_instance

instance [Paired α] [Discrete α] (o o' : ObjectRef) (label : String)
    (result : Except IoFault α × Handle) [Alike w o o'] :
    Sim e w (useHandle o label result) (useHandle o' label result) := by
  refine .next fun v _ => ?_
  split <;> infer_instance

instance (line? : Option String) : Sim e w (lineCell line?) (lineCell line?) := by
  cases line? <;> unfold lineCell <;> infer_instance

/-- Both consoles were written to. -/
instance (text ending : String) (p : TwoMachines e w) : Machines e w
    { p.left with console := (p.left.console.print text).print ending }
    { p.right with console := (p.right.console.print text).print ending } :=
  { p.machines with
    console := congrArg (fun console => (console.print text).print ending) p.machines.console }

instance (ending : String) : Sim e w (write args ending) (write args' ending) := by
  have written (v : w.Later) (p : Both v.now (Option (ObjectRef × String × Handle))) :
      Sim e v.now
        (match p.left with
          | some (o, label, handle) => do
            useHandle o label (handle.write ((← textArgument args 1) ++ ending))
            nothing
          | none => do
            let text ← textArgument args 0
            Run.changeMachine fun m => { m with console := (m.console.print text).print ending }
            nothing)
        (match p.right with
          | some (o, label, handle) => do
            useHandle o label (handle.write ((← textArgument args' 1) ++ ending))
            nothing
          | none => do
            let text ← textArgument args' 0
            Run.changeMachine fun m => { m with console := (m.console.print text).print ending }
            nothing) := by
    obtain ⟨handle?, handle?', same⟩ := p
    obtain ⟨rfl, rfl⟩ | ⟨x, y, rfl, rfl, found⟩ := (Alike.mk same).option
    · infer_instance
    · obtain ⟨o, o', label, handle, rfl, rfl, _⟩ := found.handle
      infer_instance
  unfold write
  rw [ha.length_eq]
  split
  · obtain ⟨rfl, rfl⟩ | ⟨x, x', xs, xs', rfl, rfl, _, _⟩ := ha.list
    · exact absurd ‹1 < List.length []› (by decide)
    · exact .seq
        (inferInstanceAs (Sim e w (Run.askHeap (handleOf? · x)) (Run.askHeap (handleOf? · x'))))
        written
  · exact .andThen written

/-- The next line of the console, which both have. -/
theorem sim_consoleLine (prompt : String) {x : Run (Option String)}
    (run : ∀ m, x m = (.ok (m.console.readLine prompt).1,
      { m with console := (m.console.readLine prompt).2 })) :
    Sim e w x x :=
  ⟨fun m m' machines => by
    have console : m.console = m'.console := machines.console
    change Meet e w (x m) (x m')
    rw [run, run, console]
    exact ⟨w.here, { machines with console := rfl }, ⟨.ok (Discrete.rel_iff.mpr rfl)⟩⟩⟩

instance (h h' : Heap) [Heaps e w h h'] :
    Alike w (args.head?.bind (handleOf? h)) (args'.head?.bind (handleOf? h')) := by
  obtain ⟨left, right⟩ | ⟨c, c', left, right, _⟩ :=
      (inferInstance : Alike w args.head? args'.head?).option
  · rw [left, right]
    exact ⟨.none⟩
  · rw [left, right]
    exact inferInstanceAs (Alike w (handleOf? h c) (handleOf? h' c'))

instance : Sim e w (readLine args) (readLine args') := by
  refine .option (fun v => ?_) fun v ⟨x, y, found⟩ => ?_
  · exact .next fun v' prompt => .seq (sim_consoleLine prompt fun _ => rfl)
      fun v'' ⟨line, line', same⟩ => by
      obtain rfl : line = line' := Discrete.rel_iff.mp same
      infer_instance
  · obtain ⟨o, o', label, handle, rfl, rfl, _⟩ := (Alike.mk found).handle
    infer_instance

instance : Sim e w (exec args) (exec args') := by
  refine .next fun v command => ?_
  split
  · infer_instance
  · refine .next fun v' started => ?_
    cases started <;> infer_instance

/-! ### Waiting -/

instance (i : Nat) : Sim e w (limitArgument args i) (limitArgument args' i) :=
  inferInstanceAs (Sim e w (_ >>= _) (_ >>= _))

instance [Paired α] [Paired β] [Discrete α] [Discrete β]
    (ended : Option (Except WorkerError α × β)) :
    Sim e w (waited ended) (waited ended) := by
  cases ended with
  | none => exact inferInstanceAs (Sim e w (throw Stop.exhausted) (throw Stop.exhausted))
  | some ended => exact inferInstanceAs (Sim e w (pure ended) (pure ended))

instance (f : WorkerError) : Alike w f.toFault f.toFault := by
  cases f <;> unfold WorkerError.toFault <;> infer_instance

instance [Paired α] [Discrete α] (outcome : Except WorkerError α) :
    Sim e w (collect outcome) (collect outcome) := by
  cases outcome <;> unfold collect <;> infer_instance

instance (connection : Connection) : Sim e w (connected connection) (connected connection) := by
  cases connection <;> unfold connected <;> infer_instance

instance (o o' : ObjectRef) (u : Undertaking Connection) (limit : Option Nat) [Alike w o o'] :
    Sim e w (waitForTask o u limit) (waitForTask o' u limit) := by
  refine .next fun v ⟨result, u⟩ => ?_
  exact .andThen fun v' _ => .next fun v'' connection => inferInstance

instance (o o' : ObjectRef) (label : String) (handle : Handle) (limit : Option Nat) [Alike w o o'] :
    Sim e w (waitForHandle o label handle limit) (waitForHandle o' label handle limit) := by
  refine .next fun v ⟨result, u⟩ => ?_
  refine .andThen fun v' _ => .next fun v'' code => ?_
  cases code <;> infer_instance

instance : Sim e w (wait args) (wait args') := by
  refine .andThen fun v target => .next fun v' limit =>
    .option (fun v₂ => .andThen fun v₃ ⟨content, content', same⟩ => ?_)
      fun v₂ ⟨x, y, found⟩ => ?_
  · cases same with
    | object linked =>
      have := linked
      refine .andThen fun v₄ ⟨object, object', same⟩ => ?_
      cases same <;> dsimp only [HostObject.className] <;> infer_instance
    | _ => dsimp only [Content.typeName]; infer_instance
  · obtain ⟨o, o', label, handle, rfl, rfl, _⟩ := (Alike.mk found).handle
    infer_instance

/-! ### Connections -/

instance (function : String) (i : Nat) :
    Sim e w (portArgument function args i) (portArgument function args' i) := by
  refine .next fun v n => ?_
  split <;> infer_instance

instance (name : String) (work : Eventual Connection) (limit : Option Nat) (inBackground : Bool) :
    Sim e w (settle name work limit inBackground) (settle name work limit inBackground) := by
  unfold settle
  split
  · infer_instance
  · exact .next fun v ⟨result, u⟩ => .next fun v' connection => inferInstance

instance (i : Nat) : Sim e w (hasFunction args i) (hasFunction args' i) := by
  refine .andThen fun v ⟨content, content', same⟩ => ?_
  cases same <;> infer_instance

instance (port : Nat) : Sim e w (openPort port) (openPort port) := by
  refine .next fun v ports => ?_
  split
  · infer_instance
  · refine .next fun v' bound => .next fun v'' ports => ?_
    split <;> infer_instance

instance : Sim e w (listen args) (listen args') := by
  refine .next fun _ n => .next fun _ port => .next fun _ limit => .next fun _ incoming => .next
    fun _ ports =>
    .next fun _ background => ?_
  infer_instance

instance : Sim e w (connect args) (connect args') := by
  refine .next fun _ host => .next fun _ port => .next fun _ outgoing => .next fun _ limit =>
    .next fun _ background => ?_
  infer_instance

instance : Sim e w (close args) (close args') := by
  have number (v : Links) (c c' : CellRef) [Alike v c c'] : Sim e v
      (do
        let n ← Run.askHeap (·.cellInt c)
        let (listened, ports) := (← Run.ports).release ((portOf? n).getD 0)
        Run.changePorts ports
        HeapM.int (if listened then 1 else 0))
      (do
        let n ← Run.askHeap (·.cellInt c')
        let (listened, ports) := (← Run.ports).release ((portOf? n).getD 0)
        Run.changePorts ports
        HeapM.int (if listened then 1 else 0)) :=
    .next fun v' n => .next fun v'' ports => .andThen fun v₃ _ => inferInstance
  refine .andThen fun v target =>
    .option (fun v' => .andThen fun v'' ⟨content, content', same⟩ => ?_)
      fun v' ⟨x, y, found⟩ => ?_
  · cases same with
    | int | float => exact number v''.now _ _
    | _ => dsimp only [Content.typeName]; infer_instance
  · obtain ⟨o, o', label, handle, rfl, rfl, _⟩ := (Alike.mk found).handle
    infer_instance

end Handles

/-! ## Names, messages and reports -/

section Names

variable (args args' : List CellRef) [ha : Alike w args args']

instance (name : String) : Sim e w (freshCell name) (freshCell name) := by
  unfold freshCell
  split <;> infer_instance

instance : Sim e w (declaredNames args) (declaredNames args') := by
  have names (p : TwoHeaps e w) : Alike w (args.flatMap fun cell => Text.words (p.left.text cell))
      (args'.flatMap fun cell => Text.words (p.right.text cell)) := by
    have same :=
      ha.mapEq (f := fun cell => Text.words (p.left.text cell))
        (g := fun cell => Text.words (p.right.text cell))
        fun _ _ _ => congrArg Text.words (Alike.eq (w := w) inferInstance)
    rw [List.flatMap_def, List.flatMap_def, same]
    infer_instance
  exact inferInstanceAs (Sim e w (Run.askHeap _) (Run.askHeap _))

instance : Sim e w (declareLocals args) (declareLocals args') :=
  inferInstanceAs (Sim e w (_ >>= _) (_ >>= _))

instance : Sim e w (declareThis args) (declareThis args') := by
  refine .next fun _ names => .seq (sim_forIn_same _ _ _ fun _ name _ => ?_)
    fun _ _ => inferInstance
  refine .andThen fun _ cell => .andThen fun v scope => ?_
  have outside : scope.left.current.this.isNone = scope.right.current.this.isNone :=
    Alike.eq (w := v.now) inferInstance
  dsimp only
  rw [outside]
  split
  · exact .andThen fun _ _ => .andThen fun _ _ => inferInstance
  · exact .andThen fun _ _ => inferInstance

instance : Sim e w (debug args) (debug args') := by
  refine .next fun v flags => ?_
  obtain ⟨left, right⟩ | ⟨c, c', left, right, _⟩ :=
      (inferInstance : Alike v.now args.head? args'.head?).option <;>
    rw [left, right]
  · infer_instance
  · refine .next fun v' level => ?_
    have set (v : Links) : Sim e v
        (do
          Run.changeContext ({ · with flags := DebugFlags.ofLevel level.toNatClampNeg })
          Run.changeOwnScript fun s =>
            { s with config := { s.config with debug := DebugFlags.ofLevel level.toNatClampNeg } }
          HeapM.int (Int64.ofNat flags.level) : Run CellRef)
        (do
          Run.changeContext ({ · with flags := DebugFlags.ofLevel level.toNatClampNeg })
          Run.changeOwnScript fun s =>
            { s with config := { s.config with debug := DebugFlags.ofLevel level.toNatClampNeg } }
          HeapM.int (Int64.ofNat flags.level) : Run CellRef) :=
      .andThen fun _ _ => .andThen fun _ _ => inferInstance
    dsimp only
    split
    · exact .andThen fun v'' _ => set v''.now
    · exact set v'.now

instance : Sim e w (importClass args) (importClass args') := by
  have named (v : Links) (short full : String) (p : TwoMachines e v) : Machines e v
      { p.left with hosts := p.left.hosts.addAlias short full }
      { p.right with hosts := p.right.hosts.addAlias short full } :=
    { p.machines with
      hosts :=
        ⟨congrArg (·.addAlias short full) p.machines.hosts.sameRegistry, p.machines.hosts.rel.2⟩ }
  refine .next fun v full => ?_
  obtain ⟨left, right⟩ | ⟨c, c', left, right, _⟩ :=
      (inferInstance : Alike v.now args[1]? args'[1]?).option <;>
    rw [left, right]
  all_goals
    refine .next fun v' short => .andThen fun v'' found => ?_
    have := named v''.now
    dsimp only
    infer_instance

instance : Sim e w (typeOf args) (typeOf args') := by
  refine .andThen fun v ⟨content, content', same⟩ => ?_
  cases same <;> dsimp only [Content.typeName] <;> infer_instance

instance : Sim e w profile profile := by
  refine .andThen fun v s => ?_
  have profiler : s.left.profiler = s.right.profiler := Alike.eq (w := v.now) inferInstance
  dsimp only
  rw [profiler]
  infer_instance

instance : Sim e w stackTrace stackTrace := by
  refine .next fun v frames => ?_
  dsimp only
  infer_instance

end Names

/-! ## The library -/

section Library

variable (self : Reentry) [Mirrors e self] (args args' : List CellRef) [ha : Alike w args args']

instance : Sim e w (invoke self args) (invoke self args') := by
  refine .andThen fun v target => .andThen fun v' ⟨content, content', same⟩ => ?_
  obtain ⟨left, right⟩ | ⟨c, c', left, right, _⟩ :=
      (inferInstance : Alike v'.now args[2]? args'[2]?).option <;>
    rw [left, right] <;> cases same <;> infer_instance

instance sim_library (f : LibraryFunction) : Sim e w (call self args f) (call self args' f) := by
  cases f <;> unfold call <;> infer_instance

instance (className text : String) :
    Alike w (Fault.stated? className text) (Fault.stated? className text) := by
  unfold Fault.stated?
  split <;> infer_instance

instance sim_probe (p : Probe) : Sim e w (probe args p) (probe args' p) := by
  cases p with
  | slurp =>
    refine .option (fun v => inferInstanceAs (Sim e v.now nothing nothing))
      fun v ⟨x, y, found⟩ => ?_
    obtain ⟨o, o', label, handle, rfl, rfl, _⟩ := (Alike.mk found).handle
    infer_instance
  | callable =>
    refine .andThen fun v ⟨content, content', same⟩ => ?_
    cases same <;> infer_instance
  | location =>
    refine .andThen fun v ⟨c, c', same⟩ => .next fun v' active => ?_
    have context : Alike v.now c c' := ⟨same⟩
    have source : c.currentSource = c'.currentSource := Alike.eq (w := v.now) inferInstance
    have line : c.line = c'.line := Alike.eq (w := v.now) inferInstance
    have depth : c.frameDepth = c'.frameDepth := Alike.eq (w := v.now) inferInstance
    have handler : c.hasHandler = c'.hasHandler := Alike.eq (w := v.now) inferInstance
    dsimp only
    rw [source, line, depth, handler]
    infer_instance
  | fault | buffer | first => unfold probe; infer_instance

end Library

end CellScript.Mirror
