import CellScript.Proofs.Eval.Call

/-!
# Expressions are tidy

What a step computes between taking its operands and pushing its result leaves the context as it
was. Blocks of expressions are evaluated in a frame of their own, which is taken away however they
end.

## Main statements

* `tidy_intoFrame` — blocks of expressions.
* `agrees_check` — conditions; those of `foreach` loops move the innermost iterator on.
-/

namespace CellScript.Eval

open Run (Tidy Agrees)

variable {lax : Prop} {s s' : Reentry} {m : Machine}

/-! ## Blocks of expressions -/

/-- A block of an expression has ended for good, and the frame it was given goes. -/
theorem leaves_framed {b : Block} {r : Except Fault Flow} {m m' : Machine}
    (ended : b.Ended none { m with context := m.context.createFrame } m.context.iterators 0 r m')
    (final : Flow.isFinal r) :
    m.Leaves [] { m' with
      context := (m'.context.truncateFrames m.context.createFrame.frameDepth).killFrame.2 } := by
  obtain ⟨scope, iterators⟩ := Block.Ended.fresh ended final
  have tail : m'.context.stack.tail = m.context.stack := ended.level
  have whole :
      (m'.context.truncateFrames m.context.createFrame.frameDepth).stack = m'.context.stack := by
    rw [Context.stack_truncateFrames _ (by simp [Context.frameDepth])]
    have depth := ended.level.frameDepth
    simp only [truncateStack, Context.stack_length] at depth ⊢
    simp [depth]
  refine ⟨ended.ends.sound.of_code rfl, .around ended.ends.grows rfl rfl, ended.ends.rigid,
    ?_, scope, iterators⟩
  exact Context.stack_killFrame_of_tail (congrArg List.tail whole |>.trans tail)

theorem tidy_intoFrame [Reentry.Agree lax s s'] {b : Block} (hb : b.isExpression) :
    Tidy lax (intoFrame s b) (intoFrame s' b) where
  agrees m hm := by
    obtain ⟨operands, balanced⟩ := (Block.isExpression_iff b).mp hb
    refine .bind (.changeContext (.bind (.askContext ?_)))
    refine .attemptThen (Reentry.Agree.fresh balanced (hm.of_code rfl)) fun r m₁ ended => ?_
    refine .bind (.changeContext (.bind (.killFrame ?_)))
    have plain := ended.plain operands
    match r with
    | .error f => exact .fail ⟨[], leaves_framed ended rfl⟩
    | .ok .normal => exact .pure (leaves_framed ended rfl)
    | .ok (.throw value) => exact .fail ⟨[], leaves_framed ended rfl⟩
    | .ok (.return _) | .ok .break | .ok .continue | .ok (.yield _ _) | .ok (.callcc _ _) =>
      cases plain

/-! ## Variables -/

/-- A function that is no closure. -/
instance (name : String) (script : ScriptRef) :
    Tidy lax (liftM (HeapM.newFunction (.named name script)) : Run _)
    (liftM (HeapM.newFunction (.named name script))) where
  agrees m hm := by
    exact .inr ⟨rfl, hm.newFunction nofun, .newFunction m _, rfl, rfl, rfl, rfl⟩

instance (name : String) : Tidy lax (functionValue name) (functionValue name) := by
  unfold functionValue
  refine .andThen fun script => .andThen fun own => ?_
  dsimp only
  split
  · split <;> infer_instance
  · infer_instance

instance (name : String) : Tidy lax (variableCell name) (variableCell name) := by
  unfold variableCell
  split
  · infer_instance
  · refine .andThen fun cell? => ?_
    cases cell? <;> infer_instance

/-! ## Assignment -/

theorem tidy_targetCell [Reentry.Agree lax s s'] {target : Block} (h : target.isExpression) :
    Tidy lax (targetCell s target) (targetCell s' target) := by
  have : Tidy lax (intoFrame s target) (intoFrame s' target) := tidy_intoFrame h
  refine .andThen fun operands => ?_
  split <;> infer_instance

theorem tidy_storeAll [Reentry.Agree lax s s'] (op : Option String) (values : List CellRef)
    {targets : List Block} (h : areExpressions targets) :
    Tidy lax (storeAll s op targets (values.map pure))
      (storeAll s' op targets (values.map pure)) := by
  induction targets generalizing values with
  | nil =>
    unfold storeAll
    infer_instance
  | cons target rest ih =>
    simp only [areExpressions, Bool.and_eq_true] at h
    unfold storeAll
    have : Tidy lax (targetCell s target) (targetCell s' target) :=
      tidy_targetCell ((Block.isExpression_iff target).mpr h.1)
    cases values with
    | nil =>
      simp only [List.map_nil, List.headD_nil, List.tail_nil]
      exact .andThen fun value => .andThen fun cell => .andThen fun _ => ih [] h.2
    | cons value values =>
      simp only [List.map_cons, List.headD_cons, List.tail_cons]
      exact .andThen fun value => .andThen fun cell => .andThen fun _ => ih values h.2

/-! ## Definitions -/

/-- A closure with a balanced body is a sound one while it has not been called. -/
theorem tidy_newClosure {body : Block} (hb : body.isBalanced) (name : Option String) (site : Nat) :
    Tidy lax (newClosure body name site) (newClosure body name site) := by
  refine .andThen fun c => .andThen fun this => ⟨fun m hm => .inr ⟨rfl, ?_⟩⟩
  have sound :
      ∀ made : Closure, Callable.closure ⟨c.script, body, this, c.currentSource, name, site, none⟩ =
      .closure made → made.Sound := by
    rintro _ ⟨⟩
    exact ⟨hb, fun _ => nofun⟩
  exact ⟨hm.newFunction sound, .newFunction m _, rfl, rfl, rfl, rfl⟩

/-- Changing the functions of the current script. -/
theorem tidy_define (f : Dictionary Function → Dictionary Function) :
    Tidy lax
      (Run.changeOwnScript fun s =>
        { s with environment := { s.environment with functions := f s.environment.functions } })
      (Run.changeOwnScript fun s =>
        { s with environment := { s.environment with functions := f s.environment.functions } }) :=
  .andThen fun s => ⟨fun m hm => .inr ⟨rfl, hm.changeScript s _ fun _ h => ⟨h.main, h.inlines⟩,
    .changeScript m s _, rfl, rfl, rfl, rfl⟩⟩

/-- A new inline block of the current script. -/
theorem tidy_defineInline (name : String) {body : Block} (hb : body.isBalanced) :
    Tidy lax
      (Run.changeOwnScript fun s =>
        { s with
          environment := { s.environment with inlines := s.environment.inlines.insert name body } })
      (Run.changeOwnScript fun s =>
        { s with
          environment :=
            { s.environment with inlines := s.environment.inlines.insert name body } }) := by
  refine .andThen fun s =>
    ⟨fun m hm => .inr ⟨rfl, hm.changeScript s _ fun script h => ⟨h.main, fun other b found => ?_⟩,
      .changeScript m s _, rfl, rfl, rfl, rfl⟩⟩
  by_cases same : other = name
  · subst same
    rw [Dictionary.get?_insert_self] at found
    exact Option.some_inj.mp found ▸ hb
  · rw [Dictionary.get?_insert_of_ne _ (Ne.symm same)] at found
    exact h.inlines other b found

theorem tidy_bind (name : String) {body : Block} (hb : body.isBalanced) (isInline : Bool)
    (site : Nat) :
    Tidy lax (bind name body isInline site) (bind name body isInline site) := by
  unfold bind
  split
  · exact tidy_defineInline name hb
  · refine .andThen fun script => .andThen fun own => .andThen fun known => ?_
    split
    · exact .seq (tidy_newClosure hb (some name) site) fun closure =>
        tidy_define (·.insert name (.bound closure))
    · infer_instance

/-! ## Conditions -/

theorem tidy_checkPredicate [Reentry.Agree lax s s'] {setup : Block} (h : setup.isExpression)
    (name : String) (negated : Bool) :
    Tidy lax (checkPredicate s setup name negated) (checkPredicate s' setup name negated) := by
  have : Tidy lax (intoFrame s setup) (intoFrame s' setup) := tidy_intoFrame h
  refine .andThen fun args => ?_
  split
  · infer_instance
  · rename_i predicate _
    refine .andThen fun flags => ?_
    dsimp only
    split
    all_goals
      refine .andThen fun described => ?_
      cases described <;> infer_instance

instance [Reentry.Agree lax s s'] (state : IterState) :
    Tidy lax (nextItem s state) (nextItem s' state) := by
  unfold nextItem
  split
  · refine .andThen fun cell? => ?_
    cases cell? <;> infer_instance
  · refine .andThen fun found => ?_
    cases found <;> infer_instance
  · infer_instance
  · infer_instance

/-- Advancing the innermost iterator. -/
theorem agrees_iterNext [Reentry.Agree lax s s'] {k : Nat} (hm : m.Sound) (hk : 0 < k) :
    Agrees lax (iterNext s) (iterNext s') (m.Asked k) m := by
  refine .bind (.askContext ?_)
  dsimp only
  split
  · exact .fail ⟨[], (Machine.Leaves.refl hm).advances k⟩
  · rename_i state _
    refine .andThen (Tidy.agrees m hm) (fun item m₁ h₁ => ?_) fun f m₁ h₁ => Machine.Left.asked h₁ k
    cases item with
    | none => exact .pure (h₁.advances k)
    | some item =>
      obtain ⟨key, value, advance⟩ := item
      refine .bind (.askContext ?_)
      dsimp only
      split
      · exact .pure (h₁.advances k)
      · rename_i top rest eq
        refine .bind (.changeContext ?_)
        have moved : m.Advances k []
            (m₁.withIterators ({ top with position := top.position + advance } :: rest)) := by
          obtain ⟨n, rfl⟩ := Nat.exists_eq_succ_of_ne_zero (Nat.pos_iff_ne_zero.mp hk)
          have whole : m.context.iterators = top :: rest := h₁.iterators.symm.trans eq
          refine ⟨{ top with position := top.position + advance } :: rest.take n, ?_,
            h₁.sound.of_code rfl, .around h₁.grows rfl rfl, h₁.rigid, h₁.stack, h₁.scope, ?_⟩
          · simp only [whole, List.take_succ_cons, List.map_cons, IterState.loop]
          · simp only [Machine.withIterators, whole, List.drop_succ_cons, List.nil_append,
              List.cons_append, List.take_append_drop]
        have sound :
            (m₁.withIterators ({ top with position := top.position + advance } :: rest)).Sound :=
          h₁.sound.of_code rfl
        rcases top with ⟨_ | name, target, source, position⟩ <;> dsimp only
        · exact (Tidy.agrees _ sound).mono fun r m' left => .after moved (left.asked k)
        · exact (Tidy.agrees _ sound).mono fun r m' left => .after moved (left.asked k)

mutual

/-- Asking a condition moves no iterators on but those of the loops around. -/
theorem agrees_check [Reentry.Agree lax s s'] {k : Nat} :
    ∀ (c : Check) {m : Machine}, c.isSound k → m.Sound →
    Agrees lax (check s c) (check s' c) (m.Asked k) m
  | .always, m, _, hm => .pure ((Machine.Leaves.refl hm).advances k)
  | .iterNext, m, hc, hm => agrees_iterNext hm (by simpa [Check.isSound] using hc)
  | .predicate setup name negated, m, hc, hm => by
    have expression : setup.isExpression := by simpa [Check.isSound, Block.isExpression] using hc
    exact ((tidy_checkPredicate expression name negated).agrees m hm).mono fun _ _ h => h.asked k
  | .and parts, m, hc, hm => by
    simp only [check]
    exact agrees_checkAll parts (by simpa [Check.isSound] using hc) hm
  | .or parts, m, hc, hm => by
    simp only [check]
    exact agrees_checkAny parts (by simpa [Check.isSound] using hc) hm

theorem agrees_checkAll [Reentry.Agree lax s s'] {k : Nat} :
    ∀ (parts : List Check) {m : Machine}, areSound k parts → m.Sound →
      Agrees lax (checkAll s parts) (checkAll s' parts) (m.Asked k) m
  | [], m, _, hm => by
    simp only [checkAll]
    exact .pure ((Machine.Leaves.refl hm).advances k)
  | part :: rest, m, hc, hm => by
    simp only [areSound, Bool.and_eq_true] at hc
    simp only [checkAll]
    refine .andThen (agrees_check part hc.1 hm) (fun verdict m₁ h₁ => ?_) fun _ _ h => h
    split
    · exact (agrees_checkAll rest hc.2 h₁.sound).mono fun _ _ => .after h₁
    · exact .pure h₁

theorem agrees_checkAny [Reentry.Agree lax s s'] {k : Nat} :
    ∀ (parts : List Check) {m : Machine}, areSound k parts → m.Sound →
      Agrees lax (checkAny s parts) (checkAny s' parts) (m.Asked k) m
  | [], m, _, hm => by
    simp only [checkAny]
    exact .pure ((Machine.Leaves.refl hm).advances k)
  | part :: rest, m, hc, hm => by
    simp only [areSound, Bool.and_eq_true] at hc
    simp only [checkAny]
    refine .andThen (agrees_check part hc.1 hm) (fun verdict m₁ h₁ => ?_) fun _ _ h => h
    split
    · exact .pure h₁
    · exact (agrees_checkAny rest hc.2 h₁.sound).mono fun _ _ => .after h₁

end

/-! ## Host objects -/

instance [Reentry.Agree lax s s'] (receiver : CellRef) (member : Option String)
    (args : List CellRef) :
    Tidy lax (send s receiver member args) (send s' receiver member args) := by
  unfold send
  refine .andThen fun content => ?_
  split
  · infer_instance
  · infer_instance
  · cases member <;> infer_instance

/-! ## Steps without a flow -/

/-- A step that has no flow of its own comes to a shape, or fails. -/
def Goes (m₀ : Machine) (outer : List IterState) (slack : Nat) (t : Shape) : Run.Post Flow
  | .ok .normal, m => m₀.At outer slack t m
  | .ok _, _ => False
  | .error _, m => m₀.Torn outer slack m

variable {m₀ : Machine} {outer : List IterState} {slack : Nat} {σ τ : Shape}

theorem agrees_thenNormal {x y : Run Unit} (h : Agrees lax x y (m₀.Comes outer slack τ) m) :
    Agrees lax (thenNormal x) (thenNormal y) (Goes m₀ outer slack τ) m :=
  .andThen h (fun _ _ h => .pure h) fun _ _ h => h

/-- Pushing the result of a tidy computation. -/
theorem agrees_pushResult {x y : Run CellRef} [Tidy lax x y] (h : m₀.At outer slack σ m) :
    Agrees lax (x >>= Run.push) (y >>= Run.push) (m₀.Comes outer slack σ) m :=
  .tidyThen h fun _ _ h => Run.agrees_push h

/-- Taking the operands of a step, and their frame. -/
theorem agrees_takeOperands {x y : List CellRef → Run Unit} (hs : σ.collapse = some τ)
    (h : m₀.At outer slack σ m)
    (next : ∀ args m', m₀.At outer slack τ m' →
      Agrees lax (x args) (y args) (m₀.Comes outer slack τ) m') :
    Agrees lax (Run.killFrame >>= x) (Run.killFrame >>= y) (m₀.Comes outer slack τ) m := by
  obtain rfl := Shape.eq_of_collapse hs
  exact .killThen h next

/-- Taking the value of an assignment or of a `foreach` loop, and its frame. -/
theorem agrees_takeOperand {x y : CellRef → Run Unit} (hs : σ.collapse = some τ)
    (h : m₀.At outer slack σ m)
    (next : ∀ value m', m₀.At outer slack τ m' →
      Agrees lax (x value) (y value) (m₀.Comes outer slack τ') m') :
    Agrees lax (do
      let value ← Run.pop
      let _ ← Run.killFrame
      x value) (do
      let value ← Run.pop
      let _ ← Run.killFrame
      y value) (m₀.Comes outer slack τ') m := by
  obtain rfl := Shape.eq_of_collapse hs
  exact .andThen (Run.agrees_pop h)
    (fun value m₁ h₁ => .killThen h₁ fun _ m₂ h₂ => next value m₂ h₂) fun _ _ h => h

theorem agrees_assign [Reentry.Agree lax s s'] {target : Block} (ht : target.isExpression)
    (op : Option String) (hs : σ.collapse = some τ) (h : m₀.At outer slack σ m) :
    Agrees lax (assign s target op) (assign s' target op) (m₀.Comes outer slack τ) m := by
  have : Tidy lax (targetCell s target) (targetCell s' target) := tidy_targetCell ht
  exact agrees_takeOperand hs h fun value m₁ h₁ => .tidyThen h₁ fun cell m₂ h₂ =>
    .tidyThen h₂ fun _ m₃ h₃ =>
      Run.agrees_push h₃

theorem agrees_assignMulti [Reentry.Agree lax s s'] {targets : List Block}
    (ht : areExpressions targets) (op : Option String) (hs : σ.collapse = some τ)
    (h : m₀.At outer slack σ m) :
    Agrees lax (assignMulti s targets op) (assignMulti s' targets op) (m₀.Comes outer slack τ)
      m := by
  have stored (values : List CellRef) : Tidy lax (storeAll s op targets (values.map pure))
      (storeAll s' op targets (values.map pure)) := tidy_storeAll op values ht
  refine agrees_takeOperand hs h fun source m₁ h₁ => .tidyThen h₁ fun content m₂ h₂ => ?_
  split
  all_goals exact .tidyThen h₂ fun values m₃ h₃ => .tidyThen h₃ fun _ m₄ h₄ => Run.agrees_push h₄

theorem agrees_index [Reentry.Agree lax s s'] (hs : σ.collapse = some τ)
    (h : m₀.At outer slack σ m) :
    Agrees lax (index s) (index s') (m₀.Comes outer slack τ) m :=
  agrees_takeOperands hs h fun _ _ h₁ => .tidyThen h₁ fun _ _ h₂ => .tidyThen h₂
    fun _ _ h₃ => agrees_pushResult h₃

theorem agrees_call [Reentry.Agree lax s s'] (name : String) (hs : σ.collapse = some τ)
    (h : m₀.At outer slack σ m) :
    Agrees lax (call s name) (call s' name) (m₀.Comes outer slack τ) m := by
  refine agrees_takeOperands hs h fun args m₁ h₁ => ?_
  refine .tidyThen h₁ fun result m₂ h₂ => .tidyThen h₂ fun script m₃ h₃ => ?_
  dsimp only
  split
  · split
    · exact agrees_pushResult h₃
    · exact agrees_pushResult h₃
  · rw [if_pos rfl]
    exact agrees_pushResult h₃

theorem agrees_objectNew [Reentry.Agree lax s s'] (className : String) (hs : σ.collapse = some τ)
    (h : m₀.At outer slack σ m) :
    Agrees lax (objectNew s className) (objectNew s' className) (m₀.Comes outer slack τ) m :=
  agrees_takeOperands hs h fun _ _ h₁ => .tidyThen h₁ fun _ _ h₂ => agrees_pushResult h₂

theorem agrees_objectAccess [Reentry.Agree lax s s'] (member className : Option String)
    (hs : σ.collapse = some τ) (h : m₀.At outer slack σ m) :
    Agrees lax (objectAccess s member className) (objectAccess s' member className)
      (m₀.Comes outer slack τ) m := by
  refine agrees_takeOperands hs h fun args m₁ h₁ => ?_
  split
  all_goals exact .tidyThen h₁ fun result m₂ h₂ => agrees_pushResult h₂

theorem agrees_iterCreate (key : Option String) (value : String) (hs : σ.collapse = some τ)
    (h : m₀.At outer slack σ m) :
    Agrees lax (iterCreate key value) (iterCreate key value)
      (m₀.Comes outer slack { τ with iterators := τ.iterators + 1 }) m := by
  have pushed : ∀ {m : Machine} (it : IterState), m₀.At outer slack τ m →
      Agrees lax (Run.changeContext fun c => { c with iterators := it :: c.iterators })
        (Run.changeContext fun c => { c with iterators := it :: c.iterators })
        (m₀.Comes outer slack { τ with iterators := τ.iterators + 1 }) m :=
          fun it h => .changeContext h.pushIterator
  refine agrees_takeOperand hs h fun source m₁ h₁ => .tidyThen h₁ fun content m₂ h₂ => ?_
  split
  · exact pushed _ h₂
  · exact .tidyThen h₂ fun keys m₃ h₃ => pushed _ h₃
  · exact pushed _ h₂
  · exact pushed _ h₂
  · exact .bind (.fail h₂.torn)

theorem agrees_simple [Reentry.Agree lax s s'] (i : Instruction) (simple : i.isSimple)
    (hi : i.shape? σ = some τ) (resume : Option Cursor) (h : m₀.At outer slack σ m) :
    Agrees lax (step s resume i) (step s' resume i) (Goes m₀ outer slack τ) m := by
  cases i with
  | createFrame =>
    obtain rfl := Option.some_inj.mp hi
    exact agrees_thenNormal (.changeContext h.createFrame)
  | literal value | get name =>
    obtain rfl := Option.some_inj.mp hi
    exact agrees_thenNormal (agrees_pushResult h)
  | interpolate fragments =>
    obtain rfl := Option.some_inj.mp hi
    exact agrees_thenNormal (.tidyThen h fun _ _ h => .tidyThen h fun _ _ h => agrees_pushResult h)
  | operate op =>
    exact agrees_thenNormal (agrees_takeOperands hi h fun args m₁ h₁ => agrees_pushResult h₁)
  | index => exact agrees_thenNormal (agrees_index hi h)
  | objectNew className => exact agrees_thenNormal (agrees_objectNew className hi h)
  | assign target op =>
    simp only [Instruction.shape?, Option.ite_none_right_eq_some, Bool.and_eq_true] at hi
    exact agrees_thenNormal (agrees_assign ((Block.isExpression_iff target).mpr hi.1) op hi.2 h)
  | assignMulti targets op =>
    simp only [Instruction.shape?, Option.ite_none_right_eq_some] at hi
    exact agrees_thenNormal (agrees_assignMulti hi.1 op hi.2 h)
  | call function => exact agrees_thenNormal (agrees_call function hi h)
  | objectAccess member className =>
    exact agrees_thenNormal (agrees_objectAccess member className hi h)
  | closure body =>
    simp only [Instruction.shape?, Option.ite_none_right_eq_some, Option.some.injEq] at hi
    obtain ⟨balanced, rfl⟩ := hi
    have : Tidy lax (newClosure body none 0) (newClosure body none 0) :=
      tidy_newClosure balanced none 0
    exact agrees_thenNormal (.tidyThen h fun _ _ h => agrees_pushResult h)
  | bind name body isInline site =>
    simp only [Instruction.shape?, Option.ite_none_right_eq_some, Option.some.injEq] at hi
    obtain ⟨balanced, rfl⟩ := hi
    have tidy : Tidy lax (Eval.bind name body isInline site) (Eval.bind name body isInline site) :=
      tidy_bind name balanced isInline site
    exact agrees_thenNormal ((tidy.agrees m h.sound).mono fun _ _ => h.comes)
  | iterCreate key value =>
    simp only [Instruction.shape?, Option.map_eq_some_iff] at hi
    obtain ⟨_, collapsed, rfl⟩ := hi
    exact agrees_thenNormal (agrees_iterCreate key value collapsed h)
  | iterDestroy =>
    simp only [Instruction.shape?, Option.ite_none_right_eq_some, Option.some.injEq] at hi
    obtain ⟨positive, rfl⟩ := hi
    exact agrees_thenNormal (.changeContext (h.popIterator positive))
  | decide _ _ _ | loop _ _ _ | «try» _ _ _ | flow _ _ => cases simple

end CellScript.Eval
