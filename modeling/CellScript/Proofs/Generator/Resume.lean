import CellScript.Proofs.Eval.Plain
import CellScript.Proofs.Generator.Inline

/-!
# Driving a body

Calling a body that is suspended again and again comes to what it comes to when it is run once.

## Main statements

* `drives_decide`, `drives_loop`, `drives_try` — compound steps.
* `inlines_inlined` — bodies.
-/

namespace CellScript.Eval

variable {s : Reentry} {b : Block} {m e : Machine} {k : Consumer} {line : UInt32} {n : Nat}
  {y : Option Cursor → Run Flow} {p q : Except Stop Flow × Machine}

/-! ## Conditions -/

section Conditions

variable {evaluate : Block → Option Cursor → Run Flow}

theorem intoFrame_eq (same : evaluate b none = s.block b none) :
    intoFrame { s with block := evaluate } b = intoFrame s b := by
  simp only [intoFrame, same]

mutual

/-- Conditions ask expressions only. -/
theorem check_eq (same : ∀ b : Block, b.hasOperandsOnly → evaluate b none = s.block b none) :
    ∀ c : Check, c.isSound 0 → check { s with block := evaluate } c = check s c
  | .always, _ => rfl
  | .iterNext, h => by simp [Check.isSound] at h
  | .predicate setup name negated, h => by
    simp only [Check.isSound, Bool.and_eq_true] at h
    simp only [check, checkPredicate, intoFrame_eq (same setup h.1)]
  | .and parts, h => by
    simp only [check]
    exact checkAll_eq same parts (by simpa [Check.isSound] using h)
  | .or parts, h => by
    simp only [check]
    exact checkAny_eq same parts (by simpa [Check.isSound] using h)

theorem checkAll_eq (same : ∀ b : Block, b.hasOperandsOnly → evaluate b none = s.block b none) :
    ∀ parts : List Check, areSound 0 parts →
    checkAll { s with block := evaluate } parts = checkAll s parts
  | [], _ => by simp only [checkAll]
  | part :: rest, h => by
    simp only [areSound, Bool.and_eq_true] at h
    simp only [checkAll, check_eq same part h.1, checkAll_eq same rest h.2]

theorem checkAny_eq (same : ∀ b : Block, b.hasOperandsOnly → evaluate b none = s.block b none) :
    ∀ parts : List Check, areSound 0 parts →
    checkAny { s with block := evaluate } parts = checkAny s parts
  | [], _ => by simp only [checkAny]
  | part :: rest, h => by
    simp only [areSound, Bool.and_eq_true] at h
    simp only [checkAny, check_eq same part h.1, checkAny_eq same rest h.2]

end

end Conditions

/-! ## Branches -/

/-- Nothing goes on after an evaluation that is out of fuel. -/
theorem not_dry {α : Type} {f : Except Fault Flow → Run α}
    (h : (proceed f p).1 ≠ .error .exhausted) :
    p.1 ≠ .error .exhausted := by
  obtain ⟨r, m⟩ := p
  rintro rfl
  exact h rfl

/-- A branch of a step is driven by driving the step, which goes on in the branch it was suspended
in. -/
theorem drives_branch {f : Except Fault Flow → Run Flow} [Reentry.Agree False s s]
    (hb : b.isBalanced) (free : b.isIterFree) (deep : 1 < e.context.frameDepth)
    (again : ∀ first rest m, y (some (n :: first :: rest)) m =
      proceed f (s.block b (some (first :: rest)) m))
    (yields : ∀ value cursor m, f (.ok (.yield value cursor)) m =
      (.ok (.yield value (n :: cursor)), m))
    (ends : ∀ r m, (∀ value cursor, r ≠ .ok (.yield value cursor)) →
      ∀ value cursor, (f r m).1 ≠ .ok (.yield value cursor))
    (h : Drives k line (s.block b) p q) (hp : Reached (s.block b) (b.opens? · = some 0) e p) :
    Drives k line y (proceed f p) (proceed f q) := by
  refine h.through (F := (· = f)) (suspendable_block hb free) deep hp rfl ?_ ?_
  · rintro _ value cursor m rfl - here
    obtain ⟨first, rest, rfl⟩ := Block.exists_cons_of_opens? here
    exact ⟨_, _, yields value _ m, _, rfl, again first rest _⟩
  · rintro _ rfl - final
    refine .ended ?_
    match q, final with
    | (.ok flow, m), final =>
      exact ends _ m fun value cursor eq => final value cursor (by rw [Except.ok.inj eq])
    | (.error (.fault e), m), _ => exact ends _ m nofun
    | (.error .exhausted, m), _ => exact nofun

/-- The flow of a branch as the flow of its step. -/
def passOn (n : Nat) (r : Except Fault Flow) : Run Flow := do
  return (← Run.settle r).through n

theorem passOn_run (n : Nat) (x : Run Flow) (m : Machine) :
    (do return (← x).through n : Run Flow) m = proceed (passOn n) (x m) := by
  rw [Run.bind_run]
  rcases x m with ⟨(_ | _) | _, _⟩ <;> rfl

theorem passOn_ends (n : Nat) (r : Except Fault Flow) (m : Machine)
    (final : ∀ value cursor, r ≠ .ok (.yield value cursor)) (value : CellRef) (cursor : Cursor) :
    (passOn n r m).1 ≠ .ok (.yield value cursor) := by
  match r, final with
  | .ok (.yield value cursor), final => exact absurd rfl (final value cursor)
  | .error _, _ | .ok .normal, _ | .ok .break, _ | .ok .continue, _ | .ok (.return _), _
  | .ok (.throw _), _
  | .ok (.callcc _ _), _ => exact nofun

/-- The blocks of a body that is run once, under the evaluator of everything else. -/
abbrev inlining (s : Reentry) (once : UInt32 → Block → Run Flow) (line : UInt32) : Reentry :=
  { s with block := fun b _ => once line b }

/-- Driving the blocks of a body comes to what they come to when they are run once. -/
structure Inlines (k : Consumer) (s : Reentry) (once : UInt32 → Block → Run Flow) : Prop where
  operands : ∀ line b, b.hasOperandsOnly → once line b = s.block b none
  drives : ∀ line b m, b.isBalanced → b.isIterFree → m.Sound → 1 < m.context.frameDepth →
    (once line b m).1 ≠ .error .exhausted →
    Drives k line (s.block b) (s.block b none m) (once line b m)

/-- The branch that a condition has decided for. -/
def decided (self : Reentry) (onTrue : Block) (onFalse : Option Block) : Bool → Run Flow
  | true => do return (← self.block onTrue none).through 0
  | false =>
    match onFalse with
    | some onFalse => do return (← self.block onFalse none).through 1
    | none => return .normal

section Compound

variable [Reentry.Agree False s s] {once : UInt32 → Block → Run Flow} {c : Check}
  {onTrue body handler : Block} {onFalse increment : Option Block} {var : String}

theorem branch_start (self : Reentry) (m : Machine) :
    branch self c onTrue onFalse none m = (check self c >>= decided self onTrue onFalse) m := by
  have asked :
      branch self c onTrue onFalse none = (check self c >>= decided self onTrue onFalse) := by
    simp only [branch, splitBranch, pure_bind]
    congr
    funext verdict
    cases verdict
    · cases onFalse <;> rfl
    · rfl
  rw [asked]

/-- A branch is driven by driving what is decided. -/
theorem drives_decide (hs : Inlines k s once) (hc : c.isSound 0) (ht : onTrue.isBalanced)
    (hf : isBalanced? onFalse) (free : (Instruction.decide c onTrue onFalse).isIterFree)
    (hm : m.Sound) (deep : 1 < m.context.frameDepth)
    (ends : (branch (inlining s once m.context.line) c onTrue onFalse none m).1 ≠
      .error .exhausted) :
    Drives k m.context.line (branch s c onTrue onFalse ·) (branch s c onTrue onFalse none m)
      (branch (inlining s once m.context.line) c onTrue onFalse none m) := by
  have same : check (inlining s once m.context.line) c = check s c :=
    check_eq (hs.operands m.context.line) c hc
  rw [branch_start, same] at ends
  rw [branch_start, branch_start, same]
  rw [Run.bind_run] at ends ⊢
  rw [Run.bind_run]
  have agrees : Run.Agrees False (check s c) (check s c) (m.Asked 0) m := agrees_check c hc hm
  have asked := (agrees.resolve_left fun h => h.1).2
  rcases hp : check s c m with ⟨stop | verdict, m₁⟩
  · exact .failed
  · rw [hp] at asked ends
    have kept : m.Kept True m₁ := .of_advances asked
    have deep' : 1 < m₁.context.frameDepth := by
      rw [kept.level.frameDepth]
      exact deep
    have into {b : Block} (n : Nat) (hb : (Instruction.decide c onTrue onFalse).branch? n = some b)
        (balanced : b.isBalanced)
        (again : ∀ first rest m, branch s c onTrue onFalse (some (n :: first :: rest)) m =
          proceed (passOn n) (s.block b (some (first :: rest)) m))
        (ends : (proceed (passOn n) (once m.context.line b m₁)).1 ≠ .error .exhausted) :
        Drives k m.context.line (branch s c onTrue onFalse ·)
          (proceed (passOn n) (s.block b none m₁))
          (proceed (passOn n) (once m.context.line b m₁)) := by
      have free' := Instruction.isIterFree_branch free hb
      refine drives_branch balanced free' deep' again (fun _ _ _ => rfl) (passOn_ends n)
        ?_ (.first kept.sound)
      exact hs.drives _ b m₁ balanced free' kept.sound deep' (not_dry ends)
    cases verdict with
    | true =>
      change (decided _ onTrue onFalse true m₁).1 ≠ _ at ends
      change Drives k _ _ (decided _ onTrue onFalse true m₁) (decided _ onTrue onFalse true m₁)
      simp only [decided, passOn_run] at ends ⊢
      exact into 0 rfl ht (fun _ _ _ => passOn_run _ _ _) ends
    | false =>
      cases onFalse with
      | none => exact .normal
      | some onFalse =>
        change (decided _ onTrue (some onFalse) false m₁).1 ≠ _ at ends
        change Drives k _ _ (decided _ onTrue (some onFalse) false m₁)
          (decided _ onTrue (some onFalse) false m₁)
        simp only [decided, passOn_run] at ends ⊢
        exact into 1 rfl hf (fun _ _ _ => passOn_run _ _ _) ends

/-! ## Handlers -/

/-- What is done at the end of a handler. -/
def handlerEnd (r : Except Fault Flow) : Run Flow := do
  unless !Flow.isFinal r do
    Run.changeContext fun c => { c with scope := c.scope.popLocal }
  passOn 1 r

theorem runHandler_run (self : Reentry) (resume : Option Cursor) (m : Machine) :
    runHandler self handler resume m = proceed handlerEnd (self.block handler resume m) := by
  rw [← attempt_bind_run]
  rw [runHandler, Run.bind_run, Run.bind_run]
  rcases Run.attempt (self.block handler resume) m with ⟨_ | r, m'⟩
  · rfl
  · rcases r with _ | flow
    · rfl
    · cases flow <;> rfl

theorem handlerEnd_ends (r : Except Fault Flow) (m : Machine)
    (final : ∀ value cursor, r ≠ .ok (.yield value cursor)) (value : CellRef) (cursor : Cursor) :
    (handlerEnd r m).1 ≠ .ok (.yield value cursor) := by
  match r, final with
  | .ok (.yield value cursor), final => exact absurd rfl (final value cursor)
  | .error _, _ | .ok .normal, _ | .ok .break, _ | .ok .continue, _ | .ok (.return _), _
  | .ok (.throw _), _
  | .ok (.callcc _ _), _ => exact nofun

theorem tryBody_run (self : Reentry) (inner : Option Cursor) (m : Machine) :
    tryBody self body handler var inner m =
      proceed (bodyEnd self handler var m.context.handlers.length)
        (self.block body inner (handled var m)) := by
  rw [← attempt_bind_run]
  exact tryBody_eq self inner m

theorem settleBody_of_not_thrown (self : Reentry) {r : Except Fault Flow}
    (h : ∀ value, r ≠ .ok (.throw value)) :
    settleBody self handler var r = passOn 0 r := by
  match r, h with
  | .ok (.throw value), h => exact absurd rfl (h value)
  | .error _, _ | .ok .normal, _ | .ok .break, _ | .ok .continue, _ | .ok (.return _), _
  | .ok (.yield _ _), _
  | .ok (.callcc _ _), _ => rfl

@[simp] theorem tryBlock_none (self : Reentry) :
    tryBlock self body handler var none = tryBody self body handler var none := rfl

@[simp] theorem tryBlock_body (self : Reentry) (first : Nat) (rest : Cursor) :
    tryBlock self body handler var (some (0 :: first :: rest)) =
      tryBody self body handler var (some (first :: rest)) := rfl

@[simp] theorem tryBlock_handler (self : Reentry) (first : Nat) (rest : Cursor) :
    tryBlock self body handler var (some (1 :: first :: rest)) =
      runHandler self handler (some (first :: rest)) := rfl

theorem bodyEnd_yield (self : Reentry) (slot : Nat) (value : CellRef) (cursor : Cursor)
    (m : Machine) :
    bodyEnd self handler var slot (.ok (.yield value cursor)) m =
      (.ok (.yield value (0 :: cursor)), { m with
      context := { m.context with handlers := truncateStack m.context.handlers slot } }) := rfl

/-- A body with a handler is driven by driving the body, and the handler once something is
thrown. -/
theorem drives_try (hs : Inlines k s once) (hb : body.isBalanced) (hh : handler.isBalanced)
    (free : (Instruction.try body handler var).isIterFree) (hm : m.Sound)
    (deep : 1 < m.context.frameDepth)
    (ends : (tryBlock (inlining s once line) body handler var none m).1 ≠ .error .exhausted) :
    Drives k line (tryBlock s body handler var ·) (tryBlock s body handler var none m)
      (tryBlock (inlining s once line) body handler var none m) := by
  rw [tryBlock_none, tryBody_run] at ends
  rw [tryBlock_none, tryBlock_none, tryBody_run, tryBody_run]
  have freeBody : body.isIterFree := Instruction.isIterFree_branch (n := 0) free rfl
  have freeHandler : handler.isIterFree := Instruction.isIterFree_branch (n := 1) free rfl
  have sound : (handled var m).Sound := hm.of_code rfl
  change (proceed _ (once line body (handled var m))).1 ≠ _ at ends
  change Drives k line _ _ (proceed _ (once line body (handled var m)))
  rcases hq : once line body (handled var m) with ⟨r, m₁⟩
  rw [hq] at ends
  have drives := hs.drives line body (handled var m) hb freeBody sound deep (by
    rw [hq]
    exact not_dry ends)
  rw [hq] at drives
  refine drives.through (F := (· = bodyEnd s handler var m.context.handlers.length))
    (suspendable_block hb freeBody) (show 1 < (handled var m).context.frameDepth from deep)
    (.first sound) rfl ?_ ?_
  · rintro _ value cursor m' rfl rests here
    have handlers : m'.context.handlers = var :: m.context.handlers :=
      Context.handlers_of_rigid rests.rigid
    have cut :
        truncateStack m'.context.handlers m.context.handlers.length = m.context.handlers := by
      rw [handlers]
      exact truncateStack_append [var] _
    obtain ⟨first, rest, rfl⟩ := Block.exists_cons_of_opens? here
    refine ⟨0 :: first :: rest,
      { m' with context := { m'.context with handlers := m.context.handlers } }, ?_, _, rfl, ?_⟩
    · rw [bodyEnd_yield, cut]
    · have inside : handled var (k.between line value
          { m' with
            context :=
              { m'.context with handlers := m.context.handlers } }) = k.between line value m' := by
        rw [k.between_eq, Consumer.between, handled]
        simp [← handlers, Context.killFrame, Context.createFrame]
      rw [tryBlock_body, tryBody_run, inside]
      rfl
  · rintro _ rfl reached final
    have passes {r : Except Fault Flow} (thrown : ∀ value, r ≠ .ok (.throw value))
        (yielded : ∀ value cursor, r ≠ .ok (.yield value cursor)) :
        Drives k line (tryBlock s body handler var ·)
          (bodyEnd s handler var m.context.handlers.length r m₁)
          (bodyEnd (inlining s once line) handler var m.context.handlers.length r m₁) := by
      obtain ⟨notes, -, run⟩ := bodyEnd_run handler var m.context.handlers.length r m₁
      rw [run, run, settleBody_of_not_thrown s thrown, settleBody_of_not_thrown _ thrown]
      exact .ended (passOn_ends 0 r _ yielded)
    rcases r with (fault | _) | flow
    · exact passes (fun _ eq => by cases eq) fun _ _ eq => by cases eq
    · exact absurd rfl ends
    · cases flow with
      | yield value cursor => exact absurd rfl (final value cursor)
      | throw value =>
        have rests := rests_thrown hb reached rfl
        obtain ⟨notes, -, run⟩ :=
            bodyEnd_run handler var m.context.handlers.length (.ok (.throw value)) m₁
        change (bodyEnd _ handler var _ (.ok (.throw value)) m₁).1 ≠ _ at ends
        change Drives k line _ (bodyEnd s handler var _ (.ok (.throw value)) m₁)
          (bodyEnd _ handler var _ _ m₁)
        rw [run] at ends
        rw [run, run]
        -- the handler begins in the same machine, whichever way the body was run
        let began : Machine := caught var value { m₁ with
          logs := m₁.noted notes
          context := { m₁.context with
            handlers := truncateStack m₁.context.handlers m.context.handlers.length } }
        change (runHandler _ handler none began).1 ≠ _ at ends
        change Drives k line _ (runHandler s handler none began) (runHandler _ handler none began)
        rw [runHandler_run] at ends
        rw [runHandler_run, runHandler_run]
        have sound : began.Sound := rests.sound.of_code rfl
        have deep' : 1 < began.context.frameDepth := by
          change 1 < m₁.context.frameDepth
          rw [rests.level.frameDepth]
          exact deep
        refine drives_branch (n := 1) hh freeHandler deep'
          (fun first rest m' => by rw [tryBlock_handler, runHandler_run])
          (fun _ _ _ => rfl) handlerEnd_ends ?_ (.first sound)
        exact hs.drives line handler began hh freeHandler sound deep' (not_dry ends)
      | _ => exact passes (fun _ eq => by cases eq) fun _ _ eq => by cases eq

/-! ## Loops -/

/-- The flow that a loop ends with. -/
def loopEnd (flow : Flow) : Run Flow := do
  if flow.isNormal then Run.changeContext (·.clearFrame)
  return flow

/-- What becomes of the flow of the body of a loop. -/
def afterTurn (self : Reentry) (increment : Option Block) : Flow → Run (Round ⊕ Flow)
  | .normal | .continue => loopIncrement self increment none
  | .break => return .inr .normal
  | flow => return .inr (flow.through 0)

/-- What is left of a loop after a turn, with at most `n` more rounds. -/
def turned (self : Reentry) (c : Check) (body : Block) (increment : Option Block) (n : Nat) :
    Round ⊕ Flow → Run Flow
  | .inl round => Run.iterate (loopRound self c body increment) n round >>= loopEnd
  | .inr flow => loopEnd flow

/-- What is left of a loop when its body has ended. -/
def loopRest (self : Reentry) (c : Check) (body : Block) (increment : Option Block) (n : Nat)
    (r : Except Fault Flow) : Run Flow := do
  let turn ← afterTurn self increment (← Run.settle r)
  turned self c body increment n turn

theorem loopBody_run (self : Reentry) (inner : Option Cursor) (m : Machine) :
    (loopBody self body increment inner >>= turned self c body increment n) m =
      proceed (loopRest self c body increment n)
        (self.block body inner { m with context := m.context.clearFrame }) := by
  have turn : loopBody self body increment inner = (do
      Run.changeContext (·.clearFrame)
      afterTurn self increment (← self.block body inner)) := by
    simp only [loopBody]
    congr
  rw [turn, bind_assoc, Run.bind_run, Run.changeContext_run]
  dsimp only
  rw [bind_assoc, Run.bind_run]
  rcases self.block body inner _ with ⟨(_ | _) | _, _⟩ <;> rfl

theorem iterate_run (self : Reentry) (round : Round) (m : Machine) :
    (Run.iterate (loopRound self c body increment) (n + 1) round >>= loopEnd) m =
      (loopRound self c body increment round >>= turned self c body increment n) m := by
  rw [Run.bind_run, Run.bind_run, Run.iterate]
  dsimp only
  rcases loopRound self c body increment round m with ⟨_ | (_ | _), _⟩
  · rfl
  · exact (Run.bind_run _ _ _).symm
  · rfl

/-- A loop that is taken up again in its body. -/
theorem loop_body_run (self : Reentry) (positive : self.rounds = n + 1) (first : Nat)
    (rest : Cursor) (m : Machine) :
    loop self c body increment (some (0 :: first :: rest)) m =
      proceed (loopRest self c body increment n)
        (self.block body (some (first :: rest)) { m with context := m.context.clearFrame }) := by
  rw [← loopBody_run, loop, positive]
  exact iterate_run self (.body (some (first :: rest))) m

/-- A turn of a loop once its condition has been asked. -/
def entered (self : Reentry) (body : Block) (increment : Option Block) : Bool → Run (Round ⊕ Flow)
  | true => loopBody self body increment none
  | false => return .inr .normal

theorem entered_true (self : Reentry) :
    entered self body increment true = loopBody self body increment none := rfl

theorem entered_false (self : Reentry) (m : Machine) :
    (entered self body increment false >>= turned self c body increment n) m = loopEnd .normal m :=
      rfl

theorem loopRound_start (self : Reentry) :
    loopRound self c body increment .start = (check self c >>= entered self body increment) := by
  simp only [loopRound]
  congr
  funext verdict
  cases verdict <;> rfl

/-- In a new frame there are no operands to drop. -/
theorem between_clearFrame (value : CellRef) (m : Machine) :
    { k.between line value m with context := (k.between line value m).context.clearFrame } =
      k.between line value m := by
  simp [Consumer.between, Context.clearFrame, Context.createFrame, Context.modifyFrame]

theorem loopRest_yield (self : Reentry) (value : CellRef) (cursor : Cursor) (m : Machine) :
    loopRest self c body increment n (.ok (.yield value cursor)) m =
      (.ok (.yield value (0 :: cursor)), m) := rfl

theorem loopRest_break (self : Reentry) :
    loopRest self c body increment n (.ok .break) = loopEnd .normal := rfl

theorem loopRest_of_not_local (self : Reentry) {r : Except Fault Flow}
    (h : Flow.isLocal r = false) :
    loopRest self c body increment n r = passOn 0 r := by
  match r, h with
  | .error _, _ | .ok (.return _), _ | .ok (.throw _), _ | .ok (.yield _ _), _
  | .ok (.callcc _ _), _ => rfl

theorem loopRest_of_goes_on (self : Reentry) {flow : Flow} (h : flow = .normal ∨ flow = .continue)
    (m : Machine) :
    loopRest self c body increment n (.ok flow) m =
      (loopIncrement self increment none >>= turned self c body increment n) m := by
  obtain rfl | rfl := h <;> rfl

/-- What an increment comes to: it goes on at the start of a turn, unless it throws. -/
def Increments (m : Machine) : Run.Post (Round ⊕ Flow)
  | .ok (.inl round), m' => round = .start ∧ m.Rests m'
  | .ok (.inr flow), _ => Flow.isPlain (.ok flow)
  | .error _, _ => True

theorem increments_loopIncrement (hi : isExpression? increment) (hm : m.Sound) :
    Run.Meets (Increments m) (loopIncrement s increment none m) := by
  cases increment with
  | none => exact ⟨rfl, .refl hm⟩
  | some b =>
    have expression : b.hasOperandsOnly ∧ b.isBalanced := (Bool.and_eq_true _ _).mp hi
    have meets : Run.Meets (b.Ended none m m.context.iterators 0) (s.block b none m) :=
      ended_block expression.2 hm nofun
    simp only [loopIncrement]
    rw [Run.bind_run]
    rcases hp : s.block b none m with ⟨(_ | _) | flow, m'⟩
    · trivial
    · trivial
    · rw [hp] at meets
      have ended : b.Ended none m m.context.iterators 0 (.ok flow) m' := meets
      have plain := ended.plain expression.1
      cases flow with
      | normal => exact ⟨rfl, (ended.ends.kept ended.level rfl).resumed, (ended.fresh rfl).2⟩
      | throw => exact plain
      | _ => cases plain

omit [Reentry.Agree False s s] in
theorem loopIncrement_eq (hs : Inlines k s once) (hi : isExpression? increment) :
    loopIncrement (inlining s once line) increment none = loopIncrement s increment none := by
  cases increment with
  | none => rfl
  | some b =>
    have expression : b.hasOperandsOnly ∧ b.isBalanced := (Bool.and_eq_true _ _).mp hi
    simp only [loopIncrement, hs.operands line b expression.1]

/-- One turn of a loop, with what is known of the turns after it. -/
theorem drives_turn (hs : Inlines k s once) (hb : body.isBalanced) (hi : isExpression? increment)
    (free : body.isIterFree) {j : Nat} (less : j + 1 ≤ n + 1) (enough : j + 1 ≤ s.rounds)
    (hm : m.Sound) (deep : 1 < m.context.frameDepth)
    (next : ∀ {n : Nat} {m : Machine}, j ≤ n → j ≤ s.rounds → m.Sound → 1 < m.context.frameDepth →
      ((Run.iterate (loopRound (inlining s once line) c body increment) j .start >>= loopEnd) m).1 ≠
        .error .exhausted →
      Drives k line (loop s c body increment ·)
        ((Run.iterate (loopRound s c body increment) n .start >>= loopEnd) m)
        ((Run.iterate (loopRound (inlining s once line) c body increment) j .start >>= loopEnd) m))
    (ends : (proceed (loopRest (inlining s once line) c body increment j)
      ((inlining s once line).block body none
        { m with context := m.context.clearFrame })).1 ≠ .error .exhausted) :
    Drives k line (loop s c body increment ·)
      (proceed (loopRest s c body increment n)
        (s.block body none { m with context := m.context.clearFrame }))
      (proceed (loopRest (inlining s once line) c body increment j)
        ((inlining s once line).block body none { m with context := m.context.clearFrame })) := by
  have sound : ({ m with context := m.context.clearFrame } : Machine).Sound := hm.of_code rfl
  have deep' : 1 < ({ m with context := m.context.clearFrame } : Machine).context.frameDepth := by
    have level : m.Level { m with context := m.context.clearFrame } :=
      (Machine.Rests.refl hm).level.modifyFrame fun _ => []
    rw [level.frameDepth]
    exact deep
  have drives := hs.drives line body _ hb free sound deep' (not_dry ends)
  rcases hq : (inlining s once line).block body none { m with context := m.context.clearFrame } with
    ⟨r, m₂⟩
  rw [hq] at ends
  replace hq : once line body { m with context := m.context.clearFrame } = (r, m₂) := hq
  rw [hq] at drives
  refine drives.through (F := fun f => ∃ n', j ≤ n' ∧ f = loopRest s c body increment n')
    (suspendable_block hb free) deep' (.first sound) ⟨n, by omega, rfl⟩ ?_ ?_
  · rintro _ value cursor m' ⟨n', hn, rfl⟩ - here
    obtain ⟨first, rest, rfl⟩ := Block.exists_cons_of_opens? here
    refine ⟨0 :: first :: rest, m', loopRest_yield s value _ m', _, ⟨s.rounds - 1, by omega, rfl⟩,
      ?_⟩
    rw [loop_body_run s (by omega : s.rounds = s.rounds - 1 + 1), between_clearFrame]
  · rintro _ ⟨n', hn, rfl⟩ reached final
    have leaves {r : Except Fault Flow} (left : Flow.isLocal r = false)
        (yielded : ∀ value cursor, r ≠ .ok (.yield value cursor)) :
        Drives k line (loop s c body increment ·) (loopRest s c body increment n' r m₂)
          (loopRest (inlining s once line) c body increment j r m₂) := by
      rw [loopRest_of_not_local s left, loopRest_of_not_local _ left]
      exact .ended (passOn_ends 0 r m₂ yielded)
    have goesOn {flow : Flow} (stays : flow = .normal ∨ flow = .continue)
        (rests : ({ m with context := m.context.clearFrame } : Machine).Rests m₂)
        (ends : (loopRest (inlining s once line) c body increment j (.ok flow) m₂).1 ≠
          .error .exhausted) :
        Drives k line (loop s c body increment ·) (loopRest s c body increment n' (.ok flow) m₂)
          (loopRest (inlining s once line) c body increment j (.ok flow) m₂) := by
      rw [loopRest_of_goes_on _ stays, loopIncrement_eq hs hi, Run.bind_run] at ends
      rw [loopRest_of_goes_on _ stays, loopRest_of_goes_on _ stays, loopIncrement_eq hs hi,
        Run.bind_run, Run.bind_run]
      have increments := increments_loopIncrement (s := s) hi rests.sound
      rcases hp : loopIncrement s increment none m₂ with ⟨stop | (round | flow), m₃⟩
      · exact .failed
      · rw [hp] at increments ends
        obtain ⟨rfl, again⟩ : round = .start ∧ m₂.Rests m₃ := increments
        refine next hn (by omega) again.sound ?_ ends
        rw [(rests.trans again).level.frameDepth]
        exact deep'
      · rw [hp] at increments
        have plain : Flow.isPlain (.ok flow) := increments
        cases flow with
        | normal => exact .normal
        | throw => exact .thrown
        | _ => cases plain
    match r, reached, final, ends with
    | .ok .normal, reached, _, ends =>
      exact goesOn (.inl rfl) (reached.meets (suspendable_block hb free)) ends
    | .ok .continue, reached, _, ends =>
      exact goesOn (.inr rfl) (reached.meets (suspendable_block hb free)) ends
    | .ok .break, _, _, _ =>
      change Drives k line _ (loopRest s c body increment n' (.ok .break) m₂)
        (loopRest _ c body increment j _ m₂)
      rw [loopRest_break, loopRest_break]
      exact .normal
    | .error .exhausted, _, _, ends => exact absurd rfl ends
    | .ok (.yield value cursor), _, final, _ => exact absurd rfl (final value cursor)
    | .error (.fault _), _, _, _ | .ok (.return _), _, _, _ | .ok (.throw _), _, _, _
    | .ok (.callcc _ _), _, _, _ =>
      exact leaves rfl nofun

/-- A loop is driven by driving its body, turn by turn. Each call may go round as often as the whole
loop. -/
theorem drives_rounds (hs : Inlines k s once) (hc : c.isSound 0) (hb : body.isBalanced)
    (hi : isExpression? increment) (free : body.isIterFree) {j : Nat} (less : j ≤ n)
    (enough : j ≤ s.rounds) (hm : m.Sound) (deep : 1 < m.context.frameDepth)
    (ends :
      ((Run.iterate (loopRound (inlining s once line) c body increment) j .start >>= loopEnd) m).1 ≠
        .error .exhausted) :
    Drives k line (loop s c body increment ·)
      ((Run.iterate (loopRound s c body increment) n .start >>= loopEnd) m)
      ((Run.iterate (loopRound (inlining s once line) c body increment) j .start >>=
        loopEnd) m) := by
  induction j generalizing n m with
  | zero => exact absurd rfl ends
  | succ j ih =>
    obtain ⟨n, rfl⟩ : ∃ n', n = n' + 1 := ⟨n - 1, by omega⟩
    have same : check (inlining s once line) c = check s c := check_eq (hs.operands line) c hc
    rw [iterate_run, loopRound_start, same, bind_assoc, Run.bind_run] at ends
    rw [iterate_run, iterate_run, loopRound_start, loopRound_start, same, bind_assoc, bind_assoc,
      Run.bind_run, Run.bind_run]
    have agrees : Run.Agrees False (check s c) (check s c) (m.Asked 0) m := agrees_check c hc hm
    have asked := (agrees.resolve_left fun h => h.1).2
    rcases hp : check s c m with ⟨stop | verdict, m₁⟩
    · exact .failed
    · rw [hp] at asked ends
      have kept : m.Kept True m₁ := .of_advances asked
      have deep' : 1 < m₁.context.frameDepth := by
        rw [kept.level.frameDepth]
        exact deep
      cases verdict with
      | false =>
        dsimp only
        rw [entered_false, entered_false]
        exact .normal
      | true =>
        dsimp only at ends ⊢
        rw [entered_true, loopBody_run] at ends
        rw [entered_true, entered_true, loopBody_run, loopBody_run]
        exact drives_turn hs hb hi free less enough kept.sound deep' ih ends

theorem drives_loop (hs : Inlines k s once) (hc : c.isSound 0) (hb : body.isBalanced)
    (hi : isExpression? increment) (free : body.isIterFree) (hm : m.Sound)
    (deep : 1 < m.context.frameDepth)
    (ends : (loop (inlining s once line) c body increment none m).1 ≠ .error .exhausted) :
    Drives k line (loop s c body increment ·) (loop s c body increment none m)
      (loop (inlining s once line) c body increment none m) :=
  drives_rounds hs hc hb hi free (Nat.le_refl _) (Nat.le_refl _) hm deep ends

/-! ## Bodies -/

omit [Reentry.Agree False s s] in
theorem inlinedStep_decide (inner : UInt32 → Reentry) (m : Machine) :
    inlinedStep k line s inner (.decide c onTrue onFalse) m =
      branch (inner m.context.line) c onTrue onFalse none m := by
  rw [inlinedStep, Run.bind_run, Run.askContext_run]

omit [Reentry.Agree False s s] in
theorem inlinedStep_loop (inner : UInt32 → Reentry) (m : Machine) :
    inlinedStep k line s inner (.loop c body increment) m =
      loop (inner m.context.line) c body increment none m := by
  rw [inlinedStep, Run.bind_run, Run.askContext_run]

omit [Reentry.Agree False s s] in
theorem inlinedStep_try (inner : UInt32 → Reentry) (m : Machine) :
    inlinedStep k line s inner (.try body handler var) m =
      tryBlock (inner m.context.line) body handler var none m := by
  rw [inlinedStep, Run.bind_run, Run.askContext_run]

/-- Compound steps. -/
theorem drives_step (hs : Inlines k s once) {i : Instruction} {τ : Shape}
    (compound : i.isSimple = false) (flow : i.isFlow = false) (hi : i.shape? .flat = some τ)
    (free : i.isIterFree) (hm : m.Sound) (deep : 1 < m.context.frameDepth)
    (ends : (inlinedStep k line s (inlining s once) i m).1 ≠ .error .exhausted) :
    Drives k m.context.line (step s · i) (step s none i m)
      (inlinedStep k line s (inlining s once) i m) := by
  cases i with
  | decide c onTrue onFalse =>
    obtain ⟨-, -, sound⟩ := Shape.eq_of_statement hi
    simp only [Bool.and_eq_true] at sound
    rw [inlinedStep_decide] at ends ⊢
    exact drives_decide hs sound.1.1 sound.1.2 sound.2 free hm deep ends
  | loop c body increment =>
    obtain ⟨-, -, sound⟩ := Shape.eq_of_loop hi
    simp only [Bool.and_eq_true] at sound
    rw [inlinedStep_loop] at ends ⊢
    exact drives_loop hs sound.1.1 sound.1.2 sound.2
      (Instruction.isIterFree_branch (n := 0) free rfl) hm deep ends
  | «try» body handler var =>
    obtain ⟨-, -, sound⟩ := Shape.eq_of_statement hi
    simp only [Bool.and_eq_true] at sound
    rw [inlinedStep_try] at ends ⊢
    exact drives_try hs sound.1 sound.2 free hm deep ends
  | flow kind value => cases flow
  | _ => cases compound

end Compound

/-- A step of an expression yields nothing. -/
theorem inlinedStep_operand {inner : UInt32 → Reentry} {i : Instruction} (h : i.isOperand) :
    inlinedStep k line s inner i = step s none i := by
  obtain ⟨x, eq⟩ : ∃ x, step s none i = thenNormal x := by
    cases i <;> first | exact ⟨_, rfl⟩ | cases h
  funext m
  rw [inlinedStep_run (.inl (Instruction.isSimple_of_isOperand h)), eq, thenNormal, Run.bind_run]
  rcases x m with ⟨_ | _, _⟩ <;> rfl

theorem steps_congr {perform perform' : Option Cursor → Instruction → Run Flow} {index : Nat}
    {rest : List Step}
    (same : ∀ first ∈ rest, perform none first.instruction = perform' none first.instruction) :
    steps perform index none rest = steps perform' index none rest := by
  induction rest generalizing index with
  | nil => rfl
  | cons first rest ih =>
    obtain ⟨line, i⟩ := first
    have here : perform none i = perform' none i := same _ (List.mem_cons_self ..)
    simp only [steps, here, ih fun first mem => same first (List.mem_cons_of_mem _ mem)]

/-- Running a block of an expression once is evaluating it. -/
theorem inlined_operands (k : Consumer) (n : Nat) (line : UInt32) (hb : b.hasOperandsOnly) :
    inlined k n line b = (reentry n).block b none := by
  cases n with
  | zero => rfl
  | succ n =>
    have same :
        steps (fun _ => inlinedStep k line (reentry n) (inlining (reentry n) (inlined k n)))
          0 none b.steps =
        steps (step (reentry n)) 0 none b.steps :=
      steps_congr fun first mem => inlinedStep_operand (List.all_eq_true.mp hb first mem)
    exact congrArg (bracket b.source) same

/-- Calling a body again and again comes to what it comes to when it is run once. -/
theorem inlines_inlined (k : Consumer) (n : Nat) : Inlines k (reentry n) (inlined k n) := by
  induction n with
  | zero => exact ⟨fun _ _ _ => rfl, fun _ _ _ _ _ _ _ ends => absurd rfl ends⟩
  | succ n ih =>
    refine ⟨fun line b hb => inlined_operands k (n + 1) line hb,
      fun line b m hb free hm deep ends => ?_⟩
    have agree : Reentry.Agree False (reentry n) (reentry n) := agree_reentry n
    have sound : (inSource m b.source).Sound := hm.of_code rfl
    have balanced := (Block.isBalanced_iff b).mp hb
    have rests := Machine.Rests.refl sound
    exact drives_steps free deep (fun i τ m compound flow hi free hm deep ends =>
      drives_step ih compound flow hi free hm deep ends) rfl rfl balanced rests rests.at_ ends

end CellScript.Eval
