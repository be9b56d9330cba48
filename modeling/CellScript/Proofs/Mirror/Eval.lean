import CellScript.Eval.Block
import CellScript.Proofs.Mirror.Call

/-!
# Evaluation in other places

The evaluator does the same in other places, with whatever fuel: in machines that are alike, the
same block comes to the same flow, and functions that are alike come to the same result.

## Main statements

* `sim_dispatch`, `sim_conclude` — calls are entered and left in the same way.
* `sim_runClosure`, `sim_callDetached`, `sim_evaluate`, `sim_invoke`, `sim_callValue` — functions of
  all kinds.
* `sim_targetCell`, `sim_assign`, `sim_assignMulti`, `sim_operate`, `sim_call` — steps on operands.
* `sim_check`, `sim_branch`, `sim_loop`, `sim_iterNext`, `sim_tryBlock` — conditions, loops and
  handlers.
* `sim_step`, `sim_steps`, `sim_blockBy` — a step, the steps of a block, and a block.
* `mirrors_reentry` — from all these, the evaluator does the same in other places.
-/

namespace CellScript.Mirror

open Eval

variable {e : Surroundings} {w : Links} {α : Type}

/-! ## Calls -/

section Calls

instance (p p' : Profiler) (name : String) (source : Option String) (line : UInt32) (duration : Nat)
    [h : Alike w p p'] :
    Alike w (p.record name source line duration) (p'.record name source line duration) := by
  rw [h.eq]
  infer_instance

/-- A fault that is no fatal one is recorded, and the line is what it was before the call. -/
theorem sim_record (name : String) (source : Option String) (line : UInt32) (fatal : Bool)
    (f f' : Fault) [Alike w f f'] :
    Sim e w
      (do
        if !fatal then Run.changeContext (·.recordFrame ⟨name, source, line⟩)
        Run.changeContext ({ · with line })
        Run.settle (.error f) : Run CellRef)
      (do
        if !fatal then Run.changeContext (·.recordFrame ⟨name, source, line⟩)
        Run.changeContext ({ · with line })
        Run.settle (.error f')) := by
  cases fatal with
  | true => exact .andThen fun _ _ => inferInstance
  | false => exact .andThen fun _ _ => .andThen fun _ _ => inferInstance

instance sim_conclude (name : String) (c c' : Context) (described : Option String)
    (result result' : Except Fault CellRef) [hc : Alike w c c'] [hr : Alike w result result'] :
    Sim e w (conclude name c described result) (conclude name c' described result') := by
  have source : c.currentSource = c'.currentSource := Alike.eq (w := w) inferInstance
  have line : c.line = c'.line := Alike.eq (w := w) inferInstance
  have depth : c.frameDepth = c'.frameDepth := Alike.eq (w := w) inferInstance
  have flags : c.flags = c'.flags := Alike.eq (w := w) inferInstance
  have calls (v : Links) (p : TwoMachines e v) : Machines e v
      { p.left with activeCalls := p.left.activeCalls - 1 }
      { p.right with activeCalls := p.right.activeCalls - 1 } :=
    { p.machines with activeCalls := congrArg (· - 1) p.machines.activeCalls }
  have := calls w
  obtain ⟨f, f', rfl, rfl, failed⟩ | ⟨value, value', rfl, rfl, _⟩ := hr.except
  · have fatal : f.isFatal = f'.isFatal := Alike.eq (w := w) inferInstance
    unfold conclude
    dsimp only
    rw [source, line, depth, flags, fatal]
    refine .andThen fun v _ => ?_
    cases described with
    | none =>
      dsimp only
      split
      · exact .andThen fun _ _ => .andThen fun _ _ => sim_record ..
      · exact .andThen fun _ _ => sim_record ..
    | some described =>
      dsimp only
      split
      · exact .andThen fun _ _ => .andThen fun _ _ => .andThen fun _ _ => sim_record ..
      · exact .andThen fun _ _ => .andThen fun _ _ => sim_record ..
  · unfold conclude
    dsimp only
    rw [source, line, flags]
    refine .andThen fun v _ => ?_
    cases described with
    | none =>
      dsimp only
      split
      · exact .andThen fun _ _ => .andThen fun _ _ => inferInstance
      · exact .andThen fun _ _ => inferInstance
    | some described =>
      dsimp only
      split
      · exact .andThen fun _ _ => .next fun _ text => .andThen fun _ _ =>
          .andThen fun _ _ => inferInstance
      · exact .next fun _ text => .andThen fun _ _ => .andThen fun _ _ => inferInstance

instance (h h' : Heap) (args args' : List CellRef) [Heaps e w h h'] [ha : Alike w args args'] :
    Alike w (args.map h.describe) (args'.map h'.describe) := by
  rw [ha.mapEq (f := h.describe) (g := h'.describe) fun _ _ _ => Alike.eq (w := w) inferInstance]
  infer_instance

instance (separator : String) (texts texts' : List String) [h : Alike w texts texts'] :
    Alike w (separator.intercalate texts) (separator.intercalate texts') := by
  rw [h.eq]
  infer_instance

instance sim_dispatch (name : String) (args args' : List CellRef) (x y : Run CellRef)
    [ha : Alike w args args'] [h : ∀ v : w.Later, Sim e v.now x y] :
    Sim e w (dispatch name args x) (dispatch name args' y) := by
  have calls (v : Links) (p : TwoMachines e v) : Machines e v
      { p.left with activeCalls := p.left.activeCalls + 1 }
      { p.right with activeCalls := p.right.activeCalls + 1 } :=
    { p.machines with activeCalls := congrArg (· + 1) p.machines.activeCalls }
  refine .andThen fun v ⟨c, c', same⟩ => .next fun v' active => ?_
  have context : Alike v.now c c' := ⟨same⟩
  have depth : c.maxDepth = c'.maxDepth := Alike.eq (w := v.now) inferInstance
  have flags : c.flags = c'.flags := Alike.eq (w := v.now) inferInstance
  dsimp only
  rw [depth, flags]
  have rest (v'' : v'.now.Later) (described : Option String) : Sim e v''.now
      (do
        Run.changeMachine fun m => { m with activeCalls := m.activeCalls + 1 }
        conclude name c described (← Run.attempt x))
      (do
        Run.changeMachine fun m => { m with activeCalls := m.activeCalls + 1 }
        conclude name c' described (← Run.attempt y)) := by
    have := calls v''.now
    have := h ((v.after v').after v'')
    refine .andThen fun v₃ _ => ?_
    have attempted : Sim e v₃.now x y := h (((v.after v').after v'').after v₃)
    infer_instance
  split
  · refine .andThen fun v'' _ => ?_
    split <;> exact .next fun v₃ described => rest (v''.after v₃) described
  · split <;> exact .next rest

variable (vars vars' : VarsRef) [Alike w vars vars'] (args args' : List CellRef)
  [ha : Alike w args args']

theorem Alike.zipIdx [Paired α] {as bs : List α} (h : Alike w as bs) (n : Nat) :
    Alike w (as.zipIdx n) (bs.zipIdx n) := by
  induction as generalizing bs n with
  | nil =>
    obtain ⟨-, rfl⟩ | ⟨_, _, _, _, ⟨⟩, -⟩ := h.list
    exact ⟨.nil⟩
  | cons a as ih =>
    obtain ⟨⟨⟩, -⟩ | ⟨_, b, _, bs, ⟨rfl, rfl⟩, rfl, hd, tl⟩ := h.list
    have := ih tl (n + 1)
    rw [List.zipIdx_cons, List.zipIdx_cons]
    infer_instance

instance sim_bindArguments (message : Option String) :
    Sim e w (bindArguments vars message args) (bindArguments vars' message args') := by
  have places := ha.zipIdx 0
  unfold bindArguments
  refine .andThen fun v all => .andThen fun v' _ => ?_
  have bound (v'' : v'.now.Later) (p : Both v''.now (CellRef × Nat)) : Sim e v''.now
      (HeapM.change (·.putVariable vars s!"${p.left.2 + 1}" p.left.1) : HeapM Unit)
      (HeapM.change (·.putVariable vars' s!"${p.right.2 + 1}" p.right.1)) := by
    have name : p.left.2 = p.right.2 := Alike.eq (w := v''.now) inferInstance
    rw [name]
    infer_instance
  cases message <;> infer_instance

end Calls

/-! ## Closures -/

/-- Ends of bodies that are alike. -/
inductive Outcomes (w : Links) : Eval.Outcome → Eval.Outcome → Prop where
  | value {c c' : CellRef} : Alike w c c' → Outcomes w (.value c) (.value c')
  | callcc {c c' : CellRef} : Alike w c c' → Outcomes w (.callcc c) (.callcc c')

instance : Paired Eval.Outcome where
  rel := Outcomes
  mono le
    | .value h => .value (h.mono le)
    | .callcc h => .callcc (h.mono le)

instance (c c' : CellRef) [h : Alike w c c'] : Alike w (Eval.Outcome.value c) (.value c') :=
  ⟨.value h⟩

instance (c c' : CellRef) [h : Alike w c c'] : Alike w (Eval.Outcome.callcc c) (.callcc c') :=
  ⟨.callcc h⟩

section Closures

variable (self : Reentry) [Mirrors e self] (f f' : FunctionRef) [Alike w f f'] (c c' : Closure)
  [hc : Alike w c c']

instance : Sim e w (entryOf f c) (entryOf f' c') := by
  have this : Alike w c.this c'.this := inferInstance
  unfold entryOf
  refine .andThen fun v _ => ?_
  obtain ⟨left, right⟩ | ⟨s, s', left, right, same⟩ :=
      (inferInstance : Alike w c.suspension c'.suspension).option <;>
    rw [left, right]
  · infer_instance
  · obtain ⟨cursor, level, iterators⟩ := s
    obtain ⟨cursor', level', iterators'⟩ := s'
    obtain rfl : cursor = cursor' := Discrete.rel_iff.mp same.rel.1
    have walked : Alike w iterators iterators' := ⟨same.rel.2.2⟩
    obtain ⟨rfl, rfl⟩ | ⟨l, l', rfl, rfl, _⟩ :=
        (Alike.mk same.rel.2.1 : Alike w level level').option <;> infer_instance

instance (cursor : Cursor) (level level' : Option ScopeLevel) (iterators : Nat)
    [Alike w level level'] :
    Sim e w (suspend f cursor level iterators) (suspend f' cursor level' iterators) := by
  refine .andThen fun v ⟨c, c', same⟩ => ?_
  have context : Alike v.now c c' := ⟨same⟩
  have length : c.iterators.length = c'.iterators.length :=
    (inferInstance : Alike v.now c.iterators c'.iterators).length_eq
  dsimp only
  rw [length]
  infer_instance

instance (source : Option String) (level level' : ScopeLevel)
    (iterators iterators' : List IterState) (x x' : Context) [Alike w level level']
    [Alike w iterators iterators'] [hx : Alike w x x'] :
    Alike w (enter source level iterators x) (enter source level' iterators' x') := by
  unfold enter
  infer_instance

instance (source : Option String) (x x' : Context) [hx : Alike w x x'] :
    Alike w (leave source x) (leave source x') := by
  unfold leave
  infer_instance

/-- Back from a body. -/
theorem sim_leave (source : Option String) {x y : Run (Option ScopeLevel)}
    (left : ∀ m,
      x m = (.ok (leave source m.context).1, { m with context := (leave source m.context).2 }))
    (right : ∀ m,
      y m = (.ok (leave source m.context).1, { m with context := (leave source m.context).2 })) :
    Sim e w x y :=
  sim_onContext (f := leave source) (g := leave source) (fun _ => inferInstance) left right

instance sim_runBody (message : Option String) (args args' : List CellRef)
    [ha : Alike w args args'] :
    Sim e w (runBody self f c message args) (runBody self f' c' message args') := by
  have source : c.source = c'.source := Alike.eq (w := w) inferInstance
  have body : c.body = c'.body := Alike.eq (w := w) inferInstance
  unfold runBody
  rw [source, body]
  refine .andThen fun v ⟨⟨level, cursor, iterators⟩, ⟨level', cursor', iterators'⟩, same⟩ => ?_
  have level : Alike v.now level level' := ⟨same.1⟩
  have walked : Alike v.now iterators iterators' := ⟨same.2.2⟩
  obtain rfl : cursor = cursor' := Discrete.rel_iff.mp same.2.1
  refine .andThen fun v' _ => .andThen fun v'' me => .andThen fun v₃ _ =>
    .next fun v₄ depth => .andThen fun v₅ _ => ?_
  refine .andThen fun v₆ ⟨result, result', same⟩ =>
    (sim_leave c'.source (fun _ => rfl) fun _ => rfl).seq fun v₇ now => ?_
  obtain ⟨x, x', rfl, rfl, failed⟩ | ⟨flow, flow', rfl, rfl, ended⟩ := (Alike.mk same).except
  · infer_instance
  · cases ended.rel <;> infer_instance

instance sim_runClosure (message : Option String) (args args' : List CellRef)
    [ha : Alike w args args'] :
    Sim e w (runClosure self f c message args) (runClosure self f' c' message args') := by
  refine .andThen fun v ⟨outcome, outcome', same⟩ => ?_
  cases same <;> infer_instance

instance sim_newContext (script script' : ScriptRef) [Alike w script script'] :
    Sim e w (newContext script) (newContext script') := by
  refine .andThen fun v s => ?_
  have config : s.left.config = s.right.config := Alike.eq (w := v.now) inferInstance
  have created (v' : Links) (vars vars' : VarsRef) [Alike v' vars vars'] :
      Sim e v' (ScopeChain.create vars) (ScopeChain.create vars') := by
    unfold ScopeChain.create ScopeLevel.ofBase
    infer_instance
  have := created v.now s.left.globals s.right.globals
  rw [config]
  infer_instance

instance sim_within [Paired α] (x x' : Context) (y y' : Run α) [hx : Alike w x x']
    [h : ∀ v : w.Later, Sim e v.now y y'] :
    Sim e w (within x y) (within x' y') := by
  refine .andThen fun v outer => .andThen fun v' _ => ?_
  have : Sim e v'.now y y' := h (v.after v')
  infer_instance

instance (script script' : ScriptRef) [Alike w script script'] :
    Sim e w (isLoaded script) (isLoaded script') :=
  inferInstanceAs (Sim e w (Run.ask _) (Run.ask _))

instance sim_callDetached (message : Option String) (args args' : List CellRef)
    [ha : Alike w args args'] :
    Sim e w (callDetached self f c message args) (callDetached self f' c' message args') := by
  have name : c.describe = c'.describe := Alike.eq (w := w) inferInstance
  unfold callDetached
  rw [name]
  refine .next fun v loaded => ?_
  have called (v' : v.now.Later) : Sim e v'.now
      (newContext c.owner >>= fun x =>
        within x (dispatch c'.describe args (runClosure self f c message args)))
      (newContext c'.owner >>= fun x =>
        within x (dispatch c'.describe args' (runClosure self f' c' message args'))) :=
    .andThen fun _ context => inferInstance
  split
  · exact .andThen fun v' _ => called v'
  · exact called v.now.here

end Closures

/-! ## Functions -/

section Functions

variable (self : Reentry) [Mirrors e self] (args args' : List CellRef) [ha : Alike w args args']

instance (f f' : FunctionRef) [Alike w f f'] : Sim e w (ownClosure? f) (ownClosure? f') := by
  have own (p : TwoMachines e w) :
      Alike w ((p.left.heap.closure? f).filter (·.owner == p.left.context.script))
      ((p.right.heap.closure? f').filter (·.owner == p.right.context.script)) := by
    have known : Alike w (p.left.heap.closure? f) (p.right.heap.closure? f') := inferInstance
    exact known.filterOption fun c c' same =>
      (Alike.beq_eq (w := w) (inferInstance : Alike w c.owner c'.owner)
        (inferInstance : Alike w p.left.context.script p.right.context.script)).symm
  exact inferInstanceAs (Sim e w (Run.ask _) (Run.ask _))

theorem sim_evaluate (w : Links) (name : String) (f f' : Function) (args args' : List CellRef)
    [hf : Alike w f f'] [Alike w args args'] :
    Sim e w (evaluate self name args f) (evaluate self name args' f') := by
  induction f generalizing f' w with
  | library f =>
    cases hf.rel
    unfold evaluate
    infer_instance
  | probe f =>
    cases hf.rel
    unfold evaluate
    infer_instance
  | bound f =>
    cases hf.rel with
    | @bound _ f' same =>
      refine .option (fun v => inferInstance) fun v c => .andThen fun v' current => ?_
      obtain ⟨own, own', kept⟩ := current
      obtain ⟨rfl, rfl⟩ | ⟨x, x', rfl, rfl, _⟩ := (Alike.mk kept).option
      · exact inferInstanceAs (Sim e v'.now (callDetached self f c.left none args)
          (callDetached self f' c.right none args'))
      · exact inferInstanceAs (Sim e v'.now (runClosure self f c.left none args)
          (runClosure self f' c.right none args'))
  | guarded policy inner ih =>
    cases hf.rel with
    | @guarded _ _ inner' same =>
      have inside : Alike w inner inner' := ⟨same⟩
      have evaluated (v : w.Later) :
          Sim e v.now (evaluate self name args inner) (evaluate self name args' inner') :=
        ih v.now inner'
      cases policy with
      | permeable => exact evaluated w.here
      | sensitive => exact .andThen fun v _ => evaluated v
      | tainter | sanitizer => exact (evaluated w.here).seq fun v cell => inferInstance

instance (name : String) (f f' : Function) [Alike w f f'] :
    Sim e w (evaluate self name args f) (evaluate self name args' f') :=
  sim_evaluate self w name f f' args args'

instance (name : String) (block : Block) :
    Sim e w (runInline self name block args) (runInline self name block args') := by
  refine .andThen fun v vars => .andThen fun v' _ => .next fun v'' depth =>
    .andThen fun v₃ _ => .andThen fun v₄ _ => ?_
  refine .andThen fun v₅ ⟨result, result', same⟩ => .andThen fun v₆ _ => .andThen fun v₇ _ => ?_
  obtain ⟨x, x', rfl, rfl, failed⟩ | ⟨flow, flow', rfl, rfl, ended⟩ := (Alike.mk same).except
  · infer_instance
  · cases ended.rel <;> infer_instance

/-- What a name stands for in two scripts. -/
theorem Both.function? (s : Both w Script) (name : String) :
    Alike w (s.left.environment.functions.get? name) (s.right.environment.functions.get? name) :=
      inferInstance

instance sim_callFunction (name : String) :
    Sim e w (callFunction self name args) (callFunction self name args') := by
  refine .andThen fun v s => ?_
  have inlines : s.left.environment.inlines.get? name = s.right.environment.inlines.get? name :=
    Alike.eq (w := v.now) inferInstance
  dsimp only
  obtain ⟨left, right⟩ | ⟨f, f', left, right, _⟩ := (s.function? name).option <;> rw [left, right]
  · dsimp only
    rw [inlines]
    split <;> infer_instance
  · infer_instance

instance (message : Option String) (r r' : HostReply) [h : Alike w r r'] :
    Sim e w (reply message args r) (reply message args' r') := by
  cases h.rel with
  | first =>
    unfold reply
    infer_instance
  | message =>
    unfold reply
    cases message <;> infer_instance
  | count =>
    unfold reply
    rw [ha.length_eq]
    infer_instance
  | give | throw | fail =>
    unfold reply
    infer_instance

theorem sim_invoke (f f' : FunctionRef) (message : Option String) [Alike w f f'] :
    Sim e w (invoke self f message args) (invoke self f' message args') := by
  refine .andThen fun v ⟨callable, callable', same⟩ => ?_
  cases same with
  | closure | host => infer_instance
  | @named owner owner' name =>
    refine .next fun v' loaded => ?_
    have called (v'' : v'.now.Later) : Sim e v''.now
        (newContext owner >>= (within · (callFunction self name args)))
        (newContext owner' >>= (within · (callFunction self name args'))) := inferInstance
    dsimp only
    split
    · exact .andThen fun v'' _ => called v''
    · exact called v'.now.here

instance (f f' : FunctionRef) (message : Option String) [Alike w f f'] :
    Sim e w (invoke self f message args) (invoke self f' message args') :=
      sim_invoke self args args' f f' message

theorem sim_callValue (target target' : CellRef) (message : Option String)
    [Alike w target target'] :
    Sim e w (callValue self target message args) (callValue self target' message args') := by
  refine .andThen fun v content => ?_
  obtain ⟨content, content', same⟩ := content
  cases same with
  | @function f f' held =>
    refine .andThen fun v' script => .andThen fun v'' callable => ?_
    obtain ⟨script, script', same⟩ := script
    obtain ⟨callable, callable', held⟩ := callable
    have own : Alike v'.now script script' := ⟨same⟩
    cases held with
    | @closure c c' =>
      have owner :=
        (inferInstance : Alike v''.now c.owner c'.owner).eq_iff
          (inferInstance : Alike v''.now script script')
      have name : c.describe = c'.describe := Alike.eq (w := v''.now) inferInstance
      simp only [owner, name]
      infer_instance
    | named name same =>
      have owner := same.eq_iff (inferInstance : Alike v''.now script script')
      simp only [owner]
      infer_instance
    | host => infer_instance
  | text name =>
    dsimp only
    split <;> infer_instance
  | _ =>
    dsimp only [Content.typeName]
    infer_instance

instance (target target' : CellRef) (message : Option String) [Alike w target target'] :
    Sim e w (callValue self target message args) (callValue self target' message args') :=
  sim_callValue self args args' target target' message

end Functions

/-! ## Expressions -/

section Expressions

variable (self : Reentry) [Mirrors e self]

instance (block : Block) : Sim e w (intoFrame self block) (intoFrame self block) := by
  refine .andThen fun v _ => .next fun v' depth => .andThen fun v'' ⟨result, result', same⟩ => ?_
  refine .andThen fun v₃ _ => .andThen fun v₄ operands => ?_
  obtain ⟨x, x', rfl, rfl, failed⟩ | ⟨flow, flow', rfl, rfl, ended⟩ := (Alike.mk same).except
  · infer_instance
  · cases ended.rel <;> dsimp only [Flow.name] <;> infer_instance

instance (literal : Literal) : Alike w (literalContent literal) (literalContent literal) := by
  cases literal <;> unfold literalContent <;> infer_instance

instance (name : String) : Sim e w (warnUndeclared name) (warnUndeclared name) :=
  inferInstanceAs (Sim e w (_ >>= _) (_ >>= _))

instance (name : String) : Sim e w (lookup? name) (lookup? name) :=
  inferInstanceAs (Sim e w (Run.ask _) (Run.ask _))

theorem sim_interpolated (w : Links) (fragments : List Fragment) :
    Sim e w (interpolated fragments) (interpolated fragments) := by
  induction fragments generalizing w with
  | nil =>
    unfold interpolated
    infer_instance
  | cons fragment rest ih =>
    cases fragment with
    | text s =>
      unfold interpolated
      refine (ih w).seq fun v parts => ?_
      obtain ⟨⟨text, cells⟩, ⟨text', cells'⟩, same⟩ := parts
      obtain rfl : text = text' := same.1
      have : Alike v.now cells cells' := ⟨same.2⟩
      infer_instance
    | var name =>
      unfold interpolated
      refine .option (fun v => .andThen fun v' _ => ih v'.now) fun v cell => .next fun v' s => ?_
      refine (ih v'.now).seq fun v'' parts => ?_
      obtain ⟨⟨text, cells⟩, ⟨text', cells'⟩, same⟩ := parts
      obtain rfl : text = text' := same.1
      have : Alike v''.now cells cells' := ⟨same.2⟩
      infer_instance

instance sim_interpolate (fragments : List Fragment) :
    Sim e w (interpolate fragments) (interpolate fragments) := by
  refine (sim_interpolated w fragments).seq fun v ⟨⟨text, cells⟩, ⟨text', cells'⟩, same⟩ => ?_
  obtain rfl : text = text' := same.1
  have : Alike v.now cells cells' := ⟨same.2⟩
  infer_instance

instance sim_functionValue (name : String) : Sim e w (functionValue name) (functionValue name) := by
  refine .andThen fun v script => .andThen fun v' s => ?_
  have inlines :
      s.left.environment.inlines.contains name = s.right.environment.inlines.contains name :=
    Alike.eq (w := v'.now) inferInstance
  dsimp only
  obtain ⟨left, right⟩ | ⟨f, f', left, right, _⟩ := (s.function? name).option <;> rw [left, right]
  · dsimp only
    rw [inlines]
    infer_instance
  · obtain ⟨left, right⟩ | ⟨c, c', left, right, _⟩ :=
        (inferInstance : Alike v'.now f.closure? f'.closure?).option <;>
      dsimp only <;> rw [left, right] <;> infer_instance

instance sim_variableCell (name : String) : Sim e w (variableCell name) (variableCell name) := by
  unfold variableCell
  split
  · infer_instance
  · refine .option (fun v => ?_) fun v cell => inferInstance
    dsimp only
    split <;> infer_instance

instance (op : String) (args args' : List CellRef) [Alike w args args'] :
    Sim e w (applyOperator op args) (applyOperator op args') := by
  unfold applyOperator
  split <;> infer_instance

instance sim_operate (op : String) : Sim e w (operate op) (operate op) :=
  inferInstanceAs (Sim e w (_ >>= _) (_ >>= _))

instance sim_targetCell (target : Block) :
    Sim e w (targetCell self target) (targetCell self target) := by
  refine .andThen fun v operands => ?_
  obtain ⟨left, right⟩ | ⟨c, c', left, right, _⟩ :=
      (inferInstance : Alike v.now operands.left.getLast? operands.right.getLast?).option <;>
    rw [left, right] <;> infer_instance

instance (cell cell' value value' : CellRef) (op : Option String) [Alike w cell cell']
    [Alike w value value'] :
    Sim e w (store cell value op) (store cell' value' op) := by
  cases op <;> unfold store <;> infer_instance

instance sim_assign (target : Block) (op : Option String) :
    Sim e w (assign self target op) (assign self target op) := by
  refine .andThen fun v value => .andThen fun v' _ => .andThen fun v'' cell => ?_
  infer_instance

theorem sim_storeAll (w : Links) (op : Option String) (targets : List Block)
    (values values' : List CellRef) [hv : Alike w values values'] :
    Sim e w (storeAll self op targets (values.map pure))
      (storeAll self op targets (values'.map pure)) := by
  induction targets generalizing values values' w with
  | nil =>
    unfold storeAll
    infer_instance
  | cons target targets ih =>
    unfold storeAll
    obtain ⟨rfl, rfl⟩ | ⟨value, value', values, values', rfl, rfl, _, _⟩ := hv.list
    · simp only [List.map_nil, List.headD_nil, List.tail_nil]
      exact .andThen fun v value => .andThen fun v' cell => .andThen fun v'' _ => ih v''.now [] []
    · simp only [List.map_cons, List.headD_cons, List.tail_cons]
      exact .andThen fun v value => .andThen fun v' cell => .andThen fun v'' _ =>
        ih v''.now values values'

instance sim_assignMulti (targets : List Block) (op : Option String) :
    Sim e w (assignMulti self targets op) (assignMulti self targets op) := by
  have stored (v : Links) (values values' : List CellRef) [Alike v values values'] :
      Sim e v (storeAll self op targets (values.map pure))
        (storeAll self op targets (values'.map pure)) :=
    sim_storeAll self v op targets values values'
  refine .andThen fun v source => .andThen fun v' _ =>
    .andThen fun v'' ⟨content, content', same⟩ => ?_
  have repeated :
      Alike v''.now (targets.map fun _ => source.left) (targets.map fun _ => source.right) :=
    (inferInstance : Alike v''.now targets targets).mapList fun _ _ _ => inferInstance
  cases same <;> infer_instance

instance sim_index : Sim e w (index self) (index self) := by
  unfold index
  infer_instance

end Expressions

/-! ## Calls and definitions -/

section Definitions

variable (self : Reentry) [Mirrors e self]

instance sim_call (name : String) : Sim e w (call self name) (call self name) := by
  refine .andThen fun v args => .andThen fun v' result => .andThen fun v'' s => ?_
  dsimp only
  obtain ⟨left, right⟩ | ⟨f, f', left, right, _⟩ := (s.function? name).option <;> rw [left, right]
  · infer_instance
  · have policy : f.taintPolicy = f'.taintPolicy := Alike.eq (w := v''.now) inferInstance
    simp only [policy]
    infer_instance

instance (body : Block) (name : Option String) (site : Nat) :
    Sim e w (newClosure body name site) (newClosure body name site) := by
  refine .andThen fun v ⟨c, c', same⟩ => ?_
  have context : Alike v.now c c' := ⟨same⟩
  infer_instance

theorem isBoundTo_eq {h h' : Heap} {script script' : ScriptRef} (site : Nat) {f f' : Function}
    [Heaps e w h h'] [Alike w script script'] [Alike w f f'] :
    isBoundTo h script site f = isBoundTo h' script' site f' := by
  unfold isBoundTo
  obtain ⟨left, right⟩ | ⟨c, c', left, right, _⟩ :=
      (inferInstance : Alike w f.closure? f'.closure?).option
  · rw [left, right]
    rfl
  · rw [left, right, Option.bind_some, Option.bind_some]
    obtain ⟨left, right⟩ | ⟨x, x', left, right, _⟩ :=
        (inferInstance : Alike w (h.closure? c) (h'.closure? c')).option
    · rw [left, right]
      rfl
    · have owner :=
        Alike.beq_eq (w := w) (inferInstance : Alike w x.owner x'.owner)
          (inferInstance : Alike w script script')
      have place : x.site = x'.site := Alike.eq (w := w) inferInstance
      rw [left, right, Option.any_some, Option.any_some, owner, place]

instance sim_bind (name : String) (body : Block) (isInline : Bool) (site : Nat) :
    Sim e w (Eval.bind name body isInline site) (Eval.bind name body isInline site) := by
  unfold Eval.bind
  split
  · infer_instance
  · refine .andThen fun v script => .andThen fun v' s => ?_
    have bound (p : TwoHeaps e v'.now) :
        Alike v'.now
          ((s.left.environment.functions.get? name).any (isBoundTo p.left script.left site))
          ((s.right.environment.functions.get? name).any
            (isBoundTo p.right script.right site)) := by
      obtain ⟨left, right⟩ | ⟨f, f', left, right, _⟩ :=
          (s.function? name).option <;> rw [left, right]
      · exact ⟨rfl⟩
      · exact ⟨isBoundTo_eq (w := v'.now) site⟩
    dsimp only
    infer_instance

end Definitions

/-! ## Iterators -/

section Iterators

variable (self : Reentry) [Mirrors e self]

instance (key : Option String) (value : String) :
    Sim e w (iterCreate key value) (iterCreate key value) := by
  refine .andThen fun v source => .andThen fun v' _ =>
    .andThen fun v'' ⟨content, content', same⟩ => ?_
  cases same <;> dsimp only [Content.typeName] <;> infer_instance

theorem alike_nextKey {h h' : Heap} {t t' : TableRef} [Heaps e w h h'] [Alike w t t']
    (keys : List String) (skipped : Nat) :
    Alike w (nextKey h t keys skipped) (nextKey h' t' keys skipped) := by
  induction keys generalizing skipped with
  | nil => exact ⟨.none⟩
  | cons key rest ih =>
    unfold nextKey
    obtain ⟨left, right⟩ | ⟨c, c', left, right, _⟩ :=
        (inferInstance : Alike w ((h.table t).peek key) ((h'.table t').peek key)).option <;>
          rw [left, right]
    · exact ih _
    · have null : h.isNull c = h'.isNull c' := Alike.eq (w := w) inferInstance
      have := ih (skipped + 1)
      dsimp only
      rw [null]
      infer_instance

instance sim_nextItem (s s' : IterState) [hs : Alike w s s'] :
    Sim e w (nextItem self s) (nextItem self s') := by
  have position : s.position = s'.position := Alike.eq (w := w) inferInstance
  have source : Alike w s.source s'.source := inferInstance
  unfold nextItem
  rw [position]
  generalize s.source = x, s'.source = x' at source
  cases source.rel with
  | @table t t' keys =>
    have following (p : TwoHeaps e w) : Alike w (nextKey p.left t (keys.drop s'.position) 0)
        (nextKey p.right t' (keys.drop s'.position) 0) := alike_nextKey _ _
    refine .option (fun v => inferInstance)
      fun v ⟨⟨key, cell, advance⟩, ⟨key', cell', advance'⟩, same⟩ => ?_
    obtain rfl : key = key' := same.1
    have found : Alike v.now cell cell' := ⟨same.2.1⟩
    obtain rfl : advance = advance' := same.2.2
    infer_instance
  | sequence | generator | empty => infer_instance

instance (name : String) (cell cell' : CellRef) [Alike w cell cell'] :
    Sim e w (bindName name cell) (bindName name cell') := by
  refine .andThen fun v scope => ?_
  infer_instance

instance sim_iterNext : Sim e w (iterNext self) (iterNext self) := by
  refine .andThen fun v iterators => ?_
  obtain ⟨left, right⟩ | ⟨s, s', left, right, _⟩ :=
      (inferInstance : Alike v.now iterators.left.head? iterators.right.head?).option <;>
        rw [left, right]
  · infer_instance
  · refine .option (fun v' => inferInstance)
      fun v' ⟨⟨key, value, advance⟩, ⟨key', value', advance'⟩, same⟩ => ?_
    have item : Alike v'.now key key' := ⟨same.1⟩
    have content : Alike v'.now value value' := ⟨same.2.1⟩
    obtain rfl : advance = advance' := same.2.2
    refine .andThen fun v'' ⟨open?, open', same⟩ => ?_
    obtain ⟨rfl, rfl⟩ | ⟨top, top', rest, rest', rfl, rfl, _, _⟩ := (Alike.mk same).list
    · infer_instance
    · have name : top.key = top'.key := Alike.eq (w := v''.now) inferInstance
      have target : top.value = top'.value := Alike.eq (w := v''.now) inferInstance
      have position : top.position = top'.position := Alike.eq (w := v''.now) inferInstance
      dsimp only
      rw [name, target, position]
      cases top'.key <;> infer_instance

end Iterators

/-! ## Conditions -/

section Conditions

variable (self : Reentry) [Mirrors e self]

instance (h h' : Heap) (name : String) (negated : Bool) (args args' : List CellRef) [Heaps e w h h']
    [ha : Alike w args args'] :
    Alike w (describePredicate h name negated args) (describePredicate h' name negated args') := by
  have texts : args.map h.describe = args'.map h'.describe :=
    ha.mapEq fun _ _ _ => Alike.eq (w := w) inferInstance
  have shown {c c' : CellRef} (_ : Alike w c c') : h.describe c = h'.describe c' :=
    Alike.eq (w := w) inferInstance
  unfold describePredicate
  rw [texts]
  obtain ⟨rfl, rfl⟩ | ⟨a, a', as, as', rfl, rfl, first, rest⟩ := ha.list
  · infer_instance
  · obtain ⟨rfl, rfl⟩ | ⟨b, b', bs, bs', rfl, rfl, second, rest⟩ := rest.list
    · dsimp only
      rw [shown first]
      infer_instance
    · obtain ⟨rfl, rfl⟩ | ⟨_, _, _, _, rfl, rfl, -, -⟩ := rest.list
      · dsimp only
        rw [shown first, shown second]
        infer_instance
      · infer_instance

instance (setup : Block) (name : String) (negated : Bool) :
    Sim e w (checkPredicate self setup name negated) (checkPredicate self setup name negated) := by
  refine .andThen fun v args => ?_
  split
  · infer_instance
  · rename_i predicate _
    have settled (v' : v.now.Later) (described : Option String) : Sim e v'.now
        (do
          let verdict := (← predicate.decide name args.left) != negated
          if let some described := described then
            Run.traceLogic (described ++ " -> " ++ if verdict then "true" else "false")
          return verdict)
        (do
          let verdict := (← predicate.decide name args.right) != negated
          if let some described := described then
            Run.traceLogic (described ++ " -> " ++ if verdict then "true" else "false")
          return verdict) := by
      cases described <;> infer_instance
    refine .next fun v' flags => ?_
    dsimp only
    split <;> exact .next fun v'' described => settled (v'.after v'') described

end Conditions

mutual

theorem sim_check (self : Reentry) [Mirrors e self] (w : Links) :
    ∀ c : Check, Sim e w (check self c) (check self c)
  | .always => by unfold check; infer_instance
  | .iterNext => by unfold check; infer_instance
  | .and parts => by unfold check; exact sim_checkAll self w parts
  | .or parts => by unfold check; exact sim_checkAny self w parts
  | .predicate setup name negated => by unfold check; infer_instance

theorem sim_checkAll (self : Reentry) [Mirrors e self] (w : Links) :
    ∀ parts : List Check, Sim e w (checkAll self parts) (checkAll self parts)
  | [] => by unfold checkAll; infer_instance
  | part :: rest => by
    have first := sim_check self w part
    have others (v : w.Later) := sim_checkAll self v.now rest
    unfold checkAll
    infer_instance

theorem sim_checkAny (self : Reentry) [Mirrors e self] (w : Links) :
    ∀ parts : List Check, Sim e w (checkAny self parts) (checkAny self parts)
  | [] => by unfold checkAny; infer_instance
  | part :: rest => by
    have first := sim_check self w part
    have others (v : w.Later) := sim_checkAny self v.now rest
    unfold checkAny
    infer_instance

end

instance (self : Reentry) [Mirrors e self] (c : Check) : Sim e w (check self c) (check self c) :=
  sim_check self w c

/-! ## Control flow -/

instance : Plain Round := ⟨⟩

section Control

variable (self : Reentry) [Mirrors e self]

instance sim_branch (condition : Check) (onTrue : Block) (onFalse : Option Block)
    (resume : Option Cursor) :
    Sim e w (branch self condition onTrue onFalse resume)
      (branch self condition onTrue onFalse resume) := by
  unfold branch
  cases splitBranch resume <;> cases onFalse <;> infer_instance

instance (increment : Option Block) (inner : Option Cursor) :
    Sim e w (loopIncrement self increment inner) (loopIncrement self increment inner) := by
  unfold loopIncrement
  cases increment with
  | none => infer_instance
  | some increment =>
    refine .andThen fun v ⟨flow, flow', same⟩ => ?_
    cases same <;> infer_instance

instance (body : Block) (increment : Option Block) (inner : Option Cursor) :
    Sim e w (loopBody self body increment inner) (loopBody self body increment inner) := by
  refine .andThen fun v _ => .andThen fun v' ⟨flow, flow', same⟩ => ?_
  cases same <;> infer_instance

instance (condition : Check) (body : Block) (increment : Option Block) (round : Round) :
    Sim e w (loopRound self condition body increment round)
      (loopRound self condition body increment round) := by
  cases round <;> unfold loopRound <;> infer_instance

instance sim_loop (condition : Check) (body : Block) (increment : Option Block)
    (resume : Option Cursor) :
    Sim e w (loop self condition body increment resume)
      (loop self condition body increment resume) := by
  have whole :
      Sim e w (Run.iterate (loopRound self condition body increment) self.rounds (.ofCursor resume))
      (Run.iterate (loopRound self condition body increment) self.rounds (.ofCursor resume)) := by
    refine sim_iterate (σ := Round) w (fun v ⟨round, round', same⟩ => ?_) _ _ _
    obtain rfl : round = round' := same
    infer_instance
  refine whole.seq fun v flow => ?_
  dsimp only
  infer_instance

instance (handler : Block) (resume : Option Cursor) :
    Sim e w (runHandler self handler resume) (runHandler self handler resume) := by
  refine .except (fun v f => inferInstance) fun v flow => ?_
  obtain ⟨flow, flow', same⟩ := flow
  cases same <;> infer_instance

instance (handler : Block) (var : String) (value value' : CellRef) [Alike w value value'] :
    Sim e w (catchThrow self handler var value) (catchThrow self handler var value') :=
  inferInstanceAs (Sim e w (_ >>= _) (_ >>= _))

instance (slot : Nat) (var : String) (result result' : Except Fault Flow)
    [h : Alike w result result'] :
    Sim e w (traceCaught slot var result) (traceCaught slot var result') := by
  obtain ⟨x, x', rfl, rfl, failed⟩ | ⟨flow, flow', rfl, rfl, ended⟩ := h.except
  · unfold traceCaught
    infer_instance
  · cases ended.rel <;> unfold traceCaught <;> infer_instance

instance (body handler : Block) (var : String) (inner : Option Cursor) :
    Sim e w (tryBody self body handler var inner) (tryBody self body handler var inner) := by
  refine .next fun v slot => .andThen fun v' _ => .andThen fun v'' result =>
    .andThen fun v₃ _ => .andThen fun v₄ _ => ?_
  refine .andThen fun v₅ ⟨flow, flow', same⟩ => ?_
  cases same <;> infer_instance

instance sim_tryBlock (body handler : Block) (var : String) (resume : Option Cursor) :
    Sim e w (tryBlock self body handler var resume) (tryBlock self body handler var resume) := by
  unfold tryBlock
  split <;> infer_instance

instance (kind : FlowKind) (value value' : CellRef) [Alike w value value'] :
    Alike w (flowWith value kind) (flowWith value' kind) := by
  cases kind <;> unfold flowWith <;> infer_instance

instance sim_flowOf (kind : FlowKind) (value : Bool) :
    Sim e w (flowOf kind value) (flowOf kind value) := by
  cases value <;> unfold flowOf <;> infer_instance

/-! ## Host objects -/

instance sim_objectNew (className : String) :
    Sim e w (objectNew self className) (objectNew self className) := by
  unfold objectNew
  infer_instance

instance (receiver receiver' : CellRef) (member : Option String) (args args' : List CellRef)
    [Alike w receiver receiver'] [Alike w args args'] :
    Sim e w (send self receiver member args) (send self receiver' member args') := by
  refine .andThen fun v ⟨content, content', same⟩ => ?_
  cases same <;> cases member <;> dsimp only [Content.typeName] <;> infer_instance

instance sim_objectAccess (member className : Option String) :
    Sim e w (objectAccess self member className) (objectAccess self member className) := by
  refine .andThen fun v ⟨args, args', same⟩ => ?_
  have := Alike.mk same
  cases className with
  | some className => infer_instance
  | none => obtain ⟨rfl, rfl⟩ | ⟨_, _, _, _, rfl, rfl, _, _⟩ := this.list <;> infer_instance

end Control

/-! ## Steps -/

section Steps

variable (self : Reentry) [Mirrors e self]

instance (x y : Run Unit) [Sim e w x y] : Sim e w (thenNormal x) (thenNormal y) := by
  unfold thenNormal
  infer_instance

/-- A step does the same in other places. -/
instance sim_step (resume : Option Cursor) (i : Instruction) :
    Sim e w (step self resume i) (step self resume i) := by
  cases i <;> unfold step <;> infer_instance

end Steps

/-! ## Blocks -/

section Blocks

instance (line : UInt32) (result result' : Except Fault Flow) [h : Alike w result result'] :
    Sim e w (flowOfStep line result) (flowOfStep line result') := by
  obtain ⟨x, x', rfl, rfl, failed⟩ | ⟨flow, flow', rfl, rfl, ended⟩ := h.except
  · have fatal : x.isFatal = x'.isFatal := Alike.eq (w := w) inferInstance
    cases failed.rel with
    | thrown same =>
      have := Alike.mk same
      unfold flowOfStep
      infer_instance
    | other ne =>
      cases x with
      | thrown c => exact absurd rfl (ne c)
      | _ =>
        unfold flowOfStep
        infer_instance
  · unfold flowOfStep
    infer_instance

instance (index : Nat) (flow flow' : Flow) [h : Alike w flow flow'] :
    Alike w (leaveAt index flow) (leaveAt index flow') := by
  cases h.rel with
  | yield cursor | callcc cursor => cases cursor <;> unfold leaveAt <;> infer_instance
  | _ => exact h

theorem sim_steps {perform : Option Cursor → Instruction → Run Flow}
    (h : ∀ v resume i, Sim e v (perform resume i) (perform resume i)) (w : Links) (index : Nat)
    (resume : Option Cursor) (list : List Step) :
    Sim e w (steps perform index resume list) (steps perform index resume list) := by
  induction list generalizing index resume w with
  | nil =>
    unfold steps
    infer_instance
  | cons step rest ih =>
    cases step with
    | mk line instruction =>
      unfold steps
      refine .andThen fun v _ => .andThen fun v' result => .except (fun v'' f => inferInstance)
        fun v'' flow => ?_
      obtain ⟨flow, flow', same⟩ := flow
      cases same with
      | normal => exact ih v''.now (index + 1) none
      | _ => infer_instance

instance (source : Option String) (marks : Marks) (outcome outcome' : Except Fault Flow)
    (c c' : Context) [ho : Alike w outcome outcome'] [hc : Alike w c c'] :
    Alike w (closing source marks outcome c) (closing source marks outcome' c') := by
  obtain ⟨x, x', rfl, rfl, failed⟩ | ⟨flow, flow', rfl, rfl, ended⟩ := ho.except
  · exact inferInstanceAs (Alike w (c.unwind marks false) (c'.unwind marks false))
  · have suspends : flow.suspends = flow'.suspends := Alike.eq (w := w) inferInstance
    have unwound : Alike w (c.unwind marks flow.suspends) (c'.unwind marks flow'.suspends) := by
      rw [suspends]
      infer_instance
    cases ended.rel with
    | normal =>
      unfold closing
      infer_instance
    | _ => exact unwound

theorem sim_blockBy {perform : Option Cursor → Instruction → Run Flow}
    (h : ∀ v resume i, Sim e v (perform resume i) (perform resume i)) (w : Links) (b : Block)
    (resume : Option Cursor) :
    Sim e w (blockBy perform b resume) (blockBy perform b resume) := by
  have performed (v : Links) (start : Nat) (inner : Option Cursor) :=
    sim_steps h v start inner (b.steps.drop start)
  unfold blockBy bracket
  infer_instance

/-- An evaluator on top of one that does the same in other places. -/
instance mirrors_next (n : Nat) (self : Unit → Reentry) [h : Mirrors e (self ())] :
    Mirrors e (next n self) where
  block w b resume := sim_blockBy (fun _ _ _ => inferInstance) w b resume
  call _ c c' message args args' _ _ := sim_callValue (self ()) args args' c c' message
  invoke _ f f' message args args' _ _ := sim_invoke (self ()) args args' f f' message

/-- The evaluator does the same in other places. -/
instance mirrors_reentry (n : Nat) : Mirrors e (reentry n) := by
  induction n with
  | zero =>
    have exhausted {α : Type} [Paired α] (w : Links) :
        Sim e w (throw .exhausted : Run α) (throw .exhausted) := inferInstance
    exact ⟨fun w _ _ => exhausted w, fun w _ _ _ _ _ _ _ => exhausted w,
      fun w _ _ _ _ _ _ _ => exhausted w⟩
  | succ n ih => exact inferInstanceAs (Mirrors e (next n fun _ => reentry n))

end Blocks

end CellScript.Mirror
