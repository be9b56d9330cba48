import CellScript.Proofs.Machine.Stack
import CellScript.Proofs.Map.Entries

/-!
# Names in chains of levels

What a name stands for depends on the current level only: on its containers, the private variables
of its closure and the global variables. Any of these containers may be found on other levels as
well. Whatever requests there have been to a chain, and whatever containers they have named, a name
that is bound is found, calls take their levels off and leave those of their callers alone, and what
names stand for is left alone by a call that puts no name in a container that its caller can see.

## Main definitions

* `ScopeRequest`, `ScopeState` — the operations of a chain, and a chain with the heap that its
  containers are in.
* `ScopeRequest.Balanced` — requests that take off the levels that they push, and no others.
* `ScopeState.KeepsOff` — requests that put no names in certain containers.

## Main statements

* `ScopeChain.lookup?_bind`, `ScopeChain.lookup?_bind_of_ne` — what names stand for when one has
  been bound.
* `ScopeChain.mem_visibleNames_iff`, `ScopeChain.nodup_visibleNames` — the names that are visible.
* `ScopeState.bases_after` — the containers that calls have of their own are a stack of which the
  last one stays.
* `ScopeState.scope_after_call`, `ScopeState.lookup?_after_call` — what a call leaves of the scope
  of its caller.
* `ScopeState.scoping_laws` — all of this after any requests.
-/

namespace CellScript

variable {h h' : Heap} {name other : String} {cell : CellRef} {v : VarsRef}

/-! ## Names in containers -/

namespace Heap

theorem findVariable?_putVariable (h : Heap) (vars w : VarsRef) (name other : String)
    (cell : CellRef) :
    (h.putVariable vars name cell).findVariable? w other =
      if w = vars ∧ other = name ∧ vars.index < h.vars.size then some cell
        else h.findVariable? w other := by
  obtain ⟨i⟩ := vars
  obtain ⟨j⟩ := w
  simp only [findVariable?, putVariable, Array.getD_eq_getD_getElem?, Array.getElem?_modify,
    VarsRef.mk.injEq]
  by_cases same : i = j
  · subst same
    by_cases inside : i < h.vars.size
    · by_cases named : other = name
      · simp [inside, named, Dictionary.get?_insert_self]
      · simp [inside, named, Dictionary.get?_insert_of_ne _ (Ne.symm named)]
    · simp [inside]
  · simp [same, Ne.symm same]

/-- A new container holds no names, so it makes no difference where there was none. -/
theorem findVariable?_newVars (h : Heap) (v : VarsRef) (name : String) :
    h.newVars.2.findVariable? v name = h.findVariable? v name := by
  simp only [findVariable?, newVars, Array.getD_eq_getD_getElem?, Array.getElem?_push]
  split
  case isTrue new =>
    rw [new, Array.getElem?_eq_none (Nat.le_refl _)]
    rfl
  case isFalse => rfl

theorem mem_variableNames_iff : name ∈ h.variableNames v ↔ h.hasVariable v name :=
  Dictionary.mem_keys_iff

/-- Where the containers before have no such name, the one that gets it is found. -/
theorem findSome?_putVariable {vars : VarsRef} (inside : vars.index < h.vars.size)
    {before : List VarsRef} (absent : ∀ w ∈ before, h.findVariable? w name = none)
    (after : List VarsRef) (cell : CellRef) :
    (before ++ vars :: after).findSome? ((h.putVariable vars name cell).findVariable? · name) =
      some cell := by
  induction before with
  | nil => simp [findVariable?_putVariable, inside]
  | cons w before ih =>
    rw [List.cons_append, List.findSome?_cons, findVariable?_putVariable,
      absent w List.mem_cons_self, ih fun w later => absent w (List.mem_cons_of_mem _ later)]
    split <;> simp_all

theorem inside_of_hasVariable {vars : VarsRef} (held : h.hasVariable vars name) :
    vars.index < h.vars.size := by
  by_contra outside
  have missing := Array.getElem?_eq_none (Nat.le_of_not_lt outside)
  rw [hasVariable, findVariable?, Array.getD_eq_getD_getElem?, missing] at held
  cases held

end Heap

/-! ## Names in chains -/

theorem nodup_eraseDups {α : Type} [BEq α] [LawfulBEq α] : ∀ l : List α, l.eraseDups.Nodup
  | [] => .nil
  | a :: l => by
    rw [List.eraseDups_cons, List.nodup_cons]
    exact ⟨by simp, nodup_eraseDups _⟩
termination_by l => l.length
decreasing_by exact Nat.lt_succ_of_le (List.length_filter_le _ l)

namespace ScopeChain

variable {s : ScopeChain}

/-- A name stands for the cell that it was bound to. -/
theorem lookup?_bind (inside : s.global.index < h.vars.size) :
    s.lookup? (s.bind h name cell) name = some cell := by
  unfold lookup? bind
  cases found : s.find? h name with
  | some vars =>
    obtain ⟨held, before, after, place, absent⟩ := List.find?_eq_some_iff_append.mp found
    rw [place]
    refine Heap.findSome?_putVariable (Heap.inside_of_hasVariable held) (fun w early => ?_)
      after cell
    simpa [Heap.hasVariable] using absent w early
  | none =>
    have absent := List.find?_eq_none.mp found
    refine Heap.findSome?_putVariable inside (fun w early => ?_) [] cell
    simpa [Heap.hasVariable] using absent w (List.mem_append_left _ early)

theorem lookup?_bind_of_ne (apart : other ≠ name) :
    s.lookup? (s.bind h name cell) other = s.lookup? h other := by
  unfold lookup? bind
  simp only [Heap.findVariable?_putVariable, apart, false_and, and_false, if_false]

theorem lookup?_pushLocal (s : ScopeChain) {vars : VarsRef}
    (found : h.findVariable? vars name = some cell) :
    (s.pushLocal vars).lookup? h name = some cell := by
  unfold pushLocal modifyCurrent
  cases s.levels <;> simp [lookup?, containers, current, ScopeLevel.locals, ScopeLevel.push, found]

/-- What names stand for depends on the containers of the chain. -/
theorem lookup?_congr
    (same : ∀ v ∈ s.containers, h'.findVariable? v name = h.findVariable? v name) :
    s.lookup? h' name = s.lookup? h name := by
  unfold lookup?
  generalize s.containers = containers at same
  induction containers with
  | nil => rfl
  | cons v containers ih =>
    rw [List.findSome?_cons, List.findSome?_cons, same v List.mem_cons_self,
      ih fun w later => same w (List.mem_cons_of_mem _ later)]

/-- The visible names are those that stand for something. -/
theorem mem_visibleNames_iff : name ∈ s.visibleNames h ↔ (s.lookup? h name).isSome := by
  simp only [visibleNames, lookup?, List.mem_eraseDups, List.mem_flatMap, List.findSome?_isSome_iff,
    Heap.mem_variableNames_iff, Heap.hasVariable]

theorem nodup_visibleNames (s : ScopeChain) (h : Heap) : (s.visibleNames h).Nodup :=
  nodup_eraseDups _

/-- The containers that calls have of their own, that of the current call first. -/
def bases (s : ScopeChain) : List VarsRef :=
  s.all.map (·.base)

theorem bases_modifyCurrent (s : ScopeChain) {f : ScopeLevel → ScopeLevel}
    (same : ∀ l, (f l).base = l.base) :
    (s.modifyCurrent f).bases = s.bases := by
  unfold bases all modifyCurrent
  cases s.levels <;> simp [same]

theorem getLast?_bases (s : ScopeChain) : s.bases.getLast? = some s.base.base := by
  simp [bases, all]

end ScopeChain

theorem ScopeLevel.getLast?_locals (l : ScopeLevel) : l.locals.getLast? = some l.base :=
  List.getLast?_concat

/-! ## Requests -/

/-- An operation of a chain, or a new container. -/
inductive ScopeRequest where
  | newVars
  | pushLevel (level : ScopeLevel)
  | popLevel
  | pushLocal (vars : VarsRef)
  | popLocal
  | truncateLocals (depth : Nat)
  | bind (name : String) (cell : CellRef)
  | declareLocal (name : String) (cell : CellRef)
  | declareThis (name : String) (cell : CellRef)

/-- A chain and the heap that its containers are in. -/
structure ScopeState where
  scope : ScopeChain
  heap : Heap

/-- What a name stands for. -/
def ScopeState.lookup? (σ : ScopeState) (name : String) : Option CellRef :=
  σ.scope.lookup? σ.heap name

/-- The names that stand for something. -/
def ScopeState.visibleNames (σ : ScopeState) : List String :=
  σ.scope.visibleNames σ.heap

namespace ScopeRequest

def perform (σ : ScopeState) : ScopeRequest → ScopeState
  | newVars => { σ with heap := σ.heap.newVars.2 }
  | pushLevel level => { σ with scope := σ.scope.pushLevel level }
  | popLevel => { σ with scope := σ.scope.popLevel.2 }
  | pushLocal vars => { σ with scope := σ.scope.pushLocal vars }
  | popLocal => { σ with scope := σ.scope.popLocal }
  | truncateLocals depth => { σ with scope := σ.scope.truncateLocals depth }
  | bind name cell => { σ with heap := σ.scope.bind σ.heap name cell }
  | declareLocal name cell => { σ with heap := σ.scope.declareLocal σ.heap name cell }
  | declareThis name cell => { σ with heap := (σ.scope.declareThis σ.heap name cell).2 }

/-- The container that a request puts a name in. A private variable that is there already is not
declared again. -/
def target? (σ : ScopeState) : ScopeRequest → Option VarsRef
  | bind name _ => some ((σ.scope.find? σ.heap name).getD σ.scope.global)
  | declareLocal _ _ => some σ.scope.current.top
  | declareThis name _ => σ.scope.current.this.filter fun this => !σ.heap.hasVariable this name
  | _ => none

/-- Levels come with a container of their own and go with it. The container of the last level
stays. -/
def onBases : ScopeRequest → List VarsRef → List VarsRef
  | pushLevel level, bases => level.base :: bases
  | popLevel, _ :: below :: bases => below :: bases
  | _, bases => bases

/-- A level, what is requested while it is there, and it is taken off. -/
def call (level : ScopeLevel) (inner : List ScopeRequest) : List ScopeRequest :=
  pushLevel level :: (inner ++ [popLevel])

/-- Requests that neither push a level nor take one off. -/
def Stays : ScopeRequest → Prop
  | pushLevel _ | popLevel => False
  | _ => True

/-- All levels that are pushed are taken off again, and no others are. -/
inductive Balanced : List ScopeRequest → Prop
  | nil : Balanced []
  | stay {request : ScopeRequest} {rest : List ScopeRequest} (stays : request.Stays)
    (balanced : Balanced rest) :
    Balanced (request :: rest)
  | call (level : ScopeLevel) {inner rest : List ScopeRequest} (inside : Balanced inner)
    (balanced : Balanced rest) :
    Balanced (call level inner ++ rest)

end ScopeRequest

open ScopeRequest

namespace ScopeState

variable {σ : ScopeState} {request : ScopeRequest} {requests inner : List ScopeRequest}
  {W : List VarsRef}

/-- The state after requests, one after the other. -/
def after (σ : ScopeState) (requests : List ScopeRequest) : ScopeState :=
  requests.foldl (fun σ request => request.perform σ) σ

/-- Requests put no names in the containers `W`. -/
def KeepsOff (W : List VarsRef) : ScopeState → List ScopeRequest → Prop
  | _, [] => True
  | σ, request :: rest => (∀ v ∈ request.target? σ, v ∉ W) ∧ KeepsOff W (request.perform σ) rest

instance decidableKeepsOff (W : List VarsRef) : (σ : ScopeState) → (requests : List ScopeRequest) →
    Decidable (KeepsOff W σ requests)
  | _, [] => .isTrue trivial
  | σ, request :: rest =>
    have := decidableKeepsOff W (request.perform σ) rest
    inferInstanceAs (Decidable (_ ∧ _))

@[simp] theorem after_cons (σ : ScopeState) (request : ScopeRequest)
    (requests : List ScopeRequest) :
    σ.after (request :: requests) = (request.perform σ).after requests := rfl

@[simp] theorem after_append (σ : ScopeState) (requests more : List ScopeRequest) :
    σ.after (requests ++ more) = (σ.after requests).after more :=
  List.foldl_append

/-- What every request keeps holds after any requests. -/
theorem after_induction {P : ScopeState → Prop}
    (step : ∀ (σ : ScopeState) (request : ScopeRequest), P σ → P (request.perform σ)) (start : P σ)
    (requests : List ScopeRequest) : P (σ.after requests) := by
  induction requests generalizing σ with
  | nil => exact start
  | cons request requests ih => exact ih (step σ request start)

/-! ## Containers -/

/-- A request makes a container, or puts a name in one, or leaves the heap alone. -/
theorem heap_perform (σ : ScopeState) (request : ScopeRequest) : (request.perform σ).heap = σ.heap ∨
    (request.perform σ).heap = σ.heap.newVars.2 ∨ ∃ vars name cell,
      request.target? σ = some vars ∧
        (request.perform σ).heap = σ.heap.putVariable vars name cell := by
  cases request with
  | newVars => exact .inr (.inl rfl)
  | pushLevel | popLevel | pushLocal | popLocal | truncateLocals => exact .inl rfl
  | bind name cell | declareLocal name cell => exact .inr (.inr ⟨_, name, cell, rfl, rfl⟩)
  | declareThis name cell =>
    simp only [ScopeRequest.perform, ScopeChain.declareThis, target?]
    cases σ.scope.current.this with
    | none => exact .inl rfl
    | some this =>
      cases there : σ.heap.hasVariable this name with
      | true => exact .inl (by simp [there])
      | false => exact .inr (.inr ⟨this, name, cell, by simp [there], by simp [there]⟩)

/-- A request leaves the names of all containers alone but the one that it puts a name in. -/
theorem findVariable?_perform (apart : ∀ w ∈ request.target? σ, w ≠ v) (name : String) :
    (request.perform σ).heap.findVariable? v name = σ.heap.findVariable? v name := by
  rcases heap_perform σ request with same | new | ⟨vars, named, cell, target, put⟩
  · rw [same]
  · rw [new, Heap.findVariable?_newVars]
  · rw [put, Heap.findVariable?_putVariable, if_neg fun same => apart vars target same.1.symm]

theorem global_perform (σ : ScopeState) (request : ScopeRequest) :
    (request.perform σ).scope.global = σ.scope.global := by
  cases request with
  | pushLocal | popLocal | truncateLocals => exact σ.scope.global_modifyCurrent _
  | newVars | pushLevel | popLevel | bind | declareLocal | declareThis => rfl

/-- Containers do not go away. -/
theorem size_perform (σ : ScopeState) (request : ScopeRequest) :
    σ.heap.vars.size ≤ (request.perform σ).heap.vars.size := by
  rcases heap_perform σ request with same | new | ⟨vars, name, cell, -, put⟩
  · exact Nat.le_of_eq (congrArg (·.vars.size) same.symm)
  · rw [new]
    exact (Heap.keepsBut_newVars none σ.heap).1
  · rw [put]
    exact (Heap.keepsBut_putVariable σ.heap vars name cell).1

/-- The global variables are in the heap at all times. -/
theorem global_lt_after (known : σ.scope.global.index < σ.heap.vars.size)
    (requests : List ScopeRequest) :
    (σ.after requests).scope.global.index < (σ.after requests).heap.vars.size := by
  refine after_induction (P := fun σ => σ.scope.global.index < σ.heap.vars.size) ?_ known requests
  intro σ request inside
  rw [global_perform]
  exact Nat.lt_of_lt_of_le inside (size_perform σ request)

theorem KeepsOff.findVariable? (off : σ.KeepsOff W requests) (hv : v ∈ W) (name : String) :
    (σ.after requests).heap.findVariable? v name = σ.heap.findVariable? v name := by
  induction requests generalizing σ with
  | nil => rfl
  | cons request requests ih =>
    obtain ⟨first, rest⟩ := off
    have apart : ∀ w ∈ request.target? σ, w ≠ v := by
      rintro w target rfl
      exact first w target hv
    rw [after_cons, ih rest, findVariable?_perform apart]

/-! ## Levels -/

theorem bases_perform (σ : ScopeState) (request : ScopeRequest) :
    (request.perform σ).scope.bases = request.onBases σ.scope.bases := by
  cases request with
  | popLevel =>
    obtain ⟨⟨base, levels, global⟩, h⟩ := σ
    rcases levels with _ | ⟨level, _ | ⟨below, levels⟩⟩ <;> rfl
  | pushLocal | popLocal | truncateLocals => exact σ.scope.bases_modifyCurrent fun _ => rfl
  | newVars | pushLevel | bind | declareLocal | declareThis => rfl

/-- Requests work on the containers that calls have of their own as on a stack. -/
theorem bases_after (σ : ScopeState) (requests : List ScopeRequest) :
    (σ.after requests).scope.bases =
      requests.foldl (fun bases request => request.onBases bases) σ.scope.bases := by
  induction requests generalizing σ with
  | nil => rfl
  | cons request requests ih => rw [after_cons, ih, bases_perform, List.foldl_cons]

theorem base_perform (σ : ScopeState) (request : ScopeRequest) :
    (request.perform σ).scope.base.base = σ.scope.base.base := by
  cases request with
  | pushLocal | popLocal | truncateLocals => exact σ.scope.base_modifyCurrent fun _ => rfl
  | newVars | pushLevel | popLevel | bind | declareLocal | declareThis => rfl

theorem base_after (σ : ScopeState) (requests : List ScopeRequest) :
    (σ.after requests).scope.base.base = σ.scope.base.base :=
  after_induction (P := fun τ => τ.scope.base.base = σ.scope.base.base)
    (fun τ request same => (base_perform τ request).trans same) rfl requests

theorem sameCall_perform (stays : request.Stays) (σ : ScopeState) :
    σ.scope.SameCall (request.perform σ).scope := by
  cases request with
  | pushLevel | popLevel => exact stays.elim
  | pushLocal vars => exact .of_inner σ.scope (vars :: ·)
  | popLocal => exact .popLocal σ.scope
  | truncateLocals depth =>
    exact .of_inner σ.scope fun inner => inner.drop (inner.length - (depth - 1))
  | newVars | bind | declareLocal | declareThis => exact .refl σ.scope

/-- Requests that are balanced push containers on the current level and take them off, and do
nothing else to the chain. -/
theorem sameCall_after (balanced : Balanced requests) (σ : ScopeState) :
    σ.scope.SameCall (σ.after requests).scope := by
  induction balanced generalizing σ with
  | nil => exact .refl σ.scope
  | stay stays _ ih => exact (sameCall_perform stays σ).trans (ih _)
  | call level _ _ inside ih =>
    have called := (inside ((pushLevel level).perform σ)).popLevel.1
    rw [call, List.cons_append, List.append_assoc, after_cons, after_append]
    exact called ▸ ih _

/-- A call takes its level off, and no other. -/
theorem scope_after_call (balanced : Balanced inner) (level : ScopeLevel) (σ : ScopeState) :
    (σ.after (call level inner)).scope = σ.scope := by
  rw [call, after_cons, after_append]
  exact (sameCall_after balanced ((pushLevel level).perform σ)).popLevel.1

/-- When a call puts no names in containers that its caller can see, names stand for what they stood
for. -/
theorem lookup?_after_call {level : ScopeLevel} (balanced : Balanced inner)
    (off : σ.KeepsOff σ.scope.containers (call level inner)) (name : String) :
    (σ.after (call level inner)).lookup? name = σ.lookup? name := by
  unfold lookup?
  rw [scope_after_call balanced]
  exact ScopeChain.lookup?_congr fun v hv => off.findVariable? hv name

/-! ## A container that is shared -/

/-- A store of global variables, and a container that is to be shared. -/
def sharedHeap : Heap :=
  { Heap.empty with vars := #[⟨[("$g", ⟨0⟩)]⟩, ⟨[("$s", ⟨1⟩)]⟩] }

/-- A new chain over the global variables. -/
def sharedStart : ScopeState :=
  ⟨⟨.ofBase ⟨2⟩ none, [], ⟨0⟩⟩, sharedHeap.newVars.2⟩

/-- Into a call that has the container for its own, and the global variables for private ones. -/
def enterShared : List ScopeRequest :=
  [.newVars, .popLevel, .popLocal, .pushLevel ⟨⟨1⟩, [], some ⟨0⟩⟩, .declareThis "$p" ⟨2⟩]

/-- Names are bound and declared in a new container, also by a call within the call, which has the
shared container for its private variables. -/
def useLocals : List ScopeRequest :=
  [.pushLocal ⟨3⟩, .declareLocal "$s" ⟨3⟩, .bind "$s" ⟨4⟩] ++
    (call (.ofBase ⟨3⟩ (some ⟨1⟩)) [.declareThis "$s" ⟨5⟩, .declareLocal "$t" ⟨5⟩] ++
      [.truncateLocals 0, .popLocal])

theorem balanced_useLocals : Balanced useLocals :=
  .stay trivial (.stay trivial (.stay trivial
    (.call _ (.stay trivial (.stay trivial .nil)) (.stay trivial (.stay trivial .nil)))))

/-! ## Laws -/

/-- After any requests to a chain that was made over global variables, whatever containers they have
named: a name that is bound stands for its cell, and all others for what they stood for. The visible
names are listed once each, and are those that stand for something. The containers that calls have
of their own come and go with their levels, but that of the chain, which is always the last one, and
all levels have theirs. A call that puts no names in the containers that its caller can see leaves
the chain and what names stand for as they were. -/
theorem scoping_laws {global : VarsRef} {h : Heap} {start : ScopeState}
    (known : global.index < h.vars.size)
    (created : ScopeChain.create global h = (.ok start.scope, start.heap))
    (requests : List ScopeRequest) :
    let σ := start.after requests
    (∀ name cell, ((bind name cell).perform σ).lookup? name = some cell ∧
      ∀ other, other ≠ name → ((bind name cell).perform σ).lookup? other = σ.lookup? other) ∧
    (σ.visibleNames.Nodup ∧ ∀ name, name ∈ σ.visibleNames ↔ (σ.lookup? name).isSome) ∧
    (σ.scope.bases = requests.foldl (fun bases request => request.onBases bases)
      [start.scope.base.base] ∧
      σ.scope.bases.getLast? = some start.scope.base.base ∧
      ∀ level ∈ σ.scope.all, level.locals.getLast? = some level.base) ∧
    ∀ level inner, Balanced inner → σ.KeepsOff σ.scope.containers (call level inner) →
      (σ.after (call level inner)).scope = σ.scope ∧
        ∀ name, (σ.after (call level inner)).lookup? name = σ.lookup? name := by
  obtain ⟨scope, heap⟩ := start
  cases created
  intro σ
  have inside : σ.scope.global.index < σ.heap.vars.size :=
    global_lt_after (Nat.lt_of_lt_of_le known (Heap.keepsBut_newVars none h).1) requests
  refine ⟨fun name cell => ?_, ?_, ?_, fun level inner balanced off => ?_⟩
  · exact ⟨ScopeChain.lookup?_bind inside, fun other apart => ScopeChain.lookup?_bind_of_ne apart⟩
  · exact ⟨σ.scope.nodup_visibleNames σ.heap, fun name => ScopeChain.mem_visibleNames_iff⟩
  · exact ⟨bases_after _ requests,
      σ.scope.getLast?_bases.trans (congrArg some (base_after _ requests)),
      fun level _ => level.getLast?_locals⟩
  · exact ⟨scope_after_call balanced level σ, lookup?_after_call balanced off⟩

/-- In the call the name of the shared container stands for something else, and afterwards for what
it stood for. -/
theorem scoping_laws_shared :
    let σ := sharedStart.after enterShared
    (((bind "$g" ⟨6⟩).perform σ).lookup? "$g" = some ⟨6⟩ ∧
      ((bind "$g" ⟨6⟩).perform σ).lookup? "$p" = some ⟨2⟩) ∧
    (σ.visibleNames.Nodup ∧ "$s" ∈ σ.visibleNames) ∧
    σ.scope.bases = [⟨1⟩, ⟨2⟩] ∧
    (σ.after (pushLevel (.ofBase ⟨3⟩ none) :: useLocals.take 3)).lookup? "$s" = some ⟨4⟩ ∧
    (σ.after (call (.ofBase ⟨3⟩ none) useLocals)).lookup? "$s" = some ⟨1⟩ := by
  intro σ
  obtain ⟨bound, ⟨nodup, visible⟩, ⟨bases, -, -⟩, calls⟩ :=
    @scoping_laws ⟨0⟩ sharedHeap sharedStart (by decide) rfl enterShared
  obtain ⟨-, kept⟩ := calls (.ofBase ⟨3⟩ none) useLocals balanced_useLocals (by decide +kernel)
  obtain ⟨this, others⟩ := bound "$g" ⟨6⟩
  refine ⟨⟨this, (others "$p" (by decide)).trans (by decide +kernel)⟩, ⟨nodup, ?_⟩,
    bases, by decide +kernel, ?_⟩
  · exact (visible "$s").mpr (by decide +kernel)
  · exact (kept "$s").trans (by decide +kernel)

end ScopeState

end CellScript
