import CellScript.Machine.Basic
import CellScript.Proofs.Mirror.Link
import CellScript.Sort

/-!
# Computations that do the same in other places

A computation on the second machine follows one on the first when both come to the same, up to the
places of data: from states that are alike they lead to states that are alike, with results that are
alike. New places are linked on the way. What the second machine holds besides is left as it is.

Following is a class, so that it is found for a computation when it is found for its parts.

A machine holds its data of a kind in an array. Two machines hold them alike when what stands for
each other is alike.

## Main definitions

* `Surroundings` — what the second machine holds besides.
* `Setting` — what it means for states to be alike.
* `Following`, `Sim` — one computation follows another.
* `Pool` — data of a kind in two machines.
* `Pool.grow` — the links after a new place was made on both sides.

## Main statements

* `Sim.andThen`, `Sim.next`, `Sim.option`, `Sim.entry`, `Sim.except` — the rules for computations
  one after another.
* `sim_forIn`, `sim_mapM`, `sim_filterM`, `sim_sortBy` — the rules for loops over lists.
* `Pool.modify`, `Pool.set`, `Pool.push` — what is done to both sides keeps them alike.
-/

namespace CellScript.Mirror

/-- What a machine holds that another one has no part in: the places that are kept, and what they
hold. -/
structure Surroundings where
  kept : Kind → Nat → Prop
  machine : Machine

/-- What it means for states of two machines to be alike, in surroundings that are kept. -/
class Setting (σ : Type) where
  alike : Surroundings → Links → σ → σ → Prop

/-- What it means for one computation to follow another, from links on. -/
class Following (m : Type → Type) [Monad m] where
  sim : {α : Type} → [Paired α] → Surroundings → Links → m α → m α → Prop
  pure : ∀ {α : Type} [Paired α] {e : Surroundings} {w : Links} {a b : α}, Alike w a b →
    sim e w (pure a) (pure b)
  bind : ∀ {α β : Type} [Paired α] [Paired β] {e : Surroundings} {w : Links} {x y : m α} {f g : α →
    m β}, sim e w x y →
    (∀ (v : w.Later) (p : Both v.now α), sim e v.now (f p.left) (g p.right)) →
    sim e w (x >>= f) (y >>= g)

/-- From states that are alike, two computations come to the same. -/
class Sim {m : Type → Type} [Monad m] [Following m] {α : Type} [Paired α] (e : Surroundings)
    (w : Links) (x y : m α) :
    Prop where
  follows : Following.sim e w x y

variable {e : Surroundings} {w : Links} {σ ε α β : Type}

/-! ## Computations with a state -/

section State

variable [Setting σ] [Paired α]

/-- Two computations have come to the same. -/
def Meet (e : Surroundings) (w : Links) (r r' : α × σ) : Prop :=
  ∃ v : w.Later, Setting.alike e v.now r.2 r'.2 ∧ Alike v.now r.1 r'.1

instance : Following (StateM σ) where
  sim e w x y := ∀ s s', Setting.alike e w s s' → Meet e w (x s) (y s')
  pure {_ _ _ w _ _} alike _ _ states := ⟨w.here, states, alike⟩
  bind {_ _ _ _ e w x y f g} hx hf s s' states := by
    change Meet e w (f (x s).1 (x s).2) (g (y s').1 (y s').2)
    obtain ⟨v, states, results⟩ := hx s s' states
    obtain ⟨v', states, results⟩ := hf v ⟨_, _, results.rel⟩ _ _ states
    exact ⟨v.after v', states, results⟩

instance [Paired ε] {m : Type → Type} [Monad m] [Following m] : Following (ExceptT ε m) where
  sim e w x y := Following.sim e w x.run y.run
  pure alike := Following.pure (inferInstance : Alike _ (Except.ok _) (Except.ok _))
  bind hx hf := Following.bind hx fun v p => by
    obtain ⟨_, _, same | same⟩ := p
    · exact hf v ⟨_, _, same⟩
    · have := Alike.mk same
      exact Following.pure (inferInstance : Alike _ (Except.error _) (Except.error _))

end State

/-- A computation without a state that may fail. -/
instance [Paired ε] : Following (Except ε) where
  sim _ w x y := Alike w x y
  pure alike := ⟨.ok alike.rel⟩
  bind {_ _ _ _ _ w _ _ _ _} hx hf := by
    obtain ⟨f, g, rfl, rfl, failed⟩ | ⟨a, b, rfl, rfl, same⟩ := hx.except
    · exact ⟨.error failed.rel⟩
    · exact hf w.here ⟨a, b, same.rel⟩

theorem Sim.alike [Paired ε] [Paired α] {x y : Except ε α} (h : Sim e w x y) : Alike w x y :=
  h.follows

instance (priority := low) [Paired ε] [Paired α] (x y : Except ε α) [h : Alike w x y] :
    Sim e w x y := ⟨h⟩

/-! ## Rules -/

section Rules

variable {m : Type → Type} [Monad m] [Following m] [Paired α] [Paired β]

instance (a b : α) [h : Alike w a b] : Sim e w (pure a : m α) (pure b) := ⟨Following.pure h⟩

/-- One computation after another. -/
theorem Sim.seq {x y : m α} {f g : α → m β} (hx : Sim e w x y)
    (h : ∀ (v : w.Later) (p : Both v.now α), Sim e v.now (f p.left) (g p.right)) :
    Sim e w (x >>= f) (y >>= g) :=
  ⟨Following.bind hx.follows fun v p => (h v p).follows⟩

theorem Sim.andThen {x y : m α} {f g : α → m β} [hx : Sim e w x y]
    (h : ∀ (v : w.Later) (p : Both v.now α), Sim e v.now (f p.left) (g p.right)) :
    Sim e w (x >>= f) (y >>= g) :=
  hx.seq h

instance (x y : m α) (f g : α → m β) [Sim e w x y]
    [h : ∀ (v : w.Later) (p : Both v.now α), Sim e v.now (f p.left) (g p.right)] :
    Sim e w (x >>= f) (y >>= g) :=
  .andThen h

/-- One computation after another, where the result of the first has no references. -/
theorem Sim.next [Discrete α] {x y : m α} {f g : α → m β} [Sim e w x y]
    (h : ∀ (v : w.Later) (a : α), Sim e v.now (f a) (g a)) : Sim e w (x >>= f) (y >>= g) := by
  refine .andThen fun v ⟨a, b, rel⟩ => ?_
  obtain rfl : a = b := Discrete.rel_iff.mp rel
  exact h v a

instance [Discrete α] (x y : m α) (f g : α → m β) [Sim e w x y]
    [h : ∀ (v : w.Later) (a : α), Sim e v.now (f a) (g a)] : Sim e w (x >>= f) (y >>= g) := .next h

/-- One computation after another, where the first may come to nothing. -/
theorem Sim.option {x y : m (Option α)} {f g : Option α → m β} [Sim e w x y]
    (none : ∀ v : w.Later, Sim e v.now (f none) (g none))
    (some : ∀ (v : w.Later) (p : Both v.now α), Sim e v.now (f (some p.left)) (g (some p.right))) :
    Sim e w (x >>= f) (y >>= g) := by
  refine .andThen fun v ⟨a, b, same⟩ => ?_
  obtain ⟨rfl, rfl⟩ | ⟨a, b, rfl, rfl, found⟩ := (Alike.mk same).option
  · exact none v
  · exact some v ⟨a, b, found.rel⟩

instance (x y : m (Option α)) (f g : Option α → m β) [Sim e w x y]
    [none : ∀ v : w.Later, Sim e v.now (f none) (g none)]
    [some : ∀ (v : w.Later) (p : Both v.now α), Sim e v.now (f (some p.left)) (g (some p.right))] :
    Sim e w (x >>= f) (y >>= g) := .option none some

/-- One computation after another, where the first may come to an entry. -/
theorem Sim.entry {x y : m (Option (String × α))} {f g : Option (String × α) → m β} [Sim e w x y]
    (none : ∀ v : w.Later, Sim e v.now (f none) (g none))
    (some : ∀ (v : w.Later) (name : String) (p : Both v.now α),
      Sim e v.now (f (some (name, p.left))) (g (some (name, p.right)))) : Sim e w (x >>=
        f) (y >>= g) :=
  .option none fun v p => by
    obtain ⟨name, a, b, left, right, same⟩ := (Alike.mk p.rel).entry
    rw [left, right]
    exact some v name ⟨a, b, same.rel⟩

/-- One computation after another, where the first comes to a pair. -/
theorem Sim.pair {γ : Type} [Paired γ] {x y : m (α × γ)} {f g : α × γ → m β} [Sim e w x y]
    (h : ∀ (v : w.Later) (p : Both v.now α) (q : Both v.now γ),
      Sim e v.now (f (p.left, q.left)) (g (p.right, q.right))) :
    Sim e w (x >>= f) (y >>= g) :=
  .andThen fun v ⟨_, _, both⟩ => h v ⟨_, _, both.1⟩ ⟨_, _, both.2⟩

instance (c : Prop) [Decidable c] (x y x' y' : m α) [Sim e w x y] [Sim e w x' y'] :
    Sim e w (if c then x else x') (if c then y else y') := by
  split <;> infer_instance

instance (c d : Bool) (x y x' y' : m α) [h : Alike w c d] [Sim e w x y] [Sim e w x' y'] :
    Sim e w (if c then x else x') (if d then y else y') := by
  rw [h.eq]
  infer_instance

/-! ### Failures -/

section Failures

variable [Paired ε]

instance (a b : ε) [h : Alike w a b] : Sim e w (throw a : ExceptT ε m α) (throw b) :=
  ⟨Following.pure (inferInstance : Alike w (Except.error a) (Except.error b))⟩

/-- A computation that cannot fail. -/
instance [LawfulMonad m] (x y : m α) [Sim e w x y] :
    Sim e w (ExceptT.lift x : ExceptT ε m α) (ExceptT.lift y) := by
  have lifted :
      Sim e w (x >>= fun a => pure (Except.ok a : Except ε α)) (y >>= fun a => pure (.ok a)) :=
        inferInstance
  refine ⟨?_⟩
  change Following.sim e w (Except.ok <$> x : m (Except ε α)) (Except.ok <$> y)
  rw [map_eq_pure_bind, map_eq_pure_bind]
  exact lifted.follows

/-- The outcome of a computation. -/
instance (x y : ExceptT ε m α) [h : Sim e w x y] : Sim e w x.run y.run := ⟨h.follows⟩

/-- One computation after another, where the first comes to an outcome. -/
theorem Sim.except {x y : m (Except ε α)} {f g : Except ε α → m β} [Sim e w x y]
    (failed : ∀ (v : w.Later) (p : Both v.now ε), Sim e v.now (f (.error p.left))
      (g (.error p.right)))
    (ok : ∀ (v : w.Later) (p : Both v.now α), Sim e v.now (f (.ok p.left)) (g (.ok p.right))) :
    Sim e w (x >>= f) (y >>= g) := by
  refine .andThen fun v ⟨r, r', same⟩ => ?_
  obtain ⟨a, b, rfl, rfl, failure⟩ | ⟨a, b, rfl, rfl, result⟩ := (Alike.mk same).except
  · exact failed v ⟨a, b, failure.rel⟩
  · exact ok v ⟨a, b, result.rel⟩

end Failures

/-! ## Loops over lists -/

/-- What a round of a loop over a list comes to. -/
inductive Rounds (w : Links) : ForInStep α → ForInStep α → Prop where
  | done {a b : α} : Paired.rel w a b → Rounds w (.done a) (.done b)
  | yield {a b : α} : Paired.rel w a b → Rounds w (.yield a) (.yield b)

instance : Paired (ForInStep α) where
  rel := Rounds
  mono le
    | .done h => .done (Paired.mono le h)
    | .yield h => .yield (Paired.mono le h)

instance (a b : α) [h : Alike w a b] : Alike w (ForInStep.done a) (ForInStep.done b) :=
  ⟨.done h.rel⟩

instance (a b : α) [h : Alike w a b] : Alike w (ForInStep.yield a) (ForInStep.yield b) :=
  ⟨.yield h.rel⟩

theorem sim_forIn {items items' : List α} {f g : α → β → m (ForInStep β)} (w : Links)
    (b b' : β) [hi : Alike w items items'] [hb : Alike w b b']
    (h : ∀ (v : w.Later) (p : Both v.now α) (q : Both v.now β),
      Sim e v.now (f p.left q.left) (g p.right q.right)) :
    Sim e w (forIn items b f) (forIn items' b' g) := by
  induction items generalizing items' b b' w with
  | nil =>
    obtain ⟨-, rfl⟩ | ⟨_, _, _, _, ⟨⟩, -⟩ := hi.list
    rw [List.forIn_nil, List.forIn_nil]
    infer_instance
  | cons a items ih =>
    obtain ⟨⟨⟩, -⟩ | ⟨_, a', _, items', ⟨rfl, rfl⟩, rfl, hd, tl⟩ := hi.list
    rw [List.forIn_cons, List.forIn_cons]
    have first := h w.here ⟨a, a', hd.rel⟩ ⟨b, b', hb.rel⟩
    refine first.seq fun v ⟨r, r', rel⟩ => ?_
    cases rel with
    | done same =>
      have := Alike.mk same
      infer_instance
    | yield same =>
      have := Alike.mk same
      exact ih v.now _ _ fun v' => h (v.after v')

instance {items items' : List α} {f g : α → β → m (ForInStep β)} (b b' : β) [Alike w items items']
    [Alike w b b']
    [h : ∀ (v : w.Later) (p : Both v.now α) (q : Both v.now β),
      Sim e v.now (f p.left q.left) (g p.right q.right)] :
    Sim e w (forIn items b f) (forIn items' b' g) := sim_forIn w b b' h

/-- A loop over items without references. -/
theorem sim_forIn_same [Discrete α] {items : List α} {f g : α → β → m (ForInStep β)} (w : Links)
    (b b' : β) [Alike w b b']
    (h : ∀ (v : w.Later) (a : α) (q : Both v.now β), Sim e v.now (f a q.left) (g a q.right)) :
    Sim e w (forIn items b f) (forIn items b' g) :=
  sim_forIn w b b' fun v ⟨a, a', same⟩ q => by
    obtain rfl : a = a' := Discrete.rel_iff.mp same
    exact h v a q

instance [Discrete α] {items : List α} {f g : α → β → m (ForInStep β)} (b b' : β) [Alike w b b']
    [h : ∀ (v : w.Later) (a : α) (q : Both v.now β), Sim e v.now (f a q.left) (g a q.right)] :
    Sim e w (forIn items b f) (forIn items b' g) := sim_forIn_same w b b' h

theorem sim_mapM [LawfulMonad m] {items items' : List α} {f g : α → m β} (w : Links)
    [hi : Alike w items items']
    (h : ∀ (v : w.Later) (p : Both v.now α), Sim e v.now (f p.left) (g p.right)) :
    Sim e w (items.mapM f) (items'.mapM g) := by
  induction items generalizing items' w with
  | nil =>
    obtain ⟨-, rfl⟩ | ⟨_, _, _, _, ⟨⟩, -⟩ := hi.list
    rw [List.mapM_nil, List.mapM_nil]
    infer_instance
  | cons a items ih =>
    obtain ⟨⟨⟩, -⟩ | ⟨_, a', _, items', ⟨rfl, rfl⟩, rfl, hd, tl⟩ := hi.list
    rw [List.mapM_cons, List.mapM_cons]
    have first := h w.here ⟨a, a', hd.rel⟩
    refine first.seq fun v p => ?_
    have rest : Sim e v.now (items.mapM f) (items'.mapM g) := ih v.now fun v' => h (v.after v')
    infer_instance

instance [LawfulMonad m] {items items' : List α} {f g : α → m β} [Alike w items items']
    [h : ∀ (v : w.Later) (p : Both v.now α), Sim e v.now (f p.left) (g p.right)] :
    Sim e w (items.mapM f) (items'.mapM g) := sim_mapM w h

instance [LawfulMonad m] [Discrete α] {items : List α} {f g : α → m β}
    [h : ∀ (v : w.Later) (a : α), Sim e v.now (f a) (g a)] :
    Sim e w (items.mapM f) (items.mapM g) :=
  sim_mapM w fun v ⟨a, a', same⟩ => by
    obtain rfl : a = a' := Discrete.rel_iff.mp same
    exact h v a

theorem sim_filterAuxM {items items' acc acc' : List α} {f g : α → m Bool} (w : Links)
    [hi : Alike w items items'] [hacc : Alike w acc acc']
    (h : ∀ (v : w.Later) (p : Both v.now α), Sim e v.now (f p.left) (g p.right)) :
    Sim e w (items.filterAuxM f acc) (items'.filterAuxM g acc') := by
  induction items generalizing items' acc acc' w with
  | nil =>
    obtain ⟨-, rfl⟩ | ⟨_, _, _, _, ⟨⟩, -⟩ := hi.list
    exact inferInstanceAs (Sim e w (pure acc) (pure acc'))
  | cons a items ih =>
    obtain ⟨⟨⟩, -⟩ | ⟨_, a', _, items', ⟨rfl, rfl⟩, rfl, hd, tl⟩ := hi.list
    have first := h w.here ⟨a, a', hd.rel⟩
    refine first.seq fun v ⟨keep, keep', same⟩ => ?_
    obtain rfl : keep = keep' := same
    cases keep with
    | true =>
      change Sim e v.now (items.filterAuxM f (a :: acc)) (items'.filterAuxM g (a' :: acc'))
      exact ih v.now fun v' => h (v.after v')
    | false =>
      change Sim e v.now (items.filterAuxM f acc) (items'.filterAuxM g acc')
      exact ih v.now fun v' => h (v.after v')

instance {items items' : List α} {f g : α → m Bool} [Alike w items items']
    [h : ∀ (v : w.Later) (p : Both v.now α), Sim e v.now (f p.left) (g p.right)] :
    Sim e w (items.filterM f) (items'.filterM g) := by
  have kept : Sim e w (items.filterAuxM f []) (items'.filterAuxM g []) := sim_filterAuxM w h
  exact inferInstanceAs (Sim e w (items.filterAuxM f [] >>= fun kept => pure kept.reverse)
    (items'.filterAuxM g [] >>= fun kept => pure kept.reverse))

/-! ## Sorting -/

section Sorting

variable {before before' : α → α → m Bool}

theorem sim_mergeSorted {xs ys xs' ys' : List α} (w : Links) [hx : Alike w xs xs']
    [hy : Alike w ys ys']
    (h : ∀ (v : w.Later) (p q : Both v.now α), Sim e v.now (before p.left q.left)
      (before' p.right q.right)) :
    Sim e w (mergeSorted before xs ys) (mergeSorted before' xs' ys') := by
  induction xs, ys using mergeSorted.induct generalizing xs' ys' w with
  | case1 ys =>
    obtain ⟨-, rfl⟩ | ⟨_, _, _, _, ⟨⟩, -⟩ := hx.list
    rw [mergeSorted, mergeSorted]
    infer_instance
  | case2 xs nonempty =>
    obtain ⟨-, rfl⟩ | ⟨_, _, _, _, ⟨⟩, -⟩ := hy.list
    obtain ⟨rfl, rfl⟩ | ⟨x, x', xs, xs', rfl, rfl, -⟩ := hx.list
    · exact (nonempty rfl).elim
    · rw [mergeSorted, mergeSorted]
      · infer_instance
      · nofun
      · nofun
  | case3 x xs y ys later earlier =>
    obtain ⟨⟨⟩, -⟩ | ⟨_, x', _, xs', ⟨rfl, rfl⟩, rfl, hdx, tlx⟩ := hx.list
    obtain ⟨⟨⟩, -⟩ | ⟨_, y', _, ys', ⟨rfl, rfl⟩, rfl, hdy, tly⟩ := hy.list
    rw [mergeSorted, mergeSorted]
    refine (h w.here ⟨y, y', hdy.rel⟩ ⟨x, x', hdx.rel⟩).seq fun v ⟨first, first', same⟩ => ?_
    obtain rfl : first = first' := same
    have below (v' : v.now.Later) := h (v.after v')
    cases first with
    | true =>
      have : Sim e v.now (mergeSorted before (x :: xs) ys) (mergeSorted before' (x' :: xs') ys') :=
        later v.now below
      exact .andThen fun _ _ => inferInstance
    | false =>
      have : Sim e v.now (mergeSorted before xs (y :: ys)) (mergeSorted before' xs' (y' :: ys')) :=
        earlier v.now below
      exact .andThen fun _ _ => inferInstance

theorem sim_sortBy {items items' : List α} (w : Links) [hi : Alike w items items']
    (h : ∀ (v : w.Later) (p q : Both v.now α), Sim e v.now (before p.left q.left)
      (before' p.right q.right)) :
    Sim e w (sortBy before items) (sortBy before' items') := by
  have length := hi.length_eq
  induction items using sortBy.induct generalizing items' w with
  | case1 items short =>
    unfold sortBy
    rw [dif_pos short, dif_pos (length ▸ short)]
    infer_instance
  | case2 items long left right =>
    unfold sortBy
    rw [dif_neg long, dif_neg (length ▸ long), ← length]
    refine (left w h (by simp [length])).seq fun v p => ?_
    have below (v' : v.now.Later) := h (v.after v')
    refine (right v.now below (by simp [length])).seq fun v' q => ?_
    exact sim_mergeSorted v'.now fun v'' => below (v'.after v'')

instance {items items' : List α} [Alike w items items']
    [h : ∀ (v : w.Later) (p q : Both v.now α), Sim e v.now (before p.left q.left)
      (before' p.right q.right)] :
    Sim e w (sortBy before items) (sortBy before' items') := sim_sortBy w h

end Sorting

end Rules

/-! ## Places of a kind -/

variable {w' : Links} {kind kind' : Kind} [Paired α] {outside as bs : Array α} {i j : Nat} {a b : α}

/-- Data of a kind in two machines. Those that stand for each other are alike. What is kept is not
among them, and is as it was outside. -/
structure Pool (e : Surroundings) (w : Links) (kind : Kind) (outside as bs : Array α) : Prop where
  linked : ∀ {i j}, w.Has kind i j → ∃ a b, as[i]? = some a ∧ bs[j]? = some b ∧ Alike w a b
  apart : ∀ {i j}, w.Has kind i j → ¬ e.kept kind j
  kept : ∀ {j}, e.kept kind j → ∃ b, outside[j]? = some b ∧ bs[j]? = some b

namespace Pool

variable (pool : Pool e w kind outside as bs)

include pool

theorem lt_left (h : w.Has kind i j) : i < as.size := by
  obtain ⟨_, _, found, -, -⟩ := pool.linked h
  exact Array.getElem?_eq_some_iff.mp found |>.1

theorem lt_right (h : w.Has kind i j) : j < bs.size := by
  obtain ⟨_, _, -, found, -⟩ := pool.linked h
  exact Array.getElem?_eq_some_iff.mp found |>.1

theorem getD (h : w.Has kind i j) (a b : α) : Alike w (as.getD i a) (bs.getD j b) := by
  obtain ⟨_, _, left, right, same⟩ := pool.linked h
  rw [Array.getD_eq_getD_getElem?, Array.getD_eq_getD_getElem?, left, right]
  exact same

/-- Other data of the kind are linked in the same way, since each stands for one. -/
theorem modify {f g : α → α} (h : w.Has kind i j)
    (same : ∀ a b, Alike w a b → Alike w (f a) (g b)) :
    Pool e w kind outside (as.modify i f) (bs.modify j g) where
  linked {i' j'} h' := by
    obtain ⟨a, b, left, right, alike⟩ := pool.linked h'
    by_cases here : i = i'
    · subst here
      obtain rfl := h.right_eq h'
      exact ⟨f a, g b, by simp [Array.getElem?_modify, left], by
        simp [Array.getElem?_modify, right], same a b alike⟩
    · have there : j ≠ j' := fun e => here (Links.Has.left_eq h (e ▸ h'))
      exact ⟨a, b, by simp [Array.getElem?_modify, here, left], by
        simp [Array.getElem?_modify, there, right], alike⟩
  apart := pool.apart
  kept {j'} outer := by
    obtain ⟨b, before, now⟩ := pool.kept outer
    have there : j ≠ j' := fun e => pool.apart h (e ▸ outer)
    exact ⟨b, before, by simp [Array.getElem?_modify, there, now]⟩

theorem set (h : w.Has kind i j) [same : Alike w a b] :
    Pool e w kind outside (as.setIfInBounds i a) (bs.setIfInBounds j b) := by
  have modified := pool.modify h (f := fun _ => a) (g := fun _ => b) fun _ _ _ => same
  have replaced (cs : Array α) (k : Nat) (c : α) :
      cs.modify k (fun _ => c) = cs.setIfInBounds k c := by
    ext l h₁ h₂
    · simp
    · simp only [Array.getElem_modify, Array.getElem_setIfInBounds (by simpa using h₁)]
  rwa [replaced, replaced] at modified

/-- The place past the end stands for nothing. -/
theorem new : ∀ k, ¬ w.Has kind k bs.size :=
  fun _ h => Nat.lt_irrefl _ (pool.lt_right h)

theorem unlinked : ∀ k, ¬ w.Has kind as.size k :=
  fun _ h => Nat.lt_irrefl _ (pool.lt_left h)

/-- The links after a place was made past the end on both sides. -/
def more : Links :=
  w.add kind as.size bs.size pool.new

theorem le_more : w ≤ pool.more :=
  Links.le_add pool.new pool.unlinked

theorem has_more : pool.more.Has kind as.size bs.size :=
  Links.has_add pool.new

theorem more_other (ne : kind' ≠ kind) : pool.more.Has kind' i j ↔ w.Has kind' i j :=
  Links.has_add_of_ne pool.new ne

theorem more_older (h : pool.more.Has kind i j) (old : i ≠ as.size) : w.Has kind i j := by
  simpa [more, Links.has_add_iff, old] using h

/-- One more of both sides. -/
theorem pushMore (later : Alike pool.more a b) :
    Pool e pool.more kind outside (as.push a) (bs.push b) where
  linked {i j} h := by
    by_cases last : i = as.size
    · subst last
      obtain rfl := pool.has_more.right_eq h
      exact ⟨a, b, by simp, by simp, later⟩
    · have older := pool.more_older h last
      obtain ⟨x, y, left, right, alike⟩ := pool.linked older
      have hi := pool.lt_left older
      have hj := pool.lt_right older
      exact ⟨x, y, by rw [Array.getElem?_push, if_neg (by omega), left],
        by rw [Array.getElem?_push, if_neg (by omega), right], alike.mono pool.le_more⟩
  apart {i j} h outer := by
    by_cases last : i = as.size
    · subst last
      obtain rfl := pool.has_more.right_eq h
      obtain ⟨b, -, now⟩ := pool.kept outer
      simp at now
    · exact pool.apart (pool.more_older h last) outer
  kept {j} outer := by
    obtain ⟨b, before, now⟩ := pool.kept outer
    have hj := (Array.getElem?_eq_some_iff.mp now).1
    exact ⟨b, before, by rw [Array.getElem?_push, if_neg (by omega), now]⟩

section Growing

variable [grows : kind.Grows]

/-- The links later, when a place was made past the end on both sides. -/
def grow : w.Later :=
  ⟨pool.more, pool.le_more, (pool.more_other grows.other).mp⟩

theorem has_grow : pool.grow.now.Has kind as.size bs.size :=
  pool.has_more

theorem has_other (h : pool.grow.now.Has kind' i j) (ne : kind' ≠ kind) : w.Has kind' i j :=
  (pool.more_other ne).mp h

theorem push (later : Alike pool.grow.now a b) :
    Pool e pool.grow.now kind outside (as.push a) (bs.push b) :=
  pool.pushMore later

end Growing

/-- What is alike stays so when places of other kinds are made. -/
theorem later (le : w ≤ w') (same : ∀ {i j}, w'.Has kind i j → w.Has kind i j) :
    Pool e w' kind outside as bs where
  linked h := by
    obtain ⟨a, b, left, right, alike⟩ := pool.linked (same h)
    exact ⟨a, b, left, right, alike.mono le⟩
  apart h := pool.apart (same h)
  kept := pool.kept

/-- The same when a place of another kind is made. -/
theorem beside {β : Type} [Paired β] [kind'.Grows] {outside' cs ds : Array β}
    (other : Pool e w kind' outside' cs ds) (ne : kind ≠ kind') :
    Pool e other.grow.now kind outside as bs :=
  pool.later other.grow.le fun h => other.has_other h ne

end Pool

end CellScript.Mirror
