import CellScript.Heap.Container
import CellScript.Heap.Text
import CellScript.Proofs.Heap.Walk
import CellScript.Proofs.Mirror.Heap

/-!
# What heaps in other places look like

Heaps that are alike are walked over in the same order, and what they hold has the same text and the
same number. How deep a walk or a text may go depends on what can be reached, and not on what else
there is.

## Main statements

* Instances of `Heaps` for walks, and of `Alike` for texts and numbers.
-/

namespace CellScript.Mirror

variable {e : Surroundings} {w : Links}

/-! ## Places -/

/-- Containers that are alike. -/
inductive Containers (w : Links) : Container → Container → Prop where
  | sequence {s s' : SequenceRef} : Alike w s s' → Containers w (.sequence s) (.sequence s')
  | table {t t' : TableRef} : Alike w t t' → Containers w (.table t) (.table t')
  | pair {o o' : ObjectRef} : Alike w o o' → Containers w (.pair o) (.pair o')

instance : Paired Container where
  rel := Containers
  mono le h := by
    cases h <;> constructor <;> exact Alike.mono ‹_› le

instance : Faithful Container where
  eq_iff h h' := by
    cases h <;> cases h' <;>
      simp only [reduceCtorEq, Container.sequence.injEq, Container.table.injEq,
        Container.pair.injEq]
    · exact Alike.eq_iff ‹_› ‹_›
    · exact Alike.eq_iff ‹_› ‹_›
    · exact Alike.eq_iff ‹_› ‹_›

instance (s s' : SequenceRef) [h : Alike w s s'] : Alike w (Container.sequence s) (.sequence s') :=
  ⟨.sequence h⟩

instance (t t' : TableRef) [h : Alike w t t'] : Alike w (Container.table t) (.table t') :=
  ⟨.table h⟩

/-- Places that are alike. -/
inductive Places (w : Links) : Place → Place → Prop where
  | cell {c c' : CellRef} : Alike w c c' → Places w (.cell c) (.cell c')
  | container {k k' : Container} : Alike w k k' → Places w (.container k) (.container k')

instance : Paired Place where
  rel := Places
  mono le h := by
    cases h <;> constructor <;> exact Alike.mono ‹_› le

instance : Faithful Place where
  eq_iff h h' := by
    cases h <;> cases h' <;> simp only [reduceCtorEq, Place.cell.injEq, Place.container.injEq]
    · exact Alike.eq_iff ‹_› ‹_›
    · exact Alike.eq_iff ‹_› ‹_›

instance (c c' : CellRef) [h : Alike w c c'] : Alike w (Place.cell c) (.cell c') := ⟨.cell h⟩

instance (k k' : Container) [h : Alike w k k'] : Alike w (Place.container k) (.container k') :=
  ⟨.container h⟩

section Containers

variable (h h' : Heap) [heaps : Heaps e w h h']

instance (c c' : Content) [hc : Alike w c c'] : Alike w (h.container? c) (h'.container? c') := by
  cases hc.rel with
  | sequence | table => exact inferInstanceAs (Alike w (some _) (some _))
  | object same =>
    rename_i o o'
    have object : Alike w (h.object o) (h'.object o') := inferInstance
    unfold Heap.container?
    dsimp only
    generalize h.object o = x, h'.object o' = y at object
    cases object.rel with
    | pair => exact ⟨.some (.pair same)⟩
    | _ => exact ⟨.none⟩
  | _ => exact ⟨.none⟩

instance (k k' : Container) [hk : Alike w k k'] : Alike w (h.parts k) (h'.parts k') := by
  cases hk.rel with
  | sequence => exact inferInstanceAs (Alike w (h.elements _) (h'.elements _))
  | table =>
    exact (inferInstance : Alike w (h.entries _) (h'.entries _)).mapList fun _ _ _ => inferInstance
  | pair same =>
    rename_i o o'
    have object : Alike w (h.object o) (h'.object o') := inferInstance
    unfold Heap.parts
    dsimp only
    generalize h.object o = x, h'.object o' = y at object
    cases object.rel with
    | pair => infer_instance
    | _ => exact ⟨.nil⟩

end Containers

/-! ## Walks -/

/-- A tour that tells containers apart by what they are, and values by what they are worth. -/
class Tour.IsFair (t : Tour) : Prop where
  mark : ∀ {w : Links} {v v' : Value}, Alike w v v' → Alike w (t.mark v) (t.mark v')
  keeps : ∀ v, (t.mark v).content = v.content
  enters : ∀ {w : Links} {k k' : Container}, Alike w k k' → t.enters k = t.enters k'
  remembers : ∀ {w : Links} {k k' : Container}, Alike w k k' → t.remembers k = t.remembers k'

theorem Alike.isPair_eq {k k' : Container} (h : Alike w k k') : k.isPair = k'.isPair := by
  cases h.rel <;> rfl

instance : Tour.IsFair .marking where
  mark _ := inferInstanceAs (Alike _ (Value.taint _) (Value.taint _))
  keeps _ := rfl
  enters _ := rfl
  remembers same := congrArg not same.isPair_eq

instance : Tour.IsFair .clearing where
  mark _ := inferInstanceAs (Alike _ (Value.untaint _) (Value.untaint _))
  keeps _ := rfl
  enters same := congrArg not same.isPair_eq
  remembers _ := rfl

instance : Tour.IsFair ⟨id, fun _ => true, fun _ => false⟩ where
  mark same := same
  keeps _ := rfl
  enters _ := rfl
  remembers _ := rfl

/-- Walks that have come to the same places, and left heaps that are alike. -/
structure Walks (e : Surroundings) (w : Links) (x x' : Walk) : Prop where
  seen : Alike w x.seen x'.seen
  heaps : Heaps e w x.heap x'.heap

theorem Walks.foldl {f g : Walk → CellRef → Walk} {cells cells' : List CellRef}
    (same : Alike w cells cells')
    (step : ∀ x x' c c', Walks e w x x' → Alike w c c' → Walks e w (f x c) (g x' c')) {x x' : Walk}
    (h : Walks e w x x') :
    Walks e w (cells.foldl f x) (cells'.foldl g x') := by
  induction cells generalizing cells' x x' with
  | nil =>
    obtain ⟨-, rfl⟩ | ⟨_, _, _, _, ⟨⟩, -⟩ := same.list
    exact h
  | cons c cells ih =>
    obtain ⟨⟨⟩, -⟩ | ⟨_, c', _, cells', ⟨rfl, rfl⟩, rfl, hd, tl⟩ := same.list
    exact ih tl (step x x' c c' h hd)

theorem Walks.visit (t : Tour) [fair : Tour.IsFair t] (n : Nat) (x x' : Walk) (c c' : CellRef)
    (h : Walks e w x x') (hc : Alike w c c') :
    Walks e w (Walk.visit t n x c) (Walk.visit t n x' c') := by
  induction n generalizing x x' c c' with
  | zero => exact h
  | succ n ih =>
    have seen := h.seen
    have heaps := h.heaps
    have known : x.seen.contains (.cell c) = x'.seen.contains (.cell c') :=
      seen.contains_eq inferInstance
    rw [Walk.visit, Walk.visit, known]
    split
    · exact h
    · have marked := fair.mark (inferInstance : Alike w (x.heap.get c) (x'.heap.get c'))
      have came : Walks e w (x.come t c) (x'.come t c') :=
        ⟨inferInstanceAs (Alike w (_ :: _) (_ :: _)),
          inferInstanceAs (Heaps e w (x.heap.set c _) (x'.heap.set c' _))⟩
      have seen := came.seen
      have heaps := came.heaps
      dsimp only
      obtain ⟨left, right⟩ | ⟨k, k', left, right, same⟩ := (inferInstance : Alike w
          ((x.come t c).heap.container? ((x.come t c).heap.content c))
          ((x'.come t c').heap.container? ((x'.come t c').heap.content c'))).option
      · rw [left, right]
        exact came
      · have known :
            (x.come t c).seen.contains (.container k) =
              (x'.come t c').seen.contains (.container k') :=
          seen.contains_eq inferInstance
        rw [left, right]
        dsimp only
        rw [known, fair.enters same]
        split
        · exact came
        · have entered : Walks e w ((x.come t c).enter t k) ((x'.come t c').enter t k') := by
            unfold Walk.enter
            rw [fair.remembers same]
            split
            · exact ⟨inferInstanceAs (Alike w (_ :: _) (_ :: _)), heaps⟩
            · exact came
          exact entered.foldl inferInstance ih

section Walking

variable {h h' : Heap} (heaps : Heaps e w h h')

include heaps

theorem Heaps.walkAll (t : Tour) [fair : Tour.IsFair t] {cells cells' : List CellRef}
    (same : Alike w cells cells') :
    Walks e w (h.walkAll t cells) (h'.walkAll t cells') := by
  have deep := Nat.lt_succ_of_le (Nat.le_max_left h.cells.size h'.cells.size)
  have deep' := Nat.lt_succ_of_le (Nat.le_max_right h.cells.size h'.cells.size)
  rw [← Heap.walkAll_eq fair.keeps deep cells, ← Heap.walkAll_eq fair.keeps deep' cells']
  exact Walks.foldl same (Walks.visit t _) ⟨⟨.nil⟩, heaps⟩

theorem Heaps.reachAll_length_eq {cells cells' : List CellRef} (same : Alike w cells cells') :
    (h.reachAll (fun _ => true) cells).length = (h'.reachAll (fun _ => true) cells').length := by
  have seen := (heaps.walkAll ⟨id, fun _ => true, fun _ => false⟩ same).seen
  refine (seen.filterMap (β := CellRef) fun p p' same => ?_).length_eq
  cases same.rel with
  | cell => exact inferInstanceAs (Alike w (some _) (some _))
  | container => exact ⟨.none⟩

theorem Heaps.nesting_eq {c c' : Content} (hc : Alike w c c') : h.nesting c = h'.nesting c' := by
  unfold Heap.nesting Heap.beneath
  obtain ⟨left, right⟩ | ⟨k, k', left, right, same⟩ :=
      (inferInstance : Alike w (h.container? c) (h'.container? c')).option <;> rw [left, right]
  exact congrArg (· + 1) (heaps.reachAll_length_eq inferInstance)

end Walking

instance (h h' : Heap) (c c' : CellRef) [heaps : Heaps e w h h'] [Alike w c c'] :
    Heaps e w (h.taintDeep c) (h'.taintDeep c') :=
  (heaps.walkAll .marking (inferInstance : Alike w [c] [c'])).heaps

instance (h h' : Heap) (c c' : CellRef) [heaps : Heaps e w h h'] [Alike w c c'] :
    Heaps e w (h.sanitizeDeep c) (h'.sanitizeDeep c') :=
  (heaps.walkAll .clearing (inferInstance : Alike w [c] [c'])).heaps

/-! ## Texts -/

/-- The text of objects whose parts have the same texts. -/
theorem Heaps.render_eq {h h' : Heap} (heaps : Heaps e w h h') (n : Nat) (quoted : Bool)
    {path path' : List Container} (hp : Alike w path path') {c c' : Content} (hc : Alike w c c') :
    h.render n quoted path c = h'.render n quoted path' c' := by
  induction n generalizing quoted path path' c c' with
  | zero => rfl
  | succ n ih =>
    unfold Heap.render
    cases hc.rel with
    | null | int | float | text => rfl
    | function => exact Alike.eq (w := w) inferInstance
    | object same =>
      rename_i o o'
      have object : Alike w (h.object o) (h'.object o') := inferInstance
      dsimp only
      generalize h.object o = x, h'.object o' = y at object
      cases object.rel with
      | @pair k k' v v' =>
        have none : Alike w ([] : List Container) [] := ⟨.nil⟩
        have key := ih false none (inferInstance : Alike w (h.content k) (h'.content k'))
        have value := ih false none (inferInstance : Alike w (h.content v) (h'.content v'))
        dsimp only
        rw [key, value]
      | @proxy f f' interface =>
        have shown : (h.callable f).describe = (h'.callable f').describe :=
          Alike.eq (w := w) inferInstance
        dsimp only
        rw [shown]
      | _ => rfl
    | @sequence s s' =>
      have met : path.contains (.sequence s) = path'.contains (.sequence s') :=
        hp.contains_eq inferInstance
      have items := (inferInstance : Alike w (h.elements s) (h'.elements s')).mapEq
        (f := fun cell => h.render n true (.sequence s :: path) (h.content cell))
        (g := fun cell => h'.render n true (.sequence s' :: path') (h'.content cell))
        fun _ _ _ => ih true inferInstance inferInstance
      dsimp only
      rw [met, items]
    | @table t t' =>
      have met : path.contains (.table t) = path'.contains (.table t') :=
        hp.contains_eq inferInstance
      have items := (inferInstance : Alike w (h.entries t) (h'.entries t')).mapEntriesEq
        (f := fun entry => entry.1 ++ " => " ++ h.render n true (.table t :: path)
          (h.content entry.2))
        (g := fun entry => entry.1 ++ " => " ++ h'.render n true (.table t' :: path')
          (h'.content entry.2))
        fun name _ _ _ => congrArg (name ++ " => " ++ ·) (ih true inferInstance inferInstance)
      dsimp only
      rw [met, items]

section Texts

variable (h h' : Heap) [heaps : Heaps e w h h']

section Contents

variable (c c' : Content) [hc : Alike w c c']

instance : Alike w (h.contentText c) (h'.contentText c') := by
  unfold Heap.contentText
  rw [heaps.nesting_eq hc]
  exact ⟨heaps.render_eq _ false ⟨.nil⟩ hc⟩

instance : Alike w (h.contentDescribe c) (h'.contentDescribe c') := by
  unfold Heap.contentDescribe
  rw [heaps.nesting_eq hc]
  exact ⟨heaps.render_eq _ true ⟨.nil⟩ hc⟩

/-! ## Numbers -/

instance : Alike w (h.toInt c) (h'.toInt c') := by
  cases hc.rel with
  | @sequence s s' =>
    have length : Alike w (h.sequences.length s) (h'.sequences.length s') := inferInstance
    unfold Heap.toInt
    dsimp only
    obtain ⟨_, _, left, right, -⟩ | ⟨_, _, left, right, same⟩ := length.except <;> rw [left, right]
    · exact ⟨rfl⟩
    · rw [same.eq]
      infer_instance
  | @table t t' =>
    have count : h.count t = h'.count t' := Alike.eq (w := w) inferInstance
    unfold Heap.toInt
    dsimp only
    rw [count]
    infer_instance
  | _ => exact ⟨rfl⟩

instance : Alike w (h.toFloat c) (h'.toFloat c') := by
  have number : h.toInt c = h'.toInt c' := Alike.eq (w := w) inferInstance
  unfold Heap.toFloat
  cases hc.rel <;> first | exact ⟨rfl⟩ | exact ⟨congrArg nearestFloat number⟩

instance : Plain Num := ⟨⟩

instance (n : Num) : Alike w n.content n.content := by
  cases n <;> unfold Num.content <;> infer_instance

instance : Alike w (h.number c) (h'.number c') := by
  have number : h.toInt c = h'.toInt c' := Alike.eq (w := w) inferInstance
  unfold Heap.number
  cases hc.rel <;> first | exact ⟨rfl⟩ | exact ⟨congrArg Num.int number⟩

end Contents

section Cells

variable (c c' : CellRef) [hc : Alike w c c']

instance : Alike w (h.text c) (h'.text c') :=
  inferInstanceAs (Alike w (h.contentText (h.content c)) (h'.contentText (h'.content c')))

instance : Alike w (h.describe c) (h'.describe c') :=
  inferInstanceAs (Alike w (h.contentDescribe (h.content c)) (h'.contentDescribe (h'.content c')))

instance : Alike w (h.cellInt c) (h'.cellInt c') :=
  inferInstanceAs (Alike w (h.toInt (h.content c)) (h'.toInt (h'.content c')))

instance : Alike w (h.cellFloat c) (h'.cellFloat c') :=
  inferInstanceAs (Alike w (h.toFloat (h.content c)) (h'.toFloat (h'.content c')))

end Cells

instance (o o' : ObjectRef) [Alike w o o'] : Alike w (h.describeObject o) (h'.describeObject o') :=
  inferInstanceAs (Alike w (h.contentText (.object o)) (h'.contentText (.object o')))

/-- Only the wording of a throw depends on a value. -/
theorem message_eq {f : Fault} (ne : ∀ c, f ≠ .thrown c) (text text' : CellRef → String) :
    f.message text = f.message text' := by
  cases f with
  | thrown c => exact absurd rfl (ne c)
  | _ => rfl

instance (f f' : Fault) [hf : Alike w f f'] : Alike w (h.faultMessage f) (h'.faultMessage f') := by
  cases hf.rel with
  | @thrown c d same =>
    have := Alike.mk same
    have text : h.text c = h'.text d := Alike.eq (w := w) inferInstance
    exact ⟨congrArg ("uncaught exception: " ++ ·) text⟩
  | other ne => exact ⟨message_eq ne h.text h'.text⟩

instance (f f' : Fault) [hf : Alike w f f'] : Alike w f.isFatal f'.isFatal := by
  cases hf.rel <;> exact ⟨rfl⟩

end Texts

/-! ## Marks -/

instance (c c' : CellRef) [Alike w c c'] : Sim e w (HeapM.taintedCopy c) (HeapM.taintedCopy c') :=
  inferInstanceAs (Sim e w (_ >>= _) (_ >>= _))

instance (c c' : CellRef) [Alike w c c'] :
    Sim e w (HeapM.sanitizedCopy c) (HeapM.sanitizedCopy c') :=
  inferInstanceAs (Sim e w (_ >>= _) (_ >>= _))

end CellScript.Mirror
