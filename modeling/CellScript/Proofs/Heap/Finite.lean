import CellScript.Host.Marshal
import CellScript.Proofs.Depth
import CellScript.Proofs.Heap.Walk
import CellScript.Proofs.Sequence.Operation
import Mathlib.Data.List.Forall2

/-!
# Finite values

The host value of content is built from those of its elements, as deep as sequences and maps are
nested. Content is finite when none of them holds itself; then the nesting is not as deep as there
are sequences and maps in the heap. `Shows` is the relation between content and its host value
without a bound on the depth, and the function with a bound computes it.

## Main definitions

* `Heap.Inside` — the content of an element of a sequence or of a value of a map.
* `Heap.IsFinite` — no sequence or map holds itself, and no sequence is stale.
* `Heap.Shows` — what the host value of content is.

## Main statements

* `Heap.IsFinite.within` — how deep finite content is nested.
* `Heap.IsFinite.exists_shows` — finite content has a host value.
* `Heap.Shows.natural_eq` — conversion to the host computes it.
-/

namespace CellScript

open Relation

/-! ## Lists that are paired -/

section Lists

variable {α β γ : Type}

/-- For a list of things that stand in a relation to others, there is a list of those. -/
theorem exists_forall₂ {R : α → β → Prop} (as : List α) (each : ∀ a ∈ as, ∃ b, R a b) :
    ∃ bs : List β, List.Forall₂ R as bs := by
  induction as with
  | nil => exact ⟨[], .nil⟩
  | cons a as ih =>
    obtain ⟨⟨b, first⟩, rest⟩ := List.forall_mem_cons.mp each
    obtain ⟨bs, all⟩ := ih rest
    exact ⟨b :: bs, .cons first all⟩

/-- The second of two paired lists holds nothing that is not paired. -/
theorem exists_of_mem_right {R : α → β → Prop} {as : List α} {bs : List β} {b : β}
    (each : List.Forall₂ R as bs) (held : b ∈ bs) : ∃ a ∈ as, R a b := by
  obtain ⟨length, paired⟩ := List.forall₂_iff_zip.mp each
  obtain ⟨⟨a, _⟩, pair, rfl⟩ := List.mem_map.mp (List.map_snd_zip length.ge ▸ held)
  exact ⟨a, (List.of_mem_zip pair).1, paired pair⟩

/-- Two lists that a third one is paired with are paired with each other. -/
theorem forall₂_of_left {R : α → γ → Prop} {S : β → γ → Prop} {as : List α} {bs : List β}
    {cs : List γ} (along : List.Forall₂ (fun a b => ∀ c, R a c → S b c) as bs)
    (left : List.Forall₂ R as cs) :
    List.Forall₂ S bs cs := by
  induction along generalizing cs with
  | nil =>
    cases left
    exact .nil
  | cons first _ ih =>
    cases left with
    | cons head rest => exact .cons (first _ head) (ih rest)

/-- Steps that all succeed, and what is made of their results. -/
theorem mapM_bind_eq {ε : Type} {f : α → Except ε β} {as : List α} (bs : List β)
    (k : List β → Except ε γ) (each : List.Forall₂ (fun a b => f a = .ok b) as bs) :
    (as.mapM f >>= k) = k bs := by
  have all : as.mapM f = .ok bs := by
    induction each with
    | nil => rfl
    | cons first _ ih =>
      rw [List.mapM_cons, first, ih]
      rfl
  rw [all]
  rfl

end Lists

/-! ## Host values of content -/

/-- The host value of content that is neither a sequence nor a map. -/
def Content.host? : Content → Option HostValue
  | .null => some .null
  | .int n => some (.int n)
  | .float x => some (.float x)
  | .text s => some (.text s)
  | .object o => some (.object o)
  | .function f => some (.function f)
  | .sequence _ | .table _ => none

/-- A value in a list or a map. -/
inductive HostValue.Inside : HostValue → HostValue → Prop
  | item {items : List HostValue} {value : HostValue} (held : value ∈ items) :
    Inside (.list items) value
  | entry {entries : List (String × HostValue)} {key : String} {value : HostValue}
    (held : (key, value) ∈ entries) :
    Inside (.map entries) value

namespace Heap

variable {h : Heap} {content inner : Content} {value : HostValue} {s : SequenceRef} {t : TableRef}
  {n : ℕ}

/-- The content of an element of a sequence, or of the value of a key of a map. -/
inductive Inside (h : Heap) : Content → Content → Prop
  | element {s : SequenceRef} {cell : CellRef} (held : cell ∈ h.elements s) :
    Inside h (.sequence s) (h.content cell)
  | value {t : TableRef} {key : String} {cell : CellRef} (held : (key, cell) ∈ h.entries t) :
    Inside h (.table t) (h.content cell)

/-- No sequence or map holds itself, however deep, and no sequence is stale. -/
structure IsFinite (h : Heap) (content : Content) : Prop where
  acyclic : ∀ part, ReflTransGen h.Inside content part → ¬ TransGen h.Inside part part
  fresh : ∀ s, ReflTransGen h.Inside content (.sequence s) → h.sequences.staleness? s = none

/-- What the host value of content is. -/
inductive Shows (h : Heap) : Content → HostValue → Prop
  | plain {content : Content} {value : HostValue} (known : content.host? = some value) :
    Shows h content value
  | sequence {s : SequenceRef} {items : List HostValue} (fresh : h.sequences.staleness? s = none)
    (length : (h.elements s).length = items.length)
    (shown : ∀ pair ∈ (h.elements s).zip items, Shows h (h.content pair.1) pair.2) :
    Shows h (.sequence s) (.list items)
  | table {t : TableRef} {items : List (String × HostValue)}
    (length : (h.entries t).length = items.length)
    (keys : ∀ pair ∈ (h.entries t).zip items, pair.1.1 = pair.2.1)
    (shown : ∀ pair ∈ (h.entries t).zip items, Shows h (h.content pair.1.2) pair.2.2) :
    Shows h (.table t) (.map items)

/-! ## How deep content is nested -/

/-- All sequences and maps of a heap. -/
def containers (h : Heap) : List Content :=
  (List.range h.sequences.views.size).map (.sequence ⟨·⟩) ++
    (List.range h.tables.size).map (.table ⟨·⟩)

theorem elements_of_fresh (fresh : h.sequences.staleness? s = none) :
    h.sequences.snapshot s = .ok (h.elements s) := by
  rw [elements, Sequences.snapshot, Sequences.window_of_fresh fresh]
  rfl

/-- What holds something is in the heap. -/
theorem mem_containers (inside : h.Inside content inner) : content ∈ h.containers := by
  cases inside with
  | @element s cell held =>
    refine List.mem_append_left _ (List.mem_map.mpr ⟨s.index, List.mem_range.mpr ?_, rfl⟩)
    by_contra outside
    have view : h.sequences.view s = default := by simp [Sequences.view, outside]
    cases fresh : h.sequences.staleness? s with
    | some why =>
      rw [elements, Sequences.snapshot, Sequences.window_of_stale fresh] at held
      cases held
    | none =>
      have snapshot := elements_of_fresh fresh
      rw [Sequences.snapshot, Sequences.window_of_fresh fresh, Sequences.windowOf, view] at snapshot
      cases Except.ok.inj snapshot ▸ held
  | @value t key cell held =>
    refine List.mem_append_right _ (List.mem_map.mpr ⟨t.index, List.mem_range.mpr ?_, rfl⟩)
    by_contra outside
    have table : h.table t = default := by simp [Heap.table, outside]
    rw [entries, table] at held
    cases held

/-- What content comes to is that content, or in a cell beneath it. -/
theorem mem_of_reach (reach : ReflTransGen h.Inside content inner) :
    inner ∈ content :: (h.beneath content).map h.content := by
  induction reach with
  | refl => exact List.mem_cons_self
  | @tail outer inner _ inside ih =>
    obtain ⟨k, holds, cell, part, rfl⟩ : ∃ k, h.container? outer = some k ∧
      ∃ cell ∈ h.parts k, h.content cell = inner := by
      cases inside with
      | @element s cell held => exact ⟨.sequence s, rfl, cell, held, rfl⟩
      | @value t key cell held => exact ⟨.table t, rfl, cell, List.mem_map_of_mem held, rfl⟩
    refine List.mem_cons_of_mem _ (List.mem_map_of_mem ?_)
    rcases List.mem_cons.mp ih with rfl | held
    · exact mem_beneath_of_part holds part
    · obtain ⟨above, under, rfl⟩ := List.mem_map.mp held
      exact mem_beneath_trans under holds part

namespace IsFinite

/-- What is held by finite content is finite. -/
theorem inside (finite : h.IsFinite content) (inside : h.Inside content inner) :
    h.IsFinite inner where
  acyclic _ reach := finite.acyclic _ (.head inside reach)
  fresh _ reach := finite.fresh _ (.head inside reach)

/-- What holds finite content only is finite. -/
theorem of_inside (fresh : ∀ s, content = .sequence s → h.sequences.staleness? s = none)
    (each : ∀ inner, h.Inside content inner → h.IsFinite inner) : h.IsFinite content where
  acyclic part reach cycle := by
    rcases reach.cases_head with rfl | ⟨inner, inside, reach⟩
    · obtain ⟨inner, inside, back⟩ := TransGen.head'_iff.mp cycle
      exact (each inner inside).acyclic inner .refl (.tail' back inside)
    · exact (each inner inside).acyclic part reach cycle
  fresh s reach := by
    rcases reach.cases_head with same | ⟨inner, inside, reach⟩
    · exact fresh s same
    · exact (each inner inside).fresh s reach

theorem of_host? (plain : content.host?.isSome) : h.IsFinite content := by
  refine of_inside ?_ fun inner inside => ?_
  · rintro s rfl
    cases plain
  · cases inside <;> cases plain

theorem within (finite : h.IsFinite content) : Within h.Inside (h.nesting content + 1) content :=
  within_of_acyclic (content :: (h.beneath content).map h.content)
    (fun _ _ reach _ => mem_of_reach reach) finite.acyclic
    (by simp [nesting])

end IsFinite

/-! ## Host values -/

/-- A sequence shows the list of what its elements show. -/
theorem shows_sequence_iff : h.Shows (.sequence s) value ↔ h.sequences.staleness? s = none ∧
    ∃ items, value = .list items ∧
      List.Forall₂ (fun cell item => h.Shows (h.content cell) item) (h.elements s) items := by
  constructor
  · intro shows
    cases shows with
    | plain known => cases known
    | sequence fresh length shown =>
      exact ⟨fresh, _, rfl, List.forall₂_iff_zip.mpr ⟨length, fun paired => shown _ paired⟩⟩
  · rintro ⟨fresh, items, rfl, each⟩
    obtain ⟨length, shown⟩ := List.forall₂_iff_zip.mp each
    exact .sequence fresh length fun _ paired => shown paired

/-- A map shows its keys with what their values show. -/
theorem shows_table_iff : h.Shows (.table t) value ↔ ∃ items, value = .map items ∧
    List.Forall₂ (fun held item => held.1 = item.1 ∧ h.Shows (h.content held.2) item.2)
      (h.entries t) items := by
  constructor
  · intro shows
    cases shows with
    | plain known => cases known
    | table length keys shown =>
      exact ⟨_, rfl, List.forall₂_iff_zip.mpr
        ⟨length, fun paired => ⟨keys _ paired, shown _ paired⟩⟩⟩
  · rintro ⟨items, rfl, each⟩
    obtain ⟨length, both⟩ := List.forall₂_iff_zip.mp each
    exact .table length (fun _ paired => (both paired).1) fun _ paired => (both paired).2

theorem exists_shows_of_within (fresh : ∀ s, ReflTransGen h.Inside content (.sequence s) →
    h.sequences.staleness? s = none) (within : Within h.Inside n
      content) : ∃ value, h.Shows content value := by
  induction n generalizing content with
  | zero => exact within.elim
  | succ n ih =>
    have parts (inner : Content) (inside : h.Inside content inner) : ∃ value, h.Shows inner value :=
      ih (fun s reach => fresh s (.head inside reach)) (within inner inside)
    cases content with
    | sequence s =>
      obtain ⟨items, each⟩ := exists_forall₂ (h.elements s) fun cell held => parts _ (.element held)
      exact ⟨_, shows_sequence_iff.mpr ⟨fresh s .refl, items, rfl, each⟩⟩
    | table t =>
      have values (held : String × CellRef) (among : held ∈ h.entries t) :
          ∃ item : String × HostValue, held.1 = item.1 ∧ h.Shows (h.content held.2) item.2 := by
        obtain ⟨value, shows⟩ := parts _ (.value among)
        exact ⟨(held.1, value), rfl, shows⟩
      obtain ⟨items, each⟩ := exists_forall₂ (h.entries t) values
      exact ⟨_, shows_table_iff.mpr ⟨items, rfl, each⟩⟩
    | _ => exact ⟨_, .plain rfl⟩

/-- What has a host value is finite. -/
theorem Shows.isFinite (shows : h.Shows content value) : h.IsFinite content := by
  induction shows with
  | plain known => exact .of_host? (Option.isSome_iff_exists.mpr ⟨_, known⟩)
  | @sequence s items fresh length _ ih =>
    refine .of_inside (fun _ same => Content.sequence.inj same ▸ fresh) fun inner inside => ?_
    cases inside with
    | element held =>
      obtain ⟨pair, paired, rfl⟩ := List.mem_map.mp (List.map_fst_zip length.le ▸ held)
      exact ih pair paired
  | @table t items length keys _ ih =>
    refine .of_inside nofun fun inner inside => ?_
    cases inside with
    | @value _ key cell held =>
      obtain ⟨pair, paired, same⟩ := List.mem_map.mp (List.map_fst_zip length.le ▸ held)
      have finite := ih pair paired
      rwa [same] at finite

/-- Finite content has a host value. -/
theorem IsFinite.exists_shows (finite : h.IsFinite content) : ∃ value, h.Shows content value :=
  exists_shows_of_within finite.fresh finite.within

/-- A host value is nested no deeper than the content that it shows. -/
theorem Shows.within (shows : h.Shows content value) (within : Within h.Inside n content) :
    Within HostValue.Inside n value := by
  induction n generalizing content value with
  | zero => exact within.elim
  | succ n ih =>
    intro item inside
    cases content with
    | sequence s =>
      obtain ⟨-, items, rfl, each⟩ := shows_sequence_iff.mp shows
      cases inside with
      | item held =>
        obtain ⟨cell, element, shown⟩ := exists_of_mem_right each held
        exact ih shown (within _ (.element element))
    | table t =>
      obtain ⟨items, rfl, each⟩ := shows_table_iff.mp shows
      cases inside with
      | entry held =>
        obtain ⟨⟨key, cell⟩, element, -, shown⟩ := exists_of_mem_right each held
        exact ih shown (within _ (.value element))
    | _ =>
      cases shows with
      | plain known =>
        cases known
        cases inside

theorem naturalWithin_of_host? (known : content.host? = some value) (n : ℕ) :
    h.naturalWithin (n + 1) content = .ok value := by
  cases content <;> cases known <;> rfl

/-- Conversion to the host computes the host value when it may go deep enough. -/
theorem Shows.naturalWithin_eq (shows : h.Shows content value)
    (within : Within HostValue.Inside n value) :
    h.naturalWithin n content = .ok value := by
  induction shows generalizing n with
  | plain known =>
    cases n with
    | zero => exact within.elim
    | succ n => exact naturalWithin_of_host? known n
  | @sequence s items fresh length _ ih =>
    cases n with
    | zero => exact within.elim
    | succ n =>
      simp only [naturalWithin, elements_of_fresh fresh]
      refine (mapM_bind_eq items _
        (List.forall₂_iff_zip.mpr ⟨length, fun {cell item} paired => ?_⟩)).trans rfl
      exact ih (cell, item) paired (within item (.item (List.of_mem_zip paired).2))
  | @table t items length keys _ ih =>
    cases n with
    | zero => exact within.elim
    | succ n =>
      simp only [naturalWithin]
      refine (mapM_bind_eq items _
        (List.forall₂_iff_zip.mpr ⟨length, fun {held item} paired => ?_⟩)).trans rfl
      have value := ih (held, item) paired (within item.2 (.entry (List.of_mem_zip paired).2))
      have key : held.1 = item.1 := keys (held, item) paired
      simp only [value, key]
      rfl

theorem Shows.natural_eq (shows : h.Shows content value)
    (within : Within h.Inside (h.nesting content + 1) content) :
    h.natural content = .ok value :=
  shows.naturalWithin_eq (shows.within within)

end Heap

end CellScript
