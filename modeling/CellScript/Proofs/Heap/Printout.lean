import CellScript.Heap.Text
import CellScript.Proofs.Heap.Finite

/-!
# Printouts of values

A value is written with all that it holds, however it is shared. Only a container that is met inside
of itself is written as a placeholder. A `Printout` is a text with its structure: for each container
that is met, whether its parts or the placeholder are written. `Heap.Depicts` says what the printout
of content is, by the containers that are met on the way to it from the root and without a bound on
the depth.

The text of a pair starts over, without knowledge of what it is written in. As long as no pair holds
itself nothing outside of it is met again inside, and the text is that of the printout. A way from
the root comes to no container twice, so it is no longer than there are containers.

## Main definitions

* `Printout`, `Printout.text` — what is written of content.
* `Heap.Nests` — a container is held by a part of another one.
* `Heap.Depicts` — what the printout of content is.
* `Spot`, `Heap.Inner` — the places in a printout.

## Main statements

* `Heap.Depicts.unique` — content has one printout at most.
* `Heap.Way.length_le_depthBound`, `Heap.Way.length_le_nesting` — how long a way from the root is.
* `Heap.printed_by_path` — the plain and the quoted form of content are the texts of its printouts,
  and where the placeholders are.
-/

namespace CellScript

open Relation

/-- What is written of content. -/
inductive Printout where
  | plain (text : String)
  | placeholder (c : Container)
  /-- a container with its parts, each after a label -/
  | full (c : Container) (items : List (String × Printout))

namespace Container

/-- What is written around the parts of a container, and between them. -/
def enclose : Container → List String → String
  | .sequence _, items => "@(" ++ ", ".intercalate items ++ ")"
  | .table _, items => "%(" ++ ", ".intercalate items ++ ")"
  | .pair _, items => "=".intercalate items

/-- Whether the parts of a container are written in their quoted form. -/
def quotes : Container → Bool
  | .pair _ => false
  | _ => true

/-- The containers that the text of a part of a container is written with the knowledge of. -/
def below : Container → List Container → List Container
  | .pair _, _ => []
  | c, seen => c :: seen

end Container

namespace Printout

mutual

/-- The text of a printout. -/
def text : Printout → String
  | .plain text => text
  | .placeholder c => c.enclose ["..."]
  | .full c items => c.enclose (texts items)

/-- The texts of parts. -/
def texts : List (String × Printout) → List String
  | [] => []
  | (label, item) :: rest => (label ++ item.text) :: texts rest

end

theorem texts_eq_map (items : List (String × Printout)) :
    texts items = items.map fun item => item.1 ++ item.2.text := by
  induction items with
  | nil => rfl
  | cons item rest ih => rw [texts, ih, List.map_cons]

end Printout

namespace Heap

variable {h : Heap} {quoted : Bool} {path seen : List Container} {root content : Content}
  {c : Container} {n : ℕ} {d d' : Printout} {items : List (String × Printout)}

/-! ## Printouts of content -/

/-- A part of the container `outer` holds the container `inner`. -/
def Nests (h : Heap) (outer inner : Container) : Prop :=
  ∃ cell ∈ h.parts outer, h.container? (h.content cell) = some inner

/-- The parts of a container, each with the label that is written before it. -/
def labelledParts (h : Heap) : Container → List (String × CellRef)
  | .table t => (h.entries t).map fun (key, cell) => (key ++ " => ", cell)
  | c => (h.parts c).map ("", ·)

theorem labelledParts_cells (h : Heap) (c : Container) :
    (h.labelledParts c).map (·.2) = h.parts c := by
  cases c <;> simp [labelledParts, parts, Function.comp_def]

theorem mem_parts_of_labelled {part : String × CellRef} (held : part ∈ h.labelledParts c) :
    part.2 ∈ h.parts c := by
  rw [← labelledParts_cells]
  exact List.mem_map_of_mem held

/-- The printout of content inside of the containers `path`: one of them is written as a
placeholder, and any other container with all its parts. -/
inductive Depicts (h : Heap) : Bool → List Container → Content → Printout → Prop
  | plain {quoted : Bool} {path : List Container} {content : Content}
    (none : h.container? content = none) :
    Depicts h quoted path content (.plain (h.render 1 quoted [] content))
  | placeholder {quoted : Bool} {path : List Container} {content : Content} {c : Container}
    (met : h.container? content = some c) (above : c ∈ path) :
    Depicts h quoted path content (.placeholder c)
  | full {quoted : Bool} {path : List Container} {content : Content} {c : Container}
    {items : List (String × Printout)} (met : h.container? content = some c) (new : c ∉ path)
    (length : (h.labelledParts c).length = items.length)
    (labels : ∀ pair ∈ (h.labelledParts c).zip items, pair.1.1 = pair.2.1)
    (parts : ∀ pair ∈ (h.labelledParts c).zip items,
      Depicts h c.quotes (c :: path) (h.content pair.1.2)
        pair.2.2) : Depicts h quoted path content (.full c items)

/-- A container that is new on the way is written with what its parts are written as. -/
theorem depicts_new_iff (met : h.container? content = some c) (new : c ∉ path) :
    h.Depicts quoted path content d ↔ ∃ items, d = .full c items ∧ List.Forall₂
      (fun part item => part.1 = item.1 ∧ h.Depicts c.quotes (c :: path) (h.content part.2) item.2)
      (h.labelledParts c) items := by
  constructor
  · intro depicts
    cases depicts with
    | plain none => simp [none] at met
    | placeholder met' above =>
      obtain rfl := Option.some.inj (met.symm.trans met')
      exact absurd above new
    | full met' _ length labels parts =>
      obtain rfl := Option.some.inj (met.symm.trans met')
      exact ⟨_, rfl, List.forall₂_iff_zip.mpr
        ⟨length, fun paired => ⟨labels _ paired, parts _ paired⟩⟩⟩
  · rintro ⟨items, rfl, each⟩
    obtain ⟨length, both⟩ := List.forall₂_iff_zip.mp each
    exact .full met new length (fun _ paired => (both paired).1) fun _ paired => (both paired).2

/-- Content has one printout at most. -/
theorem Depicts.unique (depicts : h.Depicts quoted path content d)
    (other : h.Depicts quoted path content d') :
    d' = d := by
  induction depicts generalizing d' with
  | plain none =>
    cases other with
    | plain => rfl
    | placeholder met => simp [none] at met
    | full met => simp [none] at met
  | placeholder met above =>
    cases other with
    | plain none => simp [none] at met
    | placeholder met' => rw [Option.some.inj (met.symm.trans met')]
    | full met' new =>
      obtain rfl := Option.some.inj (met.symm.trans met')
      exact absurd above new
  | @full quoted path content c items met new length labels parts ih =>
    obtain ⟨items', rfl, each⟩ := (depicts_new_iff met new).mp other
    have along : List.Forall₂ (fun part item => ∀ item' : String × Printout,
        part.1 = item'.1 ∧ h.Depicts c.quotes (c :: path) (h.content part.2) item'.2 → item = item')
        (h.labelledParts c) items := by
      refine List.forall₂_iff_zip.mpr ⟨length, fun {part item} paired item' both => ?_⟩
      have label : part.1 = item.1 := labels _ paired
      exact Prod.ext (label.symm.trans both.1) (ih _ paired both.2).symm
    have same := forall₂_of_left along each
    rw [List.forall₂_eq_eq_eq] at same
    rw [same]

/-! ## Texts of content -/

theorem render_plain (none : h.container? content = none) (n : ℕ) (quoted : Bool)
    (seen : List Container) :
    h.render (n + 1) quoted seen content = h.render 1 quoted [] content := by
  cases content with
  | object o =>
    cases held : h.object o with
    | pair key value => simp [container?, held] at none
    | _ => simp [render, held]
  | sequence s => cases none
  | table t => cases none
  | _ => rfl

/-- A sequence or a map that is being written already is written as a placeholder. -/
theorem render_placeholder (met : h.container? content = some c) (guarded : ∀ o, c ≠ .pair o)
    (above : c ∈ seen) :
    h.render (n + 1) quoted seen content = c.enclose ["..."] := by
  cases content with
  | sequence s =>
    obtain rfl := Option.some.inj met
    simp only [render, List.contains_iff_mem.mpr above, if_true]
    rfl
  | table t =>
    obtain rfl := Option.some.inj met
    simp only [render, List.contains_iff_mem.mpr above, if_true]
    rfl
  | object o =>
    cases held : h.object o with
    | pair key value => exact absurd (by simpa [container?, held] using met.symm) (guarded o)
    | _ => simp [container?, held] at met
  | _ => cases met

/-- Any other container is written with its parts. -/
theorem render_full (met : h.container? content = some c) (new : c ∉ seen) :
    h.render (n + 1) quoted seen content = c.enclose ((h.labelledParts c).map fun part =>
      part.1 ++ h.render n c.quotes (c.below seen) (h.content part.2)) := by
  cases content with
  | sequence s =>
    obtain rfl := Option.some.inj met
    simp [render, new, labelledParts, parts, Container.enclose, Container.quotes, Container.below,
      Function.comp_def]
  | table t =>
    obtain rfl := Option.some.inj met
    simp [render, new, labelledParts, Container.enclose, Container.quotes, Container.below,
      Function.comp_def]
  | object o =>
    cases held : h.object o with
    | pair key value =>
      obtain rfl : Container.pair o = c := by simpa [container?, held] using met
      simp only [render, held, labelledParts, parts, List.map_cons, List.map_nil,
        String.empty_append]
      rfl
    | _ => simp [container?, held] at met
  | _ => cases met

/-! ## Ways from the root -/

/-- The way from the root to a place: the containers `path` that are being written there, the one
that was met last first, and those of them that the text is written with the knowledge of. -/
structure Way (h : Heap) (root : Content) (path seen : List Container)
    (content : Content) : Prop where
  nodup : path.Nodup
  holds : ∀ c ∈ path, h.parts c ≠ []
  linked : path.Pairwise fun later earlier => TransGen h.Nests earlier later
  leads : ∀ c ∈ path, ∀ inner, h.container? content = some inner → TransGen h.Nests c inner
  /-- what is left out is not met again -/
  seen_iff : ∀ inner c, h.container? content = some inner → ReflTransGen h.Nests inner c →
    (c ∈ seen ↔ c ∈ path)
  inside : content ∈ root :: (h.beneath root).map h.content
  above : ∀ c ∈ path, ∃ outer ∈ root :: (h.beneath root).map h.content, h.container? outer = some c

theorem Way.start (h : Heap) (content : Content) : h.Way content [] [] content where
  nodup := .nil
  holds _ held := nomatch held
  linked := .nil
  leads _ held := nomatch held
  seen_iff _ _ _ _ := .rfl
  inside := List.mem_cons_self
  above _ held := nomatch held

/-- A pair in the place of another that is not in the heap has the same parts. -/
def clamp (h : Heap) : Container → Container
  | .pair o => .pair ⟨min o.index h.objects.size⟩
  | c => c

theorem parts_clamp (h : Heap) (c : Container) : h.parts (h.clamp c) = h.parts c := by
  cases c with
  | pair o =>
    have object : h.object ⟨min o.index h.objects.size⟩ = h.object o := by
      by_cases inside : o.index < h.objects.size
      · rw [min_eq_left inside.le]
      · simp [Heap.object, inside, min_eq_right (not_lt.mp inside)]
    simp only [clamp, parts, object]
  | _ => rfl

/-- All containers of a heap, and a pair that is not in it. -/
def slots (h : Heap) : List Container :=
  (List.range h.sequences.views.size).map (.sequence ⟨·⟩) ++
    (List.range h.tables.size).map (.table ⟨·⟩) ++
    (List.range (h.objects.size + 1)).map (.pair ⟨·⟩)

theorem length_slots (h : Heap) : h.slots.length = h.depthBound := by
  simp only [slots, depthBound, List.length_append, List.length_map, List.length_range]
  omega

/-- A container with parts is in the heap. -/
theorem clamp_mem_slots (holds : h.parts c ≠ []) : h.clamp c ∈ h.slots := by
  obtain ⟨cell, held⟩ := List.exists_mem_of_ne_nil _ holds
  cases c with
  | sequence s =>
    have inside := mem_containers (.element held : h.Inside (.sequence s) _)
    simp only [containers, List.mem_append, List.mem_map, reduceCtorEq, and_false, exists_false,
      or_false] at inside
    obtain ⟨i, small, same⟩ := inside
    exact List.mem_append_left _
      (List.mem_append_left _ (List.mem_map.mpr ⟨i, small, by cases same; rfl⟩))
  | table t =>
    obtain ⟨⟨key, cell⟩, entry, rfl⟩ := List.mem_map.mp held
    have inside := mem_containers (.value entry)
    simp only [containers, List.mem_append, List.mem_map, reduceCtorEq, and_false, exists_false,
      false_or] at inside
    obtain ⟨i, small, same⟩ := inside
    exact List.mem_append_left _
      (List.mem_append_right _ (List.mem_map.mpr ⟨i, small, by cases same; rfl⟩))
  | pair o =>
    refine List.mem_append_right _
      (List.mem_map.mpr ⟨min o.index h.objects.size, List.mem_range.mpr ?_, rfl⟩)
    omega

section Acyclic

variable (acyclic : ∀ o, ¬ TransGen h.Nests (.pair o) (.pair o))
include acyclic

/-- A way from the root is no longer than there are containers. -/
theorem Way.length_le_depthBound (way : h.Way root path seen content) :
    path.length ≤ h.depthBound := by
  -- two pairs that are not in the heap are not both on the way, since what one holds leads to the
  -- other
  have apart : (path.map h.clamp).Nodup := by
    refine List.pairwise_map.mpr ((way.nodup.and way.linked).imp ?_)
    rintro a b ⟨ne, leads⟩ same
    cases a with
    | pair o =>
      have parts : h.parts b = h.parts (.pair o) := by rw [← parts_clamp, ← same, parts_clamp]
      obtain ⟨next, ⟨cell, held, met⟩, rest⟩ := TransGen.head'_iff.mp leads
      exact acyclic o (.head' ⟨cell, parts ▸ held, met⟩ rest)
    | _ => cases b <;> first | exact ne same | cases same
  have inside : path.map h.clamp ⊆ h.slots := by
    intro slot held
    obtain ⟨c, on, rfl⟩ := List.mem_map.mp held
    exact clamp_mem_slots (way.holds c on)
  calc path.length = (path.map h.clamp).length := (List.length_map h.clamp).symm
    _ ≤ h.slots.length := (apart.subperm inside).length_le
    _ = h.depthBound := h.length_slots

omit acyclic in
/-- A way from the root comes to cells that are beneath it. -/
theorem Way.length_le_nesting (way : h.Way root path seen content) :
    path.length ≤ h.nesting root := by
  have inside : path ⊆ (root :: (h.beneath root).map h.content).filterMap h.container? :=
    fun c on =>
      List.mem_filterMap.mpr (way.above c on)
  calc path.length ≤ _ := (way.nodup.subperm inside).length_le
    _ ≤ (root :: (h.beneath root).map h.content).length := List.length_filterMap_le _ _
    _ = h.nesting root := by simp [nesting]

/-- From a container that is new on the way to one of its parts. -/
theorem Way.part {cell : CellRef} (way : h.Way root path seen content)
    (met : h.container? content = some c) (new : c ∉ path) (held : cell ∈ h.parts c) :
    h.Way root (c :: path) (c.below seen) (h.content cell) where
  nodup := List.nodup_cons.mpr ⟨new, way.nodup⟩
  holds := List.forall_mem_cons.mpr ⟨List.ne_nil_of_mem held, way.holds⟩
  linked := List.pairwise_cons.mpr ⟨fun earlier on => way.leads earlier on c met, way.linked⟩
  leads := List.forall_mem_cons.mpr
    ⟨fun inner next => .single ⟨cell, held, next⟩,
      fun earlier on inner next => (way.leads earlier on c met).tail ⟨cell, held, next⟩⟩
  seen_iff inner d next reach := by
    have nested : TransGen h.Nests c d := .head' ⟨cell, held, next⟩ reach
    have seen_iff := way.seen_iff c d met nested.to_reflTransGen
    cases c with
    | pair o =>
      -- what a pair is written in leads to the pair
      have outside : d ∉ Container.pair o :: path := by
        intro on
        rcases List.mem_cons.mp on with rfl | on
        · exact acyclic o nested
        · exact acyclic o (nested.trans (way.leads d on _ met))
      simp [Container.below, outside]
    | _ => simp only [Container.below, List.mem_cons, seen_iff]
  inside := by
    refine List.mem_cons_of_mem _ (List.mem_map_of_mem ?_)
    rcases List.mem_cons.mp way.inside with rfl | inner
    · exact mem_beneath_of_part met held
    · obtain ⟨outer, under, rfl⟩ := List.mem_map.mp inner
      exact mem_beneath_trans under met held
  above := List.forall_mem_cons.mpr ⟨⟨content, way.inside, met⟩, way.above⟩

/-- On a way from the root, content is written as its printout. -/
theorem Way.exists_depicts (way : h.Way root path seen content)
    (deep : min h.depthBound (h.nesting root) < path.length + n) :
    ∃ d, h.Depicts quoted path content d ∧ h.render n quoted seen content = d.text := by
  induction n generalizing quoted path seen content with
  | zero =>
    exact absurd (le_min (way.length_le_depthBound acyclic) way.length_le_nesting) (by omega)
  | succ n ih =>
    cases met : h.container? content with
    | none => exact ⟨_, .plain met, render_plain met n quoted seen⟩
    | some c =>
      by_cases above : c ∈ path
      · have guarded : ∀ o, c ≠ .pair o := by
          rintro o rfl
          exact acyclic o (way.leads _ above _ met)
        have known : c ∈ seen := (way.seen_iff c c met .refl).mpr above
        exact ⟨_, .placeholder met above, render_placeholder met guarded known⟩
      · have unknown : c ∉ seen := (way.seen_iff c c met .refl).not.mpr above
        have part (labelled : String × CellRef) (held : labelled ∈ h.labelledParts c) :
            ∃ item : String × Printout, labelled.1 = item.1 ∧
              h.Depicts c.quotes (c :: path) (h.content labelled.2) item.2 ∧
              h.render n c.quotes (c.below seen) (h.content labelled.2) = item.2.text := by
          have next := way.part acyclic met above (mem_parts_of_labelled held)
          obtain ⟨d, depicts, text⟩ := ih next (by rw [List.length_cons]; omega)
          exact ⟨(labelled.1, d), rfl, depicts, text⟩
        obtain ⟨items, each⟩ := exists_forall₂ _ part
        refine ⟨.full c items, (depicts_new_iff met above).mpr
          ⟨items, rfl, each.imp fun _ _ all => ⟨all.1, all.2.1⟩⟩, ?_⟩
        have texts :=
          List.forall₂_map_left_iff.mpr
            (List.forall₂_map_right_iff.mpr (each.imp fun part item all =>
          show part.1 ++ h.render n c.quotes (c.below seen) (h.content part.2) = item.1 ++
            item.2.text by
            rw [all.1, all.2.2]))
        rw [List.forall₂_eq_eq_eq] at texts
        rw [render_full met unknown, Printout.text, Printout.texts_eq_map, texts]

end Acyclic

end Heap

/-! ## Places in a printout -/

/-- A place in a printout: the containers that are being written there, the content that is met, and
what is written of it. -/
structure Spot where
  path : List Container
  content : Content
  printout : Printout

namespace Heap

variable {h : Heap} {quoted : Bool} {path : List Container} {content : Content} {c : Container}
  {d : Printout} {spot spot' : Spot}

/-- From a container that is written in full to one of its parts. -/
inductive Inner (h : Heap) : Spot → Spot → Prop
  | part {path : List Container} {content : Content} {c : Container}
    {items : List (String × Printout)} {part : String × CellRef} {item : String × Printout}
    (met : h.container? content = some c) (held : (part, item) ∈ (h.labelledParts c).zip items) :
    Inner h ⟨path, content, .full c items⟩ ⟨c :: path, h.content part.2, item.2⟩

/-- What is written at a place is the printout of what is met there. -/
theorem Depicts.inner (depicts : h.Depicts quoted path content d)
    (reach : ReflTransGen h.Inner ⟨path, content, d⟩ spot) :
    ∃ quoted, h.Depicts quoted spot.path spot.content spot.printout := by
  induction reach with
  | refl => exact ⟨quoted, depicts⟩
  | tail _ step ih =>
    obtain ⟨quoted, outer⟩ := ih
    cases step with
    | part met held =>
      cases outer with
      | full _ _ _ _ parts => exact ⟨_, parts _ held⟩

theorem Depicts.eq_placeholder_iff (depicts : h.Depicts quoted path content d)
    (met : h.container? content = some c) :
    d = .placeholder c ↔ c ∈ path := by
  constructor
  · rintro rfl
    cases depicts with
    | placeholder _ above => exact above
  · intro above
    exact (Depicts.placeholder met above).unique depicts

theorem Depicts.exists_full (depicts : h.Depicts quoted path content d)
    (met : h.container? content = some c) (new : c ∉ path) :
    ∃ items, d = .full c items ∧ items.map Prod.fst = (h.labelledParts c).map Prod.fst := by
  obtain ⟨items, rfl, each⟩ := (depicts_new_iff met new).mp depicts
  have labels :=
    List.forall₂_map_left_iff.mpr (List.forall₂_map_right_iff.mpr (each.imp fun part item both =>
      show part.1 = item.1 from both.1))
  rw [List.forall₂_eq_eq_eq] at labels
  exact ⟨items, rfl, labels.symm⟩

/-- In a heap where no pair holds itself, however deep, all content has one printout, of which its
plain or its quoted form is the text; no greater bound on the depth changes it. At each place a
container is written as a placeholder if and only if it is being written already on the way there
from the root, and otherwise with all its parts, also when it has been written before. -/
theorem printed_by_path (h : Heap) (acyclic : ∀ o, ¬ TransGen h.Nests (.pair o) (.pair o))
    (quoted : Bool) (content : Content) :
    ∃ d, h.Depicts quoted [] content d ∧ (∀ d', h.Depicts quoted [] content d' → d' = d) ∧
      (if quoted then h.contentDescribe content else h.contentText content) = d.text ∧
      (∀ n, h.depthBound < n → h.render n quoted [] content = d.text) ∧
      ∀ spot, ReflTransGen h.Inner ⟨[], content, d⟩ spot → ∀ c, h.container? spot.content = some c →
        (spot.printout = .placeholder c ↔ c ∈ spot.path) ∧
        (c ∉ spot.path → ∃ items, spot.printout = .full c items ∧
          items.map Prod.fst = (h.labelledParts c).map Prod.fst) := by
  have printed (n : ℕ) (deep : min h.depthBound (h.nesting content) < n) :
      ∃ d, h.Depicts quoted [] content d ∧ h.render n quoted [] content = d.text :=
    (Way.start h content).exists_depicts acyclic (by simpa using deep)
  obtain ⟨d, depicts, text⟩ := printed (h.nesting content + 1) (by omega)
  refine ⟨d, depicts, fun d' other => depicts.unique other, ?_, ?_, ?_⟩
  · cases quoted <;> exact text
  · intro n deep
    obtain ⟨d', other, text'⟩ := printed n (by omega)
    rwa [depicts.unique other] at text'
  · intro spot reach c met
    obtain ⟨_, there⟩ := depicts.inner reach
    exact ⟨there.eq_placeholder_iff met, there.exists_full met⟩

/-- A list that holds another list twice, itself, and a pair of a text and that other list. -/
def shelf : Heap :=
  { Heap.empty with
    cells :=
      #[.clean (.text "x"), .clean (.sequence ⟨0⟩), .clean (.sequence ⟨1⟩), .clean (.object ⟨0⟩)]
    sequences := (Sequences.create [⟨1⟩, ⟨1⟩, ⟨2⟩, ⟨3⟩] (Sequences.create [⟨0⟩] .empty).2).2
    objects := #[.pair ⟨0⟩ ⟨1⟩] }

theorem shelf_acyclic (o : ObjectRef) : ¬ TransGen shelf.Nests (.pair o) (.pair o) := by
  have last (c : Container) : ¬ shelf.Nests (.sequence ⟨0⟩) c := by
    rintro ⟨cell, held, met⟩
    obtain rfl : cell = ⟨0⟩ := by
      rw [show shelf.parts (.sequence ⟨0⟩) = [⟨0⟩] by decide +kernel] at held
      exact List.mem_singleton.mp held
    cases met
  intro cycle
  obtain ⟨c, ⟨cell, held, met⟩, rest⟩ := TransGen.head'_iff.mp cycle
  obtain rfl : Container.sequence ⟨0⟩ = c := by
    obtain ⟨i⟩ := o
    match i with
    | 0 =>
      rcases List.mem_pair.mp held with rfl | rfl
      · cases met
      · exact Option.some.inj met
    | i + 1 =>
      rcases List.mem_pair.mp held with rfl | rfl <;> cases met
  rcases rest.cases_head with same | ⟨d, next, -⟩
  · cases same
  · exact last d next

theorem printed_by_path_shelf :
    (∀ o, ¬ TransGen shelf.Nests (.pair o) (.pair o)) ∧
      ∃ d, shelf.Depicts true [] (.sequence ⟨1⟩) d ∧
        d.text = "@(@('x'), @('x'), @(...), x=@('x'))" := by
  obtain ⟨d, depicts, -, text, -, -⟩ := printed_by_path shelf shelf_acyclic true (.sequence ⟨1⟩)
  exact ⟨shelf_acyclic, d, depicts, text.symm.trans (by decide +kernel)⟩

end Heap

end CellScript
