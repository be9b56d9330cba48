import CellScript.Proofs.Heap.Finite
import CellScript.Proofs.Heap.Growth
import CellScript.Proofs.Host.Overload
import CellScript.Proofs.Host.Proxy

/-!
# The arguments of a chosen overload

The choice between overloads looks at an argument and a declared type, and not at the elements of a
sequence. An argument that fits a type can be converted to it, unless that is the type of an array:
then each element has to be convertible to the type of the elements, and nobody has looked at these.

A conversion may make proxies. These are never what decides whether another conversion succeeds.

## Main definitions

* `Heap.Converts` — whether content can be converted to a type.
* `Marshal.Succeeds` — a conversion does not fail.

## Main statements

* `toHost_succeeds_iff`, `marshalArgs_succeeds_iff` — what can be converted.
* `converts_of_score` — what fits a type that is not the type of an array can be converted.
* `chosen_converts` — the arguments of a chosen overload.
-/

namespace CellScript

/-! ## More proxies -/

/-- An object that is written as the empty text. -/
def HostObject.IsBlank : HostObject → Prop
  | .text s | .builder s => s = ""
  | _ => False

namespace Heap

variable {h h' h'' : Heap} {content : Content} {type : HostType}

theorem inside_withProxy (h : Heap) (f : FunctionRef) (interface : String) :
    (h.withProxy f interface).Inside = h.Inside := by
  funext content inner
  refine propext ⟨?_, ?_⟩
  all_goals
    intro inside
    cases inside with
    | element held => exact .element held
    | value held => exact .value held

theorem isFinite_withProxy (f : FunctionRef) (interface : String) :
    (h.withProxy f interface).IsFinite content ↔ h.IsFinite content := by
  have same := inside_withProxy h f interface
  constructor <;> intro finite
  · exact ⟨same ▸ finite.acyclic, same ▸ finite.fresh⟩
  · exact ⟨same.symm ▸ finite.acyclic, same.symm ▸ finite.fresh⟩

theorem object_withProxy (h : Heap) (f : FunctionRef) (interface : String) (o : ObjectRef) :
    (h.withProxy f interface).object o = h.object o ∨
      h.object o = default ∧ (h.withProxy f interface).object o = .proxy f interface := by
  simp only [withProxy, object, Array.getD_eq_getD_getElem?, Array.getElem?_push]
  split
  · rename_i last
    refine .inr ⟨?_, rfl⟩
    rw [Array.getElem?_eq_none (Nat.le_of_eq last.symm)]
    rfl
  · exact .inl rfl

theorem contentText_object (h : Heap) (o : ObjectRef) :
    h.contentText (.object o) = "" ↔ (h.object o).IsBlank := by
  rw [contentText, render]
  cases h.object o with
  | pair key value => simp [HostObject.IsBlank]
  | text s => rfl
  | builder s => rfl
  | handle label handle => simp [HostObject.IsBlank]
  | task u => simp [HostObject.IsBlank]
  | labelled className label => simp [HostObject.IsBlank]
  | proxy f interface => simp [HostObject.IsBlank, toString]

/-- One more proxy does not make a text empty, or fill one. -/
theorem contentText_withProxy (f : FunctionRef) (interface : String) (content : Content) :
    (h.withProxy f interface).contentText content = "" ↔ h.contentText content = "" := by
  cases content with
  | object o =>
    rw [contentText_object, contentText_object]
    rcases object_withProxy h f interface o with same | ⟨missing, proxy⟩
    · rw [same]
    · rw [missing, proxy]
      exact Iff.rfl
  | sequence s => simp [contentText, render]
  | table t => simp [contentText, render]
  | _ => rfl

/-! ## What can be converted -/

/-- Whether content that is finite can be converted to a type. -/
def Converts (h : Heap) : HostType → Content → Prop
  | _, .null => True
  | .array element, .sequence s => ∀ cell ∈ h.elements s, h.Converts element (h.content cell)
  | .array _, _ => False
  | .char, content => h.contentText content ≠ ""
  | _, _ => True

theorem converts_withProxy (f : FunctionRef) (interface : String) :
    (h.withProxy f interface).Converts type content ↔ h.Converts type content := by
  induction type generalizing content with
  | array element ih =>
    cases content with
    | sequence s => exact forall₂_congr fun cell _ => ih
    | _ => exact Iff.rfl
  | char =>
    cases content with
    | null => exact Iff.rfl
    | _ => exact not_congr (contentText_withProxy f interface _)
  | _ => cases content <;> exact Iff.rfl

theorem Proxied.converts_iff (proxied : h.Proxied h') :
    h'.Converts type content ↔ h.Converts type content := by
  induction proxied with
  | refl => exact Iff.rfl
  | wrap _ f interface ih => exact (converts_withProxy f interface).trans ih

theorem Proxied.isFinite_iff (proxied : h.Proxied h') :
    h'.IsFinite content ↔ h.IsFinite content := by
  induction proxied with
  | refl => exact Iff.rfl
  | wrap _ f interface ih => exact (isFinite_withProxy f interface).trans ih

end Heap

/-! ## Conversions -/

namespace Marshal

variable {α β : Type} {h h' : Heap} {x : Marshal α} {f : α → Marshal β}

/-- A conversion does not fail. -/
def Succeeds (x : Marshal α) (h : Heap) : Prop :=
  ∃ a h', x h = (.ok a, h')

theorem succeeds_bind : (x >>= f).Succeeds h ↔ ∃ a h', x h = (.ok a, h') ∧ (f a).Succeeds h' := by
  unfold Succeeds
  rw [bind_run]
  rcases x h with ⟨_ | a, h'⟩
  · exact iff_of_false (fun ⟨_, _, run⟩ => nomatch run) fun ⟨_, _, run, _⟩ => nomatch run
  · refine ⟨fun succeeds => ⟨a, h', rfl, succeeds⟩, ?_⟩
    rintro ⟨_, _, ⟨⟩, succeeds⟩
    exact succeeds

theorem not_succeeds_throw (e : HostFault) : ¬ (throw e : Marshal α).Succeeds h := by
  rintro ⟨_, _, ⟨⟩⟩

/-- Conversions one after the other succeed when each does, wherever it comes in. -/
theorem mapM_succeeds_iff {f : α → Marshal β} {p : α → Prop} [∀ a, Wraps (f a)] (items : List α)
    (each : ∀ a ∈ items, ∀ h', h.Proxied h' → ((f a).Succeeds h' ↔ p a)) :
    (items.mapM f).Succeeds h ↔ ∀ a ∈ items, p a := by
  induction items generalizing h with
  | nil => exact iff_of_true ⟨[], h, rfl⟩ nofun
  | cons a items ih =>
    obtain ⟨here, later⟩ := List.forall_mem_cons.mp each
    rw [List.mapM_cons, succeeds_bind, List.forall_mem_cons, ← here h .refl]
    have after {b : β} {h' : Heap} (run : f a h = (.ok b, h')) : (items.mapM f).Succeeds h' ↔
      ∀ a ∈ items, p a := by
      have proxied : h.Proxied h' := by simpa only [run] using Wraps.proxied (x := f a) h
      exact ih fun a among h'' more => later a among h'' (proxied.trans more)
    constructor
    · rintro ⟨b, h', run, rest⟩
      obtain ⟨bs, h'', runs, -⟩ := succeeds_bind.mp rest
      exact ⟨⟨b, h', run⟩, (after run).mp ⟨bs, h'', runs⟩⟩
    · rintro ⟨⟨b, h', run⟩, all⟩
      obtain ⟨bs, h'', runs⟩ := (after run).mpr all
      exact ⟨b, h', run, succeeds_bind.mpr ⟨bs, h'', runs, _, _, rfl⟩⟩

end Marshal

open Marshal

variable {h : Heap} {r : HostRegistry} {type : HostType} {content : Content}

/-- Conversion of finite content without a declared type succeeds. -/
theorem natural_succeeds (finite : h.IsFinite content) :
    Succeeds (do
      match (← getThe Heap).natural content with
      | .ok value => return value
      | .error fault => throw fault) h := by
  obtain ⟨value, shows⟩ := finite.exists_shows
  refine succeeds_bind.mpr ⟨h, h, rfl, value, h, ?_⟩
  rw [shows.natural_eq finite.within]
  rfl

/-- Conversion to a character succeeds when there is one. -/
theorem firstChar_succeeds_iff : Succeeds (do
    match ((← getThe Heap).contentText content).toList with
    | c :: _ => return HostValue.char c
    | [] =>
      throw
        (.illegalArgument
          "empty string where a char is declared")) h ↔ h.contentText content ≠ "" := by
  rw [succeeds_bind, Ne, ← String.toList_eq_nil_iff]
  constructor
  · rintro ⟨_, _, ⟨⟩, succeeds⟩ blank
    rw [blank] at succeeds
    exact nomatch succeeds
  · intro full
    obtain ⟨c, rest, first⟩ := List.exists_cons_of_ne_nil full
    refine ⟨h, h, rfl, .char c, h, ?_⟩
    rw [first]
    rfl

theorem null_succeeds (type : HostType) : (toHost r type .null).Succeeds h := by
  rw [toHost]
  exact ⟨_, h, rfl⟩

/-- Finite content can be converted to a type or not, whatever proxies there are. -/
theorem toHost_succeeds_iff (finite : h.IsFinite content) :
    (toHost r type content).Succeeds h ↔ h.Converts type content := by
  induction type generalizing content h with
  | array element ih =>
    cases content with
    | null => exact iff_of_true (null_succeeds _) trivial
    | sequence s =>
      have each : ∀ cell ∈ h.elements s, ∀ h', h.Proxied h' →
          ((toHost r element (h.content cell)).Succeeds h' ↔ h.Converts element (h.content cell)) :=
        fun cell held h' proxied =>
          (ih (proxied.isFinite_iff.mpr (finite.inside (.element held)))).trans proxied.converts_iff
      have all :=
        mapM_succeeds_iff (f := fun cell => toHost r element (h.content cell)) (h.elements s) each
      rw [toHost, succeeds_bind]
      refine Iff.trans ⟨?_, fun succeeds => ⟨h, h, rfl, ?_⟩⟩ all
      · rintro ⟨_, _, ⟨⟩, succeeds⟩
        rw [Heap.elements_of_fresh (finite.fresh s .refl), succeeds_bind] at succeeds
        obtain ⟨items, h', run, -⟩ := succeeds
        exact ⟨items, h', run⟩
      · obtain ⟨items, h', run⟩ := succeeds
        rw [Heap.elements_of_fresh (finite.fresh s .refl)]
        exact succeeds_bind.mpr ⟨items, h', run, _, _, rfl⟩
    | _ =>
      rw [toHost]
      · exact iff_of_false (not_succeeds_throw _) id
      all_goals simp
  | char =>
    cases content with
    | null => exact iff_of_true (null_succeeds _) trivial
    | _ =>
      rw [toHost]
      · exact firstChar_succeeds_iff
      · simp
  | object | collection | map =>
    cases content with
    | null => exact iff_of_true (null_succeeds _) trivial
    | _ =>
      rw [toHost]
      · exact iff_of_true (natural_succeeds finite) trivial
      · simp
  | named name =>
    cases content with
    | null => exact iff_of_true (null_succeeds _) trivial
    | function f =>
      refine iff_of_true ?_ trivial
      by_cases declared : r.isInterface name
      · exact ⟨_, _, toHost_function declared f h⟩
      · rw [toHost, if_neg declared]
        exact ⟨_, _, rfl⟩
    | _ =>
      rw [toHost]
      · exact iff_of_true (natural_succeeds finite) trivial
      all_goals simp
  | _ =>
    cases content with
    | null => exact iff_of_true (null_succeeds _) trivial
    | _ =>
      rw [toHost]
      · exact iff_of_true ⟨_, _, rfl⟩ trivial
      · simp

/-! ## Arguments -/

/-- Arguments can be converted one after the other when each of them can be converted. -/
theorem marshalArgs_succeeds_iff {params : List HostType} {args : List Content}
    (finite : ∀ arg ∈ args, h.IsFinite arg) : (Host.marshalArgs r params args).Succeeds h ↔
      ∀ pair ∈ args.zip params, (toHost r pair.2 pair.1).Succeeds h := by
  have known (pair : Content × HostType) (held : pair ∈ args.zip params) : h.IsFinite pair.1 :=
    finite _ (List.of_mem_zip held).1
  refine (mapM_succeeds_iff (p := fun pair => h.Converts pair.2 pair.1) _
    fun pair held h' proxied => ?_).trans
    (forall₂_congr fun pair held => (toHost_succeeds_iff (known pair held)).symm)
  exact (toHost_succeeds_iff (proxied.isFinite_iff.mpr (known pair held))).trans
    proxied.converts_iff

/-- What fits a type that is not the type of an array can be converted to it. -/
theorem converts_of_score (fits : score h r content type ≠ .no)
    (plain : ∀ element, type ≠ .array element) :
    h.Converts type content := by
  cases type with
  | array element => exact absurd rfl (plain element)
  | char =>
    cases content with
    | null => trivial
    | text s =>
      rintro blank
      have single : s.length = 1 := by_contra fun other => fits (if_neg other)
      cases (show s = "" from blank) ▸ single
    | _ => exact absurd rfl fits
  | _ => cases content <;> trivial

/-- What fits the type of an array is the empty value, a sequence or a text. -/
theorem of_score_array {element : HostType} (fits : score h r content (.array element) ≠ .no) :
    content = .null ∨ (∃ s, content = .sequence s) ∨ ∃ text, content = .text text := by
  cases content with
  | null => exact .inl rfl
  | sequence s => exact .inr (.inl ⟨s, rfl⟩)
  | text s => exact .inr (.inr ⟨s, rfl⟩)
  | _ => exact absurd rfl fits

namespace HostRegistry

/-- Each argument of a chosen overload can be converted to a parameter that is not the type of an
array. Where the type of an array is declared, the empty value can be converted, and a sequence when
each of its elements can be converted to the type of the elements. The call goes on to the method
when all its arguments can be converted. -/
theorem chosen_converts (h : Heap) (r : HostRegistry) (candidates : List HostMethod)
    (args : List Content) (m : HostMethod) (chosen : resolve h r candidates args = some m)
    (finite : ∀ arg ∈ args, h.IsFinite arg) :
    (∀ pair ∈ args.zip m.params,
      ((∀ element, pair.2 ≠ .array element) → (toHost r pair.2 pair.1).Succeeds h) ∧
      ∀ element, pair.2 = .array element →
        pair.1 = .null ∧ (toHost r pair.2 pair.1).Succeeds h ∨
        (∃ s, pair.1 = .sequence s ∧ ((toHost r pair.2 pair.1).Succeeds h ↔
          ∀ cell ∈ h.elements s, (toHost r element (h.content cell)).Succeeds h)) ∨
        ∃ text, pair.1 = .text text) ∧
    ((Host.marshalArgs r m.params args).Succeeds h ↔
      ∀ pair ∈ args.zip m.params, (toHost r pair.2 pair.1).Succeeds h) ∧
    ((∀ type ∈ m.params, ∀ element, type ≠ .array element) →
      (Host.marshalArgs r m.params args).Succeeds h) := by
  have fits (pair : Content × HostType) (held : pair ∈ args.zip m.params) :
      score h r pair.1 pair.2 ≠ .no := by
    intro refused
    exact (chosen_of_resolve chosen).fits.2 (List.mem_map.mpr ⟨pair, held, refused⟩)
  have known (pair : Content × HostType) (held : pair ∈ args.zip m.params) : h.IsFinite pair.1 :=
    finite _ (List.of_mem_zip held).1
  have plain (pair : Content × HostType) (held : pair ∈ args.zip m.params)
      (plain : ∀ element, pair.2 ≠ .array element) : (toHost r pair.2 pair.1).Succeeds h :=
    (toHost_succeeds_iff (known pair held)).mpr (converts_of_score (fits pair held) plain)
  have all : (Host.marshalArgs r m.params args).Succeeds h ↔
      ∀ pair ∈ args.zip m.params, (toHost r pair.2 pair.1).Succeeds h :=
        marshalArgs_succeeds_iff finite
  refine ⟨fun pair held => ⟨plain pair held, fun element array => ?_⟩, all,
    fun types => all.mpr fun pair held => plain pair held (types _ (List.of_mem_zip held).2)⟩
  obtain ⟨arg, _⟩ := pair
  subst array
  rcases of_score_array (fits _ held) with null | ⟨s, sequence⟩ | text
  · obtain rfl : arg = .null := null
    exact .inl ⟨rfl, null_succeeds _⟩
  · obtain rfl : arg = .sequence s := sequence
    refine .inr
      (.inl ⟨s, rfl, (toHost_succeeds_iff (known _ held)).trans
        (forall₂_congr fun cell among => ?_)⟩)
    exact (toHost_succeeds_iff ((known _ held).inside (.element among))).symm
  · exact .inr (.inr text)

/-- A heap with the sequence of one text. -/
def words : Heap :=
  { Heap.empty with cells := #[.clean (.text "x")], sequences := Sequences.empty.addRoot [⟨0⟩] }

theorem elements_words : words.elements ⟨0⟩ = [⟨0⟩] := by
  rw [Heap.elements, show words.sequences.snapshot ⟨0⟩ = .ok [⟨0⟩] from Sequences.snapshot_addRoot
    .empty [⟨0⟩]]
  rfl

theorem isFinite_words : words.IsFinite (.sequence ⟨0⟩) := by
  refine .of_inside ?_ fun inner inside => ?_
  · rintro s ⟨⟩
    exact Sequences.staleness?_of_root rfl
  · cases inside with
    | element held =>
      obtain rfl := List.mem_singleton.mp (elements_words ▸ held)
      exact .of_host? rfl

/-- A method `f` with one parameter. -/
def taking (type : HostType) : HostMethod :=
  ⟨"f", [type], .text, true, .label type.spelling⟩

/-- The sequence of a text is converted to an array of texts. -/
theorem chosen_converts_words :
    resolve words .empty [taking (.array .text), taking .object] [.sequence ⟨0⟩] =
      some (taking (.array .text)) ∧
      (∀ arg ∈ [Content.sequence ⟨0⟩], words.IsFinite arg) ∧
      (Host.marshalArgs .empty [.array .text] [.sequence ⟨0⟩]).Succeeds words := by
  have chosen : resolve words .empty [taking (.array .text), taking .object] [.sequence ⟨0⟩] =
      some (taking (.array .text)) := rfl
  have finite : ∀ arg ∈ [Content.sequence ⟨0⟩], words.IsFinite arg := by simpa using isFinite_words
  refine ⟨chosen, finite, ?_⟩
  obtain ⟨each, all, -⟩ := chosen_converts _ _ _ _ _ chosen finite
  refine all.mpr fun pair held => ?_
  obtain rfl := List.mem_singleton.mp held
  rcases (each _ held).2 .text rfl with ⟨null, -⟩ | ⟨s, sequence, converts⟩ | ⟨text, other⟩
  · cases null
  · cases sequence
    refine converts.mpr fun cell among => ?_
    obtain rfl := List.mem_singleton.mp (elements_words ▸ among)
    exact ⟨_, _, rfl⟩
  · cases other

/-- The sequence of a text calls the overload that takes arrays of arrays, which it cannot be
converted to, and not the one that takes any value. A text calls the overload that takes arrays. -/
theorem chosen_not_converted :
    (resolve words .empty [taking (.array (.array .long)), taking .object] [.sequence ⟨0⟩] =
        some (taking (.array (.array .long))) ∧ words.IsFinite (.sequence ⟨0⟩) ∧
      ¬ (toHost .empty (.array (.array .long)) (.sequence ⟨0⟩)).Succeeds words ∧
      (toHost .empty .object (.sequence ⟨0⟩)).Succeeds words) ∧
    resolve words .empty [taking (.array .long), taking .object] [.text "x"] =
      some (taking (.array .long)) ∧
      ¬ (toHost .empty (.array .long) (.text "x")).Succeeds words ∧
      (toHost .empty .object (.text "x")).Succeeds words := by
  refine ⟨⟨rfl, isFinite_words, ?_, ?_⟩, rfl, ?_, ?_⟩
  · rw [toHost_succeeds_iff isFinite_words]
    intro converts
    exact converts ⟨0⟩ (elements_words ▸ List.mem_cons_self)
  · exact (toHost_succeeds_iff isFinite_words).mpr trivial
  · exact fun succeeds => (toHost_succeeds_iff (.of_host? rfl)).mp succeeds
  · exact (toHost_succeeds_iff (.of_host? rfl)).mpr trivial

end HostRegistry

end CellScript
