import CellScript.Proofs.Host.Conversion

/-!
# To the host and back

Content that goes to the host and comes back is built anew: numbers and texts are copied, objects
and functions are the same ones, and sequences and maps are new ones with the same elements, which
have been built anew themselves. All cells are new and clean, so that no taint comes back. What is
built has the same host value again.

## Main definitions

* `Heap.Made`, `Sequences.NewRoot`, `Heap.NewMap` — cells, sequences and maps that were not there
  before.
* `Heap.Rebuilt` — content that was built anew.
* `Heap.ComesBack` — a host value from which content is built anew.

## Main statements

* `Heap.Shows.comesBack` — what comes back from the host.
* `Heap.Rebuilt.shows` — it has the same host value.
* `Heap.marshal_round_trip` — both together.
-/

namespace CellScript

open Relation Sequences

namespace Sequences

variable {q₀ q q' q'' : Sequences} {s : SequenceRef} {cells : List CellRef}

/-- A root view over a store of its own, both of which were not there before. -/
structure NewRoot (q q' : Sequences) (s : SequenceRef) (cells : List CellRef) : Prop where
  new : q.views.size ≤ s.index
  held : q'.Has s
  root : (q'.view s).parent = none
  ownStore : q.stores.size ≤ (q'.view s).store
  stored : (q'.view s).store < q'.stores.size
  shows : q'.snapshot s = .ok cells

theorem newRoot_addRoot (q : Sequences) (cells : List CellRef) :
    q.NewRoot (q.addRoot cells) ⟨q.views.size⟩ cells := by
  have view :
      (q.addRoot cells).view ⟨q.views.size⟩ =
      ⟨q.stores.size, ⟨Store.sentinel, 0⟩, cells.length, none⟩ :=
    viewAt_addRoot_size
  refine ⟨le_rfl, ?_, ?_, ?_, ?_, snapshot_addRoot q cells⟩
  · simp [Has, addRoot]
  · rw [view]
  · rw [view]
  · rw [view]
    simp [addRoot]

namespace NewRoot

theorem extend (root : q.NewRoot q' s cells) (grows : q'.Grows q'') : q.NewRoot q'' s cells := by
  have view : q''.view s = q'.view s := grows.viewAt s.index root.held
  refine ⟨root.new, root.held.trans_le grows.views, ?_, ?_, ?_, ?_⟩
  · rw [view]
    exact root.root
  · rw [view]
    exact root.ownStore
  · rw [view]
    exact root.stored.trans_le grows.stores
  · rw [grows.snapshot_eq root.held root.stored root.root]
    exact root.shows

theorem weaken (root : q.NewRoot q' s cells) (grows : q₀.Grows q) : q₀.NewRoot q' s cells :=
  { root with new := grows.views.trans root.new, ownStore := grows.stores.trans root.ownStore }

end NewRoot

end Sequences

namespace Heap

variable {h b b' g g' : Heap} {changed : Set TableRef} {content inner : Content} {cell : CellRef}
  {value : HostValue} {s : SequenceRef} {t : TableRef} {entries : List (String × CellRef)}

/-- A new, clean cell. -/
structure Made (b g : Heap) (cell : CellRef) (content : Content) : Prop where
  new : b.cells.size ≤ cell.index
  held : cell.index < g.cells.size
  get : g.get cell = .clean content

/-- A new map in insertion order that has no policies. -/
structure NewMap (b g : Heap) (t : TableRef) (entries : List (String × CellRef)) : Prop where
  new : b.tables.size ≤ t.index
  held : t.index < g.tables.size
  sound : (g.table t).Sound
  order : (g.table t).mode = .insertion
  policies : (g.table t).miss = none ∧ (g.table t).removal = none ∧ (g.table t).capacity = none
  listing : (g.table t).listing = entries

/-- In the heap `g` a cell that was not in `b` holds what the content of `h` is when it is built
anew. -/
inductive Rebuilt (h b g : Heap) : Content → CellRef → Prop
  | plain {content : Content} {cell : CellRef} (plain : content.host?.isSome)
    (made : b.Made g cell content) :
    Rebuilt h b g content cell
  | sequence {s s' : SequenceRef} {cells : List CellRef} {cell : CellRef}
    (made : b.Made g cell (.sequence s')) (root : b.sequences.NewRoot g.sequences s' cells)
    (length : (h.elements s).length = cells.length)
    (rebuilt : ∀ pair ∈ (h.elements s).zip cells, Rebuilt h b g (h.content pair.1) pair.2) :
    Rebuilt h b g (.sequence s) cell
  | table {t t' : TableRef} {entries : List (String × CellRef)} {cell : CellRef}
    (made : b.Made g cell (.table t')) (map : b.NewMap g t' entries)
    (length : (h.entries t).length = entries.length)
    (keys : ∀ pair ∈ (h.entries t).zip entries, pair.1.1 = pair.2.1)
    (rebuilt : ∀ pair ∈ (h.entries t).zip entries, Rebuilt h b g (h.content pair.1.2) pair.2.2) :
    Rebuilt h b g (.table t) cell

/-- No object that content holds, however deep, is a proxy. -/
def ProxyFree (h : Heap) (content : Content) : Prop :=
  ∀ o f interface, ReflTransGen h.Inside content (.object o) → h.object o ≠ .proxy f interface

theorem ProxyFree.inside (free : h.ProxyFree content) (inside : h.Inside content inner) :
    h.ProxyFree inner :=
  fun o f interface reach => free o f interface (.head inside reach)

/-! ## What was built stays -/

theorem Made.extend (made : b.Made g cell content) (extension : Extends changed g g') :
    b.Made g' cell content where
  new := made.new
  held := made.held.trans_le extension.size
  get := (extension.get cell made.held).trans made.get

theorem Made.weaken (made : b'.Made g cell content) (extension : Extends changed b b') :
    b.Made g cell content :=
  { made with new := extension.size.trans made.new }

theorem NewMap.extend (map : b.NewMap g t entries) (extension : Extends changed g g')
    (same : t ∉ changed) :
    b.NewMap g' t entries := by
  have table := extension.table t map.held same
  refine ⟨map.new, map.held.trans_le extension.tables, ?_, ?_, ?_, ?_⟩ <;> rw [table]
  · exact map.sound
  · exact map.order
  · exact map.policies
  · exact map.listing

theorem NewMap.weaken (map : b'.NewMap g t entries) (extension : Extends changed b b') :
    b.NewMap g t entries :=
  { map with new := extension.tables.trans map.new }

/-- What was built stays when more is built, and when maps change that were there before. -/
theorem Rebuilt.extend (rebuilt : h.Rebuilt b g content cell) (extension : Extends changed g g')
    (old : ∀ t ∈ changed, t.index < b.tables.size) : h.Rebuilt b g' content cell := by
  induction rebuilt with
  | plain plain made => exact .plain plain (made.extend extension)
  | sequence made root length _ ih =>
    exact .sequence (made.extend extension) (root.extend extension.sequences) length ih
  | table made map length keys _ ih =>
    have same := fun changes => (old _ changes).not_ge map.new
    exact .table (made.extend extension) (map.extend extension same) length keys ih

/-- What is new in a heap is new in an older one. -/
theorem Rebuilt.weaken (rebuilt : h.Rebuilt b' g content cell) (extension : Extends changed b b') :
    h.Rebuilt b g content cell := by
  induction rebuilt with
  | plain plain made => exact .plain plain (made.weaken extension)
  | sequence made root length _ ih =>
    exact .sequence (made.weaken extension) (root.weaken extension.sequences) length ih
  | table made map length keys _ ih =>
    exact .table (made.weaken extension) (map.weaken extension) length keys ih

/-! ## What is built -/

theorem cell_run (g : Heap) (content : Content) :
    ∃ cell g', HeapM.cell content g = (.ok cell, g') ∧ Extends ∅ g g' ∧ g.Made g' cell content := by
  refine ⟨_, _, rfl, .alloc g _, le_rfl, ?_, ?_⟩
  · simp
  · simp [Heap.get]

theorem sequence_run (g : Heap) (cells : List CellRef) :
    ∃ s cell g', HeapM.sequence cells g = (.ok cell, g') ∧ Extends ∅ g g' ∧
      g.Made g' cell (.sequence s) ∧
      g.sequences.NewRoot g'.sequences s cells := by
  have first : HeapM.newSequence cells g =
      (.ok ⟨g.sequences.views.size⟩, { g with sequences := g.sequences.addRoot cells }) := rfl
  obtain ⟨cell, g', run, extension, made⟩ :=
      cell_run { g with sequences := g.sequences.addRoot cells }
        (.sequence ⟨g.sequences.views.size⟩)
  have both := (Extends.addRoot g cells).trans extension
  refine ⟨_, cell, g', (bind_ok first).trans run, both, made.weaken (.addRoot g cells), ?_⟩
  exact (newRoot_addRoot g.sequences cells).extend extension.sequences

theorem newTable_run (g : Heap) :
    ∃ t g', HeapM.newTable .insertion g = (.ok t, g') ∧ Extends ∅ g g' ∧ g.NewMap g' t [] := by
  have table :
      ({ g with tables := g.tables.push (.empty .insertion) } : Heap).table ⟨g.tables.size⟩ =
      .empty .insertion := by simp [Heap.table]
  refine ⟨⟨g.tables.size⟩, _, rfl, .newTable g .insertion, le_rfl, ?_, ?_, ?_, ?_, ?_⟩
  · simp
  all_goals rw [table]
  · exact Table.sound_empty .insertion
  · rfl
  · exact ⟨rfl, rfl, rfl⟩
  · rfl

/-- A new key goes to the young end of a new map. -/
theorem NewMap.putEntry_run {key : String} (map : b.NewMap g t entries)
    (absent : key ∉ entries.map (·.1)) (cell : CellRef) :
    ∃ g', HeapM.putEntry t key cell g = (.ok (), g') ∧ Extends {t} g g' ∧
      b.NewMap g' t (entries ++ [(key, cell)]) := by
  have missing : (g.table t).entries.get? key = none := by
    cases found : (g.table t).entries.get? key with
    | none => rfl
    | some entry =>
      have listed :=
        map.sound.mem_listing.mpr
          (show (g.table t).peek key = some entry.cell by simp [Table.peek, found])
      exact absurd (List.mem_map_of_mem (map.listing ▸ listed)) absent
  refine ⟨_, rfl, .modifyTable g t _, map.new, ?_, ?_, ?_, ?_, ?_⟩
  · simp [modifyTable, map.held]
  all_goals simp only [table_modifyTable_self map.held, missing]
  · exact map.sound.append missing cell
  · exact map.order
  · exact map.policies
  · rw [map.sound.listing_append missing, map.listing]

/-- What comes back from the host for content: a cell in which it is built anew. -/
def ComesBack (h : Heap) (content : Content) (value : HostValue) : Prop :=
  ∀ g : Heap, g.objects = h.objects →
    ∃ cell g', fromHost value g = (.ok cell, g') ∧ Extends ∅ g g' ∧ h.Rebuilt g g' content cell

theorem fromHost_run_of_host? (known : content.host? = some value) (free : h.ProxyFree content) :
    h.ComesBack content value := by
  intro g objects
  obtain ⟨cell, g', run, extension, made⟩ := cell_run g content
  refine ⟨cell, g', ?_, extension, .plain (by rw [known]; rfl) made⟩
  rw [← run]
  cases content with
  | sequence s => cases known
  | table t => cases known
  | object o =>
    cases known
    have asked : HeapM.ask (·.object o) g = (.ok (h.object o), g) := by
      rw [HeapM.ask, Heap.object, Heap.object, objects]
    rw [fromHost, bind_ok asked]
    cases kind : h.object o with
    | proxy f interface => exact absurd kind (free o f interface .refl)
    | _ => rfl
  | _ =>
    cases known
    rfl

/-- The elements of a sequence come back one after the other. -/
theorem fromHostItems_run {cells : List CellRef} {items : List HostValue}
    (each : List.Forall₂ (fun cell item => h.ComesBack (h.content cell) item) cells items)
    (objects : g.objects = h.objects) :
    ∃ new g', fromHostItems items g = (.ok new, g') ∧ Extends ∅ g g' ∧
      List.Forall₂ (fun cell cell' => h.Rebuilt g g' (h.content cell) cell') cells new := by
  induction each generalizing g with
  | nil => exact ⟨[], g, rfl, .refl g, .nil⟩
  | @cons cell item cells items first _ ih =>
    obtain ⟨new, g₁, run, extension, rebuilt⟩ := first g objects
    obtain ⟨rest, g₂, runs, extensions, rebuilts⟩ := ih (extension.objects.trans objects)
    refine ⟨new :: rest, g₂, ?_, extension.trans extensions,
      .cons (rebuilt.extend extensions nofun) ?_⟩
    · rw [fromHostItems, bind_ok run, bind_ok runs]
      rfl
    · exact rebuilts.imp fun _ _ rebuilt => rebuilt.weaken extension

/-- The entries of a map come back into a new map, one after the other. -/
theorem NewMap.fromHostEntries_run {old : List (String × CellRef)}
    {items : List (String × HostValue)}
    (each : List.Forall₂ (fun held item => held.1 = item.1 ∧ h.ComesBack (h.content held.2) item.2)
      old items)
    (map : b.NewMap g t entries) (distinct : (entries.map (·.1) ++ old.map (·.1)).Nodup)
    (objects : g.objects = h.objects) :
    ∃ new g', fromHostEntries t items g = (.ok (), g') ∧ Extends {t} g g' ∧
      b.NewMap g' t (entries ++ new) ∧
      List.Forall₂ (fun held held' => held.1 = held'.1 ∧ h.Rebuilt g g' (h.content held.2) held'.2)
        old new := by
  induction each generalizing g entries with
  | nil => exact ⟨[], g, rfl, .refl g, by rwa [List.append_nil], .nil⟩
  | @cons held item old items first _ ih =>
    obtain ⟨key, cell⟩ := held
    obtain ⟨_, value⟩ := item
    obtain ⟨rfl, back⟩ := first
    obtain ⟨new, g₁, run, extension, rebuilt⟩ := back g objects
    have absent : key ∉ entries.map (·.1) := fun among =>
      List.disjoint_of_nodup_append distinct among List.mem_cons_self
    obtain ⟨g₂, put, put_extends, map₂⟩ := (map.extend extension nofun).putEntry_run absent new
    have distinct₂ : ((entries ++ [(key, new)]).map (·.1) ++ old.map (·.1)).Nodup := by
      simpa using distinct
    obtain ⟨rest, g₃, runs, extensions, map₃, rebuilts⟩ :=
      ih map₂ distinct₂ (put_extends.objects.trans (extension.objects.trans objects))
    have here : Extends {t} g g₂ := (extension.mono (Set.empty_subset _)).trans put_extends
    have among : ∀ u ∈ ({t} : Set TableRef), u.index < g.tables.size := by
      rintro u rfl
      exact map.held
    refine ⟨(key, new) :: rest, g₃, ?_, here.trans extensions, ?_, .cons ⟨rfl, ?_⟩ ?_⟩
    · rw [fromHostEntries, bind_ok run, bind_ok put]
      exact runs
    · rwa [List.append_assoc] at map₃
    · exact (rebuilt.extend put_extends among).extend extensions among
    · exact rebuilts.imp fun _ _ pair => ⟨pair.1, pair.2.weaken here⟩

/-- Content comes back from the host built anew. -/
theorem Shows.comesBack (shows : h.Shows content value) (sound : h.MapsSound)
    (free : h.ProxyFree content) :
    h.ComesBack content value := by
  induction shows with
  | plain known => exact fromHost_run_of_host? known free
  | @sequence s items fresh length _ ih =>
    intro g objects
    have each :
        List.Forall₂ (fun cell item => h.ComesBack (h.content cell) item) (h.elements s) items :=
      List.forall₂_iff_zip.mpr ⟨length, fun {cell item} paired =>
        ih (cell, item) paired (free.inside (.element (List.of_mem_zip paired).1))⟩
    obtain ⟨new, g₁, runs, extensions, rebuilts⟩ := fromHostItems_run each objects
    obtain ⟨s', cell, g₂, run, extension, made, root⟩ := sequence_run g₁ new
    obtain ⟨length, rebuilt⟩ := List.forall₂_iff_zip.mp rebuilts
    refine ⟨cell, g₂, (bind_ok runs).trans run, extensions.trans extension, ?_⟩
    exact .sequence (made.weaken extensions) (root.weaken extensions.sequences) length
      fun _ paired => (rebuilt paired).extend extension nofun
  | @table t items length keys _ ih =>
    intro g objects
    have each :
        List.Forall₂ (fun held item => held.1 = item.1 ∧ h.ComesBack (h.content held.2) item.2)
        (h.entries t) items :=
      List.forall₂_iff_zip.mpr ⟨length, fun {held item} paired =>
        ⟨keys (held, item) paired,
          ih (held, item) paired (free.inside (.value (List.of_mem_zip paired).1))⟩⟩
    obtain ⟨t', g₁, make, made_extends, map⟩ := newTable_run g
    obtain ⟨new, g₂, fill, fill_extends, map₂, rebuilts⟩ := map.fromHostEntries_run each
      (by simpa using (mapAgrees (sound t)).once) (made_extends.objects.trans objects)
    obtain ⟨cell, g₃, run, extension, made⟩ := cell_run g₂ (.table t')
    obtain ⟨length, rebuilt⟩ := List.forall₂_iff_zip.mp rebuilts
    have filled : Extends ∅ g g₂ :=
      ((made_extends.mono (Set.empty_subset {t'})).trans fill_extends).of_new
        fun u same => same ▸ map.new
    refine ⟨cell, g₃, (bind_ok make).trans ((bind_ok fill).trans run), filled.trans extension, ?_⟩
    exact .table (made.weaken filled) (map₂.extend extension nofun) length
      (fun _ paired => (rebuilt paired).1)
      fun _ paired => ((rebuilt paired).2.extend extension nofun).weaken made_extends

/-! ## What is built has the same host value -/

/-- The empty value is built from the empty value only. -/
theorem Rebuilt.isNull_eq (rebuilt : h.Rebuilt b g content cell) :
    g.isNull cell = content.isNull := by
  rw [isNull, Value.isNull]
  cases rebuilt with
  | plain plain made => rw [made.get]; rfl
  | sequence made => rw [made.get]; rfl
  | table made => rw [made.get]; rfl

/-- All entries of a map that is built anew hold something. -/
theorem entries_eq {held : List (String × CellRef)} (map : b.NewMap g t entries)
    (rebuilt : List.Forall₂ (fun held held' => h.Rebuilt b g (h.content held.2) held'.2)
      held entries)
    (full : ∀ pair ∈ held, h.isNull pair.2 = false) : g.entries t = entries := by
  rw [Heap.entries, map.listing, List.filter_eq_self]
  intro pair among
  obtain ⟨old, held, built⟩ := exists_of_mem_right rebuilt among
  exact (Bool.not_eq_true' _).mpr (built.isNull_eq.trans (full old held))

theorem Rebuilt.shows (rebuilt : h.Rebuilt b g content cell) (shows : h.Shows content value) :
    g.Shows (g.content cell) value := by
  induction rebuilt generalizing value with
  | plain plain made =>
    rw [Heap.content, made.get]
    cases shows with
    | plain known => exact .plain known
    | _ => cases plain
  | @sequence s s' cells cell made root length _ ih =>
    obtain ⟨-, items, rfl, each⟩ := shows_sequence_iff.mp shows
    have along : List.Forall₂ (fun cell cell' => ∀ value, h.Shows (h.content cell) value →
        g.Shows (g.content cell') value) (h.elements s) cells :=
      List.forall₂_iff_zip.mpr ⟨length, fun paired value => ih _ paired⟩
    have elements : g.elements s' = cells := by rw [Heap.elements, root.shows]; rfl
    rw [Heap.content, made.get]
    exact shows_sequence_iff.mpr
      ⟨staleness?_of_root root.root, items, rfl, elements.symm ▸ forall₂_of_left along each⟩
  | @table t t' entries cell made map length keys rebuilt ih =>
    obtain ⟨items, rfl, each⟩ := shows_table_iff.mp shows
    have along : List.Forall₂ (fun held held' => ∀ item : String × HostValue,
        held.1 = item.1 ∧ h.Shows (h.content held.2) item.2 → held'.1 = item.1 ∧
        g.Shows (g.content held'.2) item.2)
        (h.entries t) entries :=
      List.forall₂_iff_zip.mpr ⟨length, fun paired item both =>
        ⟨(keys _ paired).symm.trans both.1, ih _ paired both.2⟩⟩
    have whole : g.entries t' = entries :=
      entries_eq map (List.forall₂_iff_zip.mpr ⟨length, fun paired => rebuilt _ paired⟩)
        fun pair held => by
        simpa using (List.mem_filter.mp held).2
    rw [Heap.content, made.get]
    exact shows_table_iff.mpr ⟨items, rfl, whole.symm ▸ forall₂_of_left along each⟩

/-- Finite content without proxies has a host value, from which it is built anew with that host
value. -/
theorem IsFinite.round_trip (finite : h.IsFinite content) (sound : h.MapsSound)
    (free : h.ProxyFree content) :
    ∃ value cell h', h.natural content = .ok value ∧ fromHost value h = (.ok cell, h') ∧
      Extends ∅ h h' ∧
      h.Rebuilt h h' content cell ∧ h'.natural (h'.content cell) = .ok value := by
  obtain ⟨value, shows⟩ := finite.exists_shows
  obtain ⟨cell, h', run, extension, rebuilt⟩ := shows.comesBack sound free h rfl
  have shown := rebuilt.shows shows
  exact ⟨value, cell, h', shows.natural_eq finite.within, run, extension, rebuilt,
    shown.natural_eq shown.isFinite.within⟩

/-- The proxy of a function comes back as that function. -/
theorem fromHost_withProxy_run (h : Heap) (f : FunctionRef) (interface : String) :
    ∃ cell h', fromHost (.object ⟨h.objects.size⟩) (h.withProxy f interface) = (.ok cell, h') ∧
      (h.withProxy f interface).Made h' cell (.function f) := by
  have asked : HeapM.ask (·.object ⟨h.objects.size⟩) (h.withProxy f interface) =
      (.ok (.proxy f interface), h.withProxy f interface) := by
    rw [HeapM.ask, object_size_withProxy]
  obtain ⟨cell, h', run, -, made⟩ := cell_run (h.withProxy f interface) (.function f)
  refine ⟨cell, h', ?_, made⟩
  rw [fromHost, bind_ok asked]
  exact run

/-- Finite content without proxies goes to the host and comes back built anew, with the same host
value as before. A function that goes to the host where an interface is declared comes back as that
function. The maps are sound, as every operation on them keeps them. -/
theorem marshal_round_trip (h : Heap) (r : HostRegistry) :
    (∀ content, h.MapsSound → h.IsFinite content → h.ProxyFree content →
      ∃ value cell h', h.natural content = .ok value ∧ fromHost value h = (.ok cell, h') ∧
        Extends ∅ h h' ∧
        h.Rebuilt h h' content cell ∧ h'.natural (h'.content cell) = .ok value) ∧
    ∀ interface f, r.isInterface interface → ∃ o h₁ cell h₂,
      toHost r (.named interface) (.function f) h = (.ok (.object o), h₁) ∧
        h₁.object o = .proxy f interface ∧ fromHost (.object o) h₁ = (.ok cell, h₂) ∧
        h₁.Made h₂ cell (.function f) := by
  refine ⟨fun content sound finite free => finite.round_trip sound free,
    fun interface f declared => ?_⟩
  obtain ⟨cell, h₂, back, made⟩ := fromHost_withProxy_run h f interface
  exact ⟨_, _, cell, h₂, toHost_function declared f h, object_size_withProxy h f interface,
    back, made⟩

/-- A heap with a map that holds a sequence of a number and a pair, and a key without a value. -/
def bundle : Heap :=
  { Heap.empty with
    cells := #[⟨.int 1, true⟩, .clean (.object ⟨0⟩), ⟨.sequence ⟨0⟩, true⟩, .null]
    sequences := Sequences.empty.addRoot [⟨0⟩, ⟨1⟩]
    tables := #[((Table.empty .access).append "list" ⟨2⟩).append "none" ⟨3⟩]
    objects := #[.pair ⟨0⟩ ⟨3⟩] }

theorem mapsSound_bundle : bundle.MapsSound := by
  rintro ⟨_ | i⟩
  · exact ((Table.sound_empty .access).append rfl ⟨2⟩).append (by decide) ⟨3⟩
  · exact Table.sound_empty default

theorem elements_bundle : bundle.elements ⟨0⟩ = [⟨0⟩, ⟨1⟩] := by
  rw [elements, show bundle.sequences.snapshot ⟨0⟩ = .ok [⟨0⟩, ⟨1⟩] from snapshot_addRoot
    .empty [⟨0⟩, ⟨1⟩]]
  rfl

theorem entries_bundle : bundle.entries ⟨0⟩ = [("list", ⟨2⟩)] := by
  decide

theorem isFinite_bundle : bundle.IsFinite (.table ⟨0⟩) := by
  refine .of_inside nofun fun inner inside => ?_
  cases inside with
  | value held =>
    obtain ⟨rfl, rfl⟩ := Prod.mk.inj (List.mem_singleton.mp (entries_bundle ▸ held))
    refine .of_inside ?_ fun inner inside => ?_
    · rintro s ⟨⟩
      exact staleness?_of_root rfl
    · change bundle.Inside (.sequence ⟨0⟩) inner at inside
      cases inside with
      | element held =>
        rw [elements_bundle, List.mem_pair] at held
        rcases held with rfl | rfl <;> exact .of_host? rfl

theorem proxyFree_bundle : bundle.ProxyFree (.table ⟨0⟩) := by
  rintro ⟨_ | i⟩ f interface - same
  · cases same
  · cases (show default = HostObject.proxy f interface from same)

/-- The map comes back with its sequence, and a function comes back as it was. -/
theorem marshal_round_trip_bundle :
    bundle.MapsSound ∧ bundle.IsFinite (.table ⟨0⟩) ∧ bundle.ProxyFree (.table ⟨0⟩) ∧
      (∃ value cell h', bundle.natural (.table ⟨0⟩) = .ok value ∧
        fromHost value bundle = (.ok cell, h') ∧
        bundle.Rebuilt bundle h' (.table ⟨0⟩) cell ∧ h'.natural (h'.content cell) = .ok value) ∧
      (HostRegistry.empty.register (.interface "Shape")).isInterface "Shape" ∧
      ∃ o h₁ cell h₂,
        toHost (HostRegistry.empty.register (.interface "Shape")) (.named "Shape") (.function ⟨0⟩)
          bundle =
          (.ok (.object o), h₁) ∧ fromHost (.object o) h₁ = (.ok cell, h₂) ∧
          h₂.get cell = .clean (.function ⟨0⟩) := by
  have declared : (HostRegistry.empty.register (.interface "Shape")).isInterface "Shape" := by
    decide
  obtain ⟨values, functions⟩ :=
      marshal_round_trip bundle (HostRegistry.empty.register (.interface "Shape"))
  obtain ⟨value, cell, h', natural, back, -, rebuilt, again⟩ :=
    values (.table ⟨0⟩) mapsSound_bundle isFinite_bundle proxyFree_bundle
  obtain ⟨o, h₁, cell', h₂, wrapped, -, unwrapped, made⟩ := functions "Shape" ⟨0⟩ declared
  exact ⟨mapsSound_bundle, isFinite_bundle, proxyFree_bundle,
    ⟨value, cell, h', natural, back, rebuilt, again⟩, declared, o, h₁, cell', h₂, wrapped,
    unwrapped, made.get⟩

end Heap

end CellScript
