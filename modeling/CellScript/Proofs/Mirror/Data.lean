import CellScript.Proofs.Mirror.Sequence
import CellScript.Scope

/-!
# Values, maps, functions and scopes in other places

What it means for the data of a machine to be alike, type by type. Data that are alike look alike:
what a script can find out about them, apart from where they lead, is the same.

## Main definitions

* `Contents`, `Callables`, `Objects`, … — the data of a type that are alike.
-/

namespace CellScript.Mirror

variable {w : Links} {α β : Type}

/-- Data that consist of other data. -/
abbrev Paired.via [Paired β] (parts : α → β) : Paired α :=
  ⟨fun w a b => Paired.rel w (parts a) (parts b), fun le h => Paired.mono le h⟩

/-! ## Values -/

/-- Contents that are alike. -/
inductive Contents (w : Links) : Content → Content → Prop where
  | null : Contents w .null .null
  | int (n : Int64) : Contents w (.int n) (.int n)
  | float (x : Float) : Contents w (.float x) (.float x)
  | text (s : String) : Contents w (.text s) (.text s)
  | object {o o' : ObjectRef} : Alike w o o' → Contents w (.object o) (.object o')
  | sequence {s s' : SequenceRef} : Alike w s s' → Contents w (.sequence s) (.sequence s')
  | table {t t' : TableRef} : Alike w t t' → Contents w (.table t) (.table t')
  | function {f f' : FunctionRef} : Alike w f f' → Contents w (.function f) (.function f')

instance : Paired Content where
  rel := Contents
  mono le h := by
    cases h <;> constructor <;> exact Alike.mono ‹_› le

section Contents

instance : Alike w Content.null .null := ⟨.null⟩

instance (n n' : Int64) [h : Alike w n n'] : Alike w (Content.int n) (.int n') := ⟨h.eq ▸ .int n⟩

instance (x x' : Float) [h : Alike w x x'] : Alike w (Content.float x) (.float x') :=
  ⟨h.eq ▸ .float x⟩

instance (s s' : String) [h : Alike w s s'] : Alike w (Content.text s) (.text s') :=
  ⟨h.eq ▸ .text s⟩

instance (o o' : ObjectRef) [h : Alike w o o'] : Alike w (Content.object o) (.object o') :=
  ⟨.object h⟩

instance (s s' : SequenceRef) [h : Alike w s s'] : Alike w (Content.sequence s) (.sequence s') :=
  ⟨.sequence h⟩

instance (t t' : TableRef) [h : Alike w t t'] : Alike w (Content.table t) (.table t') := ⟨.table h⟩

instance (f f' : FunctionRef) [h : Alike w f f'] : Alike w (Content.function f) (.function f') :=
  ⟨.function h⟩

variable (c c' d d' : Content) [hc : Alike w c c'] [hd : Alike w d d']

instance : Alike w c.typeName c'.typeName := by
  cases hc.rel <;> exact ⟨rfl⟩

instance : Alike w c.isNull c'.isNull := by
  cases hc.rel <;> exact ⟨rfl⟩

instance : Alike w c.isNumber c'.isNumber := by
  cases hc.rel <;> exact ⟨rfl⟩

instance : Alike w c.isTruthy c'.isTruthy := by
  cases hc.rel <;> exact ⟨rfl⟩

instance : Alike w (c.same d) (c'.same d') := by
  cases hc.rel with
  | object h => cases hd.rel with
    | object h' => exact ⟨(h.beq_eq h').symm⟩
    | _ => exact ⟨rfl⟩
  | sequence h => cases hd.rel with
    | sequence h' => exact ⟨(h.beq_eq h').symm⟩
    | _ => exact ⟨rfl⟩
  | table h => cases hd.rel with
    | table h' => exact ⟨(h.beq_eq h').symm⟩
    | _ => exact ⟨rfl⟩
  | function h => cases hd.rel with
    | function h' => exact ⟨(h.beq_eq h').symm⟩
    | _ => exact ⟨rfl⟩
  | _ => cases hd.rel <;> exact ⟨rfl⟩

end Contents

instance : Paired Value := .via fun v => (v.content, v.tainted)

section Values

variable (v v' u u' : Value) [hv : Alike w v v'] [hu : Alike w u u']

instance : Alike w v.content v'.content := ⟨hv.rel.1⟩

instance : Alike w v.tainted v'.tainted := ⟨hv.rel.2⟩

instance (c c' : Content) (t t' : Bool) [hc : Alike w c c'] [ht : Alike w t t'] :
    Alike w (Value.mk c t) (Value.mk c' t') := ⟨hc.rel, ht.rel⟩

instance (c c' : Content) [Alike w c c'] : Alike w (Value.clean c) (Value.clean c') :=
  inferInstanceAs (Alike w (Value.mk c false) (Value.mk c' false))

instance : Alike w Value.null Value.null :=
  inferInstanceAs (Alike w (Value.clean .null) (Value.clean .null))

instance : Alike w v.taint v'.taint :=
  inferInstanceAs (Alike w (Value.mk v.content true) (Value.mk v'.content true))

instance : Alike w v.untaint v'.untaint :=
  inferInstanceAs (Alike w (Value.mk v.content false) (Value.mk v'.content false))

instance : Alike w v.isNull v'.isNull :=
  inferInstanceAs (Alike w v.content.isNull v'.content.isNull)

instance : Alike w (v.same u) (v'.same u') :=
  inferInstanceAs (Alike w (v.content.same u.content) (v'.content.same u'.content))

end Values

/-! ## Maps -/

instance : Plain MapOrder := ⟨⟩

/-- Miss policies that are alike. -/
inductive MissPolicies (w : Links) : MissPolicy → MissPolicy → Prop where
  | call {f f' : FunctionRef} : Alike w f f' → MissPolicies w (.call f) (.call f')
  | upper : MissPolicies w .upper .upper
  | null : MissPolicies w .null .null
  | store : MissPolicies w .store .store
  | other : MissPolicies w .other .other
  | fail {f f' : Fault} : Alike w f f' → MissPolicies w (.fail f) (.fail f')

instance : Paired MissPolicy where
  rel := MissPolicies
  mono le h := by
    cases h <;> constructor <;> exact Alike.mono ‹_› le

instance (f f' : FunctionRef) [h : Alike w f f'] : Alike w (MissPolicy.call f) (.call f') :=
  ⟨.call h⟩

/-- Removal policies that are alike. -/
inductive RemovalPolicies (w : Links) : RemovalPolicy → RemovalPolicy → Prop where
  | call {f f' : FunctionRef} : Alike w f f' → RemovalPolicies w (.call f) (.call f')
  | always : RemovalPolicies w .always .always
  | never : RemovalPolicies w .never .never
  | longer (limit : Int) : RemovalPolicies w (.longer limit) (.longer limit)
  | truthy : RemovalPolicies w .truthy .truthy
  | key (key : String) : RemovalPolicies w (.key key) (.key key)
  | fail {f f' : Fault} : Alike w f f' → RemovalPolicies w (.fail f) (.fail f')

instance : Paired RemovalPolicy where
  rel := RemovalPolicies
  mono le h := by
    cases h <;> constructor <;> exact Alike.mono ‹_› le

instance (f f' : FunctionRef) [h : Alike w f f'] : Alike w (RemovalPolicy.call f) (.call f') :=
  ⟨.call h⟩

instance : Paired Entry := .via fun e => (e.cell, e.stamp)

instance (e e' : Entry) [h : Alike w e e'] : Alike w e.cell e'.cell := ⟨h.rel.1⟩

instance (e e' : Entry) [h : Alike w e e'] : Alike w e.stamp e'.stamp := ⟨h.rel.2⟩

instance (c c' : CellRef) (n n' : Nat) [hc : Alike w c c'] [hn : Alike w n n'] :
    Alike w (Entry.mk c n) (Entry.mk c' n') := ⟨hc.rel, hn.rel⟩

instance : Paired Table :=
  .via fun t => (t.mode, t.entries, t.order, t.lastStamp, t.miss, t.removal, t.capacity)

section Tables

variable (t t' : Table) [h : Alike w t t']

instance : Alike w t.mode t'.mode := ⟨h.rel.1⟩

instance : Alike w t.entries t'.entries := ⟨h.rel.2.1⟩

instance : Alike w t.order t'.order := ⟨h.rel.2.2.1⟩

instance : Alike w t.lastStamp t'.lastStamp := ⟨h.rel.2.2.2.1⟩

instance : Alike w t.miss t'.miss := ⟨h.rel.2.2.2.2.1⟩

instance : Alike w t.removal t'.removal := ⟨h.rel.2.2.2.2.2.1⟩

instance : Alike w t.capacity t'.capacity := ⟨h.rel.2.2.2.2.2.2⟩

instance (mode mode' : MapOrder) (entries entries' : Dictionary Entry)
    (order order' : List (Nat × String)) (stamp stamp' : Nat) (miss miss' : Option MissPolicy)
    (removal removal' : Option RemovalPolicy) (capacity capacity' : Option Nat)
    [h₁ : Alike w mode mode'] [h₂ : Alike w entries entries'] [h₃ : Alike w order order']
    [h₄ : Alike w stamp stamp'] [h₅ : Alike w miss miss'] [h₆ : Alike w removal removal']
    [h₇ : Alike w capacity capacity'] :
    Alike w (Table.mk mode entries order stamp miss removal capacity)
      (Table.mk mode' entries' order' stamp' miss' removal' capacity') :=
  ⟨h₁.rel, h₂.rel, h₃.rel, h₄.rel, h₅.rel, h₆.rel, h₇.rel⟩

instance (mode : MapOrder) : Alike w (Table.empty mode) (.empty mode) :=
  inferInstanceAs (Alike w (Table.mk mode .empty [] 0 none none none)
    (Table.mk mode .empty [] 0 none none none))

variable (key : String) (cell cell' : CellRef) [Alike w cell cell']

instance : Alike w (t.peek key) (t'.peek key) :=
  (inferInstance : Alike w (t.entries.get? key) (t'.entries.get? key)).map
    fun _ _ _ => inferInstance

instance : Alike w t.listing t'.listing := by
  have order : t.order = t'.order := Alike.eq (w := w) inferInstance
  unfold Table.listing
  rw [order]
  refine (inferInstance : Alike w t'.order t'.order).filterMap fun a b same => ?_
  obtain rfl := same.eq
  exact (inferInstance : Alike w (t.peek a.2) (t'.peek a.2)).map fun _ _ _ => inferInstance

instance : Alike w (t.touch key) (t'.touch key) := by
  have order : t.order = t'.order := Alike.eq (w := w) inferInstance
  have stamp : t.lastStamp = t'.lastStamp := Alike.eq (w := w) inferInstance
  have found : Alike w (t.entries.get? key) (t'.entries.get? key) := inferInstance
  unfold Table.touch
  rw [order, stamp]
  obtain ⟨left, right⟩ | ⟨entry, entry', left, right, same⟩ := found.option
  · rw [left, right]
    infer_instance
  · have old : entry.stamp = entry'.stamp := Alike.eq (w := w) inferInstance
    rw [left, right]
    dsimp only
    rw [old]
    infer_instance

instance : Alike w (t.touchIfAccessed key) (t'.touchIfAccessed key) := by
  have mode : t.mode = t'.mode := Alike.eq (w := w) inferInstance
  unfold Table.touchIfAccessed
  rw [mode]
  split <;> infer_instance

instance : Alike w (t.append key cell) (t'.append key cell') := by
  have order : t.order = t'.order := Alike.eq (w := w) inferInstance
  have stamp : t.lastStamp = t'.lastStamp := Alike.eq (w := w) inferInstance
  unfold Table.append
  rw [order, stamp]
  infer_instance

instance (entry entry' : Entry) [Alike w entry entry'] :
    Alike w (t.replace key entry cell) (t'.replace key entry' cell') := by
  unfold Table.replace
  infer_instance

instance : Alike w (t.remove key) (t'.remove key) := by
  have order : t.order = t'.order := Alike.eq (w := w) inferInstance
  have found : Alike w (t.entries.get? key) (t'.entries.get? key) := inferInstance
  unfold Table.remove
  rw [order]
  obtain ⟨left, right⟩ | ⟨entry, entry', left, right, same⟩ := found.option
  · rw [left, right]
    infer_instance
  · have old : entry.stamp = entry'.stamp := Alike.eq (w := w) inferInstance
    rw [left, right]
    dsimp only
    rw [old]
    infer_instance

instance : Alike w t.candidate? t'.candidate? := by
  have order : t.order = t'.order := Alike.eq (w := w) inferInstance
  have capacity : t.capacity = t'.capacity := Alike.eq (w := w) inferInstance
  have size : t.entries.size = t'.entries.size :=
    (inferInstance : Alike w t.entries t'.entries).dictionarySize_eq
  have removal : Alike w t.removal t'.removal := inferInstance
  unfold Table.candidate?
  rw [order, capacity, size]
  obtain ⟨left, right⟩ | ⟨policy, policy', left, right, same⟩ := removal.option
  · rw [left, right]
    infer_instance
  · rw [left, right]
    cases t'.order with
    | nil => infer_instance
    | cons first rest =>
      dsimp only
      infer_instance

end Tables

/-! ## Scopes -/

instance : Paired ScopeLevel := .via fun l => (l.base, l.inner, l.this)

section Levels

variable (l l' : ScopeLevel) [h : Alike w l l']

instance : Alike w l.base l'.base := ⟨h.rel.1⟩

instance : Alike w l.inner l'.inner := ⟨h.rel.2.1⟩

instance : Alike w l.this l'.this := ⟨h.rel.2.2⟩

instance (base base' : VarsRef) (inner inner' : List VarsRef) (this this' : Option VarsRef)
    [h₁ : Alike w base base'] [h₂ : Alike w inner inner'] [h₃ : Alike w this this'] :
    Alike w (ScopeLevel.mk base inner this) (ScopeLevel.mk base' inner' this') :=
      ⟨h₁.rel, h₂.rel, h₃.rel⟩

instance (base base' : VarsRef) (this this' : Option VarsRef) [Alike w base base']
    [Alike w this this'] :
    Alike w (ScopeLevel.ofBase base this) (ScopeLevel.ofBase base' this') :=
  inferInstanceAs (Alike w (ScopeLevel.mk base [] this) (ScopeLevel.mk base' [] this'))

instance : Alike w l.locals l'.locals :=
  inferInstanceAs (Alike w (l.inner ++ [l.base]) (l'.inner ++ [l'.base]))

instance : Alike w l.top l'.top :=
  inferInstanceAs (Alike w (l.inner.headD l.base) (l'.inner.headD l'.base))

instance : Alike w l.depth l'.depth :=
  ⟨congrArg (· + 1) (inferInstance : Alike w l.inner l'.inner).length_eq⟩

instance (vars vars' : VarsRef) [Alike w vars vars'] : Alike w (l.push vars) (l'.push vars') :=
  inferInstanceAs (Alike w (ScopeLevel.mk l.base (vars :: l.inner) l.this)
    (.mk l'.base (vars' :: l'.inner) l'.this))

instance : Alike w l.pop l'.pop :=
  inferInstanceAs (Alike w (ScopeLevel.mk l.base l.inner.tail l.this)
    (.mk l'.base l'.inner.tail l'.this))

instance (depth : Nat) : Alike w (l.truncate depth) (l'.truncate depth) := by
  have length : l.inner.length = l'.inner.length :=
    (inferInstance : Alike w l.inner l'.inner).length_eq
  unfold ScopeLevel.truncate
  rw [length]
  infer_instance

end Levels

instance : Paired ScopeChain := .via fun s => (s.base, s.levels, s.global)

section Chains

variable (s s' : ScopeChain) [h : Alike w s s']

instance : Alike w s.base s'.base := ⟨h.rel.1⟩

instance : Alike w s.levels s'.levels := ⟨h.rel.2.1⟩

instance : Alike w s.global s'.global := ⟨h.rel.2.2⟩

instance (base base' : ScopeLevel) (levels levels' : List ScopeLevel) (global global' : VarsRef)
    [h₁ : Alike w base base'] [h₂ : Alike w levels levels'] [h₃ : Alike w global global'] :
    Alike w (ScopeChain.mk base levels global) (ScopeChain.mk base' levels' global') :=
      ⟨h₁.rel, h₂.rel, h₃.rel⟩

instance : Alike w s.current s'.current :=
  inferInstanceAs (Alike w (s.levels.headD s.base) (s'.levels.headD s'.base))

theorem Alike.modifyCurrent {s s' : ScopeChain} (h : Alike w s s') {f g : ScopeLevel → ScopeLevel}
    (same : ∀ l l', Alike w l l' → Alike w (f l) (g l')) :
    Alike w (s.modifyCurrent f) (s'.modifyCurrent g) := by
  have levels : Alike w s.levels s'.levels := inferInstance
  unfold ScopeChain.modifyCurrent
  obtain ⟨left, right⟩ | ⟨l, l', rest, rest', left, right, first, _⟩ := levels.list
  · have := same s.base s'.base inferInstance
    rw [left, right]
    infer_instance
  · have := same l l' first
    rw [left, right]
    infer_instance

instance (level level' : ScopeLevel) [Alike w level level'] :
    Alike w (s.pushLevel level) (s'.pushLevel level') :=
  inferInstanceAs (Alike w (ScopeChain.mk s.base (level :: s.levels) s.global)
    (.mk s'.base (level' :: s'.levels) s'.global))

instance : Alike w s.popLevel s'.popLevel :=
  inferInstanceAs (Alike w (s.levels.head?, ScopeChain.mk s.base s.levels.tail s.global)
    (s'.levels.head?, ScopeChain.mk s'.base s'.levels.tail s'.global))

instance (vars vars' : VarsRef) [Alike w vars vars'] :
    Alike w (s.pushLocal vars) (s'.pushLocal vars') :=
  h.modifyCurrent fun _ _ _ => inferInstance

instance : Alike w s.popLocal s'.popLocal :=
  h.modifyCurrent fun _ _ _ => inferInstance

instance : Alike w s.localDepth s'.localDepth :=
  inferInstanceAs (Alike w s.current.depth s'.current.depth)

instance (depth : Nat) : Alike w (s.truncateLocals depth) (s'.truncateLocals depth) :=
  h.modifyCurrent fun _ _ _ => inferInstance

instance (a b : Option VarsRef) [h : Alike w a b] : Alike w a.toList b.toList := by
  obtain ⟨rfl, rfl⟩ | ⟨x, y, rfl, rfl, _⟩ := h.option
  · exact ⟨.nil⟩
  · exact inferInstanceAs (Alike w [x] [y])

instance : Alike w s.containers s'.containers :=
  inferInstanceAs (Alike w (s.current.locals ++ s.current.this.toList ++ [s.global])
    (s'.current.locals ++ s'.current.this.toList ++ [s'.global]))

end Chains

/-! ## Functions and objects -/

instance : Plain Block := ⟨⟩
instance : Plain Handle := ⟨⟩

/-- What loops that are alike walk over. -/
inductive IterSources (w : Links) : IterSource → IterSource → Prop where
  | sequence {s s' : SequenceRef} : Alike w s s' → IterSources w (.sequence s) (.sequence s')
  | table {t t' : TableRef} (keys : List String) :
    Alike w t t' → IterSources w (.table t keys) (.table t' keys)
  | generator {f f' : CellRef} : Alike w f f' → IterSources w (.generator f) (.generator f')
  | empty : IterSources w .empty .empty

instance : Paired IterSource where
  rel := IterSources
  mono le h := by
    cases h <;> constructor <;> exact Alike.mono ‹_› le

instance (s s' : SequenceRef) [h : Alike w s s'] : Alike w (IterSource.sequence s) (.sequence s') :=
  ⟨.sequence h⟩

instance (t t' : TableRef) (keys keys' : List String) [h : Alike w t t'] [hk : Alike w keys keys'] :
    Alike w (IterSource.table t keys) (.table t' keys') := ⟨hk.eq ▸ .table keys h⟩

instance (f f' : CellRef) [h : Alike w f f'] : Alike w (IterSource.generator f) (.generator f') :=
  ⟨.generator h⟩

instance : Alike w IterSource.empty .empty := ⟨.empty⟩

instance : Paired IterState := .via fun s => (s.key, s.value, s.source, s.position)

section Iterators

variable (s s' : IterState) [h : Alike w s s']

instance : Alike w s.key s'.key := ⟨h.rel.1⟩

instance : Alike w s.value s'.value := ⟨h.rel.2.1⟩

instance : Alike w s.source s'.source := ⟨h.rel.2.2.1⟩

instance : Alike w s.position s'.position := ⟨h.rel.2.2.2⟩

instance (key key' : Option String) (value value' : String) (source source' : IterSource)
    (n n' : Nat) [h₁ : Alike w key key'] [h₂ : Alike w value value'] [h₃ : Alike w source source']
    [h₄ : Alike w n n'] :
    Alike w (IterState.mk key value source n) (IterState.mk key' value' source' n') :=
  ⟨h₁.rel, h₂.rel, h₃.rel, h₄.rel⟩

end Iterators

instance : Paired Suspension := .via fun s => (s.cursor, s.level, s.iterators)

instance (cursor : Cursor) (level level' : Option ScopeLevel)
    (iterators iterators' : List IterState) [h₁ : Alike w level level']
    [h₂ : Alike w iterators iterators'] :
    Alike w (Suspension.mk cursor level iterators) (Suspension.mk cursor level' iterators') :=
  ⟨Discrete.rel_iff.mpr rfl, h₁.rel, h₂.rel⟩

instance : Paired Closure :=
  .via fun c => (c.owner, c.body, c.this, c.source, c.name, c.site, c.suspension)

section Closures

variable (c c' : Closure) [h : Alike w c c']

instance : Alike w c.owner c'.owner := ⟨h.rel.1⟩

instance : Alike w c.body c'.body := ⟨h.rel.2.1⟩

instance : Alike w c.this c'.this := ⟨h.rel.2.2.1⟩

instance : Alike w c.source c'.source := ⟨h.rel.2.2.2.1⟩

instance : Alike w c.name c'.name := ⟨h.rel.2.2.2.2.1⟩

instance : Alike w c.site c'.site := ⟨h.rel.2.2.2.2.2.1⟩

instance : Alike w c.suspension c'.suspension := ⟨h.rel.2.2.2.2.2.2⟩

instance (owner owner' : ScriptRef) (body body' : Block) (this this' : VarsRef)
    (source source' name name' : Option String) (site site' : Nat)
    (suspension suspension' : Option Suspension) [h₁ : Alike w owner owner']
    [h₂ : Alike w body body'] [h₃ : Alike w this this'] [h₄ : Alike w source source']
    [h₅ : Alike w name name'] [h₆ : Alike w site site'] [h₇ : Alike w suspension suspension'] :
    Alike w (Closure.mk owner body this source name site suspension)
      (Closure.mk owner' body' this' source' name' site' suspension') :=
  ⟨h₁.rel, h₂.rel, h₃.rel, h₄.rel, h₅.rel, h₆.rel, h₇.rel⟩

instance : Alike w c.describe c'.describe := by
  have name : c.name = c'.name := Alike.eq (w := w) inferInstance
  have source : c.source = c'.source := Alike.eq (w := w) inferInstance
  have body : c.body = c'.body := Alike.eq (w := w) inferInstance
  unfold Closure.describe
  rw [name, source, body]
  exact ⟨rfl⟩

end Closures

/-- What functions of the host do that are alike. -/
inductive Replies (w : Links) : HostReply → HostReply → Prop where
  | first : Replies w .first .first
  | message : Replies w .message .message
  | count : Replies w .count .count
  | give {c c' : CellRef} : Alike w c c' → Replies w (.give c) (.give c')
  | throw {c c' : CellRef} : Alike w c c' → Replies w (.throw c) (.throw c')
  | fail {f f' : Fault} : Alike w f f' → Replies w (.fail f) (.fail f')

instance : Paired HostReply where
  rel := Replies
  mono le h := by
    cases h <;> constructor <;> exact Alike.mono ‹_› le

instance : Alike w HostReply.first .first := ⟨.first⟩

instance : Alike w HostReply.message .message := ⟨.message⟩

instance : Alike w HostReply.count .count := ⟨.count⟩

instance (c c' : CellRef) [h : Alike w c c'] : Alike w (HostReply.give c) (.give c') := ⟨.give h⟩

instance (c c' : CellRef) [h : Alike w c c'] : Alike w (HostReply.throw c) (.throw c') := ⟨.throw h⟩

instance (f f' : Fault) [h : Alike w f f'] : Alike w (HostReply.fail f) (.fail f') := ⟨.fail h⟩

/-- Functions that are alike. -/
inductive Callables (w : Links) : Callable → Callable → Prop where
  | closure {c c' : Closure} : Alike w c c' → Callables w (.closure c) (.closure c')
  | named {owner owner' : ScriptRef} (name : String) : Alike w owner owner' →
    Callables w (.named name owner) (.named name owner')
  | host {r r' : HostReply} (name : String) :
    Alike w r r' → Callables w (.host name r) (.host name r')

instance : Paired Callable where
  rel := Callables
  mono le h := by
    cases h <;> constructor <;> exact Alike.mono ‹_› le

instance (c c' : Closure) [h : Alike w c c'] : Alike w (Callable.closure c) (.closure c') :=
  ⟨.closure h⟩

instance (name : String) (owner owner' : ScriptRef) [h : Alike w owner owner'] :
    Alike w (Callable.named name owner) (.named name owner') := ⟨.named name h⟩

instance (name : String) (r r' : HostReply) [h : Alike w r r'] :
    Alike w (Callable.host name r) (.host name r') :=
  ⟨.host name h⟩

instance (c c' : Callable) [h : Alike w c c'] : Alike w c.describe c'.describe := by
  cases h.rel with
  | closure h => exact inferInstanceAs (Alike w (Closure.describe _) (Closure.describe _))
  | named | host => exact ⟨rfl⟩

/-- Objects of the host that are alike. -/
inductive Objects (w : Links) : HostObject → HostObject → Prop where
  | pair {k k' v v' : CellRef} : Alike w k k' → Alike w v v' → Objects w (.pair k v) (.pair k' v')
  | text (s : String) : Objects w (.text s) (.text s)
  | builder (s : String) : Objects w (.builder s) (.builder s)
  | handle (label : String) (h : Handle) : Objects w (.handle label h) (.handle label h)
  | task (u : Undertaking Connection) : Objects w (.task u) (.task u)
  | labelled (className label : String) :
    Objects w (.labelled className label) (.labelled className label)
  | proxy {f f' : FunctionRef} (interface : String) :
    Alike w f f' → Objects w (.proxy f interface) (.proxy f' interface)

instance : Paired HostObject where
  rel := Objects
  mono le h := by
    cases h <;> constructor <;> exact Alike.mono ‹_› le

instance (k k' v v' : CellRef) [hk : Alike w k k'] [hv : Alike w v v'] :
    Alike w (HostObject.pair k v) (.pair k' v') := ⟨.pair hk hv⟩

instance (s : String) : Alike w (HostObject.text s) (.text s) := ⟨.text s⟩

instance (s : String) : Alike w (HostObject.builder s) (.builder s) := ⟨.builder s⟩

instance (label : String) (h : Handle) : Alike w (HostObject.handle label h) (.handle label h) :=
  ⟨.handle label h⟩

instance (u : Undertaking Connection) : Alike w (HostObject.task u) (.task u) := ⟨.task u⟩

instance (className label : String) :
    Alike w (HostObject.labelled className label) (.labelled className label) :=
  ⟨.labelled className label⟩

instance (f f' : FunctionRef) (interface : String) [h : Alike w f f'] :
    Alike w (HostObject.proxy f interface) (.proxy f' interface) := ⟨.proxy interface h⟩

instance (o o' : HostObject) [h : Alike w o o'] : Alike w o.className o'.className := by
  cases h.rel <;> exact ⟨rfl⟩

/-! ## Flows -/

/-- Flows that are alike. -/
inductive Flows (w : Links) : Flow → Flow → Prop where
  | normal : Flows w .normal .normal
  | return {c c' : CellRef} : Alike w c c' → Flows w (.return c) (.return c')
  | break : Flows w .break .break
  | continue : Flows w .continue .continue
  | throw {c c' : CellRef} : Alike w c c' → Flows w (.throw c) (.throw c')
  | yield {c c' : CellRef} (cursor : Cursor) :
    Alike w c c' → Flows w (.yield c cursor) (.yield c' cursor)
  | callcc {c c' : CellRef} (cursor : Cursor) :
    Alike w c c' → Flows w (.callcc c cursor) (.callcc c' cursor)

instance : Paired Flow where
  rel := Flows
  mono le h := by
    cases h <;> constructor <;> exact Alike.mono ‹_› le

section Flows

instance : Alike w Flow.normal .normal := ⟨.normal⟩

instance : Alike w Flow.break .break := ⟨.break⟩

instance : Alike w Flow.continue .continue := ⟨.continue⟩

variable (c c' : CellRef) [h : Alike w c c'] (cursor : Cursor)

instance : Alike w (Flow.return c) (.return c') := ⟨.return h⟩

instance : Alike w (Flow.throw c) (.throw c') := ⟨.throw h⟩

instance : Alike w (Flow.yield c cursor) (.yield c' cursor) := ⟨.yield cursor h⟩

instance : Alike w (Flow.callcc c cursor) (.callcc c' cursor) := ⟨.callcc cursor h⟩

variable (flow flow' : Flow) [hf : Alike w flow flow']

instance : Alike w flow.suspends flow'.suspends := by
  cases hf.rel <;> exact ⟨rfl⟩

instance : Alike w flow.isNormal flow'.isNormal := by
  cases hf.rel <;> exact ⟨rfl⟩

instance : Alike w flow.name flow'.name := by
  cases hf.rel <;> exact ⟨rfl⟩

instance (entry : Nat) : Alike w (flow.through entry) (flow'.through entry) := by
  cases hf.rel with
  | yield cursor h => exact ⟨.yield _ h⟩
  | callcc cursor h => exact ⟨.callcc _ h⟩
  | _ => exact hf

end Flows

end CellScript.Mirror
