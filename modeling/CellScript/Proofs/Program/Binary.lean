import CellScript.Program.Binary
import Mathlib.Algebra.Group.Nat.Defs

/-!
# Binary images are canonical

A program has one binary image, and an image tells where it ends. Every reader of a part undoes its
writer: it reads what was written and leaves what follows, and what it reads is what would have been
written. The parts are taken together along the recursion of the readers; the fuel of a reader only
has to exceed the length of the image.

A length is written in eight bytes. So an image keeps a program when its texts and lists are no
longer than that, which goes for all that a memory holds, and when the program is not numbered,
which images do not tell.

## Main definitions

* `Program.isStorable` — programs that images keep.
* `ByteReader.Undoes` — a reader undoes a writer.

## Main statements

* `Program.ofBytes?_eq_some_iff` — the programs that are read are those whose images stand in front.
* `Program.image_is_canonical` — images are read back, whatever follows, and none is part of
  another.
-/

namespace CellScript

/-! ## Numbers and texts in bytes -/

namespace Bytes

@[simp] theorem length_ofNat (count n : Nat) : (ofNat count n).length = count := by
  induction count generalizing n with
  | zero => rfl
  | succ count ih => simp [ofNat, ih]

@[simp] theorem length_tag (n : Nat) : (tag n).length = 4 :=
  length_ofNat 4 n

theorem toNat_lt (bytes : Bytes) : toNat bytes < 256 ^ bytes.length := by
  induction bytes with
  | nil => simp [toNat]
  | cons b rest ih =>
    have := b.toNat_lt
    simp only [toNat, List.length_cons, Nat.pow_succ]
    omega

theorem toNat_ofNat {count n : Nat} (h : n < 256 ^ count) : toNat (ofNat count n) = n := by
  induction count generalizing n with
  | zero =>
    rw [Nat.pow_zero, Nat.lt_one_iff] at h
    rw [h]
    rfl
  | succ count ih =>
    have low : (UInt8.ofNat (n % 256)).toNat = n % 256 := by simp
    have high : n / 256 < 256 ^ count := by
      rw [Nat.pow_succ] at h
      omega
    rw [ofNat, toNat, low, ih high]
    omega

theorem ofNat_toNat (bytes : Bytes) : ofNat bytes.length (toNat bytes) = bytes := by
  induction bytes with
  | nil => rfl
  | cons b rest ih =>
    have low : (b.toNat + 256 * toNat rest) % 256 = b.toNat := by
      have := b.toNat_lt
      omega
    have high : (b.toNat + 256 * toNat rest) / 256 = toNat rest := by
      have := b.toNat_lt
      omega
    rw [List.length_cons, ofNat, toNat, low, high, ih, UInt8.ofNat_toNat]

theorem toList_loop (b : ByteArray) (i : Nat) (front : List UInt8) :
    ByteArray.toList.loop b i front = front.reverse ++ b.data.toList.drop i := by
  fun_induction ByteArray.toList.loop b i front with
  | case1 i front inside ih =>
    have : i < b.data.toList.length := by simpa using inside
    have here : b.get! i = b.data.toList[i] := by simp [ByteArray.get!, getElem!_pos, inside]
    rw [ih, List.drop_eq_getElem_cons this, here]
    simp
  | case2 i front outside =>
    have : b.data.toList.length ≤ i := by simpa using outside
    rw [List.drop_eq_nil_of_le this, List.append_nil]

theorem utf8_eq (s : String) : utf8 s = s.toByteArray.data.toList :=
  toList_loop s.toByteArray 0 []

@[simp] theorem length_utf8 (s : String) : (utf8 s).length = s.utf8ByteSize := by
  rw [utf8_eq]
  rfl

/-- Bytes are those of a text just when they are what the text is written as. -/
theorem fromUTF8?_eq_some_iff {bytes : Bytes} {s : String} :
    String.fromUTF8? (ByteArray.mk bytes.toArray) = some s ↔ bytes = utf8 s := by
  rw [utf8_eq]
  constructor
  · intro h
    unfold String.fromUTF8? at h
    split at h
    · cases h
      rfl
    · cases h
  · rintro rfl
    have whole : ByteArray.mk s.toByteArray.data.toList.toArray = s.toByteArray := by simp
    rw [whole, String.fromUTF8?, dif_pos s.isValidUTF8]
    rfl

end Bytes

/-! ## Programs that images keep -/

/-- Lengths are written in eight bytes. -/
@[irreducible]
def lengthBound : Nat := 256 ^ 8

/-- Whether a text can be written after its length. -/
def isWritable (s : String) : Bool :=
  s.utf8ByteSize < lengthBound

/-- Whether a list of things that images keep can be written after its length. -/
def isListWritable {α : Type} (item : α → Bool) (items : List α) : Bool :=
  items.length < lengthBound && items.all item

theorem isWritable_iff {s : String} : isWritable s ↔ s.utf8ByteSize < lengthBound :=
  decide_eq_true_iff

theorem isListWritable_iff {α : Type} {item : α → Bool} {items : List α} :
    isListWritable item items ↔ items.length < lengthBound ∧ items.all item := by
  rw [isListWritable, Bool.and_eq_true, decide_eq_true_iff]

def Literal.isStorable : Literal → Bool
  | .str s => isWritable s
  | _ => true

def Fragment.isStorable : Fragment → Bool
  | .text s | .var s => isWritable s

mutual

/-- Whether an image keeps a block. -/
def Block.isStorable : Block → Bool
  | .mk source steps => source.all isWritable && steps.length < lengthBound &&
    areStepsStorable steps

/-- Whether images keep some steps. -/
def areStepsStorable : List Step → Bool
  | [] => true
  | step :: rest => step.isStorable && areStepsStorable rest

/-- Whether images keep some blocks. -/
def areBlocksStorable : List Block → Bool
  | [] => true
  | block :: rest => block.isStorable && areBlocksStorable rest

/-- Whether an image keeps a block that may be missing. -/
def isBlockStorable? : Option Block → Bool
  | none => true
  | some block => block.isStorable

/-- Whether an image keeps a step. -/
def Step.isStorable : Step → Bool
  | .mk _ instruction => instruction.isStorable

/-- Whether an image keeps a condition. -/
def Check.isStorable : Check → Bool
  | .predicate setup name _ => setup.isStorable && isWritable name
  | .and parts | .or parts => parts.length < lengthBound && areChecksStorable parts
  | .iterNext | .always => true

/-- Whether images keep some conditions. -/
def areChecksStorable : List Check → Bool
  | [] => true
  | part :: rest => part.isStorable && areChecksStorable rest

/-- Whether an image keeps an instruction. -/
def Instruction.isStorable : Instruction → Bool
  | .createFrame | .index | .iterDestroy | .flow _ _ => true
  | .literal value => value.isStorable
  | .interpolate fragments => isListWritable Fragment.isStorable fragments
  | .get name | .operate name | .call name | .objectNew name => isWritable name
  | .assign target op => target.isStorable && op.all isWritable
  | .assignMulti targets op => targets.length < lengthBound && areBlocksStorable targets &&
    op.all isWritable
  | .closure body => body.isStorable
  | .bind name body _ site => isWritable name && body.isStorable && site == 0
  | .decide check onTrue onFalse =>
    check.isStorable && onTrue.isStorable && isBlockStorable? onFalse
  | .loop check body increment => check.isStorable && body.isStorable && isBlockStorable? increment
  | .iterCreate key value => key.all isWritable && isWritable value
  | .objectAccess member className => member.all isWritable && className.all isWritable
  | .try body handler var => body.isStorable && handler.isStorable && isWritable var

end

/-- Whether an image keeps a program: no text or list is longer than lengths are written, and no
definition is numbered. -/
def Program.isStorable (p : Program) : Bool :=
  isWritable p.name && p.main.isStorable

theorem areStepsStorable_eq (steps : List Step) :
    areStepsStorable steps = steps.all Step.isStorable := by
  induction steps with
  | nil => rfl
  | cons step rest ih => rw [areStepsStorable, ih, List.all_cons]

theorem areBlocksStorable_eq (blocks : List Block) :
    areBlocksStorable blocks = blocks.all Block.isStorable := by
  induction blocks with
  | nil => rfl
  | cons block rest ih => rw [areBlocksStorable, ih, List.all_cons]

theorem areChecksStorable_eq (parts : List Check) :
    areChecksStorable parts = parts.all Check.isStorable := by
  induction parts with
  | nil => rfl
  | cons part rest ih => rw [areChecksStorable, ih, List.all_cons]

theorem isBlockStorable?_eq (block : Option Block) :
    isBlockStorable? block = block.all Block.isStorable := by
  cases block <;> rfl

theorem Block.isStorable_mk {source : Option String} {steps : List Step} :
    (Block.mk source steps).isStorable ↔ source.all isWritable ∧
    isListWritable Step.isStorable steps := by
  simp only [isStorable, areStepsStorable_eq, isListWritable, Bool.and_eq_true, and_assoc]

theorem Check.isStorable_and {parts : List Check} :
    (Check.and parts).isStorable ↔ isListWritable Check.isStorable parts := by
  rw [isStorable, areChecksStorable_eq, isListWritable]

theorem Check.isStorable_or {parts : List Check} :
    (Check.or parts).isStorable ↔ isListWritable Check.isStorable parts := by
  rw [isStorable, areChecksStorable_eq, isListWritable]

theorem Instruction.isStorable_assignMulti {targets : List Block} {op : Option String} :
    (Instruction.assignMulti targets op).isStorable ↔
      isListWritable Block.isStorable targets ∧ op.all isWritable := by
  simp only [isStorable, areBlocksStorable_eq, isListWritable, Bool.and_eq_true]

/-! ## The images of lists -/

/-- The image of something that may be missing. -/
def Bytes.ofOption {α : Type} (item : α → Bytes) : Option α → Bytes
  | none => [0]
  | some a => 1 :: item a

theorem Bytes.ofText?_eq (s : Option String) : ofText? s = ofOption ofText s := by
  cases s <;> rfl

theorem bytesOfBlock?_eq (block : Option Block) :
    bytesOfBlock? block = Bytes.ofOption Block.toBytes block := by
  cases block <;> rfl

theorem bytesOfSteps_eq (steps : List Step) : bytesOfSteps steps = steps.flatMap Step.toBytes := by
  induction steps with
  | nil => rfl
  | cons step rest ih => rw [bytesOfSteps, ih, List.flatMap_cons]

theorem bytesOfBlocks_eq (blocks : List Block) :
    bytesOfBlocks blocks = blocks.flatMap Block.toBytes := by
  induction blocks with
  | nil => rfl
  | cons block rest ih => rw [bytesOfBlocks, ih, List.flatMap_cons]

theorem bytesOfChecks_eq (parts : List Check) :
    bytesOfChecks parts = parts.flatMap Check.toBytes := by
  induction parts with
  | nil => rfl
  | cons part rest ih => rw [bytesOfChecks, ih, List.flatMap_cons]

theorem Bytes.length_ofOption_pos {α : Type} (item : α → Bytes) (a : Option α) :
    0 < (ofOption item a).length := by
  cases a <;> exact Nat.succ_pos _

open Bytes

theorem Block.toBytes_mk (source : Option String) (steps : List Step) :
    (Block.mk source steps).toBytes = ofOption ofText source ++ ofList Step.toBytes steps := by
  rw [toBytes, ofText?_eq, bytesOfSteps_eq, ofList, List.append_assoc]

theorem Check.toBytes_and (parts : List Check) :
    (Check.and parts).toBytes = tag 1 ++ ofList Check.toBytes parts := by
  rw [toBytes, bytesOfChecks_eq, ofList, List.append_assoc]

theorem Check.toBytes_or (parts : List Check) :
    (Check.or parts).toBytes = tag 2 ++ ofList Check.toBytes parts := by
  rw [toBytes, bytesOfChecks_eq, ofList, List.append_assoc]

theorem Instruction.toBytes_assignMulti (targets : List Block) (op : Option String) :
    (Instruction.assignMulti targets op).toBytes =
      tag 6 ++ (ofList Block.toBytes targets ++ ofOption ofText op) := by
  simp only [toBytes, bytesOfBlocks_eq, ofText?_eq, ofList, List.append_assoc]

/-! ## Readers that undo writers -/

namespace ByteReader

variable {α β : Type}

/-- A reader undoes a writer on what satisfies `ok`. What it reads is always what would have been
written; it reads back all that takes less than `room` bytes. -/
structure Undoes (reader : ByteReader α) (write : α → Bytes) (ok : α → Prop)
    (room : Nat) : Prop where
  sound : ∀ {bytes a rest}, reader bytes = some (a, rest) → ok a ∧ bytes = write a ++ rest
  complete : ∀ {a} (rest), ok a → (write a).length < room →
    reader (write a ++ rest) = some (a, rest)

theorem bind_run (reader : ByteReader α) (f : α → ByteReader β) (bytes : Bytes) :
    (reader >>= f) bytes = (reader bytes).bind fun (a, rest) => f a rest := rfl

theorem eq_of_pure {a b : α} {bytes rest : Bytes}
    (h : (pure a : ByteReader α) bytes = some (b, rest)) :
    a = b ∧ bytes = rest := by
  cases h
  exact ⟨rfl, rfl⟩

namespace Undoes

variable {reader : ByteReader α} {write : α → Bytes} {ok : α → Prop} {room : Nat}

/-- What was read first, and what was read from the rest. -/
theorem first (h : Undoes reader write ok room) {f : α → ByteReader β} {bytes b rest}
    (run : (reader >>= f) bytes = some (b, rest)) :
    ∃ a after, ok a ∧ bytes = write a ++ after ∧ f a after = some (b, rest) := by
  rw [bind_run] at run
  obtain ⟨⟨a, after⟩, read, next⟩ := Option.bind_eq_some_iff.1 run
  obtain ⟨fits, written⟩ := h.sound read
  exact ⟨a, after, fits, written, next⟩

/-- What was written first is read, and reading goes on with the rest. -/
theorem next (h : Undoes reader write ok room) (f : α → ByteReader β) {a : α} (rest : Bytes)
    (fits : ok a) (short : (write a).length < room) :
    (reader >>= f) (write a ++ rest) = f a rest := by
  rw [bind_run, h.complete rest fits short]
  rfl

end Undoes

/-! ### Numbers, texts and lists -/

theorem take_append (front rest : Bytes) :
    take front.length (front ++ rest) = some (front, rest) := by
  induction front with
  | nil => rfl
  | cons b front ih =>
    rw [List.length_cons, List.cons_append, take, ih]
    rfl

theorem append_of_take {count : Nat} {bytes front rest : Bytes}
    (h : take count bytes = some (front, rest)) :
    front.length = count ∧ bytes = front ++ rest := by
  induction count generalizing bytes front with
  | zero =>
    cases h
    exact ⟨rfl, rfl⟩
  | succ count ih =>
    cases bytes with
    | nil => cases h
    | cons b bytes =>
      rw [take] at h
      obtain ⟨⟨front', rest'⟩, read, same⟩ := Option.map_eq_some_iff.1 h
      cases same
      obtain ⟨length, rfl⟩ := ih read
      exact ⟨by rw [List.length_cons, length], rfl⟩

variable {reader : ByteReader α} {write : α → Bytes} {ok : α → Prop} {room : Nat}

/-- What was read from bytes of a known number. -/
theorem of_take {count : Nat} {f : Bytes → ByteReader β} {bytes b rest}
    (run : (take count >>= f) bytes = some (b, rest)) :
    ∃ front after, front.length = count ∧ bytes = front ++ after ∧
      f front after = some (b, rest) := by
  rw [bind_run] at run
  obtain ⟨⟨front, after⟩, read, next⟩ := Option.bind_eq_some_iff.1 run
  obtain ⟨length, joined⟩ := append_of_take read
  exact ⟨front, after, length, joined, next⟩

theorem take_bind (f : Bytes → ByteReader β) {count : Nat} {front : Bytes} (rest : Bytes)
    (h : front.length = count) :
    (take count >>= f) (front ++ rest) = f front rest := by
  rw [bind_run, ← h, take_append]
  rfl

theorem undoes_nat (room count : Nat) :
    Undoes (nat count) (ofNat count) (· < 256 ^ count) room where
  sound read := by
    obtain ⟨front, after, length, rfl, given⟩ := of_take read
    obtain ⟨rfl, rfl⟩ := eq_of_pure given
    rw [← length]
    exact ⟨toNat_lt front, by rw [ofNat_toNat]⟩
  complete rest fits _ := by
    rw [nat, take_bind _ _ (length_ofNat count _), toNat_ofNat fits]
    rfl

/-- The reader of lengths. -/
theorem undoes_length (room : Nat) : Undoes (nat 8) (ofNat 8) (· < lengthBound) room := by
  unfold lengthBound
  exact undoes_nat room 8

theorem undoes_bool (room : Nat) : Undoes bool ofBool (fun _ => True) room where
  sound read := by
    obtain ⟨n, after, _, rfl, given⟩ := (undoes_nat 0 1).first read
    refine ⟨trivial, ?_⟩
    split at given
    · obtain ⟨rfl, rfl⟩ := eq_of_pure given
      rfl
    · obtain ⟨rfl, rfl⟩ := eq_of_pure given
      rfl
    · cases given
  complete {b} rest _ _ := by
    cases b <;> rfl

theorem undoes_text (room : Nat) : Undoes text ofText (fun s => isWritable s) room where
  sound read := by
    obtain ⟨n, after, fits, rfl, readText⟩ := (undoes_length 0).first read
    obtain ⟨front, after, length, rfl, given⟩ := of_take readText
    cases valid : String.fromUTF8? (ByteArray.mk front.toArray) with
    | some s =>
      rw [valid] at given
      obtain ⟨rfl, rfl⟩ := eq_of_pure given
      obtain rfl := fromUTF8?_eq_some_iff.1 valid
      rw [length_utf8] at length
      rw [← length] at fits ⊢
      exact ⟨isWritable_iff.2 fits, by rw [ofText, List.append_assoc]⟩
    | none =>
      rw [valid] at given
      cases given
  complete {s} rest fits _ := by
    have valid : String.fromUTF8? (ByteArray.mk (utf8 s).toArray) = some s :=
      fromUTF8?_eq_some_iff.2 rfl
    rw [text, ofText, List.append_assoc, (undoes_length 9).next _ _ (isWritable_iff.1 fits)
      (by simp), take_bind _ _ (length_utf8 s), valid]
    rfl

theorem Undoes.optional {ok : α → Bool} (h : Undoes reader write (ok ·) room) :
    Undoes (optional reader) (ofOption write) (fun a => a.all ok) room where
  sound read := by
    obtain ⟨present, after, _, rfl, readItem⟩ := (undoes_bool 0).first read
    cases present with
    | true =>
      obtain ⟨a, after, fits, rfl, given⟩ := h.first (f := fun a => pure (some a)) readItem
      obtain ⟨rfl, rfl⟩ := eq_of_pure given
      exact ⟨fits, rfl⟩
    | false =>
      obtain ⟨rfl, rfl⟩ := eq_of_pure (a := none) readItem
      exact ⟨rfl, rfl⟩
  complete {a} rest fits short := by
    cases a with
    | none => rfl
    | some a =>
      have short : (write a).length < room := by
        simp only [ofOption, List.length_cons] at short
        omega
      change (reader >>= fun a => pure (some a)) (write a ++ rest) = _
      rw [h.next _ rest fits short]
      rfl

theorem Undoes.repeated {ok : α → Bool} (h : Undoes reader write (ok ·) room) (count : Nat) :
    Undoes (repeated reader count) (·.flatMap write)
      (fun items => items.length = count ∧ items.all ok) room where
  sound {bytes items rest} read := by
    induction count generalizing bytes items with
    | zero =>
      obtain ⟨rfl, rfl⟩ := eq_of_pure read
      exact ⟨⟨rfl, rfl⟩, rfl⟩
    | succ count ih =>
      obtain ⟨a, after, fits, rfl, readRest⟩ := h.first read
      rw [bind_run] at readRest
      obtain ⟨⟨items, last⟩, readItems, given⟩ := Option.bind_eq_some_iff.1 readRest
      obtain ⟨rfl, rfl⟩ := eq_of_pure given
      obtain ⟨⟨length, all⟩, rfl⟩ := ih readItems
      refine ⟨⟨by rw [List.length_cons, length], ?_⟩, by rw [List.flatMap_cons, List.append_assoc]⟩
      rw [List.all_cons, fits, all]
      rfl
  complete {items} rest fits short := by
    obtain ⟨rfl, all⟩ := fits
    induction items with
    | nil => rfl
    | cons a items ih =>
      rw [List.flatMap_cons, List.length_append] at short
      rw [List.all_cons, Bool.and_eq_true] at all
      rw [List.length_cons, ByteReader.repeated, List.flatMap_cons, List.append_assoc,
        h.next _ _ all.1 (by omega), bind_run, ih (by omega) all.2]
      rfl

theorem Undoes.list {ok : α → Bool} (h : Undoes reader write (ok ·) room) :
    Undoes (list reader) (ofList write) (fun items => isListWritable ok items) room where
  sound read := by
    obtain ⟨n, after, fits, rfl, readItems⟩ := (undoes_length 0).first read
    obtain ⟨⟨rfl, all⟩, rfl⟩ := (h.repeated n).sound readItems
    exact ⟨isListWritable_iff.2 ⟨fits, all⟩, by rw [ofList, List.append_assoc]⟩
  complete {items} rest fits short := by
    obtain ⟨length, all⟩ := isListWritable_iff.1 fits
    rw [ofList, List.length_append, length_ofNat] at short
    rw [ByteReader.list, ofList, List.append_assoc, (undoes_length 9).next _ _ length (by simp)]
    exact (h.repeated items.length).complete rest ⟨rfl, all⟩ (by omega)

/-! ### Constants, fragments and flows -/

/-- What was read after the number of a variant. -/
theorem of_tag {f : Nat → ByteReader β} {bytes b rest}
    (run : (nat 4 >>= f) bytes = some (b, rest)) :
    ∃ n after, bytes = tag n ++ after ∧ f n after = some (b, rest) := by
  obtain ⟨n, after, _, joined, next⟩ := (undoes_nat 0 4).first run
  exact ⟨n, after, joined, next⟩

theorem tag_bind (n : Nat) (small : n < 256 ^ 4) (f : Nat → ByteReader β) (rest : Bytes) :
    (nat 4 >>= f) (tag n ++ rest) = f n rest :=
  (undoes_nat 5 4).next f rest small (by simp)

theorem undoes_literal (room : Nat) :
    Undoes literal Literal.toBytes (fun l => l.isStorable) room where
  sound read := by
    obtain ⟨n, after, rfl, readVariant⟩ := of_tag read
    match n, readVariant with
    | 0, given =>
      obtain ⟨rfl, rfl⟩ := eq_of_pure given
      exact ⟨rfl, rfl⟩
    | 1, readInt =>
      obtain ⟨n, after, small, rfl, given⟩ := (undoes_nat 0 8).first readInt
      obtain ⟨rfl, rfl⟩ := eq_of_pure given
      refine ⟨rfl, ?_⟩
      simp [Literal.toBytes, UInt64.toNat_ofNat_of_lt' small]
    | 2, readBits =>
      obtain ⟨n, after, small, rfl, given⟩ := (undoes_nat 0 8).first readBits
      obtain ⟨rfl, rfl⟩ := eq_of_pure given
      refine ⟨rfl, ?_⟩
      simp [Literal.toBytes, UInt64.toNat_ofNat_of_lt' small]
    | 3, readText =>
      obtain ⟨s, after, fits, rfl, given⟩ := (undoes_text 0).first readText
      obtain ⟨rfl, rfl⟩ := eq_of_pure given
      exact ⟨fits, by rw [Literal.toBytes, List.append_assoc]⟩
    | _ + 4, given => cases given
  complete {l} rest fits short := by
    cases l with
    | null => rfl
    | int n =>
      rw [literal, Literal.toBytes, List.append_assoc, tag_bind 1 (by decide)]
      change (nat 8 >>= fun n => pure (Literal.int (UInt64.ofNat n).toInt64) : ByteReader Literal)
        _ = _
      rw [(undoes_nat 9 8).next _ rest n.toUInt64.toNat_lt (by simp), UInt64.ofNat_toNat]
      rfl
    | float bits =>
      rw [literal, Literal.toBytes, List.append_assoc, tag_bind 2 (by decide)]
      change (nat 8 >>= fun n => pure (Literal.float (UInt64.ofNat n)) : ByteReader Literal) _ = _
      rw [(undoes_nat 9 8).next _ rest bits.toNat_lt (by simp), UInt64.ofNat_toNat]
      rfl
    | str s =>
      rw [literal, Literal.toBytes, List.append_assoc, tag_bind 3 (by decide)]
      change (text >>= fun s => pure (Literal.str s) : ByteReader Literal) _ = _
      rw [(undoes_text _).next _ rest fits (Nat.lt_succ_self _)]
      rfl

theorem undoes_fragment (room : Nat) :
    Undoes fragment Fragment.toBytes (fun f => f.isStorable) room where
  sound read := by
    obtain ⟨n, after, rfl, readVariant⟩ := of_tag read
    match n, readVariant with
    | 0, readText =>
      obtain ⟨s, after, fits, rfl, given⟩ := (undoes_text 0).first readText
      obtain ⟨rfl, rfl⟩ := eq_of_pure given
      exact ⟨fits, by rw [Fragment.toBytes, List.append_assoc]⟩
    | 1, readText =>
      obtain ⟨s, after, fits, rfl, given⟩ := (undoes_text 0).first readText
      obtain ⟨rfl, rfl⟩ := eq_of_pure given
      exact ⟨fits, by rw [Fragment.toBytes, List.append_assoc]⟩
    | _ + 2, given => cases given
  complete {f} rest fits short := by
    cases f with
    | text s =>
      rw [fragment, Fragment.toBytes, List.append_assoc, tag_bind 0 (by decide)]
      change (text >>= fun s => pure (Fragment.text s) : ByteReader Fragment) _ = _
      rw [(undoes_text _).next _ rest fits (Nat.lt_succ_self _)]
      rfl
    | var name =>
      rw [fragment, Fragment.toBytes, List.append_assoc, tag_bind 1 (by decide)]
      change (text >>= fun s => pure (Fragment.var s) : ByteReader Fragment) _ = _
      rw [(undoes_text _).next _ rest fits (Nat.lt_succ_self _)]
      rfl

theorem undoes_flowKind (room : Nat) : Undoes flowKind FlowKind.toBytes (fun _ => True) room where
  sound read := by
    obtain ⟨n, after, rfl, readVariant⟩ := of_tag read
    refine ⟨trivial, ?_⟩
    match n, readVariant with
    | 0, given | 1, given | 2, given | 3, given | 4, given | 5, given =>
      obtain ⟨rfl, rfl⟩ := eq_of_pure given
      rfl
    | _ + 6, given => cases given
  complete {kind} rest _ _ := by
    cases kind <;> rfl

/-! ### Blocks, steps, conditions and instructions -/

/-- The readers of the parts of a program undo their writers. -/
structure UndoesParts (room : Nat) : Prop where
  block : Undoes (block room) Block.toBytes (fun b => b.isStorable) room
  step : Undoes (step room) Step.toBytes (fun s => s.isStorable) room
  check : Undoes (check room) Check.toBytes (fun c => c.isStorable) room
  instruction : Undoes (instruction room) Instruction.toBytes (fun i => i.isStorable) room

section Parts

variable {n : Nat} (parts : UndoesParts n)
include parts

/-- A block is its source and its steps. -/
theorem undoes_block : Undoes (block (n + 1)) Block.toBytes (fun b => b.isStorable) (n + 1) where
  sound read := by
    obtain ⟨source, after, fitsSource, rfl, readSteps⟩ := (undoes_text 0).optional.first read
    obtain ⟨steps, after, fitsSteps, rfl, given⟩ := parts.step.list.first readSteps
    obtain ⟨rfl, rfl⟩ := eq_of_pure given
    refine ⟨Block.isStorable_mk.2 ⟨fitsSource, fitsSteps⟩, ?_⟩
    rw [Block.toBytes_mk, List.append_assoc]
  complete {b} rest fits short := by
    obtain ⟨source, steps⟩ := b
    obtain ⟨fitsSource, fitsSteps⟩ := Block.isStorable_mk.1 fits
    have := length_ofOption_pos ofText source
    rw [Block.toBytes_mk, List.length_append] at short
    rw [block, Block.toBytes_mk, List.append_assoc,
      (undoes_text (n + 1)).optional.next _ _ fitsSource (by omega),
      parts.step.list.next _ _ fitsSteps (by omega)]
    rfl

/-- A step is its line and its instruction. -/
theorem undoes_step : Undoes (step (n + 1)) Step.toBytes (fun s => s.isStorable) (n + 1) where
  sound read := by
    obtain ⟨line, after, small, rfl, readInstruction⟩ := (undoes_nat 0 4).first read
    obtain ⟨instruction, after, fits, rfl, given⟩ := parts.instruction.first readInstruction
    obtain ⟨rfl, rfl⟩ := eq_of_pure given
    refine ⟨fits, ?_⟩
    rw [Step.toBytes, UInt32.toNat_ofNat_of_lt' small, List.append_assoc]
  complete {s} rest fits short := by
    obtain ⟨line, instruction⟩ := s
    rw [Step.toBytes, List.length_append, length_ofNat] at short
    rw [step, Step.toBytes, List.append_assoc, (undoes_nat 5 4).next _ _ line.toNat_lt (by simp),
      parts.instruction.next _ _ fits (by omega), UInt32.ofNat_toNat]
    rfl

theorem undoes_check : Undoes (check (n + 1)) Check.toBytes (fun c => c.isStorable) (n + 1) where
  sound read := by
    obtain ⟨variant, after, rfl, readVariant⟩ := of_tag read
    match variant, readVariant with
    | 0, readSetup =>
      obtain ⟨setup, after, fitsSetup, rfl, readName⟩ := parts.block.first readSetup
      obtain ⟨name, after, fitsName, rfl, readNegated⟩ := (undoes_text 0).first readName
      obtain ⟨negated, after, _, rfl, given⟩ := (undoes_bool 0).first readNegated
      obtain ⟨rfl, rfl⟩ := eq_of_pure given
      refine ⟨?_, by simp only [Check.toBytes, List.append_assoc]⟩
      rw [Check.isStorable, fitsSetup, fitsName]
      rfl
    | 1, readParts =>
      obtain ⟨conditions, after, fits, rfl, given⟩ := parts.check.list.first readParts
      obtain ⟨rfl, rfl⟩ := eq_of_pure given
      exact ⟨Check.isStorable_and.2 fits, by rw [Check.toBytes_and, List.append_assoc]⟩
    | 2, readParts =>
      obtain ⟨conditions, after, fits, rfl, given⟩ := parts.check.list.first readParts
      obtain ⟨rfl, rfl⟩ := eq_of_pure given
      exact ⟨Check.isStorable_or.2 fits, by rw [Check.toBytes_or, List.append_assoc]⟩
    | 3, given | 4, given =>
      obtain ⟨rfl, rfl⟩ := eq_of_pure given
      exact ⟨rfl, rfl⟩
    | _ + 5, given => cases given
  complete {c} rest fits short := by
    rw [check]
    cases c with
    | predicate setup name negated =>
      rw [Check.isStorable, Bool.and_eq_true] at fits
      simp only [Check.toBytes, List.length_append, length_tag] at short
      simp only [Check.toBytes, List.append_assoc]
      refine (tag_bind 0 (by decide) _ _).trans ?_
      refine (parts.block.next _ _ fits.1 (by omega)).trans ?_
      refine ((undoes_text (n + 1)).next _ _ fits.2 (by omega)).trans ?_
      exact (undoes_bool (n + 1)).next _ _ trivial (by omega)
    | and conditions =>
      rw [Check.toBytes_and, List.length_append, length_tag] at short
      rw [Check.toBytes_and, List.append_assoc]
      refine (tag_bind 1 (by decide) _ _).trans ?_
      exact parts.check.list.next _ _ (Check.isStorable_and.1 fits) (by omega)
    | or conditions =>
      rw [Check.toBytes_or, List.length_append, length_tag] at short
      rw [Check.toBytes_or, List.append_assoc]
      refine (tag_bind 2 (by decide) _ _).trans ?_
      exact parts.check.list.next _ _ (Check.isStorable_or.1 fits) (by omega)
    | iterNext => rfl
    | always => rfl

theorem undoes_instruction :
    Undoes (instruction (n + 1)) Instruction.toBytes (fun i => i.isStorable) (n + 1) where
  sound read := by
    obtain ⟨variant, after, rfl, readVariant⟩ := of_tag read
    match variant, readVariant with
    | 0, given | 7, given | 14, given =>
      obtain ⟨rfl, rfl⟩ := eq_of_pure given
      exact ⟨rfl, rfl⟩
    | 1, readValue =>
      obtain ⟨value, after, fits, rfl, given⟩ := (undoes_literal 0).first readValue
      obtain ⟨rfl, rfl⟩ := eq_of_pure given
      exact ⟨fits, by rw [Instruction.toBytes, List.append_assoc]⟩
    | 2, readFragments =>
      obtain ⟨fragments, after, fits, rfl, given⟩ := (undoes_fragment 0).list.first readFragments
      obtain ⟨rfl, rfl⟩ := eq_of_pure given
      exact ⟨fits, by rw [Instruction.toBytes, List.append_assoc]⟩
    | 3, readName | 4, readName | 8, readName | 15, readName =>
      obtain ⟨name, after, fits, rfl, given⟩ := (undoes_text 0).first readName
      obtain ⟨rfl, rfl⟩ := eq_of_pure given
      exact ⟨fits, by rw [Instruction.toBytes, List.append_assoc]⟩
    | 5, readTarget =>
      obtain ⟨target, after, fitsTarget, rfl, readOp⟩ := parts.block.first readTarget
      obtain ⟨op, after, fitsOp, rfl, given⟩ := (undoes_text 0).optional.first readOp
      obtain ⟨rfl, rfl⟩ := eq_of_pure given
      refine ⟨?_, by simp only [Instruction.toBytes, ofText?_eq, List.append_assoc]⟩
      simp only [Instruction.isStorable, fitsTarget, fitsOp, Bool.and_self]
    | 6, readTargets =>
      obtain ⟨targets, after, fitsTargets, rfl, readOp⟩ := parts.block.list.first readTargets
      obtain ⟨op, after, fitsOp, rfl, given⟩ := (undoes_text 0).optional.first readOp
      obtain ⟨rfl, rfl⟩ := eq_of_pure given
      refine ⟨Instruction.isStorable_assignMulti.2 ⟨fitsTargets, fitsOp⟩, ?_⟩
      simp only [Instruction.toBytes_assignMulti, List.append_assoc]
    | 9, readBody =>
      obtain ⟨body, after, fits, rfl, given⟩ := parts.block.first readBody
      obtain ⟨rfl, rfl⟩ := eq_of_pure given
      exact ⟨fits, by rw [Instruction.toBytes, List.append_assoc]⟩
    | 10, readName =>
      obtain ⟨name, after, fitsName, rfl, readBody⟩ := (undoes_text 0).first readName
      obtain ⟨body, after, fitsBody, rfl, readInline⟩ := parts.block.first readBody
      obtain ⟨isInline, after, _, rfl, given⟩ := (undoes_bool 0).first readInline
      obtain ⟨rfl, rfl⟩ := eq_of_pure given
      refine ⟨?_, by simp only [Instruction.toBytes, List.append_assoc]⟩
      simp only [Instruction.isStorable, fitsName, fitsBody, Bool.and_self, BEq.rfl]
    | 11, readCheck | 12, readCheck =>
      obtain ⟨check, after, fitsCheck, rfl, readBody⟩ := parts.check.first readCheck
      obtain ⟨body, after, fitsBody, rfl, readOther⟩ := parts.block.first readBody
      obtain ⟨other, after, fitsOther, rfl, given⟩ := parts.block.optional.first readOther
      obtain ⟨rfl, rfl⟩ := eq_of_pure given
      refine ⟨?_, by simp only [Instruction.toBytes, bytesOfBlock?_eq, List.append_assoc]⟩
      simp only [Instruction.isStorable, isBlockStorable?_eq, fitsCheck, fitsBody, fitsOther,
        Bool.and_self]
    | 13, readKey =>
      obtain ⟨key, after, fitsKey, rfl, readValue⟩ := (undoes_text 0).optional.first readKey
      obtain ⟨value, after, fitsValue, rfl, given⟩ := (undoes_text 0).first readValue
      obtain ⟨rfl, rfl⟩ := eq_of_pure given
      refine ⟨?_, by simp only [Instruction.toBytes, ofText?_eq, List.append_assoc]⟩
      simp only [Instruction.isStorable, fitsKey, fitsValue, Bool.and_self]
    | 16, readMember =>
      obtain ⟨member, after, fitsMember, rfl, readClass⟩ :=
          (undoes_text 0).optional.first readMember
      obtain ⟨className, after, fitsClass, rfl, given⟩ := (undoes_text 0).optional.first readClass
      obtain ⟨rfl, rfl⟩ := eq_of_pure given
      refine ⟨?_, by simp only [Instruction.toBytes, ofText?_eq, List.append_assoc]⟩
      simp only [Instruction.isStorable, fitsMember, fitsClass, Bool.and_self]
    | 17, readBody =>
      obtain ⟨body, after, fitsBody, rfl, readHandler⟩ := parts.block.first readBody
      obtain ⟨handler, after, fitsHandler, rfl, readVar⟩ := parts.block.first readHandler
      obtain ⟨var, after, fitsVar, rfl, given⟩ := (undoes_text 0).first readVar
      obtain ⟨rfl, rfl⟩ := eq_of_pure given
      refine ⟨?_, by simp only [Instruction.toBytes, List.append_assoc]⟩
      simp only [Instruction.isStorable, fitsBody, fitsHandler, fitsVar, Bool.and_self]
    | 18, readKind =>
      obtain ⟨kind, after, _, rfl, readValue⟩ := (undoes_flowKind 0).first readKind
      obtain ⟨value, after, _, rfl, given⟩ := (undoes_bool 0).first readValue
      obtain ⟨rfl, rfl⟩ := eq_of_pure given
      exact ⟨rfl, by simp only [Instruction.toBytes, List.append_assoc]⟩
    | _ + 19, given => cases given
  complete {i} rest fits short := by
    rw [instruction]
    cases i with
    | createFrame => rfl
    | index => rfl
    | iterDestroy => rfl
    | literal value =>
      rw [Instruction.toBytes, List.append_assoc]
      refine (tag_bind 1 (by decide) _ _).trans ?_
      exact (undoes_literal _).next _ _ fits (Nat.lt_succ_self _)
    | interpolate fragments =>
      rw [Instruction.toBytes, List.append_assoc]
      refine (tag_bind 2 (by decide) _ _).trans ?_
      exact (undoes_fragment _).list.next _ _ fits (Nat.lt_succ_self _)
    | get name =>
      rw [Instruction.toBytes, List.append_assoc]
      refine (tag_bind 3 (by decide) _ _).trans ?_
      exact (undoes_text _).next _ _ fits (Nat.lt_succ_self _)
    | operate name =>
      rw [Instruction.toBytes, List.append_assoc]
      refine (tag_bind 4 (by decide) _ _).trans ?_
      exact (undoes_text _).next _ _ fits (Nat.lt_succ_self _)
    | call name =>
      rw [Instruction.toBytes, List.append_assoc]
      refine (tag_bind 8 (by decide) _ _).trans ?_
      exact (undoes_text _).next _ _ fits (Nat.lt_succ_self _)
    | objectNew name =>
      rw [Instruction.toBytes, List.append_assoc]
      refine (tag_bind 15 (by decide) _ _).trans ?_
      exact (undoes_text _).next _ _ fits (Nat.lt_succ_self _)
    | assign target op =>
      rw [Instruction.isStorable, Bool.and_eq_true] at fits
      simp only [Instruction.toBytes, List.length_append, length_tag] at short
      simp only [Instruction.toBytes, ofText?_eq, List.append_assoc]
      refine (tag_bind 5 (by decide) _ _).trans ?_
      refine (parts.block.next _ _ fits.1 (by omega)).trans ?_
      exact (undoes_text _).optional.next _ _ fits.2 (Nat.lt_succ_self _)
    | assignMulti targets op =>
      obtain ⟨fitsTargets, fitsOp⟩ := Instruction.isStorable_assignMulti.1 fits
      simp only [Instruction.toBytes_assignMulti, List.length_append, length_tag] at short
      simp only [Instruction.toBytes_assignMulti, List.append_assoc]
      refine (tag_bind 6 (by decide) _ _).trans ?_
      refine (parts.block.list.next _ _ fitsTargets (by omega)).trans ?_
      exact (undoes_text _).optional.next _ _ fitsOp (Nat.lt_succ_self _)
    | closure body =>
      rw [Instruction.toBytes, List.length_append, length_tag] at short
      rw [Instruction.toBytes, List.append_assoc]
      refine (tag_bind 9 (by decide) _ _).trans ?_
      exact parts.block.next _ _ fits (by omega)
    | bind name body isInline site =>
      simp only [Instruction.isStorable, Bool.and_eq_true, beq_iff_eq] at fits
      obtain ⟨⟨fitsName, fitsBody⟩, rfl⟩ := fits
      simp only [Instruction.toBytes, List.length_append, length_tag] at short
      simp only [Instruction.toBytes, List.append_assoc]
      refine (tag_bind 10 (by decide) _ _).trans ?_
      refine ((undoes_text _).next _ _ fitsName (Nat.lt_succ_self _)).trans ?_
      refine (parts.block.next _ _ fitsBody (by omega)).trans ?_
      exact (undoes_bool _).next _ _ trivial (Nat.lt_succ_self _)
    | decide check onTrue onFalse =>
      simp only [Instruction.isStorable, isBlockStorable?_eq, Bool.and_eq_true] at fits
      simp only [Instruction.toBytes, bytesOfBlock?_eq, List.length_append, length_tag] at short
      simp only [Instruction.toBytes, bytesOfBlock?_eq, List.append_assoc]
      refine (tag_bind 11 (by decide) _ _).trans ?_
      refine (parts.check.next _ _ fits.1.1 (by omega)).trans ?_
      refine (parts.block.next _ _ fits.1.2 (by omega)).trans ?_
      exact parts.block.optional.next _ _ fits.2 (by omega)
    | loop check body increment =>
      simp only [Instruction.isStorable, isBlockStorable?_eq, Bool.and_eq_true] at fits
      simp only [Instruction.toBytes, bytesOfBlock?_eq, List.length_append, length_tag] at short
      simp only [Instruction.toBytes, bytesOfBlock?_eq, List.append_assoc]
      refine (tag_bind 12 (by decide) _ _).trans ?_
      refine (parts.check.next _ _ fits.1.1 (by omega)).trans ?_
      refine (parts.block.next _ _ fits.1.2 (by omega)).trans ?_
      exact parts.block.optional.next _ _ fits.2 (by omega)
    | iterCreate key value =>
      rw [Instruction.isStorable, Bool.and_eq_true] at fits
      simp only [Instruction.toBytes, ofText?_eq, List.append_assoc]
      refine (tag_bind 13 (by decide) _ _).trans ?_
      refine ((undoes_text _).optional.next _ _ fits.1 (Nat.lt_succ_self _)).trans ?_
      exact (undoes_text _).next _ _ fits.2 (Nat.lt_succ_self _)
    | objectAccess member className =>
      rw [Instruction.isStorable, Bool.and_eq_true] at fits
      simp only [Instruction.toBytes, ofText?_eq, List.append_assoc]
      refine (tag_bind 16 (by decide) _ _).trans ?_
      refine ((undoes_text _).optional.next _ _ fits.1 (Nat.lt_succ_self _)).trans ?_
      exact (undoes_text _).optional.next _ _ fits.2 (Nat.lt_succ_self _)
    | «try» body handler var =>
      simp only [Instruction.isStorable, Bool.and_eq_true] at fits
      simp only [Instruction.toBytes, List.length_append, length_tag] at short
      simp only [Instruction.toBytes, List.append_assoc]
      refine (tag_bind 17 (by decide) _ _).trans ?_
      refine (parts.block.next _ _ fits.1.1 (by omega)).trans ?_
      refine (parts.block.next _ _ fits.1.2 (by omega)).trans ?_
      exact (undoes_text _).next _ _ fits.2 (Nat.lt_succ_self _)
    | flow kind value =>
      simp only [Instruction.toBytes, List.append_assoc]
      refine (tag_bind 18 (by decide) _ _).trans ?_
      refine ((undoes_flowKind _).next _ _ trivial (Nat.lt_succ_self _)).trans ?_
      exact (undoes_bool _).next _ _ trivial (Nat.lt_succ_self _)

end Parts

/-- By induction on the fuel of the readers, which every part of a part takes one less of. -/
theorem undoesParts (room : Nat) : UndoesParts room := by
  induction room with
  | zero =>
    have nothing {α : Type} {write : α → Bytes} {ok : α → Prop} : Undoes failure write ok 0 :=
      ⟨fun read => (nomatch read), fun _ _ short => absurd short (Nat.not_lt_zero _)⟩
    exact ⟨nothing, nothing, nothing, nothing⟩
  | succ n parts =>
    exact ⟨undoes_block parts, undoes_step parts, undoes_check parts, undoes_instruction parts⟩

end ByteReader

/-! ## Whole images -/

open ByteReader in
/-- The programs that are read are those whose images stand in front of the bytes. -/
theorem Program.ofBytes?_eq_some_iff {bytes : Bytes} {p : Program} :
    Program.ofBytes? bytes = some p ↔ p.isStorable ∧ p.toBytes <+: bytes := by
  rw [isStorable, Bool.and_eq_true, toBytes, ofBytes?]
  constructor
  · intro read
    obtain ⟨⟨_, after⟩, run, rfl⟩ := Option.map_eq_some_iff.1 read
    obtain ⟨name, rest, fitsName, joined, readMain⟩ := (undoes_text 0).first run
    obtain ⟨main, last, fitsMain, rfl, given⟩ := (undoesParts _).block.first readMain
    obtain ⟨rfl, rfl⟩ := eq_of_pure given
    exact ⟨⟨fitsName, fitsMain⟩, last, by rw [joined, List.append_assoc]⟩
  · rintro ⟨⟨fitsName, fitsMain⟩, rest, rfl⟩
    have short : p.main.toBytes.length < (ofText p.name ++ p.main.toBytes ++ rest).length + 1 := by
      simp only [List.length_append]
      omega
    generalize (ofText p.name ++ p.main.toBytes ++ rest).length + 1 = room at short
    rw [List.append_assoc, Option.map_eq_some_iff]
    refine ⟨(p, rest), ?_, rfl⟩
    refine ((undoes_text _).next _ _ fitsName (Nat.lt_succ_self _)).trans ?_
    exact (undoesParts room).block.next _ _ fitsMain short

/-- A program is read back from its image, whatever follows. No strict part of the image from its
front is an image. What is read from any bytes has its own image in front of them. -/
theorem Program.image_is_canonical (p : Program) (h : p.isStorable) :
    (∀ rest, ofBytes? (p.toBytes ++ rest) = some p) ∧
      (∀ front, front <+: p.toBytes → front ≠ p.toBytes → ofBytes? front = none) ∧
        ∀ bytes q, ofBytes? bytes = some q → q.isStorable ∧ q.toBytes <+: bytes := by
  refine ⟨fun rest => ofBytes?_eq_some_iff.2 ⟨h, List.prefix_append _ _⟩, ?_,
    fun _ _ => ofBytes?_eq_some_iff.1⟩
  intro front part strict
  cases read : ofBytes? front with
  | none => rfl
  | some q =>
    obtain ⟨fits, own⟩ := ofBytes?_eq_some_iff.1 read
    -- The image of what is read stands in front of that of `p` too, from which `p` is read.
    have same : some q = some p :=
      (ofBytes?_eq_some_iff.2 ⟨fits, own.trans part⟩).symm.trans
      (ofBytes?_eq_some_iff.2 ⟨h, List.prefix_rfl⟩)
    cases same
    exact absurd (part.eq_of_length_le own.length_le) strict

/-- A loop over a condition, with a float and a text that is not plain. -/
theorem Program.image_of_loop_is_canonical :
    let p : Program := ⟨"loop", .mk (some "loop.cs") [.mk 1 (.loop
      (.predicate (.mk none [.mk 1 (.literal (.float 0x3ff8000000000000))]) "true" true)
      (.mk none [.mk 2 (.literal (.str "é"))]) none)]⟩
    p.isStorable ∧ (∀ rest, ofBytes? (p.toBytes ++ rest) = some p) ∧
      (∀ front, front <+: p.toBytes → front ≠ p.toBytes → ofBytes? front = none) ∧
        ∀ bytes q, ofBytes? bytes = some q → q.isStorable ∧ q.toBytes <+: bytes :=
  have storable := by decide +kernel
  ⟨storable, image_is_canonical _ storable⟩

end CellScript
