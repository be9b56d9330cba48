import CellScript.Program.Format
import CellScript.Proofs.Json.Text
import CellScript.Proofs.Program.Binary
import Mathlib.Order.Lattice

/-!
# Programs and their textual images

The textual image of a program is read back as the program, as long as it nests no more lists and
objects than a reader opens, and as nothing if it nests more. The readers of the parts keep the
account along the recursion of the writers: each of them reads the image of a part exactly when the
part fits into the room that is left.

Floats are written with their shortest digits. The reader of numbers rounds twice and may miss the
last place of a long one, so that the floats of a program are asked to be read back from their
texts.

## Main definitions

* `Json.nesting` — how deep lists and objects nest in a document.
* `Program.hasFiniteFloats`, `Program.hasExactFloats` — programs with floats that textual images
  keep.
* `Program.reloaded` — a program after it was written and read in several formats.

## Main statements

* `Program.ofJson?_toJson` — which textual images are read back.
* `Program.images_agree` — textual and binary images are read as the same program, any number of
  times.
-/

namespace CellScript

/-! ## Nesting -/

namespace Json

mutual

/-- How deep lists and objects nest in a document. -/
def nesting : Json → Nat
  | .array items => nestingOfItems items + 1
  | .object fields => nestingOfFields fields + 1
  | _ => 0

/-- How deep they nest in some items. -/
def nestingOfItems : List Json → Nat
  | [] => 0
  | item :: rest => max (nesting item) (nestingOfItems rest)

/-- How deep they nest in some fields. -/
def nestingOfFields : List (String × Json) → Nat
  | [] => 0
  | (_, value) :: rest => max (nesting value) (nestingOfFields rest)

end

attribute [simp] nesting nestingOfItems nestingOfFields

end Json

open Json

@[simp] theorem nesting_optionalText (s : Option String) : (optionalText s).nesting = 0 := by
  cases s <;> simp [optionalText]

@[simp] theorem nesting_variantRecord (name : String) (fields : List (String × Json)) :
    (variantRecord name fields).nesting = nestingOfFields fields + 2 := by
  simp [variantRecord]

theorem textField?_optionalText (s : Option String) :
    textField? (some (optionalText s)) = some s := by
  cases s <;> rfl

theorem isPrintable_optionalText (s : Option String) : IsPrintable (optionalText s) := by
  cases s <;> simp [optionalText, IsPrintable]

theorem arePrintable_fragments (fragments : List Fragment) :
    ArePrintable (fragments.map Fragment.toImage) := by
  induction fragments with
  | nil => simp [ArePrintable]
  | cons f rest ih =>
    cases f <;> simp [Fragment.toImage, ArePrintable, IsPrintable, AreFieldsPrintable, ih]

/-! ## Floats that are read back -/

/-- Whether a float among the constants is finite. -/
def Literal.isFinite : Literal → Bool
  | .float bits => (Float.ofBits bits).isFinite
  | _ => true

/-- Whether a float among the constants is read back, bit for bit, from its text. -/
def Literal.isExact : Literal → Bool
  | .float bits => (float? (Decimal.image.write (Float.ofBits bits))).map Float.toBits == some bits
  | _ => true

/-- Whether a textual image keeps the constant of an instruction. -/
def Instruction.hasKeptFloat : Instruction → Bool
  | .literal value => value.isFinite && value.isExact
  | _ => true

theorem Json.int64?_toString (n : Int64) : int64? (.number (toString n.toInt)) = some n := by
  have low := n.le_toInt
  have high := n.toInt_lt
  have fits : (decide (-(Int.pow 2 63) ≤ n.toInt) && decide (n.toInt < Int.pow 2 63)) = true := by
    rw [intPow_eq, Bool.and_eq_true, decide_eq_true_iff, decide_eq_true_iff]
    exact ⟨low, high⟩
  rw [int64?, integerBetween?, integer?_toString (by omega) (by omega), Option.filter_some,
    if_pos fits, Option.map_some, Int64.ofInt_toInt]

theorem Json.unsigned?_toString {bits n : Nat} (small : n < 2 ^ bits) (h : n < 2 ^ 64) :
    unsigned? bits (.number (toString n)) = some n := by
  have fits : (decide ((0 : Int) ≤ n) && decide ((n : Int) < Int.pow 2 bits)) = true := by
    rw [intPow_eq, Bool.and_eq_true, decide_eq_true_iff, decide_eq_true_iff]
    exact ⟨Int.natCast_nonneg n, mod_cast small⟩
  have read : integer? (toString n) = some (n : Int) := integer?_of_natCast h
  rw [unsigned?, integerBetween?, read, Option.filter_some, if_pos fits]
  rfl

theorem Literal.isPrintable_toImage {l : Literal} : IsPrintable l.toImage := by
  cases l with
  | null => simp [toImage, IsPrintable]
  | int n =>
    simp only [toImage, IsPrintable, AreFieldsPrintable, and_true]
    exact isNumber_toString n.toInt
  | float bits =>
    simp only [toImage]
    split
    · next finite => simp [IsPrintable, AreFieldsPrintable, Decimal.Style.isNumber_write finite]
    · simp [IsPrintable, AreFieldsPrintable]
  | str s => simp [toImage, IsPrintable, AreFieldsPrintable]

/-- The constant that holds what a field was read as. -/
theorem Literal.ofImage?_toImage {l : Literal} (finite : l.isFinite) (exact : l.isExact)
    (room : Nat) :
    Literal.ofImage? room l.toImage = if l.toImage.nesting ≤ room then some l else none := by
  cases l with
  | null => cases room <;> rfl
  | int n =>
    cases room with
    | zero => rfl
    | succ room =>
      change (int64? (.number (toString n.toInt))).map Literal.int = _
      rw [int64?_toString]
      simp [toImage]
  | float bits =>
    have finite : (Float.ofBits bits).isFinite := finite
    have text : (Literal.float bits).toImage =
        .object [("Float", .number (Decimal.image.write (Float.ofBits bits)))] := by
      rw [toImage, if_pos finite]
    rw [text]
    cases room with
    | zero => rfl
    | succ room =>
      change (float? (Decimal.image.write (Float.ofBits bits))).map
        (fun x => Literal.float x.toBits) = _
      simp only [isExact, beq_iff_eq, Option.map_eq_some_iff] at exact
      obtain ⟨x, read, same⟩ := exact
      rw [read, Option.map_some, same]
      simp
  | str s =>
    cases room with
    | zero => rfl
    | succ room =>
      change some (Literal.str s) = _
      simp [toImage]

theorem Fragment.ofImage?_toImage (f : Fragment) (room : Nat) :
    Fragment.ofImage? room f.toImage = if f.toImage.nesting ≤ room then some f else none := by
  cases f with
  | text s =>
    cases room with
    | zero => rfl
    | succ room =>
      change some (Fragment.text s) = _
      simp [toImage]
  | var name =>
    cases room with
    | zero => rfl
    | succ room =>
      change some (Fragment.var name) = _
      simp [toImage]

theorem FlowKind.ofImage?_name (kind : FlowKind) (room : Nat) :
    FlowKind.ofImage? room (.string kind.name) = some kind := by
  cases kind <;> rfl

/-! ## Parts that fit -/

section Within

variable {α β : Type}

/-- What is read after a part that fits. -/
theorem within_bind {c : Prop} [Decidable c] (a : α) (f : α → Option β) :
    ((if c then some a else none) >>= f) = if c then f a else none := by
  split <;> rfl

theorem within_map {c : Prop} [Decidable c] (a : α) (f : α → β) :
    (if c then some a else none).map f = if c then some (f a) else none := by
  split <;> rfl

/-- Two parts that both have to fit. -/
theorem within_and {c d : Prop} [Decidable c] [Decidable d] (a : α) :
    (if c then if d then some a else none else none) = if c ∧ d then some a else none := by
  by_cases c <;> by_cases d <;> simp [*]

end Within

theorem fragments_ofImage? (fragments : List Fragment) (room : Nat) :
    (fragments.map Fragment.toImage).mapM (Fragment.ofImage? room) =
      if nestingOfItems (fragments.map Fragment.toImage) ≤ room then some fragments else none := by
  induction fragments with
  | nil => simp
  | cons f rest ih =>
    rw [List.map_cons, List.mapM_cons, Fragment.ofImage?_toImage, ih]
    simp only [within_bind, Option.pure_def, within_and, nestingOfItems, Nat.max_le]

/-- The record of an instruction is opened with what is left after its variant. -/
theorem Instruction.ofImage?_record {i : Instruction} {name : String}
    {fields : List (String × Json)} (other : name ≠ "Literal")
    (read : ∀ room, Instruction.ofImage? (room + 2) (variantRecord name fields) =
      if nestingOfFields fields ≤ room then some i else none) (room : Nat) :
    Instruction.ofImage? room (variantRecord name fields) =
      if (variantRecord name fields).nesting ≤ room then some i else none := by
  match room with
  | 0 =>
    simp [Instruction.ofImage?.eq_def, variantRecord, bareName?, variant?,
      Instruction.ofImage?.plainInstruction?]
  | 1 =>
    rw [Instruction.ofImage?.eq_def, nesting_variantRecord, if_neg (by omega), variantRecord]
    split
    · next same =>
      simp only [object.injEq, List.cons.injEq, Prod.mk.injEq, and_true] at same
      exact absurd same.1 other
    · omega
    · omega
    · rfl
  | room + 2 => simp [read]

mutual

/-- A block is read from its image if it fits. -/
theorem Block.ofImage?_toImage (b : Block) (storable : b.isStorable)
    (kept : b.contents.all Instruction.hasKeptFloat) (room : Nat) :
    Block.ofImage? room b.toImage = if b.toImage.nesting ≤ room then some b else none := by
  match b with
  | .mk source steps =>
    simp only [Block.isStorable, Bool.and_eq_true] at storable
    rw [Block.contents] at kept
    match room with
    | 0 => simp [Block.ofImage?, Block.toImage]
    | 1 => simp [Block.ofImage?, Block.toImage, stepsOfImage?, fieldsOf?, uniqueField?]
    | room + 2 =>
      have read := stepsOfImage?_images steps storable.2 kept room
      change (textField? (some (optionalText source)) >>= fun source =>
        (imagesOfSteps steps).mapM (Step.ofImage? room) >>= fun steps =>
          some (Block.mk source steps)) = _
      rw [textField?_optionalText, read]
      simp [within_bind, Block.toImage]

/-- Steps are read from their images if all of them fit. -/
theorem stepsOfImage?_images (steps : List Step) (storable : areStepsStorable steps)
    (kept : (contentsOfSteps steps).all Instruction.hasKeptFloat) (room : Nat) :
    (imagesOfSteps steps).mapM (Step.ofImage? room) =
      if nestingOfItems (imagesOfSteps steps) ≤ room then some steps else none := by
  match steps with
  | [] => simp [imagesOfSteps]
  | step :: rest =>
    rw [areStepsStorable, Bool.and_eq_true] at storable
    rw [contentsOfSteps, List.all_append, Bool.and_eq_true] at kept
    rw [imagesOfSteps, List.mapM_cons, Step.ofImage?_toImage step storable.1 kept.1,
      stepsOfImage?_images rest storable.2 kept.2]
    simp only [within_bind, Option.pure_def, within_and, nestingOfItems, Nat.max_le]

/-- Blocks are read from their images if all of them fit. -/
theorem blocksOfImage?_images (blocks : List Block) (storable : areBlocksStorable blocks)
    (kept : (contentsOfBlocks blocks).all Instruction.hasKeptFloat) (room : Nat) :
    (imagesOfBlocks blocks).mapM (Block.ofImage? room) =
      if nestingOfItems (imagesOfBlocks blocks) ≤ room then some blocks else none := by
  match blocks with
  | [] => simp [imagesOfBlocks]
  | block :: rest =>
    rw [areBlocksStorable, Bool.and_eq_true] at storable
    rw [contentsOfBlocks, List.all_append, Bool.and_eq_true] at kept
    rw [imagesOfBlocks, List.mapM_cons, Block.ofImage?_toImage block storable.1 kept.1,
      blocksOfImage?_images rest storable.2 kept.2]
    simp only [within_bind, Option.pure_def, within_and, nestingOfItems, Nat.max_le]

/-- A block that may be missing is read from its image if it fits. -/
theorem optional?_imageOfBlock? (block : Option Block) (storable : isBlockStorable? block)
    (kept : (contentsOfBlock? block).all Instruction.hasKeptFloat) (room : Nat) :
    optional? (Block.ofImage? room) (imageOfBlock? block) =
      if (imageOfBlock? block).nesting ≤ room then some block else none := by
  match block with
  | none => simp [imageOfBlock?, optional?]
  | some (.mk source steps) =>
    have read := Block.ofImage?_toImage (.mk source steps) storable kept room
    change (Block.ofImage? room (Block.mk source steps).toImage).map some = _
    rw [read, within_map, imageOfBlock?]

/-- A step is read from its image if it fits. -/
theorem Step.ofImage?_toImage (s : Step) (storable : s.isStorable)
    (kept : s.contents.all Instruction.hasKeptFloat) (room : Nat) :
    Step.ofImage? room s.toImage = if s.toImage.nesting ≤ room then some s else none := by
  match s with
  | .mk line i =>
    rw [Step.isStorable] at storable
    rw [Step.contents, List.all_cons, Bool.and_eq_true] at kept
    match room with
    | 0 => simp [Step.ofImage?, Step.toImage]
    | room + 1 =>
      have small : line.toNat < 2 ^ 32 := line.toNat_lt
      have read := Instruction.ofImage?_toImage i storable kept.1 kept.2 room
      change (unsigned? 32 (.number (toString line.toNat)) >>= fun line =>
        Instruction.ofImage? room i.toImage >>= fun i => some (Step.mk (UInt32.ofNat line) i)) = _
      rw [unsigned?_toString small (by omega), read]
      simp [within_bind, Step.toImage]

/-- A condition is read from its image if it fits. -/
theorem Check.ofImage?_toImage (c : Check) (storable : c.isStorable)
    (kept : c.inner.all Instruction.hasKeptFloat) (room : Nat) :
    Check.ofImage? room c.toImage = if c.toImage.nesting ≤ room then some c else none := by
  match c with
  | .predicate setup name negated =>
    rw [Check.isStorable, Bool.and_eq_true] at storable
    rw [Check.inner] at kept
    match room with
    | 0 => simp [Check.toImage]; rfl
    | 1 => simp [Check.toImage]; rfl
    | room + 2 =>
      have read := Block.ofImage?_toImage setup storable.1 kept room
      change (Block.ofImage? room setup.toImage >>=
        fun setup => some (Check.predicate setup name negated)) = _
      rw [read]
      simp [within_bind, Check.toImage]
  | .and parts =>
    rw [Check.isStorable, Bool.and_eq_true] at storable
    rw [Check.inner] at kept
    match room with
    | 0 => simp [Check.toImage]; rfl
    | 1 => simp [Check.toImage]; rfl
    | room + 2 =>
      have read := checksOfImage?_images parts storable.2 kept room
      change ((imagesOfChecks parts).mapM (Check.ofImage? room)).map Check.and = _
      rw [read]
      simp [Check.toImage]
  | .or parts =>
    rw [Check.isStorable, Bool.and_eq_true] at storable
    rw [Check.inner] at kept
    match room with
    | 0 => simp [Check.toImage]; rfl
    | 1 => simp [Check.toImage]; rfl
    | room + 2 =>
      have read := checksOfImage?_images parts storable.2 kept room
      change ((imagesOfChecks parts).mapM (Check.ofImage? room)).map Check.or = _
      rw [read]
      simp [Check.toImage]
  | .iterNext =>
    match room with
    | 0 | 1 | room + 2 => rfl
  | .always =>
    match room with
    | 0 | 1 | room + 2 => rfl

/-- Conditions are read from their images if all of them fit. -/
theorem checksOfImage?_images (parts : List Check) (storable : areChecksStorable parts)
    (kept : (innerOfChecks parts).all Instruction.hasKeptFloat) (room : Nat) :
    (imagesOfChecks parts).mapM (Check.ofImage? room) =
      if nestingOfItems (imagesOfChecks parts) ≤ room then some parts else none := by
  match parts with
  | [] => simp [imagesOfChecks]
  | part :: rest =>
    rw [areChecksStorable, Bool.and_eq_true] at storable
    rw [innerOfChecks, List.all_append, Bool.and_eq_true] at kept
    rw [imagesOfChecks, List.mapM_cons, Check.ofImage?_toImage part storable.1 kept.1,
      checksOfImage?_images rest storable.2 kept.2]
    simp only [within_bind, Option.pure_def, within_and, nestingOfItems, Nat.max_le]

/-- An instruction is read from its image if it fits. -/
theorem Instruction.ofImage?_toImage (i : Instruction) (storable : i.isStorable)
    (float : i.hasKeptFloat) (kept : i.inner.all Instruction.hasKeptFloat) (room : Nat) :
    Instruction.ofImage? room i.toImage = if i.toImage.nesting ≤ room then some i else none := by
  match i with
  | .createFrame =>
    match room with
    | 0 | 1 | room + 2 => rfl
  | .index =>
    match room with
    | 0 | 1 | room + 2 => rfl
  | .iterDestroy =>
    match room with
    | 0 | 1 | room + 2 => rfl
  | .literal value =>
    match room with
    | 0 =>
      simp [Instruction.toImage, Instruction.ofImage?, bareName?, variant?,
        Instruction.ofImage?.plainInstruction?]
    | room + 1 =>
      rw [Instruction.hasKeptFloat, Bool.and_eq_true] at float
      change (Literal.ofImage? room value.toImage).map Instruction.literal = _
      rw [Literal.ofImage?_toImage float.1 float.2]
      simp [Instruction.toImage]
  | .interpolate fragments =>
    match room with
    | 0 => simp [Instruction.toImage]; rfl
    | 1 => simp [Instruction.toImage]; rfl
    | room + 2 =>
      change ((fragments.map Fragment.toImage).mapM (Fragment.ofImage? room)).map
        Instruction.interpolate = _
      rw [fragments_ofImage?]
      simp [Instruction.toImage]
  | .get name =>
    refine Instruction.ofImage?_record (by decide) (fun room => ?_) room
    change some (Instruction.get name) = _
    simp
  | .operate op =>
    refine Instruction.ofImage?_record (by decide) (fun room => ?_) room
    change some (Instruction.operate op) = _
    simp
  | .call function =>
    refine Instruction.ofImage?_record (by decide) (fun room => ?_) room
    change some (Instruction.call function) = _
    simp
  | .objectNew className =>
    refine Instruction.ofImage?_record (by decide) (fun room => ?_) room
    change some (Instruction.objectNew className) = _
    simp
  | .assign target op =>
    rw [Instruction.isStorable, Bool.and_eq_true] at storable
    rw [Instruction.inner] at kept
    refine Instruction.ofImage?_record (by decide) (fun room => ?_) room
    change (Block.ofImage? room target.toImage >>=
      fun target => textField? (some (optionalText op)) >>= fun op =>
      some (Instruction.assign target op)) = _
    rw [Block.ofImage?_toImage target storable.1 kept, textField?_optionalText]
    simp [within_bind]
  | .assignMulti targets op =>
    simp only [Instruction.isStorable, Bool.and_eq_true] at storable
    rw [Instruction.inner] at kept
    refine Instruction.ofImage?_record (by decide) (fun room => ?_) room
    change (blocksOfImage? room (.array (imagesOfBlocks targets)) >>= fun targets =>
      textField? (some (optionalText op)) >>= fun op =>
        some (Instruction.assignMulti targets op)) = _
    rw [textField?_optionalText]
    cases room with
    | zero => simp [blocksOfImage?]
    | succ room =>
      rw [blocksOfImage?, blocksOfImage?_images targets storable.1.2 kept]
      simp [within_bind]
  | .closure body =>
    rw [Instruction.isStorable] at storable
    rw [Instruction.inner] at kept
    refine Instruction.ofImage?_record (by decide) (fun room => ?_) room
    change (Block.ofImage? room body.toImage >>= fun body => some (Instruction.closure body)) = _
    rw [Block.ofImage?_toImage body storable kept]
    simp [within_bind]
  | .bind name body isInline site =>
    simp only [Instruction.isStorable, Bool.and_eq_true, beq_iff_eq] at storable
    obtain ⟨⟨_, storable⟩, rfl⟩ := storable
    rw [Instruction.inner] at kept
    refine Instruction.ofImage?_record (by decide) (fun room => ?_) room
    change (Block.ofImage? room body.toImage >>=
      fun body => some (Instruction.bind name body isInline 0)) = _
    rw [Block.ofImage?_toImage body storable kept]
    simp [within_bind]
  | .decide check onTrue onFalse =>
    simp only [Instruction.isStorable, Bool.and_eq_true] at storable
    simp only [Instruction.inner, List.all_append, Bool.and_eq_true] at kept
    refine Instruction.ofImage?_record (by decide) (fun room => ?_) room
    change (Check.ofImage? room check.toImage >>=
      fun check => Block.ofImage? room onTrue.toImage >>= fun onTrue =>
      optional? (Block.ofImage? room) (imageOfBlock? onFalse) >>= fun onFalse =>
        some (Instruction.decide check onTrue onFalse)) = _
    rw [Check.ofImage?_toImage check storable.1.1 kept.1.1,
      Block.ofImage?_toImage onTrue storable.1.2 kept.1.2,
      optional?_imageOfBlock? onFalse storable.2 kept.2]
    simp [within_bind, within_and]
  | .loop check body increment =>
    simp only [Instruction.isStorable, Bool.and_eq_true] at storable
    simp only [Instruction.inner, List.all_append, Bool.and_eq_true] at kept
    refine Instruction.ofImage?_record (by decide) (fun room => ?_) room
    change (Check.ofImage? room check.toImage >>= fun check => Block.ofImage? room body.toImage >>=
      fun body =>
      optional? (Block.ofImage? room) (imageOfBlock? increment) >>= fun increment =>
        some (Instruction.loop check body increment)) = _
    rw [Check.ofImage?_toImage check storable.1.1 kept.1.1,
      Block.ofImage?_toImage body storable.1.2 kept.1.2,
      optional?_imageOfBlock? increment storable.2 kept.2]
    simp [within_bind, within_and]
  | .iterCreate key value =>
    refine Instruction.ofImage?_record (by decide) (fun room => ?_) room
    change (textField? (some (optionalText key)) >>=
      fun key => some (Instruction.iterCreate key value)) = _
    rw [textField?_optionalText]
    simp
  | .objectAccess member className =>
    refine Instruction.ofImage?_record (by decide) (fun room => ?_) room
    change (textField? (some (optionalText member)) >>=
      fun member => textField? (some (optionalText className)) >>=
      fun className => some (Instruction.objectAccess member className)) = _
    rw [textField?_optionalText, textField?_optionalText]
    simp
  | .try body handler var =>
    simp only [Instruction.isStorable, Bool.and_eq_true] at storable
    simp only [Instruction.inner, List.all_append, Bool.and_eq_true] at kept
    refine Instruction.ofImage?_record (by decide) (fun room => ?_) room
    change (Block.ofImage? room body.toImage >>= fun body => Block.ofImage? room handler.toImage >>=
      fun handler =>
      some (Instruction.try body handler var)) = _
    rw [Block.ofImage?_toImage body storable.1.1 kept.1,
      Block.ofImage?_toImage handler storable.1.2 kept.2]
    simp [within_bind, within_and]
  | .flow kind value =>
    refine Instruction.ofImage?_record (by decide) (fun room => ?_) room
    change (FlowKind.ofImage? room (.string kind.name) >>=
      fun kind => some (Instruction.flow kind value)) = _
    rw [FlowKind.ofImage?_name]
    simp

end

/-! ## Images are printable -/

mutual

theorem Block.isPrintable_toImage (b : Block) : IsPrintable b.toImage := by
  match b with
  | .mk source steps =>
    have := arePrintable_imagesOfSteps steps
    simp [Block.toImage, IsPrintable, AreFieldsPrintable, isPrintable_optionalText, this]

theorem arePrintable_imagesOfSteps (steps : List Step) : ArePrintable (imagesOfSteps steps) := by
  match steps with
  | [] => simp [imagesOfSteps, ArePrintable]
  | step :: rest =>
    rw [imagesOfSteps, ArePrintable]
    exact ⟨Step.isPrintable_toImage step, arePrintable_imagesOfSteps rest⟩

theorem arePrintable_imagesOfBlocks (blocks : List Block) :
    ArePrintable (imagesOfBlocks blocks) := by
  match blocks with
  | [] => simp [imagesOfBlocks, ArePrintable]
  | block :: rest =>
    rw [imagesOfBlocks, ArePrintable]
    exact ⟨Block.isPrintable_toImage block, arePrintable_imagesOfBlocks rest⟩

theorem isPrintable_imageOfBlock? (block : Option Block) : IsPrintable (imageOfBlock? block) := by
  match block with
  | none => simp [imageOfBlock?, IsPrintable]
  | some block => exact Block.isPrintable_toImage block

theorem Step.isPrintable_toImage (s : Step) : IsPrintable s.toImage := by
  match s with
  | .mk line i =>
    have number : IsNumber (toString line.toNat).toList := isNumber_toString (line.toNat : Int)
    have := Instruction.isPrintable_toImage i
    simp only [Step.toImage, IsPrintable, AreFieldsPrintable, and_true]
    exact ⟨number, this⟩

theorem Check.isPrintable_toImage (c : Check) : IsPrintable c.toImage := by
  match c with
  | .predicate setup name negated =>
    have := Block.isPrintable_toImage setup
    simp [Check.toImage, variantRecord, IsPrintable, AreFieldsPrintable, this]
  | .and parts =>
    have := arePrintable_imagesOfChecks parts
    simp [Check.toImage, IsPrintable, AreFieldsPrintable, this]
  | .or parts =>
    have := arePrintable_imagesOfChecks parts
    simp [Check.toImage, IsPrintable, AreFieldsPrintable, this]
  | .iterNext => simp [Check.toImage, IsPrintable]
  | .always => simp [Check.toImage, IsPrintable]

theorem arePrintable_imagesOfChecks (parts : List Check) : ArePrintable (imagesOfChecks parts) := by
  match parts with
  | [] => simp [imagesOfChecks, ArePrintable]
  | part :: rest =>
    rw [imagesOfChecks, ArePrintable]
    exact ⟨Check.isPrintable_toImage part, arePrintable_imagesOfChecks rest⟩

theorem Instruction.isPrintable_toImage (i : Instruction) : IsPrintable i.toImage := by
  match i with
  | .createFrame | .index | .iterDestroy => simp [Instruction.toImage, IsPrintable]
  | .literal value =>
    simp [Instruction.toImage, IsPrintable, AreFieldsPrintable, Literal.isPrintable_toImage]
  | .interpolate fragments =>
    simp [Instruction.toImage, IsPrintable, AreFieldsPrintable, arePrintable_fragments]
  | .get _ | .operate _ | .call _ | .objectNew _ | .flow _ _ =>
    simp [Instruction.toImage, variantRecord, IsPrintable, AreFieldsPrintable]
  | .iterCreate _ _ | .objectAccess _ _ =>
    simp [Instruction.toImage, variantRecord, IsPrintable, AreFieldsPrintable,
      isPrintable_optionalText]
  | .assign target op =>
    have := Block.isPrintable_toImage target
    simp [Instruction.toImage, variantRecord, IsPrintable, AreFieldsPrintable,
      isPrintable_optionalText, this]
  | .assignMulti targets op =>
    have := arePrintable_imagesOfBlocks targets
    simp [Instruction.toImage, variantRecord, IsPrintable, AreFieldsPrintable,
      isPrintable_optionalText, this]
  | .closure body | .bind _ body _ _ =>
    have := Block.isPrintable_toImage body
    simp [Instruction.toImage, variantRecord, IsPrintable, AreFieldsPrintable, this]
  | .decide check body other | .loop check body other =>
    have condition := Check.isPrintable_toImage check
    have inner := Block.isPrintable_toImage body
    have last := isPrintable_imageOfBlock? other
    simp [Instruction.toImage, variantRecord, IsPrintable, AreFieldsPrintable, condition,
      inner, last]
  | .try body handler _ =>
    have inner := Block.isPrintable_toImage body
    have last := Block.isPrintable_toImage handler
    simp [Instruction.toImage, variantRecord, IsPrintable, AreFieldsPrintable, inner, last]

end

/-! ## Whole programs -/

namespace Program

/-- The document of a textual image. -/
theorem read?_toJson (p : Program) : read? p.toJson = some p.toImage := by
  refine read?_pretty ?_
  have := p.main.isPrintable_toImage
  simp [toImage, IsPrintable, AreFieldsPrintable, this]

/-- Whether the floats of a program are finite. -/
def hasFiniteFloats (p : Program) : Bool :=
  p.main.contents.all fun
    | .literal value => value.isFinite
    | _ => true

/-- Whether the floats of a program are read back from their texts. -/
def hasExactFloats (p : Program) : Bool :=
  p.main.contents.all fun
    | .literal value => value.isExact
    | _ => true

theorem hasKeptFloats {p : Program} (finite : p.hasFiniteFloats) (exact : p.hasExactFloats) :
    p.main.contents.all Instruction.hasKeptFloat := by
  rw [hasFiniteFloats, List.all_eq_true] at finite
  rw [hasExactFloats, List.all_eq_true] at exact
  rw [List.all_eq_true]
  intro i inside
  have first := finite i inside
  have second := exact i inside
  cases i with
  | literal value => rw [Instruction.hasKeptFloat, Bool.and_eq_true]; exact ⟨first, second⟩
  | _ => rfl

/-- A textual image is read back if it does not nest too deep, and not read at all otherwise. -/
theorem ofJson?_toJson {p : Program} (storable : p.isStorable) (finite : p.hasFiniteFloats)
    (exact : p.hasExactFloats) :
    ofJson? p.toJson = if p.toImage.nesting ≤ imageNesting then some p else none := by
  rw [isStorable, Bool.and_eq_true] at storable
  have read := p.main.ofImage?_toImage storable.2 (hasKeptFloats finite exact) 126
  rw [ofJson?, read?_toJson]
  change (Block.ofImage? 126 p.main.toImage >>= fun main => some (Program.mk p.name main)) = _
  have nesting : p.toImage.nesting = p.main.toImage.nesting + 1 := by simp [toImage]
  have fits : p.main.toImage.nesting ≤ 126 ↔ p.toImage.nesting ≤ imageNesting := by
    rw [nesting, imageNesting]
    omega
  rw [read, within_bind]
  simp only [fits]

/-- A program after it was written and read in one format after the other. -/
def reloaded (p : Program) (formats : List ProgramFormat) : Except ProgramError Program :=
  formats.foldlM (fun p format => decode (p.encode format) format) p

theorem decode_encode_binary {p : Program} (storable : p.isStorable) :
    decode (p.encode .binary) .binary = .ok p := by
  have read : ofBytes? p.toBytes = some p := ofBytes?_eq_some_iff.2 ⟨storable, List.prefix_rfl⟩
  rw [encode, decode, read]
  rfl

theorem decode_encode_json {p : Program} (read : ofJson? p.toJson = some p) :
    decode (p.encode .json) .json = .ok p := by
  have text : (Bytes.utf8 p.toJson).text? = some p.toJson := Bytes.fromUTF8?_eq_some_iff.2 rfl
  rw [encode, decode]
  simp only [text, read]
  rfl

/-- By induction on the formats: each of them gives the program back. -/
theorem reloaded_eq {p : Program} (storable : p.isStorable) (read : ofJson? p.toJson = some p)
    (formats : List ProgramFormat) : p.reloaded formats = .ok p := by
  induction formats with
  | nil => rfl
  | cons format rest ih =>
    have once : decode (p.encode format) format = .ok p := by
      cases format with
      | json => exact decode_encode_json read
      | binary => exact decode_encode_binary storable
    rw [reloaded, List.foldlM_cons, once]
    exact ih

/-- A textual image that nests at most 127 lists and objects is read as its program; one that nests
more is not read. What is read from it is what is read from the binary image, so that a program
stays the same however often it is written and read in the two formats. -/
theorem images_agree (p : Program) (storable : p.isStorable) (finite : p.hasFiniteFloats)
    (exact : p.hasExactFloats) :
    Json.read? p.toJson = some p.toImage ∧
      (p.toImage.nesting ≤ imageNesting → ofJson? p.toJson = some p ∧
        ∀ formats, p.reloaded formats = .ok p) ∧
        (imageNesting < p.toImage.nesting → ofJson? p.toJson = none) ∧
          ∀ q, ofJson? p.toJson = some q → ofBytes? p.toBytes = some q := by
  have binary : ofBytes? p.toBytes = some p := ofBytes?_eq_some_iff.2 ⟨storable, List.prefix_rfl⟩
  refine ⟨read?_toJson p, fun fits => ?_, fun deep => ?_, fun q read => ?_⟩
  · have read : ofJson? p.toJson = some p := by
      rw [ofJson?_toJson storable finite exact, if_pos fits]
    exact ⟨read, reloaded_eq storable read⟩
  · rw [ofJson?_toJson storable finite exact, if_neg (Nat.not_le.2 deep)]
  · rw [ofJson?_toJson storable finite exact] at read
    split at read
    · rw [binary, ← read]
    · cases read

/-- A loop over a condition, with a float, a negative integer and a text that needs escapes. -/
theorem images_of_loop_agree :
    let p : Program := ⟨"loop", .mk (some "loop.cs") [.mk 1 (.loop
      (.predicate (.mk none [.mk 1 (.literal (.float 0x3ff8000000000000))]) "true" true)
      (.mk none [.mk 2 (.literal (.int (-7))), .mk 3 (.literal (.str "é\n\""))]) none)]⟩
    p.isStorable ∧ p.hasFiniteFloats ∧ p.hasExactFloats ∧ p.toImage.nesting ≤ imageNesting ∧
      Json.read? p.toJson = some p.toImage ∧
        (p.toImage.nesting ≤ imageNesting → ofJson? p.toJson = some p ∧
          ∀ formats, p.reloaded formats = .ok p) ∧
          (imageNesting < p.toImage.nesting → ofJson? p.toJson = none) ∧
            ∀ q, ofJson? p.toJson = some q → ofBytes? p.toBytes = some q :=
  have storable := by decide +kernel
  have finite := by decide +kernel
  have exact := by decide +kernel
  ⟨storable, finite, exact, by decide +kernel, images_agree _ storable finite exact⟩

end Program

end CellScript
