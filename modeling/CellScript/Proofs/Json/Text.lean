import CellScript.Json.Printer
import CellScript.Proofs.Json.Number

/-!
# JSON texts are read back

The reader undoes the printer: a document that holds no broken string, and whose numbers are of the
grammar, is what its text is read as. Escapes are undone character by character; lists and objects
go along the recursion of the printer, with fuel for twice the characters that are left.

## Main definitions

* `Json.IsPrintable` — documents that have a text of their own.

## Main statements

* `Json.readPieces?_quote` — a string is read back from its escapes.
* `Json.read?_pretty` — a document is read back from its text.
-/

namespace CellScript.Json

/-! ## Strings -/

/-- Whether a piece stands for a character by itself. -/
def standsFor (piece : Piece) (c : Char) : Prop :=
  ∀ rest, joinPieces? (piece :: rest) = (joinPieces? rest).map (c :: ·)

theorem standsFor_char (c : Char) : standsFor (.char c) c := fun _ => rfl

/-- A unit below the surrogates stands for its character. -/
theorem standsFor_unit {c : Char} (h : c.toNat < 0xd800) : standsFor (.unit c.toNat) c := by
  intro rest
  have high : ¬(0xd800 ≤ c.toNat) := by omega
  have low : ¬(0xdc00 ≤ c.toNat) := by omega
  rw [joinPieces?.eq_def]
  simp [high, low, Char.ofNat_toNat]

theorem hexValue?_digitChar : ∀ d < 16, hexValue? (Nat.digitChar d) = some d := by decide

/-- A small number in four hexadecimal digits. -/
theorem readHex4?_small {n : Nat} (h : n < 0x10) (rest : List Char) :
    readHex4? ('0' :: '0' :: '0' :: ((Text.hexDigits n).toList ++ rest)) = some (n, rest) := by
  have zero : hexValue? '0' = some 0 := by decide
  rw [Text.hexDigits, String.toList_ofList, Nat.toDigits_of_lt_base h]
  simp [readHex4?, zero, hexValue?_digitChar n h]

theorem readHex4?_control {n : Nat} (low : 0x10 ≤ n) (h : n < 0x20) (rest : List Char) :
    readHex4? ('0' :: '0' :: ((Text.hexDigits n).toList ++ rest)) = some (n, rest) := by
  have zero : hexValue? '0' = some 0 := by decide
  have tens : n / 16 = 1 := by omega
  have ones := hexValue?_digitChar (n % 16) (by omega)
  have one := hexValue?_digitChar 1 (by decide)
  rw [Text.hexDigits, String.toList_ofList, Nat.toDigits_of_base_le (by decide) low, tens,
    Nat.toDigits_of_lt_base (by decide)]
  simp [readHex4?, zero, one, ones]
  omega

/-- Put a piece in front of those that were read. -/
def consPiece (piece : Piece) (read : List Piece × List Char) : List Piece × List Char :=
  (piece :: read.1, read.2)

theorem readPieces?_short (fuel : Nat) {e c : Char} (h : shortEscape? e = some c)
    (rest : List Char) :
    readPieces? (fuel + 1) ('\\' :: e :: rest) =
      (readPieces? fuel rest).map (consPiece (.char c)) := by
  have notUnit : e ≠ 'u' := by
    rintro rfl
    cases h
  rw [readPieces?, h]
  · cases readPieces? fuel rest <;> rfl
  · simpa using notUnit

theorem readPieces?_unit (fuel : Nat) {n : Nat} {cs rest : List Char}
    (h : readHex4? cs = some (n, rest)) :
    readPieces? (fuel + 1) ('\\' :: 'u' :: cs) =
      (readPieces? fuel rest).map (consPiece (.unit n)) := by
  rw [readPieces?, h]
  cases found : readPieces? fuel rest <;> simp [found, consPiece]

theorem readPieces?_plain (fuel : Nat) {c : Char} (quote : c ≠ '"') (backslash : c ≠ '\\')
    (large : 0x20 ≤ c.toNat) (rest : List Char) :
    readPieces? (fuel + 1) (c :: rest) = (readPieces? fuel rest).map (consPiece (.char c)) := by
  rw [readPieces?, if_neg (by omega)]
  · cases found : readPieces? fuel rest <;> simp [consPiece]
  all_goals simp [quote, backslash]

/-- One character is read back from its escape. -/
theorem readPieces?_quoteChar (c : Char) : ∃ piece, standsFor piece c ∧ ∀ fuel rest,
    readPieces? (fuel + 1) ((quoteChar c).toList ++ rest) =
      (readPieces? fuel rest).map (consPiece piece) := by
  unfold quoteChar
  split
  · exact ⟨_, standsFor_char _,
      fun fuel => readPieces?_short fuel (by decide : shortEscape? '"' = some '"')⟩
  · exact ⟨_, standsFor_char _,
      fun fuel => readPieces?_short fuel (by decide : shortEscape? '\\' = some '\\')⟩
  · exact ⟨_, standsFor_char _,
      fun fuel => readPieces?_short fuel (by decide : shortEscape? 'b' = some '\x08')⟩
  · exact ⟨_, standsFor_char _,
      fun fuel => readPieces?_short fuel (by decide : shortEscape? 'f' = some '\x0c')⟩
  · exact ⟨_, standsFor_char _,
      fun fuel => readPieces?_short fuel (by decide : shortEscape? 'n' = some '\n')⟩
  · exact ⟨_, standsFor_char _,
      fun fuel => readPieces?_short fuel (by decide : shortEscape? 'r' = some '\r')⟩
  · exact ⟨_, standsFor_char _,
      fun fuel => readPieces?_short fuel (by decide : shortEscape? 't' = some '\t')⟩
  · next quote backslash _ _ _ _ _ =>
    split
    · next small =>
      refine ⟨_, standsFor_unit (show c.toNat < 0xd800 by omega), fun fuel rest => ?_⟩
      rw [String.toList_append, List.append_assoc]
      exact readPieces?_unit fuel (readHex4?_small small rest)
    · split
      · next low high =>
        refine ⟨_, standsFor_unit (show c.toNat < 0xd800 by omega), fun fuel rest => ?_⟩
        rw [String.toList_append, List.append_assoc]
        exact readPieces?_unit fuel (readHex4?_control (by omega) high rest)
      · next high =>
        refine ⟨_, standsFor_char c, fun fuel rest => ?_⟩
        have alone : c.toString.toList = [c] := by simp
        rw [alone, List.singleton_append]
        exact readPieces?_plain fuel quote backslash (by omega) rest

/-- The text of a string between its quotes. -/
def escaped (cs : List Char) : List Char :=
  cs.flatMap fun c => (quoteChar c).toList

/-- A string is read back from its escapes. -/
theorem readPieces?_escaped (cs : List Char) {fuel : Nat} (h : cs.length < fuel)
    (rest : List Char) :
    ∃ pieces, readPieces? fuel (escaped cs ++ '"' :: rest) = some (pieces, rest) ∧
      joinPieces? pieces = some cs := by
  induction cs generalizing fuel with
  | nil =>
    obtain ⟨fuel, rfl⟩ := Nat.exists_eq_succ_of_ne_zero (Nat.ne_zero_of_lt h)
    exact ⟨[], rfl, rfl⟩
  | cons c cs ih =>
    obtain ⟨fuel, rfl⟩ := Nat.exists_eq_succ_of_ne_zero (Nat.ne_zero_of_lt h)
    obtain ⟨piece, stands, read⟩ := readPieces?_quoteChar c
    obtain ⟨pieces, readRest, joined⟩ := ih (Nat.lt_of_succ_lt_succ h)
    refine ⟨piece :: pieces, ?_, by rw [stands, joined, Option.map_some]⟩
    rw [escaped, List.flatMap_cons, List.append_assoc, read, ← escaped, readRest]
    rfl

theorem length_quoteChar_pos (c : Char) : 0 < (quoteChar c).toList.length := by
  unfold quoteChar
  split
  any_goals decide
  split
  · simp
  · split <;> simp

theorem length_le_escaped (cs : List Char) : cs.length ≤ (escaped cs).length := by
  induction cs with
  | nil => exact Nat.le_refl 0
  | cons c cs ih =>
    have := length_quoteChar_pos c
    rw [escaped, List.flatMap_cons, List.length_append, List.length_cons, ← escaped]
    omega

theorem toList_quote (s : String) : (quote s).toList = '"' :: (escaped s.toList ++ ['"']) := by
  simp [quote, escaped, List.flatMap_map]

/-! ## Blanks -/

/-- The reader skips a character between values. -/
def isBlank (c : Char) : Bool :=
  c = ' ' || c = '\n' || c = '\t' || c = '\r'

theorem skipBlanks_append {blanks : List Char} (h : ∀ c ∈ blanks, isBlank c) (cs : List Char) :
    skipBlanks (blanks ++ cs) = skipBlanks cs :=
  List.dropWhile_append_of_pos h

theorem skipBlanks_of_not_isBlank {c : Char} (h : isBlank c = false) (cs : List Char) :
    skipBlanks (c :: cs) = c :: cs :=
  List.dropWhile_cons_of_neg (Bool.eq_false_iff.1 h)

theorem isBlank_of_mem_newline {depth : Nat} : ∀ c ∈ (newline depth).toList, isBlank c := by
  intro c h
  rw [newline, String.toList_append, List.mem_append] at h
  obtain line | blank := h
  · rw [List.mem_singleton.1 (show c ∈ ['\n'] from line)]
    rfl
  · rw [String.toList_ofList, List.mem_replicate] at blank
    rw [blank.2]
    rfl

theorem readValue?_blanks {blanks : List Char} (h : ∀ c ∈ blanks, isBlank c) (fuel : Nat)
    (cs : List Char) :
    readValue? fuel (blanks ++ cs) = readValue? fuel cs := by
  cases fuel with
  | zero => rfl
  | succ fuel => simp only [readValue?, skipBlanks_append h]

theorem readFields?_blanks {blanks : List Char} (h : ∀ c ∈ blanks, isBlank c) (fuel : Nat)
    (cs : List Char) :
    readFields? fuel (blanks ++ cs) = readFields? fuel cs := by
  cases fuel with
  | zero => rfl
  | succ fuel => simp only [readFields?, skipBlanks_append h]

/-! ## Documents -/

mutual

/-- Whether a document has a text of its own: it names no half of a surrogate pair, and its numbers
are numbers. -/
def IsPrintable : Json → Prop
  | .null | .bool _ | .string _ => True
  | .number text => IsNumber text.toList
  | .brokenString => False
  | .array items => ArePrintable items
  | .object fields => AreFieldsPrintable fields

/-- Whether all of several documents have texts of their own. -/
def ArePrintable : List Json → Prop
  | [] => True
  | item :: rest => IsPrintable item ∧ ArePrintable rest

/-- Whether the values of all fields have texts of their own. -/
def AreFieldsPrintable : List (String × Json) → Prop
  | [] => True
  | (_, value) :: rest => IsPrintable value ∧ AreFieldsPrintable rest

end

/-- Whether a number can start with a character. -/
def startsNumber (c : Char) : Bool :=
  c == '-' || c.isDigit

theorem IsNumber.starts {cs : List Char} (h : IsNumber cs) :
    ∃ c rest, cs = c :: rest ∧ startsNumber c := by
  obtain ⟨sign, _, rfl, hs, whole, _, _, rfl, hw, _, _⟩ := h
  obtain ⟨c, digits, rfl, hc⟩ := hw.1.cons
  obtain rfl | rfl := hs
  · exact ⟨'-', _, rfl, rfl⟩
  · exact ⟨c, _, rfl, by rw [startsNumber, hc, Bool.or_true]⟩

theorem not_isBlank_of_startsNumber {c : Char} (h : startsNumber c) : isBlank c = false := by
  rw [Bool.eq_false_iff]
  intro blank
  simp only [isBlank, Bool.or_eq_true, decide_eq_true_iff] at blank
  obtain ((rfl | rfl) | rfl) | rfl := blank <;> exact absurd h (by decide)

/-- What starts like a number is read as one. -/
theorem readValue?_of_startsNumber (fuel : Nat) {c : Char} (h : startsNumber c) (cs : List Char) :
    readValue? (fuel + 1) (c :: cs) = (readNumber? (c :: cs)).map fun (text, rest) =>
      (.number text, rest) := by
  rw [readValue?, skipBlanks_of_not_isBlank (not_isBlank_of_startsNumber h)]
  split
  case h_7 => rfl
  all_goals
    next same =>
    cases same
    exact absurd h (by decide)

theorem readValue?_number (fuel : Nat) {text : String} (hn : IsNumber text.toList)
    {rest : List Char} (h : endsNumber rest) :
    readValue? (fuel + 1) (text.toList ++ rest) = some (.number text, rest) := by
  obtain ⟨c, cs, start, lead⟩ := hn.starts
  have read := readNumber?_append hn h
  rw [start, List.cons_append] at read ⊢
  rw [readValue?_of_startsNumber fuel lead, read, ← start, String.ofList_toList]
  rfl

/-- A string is read back after its opening quote. -/
theorem exists_pieces_quote (s : String) (after : List Char) :
    ∃ rest pieces, (quote s).toList ++ after = '"' :: rest ∧
      readPieces? (rest.length + 1) rest = some (pieces, after) ∧
      joinPieces? pieces = some s.toList := by
  have short : s.toList.length < (escaped s.toList ++ '"' :: after).length + 1 := by
    have := length_le_escaped s.toList
    rw [List.length_append]
    omega
  obtain ⟨pieces, read, joined⟩ := readPieces?_escaped s.toList short after
  refine ⟨_, pieces, ?_, read, joined⟩
  rw [toList_quote, List.cons_append, List.append_assoc, List.singleton_append]

theorem readValue?_quote (fuel : Nat) (s : String) (after : List Char) :
    readValue? (fuel + 1) ((quote s).toList ++ after) = some (.string s, after) := by
  obtain ⟨rest, pieces, text, read, joined⟩ := exists_pieces_quote s after
  rw [text, readValue?, skipBlanks_of_not_isBlank (by decide)]
  simp only [read, joined, Option.map_some, String.ofList_toList]

theorem readItems?_blanks {blanks : List Char} (h : ∀ c ∈ blanks, isBlank c) (fuel : Nat)
    (cs : List Char) :
    readItems? fuel (blanks ++ cs) = readItems? fuel cs := by
  cases fuel with
  | zero => rfl
  | succ fuel => simp only [readItems?, readValue?_blanks h]

/-! ### Layout -/

/-- What stands between two items or fields at some depth. -/
def separator (depth : Nat) : String :=
  "," ++ newline depth

theorem toList_separator (depth : Nat) :
    (separator depth).toList = ',' :: (newline depth).toList := by
  rw [separator, String.toList_append]
  rfl

theorem toList_bracketed (opening closing : String) (depth : Nat) {items : List String}
    (h : items ≠ []) :
    (bracketed opening closing depth items).toList =
      opening.toList ++
        ((newline (depth + 1)).toList ++ (((separator (depth + 1)).intercalate items).toList ++
        ((newline depth).toList ++ closing.toList))) := by
  rw [bracketed, if_neg (by simpa using h)]
  simp only [String.toList_append, List.append_assoc, separator]

/-- The brackets and the line break before the items take more than the items do. -/
theorem length_bracketed {opening closing : String} {depth : Nat} {items : List String}
    (h : items ≠ []) (open1 : opening.toList.length = 1) (close1 : closing.toList.length = 1) :
    (bracketed opening closing depth items).toList.length =
      ((separator (depth + 1)).intercalate items).toList.length +
      (newline (depth + 1)).toList.length +
        (newline depth).toList.length + 2 := by
  rw [toList_bracketed _ _ _ h]
  simp only [List.length_append, open1, close1]
  omega

theorem endsNumber_newline (depth : Nat) (rest : List Char) :
    endsNumber ((newline depth).toList ++ rest) := by
  rw [newline, String.toList_append]
  rfl

theorem endsNumber_separator (depth : Nat) (rest : List Char) :
    endsNumber ((separator depth).toList ++ rest) := by
  rw [toList_separator]
  rfl

theorem starts_bracketed (opening closing : String) (depth : Nat) (items : List String) :
    ∃ cs, (bracketed opening closing depth items).toList = opening.toList ++ cs := by
  rw [bracketed]
  split
  · exact ⟨_, String.toList_append⟩
  · simp only [String.toList_append, List.append_assoc]
    exact ⟨_, rfl⟩

/-- The text of a value starts with what neither is skipped nor ends a list. -/
theorem starts_prettyAt {j : Json} (ok : IsPrintable j) (depth : Nat) :
    ∃ c cs, (prettyAt depth j).toList = c :: cs ∧ isBlank c = false ∧ c ≠ ']' := by
  cases j with
  | null => exact ⟨'n', ['u', 'l', 'l'], by simp [prettyAt], rfl, by decide⟩
  | bool b =>
    cases b with
    | true => exact ⟨'t', ['r', 'u', 'e'], by simp [prettyAt], rfl, by decide⟩
    | false => exact ⟨'f', ['a', 'l', 's', 'e'], by simp [prettyAt], rfl, by decide⟩
  | number text =>
    rw [IsPrintable] at ok
    obtain ⟨c, cs, start, lead⟩ := ok.starts
    refine ⟨c, cs, by rw [prettyAt, start], not_isBlank_of_startsNumber lead, ?_⟩
    rintro rfl
    exact absurd lead (by decide)
  | string s => exact ⟨'"', _, by rw [prettyAt, toList_quote], rfl, by decide⟩
  | brokenString =>
    rw [IsPrintable] at ok
    exact ok.elim
  | array items =>
    obtain ⟨cs, start⟩ := starts_bracketed "[" "]" depth (prettyItems (depth + 1) items)
    exact ⟨'[', cs, by rw [prettyAt, start]; rfl, rfl, by decide⟩
  | object fields =>
    obtain ⟨cs, start⟩ := starts_bracketed "\x7b" "\x7d" depth (prettyFields (depth + 1) fields)
    exact ⟨'\x7b', cs, by rw [prettyAt, start]; rfl, rfl, by decide⟩

/-- The text of items starts as that of the first of them. -/
theorem starts_prettyItems {items : List Json} (some : items ≠ []) (ok : ArePrintable items)
    (depth : Nat) (s : String) :
    ∃ c cs, (s.intercalate (prettyItems depth items)).toList = c :: cs ∧ isBlank c = false ∧
      c ≠ ']' := by
  cases items with
  | nil => exact absurd rfl some
  | cons item rest =>
    rw [ArePrintable] at ok
    obtain ⟨c, cs, start, visible, inside⟩ := starts_prettyAt ok.1 depth
    cases rest with
    | nil =>
      simp only [prettyItems, String.intercalate_singleton]
      exact ⟨c, cs, start, visible, inside⟩
    | cons next rest =>
      simp only [prettyItems, String.intercalate_cons_cons, String.toList_append, List.append_assoc,
        start, List.cons_append]
      exact ⟨c, _, rfl, visible, inside⟩

theorem starts_prettyFields {fields : List (String × Json)} (some : fields ≠ []) (depth : Nat)
    (s : String) :
    ∃ cs, (s.intercalate (prettyFields depth fields)).toList = '"' :: cs := by
  cases fields with
  | nil => exact absurd rfl some
  | cons field rest =>
    obtain ⟨name, value⟩ := field
    cases rest with
    | nil =>
      simp only [prettyFields, String.intercalate_singleton, String.toList_append, toList_quote,
        List.cons_append]
      exact ⟨_, rfl⟩
    | cons next rest =>
      simp only [prettyFields, String.intercalate_cons_cons, String.toList_append, toList_quote,
        List.cons_append, List.append_assoc]
      exact ⟨_, rfl⟩

/-! ### Reading what was laid out -/

/-- A list is read from the text of its items. -/
theorem readValue?_array {items : List Json} (some : items ≠ []) (ok : ArePrintable items)
    {depth fuel : Nat} {rest : List Char}
    (read : readItems? fuel
      (((separator (depth + 1)).intercalate (prettyItems (depth + 1) items)).toList ++
      ((newline depth).toList ++ ']' :: rest)) = Option.some (items, rest)) :
    readValue? (fuel + 1) ((prettyAt depth (.array items)).toList ++ rest) =
      Option.some (.array items, rest) := by
  have nonempty : prettyItems (depth + 1) items ≠ [] := by
    cases items with
    | nil => exact absurd rfl some
    | cons item rest => exact List.cons_ne_nil _ _
  obtain ⟨c, cs, start, visible, inside⟩ :=
      starts_prettyItems some ok (depth + 1) (separator (depth + 1))
  rw [start, List.cons_append] at read
  have text : (prettyAt depth (.array items)).toList ++ rest =
      '[' ::
        ((newline (depth + 1)).toList ++
          (c :: (cs ++ ((newline depth).toList ++ ']' :: rest)))) := by
    rw [prettyAt, toList_bracketed _ _ _ nonempty, start]
    simp
  rw [text, readValue?, skipBlanks_of_not_isBlank (by decide)]
  simp only [skipBlanks_append isBlank_of_mem_newline, skipBlanks_of_not_isBlank visible]
  split
  · next same =>
    cases same
    exact absurd rfl inside
  · rw [read]
    rfl

/-- An object is read from the text of its fields. -/
theorem readValue?_object {fields : List (String × Json)} (some : fields ≠ []) {depth fuel : Nat}
    {rest : List Char}
    (read : readFields? fuel
      (((separator (depth + 1)).intercalate (prettyFields (depth + 1) fields)).toList ++
      ((newline depth).toList ++ '\x7d' :: rest)) = Option.some (fields, rest)) :
    readValue? (fuel + 1) ((prettyAt depth (.object fields)).toList ++ rest) =
      Option.some (.object fields, rest) := by
  have nonempty : prettyFields (depth + 1) fields ≠ [] := by
    cases fields with
    | nil => exact absurd rfl some
    | cons field rest => exact List.cons_ne_nil _ _
  obtain ⟨cs, start⟩ := starts_prettyFields some (depth + 1) (separator (depth + 1))
  rw [start, List.cons_append] at read
  have text : (prettyAt depth (.object fields)).toList ++ rest =
      '\x7b' ::
        ((newline (depth + 1)).toList ++
          ('"' :: (cs ++ ((newline depth).toList ++ '\x7d' :: rest)))) := by
    rw [prettyAt, toList_bracketed _ _ _ nonempty, start]
    simp
  rw [text, readValue?, skipBlanks_of_not_isBlank (by decide)]
  simp only [skipBlanks_append isBlank_of_mem_newline,
    skipBlanks_of_not_isBlank (show isBlank '"' = false from rfl)]
  split
  · next same => cases same
  · rw [read]
    rfl

/-- One item is read, and then the end of the list. -/
theorem readItems?_last {item : Json} {fuel outer : Nat} {text rest : List Char}
    (read : readValue? fuel (text ++ ((newline outer).toList ++ ']' :: rest)) =
      some (item, (newline outer).toList ++ ']' :: rest)) :
    readItems? (fuel + 1) (text ++ ((newline outer).toList ++ ']' :: rest)) =
      some ([item], rest) := by
  rw [readItems?, read]
  simp only [Option.bind_eq_bind, Option.bind_some, skipBlanks_append isBlank_of_mem_newline,
    skipBlanks_of_not_isBlank (show isBlank ']' = false from rfl)]

/-- One item is read, and then those after it. -/
theorem readItems?_next {item : Json} {items : List Json} {fuel depth : Nat}
    {text after rest : List Char}
    (read : readValue? fuel (text ++ ((separator depth).toList ++ after)) =
      some (item, (separator depth).toList ++ after))
    (readRest : readItems? fuel after = some (items, rest)) :
    readItems? (fuel + 1) (text ++ ((separator depth).toList ++ after)) =
      some (item :: items, rest) := by
  rw [readItems?, read, toList_separator]
  simp only [Option.bind_eq_bind, Option.bind_some, List.cons_append,
    skipBlanks_of_not_isBlank (show isBlank ',' = false from rfl),
    readItems?_blanks isBlank_of_mem_newline, readRest]

theorem toList_colon : ": ".toList = [':', ' '] := by simp

theorem readValue?_blank (fuel : Nat) (cs : List Char) :
    readValue? fuel (' ' :: cs) = readValue? fuel cs :=
  @readValue?_blanks [' '] (fun c h => by rw [List.mem_singleton.1 h]; rfl) fuel cs

/-- One field is read, and then the end of the object. -/
theorem readFields?_last {name : String} {value : Json} {fuel outer : Nat} {text rest : List Char}
    (read : readValue? fuel (text ++ ((newline outer).toList ++ '\x7d' :: rest)) =
      some (value, (newline outer).toList ++ '\x7d' :: rest)) :
    readFields? (fuel + 1)
      ((quote name).toList ++
        (':' :: ' ' :: (text ++ ((newline outer).toList ++ '\x7d' :: rest)))) =
      some ([(name, value)], rest) := by
  obtain ⟨tail, pieces, quoted, named, joined⟩ :=
    exists_pieces_quote name (':' :: ' ' :: (text ++ ((newline outer).toList ++ '\x7d' :: rest)))
  rw [readFields?, quoted, skipBlanks_of_not_isBlank (by decide)]
  simp only [named, joined, Option.bind_eq_bind, Option.bind_some, String.ofList_toList,
    skipBlanks_of_not_isBlank (show isBlank ':' = false from rfl), readValue?_blank, read,
    skipBlanks_append isBlank_of_mem_newline,
    skipBlanks_of_not_isBlank (show isBlank '\x7d' = false from rfl)]

/-- One field is read, and then those after it. -/
theorem readFields?_next {name : String} {value : Json} {fields : List (String × Json)}
    {fuel depth : Nat} {text after rest : List Char}
    (read : readValue? fuel (text ++ ((separator depth).toList ++ after)) =
      some (value, (separator depth).toList ++ after))
    (readRest : readFields? fuel after = some (fields, rest)) :
    readFields? (fuel + 1)
      ((quote name).toList ++ (':' :: ' ' :: (text ++ ((separator depth).toList ++ after)))) =
      some ((name, value) :: fields, rest) := by
  obtain ⟨tail, pieces, quoted, named, joined⟩ :=
    exists_pieces_quote name (':' :: ' ' :: (text ++ ((separator depth).toList ++ after)))
  rw [readFields?, quoted, skipBlanks_of_not_isBlank (by decide)]
  simp only [named, joined, Option.bind_eq_bind, Option.bind_some, String.ofList_toList,
    skipBlanks_of_not_isBlank (show isBlank ':' = false from rfl), readValue?_blank, read]
  simp only [toList_separator, List.cons_append,
    skipBlanks_of_not_isBlank (show isBlank ',' = false from rfl),
    readFields?_blanks isBlank_of_mem_newline, readRest, Option.bind_some]

mutual

/-- A value is read back from its text. -/
theorem readValue?_prettyAt (j : Json) (ok : IsPrintable j) (depth : Nat) {fuel : Nat}
    {rest : List Char} (room : 2 * (prettyAt depth j).toList.length ≤ fuel) (h : endsNumber rest) :
    readValue? fuel ((prettyAt depth j).toList ++ rest) = some (j, rest) := by
  obtain ⟨c, cs, start, _⟩ := starts_prettyAt ok depth
  obtain ⟨fuel, rfl⟩ : ∃ n, fuel = n + 1 := by
    rw [start, List.length_cons] at room
    exact ⟨fuel - 1, by omega⟩
  match j with
  | .null => rw [prettyAt]; rfl
  | .bool true => rw [prettyAt]; rfl
  | .bool false => rw [prettyAt]; rfl
  | .number text =>
    rw [IsPrintable] at ok
    rw [prettyAt]
    exact readValue?_number fuel ok h
  | .string s =>
    rw [prettyAt]
    exact readValue?_quote fuel s rest
  | .brokenString =>
    rw [IsPrintable] at ok
    exact ok.elim
  | .array [] =>
    have text : (bracketed "[" "]" depth []).toList = ['[', ']'] := by simp [bracketed]
    rw [prettyAt, prettyItems, text]
    rfl
  | .array (item :: items) =>
    rw [IsPrintable] at ok
    refine readValue?_array (List.cons_ne_nil _ _) ok ?_
    refine readItems?_prettyItems (item :: items) (List.cons_ne_nil _ _) ok (depth + 1)
      depth rest ?_
    rw [prettyAt, length_bracketed (by simp [prettyItems]) (by simp) (by simp)] at room
    omega
  | .object [] =>
    have text : (bracketed "\x7b" "\x7d" depth []).toList = ['\x7b', '\x7d'] := by simp [bracketed]
    rw [prettyAt, prettyFields, text]
    rfl
  | .object (field :: fields) =>
    rw [IsPrintable] at ok
    refine readValue?_object (List.cons_ne_nil _ _) ?_
    refine readFields?_prettyFields (field :: fields) (List.cons_ne_nil _ _) ok (depth + 1)
      depth rest ?_
    rw [prettyAt, length_bracketed (by simp [prettyFields]) (by simp) (by simp)] at room
    omega

/-- Items are read back from their texts, up to the end of the list. -/
theorem readItems?_prettyItems (items : List Json) (some : items ≠ []) (ok : ArePrintable items)
    (depth outer : Nat) {fuel : Nat} (rest : List Char)
    (room : 2 * ((separator depth).intercalate (prettyItems depth items)).toList.length < fuel) :
    readItems? fuel (((separator depth).intercalate (prettyItems depth items)).toList ++
      ((newline outer).toList ++ ']' :: rest)) = Option.some (items, rest) := by
  obtain ⟨fuel, rfl⟩ : ∃ n, fuel = n + 1 := ⟨fuel - 1, by omega⟩
  match items with
  | [item] =>
    rw [ArePrintable] at ok
    simp only [prettyItems, String.intercalate_singleton] at room ⊢
    exact readItems?_last (readValue?_prettyAt item ok.1 depth (by omega) (endsNumber_newline _ _))
  | item :: next :: items =>
    rw [ArePrintable] at ok
    simp only [prettyItems, String.intercalate_cons_cons, String.toList_append, List.append_assoc,
      List.length_append] at room ⊢
    rw [← prettyItems] at room ⊢
    refine readItems?_next
      (readValue?_prettyAt item ok.1 depth (by omega) (endsNumber_separator _ _)) ?_
    exact readItems?_prettyItems (next :: items) (List.cons_ne_nil _ _) ok.2 depth outer rest (by
      rw [toList_separator, List.length_cons] at room
      omega)

/-- Fields are read back from their texts, up to the end of the object. -/
theorem readFields?_prettyFields (fields : List (String × Json)) (some : fields ≠ [])
    (ok : AreFieldsPrintable fields) (depth outer : Nat) {fuel : Nat} (rest : List Char)
    (room : 2 * ((separator depth).intercalate (prettyFields depth fields)).toList.length < fuel) :
    readFields? fuel (((separator depth).intercalate (prettyFields depth fields)).toList ++
      ((newline outer).toList ++ '\x7d' :: rest)) = Option.some (fields, rest) := by
  obtain ⟨fuel, rfl⟩ : ∃ n, fuel = n + 1 := ⟨fuel - 1, by omega⟩
  cases fields with
  | nil => exact absurd rfl some
  | cons field fields =>
    obtain ⟨name, value⟩ := field
    rw [AreFieldsPrintable] at ok
    cases fields with
    | nil =>
      simp only [prettyFields, String.intercalate_singleton, String.toList_append, toList_colon,
        List.length_append, List.length_cons, List.append_assoc, List.cons_append,
        List.nil_append] at room ⊢
      exact readFields?_last
        (readValue?_prettyAt value ok.1 depth (by omega) (endsNumber_newline _ _))
    | cons next fields =>
      obtain ⟨nextName, nextValue⟩ := next
      rw [prettyFields, prettyFields, String.intercalate_cons_cons, ← prettyFields] at room ⊢
      simp only [String.toList_append, toList_colon, List.length_append, List.length_cons,
        List.append_assoc, List.cons_append, List.nil_append] at room ⊢
      refine readFields?_next
        (readValue?_prettyAt value ok.1 depth (by omega) (endsNumber_separator _ _)) ?_
      exact readFields?_prettyFields ((nextName, nextValue) :: fields) (List.cons_ne_nil _ _)
        ok.2 depth outer rest (by
        rw [toList_separator, List.length_cons] at room
        omega)

end

/-- A document is read back from its text. -/
theorem read?_pretty {j : Json} (h : IsPrintable j) : read? j.pretty = some j := by
  have room : 2 * j.pretty.toList.length ≤ 2 * j.pretty.toList.length + 2 := Nat.le_add_right _ _
  have read := @readValue?_prettyAt j h 0 _ [] room rfl
  rw [List.append_nil, ← pretty] at read
  rw [read?, read]
  rfl

end CellScript.Json
