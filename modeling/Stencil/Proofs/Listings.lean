import Stencil.Proofs.Requests

/-!
# Reading listings

A listing is meant to be read: without its colors, it starts with the machine code in
two-digit groups, and a table of the slots may follow. This file gives a reader for each
part and shows that they read what was listed, whatever the length of the lines and
whether groups are highlighted or not.

So everything that a successful run leaves behind tells of the same machine code: the
file, the groups and the table of the slots, which holds what the code holds at the slots
and therefore the values that were asked for.
-/

namespace Stencil

namespace Listing

/-! ### Readers -/

def escape : Char := '\x1b'

/-- The text without color escapes, which end in the letter `m`; `inside` one of them or not. -/
def uncoloredFrom (inside : Bool) : List Char → List Char
  | [] => []
  | character :: rest =>
    if inside then uncoloredFrom (character != 'm') rest
    else if character = escape then uncoloredFrom true rest
    else character :: uncoloredFrom false rest

/-- The text without color escapes. -/
def uncolored (text : List Char) : List Char := uncoloredFrom false text

/-- The byte that a group of two hexadecimal digits stands for. -/
def byte? : List Char → Option UInt8
  | [high, low] =>
    match Hexadecimal.value? high, Hexadecimal.value? low with
    | some high, some low => some (UInt8.ofNat (16 * high + low))
    | _, _ => none
  | _ => none

def isGap (character : Char) : Bool := character == ' ' || character == '\n'

/-- What stands between the gaps of a text. -/
def words (text : List Char) : List (List Char) := (text.splitOnP isGap).filter (· ≠ [])

/-- The bytes of a text of two-digit groups. -/
def bytes? (text : List Char) : Option (List UInt8) := (words text).mapM byte?

/-- What the line of a slot says. -/
structure Entry where
  offset : Int
  /-- The number in base ten. -/
  value : Int
  /-- The number in base sixteen. -/
  bits : Nat
deriving DecidableEq

/-- The integer of which the characters are the text in base ten. -/
def decimal? (characters : List Char) : Option Int :=
  (Numeral.integer characters).toOption.filter fun value => (toString value).toList = characters

/-- The number in base sixteen, behind its mark, that stands in parentheses. -/
def hexadecimal? (characters : List Char) : Option Nat :=
  if characters.take 3 = ['(', '0', 'x'] ∧ characters.getLast? = some ')' then
    (Numeral.natural (characters.drop 1).dropLast).toOption
  else none

namespace Entry

/-- What a line says about the slot with the given number. -/
def ofLine? (index : Nat) (line : List Char) : Option Entry :=
  match line.splitOn ' ' with
  | [slot, number, offsetLabel, offset, valueLabel, value, bits] =>
    if slot = "slot".toList ∧ number = (toString index).toList ++ [':'] ∧
        offsetLabel = "offset".toList ∧ valueLabel = "value".toList then
      match decimal? offset, decimal? value, hexadecimal? bits with
      | some offset, some value, some bits => some { offset, value, bits }
      | _, _, _ => none
    else none
  | _ => none

/-- What the lines say about the slots from the given number on; nothing follows the last line. -/
def ofLines? (index : Nat) : List (List Char) → Option (List Entry)
  | [] => none
  | [last] => if last = [] then some [] else none
  | line :: lines =>
    match ofLine? index line, ofLines? (index + 1) lines with
    | some entry, some entries => some (entry :: entries)
    | _, _ => none

end Entry

/-- What a table says about the slots. -/
def entries? (table : List Char) : Option (List Entry) :=
  Entry.ofLines? 0 (table.splitOn '\n')

/-! ### Visible characters -/

/-- The character is ASCII and neither blank nor a control character. -/
def IsVisible (character : Char) : Prop :=
  32 < character.toNat ∧ character.toNat < 127

instance (character : Char) : Decidable (IsVisible character) :=
  inferInstanceAs (Decidable (_ ∧ _))

theorem isVisible_of_digits {base : Nat} {digits : List Char} {value : Nat}
    (run : Numeral.Digits base digits value) : ∀ character ∈ digits, IsVisible character := by
  intro character characterMem
  exact Lexer.visible_of_word (Numeral.words_of_digits run character characterMem)

theorem isVisible_nat (value : Nat) :
    ∀ character ∈ (toString value).toList, IsVisible character := by
  have characters : (toString value).toList = Nat.toDigits 10 value := String.toList_ofList
  rw [characters]
  exact isVisible_of_digits (Numeral.digits_decimal value)

theorem isVisible_int (value : Int) :
    ∀ character ∈ (toString value).toList, IsVisible character := by
  rcases Numeral.toString_eq_signedText value with ⟨negative, magnitude, _, text_eq⟩
  rw [text_eq, PatchValue.toList_signedText, List.forall_mem_append]
  refine ⟨?_, isVisible_nat magnitude⟩
  cases negative with
  | false => simp
  | true => simpa using (by decide : IsVisible '-')

theorem not_mem_of_visible {characters : List Char} {hidden : Char}
    (visible : ∀ character ∈ characters, IsVisible character) (isHidden : ¬IsVisible hidden) :
    hidden ∉ characters :=
  fun hiddenMem => isHidden (visible hidden hiddenMem)

theorem not_mem_byteDigits {hidden : Char} (isHidden : ¬IsVisible hidden) (byte : UInt8) :
    hidden ∉ Hexadecimal.byteDigits byte :=
  not_mem_of_visible (isVisible_of_digits (Numeral.digits_byte byte)) isHidden

/-! ### Reading the groups -/

/-- What deletes the sequences that highlight and keeps all text without an escape. -/
structure DropsHighlights (strip : List Char → List Char) : Prop where
  keeps : ∀ {text : List Char}, escape ∉ text → ∀ rest, strip (text ++ rest) = text ++ strip rest
  dropsOn : ∀ rest, strip (highlightOn ++ rest) = strip rest
  dropsOff : ∀ rest, strip (highlightOff ++ rest) = strip rest

theorem DropsHighlights.strip_group {strip : List Char → List Char} (drops : DropsHighlights strip)
    (highlighted : Bool) (byte : UInt8) (rest : List Char) :
    strip (group highlighted byte ++ rest) = Hexadecimal.byteDigits byte ++ strip rest := by
  have noEscape := not_mem_byteDigits (by decide : ¬IsVisible escape) byte
  cases highlighted with
  | false => exact drops.keeps noEscape rest
  | true =>
      rw [group, if_pos rfl, List.append_assoc, List.append_assoc, drops.dropsOn,
        drops.keeps noEscape, drops.dropsOff]

theorem uncolored_append {text : List Char} (plain : escape ∉ text) (rest : List Char) :
    uncolored (text ++ rest) = text ++ uncolored rest := by
  induction text with
  | nil => rfl
  | cons character text ih =>
      rw [List.mem_cons, not_or] at plain
      rw [List.cons_append, uncolored, uncoloredFrom, if_neg (by decide), if_neg (Ne.symm plain.1)]
      exact congrArg (character :: ·) (ih plain.2)

theorem dropsHighlights_uncolored : DropsHighlights uncolored where
  keeps := uncolored_append
  dropsOn _ := rfl
  dropsOff _ := rfl

/-- Two-digit groups, some of them highlighted, and what follows each of them. -/
def groups (highlighted : Nat → Bool) (following : Nat → List Char) (start : Nat)
    (bytes : List UInt8) : List Char :=
  (bytes.zipIdx start).flatMap fun (byte, index) =>
    group (highlighted index) byte ++ following index

theorem groups_cons (highlighted : Nat → Bool) (following : Nat → List Char) (start : Nat)
    (byte : UInt8) (bytes : List UInt8) :
    groups highlighted following start (byte :: bytes) =
      group (highlighted start) byte ++ (following start ++
        groups highlighted following (start + 1) bytes) := by
  rw [groups, List.zipIdx_cons, List.flatMap_cons, List.append_assoc]
  rfl

theorem flatMap_code {template : Template} {perLine : Int64} {highlighted : Bool}
    {texts : List String} (listed : code template perLine highlighted = some texts)
    {marks : Array Bool} (marked : marks? template = some marks) :
    texts.flatMap String.toList =
      groups (fun index => highlighted && marks.getD index false)
        (fun index => [separator template.code.length perLine index]) 0 template.code := by
  rw [code, marked, Option.map_some, Option.some.injEq] at listed
  subst listed
  simp [codeText, groups, List.flatMap_map]

theorem exists_marks? {template : Template} {perLine : Int64} {highlighted : Bool}
    {texts : List String} (listed : code template perLine highlighted = some texts) :
    ∃ marks, marks? template = some marks := by
  rcases Option.map_eq_some_iff.mp listed with ⟨marks, marked, _⟩
  exact ⟨marks, marked⟩

theorem isGap_separator (size : Nat) (perLine : Int64) (index : Nat) :
    isGap (separator size perLine index) = true := by
  rw [separator]
  split <;> rfl

theorem escape_not_mem_separator (size : Nat) (perLine : Int64) (index : Nat) :
    escape ∉ [separator size perLine index] := by
  rw [List.mem_singleton]
  intro same
  have gap := isGap_separator size perLine index
  rw [← same] at gap
  exact absurd gap (by decide)

theorem DropsHighlights.strip_groups {strip : List Char → List Char} (drops : DropsHighlights strip)
    {following : Nat → List Char} (noEscape : ∀ index, escape ∉ following index)
    (highlighted : Nat → Bool) (start : Nat) (bytes : List UInt8) (rest : List Char) :
    strip (groups highlighted following start bytes ++ rest) =
      groups (fun _ => false) following start bytes ++ strip rest := by
  induction bytes generalizing start with
  | nil => rfl
  | cons byte bytes ih =>
      rw [groups_cons, groups_cons, List.append_assoc, List.append_assoc, List.append_assoc,
        List.append_assoc, drops.strip_group, drops.keeps (noEscape start), ih]
      rfl

theorem value?_digit {value : Nat} (small : value < 16) :
    Hexadecimal.value? (Hexadecimal.digit value) = some value := by
  have table : ∀ digit : Fin 16, Hexadecimal.value? (Hexadecimal.digit digit) = some digit.val := by
    decide
  exact table ⟨value, small⟩

theorem byte?_byteDigits (byte : UInt8) : byte? (Hexadecimal.byteDigits byte) = some byte := by
  rcases Numeral.halves_lt byte with ⟨high, low⟩
  rw [Hexadecimal.byteDigits, byte?, value?_digit high, value?_digit low]
  dsimp only
  rw [Nat.div_add_mod, UInt8.ofNat_toNat]

theorem isGap_of_visible {character : Char} (visible : IsVisible character) :
    isGap character = false := by
  rw [isGap, Bool.or_eq_false_iff, beq_eq_false_iff_ne, beq_eq_false_iff_ne]
  constructor
  · rintro rfl
    exact absurd visible (by decide)
  · rintro rfl
    exact absurd visible (by decide)

theorem isGap_group (highlighted : Bool) (byte : UInt8) :
    ∀ character ∈ group highlighted byte, isGap character = false := by
  have digits : ∀ character ∈ Hexadecimal.byteDigits byte, isGap character = false := by
    intro character characterMem
    exact isGap_of_visible (isVisible_of_digits (Numeral.digits_byte byte) character characterMem)
  have on : ∀ character ∈ highlightOn, isGap character = false := by
    simpa using (by decide : highlightOn.all fun character => !isGap character)
  have off : ∀ character ∈ highlightOff, isGap character = false := by
    simpa using (by decide : highlightOff.all fun character => !isGap character)
  rw [group]
  split_ifs
  · simp only [List.forall_mem_append]
    exact ⟨⟨on, digits⟩, off⟩
  · exact digits

theorem group_ne_nil (highlighted : Bool) (byte : UInt8) : group highlighted byte ≠ [] := by
  cases highlighted <;> exact List.cons_ne_nil _ _

theorem words_append_gap {gap : List Char} (gaps : ∀ character ∈ gap, isGap character = true)
    (rest : List Char) : words (gap ++ rest) = words rest := by
  induction gap with
  | nil => rfl
  | cons character gap ih =>
      rw [List.forall_mem_cons] at gaps
      rw [← ih gaps.2, words, List.cons_append, List.splitOnP_cons_eq_if_modifyHead,
        if_pos gaps.1]
      rfl

theorem words_append_word {word gap : List Char} (wordPresent : word ≠ [])
    (noGap : ∀ character ∈ word, isGap character = false) (gapPresent : gap ≠ [])
    (gaps : ∀ character ∈ gap, isGap character = true) (rest : List Char) :
    words (word ++ (gap ++ rest)) = word :: words rest := by
  rcases List.exists_cons_of_ne_nil gapPresent with ⟨character, gap, rfl⟩
  rw [List.forall_mem_cons] at gaps
  rw [← words_append_gap gaps.2 rest, List.cons_append, words,
    List.splitOnP_append_cons_of_forall_mem noGap _ gaps.1, List.filter_cons,
    if_pos (by simpa using wordPresent), words]

section Gaps

variable {following : Nat → List Char} (present : ∀ index, following index ≠ [])
  (gaps : ∀ index, ∀ character ∈ following index, isGap character = true)

include present gaps

/-- The words of a text of groups are the groups, if gaps follow them. -/
theorem words_groups (highlighted : Nat → Bool) (start : Nat) (bytes : List UInt8) :
    words (groups highlighted following start bytes) =
      (bytes.zipIdx start).map fun (byte, index) => group (highlighted index) byte := by
  induction bytes generalizing start with
  | nil => rfl
  | cons byte bytes ih =>
      rw [groups_cons, List.zipIdx_cons, List.map_cons, ← ih,
        words_append_word (group_ne_nil _ _) (isGap_group _ _) (present start) (gaps start)]

theorem bytes?_groups (start : Nat) (bytes : List UInt8) :
    bytes? (groups (fun _ => false) following start bytes) = some bytes := by
  rw [bytes?, words_groups present gaps]
  induction bytes generalizing start with
  | nil => rfl
  | cons byte bytes ih =>
      have digits : byte? (group false byte) = some byte := byte?_byteDigits byte
      rw [List.zipIdx_cons, List.map_cons, List.mapM_cons, ih, digits]
      rfl

end Gaps

/-! ### Reading the table -/

/-- The words of the line for a slot. -/
def slotWords (index : Nat) (slot : Int64) (value : Int32) : List (List Char) :=
  ["slot".toList, (toString index).toList ++ [':'], "offset".toList, (toString slot.toInt).toList,
    "value".toList, (toString value.toInt).toList,
    '(' :: '0' :: 'x' :: (Hexadecimal.word value.toUInt32).toList ++ [')']]

theorem toList_slotLine (index : Nat) (slot : Int64) (value : Int32) :
    (slotLine index slot value).toList =
      [' '].intercalate (slotWords index slot value) ++ ['\n'] := by
  have line_eq : slotLine index slot value = "slot " ++ toString index ++ ": offset " ++
      toString slot.toInt ++ " value " ++ toString value.toInt ++ " (0x" ++
      Hexadecimal.word value.toUInt32 ++ ")\n" := rfl
  rw [line_eq]
  simp [slotWords]

theorem isVisible_of_all {text : List Char}
    (all : text.all (fun character => IsVisible character) = true) :
    ∀ character ∈ text, IsVisible character := by
  simpa using all

theorem isVisible_slotWords (index : Nat) (slot : Int64) (value : Int32) :
    ∀ word ∈ slotWords index slot value, ∀ character ∈ word, IsVisible character := by
  have bits : ∀ character ∈ (Hexadecimal.word value.toUInt32).toList, IsVisible character := by
    rw [Hexadecimal.word, String.toList_ofList]
    exact isVisible_of_digits (Numeral.digits_word value.toUInt32)
  have number := isVisible_nat index
  have offset := isVisible_int slot.toInt
  have decimal := isVisible_int value.toInt
  simp only [slotWords, List.forall_mem_cons, List.cons_append, List.forall_mem_append]
  exact ⟨isVisible_of_all (by decide), ⟨number, by decide, by simp⟩, isVisible_of_all (by decide),
    offset, isVisible_of_all (by decide), decimal,
    ⟨by decide, by decide, by decide, bits, by decide, by simp⟩, by simp⟩

theorem splitOn_line (index : Nat) (slot : Int64) (value : Int32) :
    ([' '].intercalate (slotWords index slot value)).splitOn ' ' = slotWords index slot value := by
  apply List.splitOn_intercalate
  · intro word wordMem
    exact not_mem_of_visible (isVisible_slotWords index slot value word wordMem) (by decide)
  · exact List.cons_ne_nil _ _

theorem decimal?_toString {value : Int} (lower : -2 ^ 63 ≤ value) (upper : value < 2 ^ 63) :
    decimal? (toString value).toList = some value := by
  have read : (.ok value : Except NumeralError Int).toOption = some value := rfl
  rw [decimal?, Numeral.integer_toString lower upper, read]
  simp

theorem hexadecimal?_word (word : UInt32) :
    hexadecimal? ('(' :: '0' :: 'x' :: (Hexadecimal.word word).toList ++ [')']) =
      some word.toNat := by
  have read : Numeral.natural ('0' :: 'x' :: (Hexadecimal.word word).toList) = .ok word.toNat := by
    rw [Hexadecimal.word, String.toList_ofList, Numeral.natural_eq_ok_iff]
    have small := word.toNat_lt
    exact ⟨Numeral.denotes_hexadecimal (Numeral.digits_word word), by omega⟩
  have isLast : ('(' :: '0' :: 'x' :: (Hexadecimal.word word).toList ++ [')']).getLast? =
      some ')' :=
    List.getLast?_concat
  have inner : (('(' :: '0' :: 'x' :: (Hexadecimal.word word).toList ++ [')']).drop 1).dropLast =
      '0' :: 'x' :: (Hexadecimal.word word).toList :=
    List.dropLast_concat
  rw [hexadecimal?, if_pos ⟨rfl, isLast⟩, inner, read]
  rfl

/-- What the table says about a slot. -/
def entryOf (slot : Int64) (value : Int32) : Entry :=
  { offset := slot.toInt, value := value.toInt, bits := value.toUInt32.toNat }

theorem ofLine?_slotWords (index : Nat) (slot : Int64) (value : Int32) :
    Entry.ofLine? index ([' '].intercalate (slotWords index slot value)) =
      some (entryOf slot value) := by
  have lower := value.le_toInt
  have upper := value.toInt_lt
  have offset := decimal?_toString slot.le_toInt slot.toInt_lt
  have decimal : decimal? (toString value.toInt).toList = some value.toInt :=
    decimal?_toString (by omega) (by omega)
  rw [Entry.ofLine?, splitOn_line]
  simp only [slotWords, and_self, if_true, offset, decimal, hexadecimal?_word]
  rfl

theorem mem_intercalate {separator character : Char} {words : List (List Char)}
    (characterMem : character ∈ [separator].intercalate words) :
    character = separator ∨ ∃ word ∈ words, character ∈ word := by
  induction words with
  | nil => simp at characterMem
  | cons word words ih =>
      cases words with
      | nil => exact .inr ⟨word, List.mem_cons_self, by simpa using characterMem⟩
      | cons next words =>
          rw [List.intercalate_cons_cons, List.append_assoc, List.mem_append, List.mem_append,
            List.mem_singleton] at characterMem
          rcases characterMem with inWord | isSeparator | later
          · exact .inr ⟨word, List.mem_cons_self, inWord⟩
          · exact .inl isSeparator
          · rcases ih later with isSeparator | ⟨other, otherMem, inOther⟩
            · exact .inl isSeparator
            · exact .inr ⟨other, List.mem_cons_of_mem _ otherMem, inOther⟩

theorem not_mem_line {hidden : Char} (isHidden : ¬IsVisible hidden) (notSpace : hidden ≠ ' ')
    (index : Nat) (slot : Int64) (value : Int32) :
    hidden ∉ [' '].intercalate (slotWords index slot value) := by
  intro hiddenMem
  rcases mem_intercalate hiddenMem with isSpace | ⟨word, wordMem, inWord⟩
  · exact notSpace isSpace
  · exact isHidden (isVisible_slotWords index slot value word wordMem hidden inWord)

/-- The lines of the slots from the given number on. -/
def table (index : Nat) (fields : List (Int64 × Int32)) : List Char :=
  ((fields.zipIdx index).map fun (field, index) => slotLine index field.1 field.2).flatMap
    String.toList

theorem table_cons (index : Nat) (field : Int64 × Int32) (fields : List (Int64 × Int32)) :
    table index (field :: fields) =
      [' '].intercalate (slotWords index field.1 field.2) ++ '\n' :: table (index + 1) fields := by
  rw [table, List.zipIdx_cons, List.map_cons, List.flatMap_cons, toList_slotLine,
    List.append_assoc]
  rfl

theorem escape_not_mem_table (index : Nat) (fields : List (Int64 × Int32)) :
    escape ∉ table index fields := by
  induction fields generalizing index with
  | nil => simp [table]
  | cons field fields ih =>
      rw [table_cons, List.mem_append, List.mem_cons, not_or, not_or]
      exact ⟨not_mem_line (by decide) (by decide) _ _ _, by decide, ih (index + 1)⟩

theorem ofLines?_table (index : Nat) (fields : List (Int64 × Int32)) :
    Entry.ofLines? index ((table index fields).splitOn '\n') =
      some (fields.map fun field => entryOf field.1 field.2) := by
  induction fields generalizing index with
  | nil => rfl
  | cons field fields ih =>
      have noNewline := not_mem_line (by decide : ¬IsVisible '\n') (by decide) index field.1 field.2
      have rest := ih (index + 1)
      rw [table_cons, List.splitOn_append_cons_self_of_not_mem noNewline]
      -- The reader takes a line for the last one if nothing follows, not even an empty line.
      cases later : (table (index + 1) fields).splitOn '\n' with
      | nil =>
          rw [later] at rest
          cases rest
      | cons line lines =>
          rw [later] at rest
          simp only [Entry.ofLines?, ofLine?_slotWords, rest, List.map_cons]

theorem entries?_table (fields : List (Int64 × Int32)) :
    entries? (table 0 fields) = some (fields.map fun field => entryOf field.1 field.2) :=
  ofLines?_table 0 fields

/-! ### Listings of a template -/

theorem bytes?_uncolored_code {template : Template} {perLine : Int64} {highlighted : Bool}
    {texts : List String} (listed : code template perLine highlighted = some texts)
    (rest : List Char) :
    ∃ dump, uncolored (texts.flatMap String.toList ++ rest) = dump ++ uncolored rest ∧
      bytes? dump = some template.code := by
  rcases exists_marks? listed with ⟨marks, marked⟩
  rw [flatMap_code listed marked,
    dropsHighlights_uncolored.strip_groups (escape_not_mem_separator _ _)]
  exact ⟨_, rfl, bytes?_groups (by simp) (by simp [isGap_separator]) 0 template.code⟩

theorem uncolored_slots {template : Template} {texts : List String}
    (listed : slots template = some texts) :
    ∃ values, template.values? = some values ∧
      uncolored (texts.flatMap String.toList) = table 0 (template.slots.zip values) := by
  rcases Option.map_eq_some_iff.mp listed with ⟨values, held, rfl⟩
  have plain := uncolored_append (escape_not_mem_table 0 (template.slots.zip values)) []
  rw [List.append_nil] at plain
  exact ⟨values, held, plain.trans (List.append_nil _)⟩

/-- The readers find the code in a complete listing and, behind it, the table of the slots. -/
theorem reads_listing {surroundings : Surroundings} {options : Options} {template : Template}
    (complete : (Command.listing surroundings options template).complete = true) :
    ∃ dump rest,
      uncolored ((Command.listing surroundings options template).texts.flatMap String.toList) =
        dump ++ rest ∧
      bytes? dump = some template.code ∧ (options.slots = false → rest = []) ∧
      (options.slots = true → ∃ values, template.values? = some values ∧
        rest = table 0 (template.slots.zip values)) := by
  rw [Command.listing] at complete ⊢
  rw [complete_ofParts_iff, List.mem_cons, not_or] at complete
  rcases Option.ne_none_iff_exists'.mp (Ne.symm complete.1) with ⟨texts, listed⟩
  rw [listed, ofParts, List.flatMap_append]
  cases asked : options.slots with
  | false =>
      rcases bytes?_uncolored_code listed [] with ⟨dump, uncolored_eq, dumped⟩
      exact ⟨dump, [], uncolored_eq, dumped, fun _ => rfl, by simp⟩
  | true =>
      have slotsComplete : none ≠ slots template := by simpa [asked] using complete.2
      rcases Option.ne_none_iff_exists'.mp slotsComplete.symm with ⟨lines, linesListed⟩
      rcases uncolored_slots linesListed with ⟨values, held, table_eq⟩
      rcases bytes?_uncolored_code listed (lines.flatMap String.toList) with
        ⟨dump, uncolored_eq, dumped⟩
      rw [table_eq] at uncolored_eq
      refine ⟨dump, _, ?_, dumped, by simp, fun _ => ⟨values, held, rfl⟩⟩
      simpa [linesListed, ofParts] using uncolored_eq

end Listing

/-! ### Successful runs -/

namespace Command

theorem eq_append_of_printText {limit : Option Nat} {printed text accepted : String}
    (complete : printText limit printed text = (accepted, none)) :
    accepted = printed ++ text := by
  cases limit with
  | none =>
      rw [printText, Prod.mk.injEq] at complete
      exact complete.1.symm
  | some limit =>
      simp only [printText] at complete
      split_ifs at complete with fits
      · exact (Prod.mk.inj complete).1.symm
      · cases (Prod.mk.inj complete).2

theorem toList_print {limit : Option Nat} {texts : List String} {printed output : String}
    (complete : print limit printed texts = (output, none)) :
    output.toList = printed.toList ++ texts.flatMap String.toList := by
  induction texts generalizing printed with
  | nil =>
      rw [print, Prod.mk.injEq] at complete
      simp [complete.1]
  | cons text texts ih =>
      rw [print] at complete
      split at complete
      · rename_i accepted accepted_eq
        rw [ih complete, eq_append_of_printText accepted_eq, String.toList_append,
          List.flatMap_cons, List.append_assoc]
      · cases complete

end Command

namespace Template

/-- The code of the template with the requested integers in its slots, if any are requested. -/
def PatchedWith (template : Template) (code : List UInt8) : Option (List Int) → Prop
  | none => code = template.code
  | some integers => template.patch (integers.map Int32.ofInt) = .ok code

end Template

namespace Listing

/-- The entry gives the slot and what the code holds there. -/
structure Entry.Describes (code : List UInt8) (slot : Int64) (entry : Entry) : Prop where
  offset : entry.offset = slot.toInt
  value : ∃ word, LittleEndian.read? code slot = some word ∧ entry.value = word.toInt32.toInt
  bits : (entry.bits : Int) = entry.value % 2 ^ 32

theorem natCast_toUInt32 (value : Int32) :
    (value.toUInt32.toNat : Int) = value.toInt % 2 ^ 32 := by
  have bounded := value.toBitVec.isLt
  have toNat_eq : value.toUInt32.toNat = value.toBitVec.toNat := rfl
  rw [toNat_eq, ← Int32.toInt_toBitVec, BitVec.toInt_eq_toNat_cond]
  split
  · omega
  · omega

theorem describes_entryOf {code : List UInt8} {slot : Int64} {value : Int32}
    (read : LittleEndian.read? code slot = some value.toUInt32) :
    Entry.Describes code slot (entryOf slot value) where
  offset := rfl
  value := ⟨value.toUInt32, read, by simp [entryOf]⟩
  bits := natCast_toUInt32 value

theorem describes_entries {template : Template} {values : List Int32}
    (held : template.values? = some values) :
    List.Forall₂ (Entry.Describes template.code) template.slots
        ((template.slots.zip values).map fun field => entryOf field.1 field.2) ∧
      ((template.slots.zip values).map fun field => entryOf field.1 field.2).map Entry.value =
        values.map Int32.toInt := by
  rw [Template.values?_eq_some_iff] at held
  generalize template.slots = slots at held
  induction held with
  | nil => exact ⟨.nil, rfl⟩
  | cons read rest ih =>
      exact ⟨.cons (describes_entryOf read) ih.1, congrArg (_ :: ·) ih.2⟩

end Listing

namespace Command

/-- A template that the command produces is the assembled one with the requested values. -/
theorem Produces.origin {files : FileSystem} {decoder : ValueFile.Decoder} {options : Options}
    {path : String} {produced : Template}
    (produces : Produces files decoder options path produced) :
    ∃ source template requested, files.read? path = some source ∧
      assemble source = .ok template ∧ Requests files decoder options requested ∧
      template.PatchedWith produced.code requested ∧ produced.slots = template.slots ∧
      ∀ integers, requested = some integers → template.Addressable →
        produced.values? = some (integers.map Int32.ofInt) := by
  cases produces with
  | @unpatched source _ read assembled asked =>
      rcases exists_requests asked with ⟨requested, requests, none_eq⟩
      rw [eq_comm, Option.map_eq_none_iff] at none_eq
      subst none_eq
      exact ⟨source, produced, none, read, assembled, requests, rfl, rfl, by simp⟩
  | @patched source template _ values read assembled asked applied =>
      rcases exists_requests asked with ⟨requested, requests, some_eq⟩
      rw [eq_comm, Option.map_eq_some_iff] at some_eq
      rcases some_eq with ⟨integers, rfl, rfl⟩
      refine ⟨source, template, some integers, read, assembled, requests, ?_, ?_, ?_⟩
      · rw [Template.PatchedWith, Template.patch, applied]
        rfl
      · rw [Template.apply_eq_ok applied, Template.slots_applyInPlace]
      · rintro _ ⟨⟩ addressable
        have placed := Template.placed_of_assemble assembled addressable
        exact Template.values?_of_apply placed.separated applied

end Command

/--
All that a successful run leaves behind tells of the same machine code, the assembled code
with the requested integers in its slots: the file, if one is asked for, holds it, and
without its colors the output starts with groups that are read back as this code. The
table of the slots follows if it is asked for, with an entry for each slot in order, which
gives the offset, the value that the code holds there, in both bases, and therefore the
integer that was requested, narrowed to 32 bits.
-/
theorem outputs_describe_code {surroundings : Surroundings} {options : Options} {path : String}
    (succeeded : (Command.run surroundings options path).error = none)
    (finished : (Command.run surroundings options path).brokenOff = false) :
    let report := Command.run surroundings options path
    ∃ source template requested code,
      surroundings.files.read? path = some source ∧ assemble source = .ok template ∧
      Command.Requests surroundings.files surroundings.decoder options requested ∧
      template.PatchedWith code requested ∧
      surroundings.files.Saved options.output code report.files ∧
      ∃ dump table, Listing.uncolored report.output.toList = dump ++ table ∧
        Listing.bytes? dump = some code ∧
        (options.slots = false → table = []) ∧
        (options.slots = true →
          ∃ entries, Listing.entries? table = some entries ∧
            List.Forall₂ (Listing.Entry.Describes code) template.slots entries ∧
            ∀ integers, requested = some integers → template.Addressable →
              entries.map Listing.Entry.value =
                integers.map fun integer => (Int32.ofInt integer).toInt) := by
  intro report
  cases Command.concludes_run surroundings options path with
  | stops error early reports =>
      have failed : report.error = some error := (reports surroundings.limit).error
      cases succeeded.symm.trans failed
  | emits produced produces reports =>
      rcases reports surroundings.limit with ⟨saved, printed, ended⟩
      rcases produces.origin with
        ⟨source, template, requested, read, assembled, requests, patched, slots_eq, held⟩
      have complete : (Command.listing surroundings options produced).complete = true := by
        simpa [succeeded, finished] using ended
      have accepted : Command.print surroundings.limit ""
          (Command.listing surroundings options produced).texts = (report.output, none) :=
        printed.trans (congrArg _ succeeded)
      have output_eq : report.output.toList =
          (Command.listing surroundings options produced).texts.flatMap String.toList := by
        simpa using Command.toList_print accepted
      rcases Listing.reads_listing complete with ⟨dump, table, listed, dumped, unlisted, tabled⟩
      rw [← output_eq] at listed
      refine ⟨source, template, requested, produced.code, read, assembled, requests, patched, saved,
        dump, table, listed, dumped, unlisted, ?_⟩
      intro asked
      rcases tabled asked with ⟨values, values_eq, rfl⟩
      rcases Listing.describes_entries values_eq with ⟨describes, entryValues⟩
      rw [← slots_eq]
      refine ⟨_, Listing.entries?_table _, describes, ?_⟩
      intro integers given addressable
      have requested_eq := held integers given addressable
      rw [values_eq, Option.some.injEq] at requested_eq
      rw [entryValues, requested_eq, List.map_map]
      rfl

/-- A patched slot on a terminal with two groups to a line. -/
theorem outputs_describe_code_highlighted :
    let files : FileSystem := { files := [("p.s", Lexer.bytesOf "push $1")] }
    let options : Options :=
      { output := "o", set := some ["0xFFFFFFFF"], wrap := 2, slots := true }
    let report := Command.run { files, terminal := true } options "p.s"
    report.error = none ∧ report.brokenOff = false ∧
      ∃ code dump table entries, files.Saved "o" code report.files ∧
        Listing.uncolored report.output.toList = dump ++ table ∧
        Listing.bytes? dump = some code ∧ Listing.entries? table = some entries ∧
        List.Forall₂ (Listing.Entry.Describes code) [1] entries := by
  intro files options report
  have succeeded : report.error = none := by
    decide +kernel
  have finished : report.brokenOff = false := by
    decide +kernel
  have sourceRead : files.read? "p.s" = some (Lexer.bytesOf "push $1") := by
    decide +kernel
  have known : assemble (Lexer.bytesOf "push $1") =
      .ok { code := [0x68, 1, 0, 0, 0], slots := [1] } := by
    decide +kernel
  rcases outputs_describe_code succeeded finished with ⟨source, template, requested, code, read,
    assembled, _, _, saved, dump, table, output_eq, dumped, _, listed⟩
  rw [sourceRead, Option.some.injEq] at read
  rw [← read, known, Except.ok.injEq] at assembled
  subst template
  rcases listed rfl with ⟨entries, entered, describes, _⟩
  exact ⟨succeeded, finished, code, dump, table, entries, saved, output_eq, dumped, entered,
    describes⟩

end Stencil
