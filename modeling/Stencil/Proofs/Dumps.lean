import Stencil.Proofs.Listings

/-!
# Two forms of a dump

A template can be dumped as groups that are each followed by a space, with a line break after
every full row. The listing of the command has single spaces between the groups of a line
instead, and its last line always ends. Both are groups with something behind each of them, so
both are read back as the code. Row by row, the listing is the dump without the spaces at
the ends of its lines. Every template can be dumped, but only one without a slot in front of its
code can be listed.

A row is full if it has as many bytes as go on a line; if that number is not positive, no row
ever is. `rows_induction` cuts full rows off the code until a short one is left.
-/

namespace Stencil

namespace Listing

/-! ### Both forms as groups -/

/-- Groups without highlights. -/
def plain (following : Nat → List Char) (start : Nat) (bytes : List UInt8) : List Char :=
  groups (fun _ => false) following start bytes

/-- What follows a group of the dump. -/
def dumpGap (perLine : Int64) (index : Nat) : List Char :=
  ' ' :: (if Template.endsLine perLine index then ['\n'] else [])

/-- What follows a group of the listing. -/
def listGap (size : Nat) (perLine : Int64) (index : Nat) : List Char :=
  [separator size perLine index]

theorem toList_dump (template : Template) (perLine : Int64) :
    (template.dump perLine).toList = plain (dumpGap perLine) 0 template.code := by
  rw [Template.dump, String.toList_ofList]
  rfl

theorem flatMap_code_plain {template : Template} {perLine : Int64} {texts : List String}
    (listed : code template perLine false = some texts) :
    texts.flatMap String.toList =
      plain (listGap template.code.length perLine) 0 template.code := by
  rcases exists_marks? listed with ⟨marks, marked⟩
  exact flatMap_code listed marked

theorem isGap_dumpGap (perLine : Int64) (index : Nat) :
    ∀ character ∈ dumpGap perLine index, isGap character = true := by
  rw [dumpGap]
  split <;> simp [isGap]

theorem isGap_listGap (size : Nat) (perLine : Int64) (index : Nat) :
    ∀ character ∈ listGap size perLine index, isGap character = true := by
  simp [listGap, isGap_separator]

theorem words_plain {following : Nat → List Char} (present : ∀ index, following index ≠ [])
    (gaps : ∀ index, ∀ character ∈ following index, isGap character = true) (start : Nat)
    (bytes : List UInt8) :
    words (plain following start bytes) = bytes.map Hexadecimal.byteDigits := by
  rw [plain, words_groups present gaps, ← List.zipIdx_map_fst start bytes, List.map_map]
  simp [group, Function.comp_def]

theorem plain_cons (following : Nat → List Char) (start : Nat) (byte : UInt8)
    (bytes : List UInt8) :
    plain following start (byte :: bytes) =
      Hexadecimal.byteDigits byte ++ (following start ++ plain following (start + 1) bytes) :=
  groups_cons _ following start byte bytes

theorem plain_append (following : Nat → List Char) (start : Nat) (first second : List UInt8) :
    plain following start (first ++ second) =
      plain following start first ++ plain following (start + first.length) second := by
  rw [plain, groups, List.zipIdx_append, List.flatMap_append]
  rfl

theorem plain_shift {following other : Nat → List Char} {distance : Nat}
    (shifted : ∀ index, following (index + distance) = other index) (start : Nat)
    (bytes : List UInt8) :
    plain following (start + distance) bytes = plain other start bytes := by
  induction bytes generalizing start with
  | nil => rfl
  | cons byte bytes ih =>
      rw [plain_cons, plain_cons, shifted, Nat.add_right_comm, ih]

/-! ### Rows -/

/-- The bytes do not fill a row. -/
def Short (perLine : Int64) (bytes : List UInt8) : Prop :=
  0 < perLine.toInt → (bytes.length : Int) < perLine.toInt

/-- The bytes are a full row. -/
def Full (perLine : Int64) (row : List UInt8) : Prop :=
  0 < perLine.toInt ∧ (row.length : Int) = perLine.toInt

theorem rows_induction (perLine : Int64) {motive : List UInt8 → Prop}
    (short : ∀ bytes, Short perLine bytes → motive bytes)
    (full : ∀ row rest, Full perLine row → motive rest → motive (row ++ rest))
    (bytes : List UInt8) : motive bytes := by
  induction size : bytes.length using Nat.strong_induction_on generalizing bytes with
  | _ count ih =>
      by_cases isShort : Short perLine bytes
      · exact short bytes isShort
      · simp only [Short, not_forall, not_lt] at isShort
        rcases isShort with ⟨positive, enough⟩
        rw [← List.take_append_drop perLine.toInt.toNat bytes]
        apply full
        · refine ⟨positive, ?_⟩
          rw [List.length_take]
          omega
        · apply ih _ _ _ rfl
          rw [List.length_drop]
          omega

theorem endsLine_iff (perLine : Int64) (index : Nat) :
    Template.endsLine perLine index = true ↔
      0 < perLine.toInt ∧ (index + 1) % perLine.toInt.toNat = 0 := by
  simp [Template.endsLine, Int64.lt_iff_toInt_lt]

theorem endsLine_of_lt {perLine : Int64} {index : Nat}
    (early : 0 < perLine.toInt → (index : Int) + 1 < perLine.toInt) :
    Template.endsLine perLine index = false := by
  rw [Bool.eq_false_iff, ne_eq, endsLine_iff]
  rintro ⟨positive, divides⟩
  have before := early positive
  rw [Nat.mod_eq_of_lt (by omega)] at divides
  omega

theorem endsLine_of_eq {perLine : Int64} {index : Nat} (last : (index : Int) + 1 = perLine.toInt) :
    Template.endsLine perLine index = true := by
  rw [endsLine_iff]
  refine ⟨by omega, ?_⟩
  rw [← last]
  exact Nat.mod_self (index + 1)

theorem endsLine_add {perLine : Int64} {row : List UInt8} (full : Full perLine row) (index : Nat) :
    Template.endsLine perLine (index + row.length) = Template.endsLine perLine index := by
  rcases full with ⟨positive, length_eq⟩
  rw [Bool.eq_iff_iff, endsLine_iff, endsLine_iff, ← length_eq, Int.toNat_natCast,
    Nat.add_right_comm, Nat.add_mod_right]

/-! ### The lines of both forms -/

/-- Groups with a space after each of them. -/
def spaced (bytes : List UInt8) : List Char :=
  bytes.flatMap fun byte => Hexadecimal.byteDigits byte ++ [' ']

/-- Groups with single spaces between them. -/
def joined (bytes : List UInt8) : List Char :=
  [' '].intercalate (bytes.map Hexadecimal.byteDigits)

theorem plain_eq_spaced {following : Nat → List Char} {start : Nat} {bytes : List UInt8}
    (spaces : ∀ index, index < start + bytes.length → following index = [' ']) :
    plain following start bytes = spaced bytes := by
  induction bytes generalizing start with
  | nil => rfl
  | cons byte bytes ih =>
      rw [List.length_cons] at spaces
      have later : plain following (start + 1) bytes = spaced bytes := by
        apply ih
        intro index inside
        apply spaces
        omega
      rw [plain_cons, later, spaces start (by omega)]
      simp [spaced]

theorem joined_cons_cons (byte next : UInt8) (bytes : List UInt8) :
    joined (byte :: next :: bytes) =
      Hexadecimal.byteDigits byte ++ ' ' :: joined (next :: bytes) := by
  rw [joined, List.map_cons, List.map_cons, List.intercalate_cons_cons, List.append_assoc]
  rfl

theorem joined_concat (front : List UInt8) (last : UInt8) :
    joined (front ++ [last]) = spaced front ++ Hexadecimal.byteDigits last := by
  induction front with
  | nil => simp [joined, spaced]
  | cons byte front ih =>
      rw [List.cons_append, joined, List.map_cons, List.intercalate_cons_of_ne_nil (by simp),
        ← joined, ih]
      simp [spaced]

theorem spaced_eq_joined {bytes : List UInt8} (present : bytes ≠ []) :
    spaced bytes = joined bytes ++ [' '] := by
  rcases List.eq_nil_or_concat' bytes with rfl | ⟨front, last, rfl⟩
  · exact absurd rfl present
  · rw [joined_concat]
    simp [spaced]

theorem plain_line {following : Nat → List Char} {front : List UInt8}
    (spaces : ∀ index, index < front.length → following index = [' ']) (last : UInt8) :
    plain following 0 (front ++ [last]) = joined (front ++ [last]) ++ following front.length := by
  have first : plain following 0 front = spaced front := by
    apply plain_eq_spaced
    simpa using spaces
  rw [plain_append, first, plain_cons, joined_concat, Nat.zero_add, List.append_assoc]
  exact congrArg _ (congrArg _ (List.append_nil _))

theorem separator_of_endsLine {perLine : Int64} {index : Nat}
    (ends : Template.endsLine perLine index = true) (size : Nat) :
    separator size perLine index = '\n' := by
  simp [separator, ends]

theorem separator_last (perLine : Int64) (index : Nat) :
    separator (index + 1) perLine index = '\n' := by
  simp [separator]

theorem separator_of_not_endsLine {perLine : Int64} {index size : Nat}
    (inside : Template.endsLine perLine index = false) (before : index + 1 < size) :
    separator size perLine index = ' ' := by
  have notLast : index + 1 ≠ size := by omega
  simp [separator, inside, notLast]

section Rows

variable {perLine : Int64} {row bytes : List UInt8}

theorem ne_nil_of_full (full : Full perLine row) : row ≠ [] := by
  rintro rfl
  have length_eq := full.2
  have positive := full.1
  rw [List.length_nil] at length_eq
  omega

theorem exists_last_of_full (full : Full perLine row) :
    ∃ front last, row = front ++ [last] ∧ (front.length : Int) + 1 = perLine.toInt := by
  rcases List.eq_nil_or_concat' row with rfl | ⟨front, last, rfl⟩
  · exact absurd rfl (ne_nil_of_full full)
  · refine ⟨front, last, rfl, ?_⟩
    have length_eq := full.2
    rw [List.length_append, List.length_singleton] at length_eq
    omega

theorem dump_of_short (short : Short perLine bytes) :
    plain (dumpGap perLine) 0 bytes = spaced bytes := by
  apply plain_eq_spaced
  intro index inside
  have within : Template.endsLine perLine index = false := by
    apply endsLine_of_lt
    intro positive
    have := short positive
    omega
  simp [dumpGap, within]

theorem dump_of_full (full : Full perLine row) (rest : List UInt8) :
    plain (dumpGap perLine) 0 (row ++ rest) =
      spaced row ++ '\n' :: plain (dumpGap perLine) 0 rest := by
  have first : plain (dumpGap perLine) 0 row = spaced row ++ ['\n'] := by
    rcases exists_last_of_full full with ⟨front, last, rfl, length_eq⟩
    have spaces : ∀ index, index < front.length → dumpGap perLine index = [' '] := by
      intro index inside
      have within := endsLine_of_lt (fun _ => (by omega : (index : Int) + 1 < perLine.toInt))
      simp [dumpGap, within]
    rw [plain_line spaces, spaced_eq_joined (by simp), dumpGap, endsLine_of_eq length_eq,
      List.append_assoc]
    rfl
  have shifted : ∀ index, dumpGap perLine (index + row.length) = dumpGap perLine index := by
    intro index
    rw [dumpGap, endsLine_add full, dumpGap]
  rw [plain_append, first, plain_shift shifted, List.append_assoc]
  rfl

theorem listing_of_short (short : Short perLine bytes) (present : bytes ≠ []) :
    plain (listGap bytes.length perLine) 0 bytes = joined bytes ++ ['\n'] := by
  rcases List.eq_nil_or_concat' bytes with rfl | ⟨front, last, rfl⟩
  · exact absurd rfl present
  · rw [Short, List.length_append, List.length_singleton] at short
    have spaces : ∀ index, index < front.length →
        listGap (front ++ [last]).length perLine index = [' '] := by
      intro index inside
      have within : Template.endsLine perLine index = false := by
        apply endsLine_of_lt
        intro positive
        have := short positive
        omega
      rw [listGap, separator_of_not_endsLine within (by simpa using inside)]
    rw [plain_line spaces, listGap, List.length_append, List.length_singleton, separator_last]

theorem listing_of_full (full : Full perLine row) (rest : List UInt8) :
    plain (listGap (row ++ rest).length perLine) 0 (row ++ rest) =
      joined row ++ '\n' :: plain (listGap rest.length perLine) 0 rest := by
  have first : plain (listGap (row ++ rest).length perLine) 0 row = joined row ++ ['\n'] := by
    rcases exists_last_of_full full with ⟨front, last, rfl, length_eq⟩
    have spaces : ∀ index, index < front.length →
        listGap (front ++ [last] ++ rest).length perLine index = [' '] := by
      intro index inside
      have within := endsLine_of_lt (fun _ => (by omega : (index : Int) + 1 < perLine.toInt))
      rw [listGap, separator_of_not_endsLine within]
      simp only [List.length_append, List.length_singleton]
      omega
    rw [plain_line spaces, listGap, separator_of_endsLine (endsLine_of_eq length_eq)]
  have shifted : ∀ index, listGap (row ++ rest).length perLine (index + row.length) =
      listGap rest.length perLine index := by
    intro index
    have sameEnd : (index + row.length + 1 == row.length + rest.length) =
        (index + 1 == rest.length) := by
      rw [Bool.eq_iff_iff, beq_iff_eq, beq_iff_eq]
      omega
    rw [listGap, listGap, separator, separator, endsLine_add full, List.length_append, sameEnd]
  rw [plain_append, first, plain_shift shifted, List.append_assoc]
  rfl

end Rows

/-! ### From the dump to the listing -/

/-- The text without the spaces in front of its line breaks. -/
def tightened : List Char → List Char
  | [] => []
  | ' ' :: '\n' :: rest => '\n' :: tightened rest
  | character :: rest => character :: tightened rest

/-- The text with a line break in place of a space at its end. -/
def closed (text : List Char) : List Char :=
  if text.getLast? = some ' ' then text.dropLast ++ ['\n'] else text

theorem tightened_cons {character : Char} (notSpace : character ≠ ' ') (rest : List Char) :
    tightened (character :: rest) = character :: tightened rest := by
  rw [tightened]
  simp [notSpace]

theorem tightened_space {next : Char} (notNewline : next ≠ '\n') (rest : List Char) :
    tightened (' ' :: next :: rest) = ' ' :: tightened (next :: rest) := by
  rw [tightened]
  simp [notNewline]

theorem tightened_word {word : List Char} (noSpace : ' ' ∉ word) (rest : List Char) :
    tightened (word ++ rest) = word ++ tightened rest := by
  induction word with
  | nil => rfl
  | cons character word ih =>
      rw [List.mem_cons, not_or] at noSpace
      rw [List.cons_append, tightened_cons (Ne.symm noSpace.1), ih noSpace.2]
      rfl

theorem exists_head_of_joined (byte : UInt8) (bytes : List UInt8) :
    ∃ first tail, joined (byte :: bytes) = first :: tail ∧ first ≠ '\n' := by
  have notNewline : Hexadecimal.digit (byte.toNat / 16) ≠ '\n' := by
    intro same
    apply not_mem_byteDigits (by decide : ¬IsVisible '\n') byte
    rw [← same]
    exact List.mem_cons_self
  cases bytes with
  | nil => exact ⟨_, _, List.intercalate_singleton, notNewline⟩
  | cons next bytes => exact ⟨_, _, joined_cons_cons byte next bytes, notNewline⟩

theorem tightened_joined (bytes : List UInt8) (rest : List Char) :
    tightened (joined bytes ++ rest) = joined bytes ++ tightened rest := by
  have noSpace := not_mem_byteDigits (by decide : ¬IsVisible ' ')
  induction bytes with
  | nil => rfl
  | cons byte bytes ih =>
      cases bytes with
      | nil =>
          rw [joined, List.map_singleton, List.intercalate_singleton, tightened_word (noSpace byte)]
      | cons next bytes =>
          rcases exists_head_of_joined next bytes with ⟨first, tail, joined_eq, notNewline⟩
          rw [joined_cons_cons, List.append_assoc, tightened_word (noSpace byte), List.cons_append,
            joined_eq, List.cons_append, tightened_space notNewline, ← List.cons_append,
            ← joined_eq, ih, List.append_assoc]
          rfl

theorem closed_append_newline (text rest : List Char) :
    closed (text ++ '\n' :: rest) = text ++ '\n' :: closed rest := by
  rcases List.eq_nil_or_concat' rest with rfl | ⟨front, last, rfl⟩
  · simp [closed]
  · have moved : text ++ '\n' :: (front ++ [last]) = (text ++ '\n' :: front) ++ [last] := by simp
    rw [closed, closed, moved, List.getLast?_concat, List.getLast?_concat, List.dropLast_concat,
      List.dropLast_concat]
    split <;> simp

theorem closed_tightened_dump (perLine : Int64) (bytes : List UInt8) :
    closed (tightened (plain (dumpGap perLine) 0 bytes)) =
      plain (listGap bytes.length perLine) 0 bytes := by
  induction bytes using rows_induction perLine with
  | short bytes short =>
      by_cases present : bytes = []
      · rw [present]
        rfl
      · rw [dump_of_short short, spaced_eq_joined present, tightened_joined,
          listing_of_short short present]
        simp [closed, tightened]
  | full row rest full ih =>
      rw [dump_of_full full, spaced_eq_joined (ne_nil_of_full full), List.append_assoc,
        tightened_joined, listing_of_full full, ← ih, ← closed_append_newline]
      rfl

/-! ### Lines -/

theorem newline_not_mem_spaced (bytes : List UInt8) : '\n' ∉ spaced bytes := by
  have noNewline := not_mem_byteDigits (by decide : ¬IsVisible '\n')
  simp [spaced, noNewline]

theorem newline_not_mem_joined (bytes : List UInt8) : '\n' ∉ joined bytes := by
  by_cases present : bytes = []
  · simp [joined, present]
  · have noNewline := newline_not_mem_spaced bytes
    rw [spaced_eq_joined present, List.mem_append, not_or] at noNewline
    exact noNewline.1

theorem bytes?_spaced (bytes : List UInt8) : bytes? (spaced bytes) = some bytes := by
  have text_eq : plain (fun _ => [' ']) 0 bytes = spaced bytes := plain_eq_spaced (by simp)
  rw [← text_eq]
  exact bytes?_groups (by simp) (by simp [isGap]) 0 bytes

theorem words_joined (bytes : List UInt8) :
    words (joined bytes) = bytes.map Hexadecimal.byteDigits := by
  induction bytes with
  | nil => rfl
  | cons byte bytes ih =>
      cases bytes with
      | nil =>
          have alone : (Hexadecimal.byteDigits byte).splitOnP isGap =
              [Hexadecimal.byteDigits byte] :=
            List.splitOnP_eq_singleton (isGap_group false byte)
          rw [joined, List.map_singleton, List.intercalate_singleton, words, alone]
          rfl
      | cons next bytes =>
          rw [joined_cons_cons, List.map_cons, ← ih]
          exact words_append_word (group_ne_nil false byte) (isGap_group false byte)
            (List.cons_ne_nil ' ' []) (by simp [isGap]) _

/-- Each line of the dump holds the bytes of a row. -/
theorem lines_dump {perLine : Int64} (positive : 0 < perLine.toInt) (bytes : List UInt8) :
    ((plain (dumpGap perLine) 0 bytes).splitOn '\n').map bytes? =
      (List.range (bytes.length / perLine.toInt.toNat + 1)).map fun row =>
        some ((bytes.drop (row * perLine.toInt.toNat)).take perLine.toInt.toNat) := by
  induction bytes using rows_induction perLine with
  | short bytes short =>
      have small : bytes.length < perLine.toInt.toNat := by
        have := short positive
        omega
      rw [dump_of_short short, List.splitOn_eq_singleton (newline_not_mem_spaced bytes),
        List.map_singleton, bytes?_spaced, Nat.div_eq_of_lt small, Nat.zero_add, List.range_one,
        List.map_singleton, Nat.zero_mul, List.drop_zero, List.take_of_length_le small.le]
  | full row rest full ih =>
      have length_eq : perLine.toInt.toNat = row.length := by
        have := full.2
        omega
      rw [length_eq] at ih ⊢
      have count_eq : (row ++ rest).length / row.length = rest.length / row.length + 1 := by
        rw [List.length_append, Nat.add_div_left _ (by omega)]
      rw [dump_of_full full, List.splitOn_append_cons_self_of_not_mem (newline_not_mem_spaced row),
        List.map_cons, bytes?_spaced, count_eq, List.range_succ_eq_map, List.map_cons,
        List.map_map, Nat.zero_mul, List.drop_zero, List.take_left, ih]
      apply congrArg (some row :: ·)
      apply List.map_congr_left
      intro index _
      rw [Function.comp, Nat.succ_mul, Nat.add_comm, List.drop_length_add_append]

/--
The text consists of lines that all end, none of them empty. If the number of bytes to a line is
positive, all lines but the last have as many groups, and otherwise there is one line only.
-/
structure Lined (perLine : Int64) (text : List Char) (lines : List (List Char)) : Prop where
  split : text.splitOn '\n' = lines ++ [[]]
  present : lines ≠ []
  noneEmpty : [] ∉ lines
  single : perLine.toInt ≤ 0 → lines.length = 1
  full : 0 < perLine.toInt →
    ∀ line ∈ lines.dropLast, ((words line).length : Int) = perLine.toInt
  last : 0 < perLine.toInt →
    ∀ line ∈ lines.getLast?, 1 ≤ (words line).length ∧ ((words line).length : Int) ≤ perLine.toInt

theorem joined_ne_nil {bytes : List UInt8} (present : bytes ≠ []) : joined bytes ≠ [] := by
  rcases List.exists_cons_of_ne_nil present with ⟨byte, rest, rfl⟩
  rcases exists_head_of_joined byte rest with ⟨first, tail, joined_eq, _⟩
  rw [joined_eq]
  exact List.cons_ne_nil first tail

theorem lined_single {perLine : Int64} {bytes : List UInt8} (present : bytes ≠ [])
    (fitting : 0 < perLine.toInt → (bytes.length : Int) ≤ perLine.toInt) :
    Lined perLine (joined bytes ++ ['\n']) [joined bytes] where
  split := List.splitOn_append_cons_self_of_not_mem (newline_not_mem_joined bytes) []
  present := List.cons_ne_nil _ _
  noneEmpty := by
    rw [List.mem_singleton]
    exact Ne.symm (joined_ne_nil present)
  single := fun _ => rfl
  full := by simp
  last := by
    intro positive
    rw [List.getLast?_singleton]
    rintro _ ⟨⟩
    rw [words_joined, List.length_map]
    exact ⟨List.length_pos_iff.mpr present, fitting positive⟩

theorem lined_cons {perLine : Int64} {row : List UInt8} {text : List Char}
    {lines : List (List Char)} (full : Full perLine row) (lined : Lined perLine text lines) :
    Lined perLine (joined row ++ '\n' :: text) (joined row :: lines) where
  split := by
    rw [List.splitOn_append_cons_self_of_not_mem (newline_not_mem_joined row), lined.split]
    rfl
  present := List.cons_ne_nil _ _
  noneEmpty := by
    rw [List.mem_cons, not_or]
    exact ⟨Ne.symm (joined_ne_nil (ne_nil_of_full full)), lined.noneEmpty⟩
  single := by
    have positive := full.1
    omega
  full := by
    intro positive
    rw [List.dropLast_cons_of_ne_nil lined.present, List.forall_mem_cons, words_joined,
      List.length_map]
    exact ⟨full.2, lined.full positive⟩
  last := by
    intro positive
    rw [List.getLast?_cons_of_ne_nil lined.present]
    exact lined.last positive

theorem lined_listing (perLine : Int64) {bytes : List UInt8} (present : bytes ≠ []) :
    ∃ lines, Lined perLine (plain (listGap bytes.length perLine) 0 bytes) lines := by
  induction bytes using rows_induction perLine with
  | short bytes short =>
      rw [listing_of_short short present]
      exact ⟨_, lined_single present fun positive => (short positive).le⟩
  | full row rest full ih =>
      rw [listing_of_full full]
      by_cases restPresent : rest = []
      · rw [restPresent]
        exact ⟨_, lined_single (ne_nil_of_full full) fun _ => full.2.le⟩
      · rcases ih restPresent with ⟨lines, lined⟩
        exact ⟨_, lined_cons full lined⟩

theorem lowerCase_of_mem_byteDigits {byte : UInt8} {character : Char}
    (mem : character ∈ Hexadecimal.byteDigits byte) :
    character ∈ "0123456789abcdef".toList := by
  have table : ∀ value : Fin 16, Hexadecimal.digit value ∈ "0123456789abcdef".toList := by
    decide
  rcases Numeral.halves_lt byte with ⟨high, low⟩
  rw [Hexadecimal.byteDigits, List.mem_pair] at mem
  rcases mem with rfl | rfl
  · exact table ⟨_, high⟩
  · exact table ⟨_, low⟩

end Listing

/--
The dump of a template shows groups of two lower-case digits, which are read back as the code. It
breaks its line after every full row and nowhere else, so that each of its lines holds the bytes
of a row; without a positive number of bytes to a line it never does.

The command lists nothing of a template with a slot in front of its code. Otherwise its listing
without highlights shows the same groups. Nothing is listed of empty code. The listing of other
code is the dump without the spaces in front of its line breaks and with a line break in place of
a space at its end. All lines of the listing have as many groups as go on a line, except for the
last, which has at least one, or there is one line only; none is empty, and the last one ends too.
-/
theorem dumps_agree_and_read_back (template : Template) (perLine : Int64) :
    let dump := (template.dump perLine).toList
    let width := perLine.toInt.toNat
    Listing.bytes? dump = some template.code ∧
    (∀ word ∈ Listing.words dump,
      word.length = 2 ∧ ∀ character ∈ word, character ∈ "0123456789abcdef".toList) ∧
    (perLine.toInt ≤ 0 → '\n' ∉ dump) ∧
    (0 < perLine.toInt → (dump.splitOn '\n').map Listing.bytes? =
      (List.range (template.code.length / width + 1)).map fun row =>
        some ((template.code.drop (row * width)).take width)) ∧
    (∀ highlighted, Listing.code template perLine highlighted = none ↔
      ∃ slot ∈ template.slots, slot.toInt < 0) ∧
    ((∀ slot ∈ template.slots, 0 ≤ slot.toInt) →
      ∃ texts, Listing.code template perLine false = some texts ∧
        let listing := texts.flatMap String.toList
        Listing.bytes? listing = some template.code ∧
        Listing.words listing = Listing.words dump ∧
        (template.code = [] → listing = []) ∧
        (template.code ≠ [] → listing = Listing.closed (Listing.tightened dump) ∧
          ∃ lines, Listing.Lined perLine listing lines)) := by
  intro dump width
  have dump_eq : dump = Listing.plain (Listing.dumpGap perLine) 0 template.code :=
    Listing.toList_dump template perLine
  have dumpWords : Listing.words dump = template.code.map Hexadecimal.byteDigits := by
    rw [dump_eq]
    exact Listing.words_plain (by simp [Listing.dumpGap]) (Listing.isGap_dumpGap perLine) 0 _
  refine ⟨?_, ?_, ?_, ?_, Listing.code_eq_none_iff template perLine, ?_⟩
  · rw [dump_eq]
    exact Listing.bytes?_groups (by simp [Listing.dumpGap]) (Listing.isGap_dumpGap perLine) 0 _
  · rw [dumpWords, List.forall_mem_map]
    intro byte _
    exact ⟨rfl, fun _ => Listing.lowerCase_of_mem_byteDigits⟩
  · intro nonpositive
    have short : Listing.Short perLine template.code := by
      intro positive
      omega
    rw [dump_eq, Listing.dump_of_short short]
    exact Listing.newline_not_mem_spaced template.code
  · intro positive
    rw [dump_eq]
    exact Listing.lines_dump positive template.code
  · intro nonnegative
    rcases Listing.exists_code nonnegative perLine false with ⟨texts, listed⟩
    refine ⟨texts, listed, ?_⟩
    dsimp only
    rw [Listing.flatMap_code_plain listed]
    refine ⟨?_, ?_, ?_, ?_⟩
    · exact Listing.bytes?_groups (by simp [Listing.listGap]) (Listing.isGap_listGap _ perLine) 0 _
    · rw [dumpWords]
      exact Listing.words_plain (by simp [Listing.listGap]) (Listing.isGap_listGap _ perLine) 0 _
    · intro empty
      rw [empty]
      rfl
    · intro present
      rw [dump_eq, Listing.closed_tightened_dump]
      exact ⟨rfl, Listing.lined_listing perLine present⟩

/-- Three bytes in rows of two, and four bytes, which leave no row short. -/
theorem dumps_agree_and_read_back_rows_of_two :
    let short : Template := { code := [0x90, 0x0F, 0xFF] }
    let full : Template := { code := [0x90, 0x0F, 0xFF, 0x00] }
    short.dump 2 = "90 0f \nff " ∧ full.dump 2 = "90 0f \nff 00 \n" ∧
      (∃ texts, Listing.code short 2 false = some texts ∧
        texts.flatMap String.toList =
          Listing.closed (Listing.tightened "90 0f \nff ".toList)) ∧
      (∃ texts, Listing.code full 2 false = some texts ∧
        texts.flatMap String.toList =
          Listing.closed (Listing.tightened "90 0f \nff 00 \n".toList) ∧
        texts.flatMap String.toList = "90 0f\nff 00\n".toList ∧
        ∃ lines, Listing.Lined 2 (texts.flatMap String.toList) lines) ∧
      ("90 0f \nff 00 \n".toList.splitOn '\n').map Listing.bytes? =
        [some [0x90, 0x0F], some [0xFF, 0x00], some []] := by
  intro short full
  have shortDump : short.dump 2 = "90 0f \nff " := by
    decide +kernel
  have fullDump : full.dump 2 = "90 0f \nff 00 \n" := by
    decide +kernel
  rcases dumps_agree_and_read_back short 2 with ⟨_, _, _, _, _, shortListing⟩
  rcases dumps_agree_and_read_back full 2 with ⟨_, _, _, rows, _, fullListing⟩
  rw [shortDump] at shortListing
  rw [fullDump] at rows fullListing
  rcases shortListing (by simp [short]) with ⟨shortTexts, shortListed, _, _, _, shortLines⟩
  rcases fullListing (by simp [full]) with ⟨fullTexts, fullListed, _, _, _, fullLines⟩
  rcases shortLines (by decide) with ⟨shortClosed, _⟩
  rcases fullLines (by decide) with ⟨fullClosed, lined⟩
  exact ⟨shortDump, fullDump, ⟨shortTexts, shortListed, shortClosed⟩,
    ⟨fullTexts, fullListed, fullClosed, fullClosed.trans (by decide +kernel), lined⟩,
    (rows (by decide)).trans (by decide)⟩

/--
The offset of the slot wraps when the encodings are linked, so that it lies in front of the code.
The template can be dumped, but the command cannot list it, with highlights or without.
-/
theorem dump_without_listing :
    let template : Template := { code := [0x90, 0x90], slots := [-9223372036854775808] }
    Template.link
        [{ bytes := [0x90] }, { bytes := [0x90], slot := some 9223372036854775807 }] =
      .ok template ∧
    template.dump 8 = "90 90 " ∧
    ∀ perLine highlighted, Listing.code template perLine highlighted = none := by
  intro template
  refine ⟨by decide +kernel, by decide +kernel, ?_⟩
  intro perLine highlighted
  rw [Listing.code_eq_none_iff]
  exact ⟨-9223372036854775808, List.mem_cons_self, by decide⟩

end Stencil
