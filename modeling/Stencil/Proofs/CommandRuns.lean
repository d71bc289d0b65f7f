import Stencil.Command.Run
import Stencil.Proofs.NumeralText
import Stencil.Proofs.Placement

/-!
# Runs of the command

A run of the command either stops before it has written or printed anything, or has
its template, saves the machine code and prints the listing. Which of the two
happens, and with which error or template, does not depend on how much the output
accepts. So a run that fails leaves no trace, unless the output is what failed. A
listing breaks off only at a slot outside the code, and no run leads to one as long as
the size of the code is a 64-bit integer.

A listing is printed in many small texts. Wherever the output stops to accept them,
it has accepted the first bytes of the listing, as many as it can: each text is
accepted as a whole or is the last one, and what was accepted before it is within
the limit.
-/

namespace Stencil

/-! ### Limited outputs -/

/-- All characters of the text are ASCII. -/
def IsAscii (text : String) : Prop :=
  text.toList.all (·.toNat < 128) = true

instance (text : String) : Decidable (IsAscii text) :=
  inferInstanceAs (Decidable (_ = true))

theorem isAscii_iff (text : String) :
    IsAscii text ↔ ∀ character ∈ text.toList, character.toNat < 128 := by
  simp [IsAscii]

theorem isAscii_append {first second : String} (firstAscii : IsAscii first)
    (secondAscii : IsAscii second) : IsAscii (first ++ second) := by
  rw [IsAscii, String.toList_append, List.all_append, firstAscii, secondAscii, Bool.and_self]

namespace Lexer

theorem length_bytesOf (text : String) : (bytesOf text).length = text.utf8ByteSize := by
  rw [bytesOf, Array.length_toList]
  exact String.size_toByteArray

theorem bytesOf_of_isAscii {text : String} (ascii : IsAscii text) :
    bytesOf text = text.toList.map byteOf := by
  have bytes_eq := bytesOf_ofList ((isAscii_iff text).mp ascii)
  rwa [String.ofList_toList] at bytes_eq

theorem bytesOf_take {text : String} (ascii : IsAscii text) (count : Nat) :
    bytesOf (String.ofList (text.toList.take count)) = (bytesOf text).take count := by
  have beginning : ∀ character ∈ text.toList.take count, character.toNat < 128 := by
    intro character characterMem
    exact (isAscii_iff text).mp ascii character (List.mem_of_mem_take characterMem)
  rw [bytesOf_ofList beginning, bytesOf_of_isAscii ascii, List.map_take]

end Lexer

namespace Command

open Lexer

/-- A text that does not fit on the output is cut where the limit is reached. -/
theorem printText_limited {limit : Nat} {printed text : String} (ascii : IsAscii text)
    (within : (bytesOf printed).length ≤ limit) :
    bytesOf (printText (some limit) printed text).1 = (bytesOf printed ++ bytesOf text).take limit ∧
      (printText (some limit) printed text).2 =
        if (bytesOf printed ++ bytesOf text).length ≤ limit then none else some .writeLimit := by
  rw [List.length_append, length_bytesOf, length_bytesOf]
  rw [length_bytesOf] at within
  have fits_iff : text.utf8ByteSize ≤ limit - printed.utf8ByteSize ↔
      printed.utf8ByteSize + text.utf8ByteSize ≤ limit := by
    omega
  by_cases fits : printed.utf8ByteSize + text.utf8ByteSize ≤ limit
  · have all_eq : (bytesOf printed ++ bytesOf text).take limit =
        bytesOf printed ++ bytesOf text := by
      apply List.take_of_length_le
      rwa [List.length_append, length_bytesOf, length_bytesOf]
    rw [printText, if_pos (fits_iff.mpr fits), if_pos fits, all_eq, bytesOf_append]
    exact ⟨rfl, rfl⟩
  · rw [printText, if_neg (mt fits_iff.mp fits), if_neg fits]
    have before_eq : (bytesOf printed).take limit = bytesOf printed := by
      apply List.take_of_length_le
      rwa [length_bytesOf]
    refine ⟨?_, rfl⟩
    rw [bytesOf_append, bytesOf_take ascii, List.take_append, before_eq, length_bytesOf]

/-- Without a limit all the texts are printed. -/
theorem print_unlimited (printed : String) (texts : List String) :
    bytesOf (print none printed texts).1 = bytesOf printed ++ texts.flatMap bytesOf ∧
      (print none printed texts).2 = none := by
  induction texts generalizing printed with
  | nil => simp [print]
  | cons text texts ih =>
      rcases ih (printed ++ text) with ⟨bytes_eq, error_eq⟩
      rw [bytesOf_append, List.append_assoc, ← List.flatMap_cons] at bytes_eq
      exact ⟨bytes_eq, error_eq⟩

/-- A limited output accepts the first bytes of all the texts, however they are cut. -/
theorem print_limited {limit : Nat} {texts : List String} (ascii : ∀ text ∈ texts, IsAscii text)
    {printed : String} (within : (bytesOf printed).length ≤ limit) :
    bytesOf (print (some limit) printed texts).1 =
        (bytesOf printed ++ texts.flatMap bytesOf).take limit ∧
      (print (some limit) printed texts).2 =
        if (bytesOf printed ++ texts.flatMap bytesOf).length ≤ limit then none
        else some .writeLimit := by
  induction texts generalizing printed with
  | nil => simp [print, within, List.take_of_length_le]
  | cons text texts ih =>
      rw [List.forall_mem_cons] at ascii
      rw [List.flatMap_cons, ← List.append_assoc, print]
      rcases printText_limited ascii.1 within with ⟨accepted_eq, error_eq⟩
      generalize printText (some limit) printed text = result at accepted_eq error_eq ⊢
      rcases result with ⟨accepted, error⟩
      dsimp only at accepted_eq error_eq
      by_cases fits : (bytesOf printed ++ bytesOf text).length ≤ limit
      · -- The text was accepted as a whole, so what is printed is still within the limit.
        rw [if_pos fits] at error_eq
        rw [List.take_of_length_le fits] at accepted_eq
        subst error_eq
        rw [← accepted_eq] at fits ⊢
        exact ih ascii.2 fits
      · -- The limit lies inside this text, so the texts behind it do not show.
        rw [if_neg fits] at error_eq
        subst error_eq
        have longer :
            ¬(bytesOf printed ++ bytesOf text ++ texts.flatMap bytesOf).length ≤ limit := by
          rw [List.length_append]
          omega
        rw [if_neg longer, List.take_append_of_le_length (Nat.le_of_not_le fits)]
        exact ⟨accepted_eq, rfl⟩

end Command

/-! ### Listings are ASCII -/

namespace Listing

theorem isAscii_of_digits {base : Nat} {digits : List Char} {value : Nat}
    (run : Numeral.Digits base digits value) : IsAscii (String.ofList digits) := by
  rw [isAscii_iff, String.toList_ofList]
  intro character characterMem
  exact (Numeral.words_of_digits run character characterMem).1

theorem isAscii_nat (value : Nat) : IsAscii (toString value) :=
  isAscii_of_digits (Numeral.digits_decimal value)

theorem isAscii_int (value : Int) : IsAscii (toString value) := by
  cases value with
  | ofNat magnitude => exact isAscii_nat magnitude
  | negSucc magnitude =>
      have minus : IsAscii "-" := by decide
      exact isAscii_append minus (isAscii_nat magnitude.succ)

theorem isAscii_group (highlighted : Bool) (byte : UInt8) :
    IsAscii (String.ofList (group highlighted byte)) := by
  have digits := isAscii_of_digits (Numeral.digits_byte byte)
  rw [group]
  split_ifs with marked
  · have start : IsAscii (String.ofList highlightOn) := by decide
    have stop : IsAscii (String.ofList highlightOff) := by decide
    rw [String.ofList_append, String.ofList_append]
    exact isAscii_append (isAscii_append start digits) stop
  · exact digits

theorem isAscii_separator (size : Nat) (perLine : Int64) (index : Nat) :
    IsAscii (String.ofList [separator size perLine index]) := by
  rw [separator]
  split_ifs with ends
  · decide
  · decide

theorem isAscii_code {template : Template} {perLine : Int64} {highlighted : Bool}
    {texts : List String} (listed : code template perLine highlighted = some texts) :
    ∀ text ∈ texts, IsAscii text := by
  rcases Option.map_eq_some_iff.mp listed with ⟨marks, _, rfl⟩
  intro text textMem
  rcases List.mem_map.mp textMem with ⟨⟨byte, index⟩, _, rfl⟩
  dsimp only
  rw [codeText, String.ofList_append]
  exact isAscii_append (isAscii_group _ byte) (isAscii_separator _ _ _)

theorem isAscii_slotLine (index : Nat) (slot : Int64) (value : Int32) :
    IsAscii (slotLine index slot value) := by
  have digits := isAscii_of_digits (Numeral.digits_word value.toUInt32)
  have number := isAscii_append (by decide : IsAscii "slot ") (isAscii_nat index)
  have offset := isAscii_append (isAscii_append number (by decide : IsAscii ": offset "))
    (isAscii_int slot.toInt)
  have decimal := isAscii_append (isAscii_append offset (by decide : IsAscii " value "))
    (isAscii_int value.toInt)
  have hexadecimal := isAscii_append (isAscii_append decimal (by decide : IsAscii " (0x")) digits
  exact isAscii_append hexadecimal (by decide)

theorem isAscii_slots {template : Template} {texts : List String}
    (listed : slots template = some texts) : ∀ text ∈ texts, IsAscii text := by
  rcases Option.map_eq_some_iff.mp listed with ⟨values, _, rfl⟩
  intro text textMem
  rcases List.mem_map.mp textMem with ⟨⟨⟨slot, value⟩, index⟩, _, rfl⟩
  exact isAscii_slotLine index slot value

theorem isAscii_ofParts {parts : List (Option (List String))}
    (ascii : ∀ texts, some texts ∈ parts → ∀ text ∈ texts, IsAscii text) :
    ∀ text ∈ (ofParts parts).texts, IsAscii text := by
  induction parts with
  | nil => simp [ofParts]
  | cons part parts ih =>
      cases part with
      | none => simp [ofParts]
      | some texts =>
          rw [ofParts, List.forall_mem_append]
          refine ⟨ascii texts List.mem_cons_self, ih ?_⟩
          intro later laterMem
          exact ascii later (List.mem_cons_of_mem _ laterMem)

end Listing

theorem Command.isAscii_listing (surroundings : Surroundings) (options : Options)
    (template : Template) :
    ∀ text ∈ (listing surroundings options template).texts, IsAscii text := by
  apply Listing.isAscii_ofParts
  intro texts textsMem
  rw [List.mem_cons] at textsMem
  rcases textsMem with isCode | isSlots
  · exact Listing.isAscii_code isCode.symm
  · split_ifs at isSlots with asked
    · exact Listing.isAscii_slots (List.mem_singleton.mp isSlots).symm
    · simp at isSlots

/-! ### Where listings break off -/

namespace Listing

theorem complete_ofParts_iff (parts : List (Option (List String))) :
    (ofParts parts).complete = true ↔ none ∉ parts := by
  induction parts with
  | nil => simp [ofParts]
  | cons part parts ih =>
      cases part with
      | none => simp [ofParts]
      | some texts => simpa [ofParts] using ih

theorem exists_markFrom? (marks : Array Bool) {index : Int} (nonnegative : 0 ≤ index)
    (count : Nat) : ∃ marked, markFrom? marks index count = some marked := by
  induction count generalizing marks index with
  | zero => exact ⟨marks, rfl⟩
  | succ count ih =>
      rw [markFrom?]
      split_ifs with before outside
      · omega
      · exact ih _ (by omega)
      · exact ⟨marks, rfl⟩

theorem markFrom?_eq_none_iff (marks : Array Bool) (index : Int) :
    markFrom? marks index LittleEndian.width = none ↔ index < 0 := by
  constructor
  · intro broken
    by_contra nonnegative
    rcases exists_markFrom? marks (not_lt.mp nonnegative) LittleEndian.width with ⟨_, marked_eq⟩
    cases broken.symm.trans marked_eq
  · intro negative
    have before : index < marks.size := by omega
    have width_eq : LittleEndian.width = 3 + 1 := rfl
    rw [width_eq, markFrom?, if_pos before, if_pos negative]

theorem foldlM_markFrom?_eq_none_iff (slots : List Int64) (marks : Array Bool) :
    slots.foldlM (fun marks slot => markFrom? marks slot.toInt LittleEndian.width) marks = none ↔
      ∃ slot ∈ slots, slot.toInt < 0 := by
  induction slots generalizing marks with
  | nil => simp
  | cons slot slots ih =>
      rw [List.foldlM_cons, List.exists_mem_cons_iff, ← markFrom?_eq_none_iff marks]
      cases markFrom? marks slot.toInt LittleEndian.width with
      | none => simp
      | some marked => simpa using ih marked

/-- The code can be listed unless a slot lies in front of it. -/
theorem code_eq_none_iff (template : Template) (perLine : Int64) (highlighted : Bool) :
    code template perLine highlighted = none ↔ ∃ slot ∈ template.slots, slot.toInt < 0 := by
  rw [code, Option.map_eq_none_iff, marks?, foldlM_markFrom?_eq_none_iff]

theorem exists_code {template : Template}
    (nonnegative : ∀ slot ∈ template.slots, 0 ≤ slot.toInt) (perLine : Int64)
    (highlighted : Bool) : ∃ texts, code template perLine highlighted = some texts := by
  rw [← Option.ne_none_iff_exists', ne_eq, code_eq_none_iff]
  rintro ⟨slot, slotMem, negative⟩
  exact absurd (nonnegative slot slotMem) (not_le.mpr negative)

end Listing

theorem Command.complete_listing {template : Template} {values : List Int32}
    (held : template.values? = some values) (surroundings : Surroundings) (options : Options) :
    (listing surroundings options template).complete = true := by
  rw [listing, Listing.complete_ofParts_iff, List.mem_cons, not_or]
  constructor
  · have nonnegative : ∀ slot ∈ template.slots, 0 ≤ slot.toInt :=
      fun slot slotMem => (Template.fits_of_values? held slot slotMem).1
    rcases Listing.exists_code nonnegative options.wrap
      (surroundings.terminal && !options.noColor) with ⟨texts, listed⟩
    simp [listed]
  · split_ifs with asked
    · simp [Listing.slots, held]
    · simp

/-! ### Saved files -/

namespace FileSystem

theorem lookup_cons_eq_ite (name other : String) (contents : List UInt8)
    (files : List (String × List UInt8)) :
    ((name, contents) :: files).lookup other =
      if other = name then some contents else files.lookup other := by
  by_cases same : other = name
  · rw [List.lookup_cons, if_pos same, beq_iff_eq.mpr same]
  · rw [List.lookup_cons, if_neg same, beq_eq_false_iff_ne.mpr same]

theorem lookup_insert (key other : String) (contents : List UInt8)
    (files : List (String × List UInt8)) :
    (insert key contents files).lookup other =
      if other = key then some contents else files.lookup other := by
  induction files with
  | nil => rw [insert, lookup_cons_eq_ite]
  | cons file files ih =>
      rcases file with ⟨name, older⟩
      rw [insert]
      split_ifs with replaced isKey isKey
      · rw [lookup_cons_eq_ite, if_pos isKey]
      · rw [lookup_cons_eq_ite, if_neg isKey, lookup_cons_eq_ite, replaced, if_neg isKey]
      · rw [lookup_cons_eq_ite, ih, if_pos isKey, if_neg (isKey ▸ Ne.symm replaced)]
      · rw [lookup_cons_eq_ite, ih, if_neg isKey, lookup_cons_eq_ite]

/-- The file of `output`, if there is to be one, holds the code; all other files are as before. -/
def Saved (before : FileSystem) (output : String) (code : List UInt8) (after : FileSystem) : Prop :=
  if output = "" then after = before
  else after.file? output = some code ∧
    ∀ other, Path.key other ≠ Path.key output → after.file? other = before.file? other

theorem saved_write (files : FileSystem) {output : String} (named : output ≠ "")
    (code : List UInt8) : Saved files output code (files.write output code) := by
  rw [Saved, if_neg named]
  constructor
  · rw [file?, write, lookup_insert, if_pos rfl]
  · intro other different
    rw [file?, write, lookup_insert, if_neg different]
    rfl

end FileSystem

/-! ### What a run comes to -/

namespace Command

open Lexer

/-- The template that a source and options ask for. -/
inductive Produces (files : FileSystem) (decoder : ValueFile.Decoder) (options : Options)
    (path : String) : Template → Prop where
  | unpatched {source : List UInt8} {template : Template} (read : files.read? path = some source)
      (assembled : assemble source = .ok template)
      (asked : requestedValues files decoder options = .ok none) :
      Produces files decoder options path template
  | patched {source : List UInt8} {template patched : Template} {values : List Int32}
      (read : files.read? path = some source) (assembled : assemble source = .ok template)
      (asked : requestedValues files decoder options = .ok (some values))
      (applied : template.apply values = .ok patched) :
      Produces files decoder options path patched

/-- Nothing was written or printed before the error. -/
structure StopsEarly (files : FileSystem) (error : CommandError) (report : Report) : Prop where
  error : report.error = some error
  files : report.files = files
  output : report.output = ""
  goesOn : report.brokenOff = false

/-- The code of the template was saved, and its listing printed as far as it goes. -/
structure Emits (surroundings : Surroundings) (options : Options) (template : Template)
    (report : Report) : Prop where
  saved : surroundings.files.Saved options.output template.code report.files
  printed : print surroundings.limit "" (listing surroundings options template).texts =
    (report.output, report.error)
  brokenOff : report.brokenOff =
    (report.error.isNone && !(listing surroundings options template).complete)

theorem output_of_emits_unlimited {surroundings : Surroundings} {options : Options}
    {template : Template} {report : Report} (emits : Emits surroundings options template report)
    (unlimited : surroundings.limit = none) :
    bytesOf report.output = (listing surroundings options template).texts.flatMap bytesOf ∧
      report.error = none := by
  have printed := emits.printed
  have printing := print_unlimited "" (listing surroundings options template).texts
  rw [unlimited] at printed
  rw [printed] at printing
  exact printing

theorem output_of_emits_limited {surroundings : Surroundings} {options : Options}
    {template : Template} {report : Report} {limit : Nat}
    (emits : Emits surroundings options template report)
    (limited : surroundings.limit = some limit) :
    let bytes := (listing surroundings options template).texts.flatMap bytesOf
    bytesOf report.output = bytes.take limit ∧
      report.error = if bytes.length ≤ limit then none else some .writeLimit := by
  have printed := emits.printed
  have nothing : (bytesOf "").length ≤ limit := Nat.zero_le limit
  have printing := print_limited (isAscii_listing surroundings options template) nothing
  rw [limited] at printed
  rw [printed] at printing
  exact printing

/-- What the reports for all limits of the output have in common. -/
inductive Concludes (surroundings : Surroundings) (options : Options) (possible : Template → Prop)
    (report : Option Nat → Report) : Prop where
  | stops (error : CommandError) (early : error ≠ .writeLimit)
      (reports : ∀ limit, StopsEarly surroundings.files error (report limit))
  | emits (template : Template) (isPossible : possible template)
      (reports : ∀ limit, Emits { surroundings with limit } options template (report limit))

theorem concludes_emit (surroundings : Surroundings) (options : Options) (template : Template)
    (log : List LogEntry) :
    Concludes surroundings options (· = template)
      fun limit => emit { surroundings with limit } options template log := by
  by_cases unnamed : options.output = ""
  · refine .emits template rfl ?_
    intro limit
    rw [emit, if_pos unnamed]
    refine ⟨?_, rfl, rfl⟩
    rw [FileSystem.Saved, if_pos unnamed]
    rfl
  · by_cases readOnly : surroundings.readOnly
    · refine .stops .readOnly (by simp) ?_
      intro limit
      rw [emit, if_neg unnamed, if_pos readOnly]
      exact ⟨rfl, rfl, rfl, rfl⟩
    · refine .emits template rfl ?_
      intro limit
      rw [emit, if_neg unnamed, if_neg readOnly]
      exact ⟨FileSystem.saved_write surroundings.files unnamed template.code, rfl, rfl⟩

theorem Concludes.mono {surroundings : Surroundings} {options : Options}
    {possible later : Template → Prop} {report : Option Nat → Report}
    (concludes : Concludes surroundings options possible report)
    (implies : ∀ template, possible template → later template) :
    Concludes surroundings options later report := by
  cases concludes with
  | stops error early reports => exact .stops error early reports
  | emits template isPossible reports => exact .emits template (implies template isPossible) reports

theorem requestedValues_ne_writeLimit {files : FileSystem} {decoder : ValueFile.Decoder}
    {options : Options} {error : CommandError}
    (refused : requestedValues files decoder options = .error error) :
    error ≠ .writeLimit := by
  rintro rfl
  rw [requestedValues] at refused
  split at refused
  · simp [Outcome.mapError_eq_error_iff] at refused
  · split_ifs at refused with unnamed
    simp [Outcome.mapError_eq_error_iff] at refused
  · simp at refused

theorem concludes_patchAndEmit {surroundings : Surroundings} {options : Options} {path : String}
    {source : List UInt8} {template : Template}
    (read : surroundings.files.read? path = some source)
    (assembled : assemble source = .ok template) (log : List LogEntry) :
    Concludes surroundings options (Produces surroundings.files surroundings.decoder options path)
      fun limit => patchAndEmit { surroundings with limit } options template log := by
  cases asked : requestedValues surroundings.files surroundings.decoder options with
  | error error =>
      refine .stops error (requestedValues_ne_writeLimit asked) ?_
      intro limit
      simp only [patchAndEmit, asked]
      exact ⟨rfl, rfl, rfl, rfl⟩
  | ok requested =>
      cases requested with
      | none =>
          simp only [patchAndEmit, asked]
          apply (concludes_emit surroundings options template _).mono
          rintro _ rfl
          exact .unpatched read assembled asked
      | some values =>
          cases applied : template.apply values with
          | error error =>
              refine .stops (.patch error) (by simp) ?_
              intro limit
              simp only [patchAndEmit, asked, applied]
              exact ⟨rfl, rfl, rfl, rfl⟩
          | ok patched =>
              simp only [patchAndEmit, asked, applied]
              apply (concludes_emit surroundings options patched _).mono
              rintro _ rfl
              exact .patched read assembled asked applied

/-- A run stops early or emits the template that is asked for, whatever the output accepts. -/
theorem concludes_run (surroundings : Surroundings) (options : Options) (path : String) :
    Concludes surroundings options (Produces surroundings.files surroundings.decoder options path)
      fun limit => run { surroundings with limit } options path := by
  have logged : Concludes surroundings options
      (Produces surroundings.files surroundings.decoder options path)
      fun limit => runLogged { surroundings with limit } options path := by
    cases read : surroundings.files.read? path with
    | none =>
        refine .stops (.missingSource (Path.key path)) (by simp) ?_
        intro limit
        simp only [runLogged, read]
        exact ⟨rfl, rfl, rfl, rfl⟩
    | some source =>
        cases assembled : assemble source with
        | error error =>
            have result_eq : (Assembly.ofSource source).result = .error error := assembled
            refine .stops (.assembly path error) (by simp) ?_
            intro limit
            simp only [runLogged, read, result_eq]
            exact ⟨rfl, rfl, rfl, rfl⟩
        | ok template =>
            have result_eq : (Assembly.ofSource source).result = .ok template := assembled
            simp only [runLogged, read, result_eq]
            exact concludes_patchAndEmit read assembled _
  -- The level of the log changes nothing else.
  cases logged with
  | stops error early reports =>
      refine .stops error early fun limit => ?_
      have stopped := reports limit
      exact ⟨stopped.error, stopped.files, stopped.output, stopped.goesOn⟩
  | emits template isPossible reports =>
      refine .emits template isPossible fun limit => ?_
      have emitted := reports limit
      exact ⟨emitted.saved, emitted.printed, emitted.brokenOff⟩

/-- Offsets that do not wrap lead to slots inside the code, whose values are there. -/
theorem Produces.exists_values {files : FileSystem} {decoder : ValueFile.Decoder}
    {options : Options} {path : String} {template : Template}
    (produces : Produces files decoder options path template)
    (addressable : template.Addressable) : ∃ values, template.values? = some values := by
  cases produces with
  | unpatched _ assembled _ =>
      exact Template.values?_of_separated
        (Template.placed_of_assemble assembled addressable).separated
  | @patched _ original _ values _ assembled _ applied =>
      have originalAddressable : original.Addressable := by
        rwa [Template.Addressable, Template.apply_eq_ok applied,
          Template.length_applyInPlace] at addressable
      have placed := Template.placed_of_assemble assembled originalAddressable
      exact ⟨values, Template.values?_of_apply placed.separated applied⟩

end Command

/-- A run that fails for another reason than its output has changed no file and printed nothing.
It fails for its output exactly if the output accepts fewer bytes than the same run prints without
a limit; then the code of the template that was asked for is saved, no other file has changed, and
the output has accepted the first bytes of the whole listing, as many as it accepts. No listing
breaks off unless the size of the code is beyond 64-bit integers. -/
theorem failed_run_leaves_no_trace (surroundings : Surroundings) (options : Options)
    (path : String) :
    let report := Command.run surroundings options path
    let unlimited := Command.run { surroundings with limit := none } options path
    (∀ error, report.error = some error → error ≠ .writeLimit →
      report.files = surroundings.files ∧ report.output = "") ∧
    (report.error = some .writeLimit ↔ ∃ limit, surroundings.limit = some limit ∧
      limit < (Lexer.bytesOf unlimited.output).length) ∧
    (∀ limit, surroundings.limit = some limit → report.error = some .writeLimit →
      Lexer.bytesOf report.output = (Lexer.bytesOf unlimited.output).take limit ∧
      unlimited.error = none ∧
      ∃ template, Command.Produces surroundings.files surroundings.decoder options path template ∧
        surroundings.files.Saved options.output template.code report.files) ∧
    (report.brokenOff = true →
      ∃ template, Command.Produces surroundings.files surroundings.decoder options path template ∧
        ¬template.Addressable) := by
  intro report unlimited
  cases Command.concludes_run surroundings options path with
  | stops error early reports =>
      rcases reports surroundings.limit with ⟨error_eq, files_eq, output_eq, goesOn⟩
      have unlimited_eq := (reports none).output
      have notPrinting : report.error ≠ some .writeLimit := by
        intro failed
        exact early (Option.some.inj (error_eq.symm.trans failed))
      refine ⟨fun _ _ _ => ⟨files_eq, output_eq⟩, ?_, fun _ _ failed => absurd failed notPrinting,
        fun brokenOff => absurd (goesOn.symm.trans brokenOff) (by simp)⟩
      constructor
      · intro failed
        exact absurd failed notPrinting
      · rintro ⟨limit, _, longer⟩
        have nothing : unlimited.output = "" := unlimited_eq
        rw [nothing] at longer
        exact absurd longer (Nat.not_lt_zero limit)
  | emits template produces reports =>
      have emitted : Command.Emits surroundings options template report :=
        reports surroundings.limit
      have whole := Command.output_of_emits_unlimited (reports none) rfl
      have unaddressable : report.brokenOff = true → ¬template.Addressable := by
        intro brokenOff addressable
        rcases produces.exists_values addressable with ⟨values, held⟩
        rw [emitted.brokenOff, Command.complete_listing held] at brokenOff
        simp at brokenOff
      cases limit_eq : surroundings.limit with
      | none =>
          rcases Command.output_of_emits_unlimited emitted limit_eq with ⟨_, complete⟩
          refine ⟨by simp [complete], by simp [complete], by simp, ?_⟩
          exact fun brokenOff => ⟨template, produces, unaddressable brokenOff⟩
      | some limit =>
          rcases Command.output_of_emits_limited emitted limit_eq with ⟨accepted_eq, error_eq⟩
          have listed : Lexer.bytesOf unlimited.output =
              (Command.listing surroundings options template).texts.flatMap Lexer.bytesOf := whole.1
          rw [← listed] at accepted_eq error_eq
          have failed_iff : report.error = some .writeLimit ↔
              limit < (Lexer.bytesOf unlimited.output).length := by
            rw [error_eq]
            split_ifs with fits
            · simp [fits]
            · simpa using fits
          refine ⟨?_, ?_, ?_, fun brokenOff => ⟨template, produces, unaddressable brokenOff⟩⟩
          · intro error failed other
            rw [error_eq] at failed
            split_ifs at failed with fits
            exact absurd (Option.some.inj failed).symm other
          · rw [failed_iff]
            simp
          · rintro _ ⟨⟩ _
            exact ⟨accepted_eq, whole.2, template, produces, emitted.saved⟩

/-- One value too many is refused without a trace; with the right number, the listing is cut
inside its second group. -/
theorem failed_run_leaves_no_trace_cut_listing :
    let files : FileSystem := { files := [("p.s", Lexer.bytesOf "push $1")] }
    let surroundings : Surroundings := { files, limit := some 4 }
    let refused := Command.run surroundings { output := "o", set := some ["7", "8"] } "p.s"
    let options : Options := { output := "o", set := some ["7"] }
    let cut := Command.run surroundings options "p.s"
    let unlimited := Command.run { surroundings with limit := none } options "p.s"
    refused.error = some (.patch (.countMismatch 2 1)) ∧
      refused.files = files ∧ refused.output = "" ∧
      cut.error = some .writeLimit ∧
      Lexer.bytesOf cut.output = (Lexer.bytesOf unlimited.output).take 4 ∧
      unlimited.output = "68 07 00 00 00\n" ∧
      ∃ template, Command.Produces files surroundings.decoder options "p.s" template ∧
        files.Saved "o" template.code cut.files := by
  intro files surroundings refused options cut unlimited
  have error_eq : refused.error = some (.patch (.countMismatch 2 1)) := by
    decide +kernel
  have cut_eq : cut.error = some .writeLimit := by
    decide +kernel
  have listed : unlimited.output = "68 07 00 00 00\n" := by
    decide +kernel
  rcases (failed_run_leaves_no_trace surroundings _ "p.s").1 _ error_eq (by simp) with
    ⟨files_eq, output_eq⟩
  rcases (failed_run_leaves_no_trace surroundings options "p.s").2.2.1 4 rfl cut_eq with
    ⟨accepted_eq, _, produced⟩
  exact ⟨error_eq, files_eq, output_eq, cut_eq, accepted_eq, listed, produced⟩

end Stencil
