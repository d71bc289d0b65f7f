import Stencil.Proofs.CommandRuns
import Stencil.Proofs.Literals
import Stencil.Proofs.Placement

/-!
# Requested values

The values for the slots are given as texts or in a file. Either way the options ask
for a list of integers, and this list alone decides what happens: the integers are
narrowed to 32 bits in order, the first one that does not fit is refused, and their
number is compared with the number of slots. An empty list is a request too.

So runs of the command that differ only in how the integers are given agree in all that
they print, write and log, and fail for the same reason; only the words for an integer
that does not fit tell them apart. This holds for any decoders of the files.
-/

namespace Stencil

/-! ### Integers in base ten -/

namespace Numeral

theorem isNumberText_toString (magnitude : Nat) : Lexer.IsNumberText (toString magnitude) := by
  have run := digits_decimal magnitude
  have characters : (toString magnitude).toList = Nat.toDigits 10 magnitude := String.toList_ofList
  rcases head_of_digits run with ⟨first, rest, digit, shape, isDigit, small⟩
  refine ⟨first, rest, characters.trans shape, (word_of_digit isDigit).2 small, ?_⟩
  rw [← shape]
  exact words_of_digits run

theorem toString_eq_signedText (value : Int) :
    ∃ negative magnitude, signed negative magnitude = value ∧
      toString value = Fault.signedText negative (toString magnitude) := by
  cases value with
  | ofNat magnitude => exact ⟨false, magnitude, rfl, rfl⟩
  | negSucc predecessor => exact ⟨true, predecessor + 1, rfl, rfl⟩

theorem trimmed_toString (value : Int) :
    Blank.trimmed (toString value).toList = (toString value).toList := by
  rcases toString_eq_signedText value with ⟨negative, magnitude, _, text_eq⟩
  rw [text_eq, PatchValue.trimmed_signedText (isNumberText_toString magnitude),
    PatchValue.toList_signedText]

/-- The text of an integer is read back as this integer. -/
theorem integer_toString {value : Int} (lower : -2 ^ 63 ≤ value) (upper : value < 2 ^ 63) :
    integer (toString value).toList = .ok value := by
  rcases toString_eq_signedText value with ⟨negative, magnitude, rfl, text_eq⟩
  have isNumber := isNumberText_toString magnitude
  have bounded : magnitude < 2 ^ 64 := by
    rw [signed] at lower upper
    split_ifs at lower upper with isNegative
    · omega
    · omega
  have read : natural (toString magnitude).toList = .ok magnitude :=
    (natural_eq_ok_iff _ _).mpr ⟨by simpa using denotes_decimal magnitude, bounded⟩
  rw [text_eq, PatchValue.toList_signedText,
    integer_signed_iff (Lexer.unsigned_of_isNumberText isNumber)]
  exact ⟨magnitude, read, ⟨lower, upper⟩, rfl⟩

end Numeral

/-! ### Narrowing -/

namespace PatchValue

/--
The outcome of narrowing integers: their values if all of them fit, and otherwise an
error that says so.
-/
inductive Narrows {Reason : Type} (isRange : Reason → Prop) (integers : List Int) :
    Except Reason (List Int32) → Prop where
  | fit (fits : ∀ integer ∈ integers, Fits integer) :
      Narrows isRange integers (.ok (integers.map Int32.ofInt))
  | refused {integer : Int} (given : integer ∈ integers) (outside : ¬Fits integer)
      {reason : Reason} (reported : isRange reason) : Narrows isRange integers (.error reason)

theorem narrows_cons {Reason : Type} {isRange : Reason → Prop} {integers : List Int}
    {outcome : Except Reason (List Int32)} (narrows : Narrows isRange integers outcome)
    (integer : Int) {reason : Reason} (reported : isRange reason) :
    Narrows isRange (integer :: integers)
      (match ofInt? integer with
      | none => .error reason
      | some value => outcome.map (value :: ·)) := by
  by_cases fits : Fits integer
  · have narrowed : ofInt? integer = some (Int32.ofInt integer) :=
      (ofInt?_eq_some_iff integer _).mpr ⟨fits, rfl⟩
    rw [narrowed]
    cases narrows with
    | fit restFits => exact .fit (List.forall_mem_cons.mpr ⟨fits, restFits⟩)
    | refused given outside reported =>
        exact .refused (List.mem_cons_of_mem _ given) outside reported
  · have refused : ofInt? integer = none := by
      rw [Option.eq_none_iff_forall_not_mem]
      intro value narrowed
      exact fits ((ofInt?_eq_some_iff integer value).mp narrowed).1
    rw [refused]
    exact .refused List.mem_cons_self fits reported

theorem Narrows.mapError {Reason Other : Type} {isRange : Reason → Prop}
    {isOther : Other → Prop} {integers : List Int} {outcome : Except Reason (List Int32)}
    (narrows : Narrows isRange integers outcome) {function : Reason → Other}
    (implies : ∀ reason, isRange reason → isOther (function reason)) :
    Narrows isOther integers (outcome.mapError function) := by
  cases narrows with
  | fit fits => exact .fit fits
  | refused given outside reported => exact .refused given outside (implies _ reported)

/-- The text denotes the integer, apart from blanks around it. -/
def ReadsAs (text : String) (integer : Int) : Prop :=
  Numeral.integer (Blank.trimmed text.toList) = .ok integer

theorem narrows_ofTexts {texts : List String} {integers : List Int}
    (read : List.Forall₂ ReadsAs texts integers) :
    Narrows (fun error => ∃ text, error = ValueError.range text) integers (ofTexts texts) := by
  induction read with
  | nil => exact .fit (by simp)
  | @cons text integer texts integers reads rest ih =>
      have step := narrows_cons ih integer ⟨text, rfl⟩
      have read_eq : Numeral.integer (Blank.trimmed text.toList) = .ok integer := reads
      have ofTexts_cons : ofTexts (text :: texts) =
          match ofInt? integer with
          | none => .error (.range text)
          | some value => (ofTexts texts).map (value :: ·) := by
        rw [ofTexts, List.mapM_cons, ofText, read_eq, ← ofTexts]
        cases narrowed : ofInt? integer with
        | none =>
            simp only [narrowed]
            rfl
        | some value =>
            simp only [narrowed]
            cases ofTexts texts <;> rfl
      rwa [ofTexts_cons]

theorem exists_integers_of_ofTexts {texts : List String} {values : List Int32}
    (read : ofTexts texts = .ok values) : ∃ integers, List.Forall₂ ReadsAs texts integers := by
  induction texts generalizing values with
  | nil => exact ⟨[], .nil⟩
  | cons text texts ih =>
      rw [ofTexts, List.mapM_cons, Outcome.bind_eq_ok_iff] at read
      rcases read with ⟨value, valueRead, rest⟩
      rw [Outcome.bind_eq_ok_iff] at rest
      rcases rest with ⟨later, laterRead, _⟩
      rcases (ofText_eq_ok_iff text value).mp valueRead with ⟨integer, reads, _⟩
      rcases ih laterRead with ⟨integers, restReads⟩
      exact ⟨integer :: integers, .cons reads restReads⟩

end PatchValue

theorem ValueFile.narrows_narrow (path : String) (index : Nat) (integers : List Int64) :
    PatchValue.Narrows (fun error => ∃ index, error = ValueFileError.range path index)
      (integers.map Int64.toInt) (narrow path index integers) := by
  induction integers generalizing index with
  | nil => exact .fit (by simp)
  | cons integer integers ih =>
      exact PatchValue.narrows_cons (ih (index + 1)) integer.toInt ⟨index, rfl⟩

theorem ValueFile.decoded_of_load {files : FileSystem} {decoder : Decoder} {path : String}
    {values : List Int32} (loaded : load files path decoder = .ok values) :
    ∃ contents integers, files.read? path = some contents ∧
      decoder.decode? path contents = some integers := by
  rw [load] at loaded
  cases read : files.read? path with
  | none => simp [read] at loaded
  | some contents =>
      cases decoded : decoder.decode? path contents with
      | none => simp [read, decoded] at loaded
      | some integers => exact ⟨contents, integers, rfl, decoded⟩

/-! ### What the options ask for -/

namespace CommandError

/-- The category of an error of the command, if it has one. -/
def category? : CommandError → Option Category
  | assembly _ error => error.category?
  | value (.range _) => some .valueRange
  | valueFile (.range _ _) => some .valueRange
  | patch (.countMismatch _ _) => some .slotCount
  | _ => none

end CommandError

namespace Command

/-- The options ask for the integers, which are given as texts or in a file. -/
inductive Asks (files : FileSystem) (decoder : ValueFile.Decoder) (options : Options) :
    List Int → Prop where
  | texts {texts : List String} {integers : List Int} (given : options.set = some texts)
      (read : List.Forall₂ PatchValue.ReadsAs texts integers) :
      Asks files decoder options integers
  | file {path : String} {contents : List UInt8} {integers : List Int64}
      (noTexts : options.set = none) (given : options.values = some path) (named : path ≠ "")
      (read : files.read? path = some contents)
      (decoded : decoder.decode? path contents = some integers) :
      Asks files decoder options (integers.map Int64.toInt)

theorem narrows_of_asks {files : FileSystem} {decoder : ValueFile.Decoder} {options : Options}
    {integers : List Int} (asks : Asks files decoder options integers) :
    ∃ outcome, PatchValue.Narrows (·.category? = some .valueRange) integers outcome ∧
      requestedValues files decoder options = outcome.map some := by
  cases asks with
  | @texts texts _ given read =>
      refine ⟨(PatchValue.ofTexts texts).mapError .value, ?_, ?_⟩
      · refine (PatchValue.narrows_ofTexts read).mapError ?_
        rintro _ ⟨text, rfl⟩
        rfl
      · simp only [requestedValues, given, Outcome.mapError_map]
  | @file path contents integers noTexts given named read decoded =>
      refine ⟨(ValueFile.narrow path 1 integers).mapError .valueFile, ?_, ?_⟩
      · refine (ValueFile.narrows_narrow path 1 integers).mapError ?_
        rintro _ ⟨index, rfl⟩
        rfl
      · simp only [requestedValues, noTexts, given, if_neg named, ValueFile.load, read, decoded,
          Outcome.mapError_map]

/-- The integers that the options ask for, if they ask for any. -/
def Requests (files : FileSystem) (decoder : ValueFile.Decoder) (options : Options) :
    Option (List Int) → Prop
  | none => options.set = none ∧ (options.values = none ∨ options.values = some "")
  | some integers => Asks files decoder options integers

theorem exists_requests {files : FileSystem} {decoder : ValueFile.Decoder} {options : Options}
    {requested : Option (List Int32)}
    (accepted : requestedValues files decoder options = .ok requested) :
    ∃ integers, Requests files decoder options integers ∧
      requested = integers.map (List.map Int32.ofInt) := by
  have narrowed : ∀ {integers : List Int}, Asks files decoder options integers →
      requested = some (integers.map Int32.ofInt) := by
    intro integers asks
    rcases narrows_of_asks asks with ⟨outcome, narrows, requested_eq⟩
    rw [accepted] at requested_eq
    cases narrows with
    | fit fits => exact Except.ok.inj requested_eq
    | refused => cases requested_eq
  rw [requestedValues] at accepted
  cases texts_eq : options.set with
  | some texts =>
      simp only [texts_eq, Outcome.mapError_eq_ok_iff, Outcome.map_eq_ok_iff] at accepted
      rcases accepted with ⟨values, read, _⟩
      rcases PatchValue.exists_integers_of_ofTexts read with ⟨integers, reads⟩
      have asks : Asks files decoder options integers := .texts texts_eq reads
      exact ⟨some integers, asks, narrowed asks⟩
  | none =>
      cases path_eq : options.values with
      | none =>
          simp only [texts_eq, path_eq, Except.ok.injEq] at accepted
          exact ⟨none, ⟨texts_eq, .inl path_eq⟩, accepted.symm⟩
      | some path =>
          simp only [texts_eq, path_eq] at accepted
          split_ifs at accepted with unnamed
          · rw [unnamed] at path_eq
            exact ⟨none, ⟨texts_eq, .inr path_eq⟩, (Except.ok.inj accepted).symm⟩
          · simp only [Outcome.mapError_eq_ok_iff, Outcome.map_eq_ok_iff] at accepted
            rcases accepted with ⟨values, loaded, _⟩
            rcases ValueFile.decoded_of_load loaded with ⟨contents, integers, read, decoded⟩
            have asks : Asks files decoder options (integers.map Int64.toInt) :=
              .file texts_eq path_eq unnamed read decoded
            exact ⟨some _, asks, narrowed asks⟩

/-! ### Runs with requested values -/

/-- The reports agree, except perhaps in the words for a value that does not fit. -/
structure Alike (first second : Report) : Prop where
  output : first.output = second.output
  files : first.files = second.files
  log : first.log = second.log
  brokenOff : first.brokenOff = second.brokenOff
  error : first.error = second.error ∨ ∃ error other, first.error = some error ∧
    second.error = some other ∧ error.category? = some .valueRange ∧
    other.category? = some .valueRange

theorem alike_refl (report : Report) : Alike report report :=
  ⟨rfl, rfl, rfl, rfl, .inl rfl⟩

theorem alike_patchAndEmit {surroundings : Surroundings} {first second : Options}
    {integers : List Int}
    (asksFirst : Asks surroundings.files surroundings.decoder first integers)
    (asksSecond : Asks surroundings.files surroundings.decoder second integers)
    (emitSame : emit surroundings first = emit surroundings second) (template : Template)
    (log : List LogEntry) :
    Alike (patchAndEmit surroundings first template log)
      (patchAndEmit surroundings second template log) := by
  rcases narrows_of_asks asksFirst with ⟨_, narrowsFirst, firstRequested⟩
  rcases narrows_of_asks asksSecond with ⟨_, narrowsSecond, secondRequested⟩
  rw [patchAndEmit, patchAndEmit, firstRequested, secondRequested]
  -- Whether an integer fits does not depend on where it was given.
  cases narrowsFirst with
  | fit fits =>
      cases narrowsSecond with
      | fit _ =>
          rw [emitSame]
          exact alike_refl _
      | refused given outside _ => exact absurd (fits _ given) outside
  | refused given outside reported =>
      cases narrowsSecond with
      | fit fits => exact absurd (fits _ given) outside
      | refused _ _ otherReported =>
          exact ⟨rfl, rfl, rfl, rfl, .inr ⟨_, _, rfl, rfl, reported, otherReported⟩⟩

theorem alike_run {surroundings : Surroundings} {first second : Options} {integers : List Int}
    (asksFirst : Asks surroundings.files surroundings.decoder first integers)
    (asksSecond : Asks surroundings.files surroundings.decoder second integers)
    (emitSame : emit surroundings first = emit surroundings second)
    (levelSame : logLevel first = logLevel second) (path : String) :
    Alike (run surroundings first path) (run surroundings second path) := by
  have logged : Alike (runLogged surroundings first path) (runLogged surroundings second path) := by
    rw [runLogged, runLogged]
    cases surroundings.files.read? path with
    | none => exact alike_refl _
    | some source =>
        dsimp only
        cases (Assembly.ofSource source).result with
        | error error => exact alike_refl _
        | ok template => exact alike_patchAndEmit asksFirst asksSecond emitSame template _
  rw [run, run, levelSame]
  exact ⟨logged.output, logged.files, congrArg (List.filter _) logged.log, logged.brokenOff,
    logged.error⟩

theorem error_printText (limit : Option Nat) (printed text : String) :
    (printText limit printed text).2 = none ∨
      (printText limit printed text).2 = some .writeLimit := by
  cases limit with
  | none => exact .inl rfl
  | some limit =>
      simp only [printText]
      split
      · exact .inl rfl
      · exact .inr rfl

theorem error_print (limit : Option Nat) (printed : String) (texts : List String) :
    (print limit printed texts).2 = none ∨ (print limit printed texts).2 = some .writeLimit := by
  induction texts generalizing printed with
  | nil => exact .inl rfl
  | cons text texts ih =>
      have first := error_printText limit printed text
      rw [print]
      split
      · exact ih _
      · rename_i accepted error stopped
        rw [stopped] at first
        exact first

theorem category?_error_emit (surroundings : Surroundings) (options : Options)
    (template : Template) (log : List LogEntry) :
    (emit surroundings options template log).error.bind CommandError.category? = none := by
  have finished : ∀ files log, (finish surroundings options template files log).error.bind
      CommandError.category? = none := by
    intro files log
    simp only [finish]
    rcases error_print surroundings.limit "" (listing surroundings options template).texts with
      complete | cut
    · rw [complete]
      rfl
    · rw [cut]
      rfl
  rw [emit]
  split_ifs with unnamed readOnly
  · exact finished _ _
  · rfl
  · exact finished _ _

theorem category?_error_patched {surroundings : Surroundings} {options : Options}
    {values : List Int32}
    (requested : requestedValues surroundings.files surroundings.decoder options =
      .ok (some values))
    (template : Template) (log : List LogEntry) :
    (patchAndEmit surroundings options template log).error.bind CommandError.category? =
      if values.length ≠ template.slots.length then some .slotCount else none := by
  rw [patchAndEmit, requested]
  dsimp only
  split_ifs with different
  · rw [template.apply_of_length_ne different]
    rfl
  · rcases template.apply_of_length_eq (not_not.mp different) with outside | ⟨patched, applied⟩
    · rw [outside]
      rfl
    · rw [applied]
      exact category?_error_emit surroundings options patched _

/-- The category of the error of a run on a source that can be assembled. -/
theorem category?_error_run {surroundings : Surroundings} {options : Options} {path : String}
    {integers : List Int} {source : List UInt8} {template : Template}
    (asks : Asks surroundings.files surroundings.decoder options integers)
    (read : surroundings.files.read? path = some source)
    (assembled : assemble source = .ok template) :
    (run surroundings options path).error.bind CommandError.category? =
      if ∃ integer ∈ integers, ¬PatchValue.Fits integer then some .valueRange
      else if integers.length ≠ template.slots.length then some .slotCount
      else none := by
  have result_eq : (Assembly.ofSource source).result = .ok template := assembled
  rcases narrows_of_asks asks with ⟨outcome, narrows, requested⟩
  simp only [run, runLogged, read, result_eq]
  cases narrows with
  | fit fits =>
      have notOutside : ¬∃ integer ∈ integers, ¬PatchValue.Fits integer := by
        rintro ⟨integer, given, outside⟩
        exact outside (fits integer given)
      rw [if_neg notOutside, category?_error_patched requested, List.length_map]
  | @refused integer given outside reason reported =>
      rw [if_pos ⟨integer, given, outside⟩, patchAndEmit, requested]
      exact reported

end Command

/--
Integers can be given as texts in base ten or in a file that is decoded to them: both runs
print, write and log the same, and fail for the same reason if they do. On a source that
can be assembled they fail because a value does not fit if and only if one is outside the
32-bit range, and otherwise because of the number of values if and only if it is not the
number of slots, also if there are no values at all.
-/
theorem values_as_texts_or_in_file (surroundings : Surroundings) (options : Options)
    (path file : String) (contents : List UInt8) (integers : List Int64) (named : file ≠ "")
    (read : surroundings.files.read? file = some contents)
    (decoded : surroundings.decoder.decode? file contents = some integers) :
    let texts := integers.map fun integer => toString integer.toInt
    let bySet := Command.run surroundings { options with set := some texts, values := none } path
    let byFile := Command.run surroundings { options with set := none, values := some file } path
    Command.Alike bySet byFile ∧
      ∀ source template, surroundings.files.read? path = some source →
        assemble source = .ok template → ∀ report ∈ [bySet, byFile],
          report.error.bind CommandError.category? =
            if ∃ integer ∈ integers, ¬PatchValue.Fits integer.toInt then some .valueRange
            else if integers.length ≠ template.slots.length then some .slotCount
            else none := by
  intro texts bySet byFile
  have asksTexts : Command.Asks surroundings.files surroundings.decoder
      { options with set := some texts, values := none } (integers.map Int64.toInt) := by
    refine .texts rfl ?_
    rw [List.forall₂_map_left_iff, List.forall₂_map_right_iff, List.forall₂_same]
    intro integer _
    rw [PatchValue.ReadsAs, Numeral.trimmed_toString]
    exact Numeral.integer_toString integer.le_toInt integer.toInt_lt
  have asksFile : Command.Asks surroundings.files surroundings.decoder
      { options with set := none, values := some file } (integers.map Int64.toInt) :=
    .file rfl rfl named read decoded
  refine ⟨Command.alike_run asksTexts asksFile rfl rfl path, ?_⟩
  intro source template sourceRead assembled report reportMem
  have texts_eq := Command.category?_error_run asksTexts sourceRead assembled
  have file_eq := Command.category?_error_run asksFile sourceRead assembled
  simp only [List.mem_map, exists_exists_and_eq_and, List.length_map] at texts_eq file_eq
  rcases List.mem_pair.mp reportMem with rfl | rfl
  · exact texts_eq
  · exact file_eq

/-- No value for one slot is refused from either place, and one value is patched from either,
with decoders that know two files. -/
theorem values_as_texts_or_in_file_empty_and_single :
    let files : FileSystem := { files :=
      [("p.s", Lexer.bytesOf "push $1"), ("empty.yaml", Lexer.bytesOf "values: []"),
        ("single.toml", Lexer.bytesOf "values = [-1]")] }
    let decoder : ValueFile.Decoder :=
      { yaml := fun contents => if contents = Lexer.bytesOf "values: []" then some [] else none,
        toml := fun contents =>
          if contents = Lexer.bytesOf "values = [-1]" then some [-1] else none }
    let surroundings : Surroundings := { files, decoder }
    let bySet := Command.run surroundings { set := some ["-1"] } "p.s"
    (Command.run surroundings { values := some "empty.yaml" } "p.s").error.bind
        CommandError.category? = some .slotCount ∧
      Command.Alike bySet (Command.run surroundings { values := some "single.toml" } "p.s") ∧
      bySet.output = "68 ff ff ff ff\n" := by
  intro files decoder surroundings bySet
  have empty := values_as_texts_or_in_file surroundings {} "p.s" "empty.yaml"
    (Lexer.bytesOf "values: []") [] (by decide) (by decide +kernel) (by decide +kernel)
  have single := values_as_texts_or_in_file surroundings {} "p.s" "single.toml"
    (Lexer.bytesOf "values = [-1]") [-1] (by decide) (by decide +kernel) (by decide +kernel)
  have assembled : assemble (Lexer.bytesOf "push $1") =
      .ok { code := [0x68, 1, 0, 0, 0], slots := [1] } := by
    decide +kernel
  have refused := empty.2 (Lexer.bytesOf "push $1") _ (by decide +kernel) assembled
  exact ⟨refused _ (by simp), single.1, by decide +kernel⟩

end Stencil
