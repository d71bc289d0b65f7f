import Mathlib.Data.List.Forall2
import Stencil.Assembly
import Stencil.Proofs.EncodingTable
import Stencil.Proofs.LittleEndian

/-!
# Linked programs

Linking puts encodings behind each other. The code is their concatenation, and
the slot of each encoding moves by the size of the code in front of it. The
linker refuses a slot that does not leave room for a word, but the encoder never
gives one, so assembling a program succeeds exactly if all its instructions have
encodings. `assembleProgram_eq_ok_iff` says this together with the result, and
`assembleProgram_eq_error_iff` with the instruction that is reported otherwise.

In linked code a slot keeps its room, and the slots of different encodings lie apart
in the order of the encodings.
-/

namespace Stencil

namespace Template

/-- The size of the code is a 64-bit integer, so that every byte of it has an offset. -/
def Addressable (template : Template) : Prop :=
  template.code.length < 2 ^ 63

/-- The bytes of encodings, one after the other. -/
def codeOf (encodings : List Encoding) : List UInt8 :=
  encodings.flatMap Encoding.bytes

/-- The slots of encodings that stand behind `offset` bytes of code. -/
def slotsFrom (offset : Nat) : List Encoding → List Int64
  | [] => []
  | encoding :: rest =>
    (encoding.slot.map (Int64.ofNat offset + ·)).toList ++
      slotsFrom (offset + encoding.bytes.length) rest

@[simp]
theorem codeOf_nil : codeOf [] = [] := rfl

@[simp]
theorem codeOf_cons (encoding : Encoding) (rest : List Encoding) :
    codeOf (encoding :: rest) = encoding.bytes ++ codeOf rest := rfl

theorem codeOf_append (first second : List Encoding) :
    codeOf (first ++ second) = codeOf first ++ codeOf second := by
  simp [codeOf]

theorem length_bytes_lt {encodings : List Encoding} (bounded : (codeOf encodings).length < 2 ^ 63)
    {encoding : Encoding} (mem : encoding ∈ encodings) : encoding.bytes.length < 2 ^ 63 := by
  rcases List.append_of_mem mem with ⟨before, after, rfl⟩
  rw [codeOf_append, codeOf_cons, List.length_append, List.length_append] at bounded
  omega

theorem slotsFrom_cons_plain {encoding : Encoding} (unslotted : encoding.slot = none)
    (offset : Nat) (rest : List Encoding) :
    slotsFrom offset (encoding :: rest) = slotsFrom (offset + encoding.bytes.length) rest := by
  simp [slotsFrom, unslotted]

theorem slotsFrom_cons_withWord (lead : List UInt8) (word : UInt32) (offset : Nat)
    (rest : List Encoding) :
    slotsFrom offset (Encoding.withWord lead word true :: rest) =
      Int64.ofNat (offset + lead.length) :: slotsFrom (offset + lead.length + 4) rest := by
  simp [slotsFrom, Encoding.withWord, LittleEndian.width, Int64.ofNat_add, Nat.add_assoc]

theorem linkFrom_eq_ok {encodings : List Encoding}
    (accepted : ∀ encoding ∈ encodings, ∀ slot, encoding.slot = some slot →
      acceptsSlot encoding.bytes.length slot = true) (index offset : Nat) :
    linkFrom index offset encodings =
      .ok { code := codeOf encodings, slots := slotsFrom offset encodings } := by
  induction encodings generalizing index offset with
  | nil => rfl
  | cons encoding rest ih =>
      have linked := ih (fun other otherMem => accepted other (List.mem_cons_of_mem _ otherMem))
        (index + 1) (offset + encoding.bytes.length)
      cases slotted : encoding.slot with
      | none => simp [linkFrom, slotted, linked, Except.map, prepend, slotsFrom]
      | some slot =>
          have fits := accepted encoding List.mem_cons_self slot slotted
          simp [linkFrom, slotted, fits, linked, Except.map, prepend, slotsFrom]

theorem accepted_of_linkFrom {encodings : List Encoding} {index offset : Nat}
    {template : Template} (linked : linkFrom index offset encodings = .ok template) :
    ∀ encoding ∈ encodings, ∀ slot, encoding.slot = some slot →
      acceptsSlot encoding.bytes.length slot = true := by
  induction encodings generalizing index offset template with
  | nil => simp
  | cons encoding rest ih =>
      rw [List.forall_mem_cons]
      cases slotted : encoding.slot with
      | none =>
          simp only [linkFrom, slotted, Outcome.map_eq_ok_iff] at linked
          rcases linked with ⟨_, linked, _⟩
          exact ⟨by simp, ih linked⟩
      | some slot =>
          by_cases fits : acceptsSlot encoding.bytes.length slot = true
          · simp only [linkFrom, slotted, fits, if_true, Outcome.map_eq_ok_iff] at linked
            rcases linked with ⟨_, linked, _⟩
            exact ⟨by simpa using fits, ih linked⟩
          · simp [linkFrom, slotted, fits] at linked

theorem link_eq_ok_iff (encodings : List Encoding) (template : Template) :
    link encodings = .ok template ↔
      (∀ encoding ∈ encodings, ∀ slot, encoding.slot = some slot →
        acceptsSlot encoding.bytes.length slot = true) ∧
      template = { code := codeOf encodings, slots := slotsFrom 0 encodings } := by
  constructor
  · intro linked
    have accepted := accepted_of_linkFrom linked
    rw [link, linkFrom_eq_ok accepted, Except.ok.injEq] at linked
    exact ⟨accepted, linked.symm⟩
  · rintro ⟨accepted, rfl⟩
    exact linkFrom_eq_ok accepted 0 0

/-! ### Where the slots lie -/

/-- The check of the linker is exact as long as the end of the slot does not wrap around. -/
theorem acceptsSlot_iff_fits {size : Nat} {slot : Int64} (small : size < 2 ^ 63)
    (unwrapped : slot.toInt + 4 < 2 ^ 63) :
    acceptsSlot size slot = true ↔ LittleEndian.Fits size slot := by
  have lower := slot.le_toInt
  have sum_eq : (slot + 4).toInt = slot.toInt + 4 := by
    rw [Int64.toInt_add]
    exact Int.bmod_eq_of_le (by simp; omega) (by simp; omega)
  simp only [acceptsSlot, LittleEndian.Fits, LittleEndian.width, Bool.and_eq_true,
    decide_eq_true_eq, Int64.le_iff_toInt_le, sum_eq, Int64.toInt_ofNat_of_lt small]
  simp

theorem acceptsSlot_of_fits {size : Nat} {slot : Int64} (small : size < 2 ^ 63)
    (fits : LittleEndian.Fits size slot) : acceptsSlot size slot = true := by
  have inside := fits.2
  simp only [LittleEndian.width] at inside
  exact (acceptsSlot_iff_fits small (by omega)).mpr fits

/-- Every slot lies inside the bytes of its own encoding. -/
def Seated (encodings : List Encoding) : Prop :=
  ∀ encoding ∈ encodings, ∀ slot, encoding.slot = some slot →
    LittleEndian.Fits encoding.bytes.length slot

theorem toInt_offset_add {offset size : Nat} {slot : Int64}
    (fits : LittleEndian.Fits size slot) (bounded : offset + size < 2 ^ 63) :
    (Int64.ofNat offset + slot).toInt = offset + slot.toInt := by
  rcases fits with ⟨nonnegative, inside⟩
  simp only [LittleEndian.width] at inside
  rw [Int64.toInt_add, Int64.toInt_ofNat_of_lt (by omega)]
  exact Int.bmod_eq_of_le (by omega) (by omega)

theorem bounds_of_mem_slotsFrom {encodings : List Encoding} (seated : Seated encodings)
    (offset : Nat) (bounded : offset + (codeOf encodings).length < 2 ^ 63) :
    ∀ slot ∈ slotsFrom offset encodings, (offset : Int) ≤ slot.toInt ∧
      slot.toInt + LittleEndian.width ≤ offset + (codeOf encodings).length := by
  induction encodings generalizing offset with
  | nil => simp [slotsFrom]
  | cons encoding rest ih =>
      rw [Seated, List.forall_mem_cons] at seated
      rw [codeOf_cons, List.length_append] at bounded
      intro slot slotMem
      rw [slotsFrom, List.mem_append, Option.mem_toList, Option.map_eq_some_iff]
        at slotMem
      rw [codeOf_cons, List.length_append]
      rcases slotMem with ⟨own, slotted, rfl⟩ | later
      · have fits := seated.1 own slotted
        rw [toInt_offset_add fits (by omega)]
        rcases fits with ⟨nonnegative, inside⟩
        omega
      · have bounds := ih seated.2 (offset + encoding.bytes.length) (by omega) slot later
        omega

theorem slotsFrom_apart {encodings : List Encoding} (seated : Seated encodings) (offset : Nat)
    (bounded : offset + (codeOf encodings).length < 2 ^ 63) :
    (slotsFrom offset encodings).Pairwise fun (first second : Int64) =>
      first.toInt + LittleEndian.width ≤ second.toInt := by
  induction encodings generalizing offset with
  | nil => exact .nil
  | cons encoding rest ih =>
      rw [Seated, List.forall_mem_cons] at seated
      rw [codeOf_cons, List.length_append] at bounded
      have restApart := ih seated.2 (offset + encoding.bytes.length) (by omega)
      cases slotted : encoding.slot with
      | none =>
          rw [slotsFrom_cons_plain slotted]
          exact restApart
      | some own =>
          rw [slotsFrom, slotted, Option.map_some, Option.toList_some, List.singleton_append,
            List.pairwise_cons]
          refine ⟨?_, restApart⟩
          intro later laterMem
          -- The own slot ends inside this encoding, and the later ones start behind it.
          have behind := (bounds_of_mem_slotsFrom seated.2 _ (by omega) later laterMem).1
          have fits := seated.1 own slotted
          rw [toInt_offset_add fits (by omega)]
          rcases fits with ⟨nonnegative, inside⟩
          omega

end Template

namespace Encoding

/-- A slot of an encoded instruction lies inside its bytes, of which there are few. -/
theorem fits_of_encoded {instruction : Instruction} {encoding : Encoding}
    (encoded : ofInstruction instruction = .ok encoding) {slot : Int64}
    (slotted : encoding.slot = some slot) :
    LittleEndian.Fits encoding.bytes.length slot ∧ encoding.bytes.length ≤ 7 := by
  rw [ofInstruction_eq_ok_iff] at encoded
  rcases plain_or_withWord_of_row encoded.2.2.2 with
    ⟨bytes, rfl, _⟩ | ⟨lead, word, rfl, _, short⟩
  · simp [plain] at slotted
  · simp only [withWord, Option.ite_none_right_eq_some, Option.some.injEq] at slotted
    rcases slotted with ⟨_, rfl⟩
    simp only [withWord, List.length_append, LittleEndian.length_bytes, LittleEndian.Fits,
      LittleEndian.width]
    rw [Int64.toInt_ofNat_of_lt (by omega)]
    omega

end Encoding

/-- The instructions of a program have the given encodings. -/
def Encodes (program : List Instruction) (encodings : List Encoding) : Prop :=
  List.Forall₂ (fun instruction encoding => Encoding.ofInstruction instruction = .ok encoding)
    program encodings

theorem Encodes.exists_instruction {program : List Instruction} {encodings : List Encoding}
    (encodes : Encodes program encodings) {encoding : Encoding} (mem : encoding ∈ encodings) :
    ∃ instruction ∈ program, Encoding.ofInstruction instruction = .ok encoding := by
  induction encodes with
  | nil => simp at mem
  | cons encoded _ ih =>
      rcases List.mem_cons.mp mem with rfl | later
      · exact ⟨_, List.mem_cons_self, encoded⟩
      · rcases ih later with ⟨instruction, instructionMem, found⟩
        exact ⟨instruction, List.mem_cons_of_mem _ instructionMem, found⟩

theorem seated_of_encodes {program : List Instruction} {encodings : List Encoding}
    (encodes : Encodes program encodings) : Template.Seated encodings := by
  intro encoding encodingMem slot slotted
  rcases encodes.exists_instruction encodingMem with ⟨instruction, _, encoded⟩
  exact (Encoding.fits_of_encoded encoded slotted).1

theorem acceptsSlot_of_encodes {program : List Instruction} {encodings : List Encoding}
    (encodes : Encodes program encodings) :
    ∀ encoding ∈ encodings, ∀ slot, encoding.slot = some slot →
      Template.acceptsSlot encoding.bytes.length slot = true := by
  intro encoding encodingMem slot slotted
  rcases encodes.exists_instruction encodingMem with ⟨instruction, _, encoded⟩
  rcases Encoding.fits_of_encoded encoded slotted with ⟨fits, short⟩
  exact Template.acceptsSlot_of_fits (by omega) fits

theorem Template.le_of_mem_slotsFrom {program : List Instruction} {encodings : List Encoding}
    (encodes : Encodes program encodings) (offset : Nat)
    (bounded : offset + (Template.codeOf encodings).length < 2 ^ 63) :
    ∀ slot ∈ Template.slotsFrom offset encodings, (offset : Int) ≤ slot.toInt := by
  intro slot slotMem
  exact (bounds_of_mem_slotsFrom (seated_of_encodes encodes) offset bounded slot slotMem).1

theorem encodeFrom_eq_ok_iff (statement offset : Nat) (program : List Instruction)
    (encodings : List Encoding) :
    (Assembly.encodeFrom statement offset program).2 = .ok encodings ↔
      Encodes program encodings := by
  induction program generalizing statement offset encodings with
  | nil => simp [Assembly.encodeFrom, Encodes, eq_comm]
  | cons instruction rest ih =>
      cases encoded : Encoding.ofInstruction instruction with
      | error error => simp [Assembly.encodeFrom, Encodes, encoded, List.forall₂_cons_left_iff]
      | ok encoding =>
          simp only [Assembly.encodeFrom, Encodes, encoded, Outcome.map_eq_ok_iff, ih,
            List.forall₂_cons_left_iff, Except.ok.injEq]
          constructor
          · rintro ⟨others, encodes, rfl⟩
            exact ⟨encoding, others, rfl, encodes, rfl⟩
          · rintro ⟨_, others, rfl, encodes, rfl⟩
            exact ⟨others, encodes, rfl⟩

theorem encodeFrom_eq_error_iff (statement offset : Nat) (program : List Instruction)
    (error : AssemblyError) :
    (Assembly.encodeFrom statement offset program).2 = .error error ↔
      ∃ before instruction after reason encodings, program = before ++ instruction :: after ∧
        Encodes before encodings ∧ Encoding.ofInstruction instruction = .error reason ∧
        error = .encoding (statement + before.length) instruction reason := by
  induction program generalizing statement offset with
  | nil => simp [Assembly.encodeFrom]
  | cons first rest ih =>
      cases encoded : Encoding.ofInstruction first with
      | error reason =>
          simp only [Assembly.encodeFrom, encoded, Except.error.injEq]
          constructor
          · rintro rfl
            exact ⟨[], first, rest, reason, [], rfl, .nil, encoded, rfl⟩
          · rintro ⟨before, instruction, after, other, encodings, split, encodes, failed, rfl⟩
            cases before with
            | nil =>
                simp only [List.nil_append, List.cons.injEq] at split
                rcases split with ⟨rfl, _⟩
                rw [encoded, Except.error.injEq] at failed
                simp [failed]
            | cons earlier before =>
                simp only [List.cons_append, List.cons.injEq] at split
                rcases split with ⟨rfl, _⟩
                cases encodes with
                | cons found _ => simp [encoded] at found
      | ok encoding =>
          simp only [Assembly.encodeFrom, encoded, Outcome.map_eq_error_iff, ih]
          constructor
          · rintro ⟨before, instruction, after, reason, encodings, rfl, encodes, failed, rfl⟩
            refine ⟨first :: before, instruction, after, reason, encoding :: encodings, rfl,
              .cons encoded encodes, failed, ?_⟩
            rw [List.length_cons, Nat.add_right_comm, Nat.add_assoc]
          · rintro ⟨before, instruction, after, reason, encodings, split, encodes, failed, rfl⟩
            cases before with
            | nil =>
                simp only [List.nil_append, List.cons.injEq] at split
                rcases split with ⟨rfl, _⟩
                simp [encoded] at failed
            | cons earlier before =>
                simp only [List.cons_append, List.cons.injEq] at split
                rcases split with ⟨rfl, rfl⟩
                cases encodes with
                | cons found encodes =>
                    refine ⟨before, instruction, after, reason, _, rfl, encodes, failed, ?_⟩
                    rw [List.length_cons, Nat.add_right_comm, Nat.add_assoc]

theorem assembleProgram_eq_ok_iff (program : List Instruction) (template : Template) :
    assembleProgram program = .ok template ↔
      ∃ encodings, Encodes program encodings ∧
        template =
          { code := Template.codeOf encodings, slots := Template.slotsFrom 0 encodings } := by
  have encoded := encodeFrom_eq_ok_iff 1 0 program
  unfold assembleProgram Assembly.ofProgram
  cases encoding : Assembly.encodeFrom 1 0 program with
  | mk log outcome =>
      rw [encoding] at encoded
      cases outcome with
      | error error => simp [← encoded]
      | ok encodings =>
          have encodes := (encoded encodings).mp rfl
          have linked := Template.linkFrom_eq_ok (acceptsSlot_of_encodes encodes) 0 0
          simp [← encoded, Template.link, linked, eq_comm]

/-- Assembling fails exactly if some instruction has no encoding, and reports the first one. -/
theorem assembleProgram_eq_error_iff (program : List Instruction) (error : AssemblyError) :
    assembleProgram program = .error error ↔
      ∃ before instruction after reason encodings, program = before ++ instruction :: after ∧
        Encodes before encodings ∧ Encoding.ofInstruction instruction = .error reason ∧
        error = .encoding (before.length + 1) instruction reason := by
  have failing := encodeFrom_eq_error_iff 1 0 program error
  simp only [Nat.add_comm 1] at failing
  rw [← failing]
  unfold assembleProgram Assembly.ofProgram
  cases encoding : Assembly.encodeFrom 1 0 program with
  | mk log outcome =>
      cases outcome with
      | error reason => simp
      | ok encodings =>
          have encodes := (encodeFrom_eq_ok_iff 1 0 program encodings).mp (by rw [encoding])
          have linked := Template.linkFrom_eq_ok (acceptsSlot_of_encodes encodes) 0 0
          simp [Template.link, linked]

theorem category_of_assembleProgram_error {program : List Instruction} {error : AssemblyError}
    (failed : assembleProgram program = .error error) :
    ∃ category, error.category? = some category := by
  rcases (assembleProgram_eq_error_iff program error).mp failed with
    ⟨_, _, _, reason, _, _, _, _, rfl⟩
  exact ⟨reason.category, rfl⟩

/-! ### Source texts -/

theorem programOf_eq_ok_iff (source : List UInt8) (program : List Instruction) :
    Assembly.programOf source = .ok program ↔
      ∃ tokens, Lexer.tokens source = .ok tokens ∧
        Parser.program (tokens ++ [Token.terminator tokens]) = .ok program := by
  unfold Assembly.programOf
  cases Lexer.tokens source with
  | error stray => simp
  | ok tokens =>
      cases parsed : Parser.program (tokens ++ [Token.terminator tokens]) <;> simp [parsed]

theorem programOf_eq_error_iff (source : List UInt8) (error : AssemblyError) :
    Assembly.programOf source = .error error ↔
      (∃ stray, Lexer.tokens source = .error stray ∧ error = .lexing stray) ∨
      ∃ tokens refusal, Lexer.tokens source = .ok tokens ∧
        Parser.program (tokens ++ [Token.terminator tokens]) = .error refusal ∧
        error = .parsing refusal := by
  unfold Assembly.programOf
  cases Lexer.tokens source with
  | error stray => simp [eq_comm]
  | ok tokens =>
      cases parsed : Parser.program (tokens ++ [Token.terminator tokens]) <;> simp [parsed, eq_comm]

theorem category_of_programOf_error {source : List UInt8} {error : AssemblyError}
    (failed : Assembly.programOf source = .error error) :
    ∃ category, error.category? = some category := by
  rcases (programOf_eq_error_iff source error).mp failed with
    ⟨stray, _, rfl⟩ | ⟨_, refusal, _, _, rfl⟩
  · exact ⟨stray.category, rfl⟩
  · exact ⟨refusal.category, rfl⟩

theorem assemble_eq_ok_iff (source : List UInt8) (template : Template) :
    assemble source = .ok template ↔
      ∃ program, Assembly.programOf source = .ok program ∧
        assembleProgram program = .ok template := by
  unfold assemble Assembly.ofSource
  cases Assembly.programOf source with
  | error error => simp
  | ok program => simp [assembleProgram]

theorem assemble_eq_error_iff (source : List UInt8) (error : AssemblyError) :
    assemble source = .error error ↔
      Assembly.programOf source = .error error ∨
      ∃ program, Assembly.programOf source = .ok program ∧
        assembleProgram program = .error error := by
  unfold assemble Assembly.ofSource
  cases Assembly.programOf source with
  | error error => simp
  | ok program => simp [assembleProgram]

/-- The linker finds no fault in what the encoder gives it, so every failure has a category. -/
theorem category_of_assemble_error {source : List UInt8} {error : AssemblyError}
    (failed : assemble source = .error error) : ∃ category, error.category? = some category := by
  rcases (assemble_eq_error_iff source error).mp failed with reading | ⟨program, _, encoding⟩
  · exact category_of_programOf_error reading
  · exact category_of_assembleProgram_error encoding

end Stencil
