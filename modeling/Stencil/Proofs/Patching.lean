import Stencil.Proofs.Linking
import Stencil.Proofs.LittleEndian
import Stencil.Proofs.WellFormed

/-!
# Patching and assembling again

A program with templated sources can get new values in two ways: the values are
written into the slots of its code, or into its source operands, and the program
is assembled again. Both give the same template. An instruction keeps its row of
the encoding table when its templated value changes, so its size does not change
and neither does the place of any slot; and the slot covers exactly the bytes of
the value.
-/

namespace Stencil

namespace Operand

/-- The operand with another value in the place of its address or constant. -/
def carrying (operand : Operand) (value : Int32) : Operand :=
  match operand.shape with
  | .absolute _ => { operand with shape := .absolute value.toUInt32 }
  | .immediate _ => { operand with shape := .immediate value }
  | _ => operand

end Operand

/--
The program whose templated sources carry the given values, in program order.
Sources for which no value is left keep their own.
-/
def refill : List Instruction → List Int32 → List Instruction
  | [], _ => []
  | program, [] => program
  | instruction :: rest, value :: values =>
    if instruction.source.template then
      { instruction with source := instruction.source.carrying value } :: refill rest values
    else instruction :: refill rest (value :: values)

@[simp]
theorem refill_nil (program : List Instruction) : refill program [] = program := by
  cases program <;> rfl

theorem refill_cons_untemplated {instruction : Instruction} (rest : List Instruction)
    (values : List Int32) (untemplated : instruction.source.template = false) :
    refill (instruction :: rest) values = instruction :: refill rest values := by
  cases values with
  | nil => simp
  | cons value values => simp [refill, untemplated]

theorem refill_cons_templated {instruction : Instruction} (rest : List Instruction)
    (value : Int32) (values : List Int32) (templated : instruction.source.template = true) :
    refill (instruction :: rest) (value :: values) =
      { instruction with source := instruction.source.carrying value } :: refill rest values := by
  simp [refill, templated]

namespace Encoding

/--
The row of a templated address or constant ends in its slot, which holds the value;
the same row with another word belongs to the operand that carries another value.
-/
theorem row_carrying {mnemonic : Mnemonic} {destination source : Shape} {encoding : Encoding}
    (row : Row true mnemonic destination source encoding)
    (carries : source.isAbsolute = true ∨ source.isImmediate = true) :
    ∃ lead word, encoding = withWord lead word true ∧
      ∀ value, Row true mnemonic destination (({ shape := source } : Operand).carrying value).shape
        (withWord lead value.toUInt32 true) := by
  cases row with
  | moveAbsolute target address =>
      refine ⟨[_, _], _, eq_withWord rfl rfl, fun value => ?_⟩
      rw [withWord_eq]
      exact .moveAbsolute target value.toUInt32
  | moveConstant target old =>
      refine ⟨[_], _, eq_withWord rfl rfl, fun value => ?_⟩
      rw [withWord_eq]
      exact .moveConstant target value
  | moveStoreConstant base displacement old notStack =>
      refine ⟨[_, _, _], _, eq_withWord rfl rfl, fun value => ?_⟩
      rw [withWord_eq]
      exact .moveStoreConstant base displacement value notStack
  | arithmeticConstant operation target old =>
      refine ⟨[_, _], _, eq_withWord rfl rfl, fun value => ?_⟩
      rw [withWord_eq]
      exact .arithmeticConstant operation target value
  | pushConstant old =>
      refine ⟨[_], _, eq_withWord rfl rfl, fun value => ?_⟩
      rw [withWord_eq]
      exact .pushConstant value
  | callOffset old =>
      refine ⟨[_], _, eq_withWord rfl rfl, fun value => ?_⟩
      rw [withWord_eq]
      exact .callOffset value
  | jumpNear old far =>
      refine ⟨[_], _, eq_withWord rfl rfl, fun value => ?_⟩
      rw [withWord_eq]
      exact .jumpNear value (.inl rfl)
  | shiftByOne operation target untemplated => simp at untemplated
  | shiftByConstant operation target count untemplated nonnegative bounded notOne =>
      simp at untemplated
  | jumpShort old untemplated lower upper => simp at untemplated
  | _ => simp [Shape.isAbsolute, Shape.isImmediate] at carries

theorem registersValid_carrying {operand : Operand} (valid : operand.shape.RegistersValid)
    (value : Int32) : (operand.carrying value).shape.RegistersValid := by
  rcases operand with ⟨shape, template⟩
  cases shape with
  | absolute address => simp [Operand.carrying, Shape.RegistersValid, Shape.register?]
  | immediate old => simp [Operand.carrying, Shape.RegistersValid, Shape.register?]
  | _ => exact valid

theorem ofInstruction_carrying {instruction : Instruction} {encoding : Encoding}
    (encoded : ofInstruction instruction = .ok encoding)
    (canonical : instruction.source.Canonical) (templated : instruction.source.template = true) :
    ∃ lead word, encoding = withWord lead word true ∧
      ∀ value, ofInstruction { instruction with source := instruction.source.carrying value } =
        .ok (withWord lead value.toUInt32 true) := by
  rw [ofInstruction_eq_ok_iff] at encoded
  rcases encoded with ⟨destinationValid, sourceValid, untemplated, found⟩
  rw [templated] at found
  rcases row_carrying found (canonical templated) with ⟨lead, word, encoding_eq, carried⟩
  refine ⟨lead, word, encoding_eq, ?_⟩
  intro value
  rw [ofInstruction_eq_ok_iff]
  refine ⟨destinationValid, registersValid_carrying sourceValid value, untemplated, ?_⟩
  have carried := carried value
  rcases instruction with ⟨mnemonic, destination, ⟨shape, template⟩⟩
  dsimp only at templated
  subst templated
  cases shape <;> exact carried

end Encoding

namespace Template

/--
Storing values in the slots of linked encodings gives the linked encodings of the
refilled program. `before` is the code in front, whose slots have been stored already.
-/
theorem store_eq_refill {program : List Instruction} {encodings : List Encoding}
    (encodes : Encodes program encodings)
    (canonical : ∀ instruction ∈ program, instruction.Canonical) {values : List Int32}
    {offset : Nat} (counted : values.length = (slotsFrom offset encodings).length) :
    ∃ patched, Encodes (refill program values) patched ∧
      slotsFrom offset patched = slotsFrom offset encodings ∧
      ∀ before : List UInt8, before.length = offset →
        (before ++ codeOf encodings).length < 2 ^ 63 →
        store (before ++ codeOf encodings) ((slotsFrom offset encodings).zip values) =
          { code := before ++ codeOf patched, complete := true } := by
  induction encodes generalizing values offset with
  | nil => exact ⟨[], .nil, rfl, fun before _ _ => rfl⟩
  | @cons instruction encoding program encodings encoded encodes ih =>
      have restCanonical : ∀ other ∈ program, other.Canonical :=
        fun other otherMem => canonical other (List.mem_cons_of_mem _ otherMem)
      cases templated : instruction.source.template with
      | false =>
          have unslotted := Encoding.slot_eq_none_of_untemplated encoded templated
          simp only [slotsFrom_cons_plain unslotted] at counted ⊢
          rcases ih restCanonical counted with ⟨patched, refilled, slots_eq, stored⟩
          refine ⟨encoding :: patched, ?_, ?_, ?_⟩
          · rw [refill_cons_untemplated program values templated]
            exact .cons encoded refilled
          · rw [slotsFrom_cons_plain unslotted, slots_eq]
          · intro before before_eq bounded
            have stored := stored (before ++ encoding.bytes) (by simp [before_eq])
              (by simpa using bounded)
            simpa using stored
      | true =>
          rcases Encoding.ofInstruction_carrying encoded
            (canonical instruction List.mem_cons_self).2 templated with
            ⟨lead, word, rfl, carried⟩
          simp only [slotsFrom_cons_withWord] at counted ⊢
          cases values with
          | nil => simp at counted
          | cons value values =>
              simp only [List.length_cons, Nat.add_right_cancel_iff] at counted
              rcases ih restCanonical counted with ⟨patched, refilled, slots_eq, stored⟩
              refine ⟨Encoding.withWord lead value.toUInt32 true :: patched, ?_, ?_, ?_⟩
              · rw [refill_cons_templated program value values templated]
                exact .cons (carried value) refilled
              · rw [slotsFrom_cons_withWord, slots_eq]
              · intro before before_eq bounded
                -- The slot starts behind `before ++ lead`, so the write replaces `word` alone.
                have written := LittleEndian.write?_field (before ++ lead) (codeOf encodings)
                  value.toUInt32 (LittleEndian.length_bytes word)
                  (by simpa [Encoding.withWord] using bounded)
                have stored := stored (before ++ lead ++ LittleEndian.bytes value.toUInt32)
                  (by simp [before_eq, LittleEndian.width, Nat.add_assoc])
                  (by simpa [Encoding.withWord] using bounded)
                simp only [List.length_append, before_eq, List.append_assoc] at written
                simp only [List.append_assoc] at stored
                simp only [codeOf_cons, Encoding.withWord, List.zip_cons_cons, store,
                  List.append_assoc, written, stored]

end Template

/--
Writing values into the slots of an assembled program gives the template of the same
program with these values in its templated sources; that program can be assembled.
-/
theorem apply_eq_assembleProgram_refill {program : List Instruction} {template : Template}
    {values : List Int32} (canonical : ∀ instruction ∈ program, instruction.Canonical)
    (assembled : assembleProgram program = .ok template) (addressable : template.Addressable)
    (counted : values.length = template.slots.length) :
    ∃ patched, template.apply values = .ok patched ∧
      assembleProgram (refill program values) = .ok patched := by
  rcases (assembleProgram_eq_ok_iff program template).mp assembled with ⟨encodings, encodes, rfl⟩
  rcases Template.store_eq_refill encodes canonical counted with
    ⟨patched, refilled, slots_eq, stored⟩
  have stored := stored [] rfl addressable
  refine ⟨{ code := Template.codeOf patched, slots := Template.slotsFrom 0 patched }, ?_, ?_⟩
  · simp only [List.nil_append] at stored
    simp [Template.apply, Template.applyInPlace, counted, stored, slots_eq]
  · exact (assembleProgram_eq_ok_iff _ _).mpr ⟨patched, refilled, rfl⟩

/--
`mov eax, [$0x1000]; nop; jmp $5;` gets the values `-2` and `7`: the jump stays in its
long form although both of its offsets would fit into a byte.
-/
theorem apply_eq_assembleProgram_refill_load_jump :
    let program : List Instruction :=
      [{ mnemonic := .mov, destination := { shape := .register .eax }
         source := { shape := .absolute 0x1000, template := true } },
        { mnemonic := .nop },
        { mnemonic := .jmp, source := { shape := .immediate 5, template := true } }]
    let template : Template :=
      { code := [0x8B, 0x05, 0x00, 0x10, 0x00, 0x00, 0x90, 0xE9, 0x05, 0x00, 0x00, 0x00]
        slots := [2, 8] }
    assembleProgram program = .ok template ∧
      ∃ patched, template.apply [-2, 7] = .ok patched ∧
        assembleProgram (refill program [-2, 7]) = .ok patched := by
  intro program template
  have assembled : assembleProgram program = .ok template := rfl
  refine ⟨assembled, apply_eq_assembleProgram_refill ?_ assembled ?_ rfl⟩
  · simp [program, Instruction.Canonical, Operand.Canonical, Operand.absent, Shape.isAbsolute,
      Shape.isImmediate]
  · simp [Template.Addressable, template]

end Stencil
