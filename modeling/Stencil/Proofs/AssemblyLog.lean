import Stencil.Proofs.Placement

/-!
# The log of an assembly

While instructions are encoded, a running offset goes into the log, and the linker counts the
code a second time. Both counts agree: read as spans of code, the entries of a program lie
behind each other from the first byte to the last, each one over the code of its own
instruction, and the slots that they mention are the slots of the template. If an
instruction has no encoding, the log is that of the instructions in front of it.
-/

namespace Stencil

namespace LogEntry

/-- The integer in a field of an entry. -/
def number? (entry : LogEntry) (name : String) : Option Int :=
  match entry.fields.lookup name with
  | some (.integer value) => some value
  | _ => none

end LogEntry

/-- What an entry says about the code of an instruction. -/
structure Span where
  offset : Nat
  size : Nat
  /-- The offset of the slot within the code of the instruction; `-1` stands for no slot. -/
  slot : Int

namespace Span

/-- The span that an entry tells of. -/
def ofEntry? (entry : LogEntry) : Option Span :=
  match (entry.number? "offset").bind Int.toNat?, (entry.number? "size").bind Int.toNat?,
    entry.number? "slot" with
  | some offset, some size, some slot => some { offset, size, slot }
  | _, _, _ => none

/-- The offset of the slot in the whole code. -/
def slot? (span : Span) : Option Int :=
  if span.slot = -1 then none else some (span.offset + span.slot)

/-- Spans lie behind each other from `start` up to `finish`. -/
def Tile (start finish : Nat) : List Span → Prop
  | [] => start = finish
  | span :: rest => span.offset = start ∧ Tile (start + span.size) finish rest

/-- The span lies over the code of the instruction and has its slot. -/
def Shows (code : List UInt8) (instruction : Instruction) (span : Span) : Prop :=
  ∃ encoding, Encoding.ofInstruction instruction = .ok encoding ∧
    span.size = encoding.bytes.length ∧
    (code.drop span.offset).take span.size = encoding.bytes ∧
    span.slot = encoding.slotNumber.toInt

end Span

/-- The entries tell where the instructions are in the template and which slots they have. -/
def Reports (program : List Instruction) (template : Template) (entries : List LogEntry) : Prop :=
  ∃ spans, List.Forall₂ (fun entry span => Span.ofEntry? entry = some span) entries spans ∧
    List.Forall₂ (Span.Shows template.code) program spans ∧
    Span.Tile 0 template.code.length spans ∧
    template.slots = (spans.filterMap Span.slot?).map Int64.ofInt ∧
    (template.Addressable → template.slots.map Int64.toInt = spans.filterMap Span.slot?)

theorem Reports.length_eq {program : List Instruction} {template : Template}
    {entries : List LogEntry} (reports : Reports program template entries) :
    entries.length = program.length := by
  rcases reports with ⟨spans, read, shown, _⟩
  exact read.length_eq.trans shown.length_eq.symm

namespace Assembly

/-- What a log of the given level keeps of an assembly. -/
def kept (level : LogLevel) (source : Option String) (assembly : Assembly) : List LogEntry :=
  (assembly.log.map fun event => { event, source }).filter (·.isKept level)

theorem kept_debug (source : Option String) (assembly : Assembly) :
    assembly.kept .debug source = assembly.log.map fun event => { event, source } := by
  apply List.filter_eq_self.mpr
  intro entry _
  simp [LogEntry.isKept]

end Assembly

/-! ### Spans of encodings -/

namespace Span

/-- The spans of encodings that stand behind `offset` bytes of code. -/
def ofEncodings (offset : Nat) : List Encoding → List Span
  | [] => []
  | encoding :: rest =>
    { offset, size := encoding.bytes.length, slot := encoding.slotNumber.toInt } ::
      ofEncodings (offset + encoding.bytes.length) rest

theorem ofEntry?_encoded (offset : Nat) (encoding : Encoding) (instruction : Instruction)
    (source : Option String) :
    ofEntry? { event := .encoded offset encoding instruction, source } =
      some { offset, size := encoding.bytes.length, slot := encoding.slotNumber.toInt } := by
  cases source <;> rfl

theorem tile_ofEncodings (offset : Nat) (encodings : List Encoding) :
    Tile offset (offset + (Template.codeOf encodings).length) (ofEncodings offset encodings) := by
  induction encodings generalizing offset with
  | nil => rfl
  | cons encoding rest ih =>
      refine ⟨rfl, ?_⟩
      have later := ih (offset + encoding.bytes.length)
      rw [Nat.add_assoc, ← List.length_append] at later
      exact later

theorem shows_ofEncodings {program : List Instruction} {encodings : List Encoding}
    (encodes : Encodes program encodings) (before : List UInt8) :
    List.Forall₂ (Shows (before ++ Template.codeOf encodings)) program
      (ofEncodings before.length encodings) := by
  induction encodes generalizing before with
  | nil => exact .nil
  | @cons instruction encoding program encodings encoded _ ih =>
      refine .cons ⟨encoding, encoded, rfl, ?_, rfl⟩ ?_
      · rw [List.drop_left, Template.codeOf_cons, List.take_left]
      · have later := ih (before ++ encoding.bytes)
        rw [List.append_assoc, List.length_append] at later
        exact later

/-- The slots that spans mention are those of the encodings, with what is in front of them. -/
theorem filterMap_slot?_cons {encoding : Encoding}
    (seated : ∀ slot, encoding.slot = some slot → LittleEndian.Fits encoding.bytes.length slot)
    (offset : Nat) (rest : List Encoding) :
    (ofEncodings offset (encoding :: rest)).filterMap slot? =
      (encoding.slot.map fun slot => (offset : Int) + slot.toInt).toList ++
        (ofEncodings (offset + encoding.bytes.length) rest).filterMap slot? := by
  cases slotted : encoding.slot with
  | none =>
      apply List.filterMap_cons_none
      rw [Encoding.slotNumber, slotted]
      rfl
  | some slot =>
      have nonnegative := (seated slot slotted).1
      have present : slot.toInt ≠ -1 := by omega
      apply List.filterMap_cons_some
      rw [Encoding.slotNumber, slotted]
      exact if_neg present

/-- The linker moves slots in 64 bits, where the log has integers. -/
theorem slotsFrom_eq_map_ofInt {encodings : List Encoding} (seated : Template.Seated encodings)
    (offset : Nat) :
    Template.slotsFrom offset encodings =
      ((ofEncodings offset encodings).filterMap slot?).map Int64.ofInt := by
  induction encodings generalizing offset with
  | nil => rfl
  | cons encoding rest ih =>
      rw [Template.Seated, List.forall_mem_cons] at seated
      have moved : ∀ slot : Int64,
          Int64.ofNat offset + slot = Int64.ofInt (offset + slot.toInt) := by
        intro slot
        rw [Int64.ofInt_add, Int64.ofInt_toInt]
        rfl
      rw [Template.slotsFrom, filterMap_slot?_cons seated.1, List.map_append, ih seated.2]
      congr 1
      cases encoding.slot with
      | none => rfl
      | some slot => exact congrArg (fun moved => [moved]) (moved slot)

theorem map_toInt_slotsFrom {encodings : List Encoding} (seated : Template.Seated encodings)
    (offset : Nat) (bounded : offset + (Template.codeOf encodings).length < 2 ^ 63) :
    (Template.slotsFrom offset encodings).map Int64.toInt =
      (ofEncodings offset encodings).filterMap slot? := by
  induction encodings generalizing offset with
  | nil => rfl
  | cons encoding rest ih =>
      rw [Template.Seated, List.forall_mem_cons] at seated
      rw [Template.codeOf_cons, List.length_append] at bounded
      rw [Template.slotsFrom, filterMap_slot?_cons seated.1, List.map_append,
        ih seated.2 _ (by omega)]
      congr 1
      cases slotted : encoding.slot with
      | none => rfl
      | some slot =>
          apply congrArg fun moved => [moved]
          exact Template.toInt_offset_add (seated.1 slot slotted) (by omega)

end Span

/-! ### What is logged -/

/-- Instructions are logged up to the first one that has no encoding. -/
theorem log_encodeFrom {before after : List Instruction} {encodings : List Encoding}
    (encodes : Encodes before encodings)
    (stops : ∀ instruction ∈ after.head?, ∃ reason,
      Encoding.ofInstruction instruction = .error reason)
    (source : Option String) (statement offset : Nat) :
    List.Forall₂ (fun event span => Span.ofEntry? { event, source } = some span)
      (Assembly.encodeFrom statement offset (before ++ after)).1
      (Span.ofEncodings offset encodings) := by
  induction encodes generalizing statement offset with
  | nil =>
      cases after with
      | nil => exact .nil
      | cons instruction rest =>
          rcases stops instruction rfl with ⟨reason, failed⟩
          rw [List.nil_append, Assembly.encodeFrom, failed]
          exact .nil
  | @cons instruction encoding before encodings encoded _ ih =>
      rw [List.cons_append, Assembly.encodeFrom, encoded]
      exact .cons (Span.ofEntry?_encoded offset encoding instruction source)
        (ih (statement + 1) (offset + encoding.bytes.length))

theorem reports_encodeFrom {before : List Instruction} {encodings : List Encoding}
    (encodes : Encodes before encodings) (after : List Instruction)
    (stops : ∀ instruction ∈ after.head?, ∃ reason,
      Encoding.ofInstruction instruction = .error reason)
    (source : Option String) :
    Reports before { code := Template.codeOf encodings, slots := Template.slotsFrom 0 encodings }
      ((Assembly.encodeFrom 1 0 (before ++ after)).1.map fun event => { event, source }) := by
  have seated := seated_of_encodes encodes
  refine ⟨Span.ofEncodings 0 encodings, ?_, Span.shows_ofEncodings encodes [], ?_,
    Span.slotsFrom_eq_map_ofInt seated 0, ?_⟩
  · rw [List.forall₂_map_left_iff]
    exact log_encodeFrom encodes stops source 1 0
  · simpa using Span.tile_ofEncodings 0 encodings
  · intro addressable
    apply Span.map_toInt_slotsFrom seated 0
    rw [Nat.zero_add]
    exact addressable

theorem exists_encodes {program : List Instruction}
    (encodable : ∀ instruction ∈ program, ∃ encoding,
      Encoding.ofInstruction instruction = .ok encoding) :
    ∃ encodings, Encodes program encodings := by
  induction program with
  | nil => exact ⟨[], .nil⟩
  | cons instruction rest ih =>
      rw [List.forall_mem_cons] at encodable
      rcases encodable.1 with ⟨encoding, encoded⟩
      rcases ih encodable.2 with ⟨encodings, encodes⟩
      exact ⟨encoding :: encodings, .cons encoded encodes⟩

theorem log_ofProgram_of_ok {program : List Instruction} {template : Template}
    (assembled : assembleProgram program = .ok template) :
    (Assembly.ofProgram program).log = (Assembly.encodeFrom 1 0 program).1 ++
      [.assembled program.length template.code.length template.slots.length] := by
  unfold assembleProgram Assembly.ofProgram at *
  cases encoded : Assembly.encodeFrom 1 0 program with
  | mk log outcome =>
      cases outcome with
      | error error => simp [encoded] at assembled
      | ok encodings =>
          cases linked : Template.link encodings with
          | error misplaced => simp [encoded, linked] at assembled
          | ok found =>
              simp only [encoded, linked, Except.ok.injEq] at assembled
              simp only [linked, assembled]

theorem log_ofProgram_of_error {program : List Instruction} {error : AssemblyError}
    (failed : assembleProgram program = .error error) :
    (Assembly.ofProgram program).log = (Assembly.encodeFrom 1 0 program).1 := by
  unfold assembleProgram Assembly.ofProgram at *
  cases encoded : Assembly.encodeFrom 1 0 program with
  | mk log outcome =>
      cases outcome with
      | error error => rfl
      | ok encodings =>
          cases linked : Template.link encodings with
          | error misplaced => simp only [linked]
          | ok found => simp [encoded, linked] at failed

/--
The offsets in a log of debug level are those of the linked code. If all instructions have
encodings, there is an entry for each of them and one for the whole. Read as spans, the entries
of the instructions lie behind each other from the start of the code to its end, each over the
code of its instruction, and the slots of the template are the slots that they mention. The last
entry gives the number of instructions, the size of the code and the number of slots. Otherwise
the first instruction that has no encoding is reported with its own error and its number, and
the log tells of the instructions in front of it in the same way.
-/
theorem debug_log_tells_of_linked_code (program : List Instruction) (source : Option String) :
    let assembly := Assembly.ofProgram program
    let log := assembly.kept .debug source
    ((∀ instruction ∈ program, ∃ encoding, Encoding.ofInstruction instruction = .ok encoding) →
      ∃ template entries total, assembly.result = .ok template ∧ log = entries ++ [total] ∧
        entries.length = program.length ∧ Reports program template entries ∧
        total.event.message = "assembled" ∧
        total.number? "instructions" = some (program.length : Int) ∧
        total.number? "size" = some (template.code.length : Int) ∧
        total.number? "slots" = some (template.slots.length : Int)) ∧
    (∀ before instruction after reason, program = before ++ instruction :: after →
      (∀ earlier ∈ before, ∃ encoding, Encoding.ofInstruction earlier = .ok encoding) →
      Encoding.ofInstruction instruction = .error reason →
      ∃ error template, assembly.result = .error error ∧
        error = .encoding (before.length + 1) instruction reason ∧
        error.message = "error generating code for statement " ++ toString (before.length + 1) ++
          " '" ++ instruction.text ++ "': " ++ reason.message ∧
        log.length = before.length ∧
        assembleProgram before = .ok template ∧ Reports before template log) := by
  intro assembly log
  constructor
  · intro encodable
    rcases exists_encodes encodable with ⟨encodings, encodes⟩
    have assembled := (assembleProgram_eq_ok_iff program _).mpr ⟨encodings, encodes, rfl⟩
    have reports := reports_encodeFrom encodes [] (by simp) source
    rw [List.append_nil] at reports
    have log_eq : log = _ := Assembly.kept_debug source assembly
    rw [log_ofProgram_of_ok assembled, List.map_append] at log_eq
    refine ⟨_, _, _, assembled, log_eq, reports.length_eq, reports, rfl, ?_⟩
    cases source <;> exact ⟨rfl, rfl, rfl⟩
  · rintro before instruction after reason rfl encodable failed
    rcases exists_encodes encodable with ⟨encodings, encodes⟩
    have assembled := (assembleProgram_eq_ok_iff before _).mpr ⟨encodings, encodes, rfl⟩
    have refused := (assembleProgram_eq_error_iff (before ++ instruction :: after) _).mpr
      ⟨before, instruction, after, reason, encodings, rfl, encodes, failed, rfl⟩
    have reports := reports_encodeFrom encodes (instruction :: after)
      (by simpa using ⟨reason, failed⟩) source
    have log_eq : log = _ := Assembly.kept_debug source assembly
    rw [log_ofProgram_of_error refused] at log_eq
    rw [← log_eq] at reports
    exact ⟨_, _, refused, rfl, rfl, reports.length_eq, assembled, reports⟩

/--
`mov eax, [$0x1000]; nop; jmp $5;` is logged in four entries, and in three if a shift by a
templated count follows, which has no encoding.
-/
theorem debug_log_tells_of_linked_code_load_jump_shift :
    let program : List Instruction :=
      [{ mnemonic := .mov, destination := { shape := .register .eax }
         source := { shape := .absolute 0x1000, template := true } },
        { mnemonic := .nop },
        { mnemonic := .jmp, source := { shape := .immediate 5, template := true } }]
    let shift : Instruction :=
      { mnemonic := .shl, destination := { shape := .register .eax }
        source := { shape := .immediate 1, template := true } }
    let template : Template :=
      { code := [0x8B, 0x05, 0x00, 0x10, 0x00, 0x00, 0x90, 0xE9, 0x05, 0x00, 0x00, 0x00]
        slots := [2, 8] }
    (∃ entries total, (Assembly.ofProgram program).kept .debug (some "p.s") = entries ++ [total] ∧
      entries.length = 3 ∧ Reports program template entries ∧
      total.number? "size" = some 12 ∧ total.number? "slots" = some 2) ∧
    (Assembly.ofProgram (program ++ [shift])).result =
      .error (.encoding 4 shift (.templatedShift shift)) ∧
    Reports program template ((Assembly.ofProgram (program ++ [shift])).kept .debug none) := by
  intro program shift template
  have assembled : assembleProgram program = .ok template := rfl
  have encodable : ∀ instruction ∈ program, ∃ encoding,
      Encoding.ofInstruction instruction = .ok encoding := by
    simp only [program, List.forall_mem_cons]
    exact ⟨⟨_, rfl⟩, ⟨_, rfl⟩, ⟨_, rfl⟩, by simp⟩
  rcases (debug_log_tells_of_linked_code program (some "p.s")).1 encodable with
    ⟨_, entries, total, found, log_eq, counted, reports, _, _, size, slots⟩
  rcases found.symm.trans assembled with ⟨⟩
  rcases (debug_log_tells_of_linked_code (program ++ [shift]) none).2 program shift [] _ rfl
    encodable rfl with ⟨_, _, failed, rfl, _, _, assembledBefore, reportsBefore⟩
  rcases assembledBefore.symm.trans assembled with ⟨⟩
  exact ⟨⟨entries, total, log_eq, counted, reports, size, slots⟩, failed, reportsBefore⟩

end Stencil
