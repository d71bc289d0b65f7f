import Stencil.Proofs.Placement
import Stencil.Session

/-!
# Sessions keep slots placed

A session starts with an empty table and carries out steps. Whatever the steps are,
every stored template has placed slots, so no step ever fails because a slot lies
outside the code. Steps store new templates under their target names; the only step
that changes a stored template is overwriting in place, and it keeps the size of the
code and the slots and leaves the other templates alone.

Offsets are 64-bit integers. This is why a step has to be admissible: code that it
makes is addressable, and slots that come from outside do not wrap around.
-/

namespace Stencil

namespace Table

theorem mem_insert {table : Table} {name : String} {template : Template}
    {entry : String × Template} (mem : entry ∈ table.insert name template) :
    entry = (name, template) ∨ entry ∈ table := by
  induction table with
  | nil => simpa [insert] using mem
  | cons first rest ih =>
      rcases first with ⟨firstName, stored⟩
      rw [insert] at mem
      split at mem
      · simpa using mem
      · split at mem
        · rcases List.mem_cons.mp mem with own | later
          · exact .inl own
          · exact .inr (List.mem_cons_of_mem _ later)
        · rcases List.mem_cons.mp mem with same | later
          · exact .inr (List.mem_cons.mpr (.inl same))
          · rcases ih later with own | old
            · exact .inl own
            · exact .inr (List.mem_cons_of_mem _ old)

theorem find?_cons (name first : String) (template : Template) (rest : Table) :
    find? ((first, template) :: rest) name =
      if name = first then some template else rest.find? name := by
  by_cases same : name = first
  · simp [find?, same]
  · simp [find?, List.lookup_cons, beq_eq_false_iff_ne.mpr same, same]

theorem find?_insert (table : Table) (name other : String) (template : Template) :
    (table.insert name template).find? other =
      if other = name then some template else table.find? other := by
  induction table with
  | nil => rw [insert, find?_cons]
  | cons first rest ih =>
      rcases first with ⟨firstName, stored⟩
      rw [insert]
      split
      · rw [find?_cons]
      · split
        · rename_i same
          rw [find?_cons, find?_cons, ← same]
          split <;> rfl
        · rename_i different
          rw [find?_cons, find?_cons, ih]
          by_cases isFirst : other = firstName
          · have notName : other ≠ name := by
              rw [isFirst]
              exact fun same => different same.symm
            simp only [if_pos isFirst, if_neg notName]
          · simp only [if_neg isFirst]

theorem mem_of_find? {table : Table} {name : String} {template : Template}
    (found : table.find? name = some template) : (name, template) ∈ table := by
  rcases List.lookup_eq_some_iff.mp found with ⟨before, after, rfl, _⟩
  simp

/-- Every stored template has placed slots. -/
def Placed (table : Table) : Prop :=
  ∀ name template, (name, template) ∈ table → template.Placed

theorem placed_insert {table : Table} (placed : table.Placed) (name : String)
    {template : Template} (templatePlaced : template.Placed) :
    (table.insert name template).Placed := by
  intro other stored storedMem
  rcases mem_insert storedMem with same | old
  · rcases same with ⟨⟩
    exact templatePlaced
  · exact placed other stored old

end Table

namespace SessionStep

/-- The code that the step makes is addressable, and no slot given to it wraps around. -/
def Admissible : SessionStep → Prop
  | assemble source _ _ => ∀ template, Stencil.assemble source = .ok template → template.Addressable
  | assembleProgram program _ =>
    ∀ template, Stencil.assembleProgram program = .ok template → template.Addressable
  | link encodings _ =>
    (∀ template, Template.link encodings = .ok template → template.Addressable) ∧
      ∀ encoding ∈ encodings, ∀ slot, encoding.slot = some slot → slot.toInt + 4 < 2 ^ 63
  | _ => True

/-- The name under which the step stores a new template. -/
def target? : SessionStep → Option String
  | assemble _ target _ => target
  | assembleProgram _ target => target
  | link _ target => target
  | empty target => target
  | clone _ target => target
  | apply _ target _ => target
  | _ => none

/-- The name of the template that the step overwrites. -/
def receiver? : SessionStep → Option String
  | applyInPlace name _ => name
  | _ => none

end SessionStep

/-- The failure comes from a slot that the assembler or the table should have excluded. -/
def SessionError.SlotAstray : SessionError → Prop
  | .assembly (.linking _) _ => True
  | .patch .slotOutside => True
  | _ => False

theorem assembleProgram_ne_linking (program : List Instruction) (misplaced : MisplacedSlot) :
    assembleProgram program ≠ .error (.linking misplaced) := by
  intro failed
  rcases category_of_assembleProgram_error failed with ⟨category, known⟩
  simp [AssemblyError.category?] at known

theorem assemble_ne_linking (source : List UInt8) (misplaced : MisplacedSlot) :
    assemble source ≠ .error (.linking misplaced) := by
  intro failed
  rcases category_of_assemble_error failed with ⟨category, known⟩
  simp [AssemblyError.category?] at known

namespace Session

/-! ### One step -/

theorem placed_storeResult {table : Table} (placed : table.Placed) (target : String)
    {result : Except SessionError Template}
    (made : ∀ template, result = .ok template → template.Placed) :
    (storeResult table target result).1.Placed := by
  cases result with
  | error error => exact placed
  | ok template => exact Table.placed_insert placed target (made template rfl)

theorem placed_withTemplate {table : Table} (placed : table.Placed) (name : String)
    {next : Template → Table × SessionAnswer}
    (continued : ∀ template, template.Placed → (next template).1.Placed) :
    (withTemplate table name next).1.Placed := by
  cases found : table.find? name with
  | none => simpa [withTemplate, found] using placed
  | some template =>
      have stored := placed name template (Table.mem_of_find? found)
      simpa [withTemplate, found] using continued template stored

theorem fst_step_applyInPlace (table : Table) (name : String) (values : List Int32) :
    (step table (.applyInPlace name values)).1 =
      match table.find? name with
      | none => table
      | some template => table.insert name (template.applyInPlace values).1 := by
  rw [step, withTemplate]
  cases table.find? name with
  | none => rfl
  | some template =>
      dsimp only
      split <;> simp [*]

theorem placed_step {table : Table} (placed : table.Placed) {action : SessionStep}
    (admissible : action.Admissible) : (step table action).1.Placed := by
  cases action with
  | assemble source target insist =>
      apply placed_storeResult placed
      intro template made
      have assembled := Outcome.mapError_eq_ok_iff.mp made
      exact Template.placed_of_assemble assembled (admissible template assembled)
  | assembleProgram program target =>
      apply placed_storeResult placed
      intro template made
      have assembled := Outcome.mapError_eq_ok_iff.mp made
      exact Template.placed_of_assembled assembled (admissible template assembled)
  | link encodings target =>
      apply placed_storeResult placed
      intro template made
      have linked := Outcome.mapError_eq_ok_iff.mp made
      exact Template.placed_of_linked linked (admissible.1 template linked) admissible.2
  | empty target =>
      apply placed_storeResult placed
      rintro template ⟨⟩
      exact Template.placed_empty
  | clone name target =>
      apply placed_withTemplate placed
      intro template stored
      apply placed_storeResult placed
      rintro copy ⟨⟩
      exact stored
  | apply name target values =>
      apply placed_withTemplate placed
      intro template stored
      apply placed_storeResult placed
      intro patched made
      rw [Template.apply_eq_ok (Outcome.mapError_eq_ok_iff.mp made)]
      exact Template.placed_applyInPlace stored values
  | applyInPlace name values =>
      rw [fst_step_applyInPlace]
      cases found : table.find? name with
      | none => exact placed
      | some template =>
          have stored := placed name template (Table.mem_of_find? found)
          exact Table.placed_insert placed name (Template.placed_applyInPlace stored values)
  | patch name values =>
      apply placed_withTemplate placed
      intro template _
      split <;> exact placed
  | dump name perLine => exact placed_withTemplate placed name fun _ _ => placed
  | text name => exact placed_withTemplate placed name fun _ _ => placed
  | overwriteCopy name view index value =>
      exact placed_withTemplate placed name fun _ _ => placed

/-! ### Answers -/

/-- The answer is no failure that comes from a slot astray. -/
def Sound (answer : SessionAnswer) : Prop :=
  ∀ error, answer = .failed error → ¬error.SlotAstray

theorem sound_storeResult {table : Table} {target : String}
    {result : Except SessionError Template}
    (sound : ∀ error, result = .error error → ¬error.SlotAstray) :
    Sound (storeResult table target result).2 := by
  intro error failed
  cases result with
  | error reason =>
      rcases failed with ⟨⟩
      exact sound error rfl
  | ok template => simp [storeResult] at failed

theorem sound_withTemplate {table : Table} {name : String}
    {next : Template → Table × SessionAnswer}
    (sound : ∀ template, table.find? name = some template → Sound (next template).2) :
    Sound (withTemplate table name next).2 := by
  cases found : table.find? name with
  | none =>
      rw [withTemplate, found]
      rintro error ⟨⟩
      exact id
  | some template =>
      rw [withTemplate, found]
      exact sound template found

theorem sound_of_not_failed {answer : SessionAnswer} (succeeds : ∀ error, answer ≠ .failed error) :
    Sound answer :=
  fun error failed => absurd failed (succeeds error)

theorem not_slotAstray_of_patch {error : PatchError} (inside : error ≠ .slotOutside) :
    ¬(SessionError.patch error).SlotAstray := by
  cases error with
  | countMismatch values slots => exact id
  | slotOutside => exact absurd rfl inside

theorem not_slotAstray_of_assembly {error : AssemblyError} {fatal : Bool}
    (linked : ∀ misplaced, error ≠ .linking misplaced) :
    ¬(SessionError.assembly error fatal).SlotAstray := by
  cases error with
  | linking misplaced => exact absurd rfl (linked misplaced)
  | _ => exact id

theorem sound_overwriteCopy (template : Template) (view : View) (index value : Int64) :
    Sound (overwriteCopy template view index value) := by
  intro error failed
  have outside : error = .outside := by
    cases view <;> simp only [overwriteCopy] at failed <;> split at failed <;> simp_all
  rw [outside]
  exact id

theorem sound_step {table : Table} (placed : table.Placed) (action : SessionStep) :
    Sound (step table action).2 := by
  have accessible : ∀ {name template}, table.find? name = some template → template.Accessible :=
    fun found => Template.accessible_of_placed (placed _ _ (Table.mem_of_find? found))
  cases action with
  | assemble source target insist =>
      apply sound_storeResult
      intro error failed
      rcases Outcome.mapError_eq_error_iff.mp failed with ⟨reason, assembling, rfl⟩
      apply not_slotAstray_of_assembly
      rintro misplaced rfl
      exact assemble_ne_linking source misplaced assembling
  | assembleProgram program target =>
      apply sound_storeResult
      intro error failed
      rcases Outcome.mapError_eq_error_iff.mp failed with ⟨reason, assembling, rfl⟩
      apply not_slotAstray_of_assembly
      rintro misplaced rfl
      exact assembleProgram_ne_linking program misplaced assembling
  | link encodings target =>
      apply sound_storeResult
      intro error failed
      rcases Outcome.mapError_eq_error_iff.mp failed with ⟨misplaced, _, rfl⟩
      exact id
  | empty target => exact sound_storeResult fun error failed => by simp at failed
  | clone name target =>
      apply sound_withTemplate
      intro template _
      exact sound_storeResult fun error failed => by simp at failed
  | apply name target values =>
      apply sound_withTemplate
      intro template found
      apply sound_storeResult
      intro error failed
      rcases Outcome.mapError_eq_error_iff.mp failed with ⟨reason, applying, rfl⟩
      apply not_slotAstray_of_patch
      rintro rfl
      exact (accessible found).apply values applying
  | applyInPlace name values =>
      apply sound_withTemplate
      intro template found
      split
      · exact sound_of_not_failed (by simp)
      · rename_i patched error result
        rintro _ ⟨⟩
        apply not_slotAstray_of_patch
        rintro rfl
        apply (accessible found).applyInPlace values
        rw [result]
  | patch name values =>
      apply sound_withTemplate
      intro template found
      split
      · exact sound_of_not_failed (by simp)
      · rename_i error result
        rintro _ ⟨⟩
        apply not_slotAstray_of_patch
        rintro rfl
        exact (accessible found).patch values result
  | dump name perLine => exact sound_withTemplate fun _ _ => sound_of_not_failed (by simp)
  | text name => exact sound_withTemplate fun _ _ => sound_of_not_failed (by simp)
  | overwriteCopy name view index value =>
      exact sound_withTemplate fun template _ => sound_overwriteCopy template view index value

/-! ### What a step leaves alone -/

theorem find?_storeResult_of_ne {table : Table} {target other : String}
    (different : some target ≠ some other) (result : Except SessionError Template) :
    (storeResult table target result).1.find? other = table.find? other := by
  cases result with
  | error error => rfl
  | ok template =>
      have notTarget : other ≠ target := fun same => different (congrArg some same.symm)
      rw [storeResult, Table.find?_insert, if_neg notTarget]

theorem find?_withTemplate {table : Table} {name other : String}
    {next : Template → Table × SessionAnswer}
    (kept : ∀ template, (next template).1.find? other = table.find? other) :
    (withTemplate table name next).1.find? other = table.find? other := by
  cases found : table.find? name with
  | none => rw [withTemplate, found]
  | some template =>
      rw [withTemplate, found]
      exact kept template

theorem find?_step_of_ne (table : Table) {action : SessionStep} {other : String}
    (notTarget : action.target? ≠ some other) (notReceiver : action.receiver? ≠ some other) :
    (step table action).1.find? other = table.find? other := by
  cases action with
  | assemble source target insist => exact find?_storeResult_of_ne notTarget _
  | assembleProgram program target => exact find?_storeResult_of_ne notTarget _
  | link encodings target => exact find?_storeResult_of_ne notTarget _
  | empty target => exact find?_storeResult_of_ne notTarget _
  | clone name target =>
      apply find?_withTemplate
      intro template
      exact find?_storeResult_of_ne notTarget _
  | apply name target values =>
      apply find?_withTemplate
      intro template
      exact find?_storeResult_of_ne notTarget _
  | applyInPlace name values =>
      have different : other ≠ name := by
        simpa [SessionStep.receiver?, eq_comm] using notReceiver
      rw [fst_step_applyInPlace]
      cases table.find? name with
      | none => rfl
      | some template => exact (Table.find?_insert _ _ _ _).trans (if_neg different)
  | patch name values =>
      apply find?_withTemplate
      intro template
      split <;> rfl
  | dump name perLine => exact find?_withTemplate fun _ => rfl
  | text name => exact find?_withTemplate fun _ => rfl
  | overwriteCopy name view index value => exact find?_withTemplate fun _ => rfl

theorem find?_applyInPlace {table : Table} {name : String} {template : Template}
    (found : table.find? name = some template) (values : List Int32) :
    (step table (.applyInPlace name values)).1.find? name =
      some (template.applyInPlace values).1 := by
  rw [fst_step_applyInPlace, found]
  exact (Table.find?_insert _ _ _ _).trans (if_pos rfl)

/-! ### Whole sessions -/

theorem placed_run {table : Table} (placed : table.Placed) {steps : List SessionStep}
    (admissible : ∀ step ∈ steps, step.Admissible) :
    ∀ answer after, (answer, after) ∈ run table steps → after.Placed ∧ Sound answer := by
  induction steps generalizing table with
  | nil => simp [run]
  | cons first rest ih =>
      rw [List.forall_mem_cons] at admissible
      have stepped := placed_step placed admissible.1
      intro answer after mem
      rw [run, List.mem_cons] at mem
      rcases mem with now | later
      · rcases now with ⟨⟩
        exact ⟨stepped, sound_step placed first⟩
      · exact ih stepped admissible.2 answer after later

end Session

/--
After any steps from an empty table, every stored template has placed slots, no access to
them leaves the code, and no answer blames a slot. Assembling never asks the linker for a
misplaced slot. A step changes only what it stores or overwrites, and overwriting keeps
the size of the code and the slots.
-/
theorem session_keeps_slots_placed (steps : List SessionStep)
    (admissible : ∀ step ∈ steps, step.Admissible) :
    (∀ answer table, (answer, table) ∈ Session.run [] steps →
      (∀ name template, (name, template) ∈ table → template.Placed ∧ template.Accessible) ∧
      ∀ error, answer = .failed error → ¬error.SlotAstray) ∧
    (∀ program misplaced, assembleProgram program ≠ .error (.linking misplaced)) ∧
    (∀ (table : Table) (action : SessionStep) (other : String),
      action.target? ≠ some other → action.receiver? ≠ some other →
      (Session.step table action).1.find? other = table.find? other) ∧
    (∀ (table : Table) (name : String) (values : List Int32) (template : Template),
      table.find? name = some template →
      ∃ patched, (Session.step table (.applyInPlace name values)).1.find? name = some patched ∧
        patched.code.length = template.code.length ∧ patched.slots = template.slots) := by
  refine ⟨?_, assembleProgram_ne_linking, ?_, ?_⟩
  · intro answer table mem
    have noTemplates : Table.Placed [] := fun _ _ impossible => by simp at impossible
    rcases Session.placed_run noTemplates admissible answer table mem with ⟨placed, sound⟩
    refine ⟨?_, sound⟩
    intro name template stored
    exact ⟨placed name template stored,
      Template.accessible_of_placed (placed name template stored)⟩
  · intro table action other notTarget notReceiver
    exact Session.find?_step_of_ne table notTarget notReceiver
  · intro table name values template found
    exact ⟨_, Session.find?_applyInPlace found values, Template.length_applyInPlace template values,
      Template.slots_applyInPlace template values⟩

/-- Two slots of one template are overwritten in a copy, and the slot of another one in place. -/
theorem session_keeps_slots_placed_three_templates :
    let program : List Instruction :=
      [{ mnemonic := .push, source := { shape := .immediate 5, template := true } },
        { mnemonic := .nop },
        { mnemonic := .jmp, source := { shape := .immediate 6, template := true } }]
    let steps : List SessionStep :=
      [.assembleProgram program "a", .link [{ bytes := [1, 2, 3, 4, 5], slot := some 1 }] "b",
        .apply "a" "c" [-1, 7], .applyInPlace "b" [256]]
    let table : Table :=
      [("a", { code := [0x68, 5, 0, 0, 0, 0x90, 0xE9, 6, 0, 0, 0], slots := [1, 7] }),
        ("b", { code := [1, 0, 1, 0, 0], slots := [1] }),
        ("c", { code := [0x68, 255, 255, 255, 255, 0x90, 0xE9, 7, 0, 0, 0], slots := [1, 7] })]
    (∀ step ∈ steps, step.Admissible) ∧ (SessionAnswer.done, table) ∈ Session.run [] steps ∧
      ∀ name template, (name, template) ∈ table → template.Placed ∧ template.Accessible := by
  intro program steps table
  have admissible : ∀ step ∈ steps, step.Admissible := by
    simp only [steps, List.forall_mem_cons, SessionStep.Admissible, List.not_mem_nil,
      false_implies, implies_true, and_true]
    refine ⟨?_, ?_, ?_⟩
    · rintro template ⟨⟩
      unfold Template.Addressable
      decide
    · rintro template ⟨⟩
      unfold Template.Addressable
      decide
    · rintro slot ⟨⟩
      decide
  have reached : (SessionAnswer.done, table) ∈ Session.run [] steps := by decide
  exact ⟨admissible, reached,
    ((session_keeps_slots_placed steps admissible).1 _ table reached).1⟩

end Stencil
