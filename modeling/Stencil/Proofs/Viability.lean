import Stencil.Proofs.Parsing

/-!
# Errors are found at the first token that cannot be continued

A token list is viable if some continuation of it is accepted. Every state of the
parser has such a continuation, so what has been read without a refusal is viable;
and a refused token is refused whatever follows it. An error is therefore reported
at the first token with which the list stops being viable, or at the end of a list
that is viable but not complete.

`Reaches` follows the parser over a list that it does not refuse. It says what the
list completes and in which state it ends, and a run over a longer list goes on from
there.
-/

namespace Stencil.Parser

open Grammar

/-! ### What tokens lead to -/

/-- From the first state the tokens complete the instructions and lead to the last state. -/
inductive Reaches : State → List Token → List Instruction → State → Prop where
  | nothing (state : State) : Reaches state [] [] state
  | next {start middle finish : State} {token : Token} {tokens : List Token}
      {program : List Instruction} (stepped : start.step token = .ok (.next middle))
      (reaches : Reaches middle tokens program finish) :
      Reaches start (token :: tokens) program finish
  | complete {start finish : State} {token : Token} {tokens : List Token}
      {instruction : Instruction} {program : List Instruction}
      (stepped : start.step token = .ok (.complete instruction))
      (reaches : Reaches .statement tokens program finish) :
      Reaches start (token :: tokens) (instruction :: program) finish

namespace Reaches

variable {start finish : State} {before : List Token} {program : List Instruction}

theorem run_append (reaches : Reaches start before program finish) (after : List Token) :
    run start (before ++ after) = (run finish after).map (program ++ ·) := by
  induction reaches with
  | nothing state =>
      rw [List.nil_append]
      cases run state after <;> rfl
  | next stepped _ ih =>
      rw [List.cons_append, run, stepped]
      exact ih
  | complete stepped _ ih =>
      rw [List.cons_append, run, stepped]
      dsimp only
      rw [ih]
      cases run _ after <;> rfl

theorem run_refused (reaches : Reaches start before program finish) {token : Token} {fault : Fault}
    (refused : finish.step token = .error fault) (after : List Token) :
    run start (before ++ token :: after) = .error (.refused token fault) := by
  rw [reaches.run_append, run, refused]
  rfl

end Reaches

/-- A token list is read to its end, or one of its tokens is refused. -/
theorem reaches_or_refused (start : State) (tokens : List Token) :
    (∃ program finish, Reaches start tokens program finish) ∨
      ∃ before token after program middle fault, tokens = before ++ token :: after ∧
        Reaches start before program middle ∧ middle.step token = .error fault := by
  induction tokens generalizing start with
  | nil => exact .inl ⟨[], start, .nothing start⟩
  | cons token rest ih =>
      cases stepped : start.step token with
      | error fault => exact .inr ⟨[], token, rest, [], start, fault, rfl, .nothing start, stepped⟩
      | ok step =>
          cases step with
          | next middle =>
              rcases ih middle with ⟨program, finish, reaches⟩ |
                ⟨before, refused, after, program, last, fault, rfl, reaches, refusal⟩
              · exact .inl ⟨program, finish, .next stepped reaches⟩
              · exact .inr ⟨token :: before, refused, after, program, last, fault, rfl,
                  .next stepped reaches, refusal⟩
          | complete instruction =>
              rcases ih .statement with ⟨program, finish, reaches⟩ |
                ⟨before, refused, after, program, last, fault, rfl, reaches, refusal⟩
              · exact .inl ⟨instruction :: program, finish, .complete stepped reaches⟩
              · exact .inr ⟨token :: before, refused, after, instruction :: program, last, fault,
                  rfl, .complete stepped reaches, refusal⟩

/-- An accepted list leads back to the start of a statement. -/
theorem reaches_of_run {start : State} {tokens : List Token} {program : List Instruction}
    (accepted : run start tokens = .ok program) : Reaches start tokens program .statement := by
  rcases reaches_or_refused start tokens with ⟨completed, finish, reaches⟩ |
    ⟨before, token, after, completed, middle, fault, rfl, reaches, refused⟩
  · have read := reaches.run_append []
    rw [List.append_nil, accepted] at read
    by_cases finished : finish = .statement
    · subst finished
      simp only [run, reduceIte, Except.map, List.append_nil, Except.ok.injEq] at read
      rw [read]
      exact reaches
    · simp [run, finished, Except.map] at read
  · rw [reaches.run_refused refused] at accepted
    simp at accepted

/-! ### Every state can be completed -/

/-- Some tokens lead from the state to the end of a program. -/
def State.Completes (state : State) : Prop :=
  ∃ tokens program, run state tokens = .ok program

/-- The token of a mark. -/
def markToken (mark : Mark) : Token :=
  { kind := .mark, text := mark.text, position := .start }

/-- A number that fits everywhere. -/
def zeroToken : Token :=
  { kind := .number, text := "0", position := .start }

/-- The name of a register. -/
def registerToken : Token :=
  { kind := .word, text := "eax", position := .start }

theorem isMark_markToken (mark : Mark) : (markToken mark).isMark mark := by
  simp [Token.isMark, markToken]

theorem isNumber_zeroToken : IsNumber zeroToken 0 := by
  refine ⟨rfl, ?_, by decide⟩
  apply Numeral.Denotes.octal
  exact .single (by decide) (by decide)

theorem namesRegister_registerToken : NamesRegister registerToken .eax :=
  ⟨rfl, by decide, by decide⟩

theorem isDisplacement_zero (negative : Bool) : IsDisplacement negative 0 0 := by
  cases negative <;> simp [IsDisplacement]

theorem isConstant_zero (negative : Bool) : IsConstant negative 0 0 := by
  cases negative <;> exact ⟨by decide, by decide⟩

theorem isAddress_zero : IsAddress 0 0 := by
  simp [IsAddress]

namespace State

theorem completes_of_next {state next : State} {token : Token}
    (stepped : state.step token = .ok (.next next)) (completes : next.Completes) :
    state.Completes := by
  rcases completes with ⟨tokens, program, accepted⟩
  refine ⟨token :: tokens, program, ?_⟩
  rw [run, stepped]
  exact accepted

theorem completes_terminator (instruction : Instruction) :
    (State.terminator instruction).Completes := by
  refine ⟨[markToken .semicolon], [instruction], ?_⟩
  rw [run_terminator_iff]
  exact ⟨_, [], [], rfl, isMark_markToken .semicolon, rfl, rfl⟩

theorem completes_source (mnemonic : Mnemonic) (destination : Operand) :
    (State.operand (.source mnemonic destination)).Completes := by
  apply completes_of_next
  · rw [step_source_iff]
    exact .inl ⟨.eax, namesRegister_registerToken, rfl⟩
  · exact completes_terminator _

theorem completes_separator (mnemonic : Mnemonic) (destination : Operand) :
    (State.separator mnemonic destination).Completes := by
  apply completes_of_next
  · rw [step_separator_iff]
    exact ⟨isMark_markToken .comma, rfl⟩
  · exact completes_source mnemonic destination

theorem completes_fill (role : Role) (operand : Operand) : (role.fill operand).Completes := by
  cases role with
  | destination mnemonic =>
      rw [Role.fill]
      split
      · exact completes_separator mnemonic operand
      · exact completes_terminator _
  | source mnemonic destination => exact completes_terminator _

theorem completes_closing (role : Role) (operand : Operand) :
    (State.closing role operand).Completes := by
  apply completes_of_next
  · rw [step_closing_iff]
    exact ⟨isMark_markToken .closeBracket, rfl⟩
  · exact completes_fill role operand

theorem completes_base (role : Role) (base : Register) : (State.base role base).Completes := by
  apply completes_of_next
  · rw [step_base_iff]
    exact .inr ⟨isMark_markToken .closeBracket, rfl⟩
  · exact completes_fill role _

theorem completes (state : State) : state.Completes := by
  cases state with
  | statement => exact ⟨[], [], rfl⟩
  | operand role =>
      cases role with
      | destination mnemonic =>
          apply completes_of_next
          · rw [step_destination_iff]
            exact .inl ⟨.eax, namesRegister_registerToken, rfl⟩
          · exact completes_fill _ _
      | source mnemonic destination => exact completes_source mnemonic destination
  | separator mnemonic destination => exact completes_separator mnemonic destination
  | terminator instruction => exact completes_terminator instruction
  | bracket role =>
      apply completes_of_next
      · rw [step_bracket_iff]
        exact .inl ⟨.eax, namesRegister_registerToken, rfl⟩
      · exact completes_base role .eax
  | base role base => exact completes_base role base
  | sign role base negative =>
      apply completes_of_next
      · rw [step_sign_iff]
        exact .inr ⟨0, 0, isNumber_zeroToken, isDisplacement_zero negative, rfl⟩
      · exact completes_closing role _
  | displacement role base negative =>
      apply completes_of_next
      · rw [step_displacement_iff]
        exact ⟨0, 0, isNumber_zeroToken, isDisplacement_zero negative, rfl⟩
      · exact completes_closing role _
  | address role =>
      apply completes_of_next
      · rw [step_address_iff]
        exact ⟨0, 0, isNumber_zeroToken, isAddress_zero, rfl⟩
      · exact completes_closing role _
  | closing role operand => exact completes_closing role operand
  | immediate role template =>
      apply completes_of_next
      · rw [step_immediate_iff]
        exact .inr ⟨0, 0, isNumber_zeroToken, isConstant_zero false, rfl⟩
      · exact completes_fill role _
  | negated role template =>
      apply completes_of_next
      · rw [step_negated_iff]
        exact ⟨0, 0, isNumber_zeroToken, isConstant_zero true, rfl⟩
      · exact completes_fill role _

end State

/-! ### Viable lists -/

/-- Some continuation of the tokens is accepted. -/
def Viable (tokens : List Token) : Prop :=
  ∃ further instructions, program (tokens ++ further) = .ok instructions

theorem viable_of_append {first second : List Token} (viable : Viable (first ++ second)) :
    Viable first := by
  rcases viable with ⟨further, instructions, accepted⟩
  rw [List.append_assoc] at accepted
  exact ⟨second ++ further, instructions, accepted⟩

theorem viable_of_reaches {tokens : List Token} {completed : List Instruction} {finish : State}
    (reaches : Reaches .statement tokens completed finish) : Viable tokens := by
  rcases finish.completes with ⟨further, later, accepted⟩
  refine ⟨further, completed ++ later, ?_⟩
  rw [program_eq_ok_iff_run, reaches.run_append, accepted]
  rfl

theorem program_of_run_error {tokens : List Token} {stop : Stop}
    (stopped : run .statement tokens = .error stop) :
    program tokens = .error { stop, last := tokens.getLast? } := by
  rw [program, stopped]
  rfl

/--
A token list is accepted, or it is viable and ends too early, or it has a first token that
cannot be continued and is refused with whatever follows it.
-/
theorem program_cases (tokens : List Token) :
    (∃ instructions, program tokens = .ok instructions) ∨
    (Viable tokens ∧ program tokens = .error { stop := .endOfInput, last := tokens.getLast? }) ∨
    ∃ before token after fault, tokens = before ++ token :: after ∧ Viable before ∧
      ∀ further, program (before ++ token :: further) =
        .error { stop := .refused token fault, last := (before ++ token :: further).getLast? } := by
  rcases reaches_or_refused .statement tokens with ⟨completed, finish, reaches⟩ |
    ⟨before, token, after, completed, middle, fault, rfl, reaches, refused⟩
  · have read := reaches.run_append []
    rw [List.append_nil] at read
    by_cases finished : finish = .statement
    · subst finished
      exact .inl ⟨completed, by rw [program_eq_ok_iff_run, read]; simp [run, Except.map]⟩
    · right
      left
      refine ⟨viable_of_reaches reaches, program_of_run_error ?_⟩
      rw [read, run, if_neg finished]
      rfl
  · right
    right
    refine ⟨before, token, after, fault, rfl, viable_of_reaches reaches, ?_⟩
    intro further
    exact program_of_run_error (reaches.run_refused refused further)

theorem not_viable_of_refused {before : List Token} {token : Token}
    (refused : ∀ further, ∃ error, program (before ++ token :: further) = .error error) :
    ¬Viable (before ++ [token]) := by
  rintro ⟨further, instructions, accepted⟩
  rcases refused further with ⟨error, failed⟩
  rw [List.append_assoc, List.singleton_append, failed] at accepted
  simp at accepted

theorem category_ne_unexpectedEnd (fault : Fault) : fault.category ≠ .unexpectedEnd := by
  cases fault <;> simp [Fault.category]

/--
An error is reported at the end of a viable list, or at the first token with which the
list stops being viable, and its message starts with the line and column of this token.
So a list ends too early exactly if it is viable and not accepted, and every other error
stays the same when tokens are appended.
-/
theorem program_error_at_first_unviable_token (tokens : List Token) :
    (∀ error, program tokens = .error error →
      (error.category = .unexpectedEnd ∧ Viable tokens) ∨
      (error.category ≠ .unexpectedEnd ∧
        ∃ (index : Nat) (inside : index < tokens.length),
          (∃ fault, error.stop = .refused tokens[index] fault) ∧
          (∃ detail, error.message = toString tokens[index].position.line ++ ":" ++
            toString tokens[index].position.column ++ ": " ++ detail) ∧
          Viable (tokens.take index) ∧ ¬Viable (tokens.take (index + 1)))) ∧
    ((∃ error, program tokens = .error error ∧ error.category = .unexpectedEnd) ↔
      Viable tokens ∧ ∀ instructions, program tokens ≠ .ok instructions) ∧
    (∀ error, program tokens = .error error → error.category ≠ .unexpectedEnd →
      ∀ further, ∃ same, program (tokens ++ further) = .error same ∧
        same.category = error.category ∧ same.message = error.message) := by
  rcases program_cases tokens with ⟨instructions, accepted⟩ | ⟨viable, ended⟩ |
    ⟨before, token, after, fault, rfl, viable, refused⟩
  · simp [accepted]
  · simp [ended, viable, ParseError.category, Stop.category]
  · have unviable : ¬Viable (before ++ [token]) :=
      not_viable_of_refused fun further => ⟨_, refused further⟩
    have notEnded : fault.category ≠ .unexpectedEnd := category_ne_unexpectedEnd fault
    refine ⟨?_, ?_, ?_⟩
    · rw [refused after]
      rintro _ ⟨⟩
      right
      refine ⟨notEnded, before.length, by simp, ⟨fault, by simp⟩, ?_, ?_, ?_⟩
      · refine ⟨fault.text token.text ++ ": " ++ fault.category.text, ?_⟩
        simp [ParseError.message, Position.text, String.append_assoc]
      · rw [List.take_left]
        exact viable
      · rw [← List.singleton_append, ← List.append_assoc, List.take_left' (by simp)]
        exact unviable
    · constructor
      · rintro ⟨_, failed, ended⟩
        rw [refused after] at failed
        rcases failed with ⟨⟩
        exact absurd ended notEnded
      · rintro ⟨continued, _⟩
        rw [← List.singleton_append, ← List.append_assoc] at continued
        exact absurd (viable_of_append continued) unviable
    · rw [refused after]
      rintro _ ⟨⟩ _ further
      have later := refused (after ++ further)
      rw [← List.cons_append, ← List.append_assoc] at later
      exact ⟨_, later, rfl, rfl⟩

/--
In `mov eax, [ebx - -128` the number is refused: two signs make the displacement positive,
and 128 is then too large, although a single sign would have allowed it.
-/
theorem program_error_at_first_unviable_token_displacement :
    let tokens : List Token :=
      [⟨.word, "mov", ⟨1, 1⟩⟩, ⟨.word, "eax", ⟨1, 5⟩⟩, ⟨.mark, ",", ⟨1, 8⟩⟩,
        ⟨.mark, "[", ⟨1, 10⟩⟩, ⟨.word, "ebx", ⟨1, 11⟩⟩, ⟨.mark, "-", ⟨1, 15⟩⟩,
        ⟨.mark, "-", ⟨1, 17⟩⟩, ⟨.number, "128", ⟨1, 18⟩⟩]
    let number : Token := ⟨.number, "128", ⟨1, 18⟩⟩
    let error : ParseError := { stop := .refused number (.displacementRange false), last := number }
    program tokens = .error error ∧ error.category ≠ .unexpectedEnd ∧
      (∃ (index : Nat) (inside : index < tokens.length),
        (∃ fault, error.stop = .refused tokens[index] fault) ∧
        (∃ detail, error.message = toString tokens[index].position.line ++ ":" ++
          toString tokens[index].position.column ++ ": " ++ detail) ∧
        Viable (tokens.take index) ∧ ¬Viable (tokens.take (index + 1))) ∧
      error.message = "1:18: displacement 128 does not fit in a signed byte: invalid literal" ∧
      ∀ further, ∃ same, program (tokens ++ further) = .error same ∧
        same.category = error.category ∧ same.message = error.message := by
  intro tokens number error
  have refused : program tokens = .error error := by decide
  have notEnded : error.category ≠ .unexpectedEnd := by decide
  rcases program_error_at_first_unviable_token tokens with ⟨located, _, unchanged⟩
  refine ⟨refused, notEnded, ?_, by decide +kernel, unchanged error refused notEnded⟩
  rcases located error refused with ⟨ended, _⟩ | ⟨_, found⟩
  · exact absurd ended notEnded
  · exact found

end Stencil.Parser
