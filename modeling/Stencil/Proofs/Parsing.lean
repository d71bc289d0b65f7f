import Stencil.Proofs.Transitions

/-!
# The parser accepts exactly the grammar

Reading from a state inside an operand succeeds exactly if the list starts with
what is missing of the operand and reading goes on successfully from the state
that the complete operand leads to. These equivalences are proved from the last
token of an operand to its first, then for statements, and by induction on the
length of the list for programs.
-/

namespace Stencil.Parser

open Grammar

/-! ### Inside brackets -/

theorem run_closing_iff (role : Role) (operand : Operand) (tokens : List Token)
    (program : List Instruction) :
    run (.closing role operand) tokens = .ok program ↔
      ∃ closing rest, tokens = closing :: rest ∧ closing.isMark .closeBracket ∧
        run (role.fill operand) rest = .ok program := by
  rw [run_eq_ok_iff_next (by simp) (by simp)]
  simp only [step_closing_iff, Step.next.injEq]
  constructor
  · rintro ⟨closing, rest, _, rfl, ⟨closes, rfl⟩, accepted⟩
    exact ⟨closing, rest, rfl, closes, accepted⟩
  · rintro ⟨closing, rest, rfl, closes, accepted⟩
    exact ⟨closing, rest, _, rfl, ⟨closes, rfl⟩, accepted⟩

theorem run_displacement_iff (role : Role) (base : Register) (negative : Bool)
    (tokens : List Token) (program : List Instruction) :
    run (.displacement role base negative) tokens = .ok program ↔
      ∃ number closing rest magnitude displacement, tokens = number :: closing :: rest ∧
        IsNumber number magnitude ∧ IsDisplacement negative magnitude displacement ∧
        closing.isMark .closeBracket ∧
        run (role.fill { shape := .memory base displacement }) rest = .ok program := by
  rw [run_eq_ok_iff_next (by simp) (by simp)]
  simp only [step_displacement_iff, Step.next.injEq]
  constructor
  · rintro ⟨number, _, _, rfl, ⟨magnitude, displacement, isNumber, fits, rfl⟩, accepted⟩
    rw [run_closing_iff] at accepted
    rcases accepted with ⟨closing, rest, rfl, closes, accepted⟩
    exact ⟨number, closing, rest, magnitude, displacement, rfl, isNumber, fits, closes, accepted⟩
  · rintro ⟨number, closing, rest, magnitude, displacement, rfl, isNumber, fits, closes, accepted⟩
    refine ⟨number, _, _, rfl, ⟨magnitude, displacement, isNumber, fits, rfl⟩, ?_⟩
    rw [run_closing_iff]
    exact ⟨closing, rest, rfl, closes, accepted⟩

/-- What follows the first sign of a displacement: perhaps a second one, and the number. -/
theorem run_sign_iff (role : Role) (base : Register) (negative : Bool) (tokens : List Token)
    (program : List Instruction) :
    run (.sign role base negative) tokens = .ok program ↔
      ∃ second turned number closing rest magnitude displacement,
        tokens = second ++ number :: closing :: rest ∧ Optional .minus second turned ∧
        IsNumber number magnitude ∧ IsDisplacement (negative ^^ turned) magnitude displacement ∧
        closing.isMark .closeBracket ∧
        run (role.fill { shape := .memory base displacement }) rest = .ok program := by
  rw [run_eq_ok_iff_next (by simp) (by simp)]
  simp only [step_sign_iff, Step.next.injEq]
  constructor
  · rintro ⟨token, _, _, rfl, ⟨minus, rfl⟩ | ⟨magnitude, displacement, isNumber, fits, rfl⟩,
      accepted⟩
    · rw [run_displacement_iff] at accepted
      rcases accepted with
        ⟨number, closing, rest, magnitude, displacement, rfl, isNumber, fits, closes, accepted⟩
      exact ⟨[token], true, number, closing, rest, magnitude, displacement, rfl, .present minus,
        isNumber, by simpa using fits, closes, accepted⟩
    · rw [run_closing_iff] at accepted
      rcases accepted with ⟨closing, rest, rfl, closes, accepted⟩
      exact ⟨[], false, token, closing, rest, magnitude, displacement, rfl, .absent, isNumber,
        by simpa using fits, closes, accepted⟩
  · rintro ⟨second, turned, number, closing, rest, magnitude, displacement, rfl, signedAgain,
      isNumber, fits, closes, accepted⟩
    cases signedAgain with
    | absent =>
        refine ⟨number, _, _, rfl,
          .inr ⟨magnitude, displacement, isNumber, by simpa using fits, rfl⟩, ?_⟩
        rw [run_closing_iff]
        exact ⟨closing, rest, rfl, closes, accepted⟩
    | present minus =>
        refine ⟨_, _, _, rfl, .inl ⟨minus, rfl⟩, ?_⟩
        rw [run_displacement_iff]
        exact ⟨number, closing, rest, magnitude, displacement, rfl, isNumber, by simpa using fits,
          closes, accepted⟩

theorem run_base_iff (role : Role) (base : Register) (tokens : List Token)
    (program : List Instruction) :
    run (.base role base) tokens = .ok program ↔
      ∃ offset closing rest displacement, tokens = offset ++ closing :: rest ∧
        Offset offset displacement ∧ closing.isMark .closeBracket ∧
        run (role.fill { shape := .memory base displacement }) rest = .ok program := by
  rw [run_eq_ok_iff_next (by simp) (by simp)]
  simp only [step_base_iff, Step.next.injEq]
  constructor
  · rintro ⟨token, rest, _, rfl, ⟨negative, signed, rfl⟩ | ⟨closes, rfl⟩, accepted⟩
    · rw [run_sign_iff] at accepted
      rcases accepted with ⟨second, turned, number, closing, rest, magnitude, displacement, rfl,
        signedAgain, isNumber, fits, closes, accepted⟩
      exact ⟨token :: (second ++ [number]), closing, rest, displacement, by simp,
        .signed signed signedAgain isNumber fits, closes, accepted⟩
    · exact ⟨[], token, rest, 0, rfl, .none, closes, accepted⟩
  · rintro ⟨offset, closing, rest, displacement, rfl, displaced, closes, accepted⟩
    cases displaced with
    | none => exact ⟨closing, rest, _, rfl, .inr ⟨closes, rfl⟩, accepted⟩
    | @signed sign number second negative turned magnitude _ signed signedAgain isNumber fits =>
        refine ⟨sign, second ++ number :: closing :: rest, _, by simp,
          .inl ⟨negative, signed, rfl⟩, ?_⟩
        rw [run_sign_iff]
        exact ⟨second, turned, number, closing, rest, magnitude, displacement, rfl, signedAgain,
          isNumber, fits, closes, accepted⟩

theorem run_address_iff (role : Role) (tokens : List Token) (program : List Instruction) :
    run (.address role) tokens = .ok program ↔
      ∃ number closing rest magnitude address, tokens = number :: closing :: rest ∧
        IsNumber number magnitude ∧ IsAddress magnitude address ∧
        closing.isMark .closeBracket ∧
        run (role.fill { shape := .absolute address, template := true }) rest = .ok program := by
  rw [run_eq_ok_iff_next (by simp) (by simp)]
  simp only [step_address_iff, Step.next.injEq]
  constructor
  · rintro ⟨number, _, _, rfl, ⟨magnitude, address, isNumber, fits, rfl⟩, accepted⟩
    rw [run_closing_iff] at accepted
    rcases accepted with ⟨closing, rest, rfl, closes, accepted⟩
    exact ⟨number, closing, rest, magnitude, address, rfl, isNumber, fits, closes, accepted⟩
  · rintro ⟨number, closing, rest, magnitude, address, rfl, isNumber, fits, closes, accepted⟩
    refine ⟨number, _, _, rfl, ⟨magnitude, address, isNumber, fits, rfl⟩, ?_⟩
    rw [run_closing_iff]
    exact ⟨closing, rest, rfl, closes, accepted⟩

/-- What follows an opening bracket: a base register with its offset, or an address. -/
theorem run_bracket_iff (role : Role) (tokens : List Token) (program : List Instruction) :
    run (.bracket role) tokens = .ok program ↔
      (∃ name offset closing rest base displacement,
        tokens = name :: offset ++ closing :: rest ∧ NamesRegister name base ∧
        Offset offset displacement ∧ closing.isMark .closeBracket ∧
        run (role.fill { shape := .memory base displacement }) rest = .ok program) ∨
      ∃ marks template number closing rest magnitude address,
        tokens = marks ++ number :: closing :: rest ∧ Optional .dollar marks template ∧
        (template = true → role.IsSource) ∧ IsNumber number magnitude ∧
        IsAddress magnitude address ∧ closing.isMark .closeBracket ∧
        run (role.fill { shape := .absolute address, template }) rest = .ok program := by
  rw [run_eq_ok_iff_next (by simp) (by simp)]
  simp only [step_bracket_iff, Step.next.injEq]
  constructor
  · rintro ⟨token, rest, _, rfl, ⟨base, names, rfl⟩ | ⟨dollar, isSource, rfl⟩ |
      ⟨magnitude, address, isNumber, fits, rfl⟩, accepted⟩
    · left
      rw [run_base_iff] at accepted
      rcases accepted with ⟨offset, closing, rest, displacement, rfl, displaced, closes, accepted⟩
      exact ⟨token, offset, closing, rest, base, displacement, rfl, names, displaced, closes,
        accepted⟩
    · right
      rw [run_address_iff] at accepted
      rcases accepted with
        ⟨number, closing, rest, magnitude, address, rfl, isNumber, fits, closes, accepted⟩
      exact ⟨[token], true, number, closing, rest, magnitude, address, rfl, .present dollar,
        fun _ => isSource, isNumber, fits, closes, accepted⟩
    · right
      rw [run_closing_iff] at accepted
      rcases accepted with ⟨closing, rest, rfl, closes, accepted⟩
      exact ⟨[], false, token, closing, rest, magnitude, address, rfl, .absent, by simp, isNumber,
        fits, closes, accepted⟩
  · rintro (⟨name, offset, closing, rest, base, displacement, rfl, names, displaced, closes,
      accepted⟩ | ⟨marks, template, number, closing, rest, magnitude, address, rfl, marked,
      isSource, isNumber, fits, closes, accepted⟩)
    · refine ⟨name, offset ++ closing :: rest, _, rfl, .inl ⟨base, names, rfl⟩, ?_⟩
      rw [run_base_iff]
      exact ⟨offset, closing, rest, displacement, rfl, displaced, closes, accepted⟩
    · cases marked with
      | absent =>
          refine ⟨number, _, _, rfl, .inr (.inr ⟨magnitude, address, isNumber, fits, rfl⟩), ?_⟩
          rw [run_closing_iff]
          exact ⟨closing, rest, rfl, closes, accepted⟩
      | present dollar =>
          refine ⟨_, _, _, rfl, .inr (.inl ⟨dollar, isSource rfl, rfl⟩), ?_⟩
          rw [run_address_iff]
          exact ⟨number, closing, rest, magnitude, address, rfl, isNumber, fits, closes, accepted⟩

/-! ### Operands -/

theorem run_negated_iff (role : Role) (template : Bool) (tokens : List Token)
    (program : List Instruction) :
    run (.negated role template) tokens = .ok program ↔
      ∃ number rest magnitude value, tokens = number :: rest ∧ IsNumber number magnitude ∧
        IsConstant true magnitude value ∧
        run (role.fill { shape := .immediate value, template }) rest = .ok program := by
  rw [run_eq_ok_iff_next (by simp) (by simp)]
  simp only [step_negated_iff, Step.next.injEq]
  constructor
  · rintro ⟨number, rest, _, rfl, ⟨magnitude, value, isNumber, fits, rfl⟩, accepted⟩
    exact ⟨number, rest, magnitude, value, rfl, isNumber, fits, accepted⟩
  · rintro ⟨number, rest, magnitude, value, rfl, isNumber, fits, accepted⟩
    exact ⟨number, rest, _, rfl, ⟨magnitude, value, isNumber, fits, rfl⟩, accepted⟩

theorem run_immediate_iff (role : Role) (template : Bool) (tokens : List Token)
    (program : List Instruction) :
    run (.immediate role template) tokens = .ok program ↔
      ∃ signs negative number rest magnitude value, tokens = signs ++ number :: rest ∧
        Optional .minus signs negative ∧ IsNumber number magnitude ∧
        IsConstant negative magnitude value ∧
        run (role.fill { shape := .immediate value, template }) rest = .ok program := by
  rw [run_eq_ok_iff_next (by simp) (by simp)]
  simp only [step_immediate_iff, Step.next.injEq]
  constructor
  · rintro ⟨token, rest, _, rfl, ⟨minus, rfl⟩ | ⟨magnitude, value, isNumber, fits, rfl⟩, accepted⟩
    · rw [run_negated_iff] at accepted
      rcases accepted with ⟨number, rest, magnitude, value, rfl, isNumber, fits, accepted⟩
      exact ⟨[token], true, number, rest, magnitude, value, rfl, .present minus, isNumber, fits,
        accepted⟩
    · exact ⟨[], false, token, rest, magnitude, value, rfl, .absent, isNumber, fits, accepted⟩
  · rintro ⟨signs, negative, number, rest, magnitude, value, rfl, signed, isNumber, fits, accepted⟩
    cases signed with
    | absent =>
        exact ⟨number, rest, _, rfl, .inr ⟨magnitude, value, isNumber, fits, rfl⟩, accepted⟩
    | present minus =>
        refine ⟨_, _, _, rfl, .inl ⟨minus, rfl⟩, ?_⟩
        rw [run_negated_iff]
        exact ⟨number, rest, magnitude, value, rfl, isNumber, fits, accepted⟩

/-- The operands that a role may have in brackets. -/
def Role.Bracketed (role : Role) (tokens : List Token) (operand : Operand) : Prop :=
  (∃ shape, Memory tokens shape ∧ operand = { shape }) ∨
    (Absolute tokens operand ∧ (operand.template = true → role.IsSource))

theorem run_bracketed_iff (role : Role) {opening : Token} (opens : opening.isMark .openBracket)
    (tokens : List Token) (program : List Instruction) :
    run (.bracket role) tokens = .ok program ↔
      ∃ inner rest operand, tokens = inner ++ rest ∧ role.Bracketed (opening :: inner) operand ∧
        run (role.fill operand) rest = .ok program := by
  rw [run_bracket_iff]
  constructor
  · rintro (⟨name, offset, closing, rest, base, displacement, rfl, names, displaced, closes,
      accepted⟩ | ⟨marks, template, number, closing, rest, magnitude, address, rfl, marked,
      isSource, isNumber, fits, closes, accepted⟩)
    · exact ⟨name :: (offset ++ [closing]), rest, _, by simp,
        .inl ⟨_, .mk opens names displaced closes, rfl⟩, accepted⟩
    · exact ⟨marks ++ [number, closing], rest, _, by simp,
        .inr ⟨.mk opens marked isNumber fits closes, isSource⟩, accepted⟩
  · rintro ⟨inner, rest, operand, rfl, ⟨shape, memory, rfl⟩ | ⟨absolute, isSource⟩, accepted⟩
    · left
      cases memory with
      | @mk _ name closing offset base displacement _ names displaced closes =>
          exact ⟨name, offset, closing, rest, base, displacement, by simp, names, displaced,
            closes, accepted⟩
    · right
      cases absolute with
      | @mk _ number closing marks template magnitude address _ marked isNumber fits closes =>
          exact ⟨marks, template, number, closing, rest, magnitude, address, by simp, marked,
            isSource, isNumber, fits, closes, accepted⟩

theorem run_of_bracketed {role : Role} {tokens rest : List Token} {operand : Operand}
    {program : List Instruction} (bracketed : role.Bracketed tokens operand)
    (accepted : run (role.fill operand) rest = .ok program) :
    ∃ opening inner, tokens ++ rest = opening :: inner ∧ opening.isMark .openBracket ∧
      run (.bracket role) inner = .ok program := by
  have head : ∃ opening inner, tokens = opening :: inner ∧ opening.isMark .openBracket := by
    rcases bracketed with ⟨shape, memory, _⟩ | ⟨absolute, _⟩
    · rcases memory with ⟨opens, _, _, _⟩
      exact ⟨_, _, rfl, opens⟩
    · rcases absolute with ⟨opens, _, _, _, _⟩
      exact ⟨_, _, rfl, opens⟩
  rcases head with ⟨opening, inner, rfl, opens⟩
  refine ⟨opening, inner ++ rest, rfl, opens, ?_⟩
  rw [run_bracketed_iff role opens]
  exact ⟨inner, rest, operand, rfl, bracketed, accepted⟩

theorem destination_iff (mnemonic : Mnemonic) (tokens : List Token) (operand : Operand) :
    Destination tokens operand ↔
      (∃ token register, tokens = [token] ∧ NamesRegister token register ∧
        operand = { shape := .register register }) ∨
      (Role.destination mnemonic).Bracketed tokens operand := by
  constructor
  · rintro (names | memory | ⟨absolute, untemplated⟩)
    · exact .inl ⟨_, _, rfl, names, rfl⟩
    · exact .inr (.inl ⟨_, memory, rfl⟩)
    · exact .inr (.inr ⟨absolute, by simp [untemplated]⟩)
  · rintro (⟨token, register, rfl, names, rfl⟩ | ⟨shape, memory, rfl⟩ | ⟨absolute, isSource⟩)
    · exact .register names
    · exact .memory memory
    · refine .absolute absolute ?_
      by_contra templated
      simpa [Role.IsSource] using isSource (by simpa using templated)

theorem run_destination_iff (mnemonic : Mnemonic) (tokens : List Token)
    (program : List Instruction) :
    run (.operand (.destination mnemonic)) tokens = .ok program ↔
      ∃ operandTokens rest operand, tokens = operandTokens ++ rest ∧
        Destination operandTokens operand ∧
        run ((Role.destination mnemonic).fill operand) rest = .ok program := by
  rw [run_eq_ok_iff_next (by simp) (by simp)]
  simp only [step_destination_iff, Step.next.injEq, destination_iff mnemonic]
  constructor
  · rintro ⟨token, rest, _, rfl, ⟨register, names, rfl⟩ | ⟨opens, rfl⟩, accepted⟩
    · exact ⟨[token], rest, _, rfl, .inl ⟨token, register, rfl, names, rfl⟩, accepted⟩
    · rw [run_bracketed_iff _ opens] at accepted
      rcases accepted with ⟨inner, rest, operand, rfl, bracketed, accepted⟩
      exact ⟨token :: inner, rest, operand, rfl, .inr bracketed, accepted⟩
  · rintro ⟨_, rest, operand, rfl, ⟨token, register, rfl, names, rfl⟩ | bracketed, accepted⟩
    · exact ⟨token, rest, _, rfl, .inl ⟨register, names, rfl⟩, accepted⟩
    · rcases run_of_bracketed bracketed accepted with ⟨opening, inner, tokens_eq, opens, accepted⟩
      exact ⟨opening, inner, _, tokens_eq, .inr ⟨opens, rfl⟩, accepted⟩

theorem run_source_iff (mnemonic : Mnemonic) (destination : Operand) (tokens : List Token)
    (program : List Instruction) :
    run (.operand (.source mnemonic destination)) tokens = .ok program ↔
      ∃ operandTokens rest operand, tokens = operandTokens ++ rest ∧
        Source operandTokens operand ∧
        run ((Role.source mnemonic destination).fill operand) rest = .ok program := by
  rw [run_eq_ok_iff_next (by simp) (by simp)]
  simp only [step_source_iff, Step.next.injEq]
  constructor
  · rintro ⟨token, rest, _, rfl, ⟨register, names, rfl⟩ | ⟨opens, rfl⟩ | ⟨dollar, rfl⟩ |
      ⟨minus, rfl⟩ | ⟨magnitude, value, isNumber, fits, rfl⟩, accepted⟩
    · exact ⟨[token], rest, _, rfl, .register names, accepted⟩
    · rw [run_bracketed_iff _ opens] at accepted
      rcases accepted with ⟨inner, rest, operand, rfl, ⟨shape, memory, rfl⟩ | ⟨absolute, _⟩,
        accepted⟩
      · exact ⟨token :: inner, rest, _, rfl, .memory memory, accepted⟩
      · exact ⟨token :: inner, rest, operand, rfl, .absolute absolute, accepted⟩
    · rw [run_immediate_iff] at accepted
      rcases accepted with
        ⟨signs, negative, number, rest, magnitude, value, rfl, signed, isNumber, fits, accepted⟩
      exact ⟨[token] ++ signs ++ [number], rest, _, by simp,
        .constant (.present dollar) signed isNumber fits, accepted⟩
    · rw [run_negated_iff] at accepted
      rcases accepted with ⟨number, rest, magnitude, value, rfl, isNumber, fits, accepted⟩
      exact ⟨[] ++ [token] ++ [number], rest, _, by simp,
        .constant .absent (.present minus) isNumber fits, accepted⟩
    · exact ⟨[] ++ [] ++ [token], rest, _, by simp, .constant .absent .absent isNumber fits,
        accepted⟩
  · rintro ⟨_, rest, operand, rfl, source, accepted⟩
    cases source with
    | register names => exact ⟨_, rest, _, rfl, .inl ⟨_, names, rfl⟩, accepted⟩
    | memory memory =>
        rcases run_of_bracketed (.inl ⟨_, memory, rfl⟩) accepted with
          ⟨opening, inner, tokens_eq, opens, accepted⟩
        exact ⟨opening, inner, _, tokens_eq, .inr (.inl ⟨opens, rfl⟩), accepted⟩
    | absolute absolute =>
        rcases run_of_bracketed (.inr ⟨absolute, fun _ => ⟨mnemonic, destination, rfl⟩⟩) accepted
          with ⟨opening, inner, tokens_eq, opens, accepted⟩
        exact ⟨opening, inner, _, tokens_eq, .inr (.inl ⟨opens, rfl⟩), accepted⟩
    | @constant _ signs number template negative magnitude value marked signed isNumber fits =>
        cases marked with
        | present dollar =>
            refine ⟨_, signs ++ number :: rest, _, by simp, .inr (.inr (.inl ⟨dollar, rfl⟩)), ?_⟩
            rw [run_immediate_iff]
            exact ⟨signs, negative, number, rest, magnitude, value, rfl, signed, isNumber, fits,
              accepted⟩
        | absent =>
            cases signed with
            | present minus =>
                refine ⟨_, number :: rest, _, by simp, .inr (.inr (.inr (.inl ⟨minus, rfl⟩))), ?_⟩
                rw [run_negated_iff]
                exact ⟨number, rest, magnitude, value, rfl, isNumber, fits, accepted⟩
            | absent =>
                exact ⟨number, rest, _, by simp,
                  .inr (.inr (.inr (.inr ⟨magnitude, value, isNumber, fits, rfl⟩))), accepted⟩

/-! ### Statements -/

theorem run_separator_iff (mnemonic : Mnemonic) (destination : Operand) (tokens : List Token)
    (program : List Instruction) :
    run (.separator mnemonic destination) tokens = .ok program ↔
      ∃ comma rest, tokens = comma :: rest ∧ comma.isMark .comma ∧
        run (.operand (.source mnemonic destination)) rest = .ok program := by
  rw [run_eq_ok_iff_next (by simp) (by simp)]
  simp only [step_separator_iff, Step.next.injEq]
  constructor
  · rintro ⟨comma, rest, _, rfl, ⟨separates, rfl⟩, accepted⟩
    exact ⟨comma, rest, rfl, separates, accepted⟩
  · rintro ⟨comma, rest, rfl, separates, accepted⟩
    exact ⟨comma, rest, _, rfl, ⟨separates, rfl⟩, accepted⟩

theorem statement_of_run_ofMnemonic {name : Token} {mnemonic : Mnemonic} {tokens : List Token}
    {program : List Instruction} (known : mnemonic ∈ Mnemonic.all)
    (names : NamesMnemonic name mnemonic)
    (accepted : run (.ofMnemonic mnemonic) tokens = .ok program) :
    ∃ operands rest instruction, tokens = operands ++ rest ∧
      Statement (name :: operands) instruction ∧
      run (.terminator instruction) rest = .ok program := by
  cases form : mnemonic.form with
  | plain =>
      have takes := (Mnemonic.mem_plain_iff mnemonic).mpr ⟨known, form⟩
      simp only [State.ofMnemonic, form] at accepted
      exact ⟨[], tokens, _, rfl, .plain names takes, accepted⟩
  | destination =>
      have takes := (Mnemonic.mem_destination_iff mnemonic).mpr ⟨known, form⟩
      simp only [State.ofMnemonic, form, run_destination_iff, Role.fill] at accepted
      rcases accepted with ⟨operands, rest, destination, rfl, operand, accepted⟩
      exact ⟨operands, rest, _, rfl, .destination names takes operand, accepted⟩
  | source =>
      have takes := (Mnemonic.mem_source_iff mnemonic).mpr ⟨known, form⟩
      simp only [State.ofMnemonic, form, run_source_iff] at accepted
      rcases accepted with ⟨operands, rest, source, rfl, operand, accepted⟩
      exact ⟨operands, rest, _, rfl, .source names takes operand, accepted⟩
  | destinationAndSource =>
      have takes := (Mnemonic.mem_destinationAndSource_iff mnemonic).mpr ⟨known, form⟩
      simp only [State.ofMnemonic, form, run_destination_iff, Role.fill, Form.hasSource, if_true,
        run_separator_iff, run_source_iff] at accepted
      rcases accepted with ⟨destinationTokens, _, destination, rfl, first, comma, _, rfl,
        separates, sourceTokens, rest, source, rfl, second, accepted⟩
      exact ⟨destinationTokens ++ comma :: sourceTokens, rest, _, by simp,
        .destinationAndSource names takes first separates second, accepted⟩

theorem run_name {name : Token} {mnemonic : Mnemonic} (known : mnemonic ∈ Mnemonic.all)
    (names : NamesMnemonic name mnemonic) (rest : List Token) :
    run .statement (name :: rest) = run (.ofMnemonic mnemonic) rest := by
  have stepped := (step_statement_iff name _).mpr (.inr ⟨mnemonic, known, names, rfl⟩)
  rw [run, stepped]

theorem run_of_statement {tokens rest : List Token} {instruction : Instruction}
    {program : List Instruction} (statement : Statement tokens instruction)
    (accepted : run (.terminator instruction) rest = .ok program) :
    run .statement (tokens ++ rest) = .ok program := by
  cases statement with
  | plain names takes =>
      rcases (Mnemonic.mem_plain_iff _).mp takes with ⟨known, form⟩
      rw [List.cons_append, run_name known names, State.ofMnemonic, form]
      exact accepted
  | @destination _ mnemonic operands _ names takes operand =>
      rcases (Mnemonic.mem_destination_iff _).mp takes with ⟨known, form⟩
      rw [List.cons_append, run_name known names, State.ofMnemonic, form]
      refine (run_destination_iff ..).mpr ⟨operands, rest, _, rfl, operand, ?_⟩
      rw [Role.fill, form]
      exact accepted
  | @source _ mnemonic operands _ names takes operand =>
      rcases (Mnemonic.mem_source_iff _).mp takes with ⟨known, form⟩
      rw [List.cons_append, run_name known names, State.ofMnemonic, form]
      exact (run_source_iff ..).mpr ⟨operands, rest, _, rfl, operand, accepted⟩
  | @destinationAndSource _ comma mnemonic destinationTokens sourceTokens _ _ names takes first
      separates second =>
      rcases (Mnemonic.mem_destinationAndSource_iff _).mp takes with ⟨known, form⟩
      rw [List.append_assoc, List.cons_append, run_name known names, State.ofMnemonic, form]
      refine (run_destination_iff ..).mpr
        ⟨destinationTokens, comma :: (sourceTokens ++ rest), _, rfl, first, ?_⟩
      rw [Role.fill, form]
      refine (run_separator_iff ..).mpr ⟨comma, sourceTokens ++ rest, rfl, separates, ?_⟩
      exact (run_source_iff ..).mpr ⟨sourceTokens, rest, _, rfl, second, accepted⟩

/-! ### Programs -/

theorem run_semicolon {token : Token} (semicolon : token.isMark .semicolon) (rest : List Token) :
    run .statement (token :: rest) = run .statement rest := by
  have stepped := (step_statement_iff token _).mpr (.inl ⟨semicolon, rfl⟩)
  rw [run, stepped]

theorem run_semicolons {leading : List Token} (semicolons : Semicolons leading)
    (rest : List Token) : run .statement (leading ++ rest) = run .statement rest := by
  induction leading with
  | nil => rfl
  | cons token leading ih =>
      rw [Semicolons, List.forall_mem_cons] at semicolons
      rw [List.cons_append, run_semicolon semicolons.1]
      exact ih semicolons.2

theorem run_statement_cons_cases {token : Token} {rest : List Token} {program : List Instruction}
    (accepted : run .statement (token :: rest) = .ok program) :
    (token.isMark .semicolon ∧ run .statement rest = .ok program) ∨
      ∃ operands terminator further instruction later,
        rest = operands ++ terminator :: further ∧ Statement (token :: operands) instruction ∧
        terminator.isMark .semicolon ∧ run .statement further = .ok later ∧
        program = instruction :: later := by
  cases stepped : State.statement.step token with
  | error fault => simp [run, stepped] at accepted
  | ok step =>
      rcases (step_statement_iff token step).mp stepped with
        ⟨semicolon, _⟩ | ⟨mnemonic, known, names, _⟩
      · rw [run_semicolon semicolon] at accepted
        exact .inl ⟨semicolon, accepted⟩
      · rw [run_name known names] at accepted
        rcases statement_of_run_ofMnemonic known names accepted with
          ⟨operands, _, instruction, rfl, statement, closed⟩
        rw [run_terminator_iff] at closed
        rcases closed with ⟨terminator, further, later, rfl, closes, continued, rfl⟩
        exact .inr ⟨operands, terminator, further, instruction, later, rfl, statement, closes,
          continued, rfl⟩

theorem derives_of_run {tokens : List Token} {program : List Instruction}
    (accepted : run .statement tokens = .ok program) : Program tokens program := by
  -- A statement takes several tokens at once, so the induction is on the number of tokens left.
  induction length : tokens.length using Nat.strongRecOn generalizing tokens program with
  | ind count ih =>
      subst length
      cases tokens with
      | nil =>
          simp only [run, reduceIte, Except.ok.injEq] at accepted
          subst accepted
          have noSemicolons : Semicolons [] := by simp [Semicolons]
          exact .mk noSemicolons .none
      | cons token rest =>
          rcases run_statement_cons_cases accepted with ⟨semicolon, continued⟩ |
            ⟨operands, terminator, further, instruction, later, rfl, statement, closes, continued,
              rfl⟩
          · cases ih _ (by simp) continued rfl with
            | @mk leading rest _ semicolons statements =>
                have further : Semicolons (token :: leading) :=
                  List.forall_mem_cons.mpr ⟨semicolon, semicolons⟩
                exact .mk further statements
          · cases ih _ (by simp; omega) continued rfl with
            | @mk leading rest _ semicolons statements =>
                have noSemicolons : Semicolons [] := by simp [Semicolons]
                have derives : Program _ _ :=
                  .mk noSemicolons (.next statement closes semicolons statements)
                simpa using derives

theorem run_of_statements {tokens : List Token} {program : List Instruction}
    (statements : Statements tokens program) : run .statement tokens = .ok program := by
  induction statements with
  | none => simp [run]
  | @next tokens further rest terminator instruction program statement closes semicolons _ ih =>
      rw [List.append_assoc]
      apply run_of_statement statement
      rw [run_terminator_iff]
      refine ⟨terminator, further ++ rest, program, rfl, closes, ?_, rfl⟩
      rw [run_semicolons semicolons]
      exact ih

theorem run_statement_iff (tokens : List Token) (program : List Instruction) :
    run .statement tokens = .ok program ↔ Program tokens program := by
  constructor
  · exact derives_of_run
  · rintro ⟨semicolons, statements⟩
    rw [run_semicolons semicolons]
    exact run_of_statements statements

theorem program_eq_ok_iff_run (tokens : List Token) (instructions : List Instruction) :
    program tokens = .ok instructions ↔ run .statement tokens = .ok instructions := by
  rw [program]
  cases run .statement tokens <;> simp [Except.mapError]

/--
The parser accepts a token list exactly when the grammar derives instructions from it, and these
are the instructions that it returns.
-/
theorem program_eq_ok_iff_derives (tokens : List Token) (instructions : List Instruction) :
    program tokens = .ok instructions ↔ Program tokens instructions := by
  rw [program_eq_ok_iff_run]
  exact run_statement_iff tokens instructions

end Stencil.Parser
