import Stencil.Program.Parser
import Stencil.Proofs.Grammar
import Stencil.Proofs.Names

/-!
# Transitions of the parser

For every state of the parser this file says which tokens it accepts and where
they lead, in the words of the grammar. Everything that is proved about the parser
rests on these statements and on `Parser.run_eq_ok_iff_next`, which takes one token
off an accepted list; the definition of a step is not opened again.
-/

namespace Stencil

namespace Token

theorem isMark_iff (token : Token) (mark : Mark) :
    token.isMark mark ↔ token.kind = .mark ∧ token.text = mark.text := by
  simp [isMark]

theorem isWord_iff (token : Token) : token.isWord ↔ token.kind = .word := by
  simp [isWord]

theorem isNumber_iff (token : Token) : token.isNumber ↔ token.kind = .number := by
  simp [isNumber]

/-- A token is at most one mark. -/
theorem mark_unique {token : Token} {first second : Mark} (isFirst : token.isMark first)
    (isSecond : token.isMark second) : first = second := by
  rw [isMark_iff] at isFirst isSecond
  have text_eq : first.text = second.text := isFirst.2.symm.trans isSecond.2
  have character_eq : first.character = second.character := by
    simpa [Mark.text] using text_eq
  cases first <;> cases second <;> simp_all [Mark.character]

theorem not_isMark_of_isMark {token : Token} {mark other : Mark} (isMark : token.isMark mark)
    (different : mark ≠ other) : ¬token.isMark other := by
  intro isOther
  exact different (mark_unique isMark isOther)

theorem not_isMark_of_word {token : Token} (word : token.kind = .word) (mark : Mark) :
    ¬token.isMark mark := by
  simp [isMark, word]

theorem not_isMark_of_number {token : Token} (number : token.kind = .number) (mark : Mark) :
    ¬token.isMark mark := by
  simp [isMark, number]

theorem isMark_terminator (tokens : List Token) : (terminator tokens).isMark .semicolon := by
  simp [isMark, terminator]

end Token

namespace Parser

open Grammar

/-! ### Words and numbers -/

theorem register_eq_ok_iff (token : Token) (name : Register) :
    register token = .ok name ↔ Register.ofName? token.text = some name := by
  unfold register
  cases Register.ofName? token.text with
  | none => simp
  | some found => simp

theorem literal_eq_ok_iff (token : Token) (value : Nat) :
    literal token = .ok value ↔ Numeral.Denotes token.text.toList value ∧ value < 2 ^ 64 := by
  rw [← Numeral.natural_eq_ok_iff]
  unfold literal
  cases Numeral.natural token.text.toList with
  | error error => simp
  | ok found => simp

theorem displacementOf_eq_ok_iff (negative : Bool) (magnitude : Nat) (displacement : Int8) :
    displacementOf negative magnitude = .ok displacement ↔
      IsDisplacement negative magnitude displacement := by
  cases negative with
  | true =>
      simp only [displacementOf, IsDisplacement, if_true, Outcome.ite_error_eq_ok_iff]
      apply and_congr_right
      intro fits
      constructor
      · rintro rfl
        exact Int8.toInt_ofInt_of_le (by omega) (by omega)
      · intro value_eq
        rw [← value_eq, Int8.ofInt_toInt]
  | false =>
      simp only [displacementOf, IsDisplacement, if_false, Bool.false_eq_true,
        Outcome.ite_error_eq_ok_iff]
      apply and_congr_right
      intro fits
      constructor
      · rintro rfl
        exact Int8.toInt_ofNat_of_lt (by omega)
      · intro value_eq
        rw [← Int8.ofInt_toInt displacement, value_eq, Int8.ofInt_eq_ofNat]

theorem immediateOf_eq_ok_iff (negative : Bool) (magnitude : Nat) (value : Int32) :
    immediateOf negative magnitude = .ok value ↔ IsConstant negative magnitude value := by
  cases negative with
  | true =>
      simp only [immediateOf, IsConstant, if_true, Outcome.ite_error_eq_ok_iff]
      apply and_congr_right
      intro fits
      have bounded : magnitude ≤ 2 ^ 31 := fits
      constructor
      · rintro rfl
        exact Int32.toInt_ofInt_of_le (by omega) (by omega)
      · intro value_eq
        rw [← value_eq, Int32.ofInt_toInt]
  | false =>
      simp only [immediateOf, IsConstant, if_false, Bool.false_eq_true,
        Outcome.ite_error_eq_ok_iff, Int32.ofInt_eq_ofNat]
      apply and_congr_right
      intro fits
      constructor
      · rintro rfl
        rw [Int32.toUInt32_ofNat', UInt32.toNat_ofNat', Nat.mod_eq_of_lt fits]
      · rintro rfl
        rw [← UInt32.toInt32_ofNat', UInt32.ofNat_toNat, Int32.toInt32_toUInt32]

theorem addressOf_eq_ok_iff (magnitude : Nat) (address : UInt32) :
    addressOf magnitude = .ok address ↔ IsAddress magnitude address := by
  simp only [addressOf, IsAddress, Outcome.ite_error_eq_ok_iff]
  apply and_congr_right
  intro fits
  constructor
  · rintro rfl
    rw [UInt32.toNat_ofNat', Nat.mod_eq_of_lt fits]
  · rintro rfl
    simp

theorem names_register_iff (token : Token) (name : Register) :
    NamesRegister token name ↔ token.isWord ∧ register token = .ok name := by
  rw [register_eq_ok_iff, Register.ofName?_eq_some_iff, Token.isWord_iff, NamesRegister]

theorem isNumber_iff (token : Token) (value : Nat) :
    IsNumber token value ↔ token.isNumber ∧ literal token = .ok value := by
  rw [literal_eq_ok_iff, Token.isNumber_iff, IsNumber]

/-! ### Numbers that complete a part of an operand -/

theorem readDisplacement_eq_ok_iff (role : Role) (base : Register) (negative : Bool)
    (token : Token) (step : Step) :
    readDisplacement role base negative token = .ok step ↔
      ∃ magnitude displacement, IsNumber token magnitude ∧
        IsDisplacement negative magnitude displacement ∧
        step = .next (.closing role { shape := .memory base displacement }) := by
  by_cases number : token.isNumber
  · simp only [readDisplacement, number, if_true, Outcome.bind_eq_ok_iff,
      displacementOf_eq_ok_iff, isNumber_iff, true_and, pure, Except.pure, Except.ok.injEq]
    constructor
    · rintro ⟨magnitude, read, displacement, fits, rfl⟩
      exact ⟨magnitude, displacement, read, fits, rfl⟩
    · rintro ⟨magnitude, displacement, read, fits, rfl⟩
      exact ⟨magnitude, read, displacement, fits, rfl⟩
  · simp [readDisplacement, number, isNumber_iff]

theorem readImmediate_eq_ok_iff (role : Role) (template negative : Bool) (token : Token)
    (step : Step) :
    readImmediate role template negative token = .ok step ↔
      ∃ magnitude value, IsNumber token magnitude ∧ IsConstant negative magnitude value ∧
        step = .next (role.fill { shape := .immediate value, template }) := by
  by_cases number : token.isNumber
  · simp only [readImmediate, number, if_true, Outcome.bind_eq_ok_iff, immediateOf_eq_ok_iff,
      isNumber_iff, true_and, pure, Except.pure, Except.ok.injEq]
    constructor
    · rintro ⟨magnitude, read, value, fits, rfl⟩
      exact ⟨magnitude, value, read, fits, rfl⟩
    · rintro ⟨magnitude, value, read, fits, rfl⟩
      exact ⟨magnitude, read, value, fits, rfl⟩
  · simp [readImmediate, number, isNumber_iff]

theorem readAddress_eq_ok_iff (role : Role) (template : Bool) (token : Token) (step : Step) :
    token.isNumber ∧ readAddress role template token = .ok step ↔
      ∃ magnitude address, IsNumber token magnitude ∧ IsAddress magnitude address ∧
        step = .next (.closing role { shape := .absolute address, template }) := by
  simp only [readAddress, Outcome.bind_eq_ok_iff, addressOf_eq_ok_iff, isNumber_iff, pure,
    Except.pure, Except.ok.injEq]
  constructor
  · rintro ⟨number, magnitude, read, address, fits, rfl⟩
    exact ⟨magnitude, address, ⟨number, read⟩, fits, rfl⟩
  · rintro ⟨magnitude, address, ⟨number, read⟩, fits, rfl⟩
    exact ⟨number, magnitude, read, address, fits, rfl⟩

/-! ### States -/

theorem not_isNumber_of_isMark {token : Token} {mark : Mark} (isMark : token.isMark mark)
    (value : Nat) : ¬IsNumber token value := by
  intro number
  exact Token.not_isMark_of_number number.1 mark isMark

theorem sign_iff (token : Token) (negative : Bool) :
    Sign token negative ↔ token.isMark (if negative then .minus else .plus) := by
  constructor
  · rintro (isMark | isMark) <;> exact isMark
  · intro isMark
    cases negative with
    | false => exact .plus isMark
    | true => exact .minus isMark

theorem step_statement_iff (token : Token) (step : Step) :
    State.statement.step token = .ok step ↔
      (token.isMark .semicolon ∧ step = .next .statement) ∨
      ∃ mnemonic ∈ Mnemonic.all, NamesMnemonic token mnemonic ∧
        step = .next (.ofMnemonic mnemonic) := by
  have named : ∀ mnemonic, mnemonic ∈ Mnemonic.all ∧ NamesMnemonic token mnemonic ↔
      token.isWord ∧ Mnemonic.ofName? token.text = some mnemonic := by
    intro mnemonic
    rw [Mnemonic.ofName?_eq_some_iff, Token.isWord_iff, NamesMnemonic]
    exact and_left_comm
  simp only [← and_assoc, named]
  by_cases semicolon : token.isMark .semicolon
  · have noWord : ¬token.isWord := by
      intro word
      exact Token.not_isMark_of_word (token.isWord_iff.mp word) _ semicolon
    simp [State.step, semicolon, noWord, @eq_comm _ step]
  · by_cases word : token.isWord
    · cases found : Mnemonic.ofName? token.text with
      | none => simp [State.step, semicolon, word, found]
      | some mnemonic => simp [State.step, semicolon, word, found, @eq_comm _ step]
    · simp [State.step, semicolon, word]

theorem step_destination_iff (mnemonic : Mnemonic) (token : Token) (step : Step) :
    (State.operand (.destination mnemonic)).step token = .ok step ↔
      (∃ name, NamesRegister token name ∧
        step = .next ((Role.destination mnemonic).fill { shape := .register name })) ∨
      (token.isMark .openBracket ∧ step = .next (.bracket (.destination mnemonic))) := by
  simp only [State.step, startOperand, startDestination, names_register_iff]
  by_cases word : token.isWord
  · have noBracket := Token.not_isMark_of_word (token.isWord_iff.mp word) .openBracket
    simp [word, noBracket, Outcome.bind_eq_ok_iff, pure, Except.pure, @eq_comm _ step]
  · by_cases bracket : token.isMark .openBracket
    · simp [word, bracket, @eq_comm _ step]
    · by_cases dollar : token.isMark .dollar
      · simp [word, bracket, dollar]
      · simp [word, bracket, dollar]

theorem step_source_iff (mnemonic : Mnemonic) (destination : Operand) (token : Token)
    (step : Step) :
    (State.operand (.source mnemonic destination)).step token = .ok step ↔
      (∃ name, NamesRegister token name ∧
        step = .next ((Role.source mnemonic destination).fill { shape := .register name })) ∨
      (token.isMark .openBracket ∧ step = .next (.bracket (.source mnemonic destination))) ∨
      (token.isMark .dollar ∧ step = .next (.immediate (.source mnemonic destination) true)) ∨
      (token.isMark .minus ∧ step = .next (.negated (.source mnemonic destination) false)) ∨
      ∃ magnitude value, IsNumber token magnitude ∧ IsConstant false magnitude value ∧
        step = .next ((Role.source mnemonic destination).fill { shape := .immediate value }) := by
  simp only [State.step, startOperand, startSource]
  by_cases word : token.isWord
  · have noMark := Token.not_isMark_of_word (token.isWord_iff.mp word)
    have noNumber : ∀ magnitude, ¬IsNumber token magnitude := by
      intro magnitude number
      simp [Token.isWord, number.1] at word
    simp [word, noMark, noNumber, names_register_iff, Outcome.bind_eq_ok_iff, pure, Except.pure,
      @eq_comm _ step]
  · simp only [names_register_iff, word]
    by_cases bracket : token.isMark .openBracket
    · have noDollar := Token.not_isMark_of_isMark bracket (by decide : Mark.openBracket ≠ .dollar)
      have noMinus := Token.not_isMark_of_isMark bracket (by decide : Mark.openBracket ≠ .minus)
      simp [bracket, noDollar, noMinus, not_isNumber_of_isMark bracket, @eq_comm _ step]
    · by_cases dollar : token.isMark .dollar
      · have noMinus := Token.not_isMark_of_isMark dollar (by decide : Mark.dollar ≠ .minus)
        simp [bracket, dollar, noMinus, not_isNumber_of_isMark dollar, @eq_comm _ step]
      · by_cases minus : token.isMark .minus
        · simp [bracket, dollar, minus, not_isNumber_of_isMark minus, @eq_comm _ step]
        · by_cases number : token.isNumber
          · simp [bracket, dollar, minus, number, readImmediate_eq_ok_iff]
          · simp [bracket, dollar, minus, number, isNumber_iff]

theorem step_separator_iff (mnemonic : Mnemonic) (destination : Operand) (token : Token)
    (step : Step) :
    (State.separator mnemonic destination).step token = .ok step ↔
      token.isMark .comma ∧ step = .next (.operand (.source mnemonic destination)) := by
  simp only [State.step, Outcome.ite_error_eq_ok_iff, @eq_comm _ step]

theorem step_terminator_iff (instruction : Instruction) (token : Token) (step : Step) :
    (State.terminator instruction).step token = .ok step ↔
      token.isMark .semicolon ∧ step = .complete instruction := by
  simp only [State.step, Outcome.ite_error_eq_ok_iff, @eq_comm _ step]

theorem step_closing_iff (role : Role) (operand : Operand) (token : Token) (step : Step) :
    (State.closing role operand).step token = .ok step ↔
      token.isMark .closeBracket ∧ step = .next (role.fill operand) := by
  simp only [State.step, Outcome.ite_error_eq_ok_iff, @eq_comm _ step]

theorem step_base_iff (role : Role) (base : Register) (token : Token) (step : Step) :
    (State.base role base).step token = .ok step ↔
      (∃ negative, Sign token negative ∧ step = .next (.sign role base negative)) ∨
      (token.isMark .closeBracket ∧
        step = .next (role.fill { shape := .memory base 0 })) := by
  by_cases plus : token.isMark .plus
  · have noMinus := Token.not_isMark_of_isMark plus (by decide : Mark.plus ≠ .minus)
    have noClosing := Token.not_isMark_of_isMark plus (by decide : Mark.plus ≠ .closeBracket)
    simp [State.step, sign_iff, plus, noMinus, noClosing, @eq_comm _ step]
  · by_cases minus : token.isMark .minus
    · have noClosing := Token.not_isMark_of_isMark minus (by decide : Mark.minus ≠ .closeBracket)
      simp [State.step, sign_iff, plus, minus, noClosing, @eq_comm _ step]
    · simp [State.step, sign_iff, plus, minus, Outcome.ite_error_eq_ok_iff, @eq_comm _ step]

theorem step_sign_iff (role : Role) (base : Register) (negative : Bool) (token : Token)
    (step : Step) :
    (State.sign role base negative).step token = .ok step ↔
      (token.isMark .minus ∧ step = .next (.displacement role base !negative)) ∨
      ∃ magnitude displacement, IsNumber token magnitude ∧
        IsDisplacement negative magnitude displacement ∧
        step = .next (.closing role { shape := .memory base displacement }) := by
  by_cases minus : token.isMark .minus
  · simp [State.step, minus, not_isNumber_of_isMark minus, @eq_comm _ step]
  · simp [State.step, minus, readDisplacement_eq_ok_iff]

theorem step_address_iff (role : Role) (token : Token) (step : Step) :
    (State.address role).step token = .ok step ↔
      ∃ magnitude address, IsNumber token magnitude ∧ IsAddress magnitude address ∧
        step = .next (.closing role { shape := .absolute address, template := true }) := by
  rw [← readAddress_eq_ok_iff]
  by_cases number : token.isNumber
  · simp [State.step, number]
  · simp [State.step, number]

theorem step_immediate_iff (role : Role) (template : Bool) (token : Token) (step : Step) :
    (State.immediate role template).step token = .ok step ↔
      (token.isMark .minus ∧ step = .next (.negated role template)) ∨
      ∃ magnitude value, IsNumber token magnitude ∧ IsConstant false magnitude value ∧
        step = .next (role.fill { shape := .immediate value, template }) := by
  by_cases minus : token.isMark .minus
  · simp [State.step, minus, not_isNumber_of_isMark minus, @eq_comm _ step]
  · simp [State.step, minus, readImmediate_eq_ok_iff]

theorem step_negated_iff (role : Role) (template : Bool) (token : Token) (step : Step) :
    (State.negated role template).step token = .ok step ↔
      ∃ magnitude value, IsNumber token magnitude ∧ IsConstant true magnitude value ∧
        step = .next (role.fill { shape := .immediate value, template }) :=
  readImmediate_eq_ok_iff role template true token step

theorem step_displacement_iff (role : Role) (base : Register) (negative : Bool) (token : Token)
    (step : Step) :
    (State.displacement role base negative).step token = .ok step ↔
      ∃ magnitude displacement, IsNumber token magnitude ∧
        IsDisplacement negative magnitude displacement ∧
        step = .next (.closing role { shape := .memory base displacement }) :=
  readDisplacement_eq_ok_iff role base negative token step

/-- The role is that of a source, which may be a template. -/
def Role.IsSource (role : Role) : Prop :=
  ∃ mnemonic destination, role = .source mnemonic destination

theorem step_bracket_iff (role : Role) (token : Token) (step : Step) :
    (State.bracket role).step token = .ok step ↔
      (∃ name, NamesRegister token name ∧ step = .next (.base role name)) ∨
      (token.isMark .dollar ∧ role.IsSource ∧ step = .next (.address role)) ∨
      ∃ magnitude address, IsNumber token magnitude ∧ IsAddress magnitude address ∧
        step = .next (.closing role { shape := .absolute address }) := by
  rw [← readAddress_eq_ok_iff]
  by_cases word : token.isWord
  · have noDollar := Token.not_isMark_of_word (token.isWord_iff.mp word) .dollar
    have noNumber : ¬token.isNumber := by
      intro number
      simp [Token.isNumber, token.isWord_iff.mp word] at number
    simp [State.step, names_register_iff, word, noDollar, noNumber, Outcome.bind_eq_ok_iff, pure,
      Except.pure, @eq_comm _ step]
  · by_cases dollar : token.isMark .dollar
    · have noNumber : ¬token.isNumber := by
        intro number
        exact Token.not_isMark_of_number (token.isNumber_iff.mp number) _ dollar
      cases role with
      | destination mnemonic =>
          simp [State.step, names_register_iff, word, dollar, noNumber, readTemplateMark,
            Role.IsSource]
      | source mnemonic destination =>
          simp [State.step, names_register_iff, word, dollar, noNumber, readTemplateMark,
            Role.IsSource, @eq_comm _ step]
    · by_cases number : token.isNumber
      · simp [State.step, names_register_iff, word, dollar, number]
      · simp [State.step, names_register_iff, word, dollar, number]

/-! ### Runs -/

/-- Only the semicolon behind a complete statement completes an instruction. -/
theorem step_complete_iff (state : State) (token : Token) (instruction : Instruction) :
    state.step token = .ok (.complete instruction) ↔
      state = .terminator instruction ∧ token.isMark .semicolon := by
  cases state with
  | statement => simp [step_statement_iff]
  | operand role => cases role <;> simp [step_destination_iff, step_source_iff]
  | separator mnemonic destination => simp [step_separator_iff]
  | terminator complete => simp [step_terminator_iff, and_comm, @eq_comm _ instruction]
  | bracket role => simp [step_bracket_iff]
  | base role base => simp [step_base_iff]
  | sign role base negative => simp [step_sign_iff]
  | displacement role base negative => simp [step_displacement_iff]
  | address role => simp [step_address_iff]
  | closing role operand => simp [step_closing_iff]
  | immediate role template => simp [step_immediate_iff]
  | negated role template => simp [step_negated_iff]

/-- A list that is accepted inside a statement has a first token, which leads on. -/
theorem run_eq_ok_iff_next {state : State} (inside : state ≠ .statement)
    (incomplete : ∀ instruction, state ≠ .terminator instruction) (tokens : List Token)
    (program : List Instruction) :
    run state tokens = .ok program ↔
      ∃ token rest next, tokens = token :: rest ∧ state.step token = .ok (.next next) ∧
        run next rest = .ok program := by
  cases tokens with
  | nil => simp [run, inside]
  | cons token rest =>
      cases stepped : state.step token with
      | error fault => simp [run, stepped]
      | ok step =>
          cases step with
          | next next => simp [run, stepped]
          | complete instruction =>
              rw [step_complete_iff] at stepped
              exact absurd stepped.1 (incomplete instruction)

theorem run_terminator_iff (instruction : Instruction) (tokens : List Token)
    (program : List Instruction) :
    run (.terminator instruction) tokens = .ok program ↔
      ∃ token rest later, tokens = token :: rest ∧ token.isMark .semicolon ∧
        run .statement rest = .ok later ∧ program = instruction :: later := by
  cases tokens with
  | nil => simp [run]
  | cons token rest =>
      by_cases semicolon : token.isMark .semicolon
      · have stepped := (step_terminator_iff instruction token _).mpr ⟨semicolon, rfl⟩
        simp [run, stepped, semicolon, Outcome.map_eq_ok_iff, @eq_comm _ program]
      · simp [run, State.step, semicolon]

end Parser

end Stencil
