import Stencil.Instruction
import Stencil.Numeral
import Stencil.Program.Fault

/-!
# From tokens to instructions

A program is a sequence of statements, each closed by a semicolon; further
semicolons are allowed anywhere between statements. A statement is an operation
followed by the operands of its form. Nothing in the language nests, so a finite
control reads it: the state remembers what has been read of the current
statement, and every token either moves it on, completes the statement or is
refused at once.
-/

namespace Stencil.Parser

/-- The operand that is being read, with what has been read before it. -/
inductive Role where
  | destination (mnemonic : Mnemonic)
  | source (mnemonic : Mnemonic) (destination : Operand)
deriving DecidableEq

/-- What has been read of the current statement. -/
inductive State where
  /-- Nothing: a statement may start here. -/
  | statement
  /-- Everything up to the start of an operand. -/
  | operand (role : Role)
  /-- A destination that a source has to follow. -/
  | separator (mnemonic : Mnemonic) (destination : Operand)
  /-- Everything but the semicolon. -/
  | terminator (instruction : Instruction)
  /-- An opening bracket. -/
  | bracket (role : Role)
  /-- An opening bracket and a base register. -/
  | base (role : Role) (base : Register)
  /-- A base register and one sign, which may be turned by a second one. -/
  | sign (role : Role) (base : Register) (negative : Bool)
  /-- A base register and two signs. -/
  | displacement (role : Role) (base : Register) (negative : Bool)
  /-- An opening bracket and a template mark. -/
  | address (role : Role)
  /-- A bracketed operand without its closing bracket. -/
  | closing (role : Role) (operand : Operand)
  /-- A template mark in front of a value, which may have a sign. -/
  | immediate (role : Role) (template : Bool)
  /-- A value without its digits, after a minus sign. -/
  | negated (role : Role) (template : Bool)
deriving DecidableEq

/-- What a token makes of a state: another state, or a complete instruction. -/
inductive Step where
  | next (state : State)
  | complete (instruction : Instruction)
deriving DecidableEq

/-- The state after the operand of a role has been read. -/
def Role.fill (role : Role) (operand : Operand) : State :=
  match role with
  | .destination mnemonic =>
    if mnemonic.form.hasSource then .separator mnemonic operand
    else .terminator { mnemonic, destination := operand }
  | .source mnemonic target => .terminator { mnemonic, destination := target, source := operand }

/-- The state after an operation has been read. -/
def State.ofMnemonic (mnemonic : Mnemonic) : State :=
  match mnemonic.form with
  | .plain => .terminator { mnemonic }
  | .destination => .operand (.destination mnemonic)
  | .source => .operand (.source mnemonic .absent)
  | .destinationAndSource => .operand (.destination mnemonic)

/-- The register that a word names. -/
def register (token : Token) : Except Fault Register :=
  match Register.ofName? token.text with
  | some register => .ok register
  | none => .error .unknownRegister

/-- The natural number that a number token denotes. -/
def literal (token : Token) : Except Fault Nat :=
  match Numeral.natural token.text.toList with
  | .ok value => .ok value
  | .error _ => .error .malformedLiteral

/-- A magnitude with its sign as a displacement. -/
def displacementOf (negative : Bool) (magnitude : Nat) : Except Fault Int8 :=
  if negative then
    if magnitude ≤ 128 then .ok (Int8.ofInt (-(magnitude : Int)))
    else .error (.displacementRange true)
  else if magnitude ≤ 127 then .ok (Int8.ofNat magnitude)
  else .error (.displacementRange false)

/--
A magnitude with its sign as a 32-bit value. Magnitudes without a sign use all
32 bits and stand for the value with the same bits.
-/
def immediateOf (negative : Bool) (magnitude : Nat) : Except Fault Int32 :=
  if negative then
    if magnitude ≤ Nat.pow 2 31 then .ok (Int32.ofInt (-(magnitude : Int)))
    else .error (.immediateRange true)
  else if magnitude < Nat.pow 2 32 then .ok (Int32.ofInt (magnitude : Int))
  else .error (.immediateRange false)

/-- A magnitude as an address. -/
def addressOf (magnitude : Nat) : Except Fault UInt32 :=
  if magnitude < Nat.pow 2 32 then .ok (UInt32.ofNat magnitude) else .error .addressRange

/-- Reads a displacement and waits for the closing bracket. -/
def readDisplacement (role : Role) (base : Register) (negative : Bool) (token : Token) :
    Except Fault Step :=
  if token.isNumber then do
    let magnitude ← literal token
    let displacement ← displacementOf negative magnitude
    return .next (.closing role { shape := .memory base displacement })
  else
    .error (.unexpected .displacement)

/-- Reads the digits of an immediate value, which completes an operand. -/
def readImmediate (role : Role) (template negative : Bool) (token : Token) :
    Except Fault Step :=
  if token.isNumber then do
    let magnitude ← literal token
    let value ← immediateOf negative magnitude
    return .next (role.fill { shape := .immediate value, template })
  else
    .error .missingNumber

/-- Reads an address and waits for the closing bracket. -/
def readAddress (role : Role) (template : Bool) (token : Token) : Except Fault Step := do
  let magnitude ← literal token
  let address ← addressOf magnitude
  return .next (.closing role { shape := .absolute address, template })

/-- Reads the first token of a destination. -/
def startDestination (role : Role) (token : Token) : Except Fault Step :=
  if token.isWord then do
    let register ← register token
    return .next (role.fill { shape := .register register })
  else if token.isMark .openBracket then .ok (.next (.bracket role))
  else if token.isMark .dollar then .error .templatedDestination
  else .error (.unexpected .destination)

/-- Reads the first token of a source. -/
def startSource (role : Role) (token : Token) : Except Fault Step :=
  if token.isWord then do
    let register ← register token
    return .next (role.fill { shape := .register register })
  else if token.isMark .openBracket then .ok (.next (.bracket role))
  else if token.isMark .dollar then .ok (.next (.immediate role true))
  else if token.isMark .minus then .ok (.next (.negated role false))
  else if token.isNumber then readImmediate role false false token
  else .error (.unexpected .source)

/-- Reads the first token of an operand. -/
def startOperand (role : Role) (token : Token) : Except Fault Step :=
  match role with
  | .destination _ => startDestination role token
  | .source _ _ => startSource role token

/-- Reads the template mark inside brackets, which only a source may have. -/
def readTemplateMark (role : Role) : Except Fault Step :=
  match role with
  | .destination _ => .error .templatedDestination
  | .source _ _ => .ok (.next (.address role))

/-- Reads one token. -/
def State.step (state : State) (token : Token) : Except Fault Step :=
  match state with
  | .statement =>
    if token.isMark .semicolon then .ok (.next .statement)
    else if token.isWord then
      match Mnemonic.ofName? token.text with
      | some mnemonic => .ok (.next (.ofMnemonic mnemonic))
      | none => .error .unknownMnemonic
    else .error (.unexpected .statement)
  | .operand role => startOperand role token
  | .separator mnemonic destination =>
    if token.isMark .comma then .ok (.next (.operand (.source mnemonic destination)))
    else .error .missingComma
  | .terminator instruction =>
    if token.isMark .semicolon then .ok (.complete instruction) else .error .missingSemicolon
  | .bracket role =>
    if token.isWord then do
      let register ← register token
      return .next (.base role register)
    else if token.isMark .dollar then readTemplateMark role
    else if token.isNumber then readAddress role false token
    else .error (.unexpected .address)
  | .base role pointer =>
    if token.isMark .plus then .ok (.next (.sign role pointer false))
    else if token.isMark .minus then .ok (.next (.sign role pointer true))
    else if token.isMark .closeBracket then
      .ok (.next (role.fill { shape := .memory pointer 0 }))
    else .error .missingBracket
  | .sign role pointer negative =>
    if token.isMark .minus then .ok (.next (.displacement role pointer !negative))
    else readDisplacement role pointer negative token
  | .displacement role pointer negative => readDisplacement role pointer negative token
  | .address role =>
    if token.isNumber then readAddress role true token else .error .missingAddress
  | .closing role complete =>
    if token.isMark .closeBracket then .ok (.next (role.fill complete)) else .error .missingBracket
  | .immediate role template =>
    if token.isMark .minus then .ok (.next (.negated role template))
    else readImmediate role template false token
  | .negated role template => readImmediate role template true token

/-- Reads tokens from a state on and collects the instructions that they complete. -/
def run (state : State) : List Token → Except Stop (List Instruction)
  | [] => if state = .statement then .ok [] else .error .endOfInput
  | token :: rest =>
    match state.step token with
    | .error fault => .error (.refused token fault)
    | .ok (.next state) => run state rest
    | .ok (.complete instruction) => (run .statement rest).map (instruction :: ·)

/-- The instructions of a token list. -/
def program (tokens : List Token) : Except ParseError (List Instruction) :=
  (run .statement tokens).mapError fun stop => { stop, last := tokens.getLast? }

end Stencil.Parser
