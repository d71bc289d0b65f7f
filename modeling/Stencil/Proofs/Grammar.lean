import Stencil.Instruction
import Stencil.Proofs.Numeral
import Stencil.Text.LowerCase
import Stencil.Token

/-!
# The grammar

This file gives the grammar of the source language as relations between token
lists and what they stand for:

    program ::= ';'* (statement ';' ';'*)*
    statement ::= mnemonic, followed by the operands that it takes
    destination ::= register | memory | '[' number ']'
    source ::= register | memory | '[' ['$'] number ']' | ['$'] ['-'] number
    memory ::= '[' register [('+' | '-') ['-'] number] ']'

Names count in any letter case. Two signs in front of a displacement multiply. The
ranges of numbers are those of the field that they end up in; a constant without a
sign may use all 32 bits and then stands for the value with the same bits.
-/

namespace Stencil.Grammar

/-- A word that names a register. -/
def NamesRegister (token : Token) (register : Register) : Prop :=
  token.kind = .word ∧ register.Valid ∧ LowerCase.text token.text = register.text

/-- A word that names an operation. -/
def NamesMnemonic (token : Token) (mnemonic : Mnemonic) : Prop :=
  token.kind = .word ∧ LowerCase.text token.text = mnemonic.text

/-- A number token and the 64-bit number that it denotes. -/
def IsNumber (token : Token) (value : Nat) : Prop :=
  token.kind = .number ∧ Numeral.Denotes token.text.toList value ∧ value < 2 ^ 64

/-- A mark that may be left out, and whether it is there. -/
inductive Optional (mark : Mark) : List Token → Bool → Prop where
  | absent : Optional mark [] false
  | present {token : Token} (isMark : token.isMark mark) : Optional mark [token] true

/-- A plus or a minus sign, and whether it is the minus sign. -/
inductive Sign : Token → Bool → Prop where
  | plus {token : Token} (isMark : token.isMark .plus) : Sign token false
  | minus {token : Token} (isMark : token.isMark .minus) : Sign token true

/-- A magnitude with its sign fits in a signed byte and is this displacement. -/
def IsDisplacement (negative : Bool) (magnitude : Nat) (displacement : Int8) : Prop :=
  if negative then magnitude ≤ 128 ∧ displacement.toInt = -(magnitude : Int)
  else magnitude ≤ 127 ∧ displacement.toInt = magnitude

/-- A magnitude with its sign fits in 32 bits and is this constant. -/
def IsConstant (negative : Bool) (magnitude : Nat) (value : Int32) : Prop :=
  if negative then magnitude ≤ 2 ^ 31 ∧ value.toInt = -(magnitude : Int)
  else magnitude < 2 ^ 32 ∧ value.toUInt32.toNat = magnitude

/-- A magnitude fits in 32 bits and is this address. -/
def IsAddress (magnitude : Nat) (address : UInt32) : Prop :=
  magnitude < 2 ^ 32 ∧ address.toNat = magnitude

/-- The displacement behind a base register; none is a displacement of zero. -/
inductive Offset : List Token → Int8 → Prop where
  | none : Offset [] 0
  | signed {sign number : Token} {second : List Token} {negative turned : Bool}
      {magnitude : Nat} {displacement : Int8} (signed : Sign sign negative)
      (signedAgain : Optional .minus second turned) (isNumber : IsNumber number magnitude)
      (fits : IsDisplacement (negative ^^ turned) magnitude displacement) :
      Offset (sign :: (second ++ [number])) displacement

/-- The memory at a register, with or without a displacement. -/
inductive Memory : List Token → Shape → Prop where
  | mk {opening name closing : Token} {offset : List Token} {base : Register}
      {displacement : Int8} (opens : opening.isMark .openBracket)
      (names : NamesRegister name base) (displaced : Offset offset displacement)
      (closes : closing.isMark .closeBracket) :
      Memory (opening :: name :: (offset ++ [closing])) (.memory base displacement)

/-- The memory at a fixed address, with a template mark in front of the address or not. -/
inductive Absolute : List Token → Operand → Prop where
  | mk {opening number closing : Token} {marks : List Token} {template : Bool} {magnitude : Nat}
      {address : UInt32} (opens : opening.isMark .openBracket)
      (marked : Optional .dollar marks template) (isNumber : IsNumber number magnitude)
      (fits : IsAddress magnitude address) (closes : closing.isMark .closeBracket) :
      Absolute (opening :: (marks ++ [number, closing])) { shape := .absolute address, template }

/-- The operands that an operation may write to. They are never templates. -/
inductive Destination : List Token → Operand → Prop where
  | register {token : Token} {register : Register} (names : NamesRegister token register) :
      Destination [token] { shape := .register register }
  | memory {tokens : List Token} {shape : Shape} (memory : Memory tokens shape) :
      Destination tokens { shape }
  | absolute {tokens : List Token} {operand : Operand} (absolute : Absolute tokens operand)
      (untemplated : operand.template = false) : Destination tokens operand

/-- The operands that an operation may read from. -/
inductive Source : List Token → Operand → Prop where
  | register {token : Token} {register : Register} (names : NamesRegister token register) :
      Source [token] { shape := .register register }
  | memory {tokens : List Token} {shape : Shape} (memory : Memory tokens shape) :
      Source tokens { shape }
  | absolute {tokens : List Token} {operand : Operand} (absolute : Absolute tokens operand) :
      Source tokens operand
  | constant {marks signs : List Token} {number : Token} {template negative : Bool}
      {magnitude : Nat} {value : Int32} (marked : Optional .dollar marks template)
      (signed : Optional .minus signs negative) (isNumber : IsNumber number magnitude)
      (fits : IsConstant negative magnitude value) :
      Source (marks ++ signs ++ [number]) { shape := .immediate value, template }

/-- An operation with the operands that it takes. -/
inductive Statement : List Token → Instruction → Prop where
  | plain {name : Token} {mnemonic : Mnemonic} (names : NamesMnemonic name mnemonic)
      (takes : mnemonic ∈ [.ret, .nop]) : Statement [name] { mnemonic }
  | destination {name : Token} {mnemonic : Mnemonic} {tokens : List Token}
      {destination : Operand} (names : NamesMnemonic name mnemonic) (takes : mnemonic ∈ [.pop])
      (operand : Destination tokens destination) :
      Statement (name :: tokens) { mnemonic, destination }
  | source {name : Token} {mnemonic : Mnemonic} {tokens : List Token} {source : Operand}
      (names : NamesMnemonic name mnemonic) (takes : mnemonic ∈ [.push, .call, .jmp])
      (operand : Source tokens source) : Statement (name :: tokens) { mnemonic, source }
  | destinationAndSource {name comma : Token} {mnemonic : Mnemonic}
      {destinationTokens sourceTokens : List Token} {destination source : Operand}
      (names : NamesMnemonic name mnemonic) (takes : mnemonic ∈ [.mov, .add, .sub, .shl, .shr])
      (first : Destination destinationTokens destination) (separates : comma.isMark .comma)
      (second : Source sourceTokens source) :
      Statement (name :: destinationTokens ++ comma :: sourceTokens)
        { mnemonic, destination, source }

/-- Any number of semicolons. -/
def Semicolons (tokens : List Token) : Prop :=
  ∀ token ∈ tokens, token.isMark .semicolon

/-- Statements, each closed by one or more semicolons. -/
inductive Statements : List Token → List Instruction → Prop where
  | none : Statements [] []
  | next {tokens further rest : List Token} {terminator : Token} {instruction : Instruction}
      {program : List Instruction} (statement : Statement tokens instruction)
      (closes : terminator.isMark .semicolon) (semicolons : Semicolons further)
      (statements : Statements rest program) :
      Statements (tokens ++ terminator :: further ++ rest) (instruction :: program)

/-- Statements with semicolons in front of them. -/
inductive Program : List Token → List Instruction → Prop where
  | mk {leading rest : List Token} {program : List Instruction} (semicolons : Semicolons leading)
      (statements : Statements rest program) : Program (leading ++ rest) program

end Stencil.Grammar
