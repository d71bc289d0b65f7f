import Stencil.Log
import Stencil.Program.Parser
import Stencil.Template
import Stencil.Token.Lexer

/-!
# Assembly

Source text becomes tokens, tokens become instructions, instructions become
encodings, and these are linked into a template. The first stage that fails
decides the error. The last statement of a source text may leave out its
semicolon.

Every encoded instruction is reported with the offset of its code, and a
complete assembly with its totals; what was reported before a failure is kept.
-/

namespace Stencil

/-- The reasons for which a program cannot be assembled, by stage. -/
inductive AssemblyError where
  | lexing (stray : StrayByte)
  | parsing (error : ParseError)
  /-- Statements count from one. -/
  | encoding (statement : Nat) (instruction : Instruction) (error : EncodingError)
  | linking (misplaced : MisplacedSlot)
deriving DecidableEq

/-- What an assembly reported, and its result. -/
structure Assembly where
  log : List LogEvent
  result : Except AssemblyError Template

namespace AssemblyError

/-- The category of an assembly error; a linking error has none. -/
def category? : AssemblyError → Option Category
  | lexing stray => some stray.category
  | parsing error => some error.category
  | encoding _ _ error => some error.category
  | linking _ => none

/-- The message of an assembly error. -/
def message : AssemblyError → String
  | lexing stray => "lexing error: " ++ stray.message
  | parsing error => "parsing error: " ++ error.message
  | encoding statement instruction error =>
    s!"error generating code for statement {statement} '" ++ instruction.text ++ "': " ++
      error.message
  | linking misplaced => misplaced.message

end AssemblyError

namespace Assembly

/--
Encodes instructions in order and reports each one. `statement` is the number of the
first one, and `offset` the size of the code in front of it.
-/
def encodeFrom (statement offset : Nat) :
    List Instruction → List LogEvent × Except AssemblyError (List Encoding)
  | [] => ([], .ok [])
  | instruction :: rest =>
    match Encoding.ofInstruction instruction with
    | .error error => ([], .error (.encoding statement instruction error))
    | .ok encoding =>
      let (log, result) := encodeFrom (statement + 1) (offset + encoding.bytes.length) rest
      (.encoded offset encoding instruction :: log, result.map (encoding :: ·))

/-- Assembles instructions. -/
def ofProgram (program : List Instruction) : Assembly :=
  match encodeFrom 1 0 program with
  | (log, .error error) => { log, result := .error error }
  | (log, .ok encodings) =>
    match Template.link encodings with
    | .error misplaced => { log, result := .error (.linking misplaced) }
    | .ok template =>
      { log := log ++ [.assembled program.length template.code.length template.slots.length]
        result := .ok template }

/-- The instructions of a source text. -/
def programOf (source : List UInt8) : Except AssemblyError (List Instruction) :=
  match Lexer.tokens source with
  | .error stray => .error (.lexing stray)
  | .ok tokens =>
    match Parser.program (tokens ++ [Token.terminator tokens]) with
    | .error error => .error (.parsing error)
    | .ok program => .ok program

/-- Assembles a source text. -/
def ofSource (source : List UInt8) : Assembly :=
  match programOf source with
  | .error error => { log := [], result := .error error }
  | .ok program => ofProgram program

end Assembly

/-- The template of a source text. -/
def assemble (source : List UInt8) : Except AssemblyError Template :=
  (Assembly.ofSource source).result

/-- The template of a list of instructions. -/
def assembleProgram (program : List Instruction) : Except AssemblyError Template :=
  (Assembly.ofProgram program).result

end Stencil
