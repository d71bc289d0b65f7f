import Stencil.Command.Options

/-!
# Arguments

The arguments of the command are flags and other arguments in any order. A flag
is given by its long name after two dashes, with its text after an equals sign or
as the next argument, or by its letter after one dash. Letters of switches can be
grouped; a letter that takes a text takes the rest of its group, or else the next
argument. Two dashes alone end the flags, and one dash alone is no flag.

Groups that start with `test.` belong to test runners and are passed over.
-/

namespace Stencil

/-- The reasons for which arguments are refused. -/
inductive FlagError where
  | malformed (argument : String)
  | unknownName (name : String)
  | unknownLetter (group : List Char)
  /-- A long flag at the end, without its text. -/
  | missingText (argument : String)
  /-- A letter at the end, without its text. -/
  | missingLetterText (group : List Char)
  | refusedText (flag : Flag) (text : String) (error : FlagTextError)
deriving DecidableEq

namespace FlagError

/-- The first byte of a group of letters as a character. -/
def firstByte (group : List Char) : Char :=
  match (group.take 1).flatMap String.utf8EncodeChar with
  | byte :: _ => Char.ofUInt8 byte
  | [] => Char.ofUInt8 0

/-- A letter with its group. -/
def inGroup (group : List Char) : String :=
  Quoted.character (firstByte group) ++ " in -" ++ String.ofList group

/-- The message for refused arguments. -/
def message : FlagError → String
  | malformed argument => "bad flag syntax: " ++ argument
  | unknownName name => "unknown flag: --" ++ name
  | unknownLetter group => "unknown shorthand flag: " ++ inGroup group
  | missingText argument => "flag needs an argument: " ++ argument
  | missingLetterText group => "flag needs an argument: " ++ inGroup group
  | refusedText flag text error =>
    "invalid argument " ++ Quoted.text text ++ " for " ++ Quoted.text flag.text ++ " flag: " ++
      error.message text

end FlagError

/-- Arguments that have been read: options, and what is no flag. -/
structure Arguments where
  options : Options := {}
  operands : List String := []
deriving DecidableEq

namespace Arguments

/-- A flag that takes the next argument as its text, and the error if there is none. -/
structure Pending where
  flag : Flag
  error : FlagError

/-- Gives a flag a text. -/
def give (options : Options) (flag : Flag) (text : String) : Except FlagError Options :=
  (options.give flag text).mapError (.refusedText flag text)

/-- Reads a long flag; `body` is the argument without its two dashes. -/
def readLong (options : Options) (argument : String) (body : List Char) :
    Except FlagError (Options × Option Pending) :=
  if body.head? = some '-' ∨ body.head? = some '=' then .error (.malformed argument)
  else
    let name := String.ofList (body.takeWhile (· ≠ '='))
    match Flag.ofName? name with
    | none => .error (.unknownName name)
    | some flag =>
      match body.dropWhile (· ≠ '=') with
      | _ :: text => (give options flag (String.ofList text)).map (·, none)
      | [] =>
        if flag.isSwitch then (give options flag Options.switchText).map (·, none)
        else .ok (options, some { flag, error := .missingText argument })

/-- Reads a group of letters. -/
def readGroup (options : Options) : List Char → Except FlagError (Options × Option Pending)
  | [] => .ok (options, none)
  | letter :: rest =>
    if ['t', 'e', 's', 't', '.'].isPrefixOf (letter :: rest) then .ok (options, none)
    else
      match Flag.ofLetter? letter with
      | none => .error (.unknownLetter (letter :: rest))
      | some flag =>
        if rest.head? = some '=' ∧ 2 ≤ rest.length then
          (give options flag (String.ofList rest.tail)).map (·, none)
        else if flag.isSwitch then
          match give options flag Options.switchText with
          | .error error => .error error
          | .ok options => readGroup options rest
        else if rest = [] then
          .ok (options, some { flag, error := .missingLetterText [letter] })
        else (give options flag (String.ofList rest)).map (·, none)

/-- Reads arguments from left to right after those that have been read. -/
def readFrom (before : Arguments) : List String → Except FlagError Arguments
  | [] => .ok before
  | argument :: rest =>
    let flags? : Option (Except FlagError (Options × Option Pending)) :=
      match argument.toList with
      | '-' :: '-' :: body => some (readLong before.options argument body)
      | '-' :: letter :: group => some (readGroup before.options (letter :: group))
      | _ => none
    if argument = "--" then .ok { before with operands := before.operands ++ rest }
    else
      match flags? with
      | none => readFrom { before with operands := before.operands ++ [argument] } rest
      | some (.error error) => .error error
      | some (.ok (options, none)) => readFrom { before with options } rest
      | some (.ok (options, some pending)) =>
        match rest with
        | [] => .error pending.error
        | text :: others =>
          match give options pending.flag text with
          | .error error => .error error
          | .ok options => readFrom { before with options } others

/-- Reads the arguments of the command. -/
def read (arguments : List String) : Except FlagError Arguments :=
  readFrom {} arguments

end Arguments

end Stencil
