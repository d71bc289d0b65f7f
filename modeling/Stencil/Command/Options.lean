import Stencil.Command.Record
import Stencil.Numeral
import Stencil.Text.Quoted

/-!
# Options

The options of the command, the flags that set them, and the texts that each flag
accepts. A flag has a long name and may have a letter. Switches take a text only
when it is attached; the other flags always take one.
-/

namespace Stencil

/-- The options of the command. -/
structure Options where
  /-- The file for the raw machine code; none if empty. -/
  output : String := ""
  /-- Texts of patch values, if any were given. -/
  set : Option (List String) := none
  /-- The values file, if one was given; an empty path asks for none. -/
  values : Option String := none
  /-- Bytes on a line of the hex dump. -/
  wrap : Int64 := 8
  slots : Bool := false
  noColor : Bool := false
  verbose : Bool := false
  help : Bool := false
deriving DecidableEq

/-- The flags of the command. -/
inductive Flag where
  | output
  | set
  | values
  | wrap
  | slots
  | noColor
  | verbose
  | help
deriving DecidableEq

/-- The reasons for which a flag refuses a text. -/
inductive FlagTextError where
  | switch
  | integer (error : NumeralError)
  | record (error : RecordError)
deriving DecidableEq

namespace Flag

/-- The flags. -/
def all : List Flag := [output, set, values, wrap, slots, noColor, verbose, help]

/-- The long name of a flag. -/
def name : Flag → String
  | output => "output"
  | set => "set"
  | values => "values"
  | wrap => "wrap"
  | slots => "slots"
  | noColor => "no-color"
  | verbose => "verbose"
  | help => "help"

/-- The letter of a flag. -/
def letter? : Flag → Option Char
  | output => some 'o'
  | set => some 's'
  | values => some 'f'
  | wrap => some 'w'
  | slots => none
  | noColor => none
  | verbose => some 'v'
  | help => some 'h'

/-- The flag takes no text of its own. -/
def isSwitch : Flag → Bool
  | output => false
  | set => false
  | values => false
  | wrap => false
  | slots => true
  | noColor => true
  | verbose => true
  | help => true

/-- A flag as it is named in messages. -/
def text (flag : Flag) : String :=
  match flag.letter? with
  | some letter => "-" ++ String.singleton letter ++ ", --" ++ flag.name
  | none => "--" ++ flag.name

/-- The flag with the given long name. -/
def ofName? (name : String) : Option Flag := all.find? fun flag => flag.name = name

/-- The flag with the given letter. -/
def ofLetter? (letter : Char) : Option Flag := all.find? fun flag => flag.letter? = some letter

end Flag

namespace FlagTextError

/-- The message for a refused text. -/
def message (text : String) : FlagTextError → String
  | switch => "strconv.ParseBool: parsing " ++ Quoted.text text ++ ": invalid syntax"
  | integer .malformed => "strconv.ParseInt: parsing " ++ Quoted.text text ++ ": invalid syntax"
  | integer .tooLarge => "strconv.ParseInt: parsing " ++ Quoted.text text ++ ": value out of range"
  | record error => error.message

end FlagTextError

namespace Options

/-- The text that a switch gets when none is attached. -/
def switchText : String := "true"

/-- The truth value that a text of a switch stands for. -/
def truth? (text : String) : Option Bool :=
  if ["1", "t", "T", "true", "TRUE", "True"].contains text then some true
  else if ["0", "f", "F", "false", "FALSE", "False"].contains text then some false
  else none

/-- The options with a switch set as a text says. -/
def setSwitch (text : String) (update : Bool → Options) : Except FlagTextError Options :=
  match truth? text with
  | some value => .ok (update value)
  | none => .error .switch

/-- The texts of a list; an empty text is an empty list. -/
def listOf (text : String) : Except RecordError (List String) :=
  if text = "" then .ok [] else Record.parse text

/-- The options after a flag has been given with a text. Lists grow, and of others the last counts. -/
def give (options : Options) (flag : Flag) (text : String) : Except FlagTextError Options :=
  match flag with
  | .output => .ok { options with output := text }
  | .set =>
    match listOf text with
    | .ok texts => .ok { options with set := some (options.set.getD [] ++ texts) }
    | .error error => .error (.record error)
  | .values => .ok { options with values := some text }
  | .wrap =>
    match Numeral.integer text.toList with
    | .ok value => .ok { options with wrap := Int64.ofInt value }
    | .error error => .error (.integer error)
  | .slots => setSwitch text fun value => { options with slots := value }
  | .noColor => setSwitch text fun value => { options with noColor := value }
  | .verbose => setSwitch text fun value => { options with verbose := value }
  | .help => setSwitch text fun value => { options with help := value }

end Options

end Stencil
