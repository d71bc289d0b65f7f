import Stencil.Encoding
import Stencil.Text.Quoted

/-!
# Log

Assembly and the command report what they do as log entries. An entry records an
event and, if it was reported on behalf of a source file, the name of that file.
The level, the message and the named fields of an entry follow from its event.
-/

namespace Stencil

/-- The levels of log entries. -/
inductive LogLevel where
  | debug
  | info
deriving DecidableEq

/-- The value of a field of a log entry. -/
inductive LogValue where
  | integer (value : Int)
  | text (value : String)
  | integers (values : List Int)
deriving DecidableEq

/-- What is reported. -/
inductive LogEvent where
  /-- An instruction was encoded; its code starts at `offset`. -/
  | encoded (offset : Nat) (encoding : Encoding) (instruction : Instruction)
  | assembled (instructions size slots : Nat)
  | patched (values : List Int32)
  | unpatched (slots : Nat)
  | written (file : String) (size : Nat)
deriving DecidableEq

/-- A reported event. -/
structure LogEntry where
  event : LogEvent
  /-- The source file on whose behalf the event was reported. -/
  source : Option String := none
deriving DecidableEq

namespace LogLevel

/-- The name of a level. -/
def text : LogLevel → String
  | debug => "debug"
  | info => "info"

end LogLevel

namespace LogValue

/-- The text of a value; the integers of a list stand in brackets. -/
def line : LogValue → String
  | integer value => s!"{value}"
  | text value => Quoted.text value
  | integers values => "[" ++ " ".intercalate (values.map fun value => s!"{value}") ++ "]"

end LogValue

namespace LogEvent

/-- The level of an event. -/
def level : LogEvent → LogLevel
  | encoded _ _ _ => .debug
  | assembled _ _ _ => .debug
  | patched _ => .debug
  | unpatched _ => .debug
  | written _ _ => .info

/-- The message of an event. -/
def message : LogEvent → String
  | encoded _ encoding instruction =>
    Hexadecimal.spaced encoding.bytes ++ "\t" ++ instruction.text
  | assembled _ _ _ => "assembled"
  | patched _ => "template slots patched"
  | unpatched slots => s!"{slots} template slots keep their assembled values"
  | written _ _ => "machine code written"

/-- The fields of an event. -/
def fields : LogEvent → List (String × LogValue)
  | encoded offset encoding _ =>
    [("offset", .integer offset), ("size", .integer encoding.bytes.length),
      ("slot", .integer encoding.slotNumber.toInt)]
  | assembled instructions size slots =>
    [("instructions", .integer instructions), ("size", .integer size), ("slots", .integer slots)]
  | patched values => [("values", .integers (values.map Int32.toInt))]
  | unpatched _ => []
  | written file size => [("file", .text file), ("size", .integer size)]

end LogEvent

namespace LogEntry

/-- The fields of an entry: the source file, if there is one, and those of the event. -/
def fields (entry : LogEntry) : List (String × LogValue) :=
  (entry.source.map fun file => ("file", LogValue.text file)).toList ++ entry.event.fields

/-- The entry is kept by a log of the given level. -/
def isKept (level : LogLevel) (entry : LogEntry) : Bool :=
  level = .debug ∨ entry.event.level = .info

/-- The entry as one line of text. -/
def line (entry : LogEntry) : String :=
  let fields := entry.fields.map fun (name, value) => " " ++ name ++ "=" ++ value.line
  "level=" ++ entry.event.level.text ++ " msg=" ++ Quoted.text entry.event.message ++
    "".intercalate fields

end LogEntry

end Stencil
