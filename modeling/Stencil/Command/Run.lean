import Stencil.Assembly
import Stencil.Command.Arguments
import Stencil.Command.Listing
import Stencil.ValueFile

/-!
# The command

The command assembles a source file, patches the slots of the template with the
requested values, writes the raw machine code to a file if asked to, and prints a
listing. It is a function of its surroundings and its options: it gives what was
printed and logged, the files afterwards, and the error that stopped it, if any.

Everything that can be refused is refused before a file is written or anything is
printed; only printing itself can still fail after that.
-/

namespace Stencil

/-- The surroundings of the command. -/
structure Surroundings where
  files : FileSystem := {}
  /-- Files can be read and not written. -/
  readOnly : Bool := false
  /-- The output is a terminal that shows colors. -/
  terminal : Bool := false
  /-- The number of bytes that the output accepts, if it is limited. -/
  limit : Option Nat := none
  /-- The decoders for values files. -/
  decoder : ValueFile.Decoder := ValueFile.formats

/-- The reasons for which the command fails. -/
inductive CommandError where
  | flag (error : FlagError)
  | argumentCount (count : Nat)
  /-- Values were given both as texts and as a file. -/
  | conflictingValues
  | missingSource (key : String)
  | assembly (path : String) (error : AssemblyError)
  | value (error : ValueError)
  | valueFile (error : ValueFileError)
  | patch (error : PatchError)
  | readOnly
  | writeLimit
deriving DecidableEq

/-- What the command has done. -/
structure Report where
  output : String := ""
  help : String := ""
  log : List LogEntry := []
  files : FileSystem
  error : Option CommandError := none
  /-- The listing broke off, and the command with it. -/
  brokenOff : Bool := false

namespace CommandError

/-- The message of a command that failed. -/
def message : CommandError → String
  | flag error => error.message
  | argumentCount count => s!"accepts 1 arg(s), received {count}"
  | conflictingValues =>
    "if any flags in the group [set values] are set none of the others can be; " ++
      "[set values] were all set"
  | missingSource key => ValueFileError.missingText key
  | assembly path error => path ++ ": " ++ error.message
  | value error => error.message
  | valueFile error => error.message
  | patch error => error.message
  | readOnly => "operation not permitted"
  | writeLimit => "write limit reached"

end CommandError

namespace Command

/-- The text that explains the command. -/
def helpText : String :=
  "Assemble a small 32-bit x86 dialect into machine code.\n\n" ++
  "Operands written as $value or [$address] become template slots. Their bytes\n" ++
  "can be replaced after assembly with --set or --values, in slot order.\n\n" ++
  "Usage:\n  asm386 [flags] <source-file>\n\n" ++
  "Examples:\n  # Print the machine code of a source file.\n  asm386 prog.s\n\n" ++
  "  # Patch both template slots and write the raw bytes out.\n" ++
  "  asm386 --set 0x10,-1 -o prog.bin prog.s\n\n" ++
  "  # Take the patch values from a file.\n  asm386 --values patch.yaml prog.s\n\n" ++
  "Flags:\n" ++
  "  -h, --help          help for asm386\n" ++
  "      --no-color      disable colored output\n" ++
  "  -o, --output file   write the raw machine code to file\n" ++
  "  -s, --set strings   template values, in slot order\n" ++
  "      --slots         list template slots after the hex dump\n" ++
  "  -f, --values file   read template values from a YAML or TOML file\n" ++
  "  -v, --verbose       enable debug logging\n" ++
  "  -w, --wrap int      bytes per line of the hex dump, 0 for a single line (default 8)\n"

/-- The values that the options ask for, if they ask for any. -/
def requestedValues (files : FileSystem) (decoder : ValueFile.Decoder) (options : Options) :
    Except CommandError (Option (List Int32)) :=
  match options.set, options.values with
  | some texts, _ => ((PatchValue.ofTexts texts).map some).mapError .value
  | none, some path =>
    if path = "" then .ok none
    else ((ValueFile.load files path decoder).map some).mapError .valueFile
  | none, none => .ok none

/-- What the command prints for a template. -/
def listing (surroundings : Surroundings) (options : Options) (template : Template) : Listing :=
  .ofParts (Listing.code template options.wrap (surroundings.terminal && !options.noColor) ::
    (if options.slots then [Listing.slots template] else []))

/-- Prints a text behind what has been printed on an output that may be limited: gives what the
output has accepted by then, and the error. Listings are ASCII, so that a number of bytes is this
number of characters. -/
def printText (limit : Option Nat) (printed text : String) : String × Option CommandError :=
  match limit with
  | none => (printed ++ text, none)
  | some limit =>
    let room := limit - printed.utf8ByteSize
    if text.utf8ByteSize ≤ room then (printed ++ text, none)
    else (printed ++ String.ofList (text.toList.take room), some .writeLimit)

/-- Prints texts one after another, up to the first one that is not accepted as a whole. -/
def print (limit : Option Nat) (printed : String) : List String → String × Option CommandError
  | [] => (printed, none)
  | text :: texts =>
    match printText limit printed text with
    | (accepted, none) => print limit accepted texts
    | (accepted, some error) => (accepted, some error)

/-- Prints the listing of a template after the files have been dealt with. -/
def finish (surroundings : Surroundings) (options : Options) (template : Template)
    (files : FileSystem) (log : List LogEntry) : Report :=
  let listing := listing surroundings options template
  let (output, error) := print surroundings.limit "" listing.texts
  { output, log, files, error, brokenOff := error.isNone && !listing.complete }

/-- Writes the machine code if a file for it is given, and prints the listing. -/
def emit (surroundings : Surroundings) (options : Options) (template : Template)
    (log : List LogEntry) : Report :=
  if options.output = "" then finish surroundings options template surroundings.files log
  else if surroundings.readOnly then
    { log, files := surroundings.files, error := some .readOnly }
  else
    finish surroundings options template
      (surroundings.files.write options.output template.code)
      (log ++ [{ event := .written options.output template.code.length }])

/-- Patches a template as the options ask for, and goes on with it. -/
def patchAndEmit (surroundings : Surroundings) (options : Options) (template : Template)
    (log : List LogEntry) : Report :=
  match requestedValues surroundings.files surroundings.decoder options with
  | .error error => { log, files := surroundings.files, error := some error }
  | .ok (some values) =>
    match template.apply values with
    | .error error => { log, files := surroundings.files, error := some (.patch error) }
    | .ok patched => emit surroundings options patched (log ++ [{ event := .patched values }])
  | .ok none =>
    emit surroundings options template
      (if template.slots = [] then log
      else log ++ [{ event := .unpatched template.slots.length }])

/-- Assembles a source file and goes on with its template. All events are logged. -/
def runLogged (surroundings : Surroundings) (options : Options) (path : String) : Report :=
  match surroundings.files.read? path with
  | none => { files := surroundings.files, error := some (.missingSource (Path.key path)) }
  | some source =>
    let assembly := Assembly.ofSource source
    let log := assembly.log.map fun event => { event, source := some path }
    match assembly.result with
    | .error error => { log, files := surroundings.files, error := some (.assembly path error) }
    | .ok template => patchAndEmit surroundings options template log

/-- The level from which on events are kept in the log. -/
def logLevel (options : Options) : LogLevel := if options.verbose then .debug else .info

/-- Runs the command on a source file. -/
def run (surroundings : Surroundings) (options : Options) (path : String) : Report :=
  let report := runLogged surroundings options path
  { report with log := report.log.filter (·.isKept (logLevel options)) }

/-- The paths of the files that the command may read when it is run with arguments. -/
def inputs (arguments : List String) : List String :=
  match Arguments.read arguments with
  | .error _ => []
  | .ok arguments => arguments.operands ++ arguments.options.values.toList

/-- Runs the command with arguments. -/
def runArguments (surroundings : Surroundings) (arguments : List String) : Report :=
  let failed (error : CommandError) : Report :=
    { files := surroundings.files, error := some error }
  match Arguments.read arguments with
  | .error error => failed (.flag error)
  | .ok arguments =>
    if arguments.options.help then { help := helpText, files := surroundings.files }
    else
      match arguments.operands with
      | [path] =>
        if arguments.options.set.isSome ∧ arguments.options.values.isSome then
          failed .conflictingValues
        else run surroundings arguments.options path
      | operands => failed (.argumentCount operands.length)

end Command

end Stencil
