import Stencil.Command.Run

/-!
# The program

The program runs the command on the files of the machine. It takes the files that
the command may read into memory, runs the command there, prints what was printed
and logged, and writes the files that were changed.
-/

namespace Stencil.CommandLine

/-- Adds a file of the machine to files in memory, if it can be read. -/
def addFile (files : FileSystem) (path : String) : IO FileSystem := do
  try
    let contents ← IO.FS.readBinFile path
    return files.write path contents.toList
  catch _ => return files

/-- Reports a failure. -/
def fail (message : String) : IO UInt32 := do
  IO.eprintln ("level=error msg=" ++ Quoted.text message)
  return 1

/-- Does what a report of the command says; `files` are those that the command was given. -/
def perform (files : FileSystem) (report : Report) : IO UInt32 := do
  for (path, contents) in files.changes report.files do
    IO.FS.writeBinFile path ⟨contents.toArray⟩
  for entry in report.log do
    IO.eprintln entry.line
  IO.print (report.help ++ report.output)
  match report.error with
  | some error => fail error.message
  | none =>
    if report.brokenOff then
      IO.eprintln "level=fatal msg=\"slot outside the code\""
      return 2
    else return 0

/-- Runs the command with arguments on the files of the machine. -/
def run (arguments : List String) : IO UInt32 := do
  let files ← (Command.inputs arguments).foldlM addFile {}
  let terminal ← (← IO.getStdout).isTty
  try
    perform files (Command.runArguments { files, terminal, decoder := ValueFile.formats } arguments)
  catch error => fail s!"{error}"

end Stencil.CommandLine

/-- The command line of the program. -/
def main (arguments : List String) : IO UInt32 :=
  Stencil.CommandLine.run arguments
