import Concord.Program

/-!
# The command line

The outer layer of the program. It reads the file that the arguments name, runs the program, prints
the journal on standard error and ends with the program's exit code. It has no network of its own:
in its world no name has an address, so the daemon ends after it has looked for its peers.
-/

namespace Concord.CommandLine

/-- The disk with the file that the arguments name. A file that cannot be read is not on it. -/
def diskOf (arguments : List String) : IO Disk := do
  let folder := (← IO.currentDir).toString
  let disk : Disk := { folder := Place.followAll [] (pathParts folder) }
  match (Options.read arguments).toOption.bind fun o => Options.text? o.config with
  | none => return disk
  | some path =>
    match ← (IO.FS.readBinFile path).toBaseIO with
    | .ok content => return disk.put path content
    | .error _ => return disk

/-- Print the records of the journal that it keeps. -/
def printJournal (journal : Option LogSetup) (records : List Record) : IO Unit := do
  for r in records.filter fun r => (journal.map (·.keeps r)).getD false do
    IO.eprintln r.line

/-- Print how the program ended and give its exit code. -/
def finish : Program.Ending → IO UInt32
  | .stopped reason => do
    IO.print reason.output
    IO.eprint reason.errorOutput
    return reason.exitCode.toUInt32
  | .exited code errorOutput => do
    IO.eprint (errorOutput.getD "")
    return code.toUInt32
  | .crashed trouble => do
    IO.eprintln trouble.line
    return 1

end Concord.CommandLine

/-- Run the program with the arguments of its command line. -/
def main (arguments : List String) : IO UInt32 := do
  let disk ← Concord.CommandLine.diskOf arguments
  let (ending, w) := Concord.Program.run arguments disk [] {}
  Concord.CommandLine.printJournal (Concord.Program.journal? arguments disk) w.records
  Concord.CommandLine.finish ending
