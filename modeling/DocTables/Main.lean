import DocTables.CommandLine.Run

/-!
# The program

Reads the files that the command line names, runs the command and prints what it says.
-/

/-- The bytes of the file with a path, if it can be read. -/
def readFile? (path : String) : IO (Option ByteArray) := do
  try
    return some (← IO.FS.readBinFile path)
  catch _ =>
    return none

/-- Runs the program. -/
def main (words : List String) : IO UInt32 := do
  let contents ← words.mapM fun path => do
    return (path, ← readFile? path)
  let files : DocTables.CommandLine.Files := fun path => (contents.lookup path).join
  let outcome := DocTables.CommandLine.run "doc-tables" files words
  IO.print outcome.output
  match outcome.error with
  | some error => IO.eprintln ("Error: " ++ error.message)
  | none => pure ()
  if outcome.exitCode = 2 then
    IO.eprint (DocTables.CommandLine.helpText "doc-tables" .program)
  return outcome.exitCode.toUInt32
