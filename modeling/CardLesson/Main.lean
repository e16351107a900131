/-
# The command line

Reads the words of the command line and the file of the command, prints what the command prints,
and leaves with its exit code. Without a seed the lesson is seeded by chance.
-/
import CardLesson.CommandLine.Run

open CardLesson

/-- The text of a file, if it can be read. -/
def readText (path : String) : IO (Option String) := do
  try return some (← IO.FS.readFile path) catch _ => return none

def main (words : List String) : IO UInt32 := do
  let invocation := Invocation.read words
  let text ← match invocation with
    | .command c => readText c.file
    | _ => pure none
  let seed ← IO.rand 0 4294967295
  match invocation.run (fun _ => text) seed with
  | .error f =>
    IO.eprintln s!"{f.className}: {f.message}"
    return 1
  | .ok printout =>
    IO.print printout.out
    IO.eprint printout.err
    if let some (path, written) := printout.written then IO.FS.writeFile path written
    return printout.exitCode.toUInt32
