/-
# Running commands

A command turns the text of its file into lines to print, perhaps a file to write, and an exit
code: zero when all went well, one when cards failed or cannot be read, two for a command line that
makes no sense. What else fails is a fault.

Key definitions: `Printout`, `usage`, `Command.run`, `Invocation.run`.
-/
import CardLesson.Card.Collection
import CardLesson.CommandLine.Command
import CardLesson.Policy
import CardLesson.Roster
import CardLesson.Sheet.Compilation

namespace CardLesson

namespace CommandLine

/-- What a command prints and writes. -/
structure Printout where
  exitCode : Nat := 0
  out : String := ""
  err : String := ""
  /-- A file to write, with its text. -/
  written : Option (String × String) := none
  deriving DecidableEq, Repr

/-- Lines, each with its end. -/
def lines (ls : List String) : String := String.join (ls.map (· ++ "\n"))

/-- How the program is called. -/
def usage : String := lines
  ["usage: lessonsim [-h] [--verbose] command file [options]", "",
    "  compile   compile a card sheet to card JSON  [--output FILE] [--plan PLAN] [--no-header]",
    "  validate  validate card JSON                 [--deck]",
    "  simulate  play a lesson with a deck          [--policy greedy|first|random] [--turns N]",
    "            [--attributes LIST] [--vocal N] [--dance N] [--visual N] [--hp N] [--max-hp N]",
    "            [--seed N]"]

/-- The end of a command that cannot go on. -/
def failure (message : String) : Printout := { exitCode := 1, out := lines [s!"Error: {message}"] }

def missingFile (path : String) : Printout := failure s!"File not found: {path}"

/-- A path without the parts that lead nowhere. -/
def plainPath (path : String) : String :=
  let parts := (path.toList.splitOnP (· == '/')).map String.ofList
  let rest := "/".intercalate (parts.filter fun p => p ≠ "" ∧ p ≠ ".")
  if path.startsWith "/" then "/" ++ rest else if rest = "" then "." else rest

/-- The cards of a file, or the end of the command. -/
def loadCards (path : String) (text : Option String) : Except Fault (Except Printout (List Card)) :=
  match text with
  | none => .ok (.error (missingFile path))
  | some text =>
    match CardFile.read (plainPath path) text with
    | .ok cards => .ok (.ok cards)
    | .error .notJson => .ok (.error (failure Fault.notJson.message))
    | .error f => if f.isCardData then .ok (.error (failure f.message)) else .error f

/-- The lines about a card that was not understood as a whole. -/
def issues (c : Compilation) : List String :=
  let name := c.card.elim "?" fun card => card.name.shown
  (c.errors ++ c.unknown.map fun u => s!"unparsed: {u}").map fun issue => s!"  - {name}: {issue}"

/-- Compiles a sheet. -/
def compile (sheet : String) (settings : Compiling) (text : Option String) :
    Except Fault Printout := do
  match text with
  | none => return missingFile sheet
  | some text =>
    let compiled ← compileTable text settings.plan settings.hasHeader
    let kept := compiled.filter (·.outcome != .failed)
    let failed := compiled.filter (·.outcome == .failed)
    let partly := compiled.filter (·.outcome == .partly)
    let cards := lines [CardFile.write (kept.filterMap (·.card))]
    let summary := s!"Compiled: {kept.length} ({partly.length} partial), failed: {failed.length}"
    let output := settings.output.filter (· ≠ "")
    return {
      exitCode := if failed.isEmpty then 0 else 1
      out := if output.isSome then "" else cards
      err := lines (summary :: (partly ++ failed).flatMap issues)
      written := output.map fun path => (path, cards) }

/-- A list of remarks under its heading; nothing when there are none. -/
def remarksUnder (heading : String) (remarks : List String) : List String :=
  if remarks.isEmpty then [] else ["", heading] ++ remarks.map fun r => s!"  - {r}"

/-- Validates a card file. -/
def validate (path : String) (isDeck : Bool) (text : Option String) : Except Fault Printout := do
  match ← loadCards path text with
  | .error printout => return printout
  | .ok cards =>
    let report ← checkRoster cards isDeck
    return {
      exitCode := if report.valid then 0 else 1
      out := lines ([s!"Validating: {path} ({cards.length} cards)"] ++
        remarksUnder "Warnings:" report.warnings ++ remarksUnder "Errors:" report.errors ++
        if report.valid then ["OK"] else []) }

/-- The stats of the turns in a list with commas. -/
def scheduleOf (attributes : String) : List String :=
  ((attributes.toList.splitOnP (· == ',')).map Text.trim).filterMap fun cs =>
    if cs.isEmpty then none else some (String.ofList cs)

namespace Simulation

/-- The length of the lesson: the turns asked for, or else the length of a schedule of several
turns. -/
def length (s : Simulation) (schedule : List String) : Int :=
  match s.turns.filter (· ≠ 0) with
  | some n => n
  | none => if 1 < schedule.length then (schedule.length : Nat) else Balance.maxTurns

/-- What decides the plays. -/
def policy (s : Simulation) (seed : Int) : Policy :=
  match s.style with
  | .greedy => .greedy (s.seed.getD 0)
  | .first => .first
  | .random => .random (.ofSeed seed)

/-- The stats and HP to start from. -/
def status (s : Simulation) : Status :=
  { vocal := .whole s.vocal, dance := .whole s.dance, visual := .whole s.visual, hp := .whole s.hp
    maxHp := .whole (s.maxHp.getD s.hp) }

/-- The last lines of a simulation. -/
def result (p : Policy) (l : Lesson) : List String :=
  ["", s!"Policy: {p.name}",
    s!"Final score: {l.score.text} (turn {l.turn.text}/{l.maxTurns.text}, " ++
      s!"HP {l.hp.text}/{l.maxHp.text})"]

end Simulation

/-- Plays a lesson with a deck; `seed` is taken when none is given. -/
def simulate (path : String) (s : Simulation) (text : Option String) (seed : Int) :
    Except Fault Printout := do
  match ← loadCards path text with
  | .error printout => return printout
  | .ok deck =>
    let schedule := scheduleOf s.attributes
    let seed := s.seed.getD seed
    let policy := Simulation.policy s seed
    let turns := schedule.map Datum.text
    let opening := openLesson (Simulation.status s) turns (Copy.deal 0 deck) []
      (.whole (Simulation.length s schedule)) []
    match opening (.ofSeed seed) with
    | (.error (.badValue cause), _) => return failure cause.message
    | (.error f, _) => .error f
    | (.ok lesson, chance) =>
      let (last, _) := runLesson lesson policy turns chance
      let last ← last
      return { out := lines (last.logs ++ Simulation.result policy last) }

end CommandLine

open CommandLine

/-- Runs a command on the text of its file, if there is one. -/
def Command.run (c : Command) (text : Option String) (seed : Int) : Except Fault Printout :=
  match c with
  | .compile sheet settings => CommandLine.compile sheet settings text
  | .validate cards isDeck => CommandLine.validate cards isDeck text
  | .simulate deck settings => CommandLine.simulate deck settings text seed

namespace Invocation

/-- Runs a command line; `readFile` gives the text of a file. -/
def run (i : Invocation) (readFile : String → Option String) (seed : Int) : Except Fault Printout :=
  match i with
  | help => .ok { out := usage }
  | misuse => .ok { exitCode := 2, err := usage }
  | idle => .ok { exitCode := 1, out := usage }
  | command c => c.run (readFile c.file) seed

end Invocation
end CardLesson
