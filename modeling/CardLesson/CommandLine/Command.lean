/-
# Commands

A command line names one of three commands: compile a card sheet, validate a card file, simulate a
lesson with a deck. Options before the command are common to all, options after it are its own.

Key definitions: `Command`, `Simulation`, `Invocation`, `Invocation.read`, `Command.file`.
-/
import CardLesson.CommandLine.Words
import CardLesson.Number.Arithmetic

namespace CardLesson

/-- How the plays of a simulation are decided. -/
inductive Play.Style where
  | greedy
  | first
  | random
  deriving DecidableEq, Repr

/-- The settings of a simulation. -/
structure Simulation where
  style : Play.Style := .greedy
  turns : Option Int := none
  attributes : String := "vocal"
  vocal : Int := 0
  dance : Int := 0
  visual : Int := 0
  hp : Int := 30
  maxHp : Option Int := none
  seed : Option Int := none
  deriving Repr

/-- The settings of a compilation. -/
structure Compiling where
  output : Option String := none
  plan : Option String := none
  hasHeader : Bool := true
  deriving Repr

/-- What a command line asks for. -/
inductive Command where
  | compile (sheet : String) (settings : Compiling)
  | validate (cards : String) (isDeck : Bool)
  | simulate (deck : String) (settings : Simulation)
  deriving Repr

/-- The file that a command reads. -/
def Command.file : Command → String
  | compile sheet _ => sheet
  | validate cards _ => cards
  | simulate deck _ => deck

namespace CommandLine

/-- The options of a compilation. -/
inductive CompileKey where
  | output
  | plan
  | noHeader

def compileSwitches : Switches CompileKey :=
  [("-h", .help), ("--help", .help), ("--output", .valued .output), ("-o", .valued .output),
    ("--plan", .valued .plan), ("--no-header", .flag .noHeader)]

def Compiling.set (key : CompileKey) (value : String) (c : Compiling) : Option Compiling :=
  match key with
  | .output => some { c with output := some value }
  | .plan => some { c with plan := some value }
  | .noHeader => some { c with hasHeader := false }

/-- The option of a validation: the file is a deck, which may hold copies. -/
def validateSwitches : Switches Unit := [("-h", .help), ("--help", .help), ("--deck", .flag ())]

/-- The options of a simulation. -/
inductive SimulateKey where
  | policy
  | turns
  | attributes
  | vocal
  | dance
  | visual
  | hp
  | maxHp
  | seed

def simulateSwitches : Switches SimulateKey :=
  [("-h", .help), ("--help", .help), ("--policy", .valued .policy), ("--turns", .valued .turns),
    ("--attributes", .valued .attributes), ("--vocal", .valued .vocal), ("--dance", .valued .dance),
    ("--visual", .valued .visual), ("--hp", .valued .hp), ("--max-hp", .valued .maxHp),
    ("--seed", .valued .seed)]

def styles : List (String × Play.Style) :=
  [("greedy", .greedy), ("first", .first), ("random", .random)]

/-- A whole number in a word. -/
def number? (value : String) : Option Int := (readWhole value).toOption

def Simulation.set (key : SimulateKey) (value : String) (s : Simulation) : Option Simulation :=
  match key with
  | .policy => (styles.lookup value).map fun style => { s with style }
  | .turns => (number? value).map fun n => { s with turns := some n }
  | .attributes => some { s with attributes := value }
  | .vocal => (number? value).map fun n => { s with vocal := n }
  | .dance => (number? value).map fun n => { s with dance := n }
  | .visual => (number? value).map fun n => { s with visual := n }
  | .hp => (number? value).map fun n => { s with hp := n }
  | .maxHp => (number? value).map fun n => { s with maxHp := some n }
  | .seed => (number? value).map fun n => { s with seed := some n }

/-- The options that all commands have in common. -/
def commonSwitches : Switches Unit :=
  [("-h", .help), ("--help", .help), ("--verbose", .flag ()), ("-v", .flag ())]

/-- The command of a name with its words. -/
def readCommand (name : String) (words : List String) : Except Stop Command :=
  match name with
  | "compile" => do
    let (settings, sheet) ← readWords compileSwitches Compiling.set {} words
    return .compile sheet settings
  | "validate" => do
    let (isDeck, cards) ← readWords validateSwitches (fun _ _ _ => some true) false words
    return .validate cards isDeck
  | "simulate" => do
    let (settings, deck) ← readWords simulateSwitches Simulation.set {} words
    return .simulate deck settings
  | _ => .error .misuse

/-- The command that words name, after the options common to all; `hasSurplus` says whether there
was a word before it that nothing took. -/
def readLead (hasSurplus : Bool) : List (String × Word Unit) → Except Stop (Option Command)
  | [] => if hasSurplus then .error .misuse else .ok none
  | (name, .plain _) :: rest => do
    let command ← readCommand name (rest.map (·.1))
    if hasSurplus then .error .misuse else return some command
  | (_, .separator) :: _ => .error .misuse
  | (_, .unknown _) :: rest => readLead true rest
  | (_, .known s tail) :: rest =>
    match expand commonSwitches s tail with
    | some (events, none) => do
      let g ← gather (fun _ _ s => some s) { settings := () } events
      readLead (hasSurplus || g.hasSurplus) rest
    | _ => .error .misuse

end CommandLine

/-- What to do for a command line. -/
inductive Invocation where
  | help
  | misuse
  /-- No command is named. -/
  | idle
  | command (c : Command)

namespace Invocation

open CommandLine

/-- Reads the words of a command line. -/
def read (words : List String) : Invocation :=
  match classifyAll commonSwitches words with
  | none => .misuse
  | some words =>
    match readLead false words with
    | .ok (some c) => .command c
    | .ok none => .idle
    | .error .help => .help
    | .error .misuse => .misuse

end Invocation
end CardLesson
