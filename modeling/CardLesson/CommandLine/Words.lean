/-
# Words of a command line

A command line is a list of words. A word that starts with a dash names an option, unless it writes
a negative number or has a blank in it; all words after `--` are plain. A long option may be cut
short as long as only one option goes on like that. A value is attached, after `=` or right after a
short option, or is the next plain word. Short options without a value may share one dash.

Of the plain words one is the operand; a word that nothing takes is surplus.

Key definitions: `Switch`, `Word`, `classify`, `classifyAll`, `Event`, `expand`, `scan`, `Stop`,
`gather`.
-/
import CardLesson.Text.Digit

namespace CardLesson.CommandLine

/-- What an option does. -/
inductive Switch (κ : Type) where
  | help
  | flag (key : κ)
  /-- An option with a value. -/
  | valued (key : κ)

/-- The options of a command by their names. -/
abbrev Switches (κ : Type) := List (String × Switch κ)

/-- What a word is. -/
inductive Word (κ : Type) where
  | plain (s : String)
  /-- The word after which all words are plain. -/
  | separator
  /-- An option with the characters that follow its name. -/
  | known (switch : Switch κ) (tail : List Char)
  /-- An option that there is none of. -/
  | unknown (s : String)

variable {κ σ : Type}

/-- Whether a word writes a negative number: figures, or figures after a point. -/
def isNegativeNumber : List Char → Bool
  | '-' :: cs =>
    match cs.dropWhile Text.isDigit with
    | [] => !cs.isEmpty
    | '.' :: fraction => !fraction.isEmpty && fraction.all Text.isDigit
    | _ => false
  | _ => false

/-- The options that a word may stand for, when it is no option's name. -/
def candidates (switches : Switches κ) (cs : List Char) : List (Word κ) :=
  match cs with
  | '-' :: '-' :: _ =>
    let stem := cs.takeWhile (· != '=')
    switches.filterMap fun (name, s) =>
      if stem.isPrefixOf name.toList then some (.known s (cs.dropWhile (· != '='))) else none
  | '-' :: c :: rest =>
    switches.filterMap fun (name, s) =>
      if name.toList = ['-', c] then some (.known s rest)
      else if cs.isPrefixOf name.toList then some (.known s [])
      else none
  | _ => []

/-- What a word is; nothing when it may stand for several options. -/
def classify (switches : Switches κ) (w : String) : Option (Word κ) :=
  match w.toList with
  | '-' :: c :: rest =>
    let cs := '-' :: c :: rest
    let stem := cs.takeWhile (· != '=')
    match switches.lookup w, switches.lookup (String.ofList stem) with
    | some s, _ => some (.known s [])
    | none, some s => some (.known s (cs.dropWhile (· != '=')))
    | none, none =>
      match candidates switches cs with
      | [word] => some word
      | _ :: _ :: _ => none
      | [] => if isNegativeNumber cs || cs.contains ' ' then some (.plain w) else some (.unknown w)
  | _ => some (.plain w)

/-- What the words are, each with its text. -/
def classifyAll (switches : Switches κ) : List String → Option (List (String × Word κ))
  | [] => some []
  | w :: rest =>
    if w = "--" then some ((w, .separator) :: rest.map fun s => (s, .plain s))
    else do return (w, ← classify switches w) :: (← classifyAll switches rest)

/-- What happens on the way through the words. -/
inductive Event (κ : Type) where
  | help
  | setting (key : κ) (value : String)
  | operand (s : String)
  | surplus (s : String)
  | misuse

/-- What an option without a value does. -/
def Switch.event : Switch κ → Event κ
  | .help => .help
  | .flag key => .setting key ""
  | .valued _ => .misuse

/-- What an option does with the characters after its name; nothing when it has no use for them.
They are its value, with or without a `=` before it; an option without a value leaves them to the
short option that they name. An option that still waits for its value comes last. -/
def expand (switches : Switches κ) : Switch κ → List Char → Option (List (Event κ) × Option κ)
  | .valued key, [] => some ([], some key)
  | .valued key, '=' :: cs => some ([.setting key (String.ofList cs)], none)
  | .valued key, cs => some ([.setting key (String.ofList cs)], none)
  | s, [] => some ([s.event], none)
  | _, '=' :: _ => none
  | _, '-' :: _ => none
  | s, c :: cs =>
    match switches.lookup (String.ofList ['-', c]) with
    | none => some ([s.event, .surplus (String.ofList ('-' :: c :: cs))], none)
    | some next =>
      (expand switches next cs).map fun (events, waiting) => (s.event :: events, waiting)

/-- What happens on the way through the words of a command with one operand; `taken` says whether
the operand was there already. -/
def scan (switches : Switches κ) (taken : Bool) : List (String × Word κ) → List (Event κ)
  | [] => []
  | (w, .plain _) :: rest =>
    if taken then .surplus w :: scan switches true rest
    else
      match rest with
      | (_, .separator) :: rest => .operand w :: scan switches true rest
      | rest => .operand w :: scan switches true rest
  | (w, .separator) :: rest =>
    if taken || rest.isEmpty then .surplus w :: scan switches taken rest
    else scan switches taken rest
  | (w, .unknown _) :: rest => .surplus w :: scan switches taken rest
  | (_, .known s tail) :: rest =>
    match expand switches s tail with
    | none => [.misuse]
    | some (events, none) => events ++ scan switches taken rest
    | some (events, some key) =>
      match rest with
      | (_, .plain value) :: rest => events ++ .setting key value :: scan switches taken rest
      | _ => [.misuse]

/-- Why a command line is not carried out. -/
inductive Stop where
  | help
  | misuse
  deriving DecidableEq, Repr

/-- Settings and operand so far. -/
structure Gathered (σ : Type) where
  settings : σ
  operand : Option String := none
  hasSurplus : Bool := false

/-- Takes the events in order; `set` makes a setting, unless its value is none of those allowed. -/
def gather (set : κ → String → σ → Option σ) :
    Gathered σ → List (Event κ) → Except Stop (Gathered σ)
  | g, [] => .ok g
  | g, .setting key value :: rest =>
    match set key value g.settings with
    | some settings => gather set { g with settings } rest
    | none => .error .misuse
  | g, .operand s :: rest => gather set { g with operand := some s } rest
  | g, .surplus _ :: rest => gather set { g with hasSurplus := true } rest
  | _, .help :: _ => .error .help
  | _, .misuse :: _ => .error .misuse

/-- Settings and operand of a command's words. -/
def readWords (switches : Switches κ) (set : κ → String → σ → Option σ) (initial : σ)
    (words : List String) : Except Stop (σ × String) := do
  match classifyAll switches words with
  | none => .error .misuse
  | some words =>
    let g ← gather set { settings := initial } (scan switches false words)
    match g.operand, g.hasSurplus with
    | some s, false => return (g.settings, s)
    | _, _ => .error .misuse

end CardLesson.CommandLine
