/-
# Compiling a card sheet

A row of a sheet becomes a card: the description gives its effects and flags, the other columns the
rest. The outcome says how much was understood: a card is complete, partial when some clauses are
unknown, or failed when it has no name, breaks a rule or nothing in it was understood.

Key definitions: `Outcome`, `Compilation`, `Row.compile`, `Row.ofListed?`, `compileRows`,
`compileTable`.
-/
import CardLesson.Roster
import CardLesson.Sheet.Csv
import CardLesson.Sheet.Row
import CardLesson.Text.LowerCase
import CardLesson.Wording.Description

namespace CardLesson

/-- How much of a row was understood. -/
inductive Outcome where
  | complete
  | partly
  | failed
  deriving DecidableEq, Repr

namespace Outcome

def name : Outcome → String
  | complete => "success"
  | partly => "partial"
  | failed => "failed"

/-- The outcome for a report and the counts of effects and of unknown clauses. -/
def judge (valid : Bool) (effects unknown : Nat) : Outcome :=
  if !valid || (unknown ≠ 0 && effects == 0) then .failed
  else if unknown ≠ 0 then .partly
  else .complete

end Outcome

/-- What became of a row. -/
structure Compilation where
  outcome : Outcome
  card : Option Card := none
  report : Option Report := none
  effectCount : Nat := 0
  /-- The clauses that no rule covers. -/
  unknown : List String := []
  warnings : List String := []
  errors : List String := []
  /-- The description as the sheet gives it. -/
  source : Datum

/-- The characters of a datum that must be a text. -/
def Datum.characters : Datum → Except Fault (List Char)
  | .text s => .ok s.toList
  | _ => .error (.misuse .unsuitable)

/-- The characters of a datum that is asked for its words. -/
def Datum.lettering (d : Datum) : Except Fault (List Char) := do return (← d.asText).toList

/-- Whether a word stands somewhere in a text. -/
def mentions (word : String) : List Char → Bool
  | [] => word.isEmpty
  | c :: cs => word.toList.isPrefixOf (c :: cs) || mentions word cs

/-- The type of a card, by the words in the type column. -/
def CardType.ofColumn (cs : List Char) : CardType :=
  let lowered := Text.lower cs
  if mentions "trouble" lowered || mentions "トラブル" cs then .trouble
  else if mentions "active" lowered || mentions "アクティブ" cs then .active
  else .mental

/-- The rarity of a card, by the rarity column. -/
def rarityOfColumn (d : Datum) : Datum :=
  if d.same (.text "レジェンド") then .text "Legend" else d

/-- The cost in the cost column: figures, or else nothing. -/
def costOfColumn (cs : List Char) : Except Fault Int :=
  if !cs.isEmpty && cs.all Text.isFigure then readWhole (String.ofList cs) else .ok 0

/-- A plan as plans are compared: without blanks around it and in small letters. -/
def planKey (cs : List Char) : List Char := Text.lower (Text.trim cs)

/-- A text with ` / ` for every comma. -/
def spacedOut (cs : List Char) : List Char :=
  cs.flatMap fun c => if c = ',' then [' ', '/', ' '] else [c]

namespace Row

/-- The card that a named row describes, with the clauses that no rule covers. -/
def describe (row : Row) (name : List Char) : Except Fault (Card × List String) := do
  let description ← row.description.characters
  let said ← Wording.Description.read description
  let plan := planKey (← row.plan.lettering)
  let cost ← costOfColumn (Wording.plain (← row.cost.characters))
  let type := CardType.ofColumn (← row.type.lettering)
  let card : Card := {
    id := .text (String.ofList (plan ++ '_' :: name))
    name := .text (String.ofList name)
    type
    plan := .text (String.ofList plan)
    cost := if cost = 0 then (said.hpCost.getD 0 : Nat) else cost
    costType := if said.hpCost.isSome then .hp else .normal
    effects := said.effects
    conditions := said.conditions
    unique := said.unique
    usageLimit := if said.oncePerLesson then some .oncePerLesson else none
    startInHand := said.startInHand
    rarity := rarityOfColumn row.rarity
    description := .text (String.ofList (spacedOut (Wording.plain description))) }
  return (card, said.unknown.map String.ofList)

/-- Compiles a row. -/
def compile (row : Row) : Except Fault Compilation := do
  let name := Wording.plain row.name.toList
  if name.isEmpty then
    return { outcome := .failed, errors := ["Row has no card name"], source := row.description }
  let (card, unknown) ← row.describe name
  let report ← checkCard card
  return {
    outcome := .judge report.valid card.effects.length unknown.length
    card := some card
    report := some report
    effectCount := card.effects.length
    unknown
    warnings := report.warnings ++ unknown.map fun clause => s!"Unparsed clause: {clause}"
    errors := report.errors
    source := row.description }

/-- Whether a row belongs to a plan; every row does when no plan is asked for. -/
def belongsTo (row : Row) (plan : Option String) : Except Fault Bool :=
  match plan with
  | none => .ok true
  | some p => do return planKey (← row.plan.lettering) == Text.lower p.toList

end Row

/-- The row that columns make; none when there is nothing, or no name in the first column. -/
def Row.ofListed? (d : Datum) : Except Fault (Option Row) := do
  if !d.holds then return none
  let name ← match d with
    | .list (first :: _) => first.lettering
    | .text s => pure (s.toList.take 1)
    | .object _ => throw (.missing (.whole 0))
    | d => throw (.misuse (.memberOf d.kind))
  if (Text.trim name).isEmpty then return none
  return some (← Row.ofColumns d)

/-- Compiles the rows of a plan in order; a row is given by its columns. -/
def compileRows (plan : Option String) : List Datum → Except Fault (List Compilation)
  | [] => .ok []
  | d :: rest => do
    match ← Row.ofListed? d with
    | none => compileRows plan rest
    | some row =>
      if ← row.belongsTo plan then
        let c ← row.compile
        return c :: (← compileRows plan rest)
      else compileRows plan rest

/-- Compiles the cards of a comma-separated sheet whose first row may be a header. -/
def compileTable (text : String) (plan : Option String) (hasHeader : Bool) :
    Except Fault (List Compilation) :=
  let rows := Csv.read text.toList
  let rows := if hasHeader then rows.drop 1 else rows
  compileRows plan (rows.map fun row => .list (row.map fun field => .text (String.ofList field)))

end CardLesson
