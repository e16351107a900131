/-
# Rows of a card sheet

A row names a card and gives its rarity, plan, type, cost and description. It comes as columns or as
an object; what is missing is the plan `free`, the type `active` and otherwise nothing.

Key definitions: `Row`, `Row.ofTexts`, `Row.ofColumns`, `Row.ofRecord`.
-/
import CardLesson.Card.Record
import CardLesson.Text.Blank

namespace CardLesson

/-- A row of a card sheet. Fields but the name hold what the sheet gives. -/
structure Row where
  name : String
  rarity : Datum := .null
  plan : Datum := .text "free"
  type : Datum := .text "active"
  cost : Datum := .text ""
  description : Datum := .text ""
  deriving Repr

namespace Row

/-- A text without blanks around it. -/
def trimmed (s : String) : String := String.ofList (Text.trim s.toList)

/-- A text as a datum, or another datum in place of an empty one. -/
def textOr (s : String) (other : Datum) : Datum := if s = "" then other else .text s

/-- A row from its columns; all columns after the cost belong to the description. -/
def ofTexts (columns : List String) : Row :=
  let column := fun i => trimmed ((columns[i]?).getD "")
  { name := column 0
    rarity := textOr (column 1) .null
    plan := textOr (column 2) (.text "free")
    type := textOr (column 3) (.text "active")
    cost := .text (column 4)
    description :=
      .text (",".intercalate (((columns.drop 5).map trimmed).filter fun c => c ≠ "")) }

/-- A row from the items of a datum. -/
def ofColumns (d : Datum) : Except Fault Row := do
  return ofTexts (← readItems Datum.asText d)

/-- A row from an object. -/
def ofRecord (members : Members) : Except Fault Row := do
  let name ← require members "name"
  let given := fun key => lookup members [key] .null
  return {
    name := name.shown
    rarity := given "rarity"
    plan := (given "plan").orElse (.text "free")
    type := (given "type").orElse (.text "active")
    cost := .text ((given "cost").orElse (.text "")).shown
    description := (given "description").orElse (.text "") }

/-- A row from an object or from columns. -/
def ofDatum : Datum → Except Fault Row
  | .object members => ofRecord members
  | d => ofColumns d

end Row
end CardLesson
