/-
# What requests ask for

The requests that say more than where they go: a row of a card sheet to compile, or a lesson to
open, whose cards and drinks are still to be read.

Key definitions: `RowOrder`, `RowOrder.row`, `LessonOrder`, `LessonOrder.opening`.
-/
import CardLesson.Datum.Printed
import CardLesson.Roster
import CardLesson.Session
import CardLesson.Sheet.Row

namespace CardLesson

/-- A row of a card sheet that is to be compiled. -/
structure RowOrder where
  name : String
  description : String
  type : String
  plan : String
  cost : Option Int
  rarity : Option String

/-- The row; a cost that is given is written in its column. -/
def RowOrder.row (o : RowOrder) : Except Fault Row := do
  let cost ← match o.cost with
    | none => pure ""
    | some n => printWhole n
  return {
    name := o.name
    rarity := o.rarity.elim .null .text
    plan := .text o.plan
    type := .text o.type
    cost := .text cost
    description := .text o.description }

/-- A lesson that is asked for. -/
structure LessonOrder where
  cards : List Datum
  status : Status
  schedule : List String
  drinks : List Datum
  maxTurns : Option Int
  catalog : List Datum
  seed : Option Int

namespace LessonOrder

/-- Reads the cards of a catalog one after the other; of several with one id the last counts. -/
def readCatalog (stack : Stack) : List Card → List Datum → Except Fault (List Card)
  | done, [] => .ok done
  | done, d :: rest => do
    let card ← stack.readOn Card.read d
    let _ ← card.id.key
    readCatalog stack (done ++ [card]) rest

/-- The lesson with its cards and drinks read on a stack and its deck checked. -/
def opening (stack : Stack) (o : LessonOrder) : Except Fault Opening := do
  let deck ← o.cards.mapM (stack.readOn Card.read)
  let catalog ← readCatalog stack [] o.catalog
  let drinks ← o.drinks.mapM (stack.readOn Drink.read)
  let _ ← (← checkRoster deck true).orFault
  return {
    deck
    status := o.status
    schedule := o.schedule.map .text
    drinks
    maxTurns := o.maxTurns.map .whole
    catalog
    seed := o.seed }

end LessonOrder
end CardLesson
