/-
# Cards and drinks as records

Cards and drinks are read from objects and written back. What a reader cannot make out is a fault
in card data that names the card; only a cost past all numbers is a fault of its own. A number that
no text has room for cannot be named, and then a plain bad value is raised.

Readers call themselves for what is nested in a record, so a stack may give out on it. What a stack
holds is up to the machine: `Stack` leaves it open but for records that are nested in few levels.

Key definitions: `Card.readRecord`, `Card.read`, `Card.write`, `Drink.read`, `Drink.write`, `Stack`,
`Stack.readOn`.
Key theorems: `Card.read_eq_ok`, `Card.read_eq_error`.
-/
import CardLesson.Card.Basic
import CardLesson.Effect.Record
import CardLesson.Number.Arithmetic

namespace CardLesson

/-- The fault of asking a datum that is no object for a member. -/
def noMember : Datum → Fault
  | .text _ => .misuse .memberOfText
  | .list _ => .misuse .memberOfList
  | d => .misuse (.memberOf d.kind)

/-- The first of the fields that is there, even if it is `null`. -/
def lookup (members : Members) (keys : List String) (default : Datum) : Datum :=
  (keys.findSome? fun key => Datum.member? key members).getD default

/-- The effects of a card or drink. A field that holds nothing is no effects. -/
def readEffects (members : Members) : Except Fault (List Effect) :=
  let d := lookup members ["effects"] .null
  if d.holds then Effect.readSequence d else .ok []

/-- The records that are read without the stack giving out. -/
structure Stack where
  holds : Datum → Bool
  /-- How deep a record may nest in any case. -/
  levels : Nat
  holds_shallow : ∀ d : Datum, d.depth ≤ levels → holds d = true

namespace Stack

/-- A stack that never gives out. -/
def endless : Stack := ⟨fun _ => true, 0, fun _ _ => rfl⟩

/-- Reads a record, as long as the stack holds. -/
def readOn {α : Type} (stack : Stack) (read : Datum → Except Fault α) (d : Datum) :
    Except Fault α :=
  if stack.holds d then read d else .error .tooDeep

end Stack

/-- Whether a fault in a part of a record makes the whole record faulty. -/
def spoils : Fault → Bool
  | .misuse _ | .missing _ | .badValue _ => true
  | _ => false

namespace Card

/-- Effects, conditions and cost of a card. -/
def readBody (members : Members) : Except Fault (List Effect × List Condition × Int) := do
  let effects ← readEffects members
  let cs := lookup members ["conditions"] .null
  let conditions ← if cs.holds then readItems Condition.read cs else pure []
  let cost ← ((lookup members ["cost"] .null).orElse (.whole 0)).toWhole
  return (effects, conditions, cost)

/-- A field that must be one of its words. -/
def readWord (α : Type) [Named α] (id : Datum) (field : String) (raw : Datum) : Except Fault α :=
  match Named.ofDatum? raw with
  | some a => .ok a
  | none => .error (.cardField id field raw)

/-- Reads a card; the faults are as they are found. -/
def readRecord : Datum → Except Fault Card
  | .object members =>
    match Datum.member? "id" members, Datum.member? "name" members with
    | none, _ => .error (.cardWithoutId (.object members))
    | some id, none => .error (.cardWithoutName id)
    | some id, some name =>
      match readBody members with
      | .error f => .error (if spoils f then .cardEffects id f else f)
      | .ok (effects, conditions, cost) => do
        let type ← readWord CardType id "type" (lookup members ["type"] (.text "active"))
        let costType ←
          readWord CostType id "costType"
            (lookup members ["costType", "cost_type"] (.text "normal"))
        let usage := lookup members ["usageLimit", "usage_limit"] .null
        let usageLimit ←
          if usage.holds then (readWord UsageLimit id "usageLimit" usage).map some else pure none
        return {
          id, name, type, cost, costType, effects, conditions, usageLimit
          plan := lookup members ["plan"] (.text "free")
          unique := (lookup members ["unique"] .null).holds
          startInHand := (lookup members ["startInHand", "start_in_hand"] .null).holds
          rarity := lookup members ["rarity"] .null
          description := (lookup members ["description", "effect"] .null).orElse (.text "") }
  | d => .error (noMember d)

/-- Reads a card. A fault is raised with its words. -/
def read (d : Datum) : Except Fault Card := (readRecord d).mapError Fault.raised

theorem read_eq_ok {d : Datum} {c : Card} : read d = .ok c ↔ readRecord d = .ok c := by
  unfold read
  cases readRecord d with
  | ok c' => exact Iff.rfl
  | error f => exact iff_of_false nofun nofun

theorem read_eq_error {d : Datum} {f : Fault} :
    read d = .error f ↔ ∃ g, readRecord d = .error g ∧ g.raised = f := by
  unfold read
  cases readRecord d with
  | ok c => exact iff_of_false nofun fun ⟨_, h, _⟩ => by cases h
  | error g =>
    refine ⟨fun h => ⟨g, rfl, Except.error.inj h⟩, fun ⟨_, h, heq⟩ => ?_⟩
    cases h
    exact congrArg _ heq

/-- Writes a card. -/
def write (c : Card) : Datum :=
  .object ([("id", c.id), ("name", c.name), ("type", .text c.type.name), ("plan", c.plan),
      ("cost", .whole c.cost), ("costType", .text c.costType.name),
      ("effects", .list (c.effects.map Effect.write))] ++
    Effect.listField "conditions" (c.conditions.map Condition.write) ++
    Effect.flag "unique" c.unique ++
    (match c.usageLimit with
      | some u => [("usageLimit", .text u.name)]
      | none => []) ++
    Effect.flag "startInHand" c.startInHand ++
    (if c.rarity.holds then [("rarity", c.rarity)] else []) ++
    (if c.description.holds then [("description", c.description)] else []))

end Card

namespace Drink

/-- The fields of a drink. -/
def readFields : Datum → Except Fault Drink
  | .object members => do
    let id ← require members "id"
    let name ← require members "name"
    let effects ← readEffects members
    return {
      id, name, effects
      plan := lookup members ["plan"] (.text "free")
      description := (lookup members ["description", "effect"] .null).orElse (.text "") }
  | d => .error (noMember d)

/-- Reads a drink. -/
def read (d : Datum) : Except Fault Drink :=
  match readFields d with
  | .error f => .error (if spoils f then .drinkData f else f)
  | .ok drink => .ok drink

/-- Writes a drink. -/
def write (d : Drink) : Datum :=
  .object [("id", d.id), ("name", d.name), ("plan", d.plan), ("description", d.description),
    ("effects", .list (d.effects.map Effect.write))]

end Drink
end CardLesson
