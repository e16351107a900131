/-
# Effects and conditions as records

Conditions and effects are read from objects and written back. A field may stand under two
spellings, of which the first that is given counts; `null` counts as not given. What is written
leaves out what was not given.

Key definitions: `pick`, `Condition.read`, `Condition.write`, `Effect.read`, `Effect.write`.
Key theorems: `Effect.writeAll_eq_map`.
-/
import CardLesson.Effect.Basic
import CardLesson.Fault

namespace CardLesson

abbrev Members := List (String × Datum)

/-- The first of the fields that is given. -/
def pick? (members : Members) : List String → Option Datum
  | [] => none
  | key :: keys =>
    match Datum.member? key members with
    | some d => if d.isNull then pick? members keys else some d
    | none => pick? members keys

/-- The first of the fields that is given, or `null`. -/
def pick (members : Members) (keys : List String) : Datum := (pick? members keys).getD .null

/-- A field that must be there. -/
def require (members : Members) (key : String) : Except Fault Datum :=
  match Datum.member? key members with
  | some d => .ok d
  | none => .error (.missing (.text key))

/-- The fault of asking a datum that is no object for its fields. -/
def notARecord : Datum → Fault
  | .text _ => .misuse .memberOfText
  | .list _ => .misuse .memberOfList
  | d => .misuse (.notSearchable d.kind)

/-- The items of a datum, each read by `readItem`. The items of a text are its characters and those
of an object its keys. -/
def readItems {α : Type} (readItem : Datum → Except Fault α) : Datum → Except Fault (List α)
  | .list items => items.mapM readItem
  | .text s => s.toList.mapM fun c => readItem (.text (String.ofList [c]))
  | .object members => members.mapM fun m => readItem (.text m.1)
  | d => .error (.misuse (.notIterable d.kind))

namespace Condition

def readComparison (members : Members) : Except Fault Comparison :=
  match pick? members ["compare"] with
  | none => .ok .atLeast
  | some raw =>
    match Named.ofDatum? raw with
    | some c => .ok c
    | none => .error (.badValue (if raw.isPrintable then .unknownComparison raw else .unprintable))

/-- Reads a condition. -/
def read : Datum → Except Fault Condition
  | .object members => do
    let compare ← readComparison members
    let kind ← require members "type"
    let buffKind := pick members ["buffType", "buff_type"]
    return {
      kind := .read kind
      value := (pick? members ["value"]).getD (.whole 0)
      compare
      buffKind := if buffKind.holds then some (.read buffKind) else none
      cardType := pick members ["cardType", "card_type"]
      scope := pick members ["scope"]
      targetRarity := pick members ["targetRarity", "target_rarity"] }
  | d => .error (notARecord d)

/-- A field, if it is given. -/
def field (key : String) (d : Datum) : Members := if d.isNull then [] else [(key, d)]

/-- Writes a condition. -/
def write (c : Condition) : Datum :=
  .object (("type", .text c.kind.shown) :: ("value", c.value) ::
    ("compare", .text c.compare.name) ::
    ((match c.buffKind with
      | some k => [("buffType", .text k.shown)]
      | none => []) ++
      field "cardType" c.cardType ++ field "scope" c.scope ++
      field "targetRarity" c.targetRarity))

end Condition

/-- Reads a condition that may be missing: what is not given, or holds nothing, is none. -/
def readOptionalCondition (d : Datum) : Except Fault (Option Condition) :=
  if d.holds then (Condition.read d).map some else .ok none

namespace Operation

/-- Reads an operation. -/
def read (members : Members) : Except Fault Operation := do
  let kind ← require members "type"
  let conditions ← match pick? members ["condition"] with
    | some d => readItems Condition.read d
    | none => pure []
  return {
    kind := .read kind
    value := pick members ["value"]
    ratio := pick members ["ratio"]
    multiplier := pick members ["multiplier"]
    duration := pick members ["duration"]
    count := pick members ["count"]
    conditions
    troubleId := pick members ["troubleId", "trouble_id"]
    targetRarity := pick members ["targetRarity", "target_rarity"]
    ignoreCost := (pick members ["ignoreCost", "ignore_cost"]).holds
    param := pick members ["param"]
    doubleMotivation := (pick members ["doubleMotivation", "double_motivation"]).holds }

/-- The operation with its trigger condition, which is read last. -/
def readTrigger (members : Members) (op : Operation) : Except Fault Operation := do
  let c ← readOptionalCondition (pick members ["triggerCondition", "trigger_condition"])
  return { op with triggerCondition := c }

end Operation

namespace Effect

mutual

/-- Reads an effect. -/
def read : Datum → Except Fault Effect
  | .object members => do
    let op ← Operation.read members
    let subs ← (listUnder "subEffects" members <|> listUnder "sub_effects" members).getD (.ok [])
    let triggered ←
      (under "triggeredEffect" members <|> under "triggered_effect" members).getD (.ok none)
    let op ← op.readTrigger members
    return ⟨op, subs, triggered⟩
  | d => .error (notARecord d)
termination_by structural d => d

/-- Reads the effects of a datum. -/
def readSequence : Datum → Except Fault (List Effect)
  | .list items => readAll items
  | .text s => if s.isEmpty then .ok [] else .error (.misuse .memberOfText)
  | .object members => if members.isEmpty then .ok [] else .error (.misuse .memberOfText)
  | d => .error (.misuse (.notIterable d.kind))
termination_by structural d => d

def readAll : List Datum → Except Fault (List Effect)
  | [] => .ok []
  | d :: rest => do
    let e ← read d
    let es ← readAll rest
    return e :: es
termination_by structural ds => ds

/-- The effects under a key, if they are given. -/
def listUnder (key : String) : List (String × Datum) → Option (Except Fault (List Effect))
  | [] => none
  | (k, d) :: rest =>
    if k = key then (if d.isNull then none else some (readSequence d)) else listUnder key rest
termination_by structural ms => ms

/-- The effect under a key, if it is given; one that holds nothing is none. -/
def under (key : String) : List (String × Datum) → Option (Except Fault (Option Effect))
  | [] => none
  | (k, d) :: rest =>
    if k = key then
      if d.isNull then none
      else if d.holds then some ((read d).map some)
      else some (.ok none)
    else under key rest
termination_by structural ms => ms

end

/-- A list of records under a key, if there are any. -/
def listField (key : String) (ds : List Datum) : Members :=
  if ds.isEmpty then [] else [(key, .list ds)]

/-- A record under a key, if there is one. -/
def recordField (key : String) : Option Datum → Members
  | some d => [(key, d)]
  | none => []

/-- A flag, if it is set. -/
def flag (key : String) (b : Bool) : Members := if b then [(key, .truth true)] else []

/-- The record of an operation with the records of the effects inside it. -/
def writeWith (op : Operation) (subs : List Datum) (triggered : Option Datum) : Datum :=
  .object (("type", .text op.kind.shown) ::
    (Condition.field "value" op.value ++ Condition.field "ratio" op.ratio ++
      Condition.field "multiplier" op.multiplier ++ Condition.field "duration" op.duration ++
      Condition.field "count" op.count ++ Condition.field "troubleId" op.troubleId ++
      Condition.field "targetRarity" op.targetRarity ++ Condition.field "param" op.param ++
      listField "condition" (op.conditions.map Condition.write) ++ listField "subEffects" subs ++
      recordField "triggeredEffect" triggered ++
      recordField "triggerCondition" (op.triggerCondition.map Condition.write) ++
      flag "ignoreCost" op.ignoreCost ++ flag "doubleMotivation" op.doubleMotivation))

mutual

/-- Writes an effect. -/
def write : Effect → Datum
  | ⟨op, subs, triggered⟩ => writeWith op (writeAll subs) (writeOption triggered)
termination_by structural e => e

def writeAll : List Effect → List Datum
  | [] => []
  | e :: rest => e.write :: writeAll rest
termination_by structural es => es

def writeOption : Option Effect → Option Datum
  | none => none
  | some e => some e.write
termination_by structural e => e

end

theorem writeAll_eq_map (es : List Effect) : writeAll es = es.map write := by
  induction es with
  | nil => rfl
  | cons e es ih => simp [writeAll, ih]

end Effect
end CardLesson
