/-
# What requests are shown

Sessions, lessons and compiled cards as bodies of replies. Every field has its kind: a text must be
a text and a whole number a whole number, and where a lesson holds something that a field does not
take there is no such body.

Key definitions: `fill`, `Card.picture`, `Buff.picture`, `DrinkSlot.picture`, `Session.summary`,
`Session.picture`, `Session.costPicture`, `Compilation.picture`.
-/
import CardLesson.Lesson.Cost
import CardLesson.Service.Framework
import CardLesson.Sheet.Compilation

namespace CardLesson

/-- A field filled with a datum. -/
def fill (field : Datum → Option Datum) (d : Datum) : Except Fault Datum :=
  match field d with
  | some shown => .ok shown
  | none => .error .unfitReply

/-- A field that may be left empty. -/
def fillOptional (field : Datum → Option Datum) (d : Datum) : Except Fault Datum :=
  if d.isNull then .ok .null else fill field d

/-- A card with its cost under the buffs of a lesson. -/
def Card.picture (fw : Framework) (c : Card) (buffs : List Buff) : Except Fault Datum := do
  let cost ← actualCost c buffs
  return .object [("card_id", ← fill fw.textField c.id), ("name", ← fill fw.textField c.name),
    ("card_type", .text c.type.name), ("cost", .whole c.cost),
    ("cost_type", .text c.costType.name), ("actual_cost", .whole cost),
    ("rarity", ← fillOptional fw.textField c.rarity),
    ("description", ← fill fw.textField c.description)]

def Buff.picture (fw : Framework) (b : Buff) : Except Fault Datum := do
  return .object [("buff_id", .text b.id), ("buff_type", .text b.kind.shown),
    ("name", .text b.name), ("duration", ← fill fw.wholeField b.duration),
    ("count", ← fillOptional fw.wholeField b.count),
    ("value", ← fillOptional fw.realField b.value)]

def DrinkSlot.picture (fw : Framework) (s : DrinkSlot) : Except Fault Datum := do
  return .object [("drink_id", ← fill fw.textField s.drink.id),
    ("name", ← fill fw.textField s.drink.name), ("used", .truth s.used),
    ("description", ← fill fw.textField s.drink.description)]

/-- The length of a zone. -/
def zoneSize (zone : List Copy) : Datum := .whole (zone.length : Nat)

/-- Whole numbers under their names. -/
def fillCounts (fw : Framework) (counts : List (String × Quantity)) : Except Fault Members :=
  counts.mapM fun (name, q) => do return (name, ← fill fw.wholeField (.number q))

namespace Session

/-- The session in short. -/
def summary (fw : Framework) (s : Session) : Except Fault Members := do
  let l := s.lesson
  let counts ← fillCounts fw [("turn", l.turn), ("max_turns", l.maxTurns), ("score", l.score)]
  return [("session_id", .text s.id), ("created_at", .number s.createdAt)] ++ counts ++
    [("is_finished", .truth l.isFinished), ("seed", s.seed.elim .null .whole)] ++ bodyVersion

/-- The lesson of the session. -/
def picture (fw : Framework) (s : Session) : Except Fault Members := do
  let l := s.lesson
  let hand ← l.hand.mapM fun c => c.card.picture fw l.buffs
  let buffs ← l.buffs.mapM (Buff.picture fw)
  let drinks ← l.drinks.mapM (DrinkSlot.picture fw)
  let counts ← fillCounts fw [("turn", l.turn), ("max_turns", l.maxTurns), ("vocal", l.vocal),
    ("dance", l.dance), ("visual", l.visual), ("hp", l.hp), ("max_hp", l.maxHp),
    ("shield", l.shield), ("genki", l.genki), ("good_impression", l.goodImpression),
    ("motivation", l.motivation), ("concentration", l.concentration), ("score", l.score),
    ("cards_played", l.cardsPlayed)]
  return [("session_id", .text s.id), ("phase", .text l.phase.name),
    ("current_turn_attribute", .text l.turnStat.name), ("is_finished", .truth l.isFinished)] ++
    counts ++ [("hand", .list hand), ("deck_count", zoneSize l.deck),
    ("discard_count", zoneSize l.discard), ("excluded_count", zoneSize l.excluded),
    ("buffs", .list buffs), ("drinks", .list drinks), ("logs", .list (l.logs.map .text))] ++
    bodyVersion

/-- What a card of the hand costs, if it is there. -/
def costPicture (s : Session) (id : String) : Except Fault (Option Members) :=
  match s.lesson.findInHand (.text id) with
  | none => .ok none
  | some copy => do
    let cost ← actualCost copy.card s.lesson.buffs
    let playable ← s.lesson.isPlayable (.text id)
    return some ([("session_id", .text s.id), ("card_id", .text id),
      ("base_cost", .whole copy.card.cost), ("actual_cost", .whole cost),
      ("cost_type", .text copy.card.costType.name), ("playable", .truth playable)] ++ bodyVersion)

end Session

/-- What became of a row. -/
def Compilation.picture (c : Compilation) : Members :=
  [("success", .truth (c.outcome != .failed)), ("status", .text c.outcome.name),
    ("card", c.card.elim .null Card.write), ("effect_count", .whole (c.effectCount : Nat)),
    ("unparsed", .list (c.unknown.map .text)), ("warnings", .list (c.warnings.map .text)),
    ("errors", .list (c.errors.map .text))] ++ bodyVersion

end CardLesson
