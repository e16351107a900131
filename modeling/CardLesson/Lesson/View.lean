/-
# A lesson as a record

What hosts are shown of a lesson: the hand with all its cards, the other zones by their ids.

Key definitions: `Buff.write`, `Lesson.fields`, `Lesson.write`.
-/
import CardLesson.Card.Record
import CardLesson.Lesson.State

namespace CardLesson

/-- Writes a buff. -/
def Buff.write (b : Buff) : Datum :=
  .object ([("id", .text b.id), ("type", .text b.kind.shown), ("duration", b.duration),
      ("name", .text b.name), ("isNew", .truth b.isNew)] ++
    Condition.field "count" b.count ++ Condition.field "value" b.value ++
    Condition.field "ratio" b.ratio ++ Condition.field "param" b.param ++
    Effect.recordField "triggeredEffect" (b.triggered.map Effect.write) ++
    Effect.recordField "triggerCondition" (b.triggerCondition.map Condition.write))

namespace Lesson

/-- The ids of a zone. -/
def ids (zone : List Copy) : Datum := .list (zone.map Copy.id)

/-- The fields of a lesson, with the hand, the log and the drinks as they are given. -/
def fields (l : Lesson) (hand logs drinks : Datum) : Members :=
  [("turn", .number l.turn), ("maxTurns", .number l.maxTurns), ("phase", .text l.phase.name),
    ("currentTurnAttribute", .text l.turnStat.name), ("vocal", .number l.vocal),
    ("dance", .number l.dance), ("visual", .number l.visual), ("hp", .number l.hp),
    ("maxHp", .number l.maxHp), ("shield", .number l.shield), ("genki", .number l.genki),
    ("goodImpression", .number l.goodImpression), ("motivation", .number l.motivation),
    ("concentration", .number l.concentration), ("score", .number l.score), ("deck", ids l.deck),
    ("hand", hand), ("discard", ids l.discard), ("onHold", ids l.onHold),
    ("excluded", ids l.excluded), ("cardsPlayed", .number l.cardsPlayed),
    ("buffs", .list (l.buffs.map Buff.write)), ("logs", logs), ("pDrinks", drinks)]

/-- Writes a lesson. -/
def write (l : Lesson) : Datum :=
  .object (l.fields (.list (l.hand.map fun c => c.card.write)) (.list (l.logs.map .text))
    (.list (l.drinks.map fun s => .object [("drink", s.drink.write), ("used", .truth s.used)])))

end Lesson
end CardLesson
