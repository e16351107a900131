/-
# Whether conditions hold

A condition compares a quantity of the lesson with its value. A list of conditions holds when all
of them do, and they are looked at in order up to the first that fails. A condition of an unknown
kind never holds.

Key definitions: `Lesson.measure`, `Lesson.meets`, `Lesson.meetsAll`, `Lesson.matchesPlayed`.
-/
import CardLesson.Lesson.State

namespace CardLesson

/-- A tag that can be looked up; what a list of words cannot be searched for is a misuse. -/
def Tag.key {α : Type} : Tag α → Except Fault Unit
  | .known _ => .ok ()
  | .unknown raw => raw.key.map fun _ => ()

/-- The tag put into a text. -/
def Tag.printed {α : Type} [Named α] : Tag α → Except Fault String
  | .known a => .ok (Named.name a)
  | .unknown raw => raw.printed

/-- The largest of some data; the first of equal ones. -/
def largest (best : Datum) : List Datum → Except Fault Datum
  | [] => .ok best
  | d :: rest => do if ← best.lt d then largest d rest else largest best rest

/-- Compares two data. Data that cannot be ordered can still be equal or not. -/
def Comparison.holds (c : Comparison) (target value : Datum) : Except Fault Bool :=
  match c with
  | .equal => .ok (target.same value)
  | c => do return c.accepts (← target.order value)

namespace Lesson

/-- The share of the HP that is left; without any HP to have, none. -/
def hpRatio (l : Lesson) : Except Fault Double :=
  if Quantity.lt 0 l.maxHp then l.hp.ratio l.maxHp else .ok .zero

/-- The longest duration of the buffs that a condition names, zero without one. An indefinite
duration counts as a fixed large one. -/
def buffDuration (l : Lesson) (c : Condition) : Except Fault Datum :=
  let named := l.buffs.filter fun b => c.buffKind.any fun k => b.kind.same k
  match named.map fun b =>
      if b.indefinite then .whole Balance.indefiniteSentinel else b.duration with
  | [] => .ok (.whole 0)
  | d :: rest => largest d rest

/-- The trouble cards in the zones that a condition names; excluded ones never count. -/
def troubleCount (l : Lesson) (c : Condition) : Nat :=
  let count (zone : List Copy) := zone.countP (·.card.isTrouble)
  if c.scope.isNull || c.scope.same (.text "all") then
    count l.hand + count l.deck + count l.discard
  else if c.scope.same (.text "hand") then count l.hand
  else if c.scope.same (.text "deck") then count l.deck
  else if c.scope.same (.text "discard") then count l.discard
  else 0

/-- Whether a card has the rarity that is asked for; when none is, every card does. -/
def hasRarity (rarity : Datum) (c : Copy) : Bool := !rarity.holds || c.card.rarity.same rarity

/-- The quantity that a condition of a known kind compares. -/
def measure (l : Lesson) (c : Condition) : ConditionKind → Except Fault Datum
  | .genki => .ok (.number l.genki)
  | .impression => .ok (.number l.goodImpression)
  | .motivation => .ok (.number l.motivation)
  | .concentration => .ok (.number l.concentration)
  | .hp => .ok (.number l.hp)
  | .hpRatio => do return .number (.real (← l.hpRatio))
  | .hpPercent => do return .number (.real (Double.mul (← l.hpRatio) (.ofInt 100)))
  | .turn => .ok (.number l.turn)
  | .buff => l.buffDuration c
  | .troubleCardCount => .ok (.whole (l.troubleCount c))
  | .handRarityCount => .ok (.whole (l.hand.countP (hasRarity c.targetRarity)))
  | .cardTypeUsage => .ok (.whole 0)

/-- Whether a condition holds. -/
def meets (l : Lesson) (c : Condition) : Except Fault Bool := do
  c.kind.key
  match c.kind with
  | .unknown _ => return false
  | .known k => c.compare.holds (← l.measure c k) c.value

/-- Whether all conditions hold. -/
def meetsAll (l : Lesson) : List Condition → Except Fault Bool
  | [] => .ok true
  | c :: rest => do if ← l.meets c then l.meetsAll rest else return false

/-- Whether a card of a type that was just played sets off a buff with this condition. -/
def matchesPlayed (l : Lesson) (c : Option Condition) (type : CardType) : Except Fault Bool :=
  match c with
  | none => .ok true
  | some c =>
    if c.kind.is .cardTypeUsage then .ok (c.cardType.isNull || c.cardType.same (.text type.name))
    else l.meets c

end Lesson
end CardLesson
