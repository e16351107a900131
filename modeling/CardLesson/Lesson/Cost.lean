/-
# What a card costs

Flat reductions come off a card's cost first, which then is never below zero; flat increases are
added, a cost reduction halves and a double cost doubles, and a fraction is cut off.

Key definitions: `actualCost`, `requiredAmount`, `Lesson.obstacle`, `Lesson.isPlayable`.
-/
import CardLesson.Lesson.Standing

namespace CardLesson

/-- The cost of a card under some buffs. -/
def actualCost (card : Card) (buffs : List Buff) : Except Fault Int := do
  let reduction ← Lesson.sumValues (buffs.filter (·.is .reduceHpCost))
  let increase ← Lesson.sumValues (buffs.filter (·.is .costIncrease))
  let cost := Quantity.larger 0 (← Quantity.sub (.whole card.cost) reduction)
  let cost ← cost.add increase
  let cost ← if buffs.any (·.is .costReduction) then
      do pure (.whole (← (← cost.mul (.real Balance.costReductionRate)).floor))
    else pure cost
  let cost ← if buffs.any (·.is .doubleCost) then cost.mul (.whole Balance.doubleCostRate)
    else pure cost
  return max 0 (← cost.truncate)

/-- What a card asks of a pool: the value of its first effect of the kind, zero without one. -/
def requiredAmount (card : Card) (k : EffectKind) : Datum :=
  match card.effects.find? (·.is k) with
  | some e => e.operation.value.orElse (.whole 0)
  | none => .whole 0

namespace Lesson

/-- Why a card cannot be paid for. -/
inductive Obstacle where
  | motivation
  | goodImpression
  | hp
  deriving DecidableEq, Repr

/-- Whether what is there falls short of a cost. The reason is put into words even though only the
obstacle is used. -/
def hpObstacle (available : Quantity) (cost : Int) : Except Fault (Option Obstacle) := do
  if available.lt (.whole cost) then
    let _ ← available.printed
    let _ ← printWhole cost
    return some .hp
  else return none

/-- Why a card of a cost cannot be paid for, or none. -/
def obstacle (l : Lesson) (card : Card) (cost : Int) : Except Fault (Option Obstacle) := do
  if ← Datum.lt (.number l.motivation) (requiredAmount card .consumeMotivation) then
    return some .motivation
  if ← Datum.lt (.number l.goodImpression) (requiredAmount card .consumeImpression) then
    return some .goodImpression
  match card.costType with
  | .hp => hpObstacle l.hp cost
  | .normal => hpObstacle (← l.hp.add l.genki) cost

/-- Whether the plays of the turn are used up. -/
def isPlayedOut (l : Lesson) : Bool := Quantity.le (.whole Balance.playsPerTurn) l.cardsPlayed

/-- Whether a card of the hand may be played: plays are left, its conditions hold, and it can be
paid for. -/
def isPlayable (l : Lesson) (id : Datum) : Except Fault Bool :=
  if l.isPlayedOut then .ok false
  else
    match l.findInHand id with
    | none => .ok false
    | some copy => do
      if ← l.meetsAll copy.card.conditions then
        let cost ← actualCost copy.card l.buffs
        return (← l.obstacle copy.card cost).isNone
      else return false

/-- The ids of the cards of the hand that may be played, each once, in the order of the hand. The
ids found before are given. -/
def playableAfter (l : Lesson) (found : List Datum) : List Copy → Except Fault (List Datum)
  | [] => .ok found
  | c :: rest => do
    if found.any (·.same c.id) then l.playableAfter found rest
    else if ← l.isPlayable c.id then l.playableAfter (found ++ [c.id]) rest
    else l.playableAfter found rest

/-- The ids of the cards of the hand that may be played. -/
def playableIds (l : Lesson) : Except Fault (List Datum) := l.playableAfter [] l.hand

/-- The cost of a card of the hand under the buffs of the lesson. -/
def previewCost (l : Lesson) (id : Datum) : Except Fault (Option Int) :=
  match l.findInHand id with
  | none => .ok none
  | some copy => (actualCost copy.card l.buffs).map some

end Lesson
end CardLesson
