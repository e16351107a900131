/-
# Plays, turns and drinks

The three moves of a lesson. A move that is not allowed is rejected: it yields no lesson, draws
nothing and is no fault.

Playing a card pays its cost, carries out its effects, then the reactions to a cost in HP and the
buffs that wait for a card, and puts the card away. Ending a turn draws a new hand, scores good
impression and ages the buffs, then carries out the buffs that wait for a turn's start. A drink is
used once.

Key definitions: `Payment`, `Payment.of`, `Lesson.play`, `Lesson.endTurn`, `Lesson.useDrink`.
-/
import CardLesson.Lesson.Cost
import CardLesson.Lesson.Opening
import CardLesson.Lesson.Resolve

namespace CardLesson

/-- How a cost is paid: what it takes from HP, and the genki that is left. -/
structure Payment where
  hp : Quantity
  genkiLeft : Quantity

/-- HP-cost cards are paid from HP, all others from genki first. -/
def Payment.of (l : Lesson) (card : Card) (cost : Int) : Except Fault Payment :=
  match card.costType with
  | .hp => .ok ⟨.whole cost, l.genki⟩
  | .normal => do
    let hp := Quantity.larger 0 (← Quantity.sub (.whole cost) l.genki)
    let genkiLeft := Quantity.larger 0 (← l.genki.sub (.whole cost))
    return ⟨hp, genkiLeft⟩

namespace Lesson

/-- The effects of the buffs of a reactive kind. -/
def reactionsOf (l : Lesson) (k : EffectKind) : List Effect :=
  (l.buffsOf k).filterMap (·.triggered)

/-- The effects of the buffs that a card of a type sets off. -/
def firedBy (l : Lesson) (buffs : List Buff) (type : CardType) : Except Fault (List Effect) := do
  let fired ← buffs.filterM fun b => l.matchesPlayed b.triggerCondition type
  return fired.filterMap (·.triggered)

/-- Carries out effects and notes it, when there are any. -/
def react (es : List Effect) (notes : Except Fault (List String)) (l : Lesson) : Play Lesson :=
  if es.isEmpty then return l
  else do
    let l ← applyEffects es l
    return l.withLines (← notes)

/-- The lines on the reactions to a cost. -/
def reactionNotes (es : List Effect) : Except Fault (List String) :=
  es.mapM fun e => do
    let kind ← e.kind.printed
    return s!"Reaction triggered: {kind}"

/-- The line on a card that was played. -/
def playedNote (card : Card) (cost : Int) : Except Fault String := do
  let note ← if 0 < cost then do
      let figures ← printWhole cost
      pure s!" (cost {figures})"
    else pure ""
  let name ← card.name.printed
  return s!"Played {name}{note}"

/-- The lesson with a card put away: a card that is played once per lesson is excluded. -/
def putAway (l : Lesson) (copy : Copy) : Lesson :=
  if copy.card.oncePerLesson then { l with excluded := l.excluded ++ [copy] }
  else { l with discard := l.discard ++ [copy] }

/-- The play of a card that can be paid for. -/
def playPaid (l : Lesson) (copy : Copy) (cost : Int) (p : Payment) : Play Lesson := do
  let card := copy.card
  let reactions := if Quantity.lt 0 p.hp then l.reactionsOf .reactionOnCost else []
  let waiting := (l.buffsOf .onCardUse).filter (·.triggered.isSome)
  let hp ← l.hp.sub p.hp
  let cardsPlayed ← l.cardsPlayed.add 1
  let paid := { l with
    phase := .main, hand := removeCopy l.hand copy, genki := p.genkiLeft, hp, cardsPlayed }
  let played ← applyEffects card.effects paid
  let played ← react reactions (reactionNotes reactions) played
  let fired ← played.firedBy waiting card.type
  let played ← react fired (.ok [s!"Card use triggers fired ({fired.length})"]) played
  let line ← playedNote card cost
  return (played.putAway copy).withLines [line]

/-- Plays the first card of the hand with an id. -/
def play (l : Lesson) (id : Datum) : Play (Option Lesson) :=
  if l.isPlayedOut then return none
  else
    match l.findInHand id with
    | none => return none
    | some copy => do
      let cost ← actualCost copy.card l.buffs
      if (← l.obstacle copy.card cost).isSome then return none
      else return some (← l.playPaid copy cost (← Payment.of l copy.card cost))

/-- The lines on a turn that starts. -/
def turnNotes (gained turn : Quantity) (skipped : Bool) : Except Fault (List String) := do
  let scored ← if Quantity.lt 0 gained then do
      let figures ← gained.printed
      pure [s!"Good Impression score +{figures}"]
    else pure []
  let note := if skipped then s!" (skip recovery +{Balance.skipRecoveryHp} HP)" else ""
  let number ← turn.printed
  return scored ++ [s!"Turn {number} start (Good Impression -{Balance.impressionDecay}){note}"]

/-- The lesson in its next turn, before the buffs that wait for it. -/
def nextTurn (l : Lesson) (schedule : Schedule) : Play Lesson := do
  let skipped := l.cardsPlayed.same 0
  let hp ← if skipped then
      do pure (l.maxHp.smaller (← l.hp.add (.whole Balance.skipRecoveryHp)))
    else pure l.hp
  let drawn ← drawCards l.deck (l.discard ++ l.hand) (min Balance.baseDraw Balance.handLimit) []
  let gained ← l.goodImpression.mul (.whole Balance.impressionScorePerStack)
  let turn ← l.turn.add 1
  let lines ← turnNotes gained turn skipped
  let score ← l.score.add gained
  let turnStat ← schedule.statAt turn
  let buffs ← tickBuffs l.buffs
  let goodImpression := Quantity.larger 0 (← l.goodImpression.sub (.whole Balance.impressionDecay))
  return { l with
    score, hp, turn, turnStat, buffs, goodImpression
    phase := .start
    deck := drawn.deck
    hand := drawn.hand
    discard := drawn.discard
    cardsPlayed := 0
    logs := l.logs ++ lines }

/-- Ends the turn; the last turn does not end. -/
def endTurn (l : Lesson) (schedule : Schedule) : Play (Option Lesson) :=
  if l.isFinished then return none
  else do
    let next ← l.nextTurn schedule
    let triggers := next.reactionsOf .turnStart
    return some (← react triggers (.ok [s!"Turn start triggers fired ({triggers.length})"]) next)

/-- The first unused drink with an id, and the drinks with it used. -/
def takeDrink (id : Datum) : List DrinkSlot → Option (Drink × List DrinkSlot)
  | [] => none
  | slot :: rest =>
    if slot.drink.id.same id && !slot.used then some (slot.drink, ⟨slot.drink, true⟩ :: rest)
    else (takeDrink id rest).map fun (d, slots) => (d, slot :: slots)

/-- Uses a drink, after which the drinks are as given. -/
def drinkUp (l : Lesson) (drink : Drink) (drinks : List DrinkSlot) : Play Lesson := do
  let used ← applyEffects drink.effects { l with drinks }
  let name ← drink.name.printed
  return used.withLines [s!"Used drink {name}"]

/-- Uses the first unused drink with an id. -/
def useDrink (l : Lesson) (id : Datum) : Play (Option Lesson) :=
  match takeDrink id l.drinks with
  | none => return none
  | some (drink, drinks) => do return some (← l.drinkUp drink drinks)

end Lesson
end CardLesson
