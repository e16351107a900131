/-
# Carrying out effects

An effect whose conditions do not all hold does nothing; a debuff may be absorbed by an immunity;
all else is done by the rule of its kind, and an effect of an unknown kind does nothing. Effects of
a list follow one another, each on the lesson the one before it left.

The effects inside a gate are part of the effect. A card triggered from the hand brings effects of
its own, which may trigger further cards; how deep this may go is bounded by `nestingLimit`.

Key definitions: `resolveOne`, `resolveEach`, `resolveWithin`, `resolve`, `applyEffects`.
Key theorems: `resolveEach_nil`.
-/
import CardLesson.Lesson.Gains
import CardLesson.Lesson.CardMoves
import CardLesson.Lesson.Standing

namespace CardLesson

/-- Carries out the effects of a list. -/
abbrev Resolver := List Effect → Lesson → Play Resolution

/-- How many cards of the hand an operation triggers: as many as it counts, one when it counts
none, at most as many as there are. -/
def triggerCount (op : Operation) (available : Nat) : Except Fault Datum := do
  let wanted := op.count.orElse (.whole 1)
  return if ← Datum.lt (.whole available) wanted then .whole available else wanted

/-- A count of cards to pick among `available` ones. -/
def pickCount (count : Datum) (available : Nat) : Except Fault Nat := do
  let q ← count.quantity
  if q.lt 0 || !q.le (.whole available) then throw (.badValue .unpickable)
  match q with
  | .whole n => return n.toNat
  | .real _ => throw (.misuse .unsuitable)

/-- The names of cards, parted by commas; each must be a text. -/
def namesOf (copies : List Copy) : Except Fault String := do
  let names ← copies.mapM fun c =>
    match c.card.name with
    | .text s => (.ok s : Except Fault String)
    | _ => .error (.misuse .unsuitable)
  return String.intercalate ", " names

/-- Carries out the effects of cards one after another, each put from the hand to the discard pile
first. -/
def triggerEach (inner : Resolver) : List Copy → Lesson → Play Resolution
  | [], l => return .untouched l
  | c :: rest, l => do
    let r ← inner c.card.effects { l with hand := removeCopy l.hand c, discard := l.discard ++ [c] }
    return r.andThen (← triggerEach inner rest r.lesson)

/-- Triggers random cards of the hand. -/
def triggerHand (inner : Resolver) (l : Lesson) (op : Operation) : Play Resolution := do
  let candidates := l.hand.filter (Lesson.hasRarity op.targetRarity)
  let count ← triggerCount op candidates.length
  if count.same (.whole 0) then return .untouched l ["No matching card in hand to trigger"]
  let chosen ← (Luck.sample candidates (← pickCount count candidates.length) : Luck (List Copy))
  let names ← namesOf chosen
  let r ← triggerEach inner chosen l
  return { r with lines := s!"Triggered from hand: {names}" :: r.lines, touched := true }

/-- The rule of each kind of effect but the gate. -/
def carryOut (inner : Resolver) (l : Lesson) (op : Operation) (triggered : Option Effect)
    (k : EffectKind) : Play Resolution :=
  match k with
  | .scoreFixed => scoreFixed l op
  | .scoreScaleGenki => scoreScaled l op l.genki "genki"
  | .scoreScaleImpression => scoreScaled l op l.goodImpression "good impression"
  | .scoreScaleMotivation => scoreScaled l op l.motivation "motivation"
  | .genki => gainGenki l op
  | .impression => gainImpression l op
  | .motivation => gainMotivation l op
  | .concentration => gainConcentration l op
  | .shield => gainShield l op
  | .halfGenki => halveGenki l
  | .setGenki => setGenki l op
  | .consumeHp => consumeHp l op
  | .consumeMotivation => consumeMotivation l op
  | .consumeImpression => consumeImpression l op
  | .multiplyImpression => multiplyImpression l op
  | .drawCard => drawForEffect l op
  | .swapHand => swapHand l
  | .upgradeHand => upgradeHand l
  | .addCardPlayCount => addPlays l op
  | .triggerRandomHandCard => triggerHand inner l op
  | .generateTrouble => generateTrouble l op
  | .addTurn => addTurns l op
  | .endLesson => return endLesson l
  | .perfectCondition | .doubleStrike | .doubleCost | .costReduction | .noGenkiGain | .noDebuff
  | .scoreBonus | .impressionGain | .cardBaseValue | .turnStart | .onCardUse | .reactionOnCost
  | .costIncrease | .reduceHpCost => grantBuff l op k (k.buffName?.getD k.name) triggered
  | .conditionGate | .delayedEffect => return .untouched l

mutual

/-- Carries out one effect; `inner` carries out the effects of triggered cards. -/
def resolveOne (inner : Resolver) (l : Lesson) : Effect → Play Resolution
  | ⟨op, subs, triggered⟩ => do
    if ← l.meetsAll op.conditions then
      op.kind.key
      match op.kind with
      | .unknown _ => return .untouched l
      | .known k =>
        match ← if k.isDebuff then absorb l op else pure none with
        | some r => return r
        | none =>
          if k = .conditionGate then resolveEach inner l subs
          else carryOut inner l op triggered k
    else return .untouched l
termination_by structural e => e

/-- Carries out the effects of a list in order. -/
def resolveEach (inner : Resolver) (l : Lesson) : List Effect → Play Resolution
  | [] => return .untouched l
  | e :: rest => do
    let r ← resolveOne inner l e
    return r.andThen (← resolveEach inner r.lesson rest)
termination_by structural es => es

end

/-- Carries out effects, triggered cards nested at most `depth` deep. -/
def resolveWithin : Nat → Resolver
  | 0, _, _ => throw .tooDeep
  | depth + 1, es, l => resolveEach (resolveWithin depth) l es

/-- How deep triggered cards may nest. -/
def nestingLimit : Nat := 320

/-- Carries out effects in order. -/
def resolve (es : List Effect) (l : Lesson) : Play Resolution := resolveWithin nestingLimit es l

/-- Carries out effects in order and writes their lines to the log. -/
def applyEffects (es : List Effect) (l : Lesson) : Play Lesson := do
  return (← resolve es l).logged

theorem resolveEach_nil (inner : Resolver) (l : Lesson) :
    resolveEach inner l [] = pure (.untouched l) := by
  simp [resolveEach]

end CardLesson
