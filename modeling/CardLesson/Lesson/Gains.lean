/-
# Scores and pools

What effects add to the score and do to the pools. Scores are multiplied by the condition of the
player, the stat of the turn and the score bonuses, in doubles, and rounded down; so are gains of
good impression with their own bonus.

Key definitions: `Lesson.scoreMultiplier`, `Lesson.adjustedValue`, `scoreFixed`, `scoreScaled`,
`gainGenki`, `gainImpression`, `consume`.
-/
import CardLesson.Lesson.Resolution

namespace CardLesson

/-- One and a number of hundredths. -/
def onePlusPercent (q : Quantity) : Except Fault Double := do
  return Double.add .one (Double.div (← q.toDouble) (.ofInt 100))

namespace Lesson

/-- What the player's condition multiplies scores by; a double strike takes the place of a perfect
condition. -/
def conditionMultiplier (l : Lesson) : Double :=
  if l.hasBuff .doubleStrike then Balance.doubleStrikeScore
  else if l.hasBuff .perfectCondition then Balance.perfectConditionScore
  else .one

/-- What every score is multiplied by. -/
def scoreMultiplier (l : Lesson) : Except Fault Double := do
  let statBonus ← onePlusPercent l.statValue
  let scoreBonus ← onePlusPercent (← l.sumBuffs .scoreBonus)
  return Double.mul (Double.mul l.conditionMultiplier statBonus) scoreBonus

/-- The value of a gain with the base value buffs for it, without its fraction. -/
def adjustedValue (l : Lesson) (op : Operation) (k : EffectKind) : Except Fault Int := do
  let base ← (op.value.given (.whole 0)).quantity
  match k.gainName? with
  | some name => (← base.add (← l.sumBuffs .cardBaseValue (some (.text name)))).truncate
  | none => base.truncate

/-- The lesson with a higher score. -/
def addScore (l : Lesson) (amount : Int) : Except Fault Lesson := do
  return { l with score := ← l.score.add (.whole amount) }

end Lesson

/-- A line that ends with an amount. -/
def amountLine (label : String) (amount : Int) : Except Fault String := do
  return label ++ (← printWhole amount)

/-- A line on a pool before and after a change. -/
def changeLine (label : String) (before : Quantity) (after : Int) : Except Fault String := do
  let before ← before.printed
  let after ← printWhole after
  return s!"{label} ({before} -> {after})"

/-- A fixed score and what concentration adds to it. -/
def scoreFixed (l : Lesson) (op : Operation) : Except Fault Resolution := do
  let focus ← l.concentration.mul (.whole Balance.concentrationScoreBonusPerStack)
  let focus ← focus.mul (← (op.multiplier.given (.number (.real .one))).quantity)
  let base ← (← (op.value.given (.whole 0)).quantity).add (.whole (← focus.floor))
  let amount ← (← base.mul (.real (← l.scoreMultiplier))).floor
  let scored ← l.addScore amount
  return .changed scored (← amountLine "Score +" amount)

/-- The line on a score in proportion to a pool. -/
def shareLine (amount : Int) (ratio : Quantity) (label : String) (pool : Quantity) :
    Except Fault String := do
  let figures ← printWhole amount
  let percent ← printWhole (← (← ratio.mul (.whole 100)).nearestWhole)
  let held ← pool.printed
  return s!"Score +{figures} ({percent}% of {label} {held})"

/-- A score in proportion to a pool. -/
def scoreScaled (l : Lesson) (op : Operation) (pool : Quantity) (label : String) :
    Except Fault Resolution := do
  let ratio ← (op.ratio.given (.number (.real .one))).quantity
  let amount ← (← (← pool.mul ratio).mul (.real (← l.scoreMultiplier))).floor
  let line ← shareLine amount ratio label pool
  return .changed (← l.addScore amount) line

/-- The line on a gain of genki, and on the motivation in it. -/
def genkiLine (op : Operation) (flat : Int) (bonus : Quantity) : Except Fault String := do
  let line ← amountLine "Genki +" flat
  if Quantity.lt 0 bonus then
    let figures ← bonus.printed
    return line ++ s!" (motivation bonus +{figures}" ++
      (if op.doubleMotivation then " x2)" else ")")
  else return line

/-- Genki, and what motivation adds to it. -/
def gainGenki (l : Lesson) (op : Operation) : Except Fault Resolution := do
  if l.hasBuff .noGenkiGain then return .untouched l ["Genki gain blocked (no genki gain)"]
  let flat ← l.adjustedValue op .genki
  let bonus ← l.motivation.mul (.whole Balance.motivationGenkiBonusPerStack)
  let bonus ← bonus.mul (if op.doubleMotivation then 2 else 1)
  let line ← genkiLine op flat bonus
  let genki ← (← l.genki.add (.whole flat)).add bonus
  return .changed { l with genki } line

/-- The line on a gain of good impression, and on its bonus. -/
def impressionLine (amount : Int) (factor : Double) : Except Fault String := do
  let line ← amountLine "Good Impression +" amount
  if factor.compare? .one == some .gt then
    let percent ← Quantity.nearestWhole (.real (Double.mul (Double.sub factor .one) (.ofInt 100)))
    let figures ← printWhole percent
    return line ++ s!" (gain +{figures}%)"
  else return line

/-- Good impression, raised by its bonus. -/
def gainImpression (l : Lesson) (op : Operation) : Except Fault Resolution := do
  let factor ← onePlusPercent (← l.sumBuffs .impressionGain)
  let value ← l.adjustedValue op .impression
  let amount ← (← Quantity.mul (.whole value) (.real factor)).floor
  let line ← impressionLine amount factor
  let goodImpression ← l.goodImpression.add (.whole amount)
  return .changed { l with goodImpression } line

def gainMotivation (l : Lesson) (op : Operation) : Except Fault Resolution := do
  let amount ← l.adjustedValue op .motivation
  let motivation ← l.motivation.add (.whole amount)
  return .changed { l with motivation } (← amountLine "Motivation +" amount)

/-- The value of an operation as a whole number, zero when none is given. -/
def Operation.wholeValue (op : Operation) : Except Fault Int := (op.value.given (.whole 0)).toWhole

def gainConcentration (l : Lesson) (op : Operation) : Except Fault Resolution := do
  let amount ← op.wholeValue
  let concentration ← l.concentration.add (.whole amount)
  return .changed { l with concentration } (← amountLine "Concentration +" amount)

def gainShield (l : Lesson) (op : Operation) : Except Fault Resolution := do
  let amount ← op.wholeValue
  let shield ← l.shield.add (.whole amount)
  return .changed { l with shield } (← amountLine "Shield +" amount)

def halveGenki (l : Lesson) : Except Fault Resolution := do
  let left ← (← l.genki.mul (.real (.ofRatio false 1 2))).floor
  return .changed { l with genki := .whole left } (← changeLine "Genki halved" l.genki left)

def setGenki (l : Lesson) (op : Operation) : Except Fault Resolution := do
  let genki := max 0 (← op.wholeValue)
  return .changed { l with genki := .whole genki } (← amountLine "Genki set to " genki)

/-- A pool less an amount; never below zero. -/
def consume (pool : Quantity) (amount : Int) : Except Fault Quantity := do
  return Quantity.larger 0 (← pool.sub (.whole amount))

def consumeHp (l : Lesson) (op : Operation) : Except Fault Resolution := do
  let amount ← op.wholeValue
  let hp ← consume l.hp amount
  return .changed { l with hp } (← amountLine "HP -" amount)

def consumeMotivation (l : Lesson) (op : Operation) : Except Fault Resolution := do
  let amount ← op.wholeValue
  let motivation ← consume l.motivation amount
  return .changed { l with motivation } (← amountLine "Motivation -" amount)

def consumeImpression (l : Lesson) (op : Operation) : Except Fault Resolution := do
  let amount ← op.wholeValue
  let goodImpression ← consume l.goodImpression amount
  return .changed { l with goodImpression } (← amountLine "Good Impression -" amount)

/-- Good impression times a factor, rounded down. -/
def multiplyImpression (l : Lesson) (op : Operation) : Except Fault Resolution := do
  let factor := op.value.given (.number (.real .one))
  let product ← (← l.goodImpression.mul (← factor.quantity)).floor
  let times ← factor.printed
  let line ← changeLine s!"Good Impression x{times}" l.goodImpression product
  return .changed { l with goodImpression := .whole product } line

/-- Takes back plays, as if they had not been made. -/
def addPlays (l : Lesson) (op : Operation) : Except Fault Resolution := do
  let amount ← op.wholeValue
  let cardsPlayed ← consume l.cardsPlayed amount
  return .changed { l with cardsPlayed } (← amountLine "Extra card play +" amount)

/-- The line on a lesson that is lengthened. -/
def turnsLine (amount : Int) (maxTurns : Quantity) : Except Fault String := do
  let line ← amountLine "Turns +" amount
  let total ← maxTurns.printed
  return s!"{line} ({total} total)"

/-- Lengthens the lesson. -/
def addTurns (l : Lesson) (op : Operation) : Except Fault Resolution := do
  let amount ← op.wholeValue
  let maxTurns ← l.maxTurns.add (.whole amount)
  return .changed { l with maxTurns } (← turnsLine amount maxTurns)

/-- Makes the present turn the last. -/
def endLesson (l : Lesson) : Resolution :=
  .changed { l with maxTurns := l.turn } "Lesson ends this turn"

end CardLesson
