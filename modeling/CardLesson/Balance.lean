/-
# Balance

The numbers of the game. No rule has a number of its own: tuning the game is changing this file.
-/
import CardLesson.Number.Double

namespace CardLesson.Balance

/-- Score at a turn's end for each point of good impression. -/
def impressionScorePerStack : Int := 1

/-- Good impression lost at a turn's end. -/
def impressionDecay : Int := 1

/-- Genki gained on top of a genki effect for each point of motivation. -/
def motivationGenkiBonusPerStack : Int := 1

/-- Score on top of a fixed score for each point of concentration. -/
def concentrationScoreBonusPerStack : Int := 1

/-- What a perfect condition multiplies scores by. -/
def perfectConditionScore : Double := .ofRatio false 3 2

/-- What a double strike multiplies scores by. -/
def doubleStrikeScore : Double := .ofRatio false 2 1

/-- The most cards a hand is filled up to. -/
def handLimit : Nat := 5

/-- Cards drawn for a turn. -/
def baseDraw : Nat := 3

/-- Cards that may be played in a turn. -/
def playsPerTurn : Int := 1

/-- HP regained in a turn without a play. -/
def skipRecoveryHp : Int := 2

/-- Turns of a lesson, when nothing else is said. -/
def maxTurns : Int := 12

/-- HP at the start, when nothing else is said. -/
def defaultHp : Int := 30

/-- Turns a buff lasts, when nothing else is said. -/
def defaultBuffDuration : Int := 1

/-- The duration that stands for the rest of the lesson. -/
def indefiniteDuration : Int := -1

/-- What an indefinite duration counts as when durations are compared. -/
def indefiniteSentinel : Int := 999

/-- What a cost reduction multiplies costs by. -/
def costReductionRate : Double := .ofRatio false 1 2

/-- What a double cost multiplies costs by. -/
def doubleCostRate : Int := 2

end CardLesson.Balance
