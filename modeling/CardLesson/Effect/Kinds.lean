/-
# Kinds of effects and conditions

The closed lists of words that card data uses: kinds of effects, kinds of conditions and
comparisons, each with its spelling. A `Tag` is a word of such a list or, for data that is newer
than the list, whatever stands in its place.

Key definitions: `Named`, `Named.ofName?`, `EffectKind`, `ConditionKind`, `Comparison`, `Tag`.
Key theorems: `EffectKind.ofName?_name`, `ConditionKind.ofName?_name`, `Comparison.ofName?_name`.
-/
import CardLesson.Datum.Literal

namespace CardLesson

/-- A closed list of words with their spellings. -/
class Named (α : Type) where
  name : α → String
  all : List α

namespace Named

variable {α : Type} [Named α]

/-- The word with a spelling. -/
def ofName? (s : String) : Option α := (all (α := α)).find? fun a => name a == s

/-- The word that a datum spells. -/
def ofDatum? : Datum → Option α
  | .text s => ofName? s
  | _ => none

theorem name_of_ofName? {s : String} {a : α} (h : ofName? s = some a) : name a = s := by
  simpa using List.find?_some h

end Named

/-- What an effect does. -/
inductive EffectKind where
  | scoreFixed
  | scoreScaleGenki
  | scoreScaleImpression
  | scoreScaleMotivation
  | genki
  | impression
  | motivation
  | concentration
  | shield
  | perfectCondition
  | doubleStrike
  | doubleCost
  | costReduction
  | noGenkiGain
  | noDebuff
  | scoreBonus
  | impressionGain
  | cardBaseValue
  | costIncrease
  | reduceHpCost
  | turnStart
  | onCardUse
  | reactionOnCost
  | halfGenki
  | setGenki
  | consumeHp
  | consumeMotivation
  | consumeImpression
  | multiplyImpression
  | drawCard
  | upgradeHand
  | swapHand
  | addCardPlayCount
  | triggerRandomHandCard
  | generateTrouble
  | addTurn
  | endLesson
  | conditionGate
  | delayedEffect
  deriving DecidableEq, Repr

namespace EffectKind

def name : EffectKind → String
  | scoreFixed => "score_fixed"
  | scoreScaleGenki => "score_scale_genki"
  | scoreScaleImpression => "score_scale_impression"
  | scoreScaleMotivation => "score_scale_motivation"
  | genki => "buff_genki"
  | impression => "buff_impression"
  | motivation => "buff_motivation"
  | concentration => "buff_concentration"
  | shield => "buff_shield"
  | perfectCondition => "buff_perfect_condition"
  | doubleStrike => "buff_double_strike"
  | doubleCost => "buff_double_cost"
  | costReduction => "buff_cost_reduction"
  | noGenkiGain => "buff_no_genki_gain"
  | noDebuff => "buff_no_debuff"
  | scoreBonus => "buff_score_bonus"
  | impressionGain => "buff_impression_gain"
  | cardBaseValue => "buff_card_base_value"
  | costIncrease => "debuff_cost_increase"
  | reduceHpCost => "reduce_hp_cost"
  | turnStart => "buff_turn_start"
  | onCardUse => "buff_on_card_use"
  | reactionOnCost => "buff_reaction_on_cost"
  | halfGenki => "half_genki"
  | setGenki => "set_genki"
  | consumeHp => "consume_hp"
  | consumeMotivation => "consume_motivation"
  | consumeImpression => "consume_impression"
  | multiplyImpression => "multiply_impression"
  | drawCard => "draw_card"
  | upgradeHand => "upgrade_hand"
  | swapHand => "swap_hand"
  | addCardPlayCount => "add_card_play_count"
  | triggerRandomHandCard => "trigger_random_hand_card"
  | generateTrouble => "generate_trouble"
  | addTurn => "add_turn"
  | endLesson => "end_lesson"
  | conditionGate => "condition_gate"
  | delayedEffect => "delayed_effect"

instance : Named EffectKind where
  name := name
  all := [scoreFixed, scoreScaleGenki, scoreScaleImpression, scoreScaleMotivation, genki,
    impression, motivation, concentration, shield, perfectCondition, doubleStrike, doubleCost,
    costReduction, noGenkiGain, noDebuff, scoreBonus, impressionGain, cardBaseValue, costIncrease,
    reduceHpCost, turnStart, onCardUse, reactionOnCost, halfGenki, setGenki, consumeHp,
    consumeMotivation, consumeImpression, multiplyImpression, drawCard, upgradeHand, swapHand,
    addCardPlayCount, triggerRandomHandCard, generateTrouble, addTurn, endLesson, conditionGate,
    delayedEffect]

theorem ofName?_name (k : EffectKind) : Named.ofName? k.name = some k := by
  cases k <;> decide

/-- Buffs that wait for something to happen and then carry out an effect. -/
def isReactive : EffectKind → Bool
  | turnStart | onCardUse | reactionOnCost => true
  | _ => false

/-- Effects that a debuff immunity absorbs. -/
def isDebuff : EffectKind → Bool
  | noGenkiGain | doubleCost | costIncrease | halfGenki | setGenki => true
  | _ => false

/-- The name under which an effect that grants a buff is announced; `none` for all others. -/
def buffName? : EffectKind → Option String
  | perfectCondition => some "Perfect Condition"
  | doubleStrike => some "Double Strike"
  | doubleCost => some "Double Cost"
  | costReduction => some "Cost Reduction"
  | noGenkiGain => some "No Genki Gain"
  | noDebuff => some "Debuff Immunity"
  | scoreBonus => some "Score Bonus"
  | impressionGain => some "Impression Gain Up"
  | cardBaseValue => some "Card Base Value Up"
  | turnStart => some "Turn Start Trigger"
  | onCardUse => some "Card Use Trigger"
  | reactionOnCost => some "HP Cost Reaction"
  | costIncrease => some "Cost Increase"
  | reduceHpCost => some "HP Cost Down"
  | _ => none

/-- Whether a second grant extends the first buff instead of adding another. -/
def isExtendable (k : EffectKind) : Bool := k == noGenkiGain

/-- The word by which a base value buff names the gains of a kind. -/
def gainName? : EffectKind → Option String
  | genki => some "genki"
  | impression => some "impression"
  | motivation => some "motivation"
  | _ => none

end EffectKind

/-- What a condition compares. -/
inductive ConditionKind where
  | genki
  | impression
  | motivation
  | concentration
  | hp
  | hpRatio
  | hpPercent
  | turn
  | buff
  | troubleCardCount
  | handRarityCount
  | cardTypeUsage
  deriving DecidableEq, Repr

namespace ConditionKind

def name : ConditionKind → String
  | genki => "genki"
  | impression => "impression"
  | motivation => "motivation"
  | concentration => "concentration"
  | hp => "hp"
  | hpRatio => "hp_ratio"
  | hpPercent => "hp_percent"
  | turn => "turn"
  | buff => "buff"
  | troubleCardCount => "trouble_card_count"
  | handRarityCount => "hand_rarity_count"
  | cardTypeUsage => "card_type_usage"

instance : Named ConditionKind where
  name := name
  all := [genki, impression, motivation, concentration, hp, hpRatio, hpPercent, turn, buff,
    troubleCardCount, handRarityCount, cardTypeUsage]

theorem ofName?_name (k : ConditionKind) : Named.ofName? k.name = some k := by
  cases k <;> decide

end ConditionKind

/-- How a condition compares. -/
inductive Comparison where
  | atLeast
  | atMost
  | equal
  | above
  | below
  deriving DecidableEq, Repr

namespace Comparison

def name : Comparison → String
  | atLeast => ">="
  | atMost => "<="
  | equal => "=="
  | above => ">"
  | below => "<"

instance : Named Comparison where
  name := name
  all := [atLeast, atMost, equal, above, below]

theorem ofName?_name (c : Comparison) : Named.ofName? c.name = some c := by
  cases c <;> decide

/-- Whether a comparison holds of an order; numbers that cannot be ordered pass none. -/
def accepts : Comparison → Option Ordering → Bool
  | _, none => false
  | atLeast, some o => o != .lt
  | atMost, some o => o != .gt
  | equal, some o => o == .eq
  | above, some o => o == .gt
  | below, some o => o == .lt

end Comparison

/-- A word of a closed list, or a datum that spells none. -/
inductive Tag (α : Type) where
  | known (a : α)
  | unknown (raw : Datum)
  deriving Repr

namespace Tag

variable {α : Type} [Named α]

def read (raw : Datum) : Tag α :=
  match Named.ofDatum? raw with
  | some a => .known a
  | none => .unknown raw

/-- The tag as it is shown. -/
def shown : Tag α → String
  | .known a => Named.name a
  | .unknown raw => raw.shown

/-- Whether the tag is a given word. -/
def is [DecidableEq α] (t : Tag α) (a : α) : Bool :=
  match t with
  | .known b => b == a
  | .unknown _ => false

/-- Equality by meaning. -/
def same [DecidableEq α] : Tag α → Tag α → Bool
  | .known a, .known b => a == b
  | .unknown d, .unknown e => d.same e
  | _, _ => false

end Tag
end CardLesson
