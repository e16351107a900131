/-
# Clauses that state a condition

A gate is a clause that says when the clause after it counts. All gates ask for at least so much of
something.

Key definitions: `Condition.atLeast`, `pools`, `poolPhrase`, `gateRules`, `usageRules`.
-/
import CardLesson.Effect.Basic
import CardLesson.Wording.Pattern

namespace CardLesson

/-- The condition that there is at least so much of something. -/
def Condition.atLeast (kind : ConditionKind) (n : Nat) : Condition :=
  { kind := .known kind, value := .whole n }

namespace Wording

open Pattern

/-- The pools that conditions name. -/
def pools : List (String × ConditionKind) :=
  [("元気", .genki), ("好印象", .impression), ("やる気", .motivation), ("体力", .hp),
    ("集中", .concentration)]

/-- At least so much of a pool. -/
def poolPhrase (pool : String) : Pattern :=
  word pool ++ word "が" ++ digits .amount ++ word "以上の場合"

/-- The condition on a pool. -/
def poolCondition (kind : ConditionKind) (f : Found) : Except Fault Condition := do
  return .atLeast kind (← f.count .amount)

/-- Conditions under which a card may be used, wherever they stand. -/
def usageRules : List (Rule Condition) :=
  pools.map fun (pool, kind) =>
    ⟨poolPhrase pool ++ maybe (word "、") ++ word "使用可", poolCondition kind⟩

def poolGates : List (Rule Condition) :=
  pools.map fun (pool, kind) => ⟨poolPhrase pool, poolCondition kind⟩

def hpPercentGate : Rule Condition where
  pattern := word "体力が" ++ digits .amount ++ word "%以上の場合"
  meaning := poolCondition .hpPercent

def troubleGate : Rule Condition where
  pattern := word "除外以外にあるTトラブルカードが" ++ digits .amount ++ word "枚以上の場合"
  meaning := poolCondition .troubleCardCount

/-- At least so many hand cards of a rarity. -/
def rarityGates : List (Rule Condition) :=
  ["SSR", "SR", "R", "N"].map fun rarity =>
    { pattern := word "手札にあるスキルカード(" ++ word rarity ++ word ")が" ++ digits .amount ++
        word "枚以上の場合"
      meaning := fun f => do
        return { (← poolCondition .handRarityCount f) with targetRarity := .text rarity } }

/-- A condition of the player that lasts. -/
def stateGates : List (Rule Condition) :=
  [("好調", EffectKind.perfectCondition), ("絶好調", .doubleStrike)].map fun (state, buff) =>
    { pattern := word state ++ word "状態の場合"
      meaning := fun _ => .ok { Condition.atLeast .buff 1 with buffKind := some (.known buff) } }

/-- The clauses that state a condition. -/
def gateRules : List (Rule Condition) :=
  poolGates ++ [hpPercentGate, troubleGate] ++ rarityGates ++ stateGates

end Wording
end CardLesson
