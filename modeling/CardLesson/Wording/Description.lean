/-
# Descriptions of cards

What the description of a card says: its effects, the conditions under which it may be used, a cost
in HP and three flags. A description is brought into its plain form, flags and usage conditions are
taken out wherever they stand, and the rest is cut into fragments at `,` and `/` and into clauses at
`、`. Gates guard the next clause that states an effect. A clause that no rule covers is kept as
unknown.

The readers of clauses and fragments take their rules from tables; descriptions are read by the
`standard` ones.

Key definitions: `Wording.plain`, `Wording.Tables`, `Tables.readClauses`, `Tables.readTrigger`,
`Wording.Description`, `Wording.Description.read`.
Key theorems: `Wording.readClauses_cons`.
-/
import CardLesson.Text.Compatible
import CardLesson.Wording.Clause
import CardLesson.Wording.Gate
import CardLesson.Wording.Trigger

namespace CardLesson.Wording

open Pattern

/-- The plain form of a text: compatible characters made one, blanks cut off at both ends. -/
def plain (cs : List Char) : List Char := Text.trim (Text.compatible cs)

/-- What a description says. -/
structure Description where
  effects : List Effect := []
  /-- Conditions under which the card may be used. -/
  conditions : List Condition := []
  /-- The clauses that no rule covers. -/
  unknown : List (List Char) := []
  hpCost : Option Nat := none
  unique : Bool := false
  oncePerLesson : Bool := false
  startInHand : Bool := false

/-- The words that say a card cannot be held twice. -/
def uniqueFlag : Pattern := word "重複不可"

def onceFlag : Pattern := word "レッスン中1回"

def startFlag : Pattern := word "レッスン開始時手札に入る"

/-- The turns that the first lasting buff of a card is said to last. -/
def spanPhrase : Pattern := word "以降" ++ maybe (word "の") ++ digits .turns ++ word "ターンの間"

/-- The cost in HP that a description may start with. -/
def hpCostPhrase : Pattern := word "体力消費" ++ digits .amount

/-- The remark that motivation counts twice. -/
def doubleMotivationPhrase : Pattern :=
  maybe (word "(") ++ word "やる気効果を2倍適用" ++ maybe (word ")")

/-- Whether a phrase stands somewhere in a text. -/
def occurs (p : Pattern) (cs : List Char) : Bool := !(sift p.read 0 cs).1.isEmpty

/-- A text without a phrase, wherever it stands. -/
def without (p : Pattern) (cs : List Char) : List Char := (sift p.read 0 cs).2

/-- Characters around a fragment that do not belong to it. -/
def isPause (c : Char) : Bool := c == ' ' || c == '、'

/-- The fragments of a text. -/
def fragments (cs : List Char) : List (List Char) :=
  ((cs.splitOnP fun c => c == ',' || c == '/').map (Text.trimBy isPause)).filter (!·.isEmpty)

/-- The clauses of a fragment. -/
def clauses (cs : List Char) : List (List Char) :=
  ((cs.splitOnP (· == '、')).map Text.trim).filter (!·.isEmpty)

/-- An effect whose gain counts motivation twice. -/
def Effect.withDoubleMotivation (e : Effect) : Effect :=
  if e.is .genki then { e with operation := { e.operation with doubleMotivation := true } } else e

/-! ### Reading by tables of rules -/

/-- The rules that a reader looks a text up in. -/
structure Tables where
  gates : List (Rule Condition)
  effects : List (Rule (List Effect))
  triggers : List Trigger

namespace Tables

variable (t : Tables)

/-- The effects of clauses and the clauses that no rule covers. Gates wait, in order and with their
clauses, for the next clause that states an effect; those that wait in vain are unknown too. -/
def readClauses (waiting : List (Condition × List Char)) :
    List (List Char) → Except Fault (List Effect × List (List Char))
  | [] => .ok ([], waiting.map (·.2))
  | c :: cs =>
    match Rule.first? t.gates c with
    | some gate => do readClauses (waiting ++ [(← gate, c)]) cs
    | none =>
      match Rule.first? t.effects c with
      | none => do
        let (effects, unknown) ← readClauses waiting cs
        return (effects, c :: unknown)
      | some meaning => do
        let built ← meaning
        let guarded := if waiting.isEmpty then built else [.gate (waiting.map (·.1)) built]
        let (effects, unknown) ← readClauses [] cs
        return (guarded ++ effects, unknown)

/-- The buff that a fragment announces. There is none when the fragment announces nothing or when
something in it is unknown. -/
def readTrigger (fragment : List Char) : Except Fault (Option Effect) :=
  match t.triggers.findSome? fun u => (u.pattern.covers? fragment).map fun found => (u, found) with
  | none => .ok none
  | some (u, found) => do
    let content := found.text .content
    let twice := occurs doubleMotivationPhrase content
    let body := Text.trimBy isPause (without doubleMotivationPhrase content)
    let (effects, unknown) ← t.readClauses [] (clauses body)
    if !unknown.isEmpty then return none
    let effects := if twice then effects.map Effect.withDoubleMotivation else effects
    match effects with
    | [] => return none
    | [e] => return some (.reactive (.known u.kind) e (.whole (-1)) u.condition)
    | es => return some (.reactive (.known u.kind) (.gate [] es) (.whole (-1)) u.condition)

/-- The effects of a fragment and the clauses that no rule covers. -/
def readFragment (fragment : List Char) : Except Fault (List Effect × List (List Char)) := do
  match ← t.readTrigger fragment with
  | some e => return ([e], [])
  | none => t.readClauses [] (clauses fragment)

/-- The effects of fragments in order, and the clauses that no rule covers. -/
def readFragments : List (List Char) → Except Fault (List Effect × List (List Char))
  | [] => .ok ([], [])
  | f :: fs => do
    let (effects, unknown) ← t.readFragment f
    let (moreEffects, moreUnknown) ← readFragments fs
    return (effects ++ moreEffects, unknown ++ moreUnknown)

/-- The rules of descriptions, in the order in which they are tried. -/
def standard : Tables := ⟨gateRules, effectRules, Wording.triggers⟩

end Tables

/-- The effects of clauses, while gates wait, and the clauses that no rule of descriptions
covers. -/
def readClauses : List (Condition × List Char) → List (List Char) →
    Except Fault (List Effect × List (List Char)) :=
  Tables.standard.readClauses

theorem readClauses_cons (waiting : List (Condition × List Char)) (c : List Char)
    (cs : List (List Char)) : readClauses waiting (c :: cs) =
      match Rule.first? gateRules c with
      | some gate => do readClauses (waiting ++ [(← gate, c)]) cs
      | none =>
        match Rule.first? effectRules c with
        | none => do
          let (effects, unknown) ← readClauses waiting cs
          return (effects, c :: unknown)
        | some meaning => do
          let built ← meaning
          let guarded := if waiting.isEmpty then built else [.gate (waiting.map (·.1)) built]
          let (effects, unknown) ← readClauses [] cs
          return (guarded ++ effects, unknown) := rfl

/-- The buff that a fragment of a description announces. -/
def readTrigger : List Char → Except Fault (Option Effect) := Tables.standard.readTrigger

/-- The effects of a fragment of a description and its clauses that no rule covers. -/
def readFragment : List Char → Except Fault (List Effect × List (List Char)) :=
  Tables.standard.readFragment

/-- The effects of fragments of a description in order, and their clauses that no rule covers. -/
def readFragments : List (List Char) → Except Fault (List Effect × List (List Char)) :=
  Tables.standard.readFragments

/-! ### Costs and spans -/

/-- The HP cost that a fragment starts with, and what follows it. -/
def splitHpCost (fragment : List Char) : Except Fault (Option Nat × List Char) :=
  let head := fragment.takeWhile (· != '、')
  match hpCostPhrase.covers? (Text.trim head) with
  | some found => do
    return (some (← found.count .amount), Text.trim ((fragment.drop head.length).drop 1))
  | none => .ok (none, fragment)

/-- Buffs whose turns a description can set. -/
def isLasting : EffectKind → Bool
  | .perfectCondition | .doubleStrike | .doubleCost | .costReduction | .noGenkiGain | .scoreBonus
  | .impressionGain | .cardBaseValue | .turnStart | .onCardUse | .reactionOnCost | .costIncrease
  | .reduceHpCost => true
  | _ => false

/-- A list whose first item of a class is replaced. -/
def replaceFirst {α : Type} (p : α → Bool) (f : α → α) : List α → List α
  | [] => []
  | a :: as => if p a then f a :: as else a :: replaceFirst p f as

/-- The effects with the turns of the first lasting buff set. -/
def setSpan (turns : Nat) (effects : List Effect) : List Effect :=
  replaceFirst (fun e => match e.kind with
      | .known k => isLasting k
      | .unknown _ => false)
    (fun e => { e with operation := { e.operation with duration := .whole turns } }) effects

/-- The turns that a text says its first lasting buff lasts, and the text without the phrase. -/
def takeSpan (cs : List Char) : Except Fault (Option Nat × List Char) :=
  match sift spanPhrase.read 0 cs with
  | ([], rest) => .ok (none, rest)
  | (found :: _, rest) => do return (some (← found.count .turns), rest)

namespace Description

/-- What a description says. -/
def read (cs : List Char) : Except Fault Description := do
  let text := plain cs
  let unflagged := without startFlag (without onceFlag (without uniqueFlag text))
  let (conditions, cs) := sift (Rule.readFirst usageRules) 0 unflagged
  let conditions ← conditions.mapM id
  let (span, cs) ← takeSpan cs
  let (hpCost, parts) ← match fragments cs with
    | [] => pure (none, [])
    | first :: others => do
      let (hpCost, first) ← splitHpCost first
      pure (hpCost, if first.isEmpty then others else first :: others)
  let (effects, unknown) ← readFragments parts
  return { effects := span.elim effects (setSpan · effects)
           conditions, unknown, hpCost
           unique := occurs uniqueFlag text
           oncePerLesson := occurs onceFlag text
           startInHand := occurs startFlag text }

end Description
end CardLesson.Wording
