/-
# Reactive fragments

A trigger is a fragment that says when its effect is carried out later: when a card is used, when a
card's cost takes HP, or at the start or end of turns. Effects at the end of a turn are carried out
at the start of the next.

Key definitions: `Trigger`, `triggers`.
-/
import CardLesson.Card.Basic
import CardLesson.Wording.Pattern

namespace CardLesson.Wording

open Pattern

/-- A phrase that announces an effect, with the buff that waits for it. -/
structure Trigger where
  pattern : Pattern
  kind : EffectKind
  condition : Option Condition := none

/-- From now on. -/
def fromNowOn : Pattern := maybe (word "以降、")

/-- Whenever a card of some type is used. -/
def cardUse (typeWord : String) (cardType : Option CardType) : Trigger where
  pattern := word "以降、" ++ word typeWord ++ word "スキルカード使用時、" ++ line .content
  kind := .onCardUse
  condition := cardType.map fun t =>
    { kind := .known .cardTypeUsage, value := .whole 1, cardType := .text t.name }

/-- The fragments that announce an effect. -/
def triggers : List Trigger :=
  [cardUse "メンタル" (some .mental),
    cardUse "アクティブ" (some .active),
    cardUse "" none,
    { pattern := fromNowOn ++ word "スキルカードコストで体力減少時、" ++ line .content
      kind := .reactionOnCost },
    { pattern := fromNowOn ++ word "ターン開始時、" ++ line .content, kind := .turnStart },
    { pattern := fromNowOn ++ word "ターン終了時、" ++ line .content, kind := .turnStart }]

end CardLesson.Wording
