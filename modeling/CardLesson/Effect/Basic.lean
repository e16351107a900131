/-
# Effects and conditions

An effect is one operation with its numbers, guarded by conditions; a gate carries the effects it
lets through, and a reactive buff the effect it will carry out. A condition compares one quantity
of a lesson with a value.

Numbers and words of an operation are data: a field that is not given is `null`, and what a rule
cannot use comes to light when the rule is applied.

Key definitions: `Condition`, `Operation`, `Effect`, `Condition.same`, `Effect.same`,
`Effect.score`, `Effect.gain`, `Effect.grant`, `Effect.gate`, `Effect.reactive`.
-/
import CardLesson.Effect.Kinds

namespace CardLesson

/-- A comparison of one quantity of a lesson with a value. -/
structure Condition where
  kind : Tag ConditionKind
  value : Datum := .whole 0
  compare : Comparison := .atLeast
  /-- The buff whose duration counts. -/
  buffKind : Option (Tag EffectKind) := none
  /-- The type of card whose use counts. -/
  cardType : Datum := .null
  /-- The zone in which trouble cards count. -/
  scope : Datum := .null
  /-- The rarity of the hand cards that count. -/
  targetRarity : Datum := .null
  deriving Repr

namespace Condition

/-- Equality by meaning. -/
def same (a b : Condition) : Bool :=
  a.kind.same b.kind && a.value.same b.value && a.compare == b.compare &&
    (match a.buffKind, b.buffKind with
    | none, none => true
    | some s, some t => s.same t
    | _, _ => false) &&
    a.cardType.same b.cardType && a.scope.same b.scope && a.targetRarity.same b.targetRarity

/-- Equality of lists by meaning. -/
def sameAll : List Condition → List Condition → Bool
  | [], [] => true
  | a :: as, b :: bs => a.same b && sameAll as bs
  | _, _ => false

/-- Equality by meaning of conditions that may be missing. -/
def sameOption : Option Condition → Option Condition → Bool
  | none, none => true
  | some a, some b => a.same b
  | _, _ => false

end Condition

/-- What an effect does, apart from the effects inside it. -/
structure Operation where
  kind : Tag EffectKind
  value : Datum := .null
  /-- The factor by which a pool counts. -/
  ratio : Datum := .null
  /-- The factor by which concentration counts. -/
  multiplier : Datum := .null
  /-- Turns a buff lasts; `-1` for the rest of the lesson. -/
  duration : Datum := .null
  /-- Uses a buff lasts, or how many cards are picked. -/
  count : Datum := .null
  /-- All of these must hold, or nothing happens. -/
  conditions : List Condition := []
  /-- When a reactive buff carries out its effect. -/
  triggerCondition : Option Condition := none
  /-- The trouble card that is made. -/
  troubleId : Datum := .null
  targetRarity : Datum := .null
  ignoreCost : Bool := false
  /-- The gains that a base value buff raises. -/
  param : Datum := .null
  /-- Whether motivation counts twice. -/
  doubleMotivation : Bool := false
  deriving Repr

/-- Equality by meaning. -/
def Operation.same (a b : Operation) : Bool :=
  a.kind.same b.kind && a.value.same b.value && a.ratio.same b.ratio &&
    a.multiplier.same b.multiplier && a.duration.same b.duration && a.count.same b.count &&
    Condition.sameAll a.conditions b.conditions &&
    Condition.sameOption a.triggerCondition b.triggerCondition &&
    a.troubleId.same b.troubleId && a.targetRarity.same b.targetRarity &&
    a.ignoreCost == b.ignoreCost && a.param.same b.param &&
    a.doubleMotivation == b.doubleMotivation

/-- An operation with the effects inside it. -/
structure Effect where
  operation : Operation
  /-- The effects that a gate lets through. -/
  subEffects : List Effect
  /-- The effect that a reactive buff carries out. -/
  triggered : Option Effect
  deriving Repr

namespace Effect

/-- An effect with no effects inside. -/
def of (op : Operation) : Effect := ⟨op, [], none⟩

def kind (e : Effect) : Tag EffectKind := e.operation.kind

def is (e : Effect) (k : EffectKind) : Bool := e.kind.is k

mutual

/-- Equality by meaning. -/
def same : Effect → Effect → Bool
  | ⟨op, subs, triggered⟩, ⟨op', subs', triggered'⟩ =>
    op.same op' && sameAll subs subs' && sameOption triggered triggered'
termination_by structural e => e

def sameAll : List Effect → List Effect → Bool
  | [], [] => true
  | a :: as, b :: bs => a.same b && sameAll as bs
  | _, _ => false
termination_by structural es => es

def sameOption : Option Effect → Option Effect → Bool
  | none, none => true
  | some a, some b => a.same b
  | _, _ => false
termination_by structural e => e

end

/-- A fixed score. -/
def score (value multiplier : Datum) : Effect :=
  of { kind := .known .scoreFixed, value, multiplier }

/-- A gain of a pool. -/
def gain (kind : Tag EffectKind) (value : Datum) : Effect :=
  of { kind, value }

/-- A grant of a buff. -/
def grant (kind : Tag EffectKind) (duration count value : Datum) : Effect :=
  of { kind, duration, count, value }

/-- A gate that lets effects through when all conditions hold. -/
def gate (conditions : List Condition) (subEffects : List Effect) : Effect :=
  ⟨{ kind := .known .conditionGate, conditions }, subEffects, none⟩

/-- A buff that carries out an effect when its time comes. -/
def reactive (kind : Tag EffectKind) (triggered : Effect) (duration : Datum)
    (triggerCondition : Option Condition) : Effect :=
  ⟨{ kind, duration, triggerCondition }, [], some triggered⟩

end Effect
end CardLesson
