/-
# Cards and drinks

A card is what its record says and never changes. Its conditions say when a host may offer it, its
effects run in order when it is played. A drink is used once.

Key definitions: `CardType`, `CostType`, `Card`, `Drink`, `Card.same`, `Drink.same`.
Key theorems: `CardType.ofName?_name`, `CostType.ofName?_name`.
-/
import CardLesson.Effect.Basic

namespace CardLesson

/-- The types of cards. -/
inductive CardType where
  | active
  | mental
  | trouble
  deriving DecidableEq, Repr

namespace CardType

def name : CardType → String
  | active => "active"
  | mental => "mental"
  | trouble => "trouble"

instance : Named CardType where
  name := name
  all := [active, mental, trouble]

theorem ofName?_name (t : CardType) : Named.ofName? t.name = some t := by
  cases t <;> decide

end CardType

/-- What pays a card: genki first and then HP, or HP alone. -/
inductive CostType where
  | normal
  | hp
  deriving DecidableEq, Repr

namespace CostType

def name : CostType → String
  | normal => "normal"
  | hp => "hp"

instance : Named CostType where
  name := name
  all := [normal, hp]

theorem ofName?_name (t : CostType) : Named.ofName? t.name = some t := by
  cases t <;> decide

end CostType

/-- A limit on the use of a card. -/
inductive UsageLimit where
  | oncePerLesson
  deriving DecidableEq, Repr

namespace UsageLimit

def name : UsageLimit → String
  | oncePerLesson => "once_per_lesson"

instance : Named UsageLimit where
  name := name
  all := [oncePerLesson]

end UsageLimit

/-- A card. Id, name and the fields that no rule reads hold whatever the record gives. -/
structure Card where
  id : Datum
  name : Datum
  type : CardType := .active
  plan : Datum := .text "free"
  cost : Int := 0
  costType : CostType := .normal
  effects : List Effect := []
  conditions : List Condition := []
  /-- Whether a hand holds it at most once. -/
  unique : Bool := false
  usageLimit : Option UsageLimit := none
  /-- Whether it is in the hand from the start. -/
  startInHand : Bool := false
  rarity : Datum := .null
  description : Datum := .text ""
  deriving Repr

namespace Card

def isTrouble (c : Card) : Bool := c.type == .trouble

def oncePerLesson (c : Card) : Bool := c.usageLimit == some .oncePerLesson

/-- Equality by meaning, field by field. -/
def same (a b : Card) : Bool :=
  a.id.same b.id && a.name.same b.name && a.type == b.type && a.plan.same b.plan &&
    a.cost == b.cost && a.costType == b.costType && Effect.sameAll a.effects b.effects &&
    Condition.sameAll a.conditions b.conditions && a.unique == b.unique &&
    a.usageLimit == b.usageLimit && a.startInHand == b.startInHand && a.rarity.same b.rarity &&
    a.description.same b.description

/-- A card that is nothing but its name. -/
def plain (name : String) : Card := { id := .text name, name := .text name }

end Card

/-- A drink. -/
structure Drink where
  id : Datum
  name : Datum
  plan : Datum := .text "free"
  description : Datum := .text ""
  effects : List Effect := []
  deriving Repr

/-- Equality by meaning. -/
def Drink.same (a b : Drink) : Bool :=
  a.id.same b.id && a.name.same b.name && a.plan.same b.plan &&
    a.description.same b.description && Effect.sameAll a.effects b.effects

end CardLesson
