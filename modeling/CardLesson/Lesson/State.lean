/-
# The state of a lesson

A `Lesson` is everything that a play can read or change: the turn counters, the pools, the five
zones, the buffs, the drinks and the trail of log lines. A zone holds copies of cards, each with a
serial that tells it from all other copies, also of the same card; the last copy of the deck is
drawn first.

Key definitions: `Phase`, `Stat`, `Serial`, `Copy`, `Buff`, `DrinkSlot`, `Catalog`, `Lesson`,
`Lesson.withLines`, `Lesson.sumBuffs`.
Key theorems: `Lesson.logs_withLines`, `Lesson.withLines_withLines`.
-/
import CardLesson.Balance
import CardLesson.Card.Basic
import CardLesson.Datum.Printed
import CardLesson.Number.Arithmetic

namespace CardLesson

/-- The part of a turn. -/
inductive Phase where
  | start
  | main
  | finish
  deriving DecidableEq, Repr

namespace Phase

def name : Phase → String
  | start => "start"
  | main => "main"
  | finish => "end"

instance : Named Phase where
  name := name
  all := [start, main, finish]

end Phase

/-- The stat that counts in a turn. -/
inductive Stat where
  | vocal
  | dance
  | visual
  deriving DecidableEq, Repr

namespace Stat

def name : Stat → String
  | vocal => "vocal"
  | dance => "dance"
  | visual => "visual"

instance : Named Stat where
  name := name
  all := [vocal, dance, visual]

theorem ofName?_name (a : Stat) : Named.ofName? a.name = some a := by
  cases a <;> decide

end Stat

/-- What tells one copy of a card from another: copies are dealt before the lesson or made in it. -/
inductive Serial where
  | dealt (n : Nat)
  | made (n : Nat)
  deriving DecidableEq, Repr

/-- One copy of a card. -/
structure Copy where
  serial : Serial
  card : Card
  deriving Repr

namespace Copy

def id (c : Copy) : Datum := c.card.id

/-- Gives cards serials, counted from `first`. -/
def deal (first : Nat) : List Card → List Copy
  | [] => []
  | c :: rest => ⟨.dealt first, c⟩ :: deal (first + 1) rest

theorem deal_cards (first : Nat) (cards : List Card) : (deal first cards).map card = cards := by
  induction cards generalizing first with
  | nil => rfl
  | cons c rest ih => simp [deal, ih]

end Copy

/-- A modifier that stays for some turns or uses. -/
structure Buff where
  id : String
  kind : Tag EffectKind
  /-- Turns left; `-1` for the rest of the lesson. -/
  duration : Datum
  name : String
  /-- Uses left, when uses are counted. -/
  count : Datum := .null
  value : Datum := .null
  ratio : Datum := .null
  /-- Whether it was granted in this turn, so that the turn's end does not shorten it. -/
  isNew : Bool := false
  triggered : Option Effect := none
  triggerCondition : Option Condition := none
  param : Datum := .null
  doubleMotivation : Bool := false
  deriving Repr

namespace Buff

def is (b : Buff) (k : EffectKind) : Bool := b.kind.is k

/-- Whether the buff stays for the rest of the lesson. -/
def indefinite (b : Buff) : Bool := b.duration.same (.whole Balance.indefiniteDuration)

end Buff

/-- A drink brought into the lesson. -/
structure DrinkSlot where
  drink : Drink
  used : Bool := false
  deriving Repr

/-- The copies that upgrades and troubles are taken from, by id. -/
abbrev Catalog := List (Datum × Copy)

namespace Catalog

def find? (id : Datum) : Catalog → Option Copy
  | [] => none
  | (k, c) :: rest => if k.same id then some c else find? id rest

/-- Puts a copy under an id, in the place of one that is there. -/
def put (id : Datum) (copy : Copy) : Catalog → Catalog
  | [] => [(id, copy)]
  | (k, c) :: rest => if k.same id then (k, copy) :: rest else (k, c) :: put id copy rest

/-- The copies by their ids; of several with one id the last counts. -/
def ofCopies (catalog : Catalog) (copies : List Copy) : Except Fault Catalog :=
  copies.foldlM (fun known c => do return known.put (← c.id.key) c) catalog

end Catalog

/-- The state of a lesson. -/
structure Lesson where
  turn : Quantity := 1
  maxTurns : Quantity := .whole Balance.maxTurns
  phase : Phase := .start
  turnStat : Stat := .vocal
  vocal : Quantity := 0
  dance : Quantity := 0
  visual : Quantity := 0
  hp : Quantity := .whole Balance.defaultHp
  maxHp : Quantity := .whole Balance.defaultHp
  shield : Quantity := 0
  genki : Quantity := 0
  goodImpression : Quantity := 0
  motivation : Quantity := 0
  concentration : Quantity := 0
  score : Quantity := 0
  deck : List Copy := []
  hand : List Copy := []
  discard : List Copy := []
  onHold : List Copy := []
  excluded : List Copy := []
  cardsPlayed : Quantity := 0
  buffs : List Buff := []
  logs : List String := []
  drinks : List DrinkSlot := []
  catalog : Catalog := []
  deriving Repr

namespace Lesson

/-- The lesson is over in its last turn. -/
def isFinished (l : Lesson) : Bool := l.maxTurns.le l.turn

/-- The value of the stat of the turn. -/
def statValue (l : Lesson) : Quantity :=
  match l.turnStat with
  | .vocal => l.vocal
  | .dance => l.dance
  | .visual => l.visual

/-- The first copy in the hand with an id. -/
def findInHand (l : Lesson) (id : Datum) : Option Copy := l.hand.find? fun c => c.id.same id

def buffsOf (l : Lesson) (k : EffectKind) : List Buff := l.buffs.filter (·.is k)

def hasBuff (l : Lesson) (k : EffectKind) : Bool := l.buffs.any (·.is k)

/-- The sum of the values of some buffs; a value that holds nothing counts as zero. -/
def sumValues (buffs : List Buff) : Except Fault Quantity :=
  buffs.foldlM (fun total b => do total.add (← (b.value.orElse (.whole 0)).quantity)) 0

/-- The sum of the values of the buffs of a kind, of those with a parameter when one is given. -/
def sumBuffs (l : Lesson) (k : EffectKind) (param : Option Datum := none) : Except Fault Quantity :=
  sumValues (l.buffs.filter fun b => b.is k && param.all fun p => b.param.same p)

/-- The lesson with log lines after those it has. -/
def withLines (l : Lesson) (lines : List String) : Lesson := { l with logs := l.logs ++ lines }

@[simp] theorem logs_withLines (l : Lesson) (lines : List String) :
    (l.withLines lines).logs = l.logs ++ lines := rfl

theorem withLines_nil (l : Lesson) : l.withLines [] = l := by simp [withLines]

theorem withLines_withLines (l : Lesson) (xs ys : List String) :
    (l.withLines xs).withLines ys = l.withLines (xs ++ ys) := by simp [withLines]

end Lesson
end CardLesson
