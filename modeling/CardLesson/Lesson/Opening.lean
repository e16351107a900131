/-
# Opening a lesson

The opening hand holds the cards that are in it from the start and is filled up to the cards of a
turn; all other cards are shuffled into the deck. Of a unique card only one copy starts in the
hand, the others go to the discard pile.

A schedule names the stat of each turn; its last entry stands for all later turns as well.

Key definitions: `Schedule`, `Schedule.statAt`, `Status`, `Status.ofRecord`, `splitStart`,
`openLesson`.
-/
import CardLesson.Card.Record
import CardLesson.Lesson.Pile

namespace CardLesson

/-- The stats of the turns, as they are written. -/
abbrev Schedule := List Datum

/-- The stat that a datum names. -/
def Stat.ofDatum (d : Datum) : Except Fault Stat :=
  match Named.ofDatum? d with
  | some s => .ok s
  | none => .error (.badValue (.notAnAttribute d))

namespace Schedule

/-- The stat of a turn, counted from one. -/
def statAt (schedule : Schedule) (turn : Quantity) : Except Fault Stat :=
  if schedule.isEmpty then .ok .vocal
  else do
    let index ← (turn.larger 1).sub 1
    match index.smaller (.whole (schedule.length - 1 : Nat)) with
    | .whole n =>
      match schedule[n.toNat]? with
      | some d => Stat.ofDatum d
      | none => throw (.misuse .unsuitable)
    | .real _ => throw (.misuse .unsuitable)

end Schedule

/-- The stats and HP that a lesson starts from. -/
structure Status where
  vocal : Datum := .whole 0
  dance : Datum := .whole 0
  visual : Datum := .whole 0
  hp : Datum := .whole Balance.defaultHp
  maxHp : Datum := .whole Balance.defaultHp
  deriving Repr

namespace Status

/-- Reads a status. The most HP are the HP at the start, when nothing else is said. -/
def ofRecord : Datum → Except Fault Status
  | .object members =>
    if members.isEmpty then .ok {}
    else
      let hp := lookup members ["hp"] (.whole Balance.defaultHp)
      .ok {
        vocal := lookup members ["vocal"] (.whole 0)
        dance := lookup members ["dance"] (.whole 0)
        visual := lookup members ["visual"] (.whole 0)
        hp
        maxHp := lookup members ["maxHp", "max_hp"] hp }
  | d => if d.holds then .error .notText else .ok {}

end Status

/-- The copies that start in the hand and those of them that are one too many, given the ones
before them. -/
def splitStart (hand blocked : List Copy) : List Copy → List Copy × List Copy
  | [] => (hand, blocked)
  | c :: rest =>
    if !c.card.startInHand then splitStart hand blocked rest
    else if c.card.unique && hand.any fun d => d.id.same c.id then
      splitStart hand (blocked ++ [c]) rest
    else splitStart (hand ++ [c]) blocked rest

/-- The state of a lesson in its first turn. -/
def openLesson (status : Status) (schedule : Schedule) (deck : List Copy) (drinks : List Drink)
    (maxTurns : Quantity) (catalog : Catalog) : Play Lesson := do
  let (startHand, blocked) := splitStart [] [] deck
  let remaining ← (Luck.shuffle (deck.filter fun c => !c.card.startInHand) : Luck (List Copy))
  let drawn ← drawCards remaining blocked (Balance.baseDraw - startHand.length) startHand
  let known ← Catalog.ofCopies [] deck
  let known := catalog.foldl (fun known e => known.put e.1 e.2) known
  let turnStat ← schedule.statAt 1
  let hp ← status.hp.quantity
  let maxHp ← status.maxHp.quantity
  return {
    turn := 1
    maxTurns
    turnStat
    vocal := ← status.vocal.quantity
    dance := ← status.dance.quantity
    visual := ← status.visual.quantity
    hp := hp.smaller maxHp
    maxHp
    deck := drawn.deck
    hand := startHand ++ drawn.hand
    discard := drawn.discard
    drinks := drinks.map fun d => ⟨d, false⟩
    logs := ["Turn 1 start"]
    catalog := known }

end CardLesson
