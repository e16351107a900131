/-
# Effects that move cards

Drawing, swapping and upgrading the hand, and trouble cards that turn up in the deck.

Key definitions: `drawForEffect`, `swapHand`, `upgradeFrom`, `upgradeHand`, `generateTrouble`.
-/
import CardLesson.Lesson.Buffs

namespace CardLesson

/-- Draws cards as far as the hand has room for them. -/
def drawForEffect (l : Lesson) (op : Operation) : Play Resolution := do
  let requested ← (op.value.given (.whole 1)).toWhole
  let room := Balance.handLimit - l.hand.length
  let count := min requested room
  if count ≤ 0 then return .untouched l ["Hand is full, no card drawn"]
  let drawn ← drawCards l.deck l.discard count.toNat l.hand
  return .changed
    { l with deck := drawn.deck, discard := drawn.discard, hand := l.hand ++ drawn.hand }
    s!"Drew {drawn.hand.length} card(s)"

/-- Discards the hand and draws as many cards. -/
def swapHand (l : Lesson) : Play Resolution := do
  let drawn ← drawCards l.deck (l.discard ++ l.hand) l.hand.length []
  return .changed { l with deck := drawn.deck, discard := drawn.discard, hand := drawn.hand }
    "Swapped the entire hand"

/-- The upgrade of a card in a catalog: the card whose id has one more plus. A card that has one is
upgraded already. -/
def upgradeOf (catalog : Catalog) (c : Copy) : Except Fault (Option Copy) := do
  let id ← c.id.asText
  return if id.toList.getLast? = some '+' then none else catalog.find? (.text (id ++ "+"))

/-- Upgrades the cards of a hand, given the ids held so far. A card stays as it is when its upgrade
is unique and held already. -/
def upgradeFrom (catalog : Catalog) (held : List Datum) : List Copy → Except Fault (List Copy)
  | [] => .ok []
  | c :: rest => do
    match ← upgradeOf catalog c with
    | none => return c :: (← upgradeFrom catalog held rest)
    | some better =>
      let id ← better.id.key
      if better.card.unique && held.any (·.same id) then
        return c :: (← upgradeFrom catalog held rest)
      else return better :: (← upgradeFrom catalog (id :: held) rest)

/-- Upgrades every card of the hand. -/
def upgradeHand (l : Lesson) : Except Fault Resolution := do
  let held ← l.hand.mapM fun c => c.id.key
  return .changed { l with hand := ← upgradeFrom l.catalog held l.hand }
    "Upgraded every card in hand"

/-- A trouble card that no catalog knows. -/
def madeTrouble (number : Nat) (id : Datum) : Copy :=
  { serial := .made number
    card := {
      id := .text (id.shown ++ "_" ++ eightFigures number)
      name := id
      type := .trouble
      plan := .text "trouble" } }

/-- Puts a trouble card at a random place of the deck. -/
def generateTrouble (l : Lesson) (op : Operation) : Play Resolution := do
  let id := op.troubleId
  if !id.holds then return .untouched l
  let id ← id.key
  let copy ← match l.catalog.find? id with
    | some copy => pure copy
    | none => do
      let _ ← id.printed
      pure (madeTrouble (← (Luck.freshNumber : Luck Nat)) id)
  let place ← (Luck.below (l.deck.length + 1) : Luck Nat)
  let name ← copy.card.name.printed
  return .changed { l with deck := l.deck.take place ++ copy :: l.deck.drop place }
    s!"Trouble card {name} shuffled into the deck"

end CardLesson
