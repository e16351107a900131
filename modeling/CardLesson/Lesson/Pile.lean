/-
# Drawing from piles

Cards are drawn from the end of the deck. When the deck is empty the discard pile is shuffled and
becomes the deck. A unique card whose id is already held goes to the discard pile instead of the
hand; each card taken from the deck uses up one attempt, so a pile of such cards alone ends the
draw with fewer cards.

Key definitions: `Play`, `removeCopy`, `Drawn`, `drawLoop`, `drawCards`.
Key theorems: `removeCopy_sublist`.
-/
import CardLesson.Chance.Basic
import CardLesson.Lesson.State

namespace CardLesson

/-- A step of play, which draws and may fail; what was drawn before a failure stays drawn. -/
abbrev Play := ExceptT Fault Luck

/-- The zone without one copy, found by a test. -/
def removeFirst (p : Copy → Bool) : List Copy → List Copy
  | [] => []
  | c :: rest => if p c then rest else c :: removeFirst p rest

/-- The zone without a copy: without that very copy or, if it is not there, without the first one
of an equal card. -/
def removeCopy (zone : List Copy) (copy : Copy) : List Copy :=
  if zone.any (·.serial == copy.serial) then removeFirst (·.serial == copy.serial) zone
  else removeFirst (·.card.same copy.card) zone

theorem removeFirst_sublist (p : Copy → Bool) (zone : List Copy) :
    (removeFirst p zone).Sublist zone := by
  induction zone with
  | nil => exact .slnil
  | cons c rest ih =>
    simp only [removeFirst]
    split
    · exact List.sublist_cons_self c rest
    · exact ih.cons_cons c

theorem removeCopy_sublist (zone : List Copy) (copy : Copy) :
    (removeCopy zone copy).Sublist zone := by
  simp only [removeCopy]
  split <;> exact removeFirst_sublist _ _

/-- The piles after a draw, and the cards drawn. -/
structure Drawn where
  deck : List Copy
  discard : List Copy
  hand : List Copy
  deriving Repr

/-- An empty deck takes in the shuffled discard pile. The deck is upside down: its first card is
drawn first. -/
def refill (deck discard : List Copy) : Luck (List Copy × List Copy) :=
  if deck.isEmpty then do return ((← Luck.shuffle discard).reverse, []) else return (deck, discard)

/-- Draws up to `want` cards in a number of attempts. The deck is upside down, `held` are the ids
in the hand, and the cards drawn so far are kept backwards. -/
def drawLoop : Nat → Nat → List Copy → List Copy → List Datum → List Copy → Play Drawn
  | attempts + 1, want + 1, deck, discard, held, drawn => do
    let (deck, discard) ← refill deck discard
    match deck with
    | [] => return ⟨[], discard, drawn.reverse⟩
    | c :: deck =>
      let id ← c.id.key
      if c.card.unique && held.any (·.same id) then
        drawLoop attempts (want + 1) deck (discard ++ [c]) held drawn
      else drawLoop attempts want deck discard (id :: held) (c :: drawn)
  | _, _, deck, discard, _, drawn => return ⟨deck.reverse, discard, drawn.reverse⟩

/-- Draws up to `count` cards beside the cards of a hand. -/
def drawCards (deck discard : List Copy) (count : Nat) (hand : List Copy) : Play Drawn := do
  let held ← (hand.mapM fun c => c.id.key : Except Fault (List Datum))
  drawLoop (count * 2 + 10) count deck.reverse discard held []

end CardLesson
