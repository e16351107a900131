/-
# Policies

A policy decides which card of the hand to play, or to play none. The first one takes the first
card that may be played, the random one any of them with a generator of its own, and the greedy
one the card that gains the most score at once, of several the first in the hand. A fixed policy
always names the same card, playable or not.

The greedy policy tries each play on a fresh generator, so trying draws nothing from the lesson's
own and hands out no names.

A lesson is played out by one loop over whatever decides the plays, a `Chooser`; a policy is one.

Key definitions: `Policy`, `Decision`, `Policy.select`, `gainOf`, `bestAfter`, `Chooser`,
`playTurn`, `playOut`, `playLesson`, `runLesson`.
Key theorems: `Decision.eq_of_play_card`.
-/
import CardLesson.Lesson.Turn

namespace CardLesson

/-- What decides the plays. -/
inductive Policy where
  | first
  | random (chance : Chance)
  | greedy (seed : Int)
  | fixed (card : Datum)

namespace Policy

def name : Policy → String
  | first => "FirstPlayablePolicy"
  | random _ => "RandomPolicy"
  | greedy _ => "GreedyScorePolicy"
  | fixed _ => "FixedPolicy"

end Policy

/-- A decision; without a card nothing is played. A card whose id is null cannot be named. -/
structure Decision where
  card : Option Datum
  explanation : String := ""
  expected : Quantity := .real .zero
  deriving Repr

namespace Decision

def nothing : Decision := ⟨none, "Nothing playable", .real .zero⟩

/-- The decision for the card with an id. -/
def play (id : Datum) (explanation : String) (expected : Quantity := .real .zero) : Decision :=
  ⟨if id.isNull then none else some id, explanation, expected⟩

theorem eq_of_play_card {id id' : Datum} {explanation : String} {expected : Quantity}
    (h : (play id explanation expected).card = some id') : id = id' := by
  unfold play at h
  exact Option.some.inj (Option.ite_none_left_eq_some.1 h).2

end Decision

/-- A step whose draws are made on another chance and forgotten afterwards. -/
def onFresh {α : Type} (chance : Chance) (step : Play α) : Except Fault α := (step chance).1

/-- The score that a play gains on a fresh generator; a play that is rejected gains nothing. -/
def gainOf (l : Lesson) (seed : Int) (named : Nat) (id : Datum) : Except Fault Quantity := do
  let after ← onFresh ⟨.ofSeed seed, named⟩ (l.play id)
  (after.getD l).score.sub l.score

/-- The best of some plays after the best one so far: a later one must gain more. -/
def bestAfter (gain : Datum → Except Fault Quantity) (best : Option (Datum × Quantity)) :
    List Datum → Except Fault (Option (Datum × Quantity))
  | [] => .ok best
  | id :: rest => do
    let g ← gain id
    let better := match best with
      | none => true
      | some (_, h) => h.lt g
    bestAfter gain (if better then some (id, g) else best) rest

/-- What a policy decides, and the policy afterwards; `named` counts the names handed out so far. -/
def Policy.select (p : Policy) (named : Nat) (l : Lesson) : Except Fault (Decision × Policy) :=
  match p with
  | .first => do
    match ← l.playableIds with
    | [] => return (.nothing, p)
    | id :: _ => return (.play id "Selected first playable card", p)
  | .random chance => do
    let (picked, chance') := match ← l.playableIds with
      | [] => (none, chance)
      | ids => Luck.choose? ids chance
    match picked with
    | none => return (.nothing, .random chance')
    | some id => return (.play id "Selected randomly", .random chance')
  | .greedy seed => do
    match ← bestAfter (gainOf l seed named) none (← l.playableIds) with
    | none => return (.nothing, p)
    | some (id, g) => return (.play id s!"Best immediate score gain (+{g.text})" g, p)
  | .fixed card => return (.play card "", p)

/-! ### Playing a lesson out -/

/-- What decides the plays: from what it remembers, the names handed out so far and the lesson to a
decision and what it remembers then. -/
abbrev Chooser (σ : Type) := σ → Nat → Lesson → Except Fault (Decision × σ)

/-- How many turns cards may add to a lesson while it is played out. -/
def addedTurnLimit : Nat := 1000000

section Loop

variable {σ : Type} (choose : Chooser σ) (rejected : σ → Lesson → Play (Lesson × σ))

/-- Plays cards as a chooser decides, at most `plays` of them, until it decides for none. What
follows a play that is rejected is given. -/
def playTurn : Nat → σ → Lesson → Play (Lesson × σ)
  | 0, s, l => return (l, s)
  | plays + 1, s, l => do
    let chance ← (get : Luck Chance)
    let (d, s) ← (choose s chance.named l : Except Fault (Decision × σ))
    match d.card with
    | none => return (l, s)
    | some id =>
      match ← l.play id with
      | none => rejected s l
      | some l => playTurn plays s l

/-- Plays turn after turn up to the last one, at most `turns` turns more. The last turn is played
and not ended. -/
def playOut (schedule : Schedule) : Nat → σ → Lesson → Play Lesson
  | turns, s, l => do
    let (l, s) ← playTurn choose rejected Balance.handLimit s l
    match ← l.endTurn schedule with
    | none => return l
    | some l =>
      match turns with
      | 0 => throw .tooDeep
      | turns + 1 => playOut schedule turns s l

/-- Plays a lesson to its end. -/
def playLesson (l : Lesson) (s : σ) (schedule : Schedule) : Play Lesson := do
  let left ← (← l.maxTurns.sub l.turn).truncate
  playOut choose rejected schedule (left.toNat + addedTurnLimit) s l

end Loop

/-- Stops the turn. -/
def stopTurn {σ : Type} (s : σ) (l : Lesson) : Play (Lesson × σ) := return (l, s)

/-- Plays a lesson to its end as a policy decides. A play that is rejected stops the turn. -/
def runLesson (l : Lesson) (p : Policy) (schedule : Schedule) : Play Lesson :=
  playLesson Policy.select stopTurn l p schedule

end CardLesson
