/-
# Chance

All chance in a lesson comes from a generator, and new names from a count of the names handed out;
`Chance` holds both. Drawing is a state monad over it, so a draw that is not made leaves it alone.

Whole numbers below a bound are drawn by throwing away words that are too large. Each word is kept
with a probability of at least one half; after a thousand words in vain the last one is reduced
instead, so that drawing always ends.

Key definitions: `Chance`, `Luck`, `Luck.unit`, `Luck.below`, `Luck.choose?`, `Luck.sample`,
`Luck.shuffle`, `Luck.freshNumber`.
Key theorems: `Luck.below_lt`, `Luck.shuffle_perm`.
-/
import CardLesson.Chance.Twister
import CardLesson.Number.Double

namespace CardLesson

/-- The generator, and the count of names handed out. -/
structure Chance where
  source : Twister
  named : Nat := 0

def Chance.ofSeed (seed : Int) : Chance := ⟨.ofSeed seed, 0⟩

/-- A computation that may draw. -/
abbrev Luck := StateM Chance

namespace Luck

/-- The next word of the generator. -/
def word : Luck UInt32 := fun c =>
  let (w, source) := c.source.next
  (w, { c with source })

/-- A double from zero up to, not including, one: 53 bits of two words over `2^53`. -/
def unit : Luck Double := do
  let a ← word
  let b ← word
  return .ofRatio false ((a.toNat / 32) * 67108864 + b.toNat / 64) 9007199254740992

/-- The top `k` bits of a word. -/
def bits (k : Nat) : Luck Nat := do
  return (← word).toNat / Nat.pow 2 (32 - k)

/-- How often `below` tries. -/
def tries : Nat := 1000

/-- Draws `k` bits until they are below `n`. -/
def tryBelow (n k : Nat) : Nat → Luck Nat
  | 0 => do return (← bits k) % n
  | left + 1 => do
    let r ← bits k
    if r < n then return r else tryBelow n k left

/-- A whole number below `n`. -/
def below (n : Nat) : Luck Nat := tryBelow n (n.log2 + 1) tries

theorem tryBelow_lt {n : Nat} (h : 0 < n) (k left : Nat) (c : Chance) :
    (tryBelow n k left c).1 < n := by
  induction left generalizing c with
  | zero => exact Nat.mod_lt _ h
  | succ left ih =>
    have hs : tryBelow n k (left + 1) c =
        if (bits k c).1 < n then bits k c else tryBelow n k left (bits k c).2 := by
      show (if (bits k c).1 < n then pure (bits k c).1 else tryBelow n k left : Luck Nat) _ = _
      split <;> rfl
    rw [hs]
    split
    · assumption
    · exact ih _

/-- What is drawn below a bound is below it. -/
theorem below_lt {n : Nat} (h : 0 < n) (c : Chance) : (below n c).1 < n := tryBelow_lt h _ _ c

/-- One of the items. -/
def choose? {α : Type} (xs : List α) : Luck (Option α) := do
  return xs[← below xs.length]?

/-- Takes `k` items from a pool; the last item fills each gap. -/
def samplePool {α : Type} : Nat → Array α → Luck (List α)
  | 0, _ => pure []
  | k + 1, pool => do
    let j ← below pool.size
    match pool[j]?, pool.back? with
    | some x, some last =>
      let rest ← samplePool k (pool.setIfInBounds j last).pop
      return x :: rest
    | _, _ => return []

/-- A place below `n` that is not taken, drawn until one is found. -/
def freshPlace (n : Nat) (taken : List Nat) : Nat → Luck Nat
  | 0 => pure ((List.range n).find? (fun j => !taken.contains j) |>.getD 0)
  | left + 1 => do
    let j ← below n
    if taken.contains j then freshPlace n taken left else return j

/-- Takes items at `k` different places of a long list. -/
def samplePlaces {α : Type} (xs : Array α) : Nat → List Nat → Luck (List α)
  | 0, _ => pure []
  | k + 1, taken => do
    let j ← freshPlace xs.size taken tries
    let rest ← samplePlaces xs k (j :: taken)
    return xs[j]?.toList ++ rest

/-- The smallest power of four from `4^j` on that is at least `n`. -/
def powerOfFour (n : Nat) : Nat → Nat → Nat
  | 0, p => p
  | more + 1, p => if n ≤ p then p else powerOfFour n more (4 * p)

/-- Up to which length a list is sampled through a pool. -/
def poolLimit (k : Nat) : Nat := if 5 < k then 21 + powerOfFour (3 * k) (3 * k) 1 else 21

/-- `k` items at different places, in the order in which they were drawn. -/
def sample {α : Type} (xs : List α) (k : Nat) : Luck (List α) :=
  if xs.length ≤ poolLimit k then samplePool k xs.toArray else samplePlaces xs.toArray k []

/-- A place from `0` up to `i`, from a double below one. -/
def place (x : Double) (i : Nat) : Nat :=
  ((Double.mul x (.ofInt (i + 1))).truncate?.getD 0).toNat

/-- Exchanges each item, from place `i` down, with one at or before it. -/
def shuffleFrom {α : Type} : Nat → Array α → Luck (Array α)
  | 0, xs => pure xs
  | i + 1, xs => do
    let x ← unit
    shuffleFrom i (xs.swapIfInBounds (i + 1) (place x (i + 1)))

/-- The items in a random order. -/
def shuffle {α : Type} (xs : List α) : Luck (List α) := do
  return (← shuffleFrom (xs.length - 1) xs.toArray).toList

theorem shuffle_nil {α : Type} (c : Chance) : shuffle ([] : List α) c = ([], c) := rfl

theorem swap_perm {α : Type} (xs : Array α) (i j : Nat) : (xs.swapIfInBounds i j).Perm xs := by
  unfold Array.swapIfInBounds
  split
  · split
    · exact Array.swap_perm _ _
    · exact .rfl
  · exact .rfl

theorem shuffleFrom_perm {α : Type} (i : Nat) (xs : Array α) (c : Chance) :
    (shuffleFrom i xs c).1.Perm xs := by
  induction i generalizing xs c with
  | zero => exact .rfl
  | succ i ih => exact (ih _ _).trans (swap_perm _ _ _)

/-- A shuffle keeps every item. -/
theorem shuffle_perm {α : Type} (xs : List α) (c : Chance) : (shuffle xs c).1.Perm xs := by
  exact (shuffleFrom_perm (xs.length - 1) xs.toArray c).toList

/-- The number of a new name. -/
def freshNumber : Luck Nat := fun c => (c.named + 1, { c with named := c.named + 1 })

end Luck
end CardLesson
