/-
# Quantities

A quantity is a whole number of any size or a double. The two kinds are kept apart (a whole `2`
and a double `2.0` are written differently), and compared exactly, as the numbers they are.

Key definitions: `figureLimit`, `Quantity`, `Quantity.compare?`, `Quantity.text`,
`Quantity.isPrintable`.
Key theorems: `Quantity.compare?_whole`, `Quantity.larger_whole`, `Quantity.smaller_whole`.
-/
import CardLesson.Number.Decimal

namespace CardLesson

/-- The most figures that a whole number may have in a text, be it read or written. -/
def figureLimit : Nat := 4300

/-- A whole number or a double. -/
inductive Quantity where
  | whole (n : Int)
  | real (x : Double)
  deriving DecidableEq, Repr

namespace Quantity

instance : OfNat Quantity n := ⟨.whole n⟩

@[simp] theorem ofNat_eq (n : Nat) : (OfNat.ofNat n : Quantity) = .whole n := rfl

instance : Inhabited Quantity := ⟨0⟩

/-- The quantity as a double without rounding: a whole number keeps all its figures. -/
def unrounded : Quantity → Double
  | .whole n => .finite (decide (n < 0)) n.natAbs 0
  | .real x => x

/-- How two quantities compare as numbers; the not-a-number compares with nothing. -/
def compare? (a b : Quantity) : Option Ordering := a.unrounded.compare? b.unrounded

def lt (a b : Quantity) : Bool := compare? a b == some .lt

def le (a b : Quantity) : Bool := lt a b || compare? a b == some .eq

/-- Equality as numbers. -/
def same (a b : Quantity) : Bool := compare? a b == some .eq

/-- The larger of two; the first when neither is. -/
def larger (a b : Quantity) : Quantity := if lt a b then b else a

/-- The smaller of two; the first when neither is. -/
def smaller (a b : Quantity) : Quantity := if lt b a then b else a

/-- A whole number in figures, a double as the shortest decimal. -/
def text : Quantity → String
  | .whole n => toString n
  | .real x => x.text

/-- Whether the quantity can be put into a text: a whole number may not have too many figures. -/
def isPrintable : Quantity → Bool
  | .whole n => decide ((Nat.toDigits 10 n.natAbs).length ≤ figureLimit)
  | .real _ => true

@[simp] theorem signed_natAbs (n : Int) : Double.signed (decide (n < 0)) n.natAbs = n := by
  unfold Double.signed
  split
  · next h => simp only [decide_eq_true_eq] at h; omega
  · next h => simp only [decide_eq_true_eq] at h; omega

/-- Whole numbers compare as integers. -/
@[simp] theorem compare?_whole (m n : Int) :
    compare? (.whole m) (.whole n) = some (compare m n) := by
  simp [compare?, unrounded, Double.compare?, Double.aligned]

@[simp] theorem lt_whole (m n : Int) : lt (.whole m) (.whole n) = decide (m < n) := by
  by_cases h : m < n
  · simp [lt, Int.compare_eq_lt.2 h, h]
  · simp only [lt, compare?_whole, h, decide_false, beq_eq_false_iff_ne, ne_eq, Option.some.injEq,
      Int.compare_eq_lt, not_false_eq_true]

@[simp] theorem le_whole (m n : Int) : le (.whole m) (.whole n) = decide (m ≤ n) := by
  simp only [le, lt_whole, compare?_whole]
  rcases Int.lt_trichotomy m n with h | h | h
  · simp [h, Int.le_of_lt h]
  · simp [h]
  · simp [Int.compare_eq_gt.2 h, Int.not_le.2 h, Int.lt_asymm h]

@[simp] theorem same_whole (m n : Int) : same (.whole m) (.whole n) = decide (m = n) := by
  by_cases h : m = n
  · simp [same, h]
  · simp only [same, compare?_whole, h, decide_false, beq_eq_false_iff_ne, ne_eq,
      Option.some.injEq, Int.compare_eq_eq, not_false_eq_true]

theorem larger_whole (m n : Int) : larger (.whole m) (.whole n) = .whole (max m n) := by
  simp only [larger, lt_whole, decide_eq_true_eq]
  split <;> congr 1 <;> omega

theorem smaller_whole (m n : Int) : smaller (.whole m) (.whole n) = .whole (min m n) := by
  simp only [smaller, lt_whole, decide_eq_true_eq]
  split <;> congr 1 <;> omega

end Quantity
end CardLesson
