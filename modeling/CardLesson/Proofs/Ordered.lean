/-
# How numbers are ordered

All numbers but the not-a-number stand in one order, with the two infinities at its ends; whole
numbers and doubles compare as their places in it do. What is added to a number that is finite, or
taken from it, leaves a number, and so does a whole number that is added to any.

Key definitions: `Double.rank`, `Quantity.rank`.
Key theorems: `Double.compare?_rank`, `Quantity.lt_iff_rank`, `Quantity.le_iff_rank`,
`Quantity.add_whole_isNumber`, `Quantity.sub_isNumber`.
-/
import CardLesson.Proofs.Accuracy
import CardLesson.Proofs.Play
import Mathlib.Order.WithBot

namespace CardLesson

/-! ### The order of numbers -/

namespace Double

variable {x y : Double}

/-- The place of a double among the numbers and the two infinities. -/
def rank : Double → WithBot (WithTop ℚ)
  | .infinite true => ⊥
  | .infinite false => (⊤ : WithTop ℚ)
  | x => (x.value : WithTop ℚ)

theorem rank_of_isFinite (h : x.isFinite = true) : x.rank = (x.value : WithTop ℚ) := by
  cases x <;> first
    | rfl
    | cases h

/-- **Doubles compare as their places do.** -/
theorem compare?_rank (hx : x ≠ .notANumber) (hy : y ≠ .notANumber) :
    x.compare? y = some (compare x.rank y.rank) := by
  have infinite (s : Bool) : (infinite s).rank = if s then ⊥ else ↑(⊤ : WithTop ℚ) := by
    cases s <;> rfl
  cases x with
  | notANumber => exact absurd rfl hx
  | infinite s =>
    cases y with
    | notANumber => exact absurd rfl hy
    | infinite t => cases s <;> cases t <;> simp [compare?, infinite, compare, compareOfLessAndEq]
    | finite t n f =>
      rw [infinite, rank_of_isFinite rfl]
      cases s <;> simp [compare?, compare, compareOfLessAndEq]
  | finite s m e =>
    cases y with
    | notANumber => exact absurd rfl hy
    | infinite t =>
      rw [infinite, rank_of_isFinite rfl]
      cases t <;> simp [compare?, compare, compareOfLessAndEq]
    | finite t n f =>
      rw [compare?_value rfl rfl, rank_of_isFinite rfl, rank_of_isFinite rfl]
      simp [compare, compareOfLessAndEq]

end Double

namespace Quantity

variable {p q : Quantity} {n : Int}

/-- The place of a quantity among the numbers and the two infinities. -/
def rank (q : Quantity) : WithBot (WithTop ℚ) := q.unrounded.rank

theorem unrounded_ne (h : q ≠ .real .notANumber) : q.unrounded ≠ .notANumber := by
  cases q with
  | whole n => exact nofun
  | real x => exact fun hx => h (congrArg _ hx)

theorem compare?_rank (hp : p ≠ .real .notANumber) (hq : q ≠ .real .notANumber) :
    p.compare? q = some (compare p.rank q.rank) :=
  Double.compare?_rank (unrounded_ne hp) (unrounded_ne hq)

theorem lt_iff_rank (hp : p ≠ .real .notANumber) (hq : q ≠ .real .notANumber) :
    p.lt q = true ↔ p.rank < q.rank := by
  rw [lt, compare?_rank hp hq, beq_iff_eq, Option.some_inj, compare_lt_iff_lt]

theorem le_iff_rank (hp : p ≠ .real .notANumber) (hq : q ≠ .real .notANumber) :
    p.le q = true ↔ p.rank ≤ q.rank := by
  rw [le, Bool.or_eq_true, lt_iff_rank hp hq, compare?_rank hp hq, beq_iff_eq, Option.some_inj,
    compare_eq_iff_eq, le_iff_lt_or_eq]

/-- Of two numbers one is below the other just when that one is not up to it. -/
theorem lt_eq_not_le (hp : p ≠ .real .notANumber) (hq : q ≠ .real .notANumber) :
    p.lt q = !q.le p := by
  rw [Bool.eq_iff_iff, Bool.not_eq_true', ← Bool.not_eq_true, lt_iff_rank hp hq,
    le_iff_rank hq hp, not_le]

end Quantity

/-! ### Sums that are numbers -/

namespace Double

variable {x y : Double}

theorem ofRatio_isNumber (s : Bool) (n d : Nat) : ofRatio s n d ≠ .notANumber := by
  unfold ofRatio pack
  dsimp only
  repeat' split
  all_goals exact nofun

/-- A finite double added to a number leaves one. -/
theorem add_isNumber : ∀ {x y : Double}, x ≠ .notANumber → y.isFinite = true →
    x.add y ≠ .notANumber
  | .finite s m e, .finite t n f, _, _ => by
    unfold add
    dsimp only
    split
    · exact nofun
    · exact ofRatio_isNumber _ _ _
  | .infinite s, .finite t n f, _, _ => nofun
  | .notANumber, _, h, _ => absurd rfl h

theorem neg_isFinite (h : x.isFinite = true) : x.neg.isFinite = true := by
  cases x <;> first
    | rfl
    | cases h

end Double

namespace Quantity

variable {p q r : Quantity} {x : Double} {n : Int}

theorem toDouble_isNumber (h : q.toDouble = .ok x) (hq : q ≠ .real .notANumber) :
    x ≠ .notANumber := by
  cases q with
  | real y =>
    cases h
    exact fun hx => hq (congrArg _ hx)
  | whole n =>
    simp only [toDouble] at h
    split at h
    · cases h
    · exact Except.ok.inj h ▸ Double.ofRatio_isNumber _ _ _

theorem toDouble_isFinite (h : q.toDouble = .ok x) (hq : q.unrounded.isFinite = true) :
    x.isFinite = true := by
  cases q with
  | real y =>
    cases h
    exact hq
  | whole n =>
    have hnumber := toDouble_isNumber h nofun
    simp only [toDouble] at h
    split at h
    · cases h
    · next hfinite =>
      obtain rfl := Except.ok.inj h
      cases hn : Double.ofInt n with
      | finite s m e => rfl
      | infinite s => exact absurd hn (hfinite s)
      | notANumber => exact absurd hn hnumber

/-- A whole number added to a number leaves one. -/
theorem add_whole_isNumber (h : q.add (.whole n) = .ok r) (hq : q ≠ .real .notANumber) :
    r ≠ .real .notANumber := by
  cases q with
  | whole m =>
    cases h
    exact nofun
  | real y =>
    obtain ⟨x, hx, h⟩ := Play.except_bind_ok.1 h
    obtain ⟨z, hz, h⟩ := Play.except_bind_ok.1 h
    obtain rfl := Play.except_pure_ok.1 h
    have hsum := Double.add_isNumber (toDouble_isNumber hx hq) (toDouble_isFinite hz rfl)
    exact fun h => hsum (real.inj h)

/-- A finite number taken from a number leaves one. -/
theorem sub_isNumber (h : p.sub q = .ok r) (hp : p ≠ .real .notANumber)
    (hq : q.unrounded.isFinite = true) : r ≠ .real .notANumber := by
  have hreal {x y : Double} (hx : p.toDouble = .ok x) (hy : q.toDouble = .ok y) :
      x.sub y ≠ .notANumber :=
    Double.add_isNumber (toDouble_isNumber hx hp) (Double.neg_isFinite (toDouble_isFinite hy hq))
  have rounded (h : (do return .real (Double.sub (← p.toDouble) (← q.toDouble)) : Except Fault _) =
      .ok r) : r ≠ .real .notANumber := by
    obtain ⟨x, hx, h⟩ := Play.except_bind_ok.1 h
    obtain ⟨y, hy, h⟩ := Play.except_bind_ok.1 h
    obtain rfl := Play.except_pure_ok.1 h
    exact fun h => hreal hx hy (real.inj h)
  cases p with
  | real x => exact rounded h
  | whole m =>
    cases q with
    | real y => exact rounded h
    | whole n => exact Except.ok.inj h ▸ nofun

end Quantity
end CardLesson
