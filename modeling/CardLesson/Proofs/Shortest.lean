/-
# The shortest digits of a double

The digits that a double is written with read back as the double. On the grids before the last a
digit group is taken only when it does (`readsBack_of_onGrid`). On the last grid the step is at most
`10^-16` of the double (`ten_pow_decade_le`), so the nearest grid point is nearer than half the step
of doubles (`readsBack_nearest`).

Key theorems: `ten_pow_decade_le`, `Double.readsBack_nearest`, `Double.readsBack_shortest`.
-/
import Mathlib.Algebra.Order.Field.Power
import CardLesson.Proofs.Rounding

namespace CardLesson
namespace Double

/-! ### The decade of a quotient -/

/-- The logarithm of two as `1233 / 4096`, from below and from above. -/
theorem two_pow_4096 : (10 : ℚ) ^ 1233 ≤ 2 ^ 4096 ∧ (2 : ℚ) ^ 4096 ≤ 10 ^ 1234 := by
  have hlow : 10 ^ 1233 ≤ 2 ^ 4096 := by decide +kernel
  have hhigh : 2 ^ 4096 ≤ 10 ^ 1234 := by decide +kernel
  exact ⟨by exact_mod_cast hlow, by exact_mod_cast hhigh⟩

/-- The power of ten that the logarithm gives for a power of two is at most ten times too large. -/
theorem ten_pow_le_two_pow {b k : ℤ} (hb : -4096 ≤ b) (hk : 4096 * k ≤ 1233 * b) :
    (10 : ℚ) ^ (k - 1) ≤ 2 ^ b := by
  obtain ⟨hlow, hhigh⟩ := two_pow_4096
  have hpow : ((10 : ℚ) ^ (k - 1)) ^ 4096 ≤ (2 ^ b) ^ 4096 := by
    rw [← zpow_natCast, ← zpow_natCast, ← zpow_mul, ← zpow_mul]
    rcases le_total 0 b with hsign | hsign
    · obtain ⟨n, rfl⟩ := Int.eq_ofNat_of_zero_le hsign
      calc (10 : ℚ) ^ ((k - 1) * (4096 : ℕ)) ≤ 10 ^ (1233 * (n : ℤ)) :=
            zpow_le_zpow_right₀ (by norm_num) (by omega)
        _ = (10 ^ 1233) ^ n := by rw [zpow_mul, zpow_natCast]; rfl
        _ ≤ (2 ^ 4096) ^ n := pow_le_pow_left₀ (by positivity) hlow n
        _ = 2 ^ ((n : ℤ) * (4096 : ℕ)) := by rw [mul_comm, zpow_mul, zpow_natCast]; rfl
    · obtain ⟨n, hn⟩ := Int.eq_ofNat_of_zero_le (neg_nonneg.2 hsign)
      obtain rfl : b = -n := by omega
      calc (10 : ℚ) ^ ((k - 1) * (4096 : ℕ)) ≤ 10 ^ (-(1234 * (n : ℤ))) :=
            zpow_le_zpow_right₀ (by norm_num) (by omega)
        _ = ((10 ^ 1234) ^ n)⁻¹ := by rw [zpow_neg, zpow_mul, zpow_natCast]; rfl
        _ ≤ ((2 ^ 4096) ^ n)⁻¹ := by gcongr
        _ = 2 ^ (-(n : ℤ) * (4096 : ℕ)) := by
            rw [neg_mul, zpow_neg, mul_comm, zpow_mul, zpow_natCast]; rfl
  exact (pow_le_pow_iff_left₀ (by positivity) (by positivity) (by norm_num)).1 hpow

/-- **The decade of a quotient is not above it.** -/
theorem ten_pow_decade_le {n d : ℕ} (hn : 0 < n) (hd : 0 < d) (hb : -4096 ≤ binade n d) :
    (10 : ℚ) ^ decade n d ≤ n / d := by
  have htest : ∀ k : ℤ, n * Nat.pow 10 (-k).toNat < d * Nat.pow 10 k.toNat ↔
      (n / d : ℚ) < 10 ^ k := fun k => by
    rw [scaled_lt_iff (b := 10) (by norm_num) n hd k]
    rfl
  unfold decade
  simp only [htest]
  split
  · have hx : (0 : ℚ) < n / d := div_pos (Nat.cast_pos.2 hn) (Nat.cast_pos.2 hd)
    have hle : (2 : ℚ) ^ binade n d ≤ n / d := by
      rw [binade_eq hn hd]
      exact_mod_cast Int.zpow_log_le_self one_lt_two hx
    refine le_trans (ten_pow_le_two_pow hb ?_) hle
    have := Int.mul_fdiv_self_le (x := binade n d * 1233) (k := 4096) (by norm_num)
    omega
  · next hlow =>
    split
    · exact not_lt.1 hlow
    · next hhigh => exact not_lt.1 hhigh

/-! ### Digits that read back -/

variable {m : ℕ} {e : ℤ}

theorem readsBack_iff {digits : ℕ} {p : ℤ} : readsBack m e digits p = true ↔
    rounded false (digits * 10 ^ p) = .finite false m e := by
  rw [readsBack, beq_iff_eq, ofDecimal_eq]

/-- Numerator and denominator that a double is written from. -/
theorem scaled_ratio (m : ℕ) (e : ℤ) :
    ((m * Nat.pow 2 e.toNat : ℕ) : ℚ) / (Nat.pow 2 (-e).toNat : ℕ) = m * 2 ^ e := by
  have h := scaled_div two_pos m 1 (-e)
  rw [neg_neg, Nat.one_mul, Nat.cast_one, div_one] at h
  exact h

/-- A grid whose step is at most `10^-16` of the double. -/
theorem readsBack_nearest (h : Standard m e) {n d : ℕ} (hd : 0 < d)
    (hvalue : (n / d : ℚ) = m * 2 ^ e) {p : ℤ} (hp : (10 : ℚ) ^ (p + 16) ≤ n / d) :
    readsBack m e (nearest (n * Nat.pow 10 (-p).toNat) (d * Nat.pow 10 p.toNat)) p = true := by
  have hpos : 0 < d * Nat.pow 10 p.toNat := Nat.mul_pos hd (Nat.pow_pos (by norm_num))
  have hstep : (0 : ℚ) < 2 ^ e := zpow_pos two_pos e
  have hten : (0 : ℚ) < 10 ^ p := zpow_pos (by norm_num) p
  have hx : (0 : ℚ) ≤ n / d * 10 ^ (-p) := by positivity
  have hscaled : ((n * Nat.pow 10 (-p).toNat : ℕ) : ℚ) / (d * Nat.pow 10 p.toNat : ℕ) =
      n / d * 10 ^ (-p) := scaled_div (b := 10) (by norm_num) n d p
  rw [readsBack_iff, nearest_eq _ hpos, hscaled]
  have hnear := halfEven_near hx
  rw [hvalue] at hnear hp ⊢
  generalize halfEven (m * 2 ^ e * 10 ^ (-p)) = q at hnear ⊢
  -- The grid point is off by half a grid step at most, a small part of a step of doubles.
  have hoff : |(q : ℚ) * 10 ^ p - m * 2 ^ e| ≤ 10 ^ p / 2 := by
    have hsplit : (q : ℚ) * 10 ^ p - m * 2 ^ e = (q - m * 2 ^ e * 10 ^ (-p)) * 10 ^ p := by
      rw [sub_mul, mul_assoc (m * 2 ^ e : ℚ), ← zpow_add₀ (by norm_num), neg_add_cancel, zpow_zero,
        mul_one]
    rw [hsplit, abs_mul, abs_of_pos hten]
    linarith [mul_le_mul_of_nonneg_right hnear hten.le]
  have hgrid : (10 : ℚ) ^ p * 10 ^ 16 ≤ m * 2 ^ e := by
    rw [zpow_add₀ (by norm_num)] at hp
    exact hp
  obtain ⟨hleft, hright⟩ := abs_le.1 hoff
  have hm : (m : ℚ) * 2 ^ e < (2 ^ 53 : ℕ) * 2 ^ e :=
    mul_lt_mul_of_pos_right (Nat.cast_lt.2 h.lt) hstep
  push_cast at hm
  refine rounded_of_near h ?_ ?_
  · rw [abs_lt]
    constructor <;> linarith
  · rintro rfl -
    push_cast at hgrid hleft ⊢
    linarith

theorem readsBack_firstGrid {n d : ℕ} : ∀ {grids : ℕ} {p : ℤ},
    readsBack m e (nearest (n * Nat.pow 10 (-(p - grids)).toNat) (d * Nat.pow 10 (p - grids).toNat))
      (p - grids) = true →
    readsBack m e (firstGrid m e n d grids p).1 (firstGrid m e n d grids p).2 = true
  | 0, p, h => by
    rw [Nat.cast_zero, sub_zero] at h
    exact h
  | grids + 1, p, h => by
    rw [firstGrid]
    split
    · next hgrid => exact readsBack_of_onGrid hgrid
    · have hnext : p - 1 - grids = p - (grids + 1 : ℕ) := by push_cast; ring
      exact readsBack_firstGrid (by rwa [hnext])

/-- **The shortest digits read back.** -/
theorem readsBack_shortest (h : Standard m e) :
    readsBack m e (shortest m e).1 (shortest m e).2 = true := by
  have hm : 0 < m * Nat.pow 2 e.toNat := Nat.mul_pos h.pos (Nat.two_pow_pos _)
  have hd : 0 < Nat.pow 2 (-e).toNat := Nat.two_pow_pos _
  have hvalue := scaled_ratio m e
  have hbinade : -4096 ≤ binade (m * Nat.pow 2 e.toNat) (Nat.pow 2 (-e).toNat) := by
    have hlow : (2 : ℚ) ^ (-4096 : ℤ) ≤ m * 2 ^ e := by
      have hone : (1 : ℚ) ≤ m := by exact_mod_cast h.pos
      calc (2 : ℚ) ^ (-4096 : ℤ) ≤ 2 ^ e :=
            zpow_le_zpow_right₀ one_le_two (by have := h.least; omega)
        _ ≤ m * 2 ^ e := le_mul_of_one_le_left (zpow_pos two_pos e).le hone
    rw [binade_eq hm hd, hvalue]
    refine (Int.zpow_le_iff_le_log one_lt_two (lt_of_lt_of_le (zpow_pos two_pos _) hlow)).1 ?_
    exact_mod_cast hlow
  have hdecade := ten_pow_decade_le hm hd hbinade
  refine readsBack_firstGrid (readsBack_nearest h hd hvalue ?_)
  rwa [Nat.cast_ofNat, sub_add_cancel]

theorem rounded_shortest (h : Standard m e) :
    rounded false ((shortest m e).1 * 10 ^ (shortest m e).2) = .finite false m e :=
  readsBack_iff.1 (readsBack_shortest h)

theorem shortest_pos (h : Standard m e) : 0 < (shortest m e).1 := by
  refine Nat.pos_of_ne_zero fun hzero => ?_
  have hread := rounded_shortest h
  rw [hzero, Nat.cast_zero, zero_mul, rounded, if_pos rfl] at hread
  exact h.pos.ne (Double.finite.inj hread).2.1

end Double
end CardLesson
