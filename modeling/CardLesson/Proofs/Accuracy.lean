/-
# How accurate calculations with doubles are

A finite double has a value, by which it compares and which decides its whole part. One rounding
changes a value by half a step at most, and not at all when a mantissa can hold it; so an operation
on doubles from zero on is its exact result, rounded once. `Near` counts how many roundings lie
between a double and the exact result of a calculation, as a share of that result for each. From so
near, the whole number below is missed only where the exact result is whole and the double just
below it.

Key definitions: `Double.value`, `Double.IsPlain`, `Double.IsSized`, `Double.IsShort`,
`Double.Near`, `NearlyFloored`.
Key theorems: `Double.compare?_value`, `Double.floor?_value`, `Double.rounded_error`,
`Double.near_rounded`, `Double.Near.mul`, `Double.Near.compare_eq`, `Double.Near.floor`,
`Quantity.mul_real`.
-/
import CardLesson.Proofs.Rounding
import CardLesson.Proofs.Sameness

namespace CardLesson
namespace Double

variable {s t : Bool} {m n : ℕ} {e f low : ℤ} {x y : Double} {v w : ℚ}

/-! ### The value of a double -/

theorem scaled_back (v : ℚ) (e : ℤ) : v * 2 ^ (-e) * 2 ^ e = v := by
  rw [zpow_neg, inv_mul_cancel_right₀ (zpow_ne_zero e two_ne_zero)]

/-- The number that a finite double is; zero for all others. -/
def value : Double → ℚ
  | .finite s m e => signed s m * 2 ^ e
  | _ => 0

theorem aligned_value (h : low ≤ e) :
    (aligned s m e low : ℚ) = value (.finite s m e) * 2 ^ (-low) := by
  have hpow : ((Nat.pow 2 (e - low).toNat : ℕ) : ℚ) = 2 ^ e * 2 ^ (-low) := by
    rw [Nat.pow_eq, Nat.cast_pow, Nat.cast_two, ← zpow_natCast, Int.toNat_of_nonneg (by omega),
      ← zpow_add₀ two_ne_zero]
    rfl
  rw [aligned, signed_mul, Int.cast_mul, Int.cast_natCast, hpow, value, mul_assoc]

/-- **Finite doubles compare as their values do.** -/
theorem compare?_value (hx : x.isFinite = true) (hy : y.isFinite = true) :
    x.compare? y = some (compare x.value y.value) := by
  match x, y, hx, hy with
  | .finite s m e, .finite t n f, _, _ =>
    have hpos : (0 : ℚ) < 2 ^ (-min e f) := zpow_pos two_pos _
    have hlt {s t : Bool} {m n : ℕ} {e f low : ℤ} (he : low ≤ e) (hf : low ≤ f)
        (hpos : (0 : ℚ) < 2 ^ (-low)) : aligned s m e low < aligned t n f low ↔
          value (.finite s m e) < value (.finite t n f) := by
      rw [← Int.cast_lt (R := ℚ), aligned_value he, aligned_value hf, mul_lt_mul_iff_left₀ hpos]
    rw [compare?_finite (min_le_left e f) (min_le_right e f), Option.some_inj]
    rcases lt_trichotomy (value (.finite s m e)) (value (.finite t n f)) with h | h | h
    · rw [compare_lt_iff_lt.2 h, Int.compare_eq_lt]
      exact (hlt (min_le_left e f) (min_le_right e f) hpos).2 h
    · rw [compare_eq_iff_eq.2 h, Int.compare_eq_eq]
      have := aligned_value (s := s) (m := m) (min_le_left e f)
      rw [h, ← aligned_value (min_le_right e f)] at this
      exact_mod_cast this
    · rw [compare_gt_iff_gt.2 h, Int.compare_eq_gt]
      exact (hlt (min_le_right e f) (min_le_left e f) hpos).2 h

theorem scaled_value (s : Bool) (m : ℕ) (e : ℤ) :
    (signed s (m * Nat.pow 2 e.toNat) : ℚ) / (Nat.pow 2 (-e).toNat : ℕ) =
      value (.finite s m e) := by
  rw [value, signed_mul, Int.cast_mul, Int.cast_natCast, mul_div_assoc]
  exact congrArg (_ * ·) (zpow_eq_div two_pos e).symm

/-- **The whole number below a double is that below its value.** -/
theorem floor?_value (hx : x.isFinite = true) : x.floor? = some ⌊x.value⌋ := by
  match x, hx with
  | .finite s m e, _ =>
    rw [← scaled_value, Rat.floor_intCast_div_natCast, ← Int.fdiv_eq_ediv_of_nonneg _ (by omega)]
    rfl

/-! ### One rounding -/

theorem ofScaled_eq (s : Bool) (m : ℕ) (e : ℤ) : ofScaled s m e = rounded s (m * 2 ^ e) := by
  have hpos : 0 < Nat.pow 2 (-e).toNat := Nat.two_pow_pos _
  rw [ofScaled, ofRatio_eq _ _ hpos, Nat.cast_mul, mul_div_assoc]
  exact congrArg (fun q => rounded s (m * q)) (zpow_eq_div two_pos e).symm

/-- A value that a mantissa can hold is not changed by rounding. -/
theorem rounded_exact (hm : m < 2 ^ 53) (he : -1074 ≤ e) (he' : e ≤ 971) :
    ∃ m' e', rounded s (m * 2 ^ e) = .finite s m' e' ∧ (m' * 2 ^ e' : ℚ) = m * 2 ^ e := by
  rcases Nat.eq_zero_or_pos m with rfl | hpos
  · exact ⟨0, 0, by simp [rounded], by simp⟩
  set x : ℚ := m * 2 ^ e with hx
  have hxpos : 0 < x := mul_pos (Nat.cast_pos.2 hpos) (zpow_pos two_pos e)
  have hlt : x < 2 ^ (53 + e) := by
    rw [zpow_add₀ two_ne_zero, hx]
    exact mul_lt_mul_of_pos_right (by exact_mod_cast hm) (zpow_pos two_pos e)
  have hlog : Int.log 2 x < 53 + e :=
    (Int.lt_zpow_iff_log_lt one_lt_two hxpos).1 (by exact_mod_cast hlt)
  have hstep : exponentOf x ≤ e := by unfold exponentOf; omega
  have hwhole : x * 2 ^ (-exponentOf x) = (m * 2 ^ (e - exponentOf x).toNat : ℕ) := by
    rw [Nat.cast_mul, Nat.cast_pow, Nat.cast_two, ← zpow_natCast, Int.toNat_of_nonneg (by omega),
      hx, mul_assoc, ← zpow_add₀ two_ne_zero]
    rfl
  have hmantissa : halfEven (x * 2 ^ (-exponentOf x)) = m * 2 ^ (e - exponentOf x).toNat :=
    halfEven_eq_of_near (scaled_nonneg hxpos) (by rw [hwhole, sub_self]; norm_num)
  have hfits : m * 2 ^ (e - exponentOf x).toNat < 2 ^ 53 := by
    have := scaled_lt x
    rw [hwhole] at this
    exact_mod_cast this
  have hback : ((m * 2 ^ (e - exponentOf x).toNat : ℕ) : ℚ) * 2 ^ exponentOf x = x := by
    rw [← hwhole, scaled_back]
  refine ⟨_, _, ?_, hback⟩
  rw [rounded_of_pos hxpos, hmantissa, pack_eq,
    if_neg (Nat.mul_pos hpos (Nat.two_pow_pos _)).ne', if_neg hfits.ne, if_neg (by omega)]

theorem rounded_cases (s : Bool) (x : ℚ) :
    rounded s x = .infinite s ∨ ∃ m e, rounded s x = .finite s m e := by
  have hpack (m : ℕ) (e : ℤ) :
      pack s m e = .infinite s ∨ ∃ m' e', pack s m e = .finite s m' e' := by
    rw [pack_eq]
    split_ifs <;> simp
  unfold rounded
  split
  · exact .inr ⟨_, _, rfl⟩
  · exact hpack _ _

/-- **What rounding changes**: half a step at most. -/
theorem rounded_error (hv : 0 ≤ v) (hlt : v < 2 ^ 1023) :
    ∃ m e, rounded s v = .finite s m e ∧ |m * 2 ^ e - v| ≤ 2 ^ exponentOf v / 2 := by
  rcases hv.eq_or_lt with rfl | hpos
  · have hstep : (0 : ℚ) < 2 ^ exponentOf 0 := zpow_pos two_pos _
    exact ⟨0, 0, rfl, by rw [Nat.cast_zero, zero_mul, sub_zero, abs_zero]; linarith⟩
  have hlog : Int.log 2 v < 1023 :=
    (Int.lt_zpow_iff_log_lt one_lt_two hpos).1 (by rwa [Nat.cast_two, zpow_ofNat])
  have hstep : exponentOf v + 1 ≤ 971 := by unfold exponentOf; omega
  have hnear := halfEven_near (scaled_nonneg hpos)
  have hfits : halfEven (v * 2 ^ (-exponentOf v)) ≤ 2 ^ 53 :=
    halfEven_le (scaled_nonneg hpos) (by exact_mod_cast (scaled_lt v).le)
  have hscale : (0 : ℚ) < 2 ^ exponentOf v := zpow_pos two_pos _
  rw [rounded_of_pos hpos]
  generalize halfEven (v * 2 ^ (-exponentOf v)) = k at hnear hfits ⊢
  have herror : |k * 2 ^ exponentOf v - v| ≤ 2 ^ exponentOf v / 2 := by
    calc |k * 2 ^ exponentOf v - v|
        = |k - v * 2 ^ (-exponentOf v)| * 2 ^ exponentOf v := by
          rw [← abs_of_pos hscale, ← abs_mul, sub_mul, abs_of_pos hscale, scaled_back]
      _ ≤ 1 / 2 * 2 ^ exponentOf v := mul_le_mul_of_nonneg_right hnear hscale.le
      _ = 2 ^ exponentOf v / 2 := by ring
  rw [pack_eq]
  split
  · next hzero =>
    subst hzero
    exact ⟨0, 0, rfl, by simpa using herror⟩
  split
  · next hcarry =>
    subst hcarry
    rw [if_neg (by omega)]
    refine ⟨_, _, rfl, ?_⟩
    have hnext : ((2 ^ 52 : ℕ) : ℚ) * 2 ^ (exponentOf v + 1) =
        (2 ^ 53 : ℕ) * 2 ^ exponentOf v := by
      rw [zpow_add_one₀ two_ne_zero]
      push_cast
      ring
    rwa [hnext]
  · rw [if_neg (by omega)]
    exact ⟨_, _, rfl, herror⟩

/-- Steps are short, relative to a value that is not too small. -/
theorem step_le (hlow : 1 / 2 ^ 1022 ≤ v) : 2 ^ exponentOf v / 2 ≤ v / 2 ^ 53 := by
  have hpos : 0 < v := lt_of_lt_of_le (by positivity) hlow
  have hlog : -1022 ≤ Int.log 2 v :=
    (Int.zpow_le_iff_le_log one_lt_two hpos).1 (by rwa [Nat.cast_two, zpow_neg, ← one_div])
  have hstep : exponentOf v = Int.log 2 v + (-52) := by unfold exponentOf; omega
  have hle : (2 : ℚ) ^ Int.log 2 v ≤ v := by
    exact_mod_cast Int.zpow_log_le_self (R := ℚ) one_lt_two hpos
  calc (2 : ℚ) ^ exponentOf v / 2 = 2 ^ Int.log 2 v / 2 ^ 53 := by
        rw [hstep, zpow_add₀ two_ne_zero]
        norm_num
        ring
    _ ≤ v / 2 ^ 53 := by gcongr

/-! ### Operations on doubles from zero on -/

/-- A finite double without a minus sign. -/
def IsPlain (x : Double) : Prop := ∃ m e, x = .finite false m e

theorem IsPlain.isFinite (hx : x.IsPlain) : x.isFinite = true := by
  obtain ⟨m, e, rfl⟩ := hx
  rfl

theorem IsPlain.value_nonneg (hx : x.IsPlain) : 0 ≤ x.value := by
  obtain ⟨m, e, rfl⟩ := hx
  exact mul_nonneg (Nat.cast_nonneg m) (zpow_pos two_pos e).le

theorem mul_finite (s t : Bool) (m n : ℕ) (e f : ℤ) :
    mul (.finite s m e) (.finite t n f) = rounded (s != t) (m * 2 ^ e * (n * 2 ^ f)) := by
  rw [mul, ofScaled_eq, Nat.cast_mul, zpow_add₀ two_ne_zero, mul_mul_mul_comm]

theorem mul_eq (hx : x.IsPlain) (hy : y.IsPlain) : x.mul y = rounded false (x.value * y.value) := by
  obtain ⟨m, e, rfl⟩ := hx
  obtain ⟨n, f, rfl⟩ := hy
  exact mul_finite false false m n e f

theorem add_eq (hx : x.IsPlain) (hy : y.IsPlain) : x.add y = rounded false (x.value + y.value) := by
  obtain ⟨m, e, rfl⟩ := hx
  obtain ⟨n, f, rfl⟩ := hy
  have hsum : value (.finite false m e) + value (.finite false n f) =
      (m * Nat.pow 2 (e - min e f).toNat + n * Nat.pow 2 (f - min e f).toNat : ℕ) *
        2 ^ min e f := by
    have hm := aligned_value (s := false) (m := m) (min_le_left e f)
    have hn := aligned_value (s := false) (m := n) (min_le_right e f)
    calc value (.finite false m e) + value (.finite false n f)
        = (value (.finite false m e) * 2 ^ (-min e f) +
            value (.finite false n f) * 2 ^ (-min e f)) * 2 ^ min e f := by
          rw [← add_mul, scaled_back]
      _ = _ := by
          rw [← hm, ← hn, ← Int.cast_add]
          rfl
  rw [hsum, ← ofScaled_eq]
  generalize htotal : m * Nat.pow 2 (e - min e f).toNat + n * Nat.pow 2 (f - min e f).toNat = total
  have htotal' : aligned false m e (min e f) + aligned false n f (min e f) = (total : ℤ) := by
    rw [← htotal]
    rfl
  simp only [add, htotal']
  by_cases h : total = 0
  · rw [if_pos (by exact_mod_cast h), h, ofScaled_eq, Nat.cast_zero, zero_mul, rounded, if_pos rfl]
    rfl
  · rw [if_neg (by exact_mod_cast h), decide_eq_false (by omega)]
    rfl

/-- A rounded value has at most twice the size. -/
theorem rounded_le {k : ℕ} (hk : k ≤ 1000) (hv : 0 ≤ v) (hle : v ≤ 2 ^ k) :
    ∃ m e, rounded s v = .finite s m e ∧ m * 2 ^ e ≤ (2 : ℚ) ^ (k + 1) := by
  have hlt : v < 2 ^ 1023 := hle.trans_lt (pow_lt_pow_right₀ one_lt_two (by omega))
  obtain ⟨m, e, hround, herror⟩ := rounded_error (s := s) hv hlt
  refine ⟨m, e, hround, ?_⟩
  have hstep : (2 : ℚ) ^ exponentOf v ≤ 2 ^ k := by
    rcases hv.eq_or_lt with rfl | hpos
    · calc (2 : ℚ) ^ exponentOf 0 ≤ 2 ^ (0 : ℤ) :=
            zpow_le_zpow_right₀ one_le_two (by rw [exponentOf, Int.log_zero_right]; omega)
        _ ≤ 2 ^ k := by rw [zpow_zero]; exact one_le_pow₀ one_le_two
    · have hlog : Int.log 2 v < k + 1 := by
        refine (Int.lt_zpow_iff_log_lt one_lt_two hpos).1 ?_
        exact_mod_cast hle.trans_lt (pow_lt_pow_right₀ one_lt_two k.lt_succ_self)
      rw [← zpow_natCast]
      exact zpow_le_zpow_right₀ one_le_two (by unfold exponentOf; omega)
  have hright := (abs_le.1 herror).2
  rw [pow_succ]
  linarith

/-- Finite doubles have a finite difference. -/
theorem sub_finite {k : ℕ} (hk : k ≤ 1000) (hx : x.IsPlain) (hy : y.IsPlain) (hxk : x.value ≤ 2 ^ k)
    (hyk : y.value ≤ 2 ^ k) :
    ∃ s m e, x.sub y = .finite s m e ∧ m * 2 ^ e ≤ (2 : ℚ) ^ (k + 1) := by
  have hx' := hx.value_nonneg
  have hy' := hy.value_nonneg
  obtain ⟨m, e, rfl⟩ := hx
  obtain ⟨n, f, rfl⟩ := hy
  have hn : value (.finite true n f) = -value (.finite false n f) := by
    simp only [value, signed, if_true, Bool.false_eq_true, if_false, Int.cast_neg, neg_mul]
  set total := aligned false m e (min e f) + aligned true n f (min e f) with htotal
  have hsize : |(total : ℚ)| * 2 ^ min e f =
      |value (.finite false m e) - value (.finite false n f)| := by
    have hscale : (0 : ℚ) < 2 ^ min e f := zpow_pos two_pos _
    rw [htotal, Int.cast_add, aligned_value (min_le_left e f), aligned_value (min_le_right e f), hn,
      ← abs_of_pos hscale, ← abs_mul, ← add_mul, scaled_back, sub_eq_add_neg]
  have hle : |(total : ℚ)| * 2 ^ min e f ≤ 2 ^ k := by
    rw [hsize, abs_le]
    constructor <;> linarith
  have hsub : sub (.finite false m e) (.finite false n f) =
      if total = 0 then .finite (false && true) 0 0
      else ofScaled (decide (total < 0)) total.natAbs (min e f) := rfl
  rw [hsub]
  split
  · exact ⟨_, 0, 0, rfl, by rw [Nat.cast_zero, zero_mul]; positivity⟩
  · rw [ofScaled_eq, Nat.cast_natAbs, Int.cast_abs]
    have hnonneg : 0 ≤ |(total : ℚ)| * 2 ^ min e f :=
      mul_nonneg (abs_nonneg _) (zpow_pos two_pos _).le
    obtain ⟨m', e', hround, hbound⟩ := rounded_le (s := decide (total < 0)) hk hnonneg hle
    exact ⟨_, m', e', hround, hbound⟩

theorem div_eq (hx : x.IsPlain) (hy : y.IsPlain) (hpos : y.value ≠ 0) :
    x.div y = rounded false (x.value / y.value) := by
  obtain ⟨m, e, rfl⟩ := hx
  obtain ⟨n, f, rfl⟩ := hy
  have hn : n ≠ 0 := by
    rintro rfl
    exact hpos (by simp [value, signed])
  have hscaled := scaled_div two_pos m n (f - e)
  have hback : e - f = -(f - e) := by ring
  have hscale : (2 : ℚ) ^ (e - f) = 2 ^ e / 2 ^ f := zpow_sub₀ two_ne_zero e f
  have hpos' : 0 < n * Nat.pow 2 (f - e).toNat :=
    Nat.mul_pos (Nat.pos_of_ne_zero hn) (Nat.two_pow_pos _)
  rw [div, if_neg hn, ofRatio_eq _ _ hpos', hback, hscaled, Nat.cast_two, ← hback, hscale,
    div_mul_div_comm]
  rfl

theorem ofInt_eq (k : ℤ) : ofInt k = rounded (decide (k < 0)) (k.natAbs : ℕ) := by
  rw [ofInt, ofRatio_eq _ _ one_pos, Nat.cast_one, div_one]

/-! ### Several roundings -/

/-- A value that is zero or between `2 ^ -b` and `2 ^ b`. -/
def IsSized (b : ℕ) (v : ℚ) : Prop := v = 0 ∨ 1 / 2 ^ b ≤ v ∧ v ≤ 2 ^ b

section Sizes

variable {a b : ℕ}

theorem IsSized.nonneg (hv : IsSized b v) : 0 ≤ v := by
  rcases hv with rfl | ⟨hlow, -⟩
  · exact le_rfl
  · exact le_trans (by positivity) hlow

theorem IsSized.mul (hv : IsSized a v) (hw : IsSized b w) : IsSized (a + b) (v * w) := by
  rcases hv with rfl | ⟨hv, hv'⟩
  · exact .inl (zero_mul w)
  rcases hw with rfl | ⟨hw, hw'⟩
  · exact .inl (mul_zero v)
  have hpos : 0 ≤ v := le_trans (by positivity) hv
  refine .inr ⟨?_, ?_⟩
  · calc (1 : ℚ) / 2 ^ (a + b) = 1 / 2 ^ a * (1 / 2 ^ b) := by rw [pow_add, one_div_mul_one_div]
      _ ≤ v * w := mul_le_mul hv hw (by positivity) hpos
  · calc v * w ≤ 2 ^ a * 2 ^ b := mul_le_mul hv' hw' (le_trans (by positivity) hw) (by positivity)
      _ = 2 ^ (a + b) := (pow_add 2 a b).symm

theorem isSized_natCast {n : ℕ} (hn : n ≤ 2 ^ b) : IsSized b n := by
  rcases Nat.eq_zero_or_pos n with rfl | hpos
  · exact .inl Nat.cast_zero
  · refine .inr ⟨?_, by exact_mod_cast hn⟩
    calc (1 : ℚ) / 2 ^ b ≤ 1 := by
          rw [div_le_one (by positivity)]
          exact one_le_pow₀ one_le_two
      _ ≤ n := by exact_mod_cast hpos

/-- One and a share that is not too large. -/
theorem IsSized.one_add (hv : IsSized b v) : IsSized (b + 1) (1 + v) := by
  have hnonneg := hv.nonneg
  have hle : v ≤ 2 ^ b := hv.elim (fun h => h.le.trans (by positivity)) (·.2)
  have hone : (1 : ℚ) ≤ 2 ^ b := one_le_pow₀ one_le_two
  refine .inr ⟨?_, ?_⟩
  · calc (1 : ℚ) / 2 ^ (b + 1) ≤ 1 := by
          rw [div_le_one (by positivity)]
          exact one_le_pow₀ one_le_two
      _ ≤ 1 + v := by linarith
  · rw [pow_succ]
    linarith

theorem IsSized.div_hundred (hv : IsSized b v) : IsSized (b + 7) (v / 100) := by
  have h : IsSized 7 (1 / 100) := .inr ⟨by norm_num, by norm_num⟩
  rw [div_eq_mul_one_div]
  exact hv.mul h

end Sizes

/-- A value that a mantissa can hold, over a power of two. -/
def IsShort (v : ℚ) : Prop := ∃ n j : ℕ, n < 2 ^ 53 ∧ j ≤ 1000 ∧ v = n / 2 ^ j

/-- A double that `k` roundings have led to from a value of a size. -/
structure Near (b k : ℕ) (v : ℚ) (x : Double) : Prop where
  plain : x.IsPlain
  sized : IsSized b v
  lower : v * (1 - 1 / 2 ^ 53) ^ k ≤ x.value
  upper : x.value ≤ v * (1 + 1 / 2 ^ 53) ^ k

section Near

variable {a b j k : ℕ} {q : ℚ}

theorem value_plain (m : ℕ) (e : ℤ) : value (.finite false m e) = m * 2 ^ e := rfl

theorem Near.exact (hx : Near b 0 v x) : x.value = v := by
  have hlow := hx.lower
  have hhigh := hx.upper
  rw [pow_zero, mul_one] at hlow hhigh
  exact le_antisymm hhigh hlow

/-- Nothing becomes more by rounding. -/
theorem Near.zero (hx : Near b k 0 x) : x.value = 0 := by
  have hlow := hx.lower
  have hhigh := hx.upper
  rw [zero_mul] at hlow hhigh
  exact le_antisymm hhigh hlow

/-- Ten roundings keep at least half. -/
theorem half_le_pow (hk : k ≤ 10) : (1 : ℚ) / 2 ≤ (1 - 1 / 2 ^ 53) ^ k :=
  calc (1 : ℚ) / 2 ≤ (1 - 1 / 2 ^ 53) ^ 10 := by norm_num
    _ ≤ (1 - 1 / 2 ^ 53) ^ k := pow_le_pow_of_le_one (by norm_num) (by norm_num) hk

theorem pow_le_two (hk : k ≤ 10) : ((1 : ℚ) + 1 / 2 ^ 53) ^ k ≤ 2 :=
  calc ((1 : ℚ) + 1 / 2 ^ 53) ^ k ≤ (1 + 1 / 2 ^ 53) ^ 10 := pow_le_pow_right₀ (by norm_num) hk
    _ ≤ 2 := by norm_num

/-- **One more rounding.** -/
theorem near_rounded (hv : IsSized b v) (hb : b ≤ 1000) (hk : k ≤ 10)
    (hlow : v * (1 - 1 / 2 ^ 53) ^ k ≤ q) (hhigh : q ≤ v * (1 + 1 / 2 ^ 53) ^ k) :
    Near b (k + 1) v (rounded false q) := by
  rcases hv with rfl | ⟨hmin, hmax⟩
  · have hq : q = 0 := le_antisymm (by simpa using hhigh) (by simpa using hlow)
    subst hq
    have hzero : (rounded false 0).value = 0 := by simp [rounded, value, signed]
    exact ⟨⟨0, 0, rfl⟩, .inl rfl, by rw [hzero, zero_mul], by rw [hzero, zero_mul]⟩
  have hpos : 0 < v := lt_of_lt_of_le (by positivity) hmin
  have hpow : (2 : ℚ) ^ b ≤ 2 ^ 1000 := pow_le_pow_right₀ one_le_two hb
  have hsmall : 1 / 2 ^ 1022 ≤ q :=
    calc (1 : ℚ) / 2 ^ 1022 ≤ 1 / 2 ^ 1001 :=
          one_div_le_one_div_of_le (by positivity) (pow_le_pow_right₀ one_le_two (by norm_num))
      _ = 1 / 2 ^ 1000 * (1 / 2) := by rw [one_div_mul_one_div, ← pow_succ]
      _ ≤ v * (1 - 1 / 2 ^ 53) ^ k :=
        mul_le_mul ((one_div_le_one_div_of_le (by positivity) hpow).trans hmin) (half_le_pow hk)
          (by norm_num) hpos.le
      _ ≤ q := hlow
  have hlarge : q < 2 ^ 1023 :=
    calc q ≤ v * (1 + 1 / 2 ^ 53) ^ k := hhigh
      _ ≤ 2 ^ 1000 * 2 :=
        mul_le_mul (hmax.trans hpow) (pow_le_two hk) (by positivity) (by positivity)
      _ = 2 ^ 1001 := (pow_succ 2 1000).symm
      _ < 2 ^ 1023 := pow_lt_pow_right₀ one_lt_two (by norm_num)
  have hq : 0 < q := lt_of_lt_of_le (by positivity) hsmall
  obtain ⟨m, e, hround, herror⟩ := rounded_error (s := false) hq.le hlarge
  obtain ⟨hleft, hright⟩ := abs_le.1 (herror.trans (step_le hsmall))
  rw [hround]
  refine ⟨⟨m, e, rfl⟩, .inr ⟨hmin, hmax⟩, ?_, ?_⟩
  · calc v * (1 - 1 / 2 ^ 53) ^ (k + 1) = v * (1 - 1 / 2 ^ 53) ^ k * (1 - 1 / 2 ^ 53) := by
          rw [pow_succ _ k, mul_assoc]
      _ ≤ q * (1 - 1 / 2 ^ 53) := mul_le_mul_of_nonneg_right hlow (by norm_num)
      _ ≤ m * 2 ^ e := by linarith
  · calc (m : ℚ) * 2 ^ e ≤ q * (1 + 1 / 2 ^ 53) := by linarith
      _ ≤ v * (1 + 1 / 2 ^ 53) ^ k * (1 + 1 / 2 ^ 53) :=
        mul_le_mul_of_nonneg_right hhigh (by norm_num)
      _ = v * (1 + 1 / 2 ^ 53) ^ (k + 1) := by rw [pow_succ _ k, mul_assoc]

theorem Near.mul (hx : Near a j v x) (hy : Near b k w y) (hb : a + b ≤ 1000) (hk : j + k ≤ 10) :
    Near (a + b) (j + k + 1) (v * w) (x.mul y) := by
  have hv := hx.sized.nonneg
  have hw := hy.sized.nonneg
  rw [mul_eq hx.plain hy.plain]
  refine near_rounded (hx.sized.mul hy.sized) hb hk ?_ ?_
  · calc v * w * (1 - 1 / 2 ^ 53) ^ (j + k)
        = v * (1 - 1 / 2 ^ 53) ^ j * (w * (1 - 1 / 2 ^ 53) ^ k) := by
          rw [pow_add, mul_mul_mul_comm]
      _ ≤ x.value * y.value :=
        mul_le_mul hx.lower hy.lower (mul_nonneg hw (pow_nonneg (by norm_num) k))
          hx.plain.value_nonneg
  · calc x.value * y.value
        ≤ v * (1 + 1 / 2 ^ 53) ^ j * (w * (1 + 1 / 2 ^ 53) ^ k) :=
          mul_le_mul hx.upper hy.upper hy.plain.value_nonneg (by positivity)
      _ = v * w * (1 + 1 / 2 ^ 53) ^ (j + k) := by rw [pow_add, mul_mul_mul_comm]

/-- A value that a mantissa can hold is not rounded. -/
theorem near_short (hv : IsSized b v) (hshort : IsShort v) : Near b 0 v (rounded false v) := by
  obtain ⟨n, j, hn, hj, rfl⟩ := hshort
  obtain ⟨m, e, hround, hvalue⟩ :=
    rounded_exact (s := false) hn (e := -(j : ℤ)) (by omega) (by omega)
  rw [zpow_neg, zpow_natCast, ← div_eq_mul_inv] at hround hvalue
  rw [hround]
  exact ⟨⟨m, e, rfl⟩, hv, by rw [value_plain, hvalue, pow_zero, mul_one],
    by rw [value_plain, hvalue, pow_zero, mul_one]⟩

theorem Near.mul_short (hx : Near a 0 v x) (hy : Near b 0 w y) (h : IsShort (v * w)) :
    Near (a + b) 0 (v * w) (x.mul y) := by
  rw [mul_eq hx.plain hy.plain, hx.exact, hy.exact]
  exact near_short (hx.sized.mul hy.sized) h

/-- A whole number that a mantissa can hold is a double itself. -/
theorem near_ofInt {n : ℕ} (hn : n ≤ 2 ^ b) (hlt : n < 2 ^ 53) : Near b 0 n (ofInt n) := by
  rw [ofInt_eq, decide_eq_false (by omega), Int.natAbs_natCast]
  exact near_short (isSized_natCast hn)
    ⟨n, 0, hlt, Nat.zero_le _, by rw [pow_zero, div_one]⟩

/-- All others are rounded once. -/
theorem near_ofInt_large {n : ℕ} (hn : n ≤ 2 ^ b) (hb : b ≤ 1000) : Near b 1 n (ofInt n) := by
  rw [ofInt_eq, decide_eq_false (by omega), Int.natAbs_natCast]
  exact near_rounded (isSized_natCast hn) hb (Nat.zero_le 10) (by rw [pow_zero, mul_one])
    (by rw [pow_zero, mul_one])

theorem near_one : Near 0 0 1 .one := by
  exact_mod_cast near_ofInt (b := 0) (n := 1) (by norm_num) (by norm_num)

theorem near_hundred : Near 7 0 100 (ofInt 100) := by
  exact_mod_cast near_ofInt (b := 7) (n := 100) (by norm_num) (by norm_num)

theorem div_hundred_eq (hx : x.IsPlain) : x.div (ofInt 100) = rounded false (x.value / 100) := by
  rw [div_eq hx near_hundred.plain (by rw [near_hundred.exact]; norm_num), near_hundred.exact]

theorem one_add_eq (hx : x.IsPlain) : Double.add .one x = rounded false (1 + x.value) := by
  rw [add_eq near_one.plain hx, near_one.exact]

theorem Near.div_hundred (hx : Near b k v x) (hb : b + 7 ≤ 1000) (hk : k ≤ 10) :
    Near (b + 7) (k + 1) (v / 100) (x.div (ofInt 100)) := by
  rw [div_hundred_eq hx.plain]
  refine near_rounded hx.sized.div_hundred hb hk ?_ ?_
  · rw [div_mul_eq_mul_div]
    exact div_le_div_of_nonneg_right hx.lower (by norm_num)
  · rw [div_mul_eq_mul_div]
    exact div_le_div_of_nonneg_right hx.upper (by norm_num)

theorem Near.one_add (hx : Near b k v x) (hb : b + 1 ≤ 1000) (hk : k ≤ 10) :
    Near (b + 1) (k + 1) (1 + v) (Double.add .one x) := by
  have hlow : ((1 : ℚ) - 1 / 2 ^ 53) ^ k ≤ 1 := pow_le_one₀ (by norm_num) (by norm_num)
  have hhigh : (1 : ℚ) ≤ (1 + 1 / 2 ^ 53) ^ k := one_le_pow₀ (by norm_num)
  rw [one_add_eq hx.plain]
  refine near_rounded hx.sized.one_add hb hk ?_ ?_
  · rw [add_mul, one_mul]
    exact add_le_add hlow hx.lower
  · rw [add_mul, one_mul]
    exact add_le_add hhigh hx.upper

end Near

end Double

/-! ### Whole numbers below -/

/-- A whole number that is the one below a value up to a small share, and exactly that while the
value, in parts of `d`, is not too large; but one less is found where the value is whole. -/
structure NearlyFloored (d : ℕ) (v : ℚ) (n : ℤ) : Prop where
  above : v * (1 - 1 / 2 ^ 49) - 1 < n
  below : n ≤ v * (1 + 1 / 2 ^ 49)
  close : d * v < 2 ^ 49 → n = ⌊v⌋ ∨ v = ⌊v⌋ ∧ n = ⌊v⌋ - 1

/-- Two values made of the same parts are at least one part apart. -/
theorem parts_apart {d : ℕ} {i j : ℤ} {v w : ℚ} (hd : 0 < d) (hv : d * v = i) (hw : d * w = j)
    (hlt : v < w) : v + 1 / d ≤ w := by
  have hd' : (0 : ℚ) < d := Nat.cast_pos.2 hd
  have hparts : i < j := by
    have := mul_lt_mul_of_pos_left hlt hd'
    rw [hv, hw] at this
    exact_mod_cast this
  have hparts : d * v + 1 ≤ d * w := by
    rw [hv, hw]
    exact_mod_cast hparts
  calc v + 1 / d = (d * v + 1) / d := by field_simp
    _ ≤ d * w / d := div_le_div_of_nonneg_right hparts hd'.le
    _ = w := mul_div_cancel_left₀ _ hd'.ne'

namespace Double

variable {x : Double} {v w : ℚ} {b k : ℕ}

/-- What a few roundings change. -/
theorem Near.error (hx : Near b k v x) (hk : k ≤ 10) :
    v * (1 - 1 / 2 ^ 49) ≤ x.value ∧ x.value ≤ v * (1 + 1 / 2 ^ 49) := by
  have hv := hx.sized.nonneg
  constructor
  · calc v * (1 - 1 / 2 ^ 49) ≤ v * (1 - 1 / 2 ^ 53) ^ 10 :=
          mul_le_mul_of_nonneg_left (by norm_num) hv
      _ ≤ v * (1 - 1 / 2 ^ 53) ^ k :=
          mul_le_mul_of_nonneg_left (pow_le_pow_of_le_one (by norm_num) (by norm_num) hk) hv
      _ ≤ x.value := hx.lower
  · calc x.value ≤ v * (1 + 1 / 2 ^ 53) ^ k := hx.upper
      _ ≤ v * (1 + 1 / 2 ^ 53) ^ 10 :=
          mul_le_mul_of_nonneg_left (pow_le_pow_right₀ (by norm_num) hk) hv
      _ ≤ v * (1 + 1 / 2 ^ 49) := mul_le_mul_of_nonneg_left (by norm_num) hv

theorem Near.value_le (hx : Near b k v x) (hk : k ≤ 10) : x.value ≤ 2 ^ (b + 1) := by
  have hv := hx.sized.nonneg
  have hle : v ≤ 2 ^ b := hx.sized.elim (fun h => h.le.trans (by positivity)) (·.2)
  calc x.value ≤ v * (1 + 1 / 2 ^ 53) ^ k := hx.upper
    _ ≤ 2 ^ b * 2 := mul_le_mul hle (pow_le_two hk) (by positivity) (by positivity)
    _ = 2 ^ (b + 1) := (pow_succ 2 b).symm

/-- The error is less than one part of a value that does not have too many. -/
theorem error_lt_part {d : ℕ} (hd : 0 < d) (hsmall : d * v < 2 ^ 49) :
    v * (1 / 2 ^ 49) < 1 / d := by
  rw [lt_div_iff₀ (Nat.cast_pos.2 hd)]
  linarith

/-- **What a few roundings have led to compares as the exact value does** with all other values made
of the same parts. -/
theorem Near.compare_eq (hx : Near b k v x) (hk : k ≤ 10) {d : ℕ} {i j : ℤ} (hd : 0 < d)
    (hv : d * v = i) (hw : d * w = j) (hsmall : d * v < 2 ^ 49) (hne : v ≠ w) :
    compare x.value w = compare v w := by
  have herror := error_lt_part hd hsmall
  obtain ⟨hlow, hhigh⟩ := hx.error hk
  rcases hne.lt_or_gt with hlt | hlt
  · have hapart := parts_apart hd hv hw hlt
    rw [compare_lt_iff_lt.2 hlt, compare_lt_iff_lt]
    linarith
  · have hapart := parts_apart hd hw hv hlt
    rw [compare_gt_iff_gt.2 hlt, compare_gt_iff_gt]
    linarith

/-- **The whole number below what a few roundings have led to.** -/
theorem Near.floor (hx : Near b k v x) (hk : k ≤ 10) {d : ℕ} (hd : 0 < d)
    (hparts : ∃ parts : ℕ, d * v = parts) : NearlyFloored d v ⌊x.value⌋ := by
  obtain ⟨parts, hparts⟩ := hparts
  obtain ⟨hlow, hhigh⟩ := hx.error hk
  refine ⟨?_, ?_, fun hsmall => ?_⟩
  · have := Int.lt_floor_add_one x.value
    linarith
  · exact (Int.floor_le x.value).trans hhigh
  -- The error is less than one part, and whole numbers are made of parts too.
  have hd' : (0 : ℚ) < d := Nat.cast_pos.2 hd
  have herror := error_lt_part hd hsmall
  have hwhole (i : ℤ) : d * (i : ℚ) = (d * i : ℤ) := by push_cast; rfl
  have hfloor := Int.floor_le v
  have htop : ⌊x.value⌋ ≤ ⌊v⌋ := by
    have hapart : v + 1 / d ≤ (⌊v⌋ + 1 : ℤ) :=
      parts_apart hd (mod_cast hparts) (hwhole _) (by exact_mod_cast Int.lt_floor_add_one v)
    exact Int.lt_add_one_iff.1 (Int.floor_lt.2 (by linarith))
  rcases hfloor.eq_or_lt with heq | hlt
  · have hpart : (1 : ℚ) / d ≤ 1 := by
      rw [div_le_one hd']
      exact_mod_cast hd
    have hbottom : ⌊v⌋ - 1 ≤ ⌊x.value⌋ := by
      refine Int.le_floor.2 ?_
      push_cast
      linarith
    rcases htop.eq_or_lt with h | h
    · exact .inl h
    · exact .inr ⟨heq.symm, by omega⟩
  · have hapart : ⌊v⌋ + 1 / d ≤ v := parts_apart hd (hwhole _) (mod_cast hparts) hlt
    exact .inl (le_antisymm htop (Int.le_floor.2 (by linarith)))

end Double

/-! ### Calculating with doubles -/

namespace Quantity

variable {n : ℤ} {x : Double}

theorem toDouble_finite (h : (Double.ofInt n).isFinite = true) :
    toDouble (.whole n) = .ok (Double.ofInt n) := by
  cases hdouble : Double.ofInt n with
  | finite s m e => rw [toDouble, hdouble]
  | _ =>
    rw [hdouble] at h
    cases h

theorem toDouble_large (h : (Double.ofInt n).isFinite = false) :
    toDouble (.whole n) = .error .tooLarge := by
  have hdouble := Double.ofInt_eq n
  rcases Double.rounded_cases (decide (n < 0)) (n.natAbs : ℕ) with hround | ⟨m, e, hround⟩
  · rw [toDouble, hdouble, hround]
  · rw [hdouble, hround] at h
    cases h

theorem mul_real (h : (Double.ofInt n).isFinite = true) (x : Double) :
    mul (.whole n) (.real x) = .ok (.real ((Double.ofInt n).mul x)) := by
  have hwhole := toDouble_finite h
  simp only [mul, combine, hwhole, bind, Except.bind]
  rfl

theorem mul_real_large (h : (Double.ofInt n).isFinite = false) (x : Double) :
    mul (.whole n) (.real x) = .error .tooLarge := by
  have hwhole := toDouble_large h
  simp only [mul, combine, hwhole, bind, Except.bind]

theorem floor_real {k : ℤ} (h : x.floor? = some k) : floor (.real x) = .ok k := by
  simp only [floor, wholeOf, h]

end Quantity

end CardLesson
