/-
# HP in percent

A condition on the HP in percent compares a share that was rounded twice. Rounding is far too small
to carry the share across a percentage that it does not equal, as long as the most HP stay below a
million. A share that equals the percentage depends on this percentage alone: it is the quotient of
the percentage and a hundred, times a hundred, and eight percentages are missed by that.

Key definitions: `percentDrift`.
Key theorems: `hpRatio_whole`, `compare_hpPercent`, `hp_percent_is_exact_iff`.
-/
import CardLesson.Lesson.Standing
import CardLesson.Proofs.Accuracy

namespace CardLesson

open Double

/-- On which side of a percentage its hundredth lies, rounded, times a hundred. -/
def percentDrift (p : ℕ) : Ordering :=
  if p ∈ [7, 14, 28, 55, 56] then .gt else if p ∈ [29, 57, 58] then .lt else .eq

theorem compare_percent : ∀ p < 101,
    ((ofRatio false p 100).mul (ofInt 100)).compare? (.finite false p 0) =
      some (percentDrift p) := by
  decide +kernel

section Share

variable {h m p : ℕ}

theorem isSized_share (hle : h ≤ m) (hpos : 0 < m) (hlt : m < 10 ^ 6) :
    IsSized 20 (h / m : ℚ) := by
  have hm : (0 : ℚ) < m := Nat.cast_pos.2 hpos
  rcases Nat.eq_zero_or_pos h with rfl | hh
  · exact .inl (by rw [Nat.cast_zero, zero_div])
  refine .inr ⟨?_, ?_⟩
  · calc (1 : ℚ) / 2 ^ 20 ≤ 1 / m :=
          one_div_le_one_div_of_le hm (by exact_mod_cast (by omega : m ≤ 2 ^ 20))
      _ ≤ h / m := div_le_div_of_nonneg_right (by exact_mod_cast hh) hm.le
  · calc (h / m : ℚ) ≤ 1 := (div_le_one hm).2 (by exact_mod_cast hle)
      _ ≤ 2 ^ 20 := by norm_num

theorem near_share (hle : h ≤ m) (hpos : 0 < m) (hlt : m < 10 ^ 6) :
    Near 20 1 (h / m) (ofRatio false h m) := by
  rw [ofRatio_eq _ _ hpos]
  exact near_rounded (isSized_share hle hpos hlt) (by norm_num) (by norm_num)
    (by rw [pow_zero, mul_one]) (by rw [pow_zero, mul_one])

theorem value_whole (p : ℕ) : value (.finite false p 0) = p := by
  rw [value_plain, zpow_zero, mul_one]

/-- Shares compare with percentages as whole numbers do. -/
theorem compare_share (hpos : 0 < m) :
    compare ((h / m : ℚ) * 100) p = compare (100 * h) (p * m) := by
  have hm : (0 : ℚ) < m := Nat.cast_pos.2 hpos
  have hshare : (h / m : ℚ) * 100 = (100 * h : ℕ) / m := by
    push_cast
    ring
  have hlt : (h / m : ℚ) * 100 < p ↔ 100 * h < p * m := by
    rw [hshare, div_lt_iff₀ hm]
    exact_mod_cast Iff.rfl
  have hgt : (p : ℚ) < (h / m : ℚ) * 100 ↔ p * m < 100 * h := by
    rw [hshare, lt_div_iff₀ hm]
    exact_mod_cast Iff.rfl
  rcases lt_trichotomy (100 * h) (p * m) with hcase | hcase | hcase
  · rw [compare_lt_iff_lt.2 hcase, compare_lt_iff_lt.2 (hlt.2 hcase)]
  · rw [compare_eq_iff_eq.2 hcase, compare_eq_iff_eq, hshare, hcase, Nat.cast_mul,
      mul_div_cancel_right₀ _ hm.ne']
  · rw [compare_gt_iff_gt.2 hcase, compare_gt_iff_gt.2 (hgt.2 hcase)]

/-- **How a rounded share compares with a percentage**: as the share itself, but that the drift of
the percentage tells where the share equals it. -/
theorem compare_hpPercent (hle : h ≤ m) (hpos : 0 < m) (hlt : m < 10 ^ 6) (hp : p ≤ 100) :
    ((ofRatio false h m).mul (ofInt 100)).compare? (.finite false p 0) =
      some ((compare (100 * h) (p * m)).then (percentDrift p)) := by
  have hm : (m : ℚ) ≠ 0 := Nat.cast_ne_zero.2 hpos.ne'
  by_cases heq : 100 * h = p * m
  · have hshare : (h / m : ℚ) = p / (100 : ℕ) := by
      rw [div_eq_div_iff hm (by norm_num)]
      exact_mod_cast (Nat.mul_comm h 100).trans heq
    rw [ofRatio_eq _ _ hpos, hshare, ← ofRatio_eq _ _ (by norm_num), compare_percent p (by omega),
      compare_eq_iff_eq.2 heq]
    rfl
  · have hnear := (near_share hle hpos hlt).mul near_hundred (by norm_num) (by norm_num)
    have hparts : (m : ℚ) * (h / m * 100) = (100 * h : ℤ) := by
      push_cast
      field_simp
    have hparts' : (m : ℚ) * p = (m * p : ℤ) := by
      push_cast
      rfl
    have hsmall : (m : ℚ) * (h / m * 100) < 2 ^ 49 := by
      rw [hparts]
      exact_mod_cast (by omega : (100 * h : ℤ) < 2 ^ 49)
    have hne : (h / m : ℚ) * 100 ≠ p := by
      rw [Ne, ← compare_eq_iff_eq, compare_share hpos, compare_eq_iff_eq]
      exact heq
    rw [compare?_value hnear.plain.isFinite rfl, value_whole,
      hnear.compare_eq (by norm_num) hpos hparts hparts' hsmall hne, compare_share hpos]
    cases hcompare : compare (100 * h) (p * m) with
    | eq => exact absurd (compare_eq_iff_eq.1 hcompare) heq
    | lt => rfl
    | gt => rfl

end Share

/-! ### Conditions -/

/-- Numbers are compared as the numbers they are. -/
theorem Comparison.holds_number (c : Comparison) (a b : Quantity) :
    c.holds (.number a) (.number b) = .ok (c.accepts (a.compare? b)) := by
  cases c with
  | equal =>
    show Except.ok ((a.compare? b) == some .eq) = _
    rcases a.compare? b with _ | _ | _ | _ <;> rfl
  | _ => rfl

theorem Comparison.accepts_drift_iff (c : Comparison) (o d : Ordering) :
    c.accepts (some (o.then d)) = c.accepts (some o) ↔
      (o = .eq → c.accepts (some d) = c.accepts (some .eq)) := by
  cases o <;> simp [Ordering.then]

section Conditions

variable {l : Lesson} {c : Condition} {h m p : ℕ}

theorem hpRatio_whole (hhp : l.hp = .whole h) (hmax : l.maxHp = .whole m) (hle : h ≤ m)
    (hpos : 0 < m) (hlt : m < 10 ^ 6) : l.hpRatio = .ok (ofRatio false h m) := by
  obtain ⟨n, e, hshare⟩ := (near_share hle hpos hlt).plain
  have hsign (k : ℕ) : decide ((k : ℤ) < 0) = false := decide_eq_false (by omega)
  have hhas : Quantity.lt 0 (.whole m) = true := by
    rw [Quantity.ofNat_eq, Quantity.lt_whole]
    exact decide_eq_true (by exact_mod_cast hpos)
  rw [Lesson.hpRatio, hmax, hhp, if_pos hhas, Quantity.ratio, hsign, hsign, Int.natAbs_natCast,
    Int.natAbs_natCast, bne_self_eq_false, hshare]

/-- **When an HP percentage is judged exactly.** With whole numbers below a million the condition
holds as the integers compare, `100 * hp` with `p * maxHp`, unless these are equal; then the drift
of the percentage decides. So the answer is that of the integers exactly where the drift is none or
the comparison does not see it. -/
theorem hp_percent_is_exact_iff (hhp : l.hp = .whole h) (hmax : l.maxHp = .whole m) (hle : h ≤ m)
    (hpos : 0 < m) (hlt : m < 10 ^ 6) (hkind : c.kind = .known .hpPercent)
    (hvalue : c.value = .whole p) (hp : p ≤ 100) :
    l.meets c =
        .ok (c.compare.accepts (some ((compare (100 * h) (p * m)).then (percentDrift p)))) ∧
      (l.meets c = .ok (c.compare.accepts (some (compare (100 * h) (p * m)))) ↔
        (100 * h = p * m →
          c.compare.accepts (some (percentDrift p)) = c.compare.accepts (some .eq))) := by
  have hmeets : l.meets c =
      .ok (c.compare.accepts (some ((compare (100 * h) (p * m)).then (percentDrift p)))) := by
    have hmeasure : l.measure c .hpPercent =
        .ok (.number (.real ((ofRatio false h m).mul (ofInt 100)))) := by
      rw [Lesson.measure, hpRatio_whole hhp hmax hle hpos hlt]
      rfl
    have hmeets : l.meets c = c.compare.holds
        (.number (.real ((ofRatio false h m).mul (ofInt 100)))) c.value := by
      simp only [Lesson.meets, hkind, Tag.key, hmeasure, bind, Except.bind]
    rw [hmeets, hvalue, Comparison.holds_number, Quantity.compare?, Quantity.unrounded,
      Quantity.unrounded, decide_eq_false (by omega), Int.natAbs_natCast,
      compare_hpPercent hle hpos hlt hp]
  refine ⟨hmeets, ?_⟩
  rw [hmeets, Except.ok.injEq, Comparison.accepts_drift_iff, compare_eq_iff_eq]

end Conditions

/-- A lesson with a share of a hundred HP. -/
def hpOfHundred (h : ℕ) : Lesson := { hp := .whole h, maxHp := .whole 100 }

/-- A condition for at least so many percent of the HP. -/
def hpAtLeast (p : ℕ) : Condition := { kind := .known .hpPercent, value := .whole p }

theorem half_of_hp_is_exact : 50 ≤ 100 ∧ 0 < 100 ∧ 100 < 10 ^ 6 ∧
    (hpOfHundred 50).meets (hpAtLeast 50) =
      .ok ((hpAtLeast 50).compare.accepts (some (compare (100 * 50) (50 * 100)))) :=
  ⟨by decide, by decide, by decide,
    (hp_percent_is_exact_iff (l := hpOfHundred 50) (c := hpAtLeast 50) (h := 50) (m := 100)
      (p := 50) rfl rfl (by decide) (by decide) (by decide) rfl rfl (by decide)).2.2
      fun _ => by decide⟩

/-- With 29 of 100 HP a lesson does not have 29 percent: 0.29 times a hundred is a little less in
doubles. -/
theorem twenty_nine_percent_is_missed :
    (hpOfHundred 29).meets (hpAtLeast 29) = .ok false ∧
      (hpAtLeast 29).compare.accepts (some (compare (100 * 29) (29 * 100))) = true :=
  ⟨rfl, by decide⟩

end CardLesson
