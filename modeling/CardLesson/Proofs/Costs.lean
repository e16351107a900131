/-
# Costs as they are specified

The specified cost of a card is its own cost less all flat reductions and plus all flat increases,
halved with a cost reduction, doubled with a double cost, and only then cut off at zero. What is
computed is cut off before the increases too, so an increase counts in full although reductions are
left over. Halving goes through doubles, which is exact below `2 ^ 53`. Values count by their sum,
so the order of the buffs does not matter.

Key definitions: `Datum.points`, `Datum.isCounted`, `totalPoints`, `modifiedCost`, `flatCost`,
`specifiedCost`.
Key theorems: `sumValues_counted`, `floor_half`, `actualCost_eq`, `modifiedCost_eq_iff`,
`cost_is_specified_iff`.
-/
import CardLesson.Lesson.Cost
import CardLesson.Proofs.Accuracy

namespace CardLesson

/-! ### Sums of values -/

/-- The whole number that a value gives; zero when it gives none. -/
def Datum.points : Datum → ℤ
  | .number (.whole n) => n
  | _ => 0

/-- Whether a value is missing or a whole number. -/
def Datum.isCounted : Datum → Bool
  | .null => true
  | .number (.whole _) => true
  | _ => false

theorem Datum.quantity_counted {d : Datum} (h : d.isCounted = true) :
    (d.orElse (.whole 0)).quantity = .ok (.whole d.points) := by
  match d, h with
  | .null, _ => rfl
  | .number (.whole n), _ =>
    by_cases hn : n = 0
    · subst hn
      rfl
    · have hholds : (Datum.whole n).holds = true := by
        simp [holds, hn]
      rw [orElse, if_pos hholds]
      rfl

/-- The sum of what the values of some buffs give. -/
def totalPoints (buffs : List Buff) : ℤ := (buffs.map (·.value.points)).sum

theorem sumValues_counted {buffs : List Buff} (h : ∀ b ∈ buffs, b.value.isCounted = true) :
    Lesson.sumValues buffs = .ok (.whole (totalPoints buffs)) := by
  suffices hsum : ∀ start : ℤ, buffs.foldlM
      (fun total b => do total.add (← (b.value.orElse (.whole 0)).quantity))
      (Quantity.whole start) = (.ok (.whole (start + totalPoints buffs)) : Except Fault Quantity) by
    rw [Lesson.sumValues, Quantity.ofNat_eq, hsum]
    exact congrArg (Except.ok ∘ Quantity.whole) (zero_add _)
  induction buffs with
  | nil => exact fun start => congrArg (Except.ok ∘ Quantity.whole) (add_zero start).symm
  | cons b rest ih =>
    rw [List.forall_mem_cons] at h
    intro start
    rw [List.foldlM_cons, Datum.quantity_counted h.1]
    calc _ = (.ok (.whole (start + b.value.points + totalPoints rest)) : Except Fault Quantity) :=
          ih h.2 (start + b.value.points)
      _ = _ := by rw [totalPoints, totalPoints, List.map_cons, List.sum_cons, add_assoc]

theorem totalPoints_perm {buffs buffs' : List Buff} (h : buffs.Perm buffs') :
    totalPoints buffs = totalPoints buffs' := (h.map _).sum_eq

/-! ### Halving through doubles -/

namespace Double

variable {s : Bool} {m : ℕ} {e n : ℤ} {x : ℚ}

theorem value_signed (s : Bool) (m : ℕ) (e : ℤ) :
    value (.finite s m e) = (if s then -1 else 1) * (m * 2 ^ e) := by
  cases s <;> simp [value, signed]

/-- What is one at least is rounded to few binary places. -/
theorem rounded_exponent (hx : 1 ≤ x) (h : rounded s x = .finite s m e) : -52 ≤ e := by
  have hpos : 0 < x := lt_of_lt_of_le one_pos hx
  have hlog : 0 ≤ Int.log 2 x := (Int.zpow_le_iff_le_log one_lt_two hpos).1 (by rwa [zpow_zero])
  have hstep : -52 ≤ exponentOf x := by unfold exponentOf; omega
  rw [rounded_of_pos hpos, pack_eq] at h
  split_ifs at h <;> cases h <;> omega

/-- Halving what a value from one on was rounded to is exact. -/
theorem half_rounded (hx : 1 ≤ x) (h : rounded s x = .finite s m e) :
    ∃ m' e', mul (.finite s m e) Balance.costReductionRate = .finite s m' e' ∧
      value (.finite s m' e') = value (.finite s m e) / 2 := by
  have hrate : Balance.costReductionRate = .finite false (2 ^ 52) (-53) := by decide +kernel
  have hhalf : m * 2 ^ e * ((2 ^ 52 : ℕ) * 2 ^ (-53 : ℤ)) = (m * 2 ^ (e - 1) : ℚ) := by
    rw [zpow_sub_one₀ two_ne_zero]
    norm_num
    ring
  have hlow := rounded_exponent hx h
  have hfits : m < 2 ^ 53 ∧ e ≤ 971 := by
    rcases rounded_standard (s := s) (zero_le_one.trans hx) with hinf | hstandard
    · cases h.symm.trans hinf
    · rw [h] at hstandard
      exact (of_decide_eq_true hstandard).elim (fun h => ⟨by omega, by omega⟩)
        fun h => ⟨h.lt, h.greatest⟩
  obtain ⟨m', e', hround, hvalue⟩ :=
    rounded_exact (s := s) hfits.1 (e := e - 1) (by omega) (by omega)
  refine ⟨m', e', ?_, ?_⟩
  · rw [hrate, mul_finite, hhalf, Bool.bne_false, hround]
  · rw [value_signed, hvalue, value_signed, zpow_sub_one₀ two_ne_zero]
    ring

theorem floor_half (h : (ofInt n).isFinite = true) :
    ((ofInt n).mul Balance.costReductionRate).floor? = some ⌊(ofInt n).value / 2⌋ := by
  by_cases hzero : n = 0
  · subst hzero
    decide +kernel
  have hone : (1 : ℚ) ≤ (n.natAbs : ℕ) := by exact_mod_cast Int.natAbs_pos.2 hzero
  rcases rounded_cases (decide (n < 0)) (n.natAbs : ℕ) with hround | ⟨m, e, hround⟩
  · rw [ofInt_eq, hround] at h
    cases h
  · obtain ⟨m', e', hmul, hvalue⟩ := half_rounded hone hround
    rw [ofInt_eq, hround, hmul, floor?_value rfl, hvalue]

/-- A whole number that a mantissa can hold is its own double. -/
theorem value_ofInt (h : n.natAbs < 2 ^ 53) :
    (ofInt n).isFinite = true ∧ (ofInt n).value = n := by
  obtain ⟨m, e, hround, hvalue⟩ :=
    rounded_exact (s := decide (n < 0)) h (e := 0) (by norm_num) (by norm_num)
  rw [zpow_zero, mul_one] at hround hvalue
  rw [ofInt_eq, hround]
  refine ⟨rfl, ?_⟩
  rw [value_signed, hvalue]
  split
  · next hneg =>
    have := Int.ofNat_natAbs_of_nonpos (of_decide_eq_true hneg).le
    rw [← Int.cast_natCast (R := ℚ), this]
    push_cast
    ring
  · next hneg =>
    have := Int.natAbs_of_nonneg (not_lt.1 (of_decide_eq_false (Bool.eq_false_of_not_eq_true hneg)))
    rw [one_mul, ← Int.cast_natCast (R := ℚ), this]

end Double

/-! ### The cost of a card -/

section Cost

variable {card : Card} {buffs buffs' : List Buff}

/-- What is taken off a cost. -/
def totalReduction (buffs : List Buff) : ℤ := totalPoints (buffs.filter (·.is .reduceHpCost))

/-- What is put on a cost. -/
def totalIncrease (buffs : List Buff) : ℤ := totalPoints (buffs.filter (·.is .costIncrease))

/-- A cost with its flat changes, halved and doubled as the buffs say, and never below zero. -/
def modifiedCost (half : ℤ → ℤ) (buffs : List Buff) (flat : ℤ) : ℤ :=
  let cost := if buffs.any (·.is .costReduction) then half flat else flat
  max 0 (if buffs.any (·.is .doubleCost) then 2 * cost else cost)

/-- The cost with its flat changes as it is computed: cut off before the increases. -/
def flatCost (card : Card) (buffs : List Buff) : ℤ :=
  max 0 (card.cost - totalReduction buffs) + totalIncrease buffs

/-- The cost as it is specified: cut off at the end only. -/
def specifiedCost (card : Card) (buffs : List Buff) : ℤ :=
  modifiedCost (· / 2) buffs (card.cost - totalReduction buffs + totalIncrease buffs)

/-- Half of the double that a whole number is rounded to, rounded down. -/
def roundedHalf (n : ℤ) : ℤ := ⌊(Double.ofInt n).value / 2⌋

theorem roundedHalf_eq {n : ℤ} (h : n.natAbs < 2 ^ 53) : roundedHalf n = n / 2 := by
  rw [roundedHalf, (Double.value_ofInt h).2]
  exact Rat.floor_intCast_div_natCast n 2

/-- Whether the flat changes of a cost can be summed up. -/
def IsCountable (buffs : List Buff) : Prop :=
  ∀ b ∈ buffs, b.is .reduceHpCost = true ∨ b.is .costIncrease = true → b.value.isCounted = true

instance (buffs : List Buff) : Decidable (IsCountable buffs) :=
  inferInstanceAs (Decidable (∀ b ∈ buffs, _))

/-- **The cost of a card**, halved through doubles; what is past all doubles cannot be halved. -/
theorem actualCost_eq (h : IsCountable buffs) : actualCost card buffs =
    if buffs.any (·.is .costReduction) = true ∧
        (Double.ofInt (flatCost card buffs)).isFinite = false then .error .tooLarge
    else .ok (modifiedCost roundedHalf buffs (flatCost card buffs)) := by
  have hreduction : Lesson.sumValues (buffs.filter (·.is .reduceHpCost)) =
      .ok (.whole (totalReduction buffs)) := sumValues_counted fun b hb =>
    h b (List.mem_filter.1 hb).1 (.inl (List.mem_filter.1 hb).2)
  have hincrease : Lesson.sumValues (buffs.filter (·.is .costIncrease)) =
      .ok (.whole (totalIncrease buffs)) := sumValues_counted fun b hb =>
    h b (List.mem_filter.1 hb).1 (.inr (List.mem_filter.1 hb).2)
  have hflat : (Quantity.larger 0 (.whole (card.cost - totalReduction buffs))).add
      (.whole (totalIncrease buffs)) = .ok (.whole (flatCost card buffs)) := by
    rw [Quantity.ofNat_eq, Quantity.larger_whole]
    rfl
  have hdouble (n : ℤ) : Quantity.mul (.whole n) (.whole Balance.doubleCostRate) =
      .ok (.whole (2 * n)) := congrArg (Except.ok ∘ Quantity.whole) (mul_comm n 2)
  rw [actualCost, hreduction, hincrease, modifiedCost]
  simp only [bind, Except.bind, pure, Except.pure, Quantity.sub_whole, hflat]
  cases buffs.any (·.is .costReduction) with
  | false =>
    simp only [Bool.false_eq_true, if_false, false_and]
    cases buffs.any (·.is .doubleCost) with
    | false => rfl
    | true =>
      simp only [if_true, hdouble]
      rfl
  | true =>
    rw [if_pos rfl]
    cases hfinite : (Double.ofInt (flatCost card buffs)).isFinite with
    | false =>
      rw [Quantity.mul_real_large hfinite, if_pos ⟨rfl, rfl⟩]
    | true =>
      have hfloor := Quantity.floor_real (Double.floor_half hfinite)
      rw [Quantity.mul_real hfinite, if_neg (by decide), if_pos rfl]
      simp only [hfloor]
      cases buffs.any (·.is .doubleCost) with
      | false => rfl
      | true =>
        simp only [if_true, hdouble]
        rfl

/-- A cost with other flat changes is the same when these do not matter. -/
theorem modifiedCost_eq_iff (buffs : List Buff) (cost reduction increase : ℤ) :
    modifiedCost (· / 2) buffs (max 0 (cost - reduction) + increase) =
        modifiedCost (· / 2) buffs (cost - reduction + increase) ↔
      reduction ≤ cost ∨ increase ≤ 0 ∨ buffs.any (·.is .costReduction) = true ∧
        (increase = 1 ∨ cost + 1 = reduction ∧ increase % 2 = 1) := by
  unfold modifiedCost
  cases buffs.any (·.is .costReduction) <;> cases buffs.any (·.is .doubleCost) <;>
    simp only [Bool.false_eq_true, if_true, if_false, false_and, true_and, or_false] <;> omega

theorem actualCost_perm (h : IsCountable buffs) (hperm : buffs.Perm buffs') :
    actualCost card buffs' = actualCost card buffs := by
  have h' : IsCountable buffs' := fun b hb => h b (hperm.mem_iff.2 hb)
  have hany (k : EffectKind) : buffs'.any (·.is k) = buffs.any (·.is k) := hperm.any_eq.symm
  have htotal (k : EffectKind) : totalPoints (buffs'.filter (·.is k)) =
      totalPoints (buffs.filter (·.is k)) := (totalPoints_perm (hperm.filter _)).symm
  have hflat : flatCost card buffs' = flatCost card buffs := by
    rw [flatCost, flatCost, totalReduction, totalReduction, totalIncrease, totalIncrease, htotal,
      htotal]
  rw [actualCost_eq h, actualCost_eq h', modifiedCost, modifiedCost, hflat, hany, hany]

/-- **When a cost is as it is specified.** For values that are whole numbers the cost is that of
`modifiedCost` for the flat cost that is cut off before the increases; it does not depend on the
order of the buffs and is never below zero. Below `2 ^ 53` it is the specified one exactly where no
more is taken off than there is, or nothing is put on, or halving hides the difference. -/
theorem cost_is_specified_iff (h : IsCountable buffs) :
    (actualCost card buffs =
      if buffs.any (·.is .costReduction) = true ∧
          (Double.ofInt (flatCost card buffs)).isFinite = false then .error .tooLarge
      else .ok (modifiedCost roundedHalf buffs (flatCost card buffs))) ∧
    (∀ n, actualCost card buffs = .ok n → 0 ≤ n) ∧
    (∀ buffs', buffs.Perm buffs' → actualCost card buffs' = actualCost card buffs) ∧
    ((buffs.any (·.is .costReduction) = true → (flatCost card buffs).natAbs < 2 ^ 53) →
      (actualCost card buffs = .ok (specifiedCost card buffs) ↔
        totalReduction buffs ≤ card.cost ∨ totalIncrease buffs ≤ 0 ∨
          buffs.any (·.is .costReduction) = true ∧ (totalIncrease buffs = 1 ∨
            card.cost + 1 = totalReduction buffs ∧ totalIncrease buffs % 2 = 1))) := by
  have hcost := @actualCost_eq card buffs h
  refine ⟨hcost, fun n hn => ?_, fun buffs' => actualCost_perm h, fun hsize => ?_⟩
  · rw [hcost] at hn
    split at hn
    · cases hn
    · cases hn
      exact le_max_left 0 _
  · have hspecified : actualCost card buffs =
        .ok (modifiedCost (· / 2) buffs (flatCost card buffs)) := by
      by_cases hhalves : buffs.any (·.is .costReduction) = true
      · have hsmall := hsize hhalves
        rw [hcost, (Double.value_ofInt hsmall).1, if_neg (fun h => Bool.noConfusion h.2),
          modifiedCost, modifiedCost, roundedHalf_eq hsmall]
      · rw [hcost, if_neg (fun h => hhalves h.1), modifiedCost, modifiedCost, if_neg hhalves,
          if_neg hhalves]
    rw [hspecified, Except.ok.injEq, specifiedCost, flatCost, modifiedCost_eq_iff]

end Cost

/-- A card with only a cost. -/
def plainCard (cost : ℤ) : Card := { id := .text "c", name := .text "C", cost }

/-- A buff of a kind and value. -/
def plainBuff (k : EffectKind) (value : Datum) : Buff :=
  { id := "", kind := .known k, duration := .whole 1, name := "", value }

theorem reduced_cost_is_specified :
    IsCountable [plainBuff .reduceHpCost (.whole 3), plainBuff .costReduction .null] ∧
      actualCost (plainCard 10)
          [plainBuff .reduceHpCost (.whole 3), plainBuff .costReduction .null] =
        .ok (specifiedCost (plainCard 10)
          [plainBuff .reduceHpCost (.whole 3), plainBuff .costReduction .null]) :=
  have h : IsCountable [plainBuff .reduceHpCost (.whole 3), plainBuff .costReduction .null] := by
    decide
  ⟨h, ((cost_is_specified_iff h).2.2.2 fun _ => by decide).2 (.inl (by decide))⟩

/-- Two points of a reduction of five are all a cost of two has, so four more cost four, not one. -/
theorem left_over_reduction_is_lost :
    IsCountable [plainBuff .reduceHpCost (.whole 5), plainBuff .costIncrease (.whole 4)] ∧
      actualCost (plainCard 2)
          [plainBuff .reduceHpCost (.whole 5), plainBuff .costIncrease (.whole 4)] = .ok 4 ∧
      specifiedCost (plainCard 2)
          [plainBuff .reduceHpCost (.whole 5), plainBuff .costIncrease (.whole 4)] = 1 :=
  ⟨by decide, rfl, by decide⟩

end CardLesson
