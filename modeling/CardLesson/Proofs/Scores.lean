/-
# Scores and gains, up to rounding

A fixed score is the floor of a product of doubles, and so is a gain of good impression. Ten
roundings at most lie between the product and the exact one, so what is added is the floor of the
exact product, but that one less is added where that product is whole and the doubles fell short of
it. Percentages in quarters are doubles themselves, and with these nothing is lost.

Key definitions: `percentFactor`, `Lesson.conditionFactor`, `Lesson.exactScore`, `exactGain`.
Key theorems: `near_percentFactor`, `near_score`, `scoreFixed_whole`, `near_gain`,
`gainImpression_whole`, `gains_are_nearly_floored`.
-/
import CardLesson.Proofs.Costs
import CardLesson.Proofs.NumberText
import CardLesson.Proofs.Steps

namespace CardLesson

open Double

/-! ### Percentages -/

/-- One and a number of hundredths, calculated with doubles. -/
def percentFactor (n : ℕ) : Double := Double.add .one ((ofInt n).div (ofInt 100))

section Percent

variable {n t b : ℕ}

theorem near_percentFactor (hn : n ≤ 2 ^ b) (hb : b ≤ 900) :
    Near (b + 8) 3 (1 + n / 100) (percentFactor n) :=
  ((near_ofInt_large hn (by omega)).div_hundred (by omega) (by norm_num)).one_add (by omega)
    (by norm_num)

theorem onePlusPercent_whole (hn : n ≤ 2 ^ b) (hb : b ≤ 900) :
    onePlusPercent (.whole n) = .ok (percentFactor n) := by
  have hdouble := Quantity.toDouble_finite (n := n)
    (near_ofInt_large hn (by omega)).plain.isFinite
  rw [onePlusPercent, hdouble]
  rfl

/-- A percentage in quarters is not rounded. -/
theorem percentFactor_quarters (hn : 25 * t ≤ 2 ^ b) (hlt : 25 * t < 2 ^ 53) :
    Near (b + 8) 0 (1 + (25 * t : ℕ) / 100) (percentFactor (25 * t)) := by
  have hwhole := near_ofInt hn hlt
  have hquarter : ((25 * t : ℕ) / 100 : ℚ) = t / 2 ^ 2 := by
    push_cast
    ring
  have hshare : Near (b + 7) 0 ((25 * t : ℕ) / 100) ((ofInt (25 * t : ℕ)).div (ofInt 100)) := by
    rw [div_hundred_eq hwhole.plain, hwhole.exact]
    exact near_short hwhole.sized.div_hundred ⟨t, 2, by omega, by norm_num, hquarter⟩
  rw [percentFactor, one_add_eq hshare.plain, hshare.exact]
  refine near_short hshare.sized.one_add ⟨4 + t, 2, by omega, by norm_num, ?_⟩
  rw [hquarter]
  push_cast
  ring

end Percent

/-! ### Scores -/

/-- What the player's condition multiplies scores by, as a fraction. -/
def Lesson.conditionFactor (l : Lesson) : ℚ :=
  if l.hasBuff .doubleStrike then 2 else if l.hasBuff .perfectCondition then 3 / 2 else 1

/-- The score that a base value comes to without rounding. -/
def Lesson.exactScore (l : Lesson) (base stat bonus : ℕ) : ℚ :=
  base * (l.conditionFactor * (1 + stat / 100) * (1 + bonus / 100))

section Score

variable {l : Lesson} {base stat bonus b : ℕ}

theorem conditionFactor_halves (l : Lesson) :
    ∃ c : ℕ, 2 ≤ c ∧ c ≤ 4 ∧ l.conditionFactor = c / 2 := by
  unfold Lesson.conditionFactor
  split
  · exact ⟨4, by norm_num, le_rfl, by norm_num⟩
  split
  · exact ⟨3, by norm_num, by norm_num, by norm_num⟩
  · exact ⟨2, le_rfl, by norm_num, by norm_num⟩

theorem near_conditionMultiplier (l : Lesson) :
    Near 1 0 l.conditionFactor l.conditionMultiplier := by
  obtain ⟨c, hlow, hhigh, hhalves⟩ := conditionFactor_halves l
  have hsized : IsSized 1 l.conditionFactor := by
    have hc : (2 : ℚ) ≤ c := by exact_mod_cast hlow
    have hc' : (c : ℚ) ≤ 4 := by exact_mod_cast hhigh
    exact .inr ⟨by rw [hhalves]; linarith, by rw [hhalves]; linarith⟩
  have hrounded : l.conditionMultiplier = rounded false l.conditionFactor := by
    unfold Lesson.conditionMultiplier Lesson.conditionFactor
    split
    · exact (ofRatio_eq _ _ one_pos).trans (by norm_num)
    split
    · exact (ofRatio_eq _ _ two_pos).trans (by norm_num)
    · exact (ofInt_eq 1).trans (by norm_num)
  rw [hrounded]
  exact near_short hsized ⟨c, 1, by omega, by norm_num, by rw [hhalves, pow_one]⟩

/-- **What scores are multiplied by**: nine roundings lead to it. -/
theorem near_multiplier (hstat : stat ≤ 2 ^ 200) (hbonus : bonus ≤ 2 ^ 200) :
    Near 417 8 (l.conditionFactor * (1 + stat / 100) * (1 + bonus / 100))
      ((l.conditionMultiplier.mul (percentFactor stat)).mul (percentFactor bonus)) :=
  ((near_conditionMultiplier l).mul (near_percentFactor hstat (by norm_num)) (by norm_num)
    (by norm_num)).mul (near_percentFactor hbonus (by norm_num)) (by norm_num) (by norm_num)

theorem near_score (hbase : base ≤ 2 ^ 200) (hstat : stat ≤ 2 ^ 200) (hbonus : bonus ≤ 2 ^ 200) :
    Near 617 10 (l.exactScore base stat bonus) ((ofInt base).mul
      ((l.conditionMultiplier.mul (percentFactor stat)).mul (percentFactor bonus))) :=
  (near_ofInt_large hbase (by norm_num)).mul (near_multiplier hstat hbonus) (by norm_num)
    (by norm_num)

theorem exactScore_parts (l : Lesson) (base stat bonus : ℕ) :
    ∃ parts : ℕ, (20000 : ℕ) * l.exactScore base stat bonus = parts := by
  obtain ⟨c, -, -, hhalves⟩ := conditionFactor_halves l
  refine ⟨base * (c * (100 + stat) * (100 + bonus)), ?_⟩
  rw [Lesson.exactScore, hhalves]
  push_cast
  ring

/-- With percentages in quarters a score that is not too large is not rounded before its floor. -/
theorem score_quarters {s t : ℕ} (hbase : 0 < base)
    (hlt : l.exactScore base (25 * s) (25 * t) < 2 ^ 46) :
    ((ofInt base).mul ((l.conditionMultiplier.mul (percentFactor (25 * s))).mul
      (percentFactor (25 * t)))).value = l.exactScore base (25 * s) (25 * t) := by
  obtain ⟨c, hlow, -, hhalves⟩ := conditionFactor_halves l
  have hparts : l.exactScore base (25 * s) (25 * t) =
      (base * (c * (4 + s) * (4 + t)) : ℕ) / 2 ^ 5 := by
    rw [Lesson.exactScore, hhalves]
    push_cast
    ring
  have hall : base * (c * (4 + s) * (4 + t)) < 2 ^ 51 := by
    rw [hparts, div_lt_iff₀ (by norm_num)] at hlt
    have hlt : ((base * (c * (4 + s) * (4 + t)) : ℕ) : ℚ) < (2 ^ 51 : ℕ) :=
      hlt.trans_eq (by norm_num)
    exact_mod_cast hlt
  -- No factor of the product is larger than it.
  have hfactors : c * (4 + s) * (4 + t) < 2 ^ 51 := (Nat.le_mul_of_pos_left _ hbase).trans_lt hall
  have hleft : c * (4 + s) * 4 < 2 ^ 51 := (Nat.mul_le_mul_left _ (by omega)).trans_lt hfactors
  have hs : 2 * (4 + s) ≤ c * (4 + s) := Nat.mul_le_mul_right _ hlow
  have ht : 8 * (4 + t) < 2 ^ 51 :=
    (Nat.mul_le_mul_right _ (Nat.mul_le_mul hlow (by omega : 4 ≤ 4 + s))).trans_lt hfactors
  have hpos : 0 < c * (4 + s) * (4 + t) :=
    Nat.mul_pos (Nat.mul_pos (by omega) (by omega)) (by omega)
  have hbase' : base < 2 ^ 51 := (Nat.le_mul_of_pos_right _ hpos).trans_lt hall
  have hstat := percentFactor_quarters (t := s) (b := 53) (by omega) (by omega)
  have hbonus := percentFactor_quarters (t := t) (b := 53) (by omega) (by omega)
  have hfirst := (near_conditionMultiplier l).mul_short hstat
    ⟨c * (4 + s), 3, by omega, by norm_num, by rw [hhalves]; push_cast; ring⟩
  have hsecond := hfirst.mul_short hbonus
    ⟨c * (4 + s) * (4 + t), 5, by omega, by norm_num, by rw [hhalves]; push_cast; ring⟩
  have hwhole : Near 53 0 base (ofInt base) := near_ofInt (by omega) (by omega)
  exact (hwhole.mul_short hsecond ⟨_, 5, by omega, by norm_num, hparts⟩).exact

/-! ### Figures -/

/-- A whole number of the size of a double can be put into a line. -/
theorem printWhole_of_le {n : ℤ} {b : ℕ} (hb : b < figureLimit) (hle : n.natAbs ≤ 2 ^ b) :
    printWhole n = .ok (toString n) := by
  refine if_pos (Json.isPrintable_of_lt ?_)
  calc n.natAbs ≤ 2 ^ b := hle
    _ ≤ 10 ^ b := Nat.pow_le_pow_left (by norm_num) b
    _ < 10 ^ figureLimit := Nat.pow_lt_pow_right (by norm_num) hb

theorem floor_printed {b k : ℕ} {v : ℚ} {x : Double} (hx : Near b k v x) (hk : k ≤ 10)
    (hb : b + 1 < figureLimit) : printWhole ⌊x.value⌋ = .ok (toString ⌊x.value⌋) := by
  have hnonneg : 0 ≤ ⌊x.value⌋ := Int.floor_nonneg.2 hx.plain.value_nonneg
  have hle : ⌊x.value⌋ ≤ (2 ^ (b + 1) : ℕ) := by
    exact_mod_cast (Int.floor_le x.value).trans (hx.value_le hk)
  exact printWhole_of_le hb (by omega)

/-- The sum of the values of the buffs of a kind, of those with a parameter when one is given. -/
def Lesson.pointsOf (l : Lesson) (k : EffectKind) (param : Option Datum := none) : ℤ :=
  totalPoints (l.buffs.filter fun b => b.is k && param.all fun p => b.param.same p)

theorem sumBuffs_counted {k : EffectKind}
    (h : ∀ b ∈ l.buffs, b.is k = true → b.value.isCounted = true) (param : Option Datum := none) :
    l.sumBuffs k param = .ok (.whole (l.pointsOf k param)) :=
  sumValues_counted fun b hb => by
    obtain ⟨hmem, hkind⟩ := List.mem_filter.1 hb
    exact h b hmem (Bool.and_eq_true_iff.1 hkind).1

theorem scoreMultiplier_whole (hstat : l.statValue = .whole stat) (hstat' : stat ≤ 2 ^ 200)
    (hcounted : ∀ b ∈ l.buffs, b.is .scoreBonus = true → b.value.isCounted = true)
    (hbonus : l.pointsOf .scoreBonus = bonus) (hbonus' : bonus ≤ 2 ^ 200) :
    l.scoreMultiplier =
      .ok ((l.conditionMultiplier.mul (percentFactor stat)).mul (percentFactor bonus)) := by
  rw [Lesson.scoreMultiplier, hstat, onePlusPercent_whole hstat' (by norm_num),
    sumBuffs_counted hcounted, hbonus]
  simp only [bind, Except.bind, onePlusPercent_whole hbonus' (by norm_num : 200 ≤ 900)]
  rfl

/-- A whole number times one, with doubles, is itself. -/
theorem floor_mul_one {n : ℕ} (hn : n < 2 ^ 53) :
    ∃ q, Quantity.mul (.whole n) (.real .one) = .ok q ∧ q.floor = .ok (n : ℤ) := by
  have hwhole : Near 53 0 n (ofInt n) := near_ofInt (by omega) hn
  have hproduct := hwhole.mul_short near_one ⟨n, 0, hn, by norm_num, by norm_num⟩
  refine ⟨_, Quantity.mul_real hwhole.plain.isFinite _, Quantity.floor_real ?_⟩
  rw [floor?_value hproduct.plain.isFinite, hproduct.exact, mul_one]
  exact congrArg some (Int.floor_natCast n)

/-- **What a fixed score adds**: the floor of the product that doubles come to. -/
theorem scoreFixed_whole {op : Operation} {score amount : ℤ} {focus value : ℕ}
    (hscore : l.score = .whole score) (hfocus : l.concentration = .whole focus)
    (hfocus' : focus < 2 ^ 53) (hvalue : op.value = .whole value) (hvalue' : value < 2 ^ 53)
    (hmultiplier : op.multiplier = .null) {x : Double} (hfactor : l.scoreMultiplier = .ok x)
    (hfloor : ((ofInt (value + focus : ℕ)).mul x).floor? = some amount)
    (hfigures : printWhole amount = .ok (toString amount)) :
    scoreFixed l op =
      .ok (.changed { l with score := .whole (score + amount) } s!"Score +{amount}") := by
  have hbase : Near 200 1 (value + focus : ℕ) (ofInt (value + focus : ℕ)) :=
    near_ofInt_large (by omega) (by norm_num)
  have hbonus : l.concentration.mul (.whole Balance.concentrationScoreBonusPerStack) =
      .ok (.whole focus) := by
    rw [hfocus]
    exact congrArg (Except.ok ∘ Quantity.whole) (mul_one _)
  have hone : (op.multiplier.given (.number (.real .one))).quantity = .ok (.real .one) := by
    rw [hmultiplier]
    rfl
  have hgiven : (op.value.given (.whole 0)).quantity = .ok (.whole value) := by
    rw [hvalue]
    rfl
  obtain ⟨q, hq, hstacks⟩ := floor_mul_one hfocus'
  have hamount := Quantity.floor_real hfloor
  have hproduct := Quantity.mul_real hbase.plain.isFinite x
  rw [Nat.cast_add] at hproduct hamount
  simp only [scoreFixed, Lesson.addScore, bind, Except.bind, hbonus, hone, hq, hstacks, hgiven,
    Quantity.add_whole, hfactor, hproduct, hamount, hscore, amountLine, hfigures]
  rfl

end Score

/-! ### Gains of good impression -/

/-- The gain that a base value comes to without rounding. -/
def exactGain (base gain : ℕ) : ℚ := base * (1 + gain / 100)

section Gain

variable {l : Lesson} {base gain : ℕ}

theorem near_gain (hbase : base ≤ 2 ^ 201) (hgain : gain ≤ 2 ^ 200) :
    Near 409 5 (exactGain base gain) ((ofInt base).mul (percentFactor gain)) :=
  (near_ofInt_large hbase (by norm_num)).mul (near_percentFactor hgain (by norm_num)) (by norm_num)
    (by norm_num)

theorem exactGain_parts (base gain : ℕ) :
    ∃ parts : ℕ, (100 : ℕ) * exactGain base gain = parts := by
  refine ⟨base * (100 + gain), ?_⟩
  rw [exactGain]
  push_cast
  ring

/-- With a percentage in quarters a gain that is not too large is not rounded before its floor. -/
theorem gain_quarters {t : ℕ} (hbase : 0 < base) (hlt : exactGain base (25 * t) < 2 ^ 46) :
    ((ofInt base).mul (percentFactor (25 * t))).value = exactGain base (25 * t) := by
  have hparts : exactGain base (25 * t) = (base * (4 + t) : ℕ) / 2 ^ 2 := by
    rw [exactGain]
    push_cast
    ring
  have hall : base * (4 + t) < 2 ^ 48 := by
    rw [hparts, div_lt_iff₀ (by norm_num)] at hlt
    have hlt : ((base * (4 + t) : ℕ) : ℚ) < (2 ^ 48 : ℕ) := hlt.trans_eq (by norm_num)
    exact_mod_cast hlt
  have ht : 4 + t < 2 ^ 48 := (Nat.le_mul_of_pos_left _ hbase).trans_lt hall
  have hbase' : base < 2 ^ 48 := (Nat.le_mul_of_pos_right _ (by omega)).trans_lt hall
  have hpercent := percentFactor_quarters (t := t) (b := 53) (by omega) (by omega)
  have hwhole : Near 53 0 base (ofInt base) := near_ofInt (by omega) (by omega)
  exact (hwhole.mul_short hpercent ⟨_, 2, by omega, by norm_num, hparts⟩).exact

theorem nearestWhole_printed (s : Bool) {m b : ℕ} {e : ℤ} (hb : b < figureLimit)
    (hle : m * 2 ^ e ≤ (2 : ℚ) ^ b) :
    ∃ n, (Quantity.real (.finite s m e)).nearestWhole = .ok n ∧
      printWhole n = .ok (toString n) := by
  refine ⟨_, rfl, printWhole_of_le hb ?_⟩
  have hsigned : ∀ (t : Bool) (k : ℕ), (signed t k).natAbs = k := fun t k => by
    cases t <;> simp [signed]
  have hvalue : ((m * Nat.pow 2 e.toNat : ℕ) : ℚ) / (Nat.pow 2 (-e).toNat : ℕ) = m * 2 ^ e :=
    scaled_value false m e
  have hpos : 0 < Nat.pow 2 (-e).toNat := Nat.two_pow_pos _
  rw [hsigned, hsigned, nearest_eq _ hpos, hvalue]
  exact halfEven_le (mul_nonneg (Nat.cast_nonneg m) (zpow_pos two_pos e).le) (by exact_mod_cast hle)

/-- What a factor gains can be put into a line in percent. -/
theorem gain_noted {b k : ℕ} {v : ℚ} {x : Double} (hx : Near b k v x) (hb : b ≤ 900) (hk : k ≤ 10) :
    ∃ percent, Quantity.nearestWhole (.real ((x.sub .one).mul (ofInt 100))) = .ok percent ∧
      printWhole percent = .ok (toString percent) := by
  obtain ⟨s, m, e, hsub, hle⟩ := sub_finite (k := b + 1) (by omega) hx.plain near_one.plain
    (hx.value_le hk) (by rw [near_one.exact]; exact one_le_pow₀ one_le_two)
  obtain ⟨n, f, hhundred⟩ := near_hundred.plain
  have hvalue : (n * 2 ^ f : ℚ) = 100 := by
    rw [← value_plain, ← hhundred, near_hundred.exact]
  have hbound : (m * 2 ^ e * (n * 2 ^ f) : ℚ) ≤ 2 ^ (b + 9) := by
    rw [hvalue]
    calc (m * 2 ^ e * 100 : ℚ) ≤ 2 ^ (b + 1 + 1) * 2 ^ 7 :=
          mul_le_mul hle (by norm_num) (by norm_num) (by positivity)
      _ = 2 ^ (b + 9) := (pow_add 2 (b + 1 + 1) 7).symm
  have hnonneg : (0 : ℚ) ≤ m * 2 ^ e * (n * 2 ^ f) :=
    mul_nonneg (mul_nonneg (Nat.cast_nonneg m) (zpow_pos two_pos e).le)
      (by rw [hvalue]; norm_num)
  obtain ⟨m', e', hmul, hle'⟩ := rounded_le (s := s != false) (by omega) hnonneg hbound
  rw [hsub, hhundred, mul_finite, hmul]
  exact nearestWhole_printed _ (by rw [figureLimit]; omega) hle'

theorem impressionLine_whole {amount : ℤ} (hgain : gain ≤ 2 ^ 200)
    (hfigures : printWhole amount = .ok (toString amount)) :
    ∃ note, impressionLine amount (percentFactor gain) =
      .ok (s!"Good Impression +{amount}" ++ note) := by
  obtain ⟨percent, hpercent, hpercent'⟩ := gain_noted (near_percentFactor hgain (by norm_num))
    (by norm_num) (by norm_num)
  have hamount : amountLine "Good Impression +" amount = .ok s!"Good Impression +{amount}" := by
    rw [amountLine, hfigures]
    rfl
  unfold impressionLine
  rw [hamount]
  by_cases hmore : (percentFactor gain).compare? .one == some .gt
  · refine ⟨s!" (gain +{percent}%)", ?_⟩
    simp only [bind, Except.bind, if_pos hmore, hpercent, hpercent']
    rfl
  · refine ⟨"", ?_⟩
    simp only [bind, Except.bind, if_neg hmore, String.append_empty]
    rfl

/-- **What a gain of good impression adds**: the floor of the product that doubles come to. -/
theorem gainImpression_whole {op : Operation} {pool amount : ℤ} {value added : ℕ}
    (hpool : l.goodImpression = .whole pool) (hvalue : op.value = .whole value)
    (hvalue' : value ≤ 2 ^ 200)
    (hcounted : ∀ b ∈ l.buffs, b.is .impressionGain = true → b.value.isCounted = true)
    (hcounted' : ∀ b ∈ l.buffs, b.is .cardBaseValue = true → b.value.isCounted = true)
    (hgain : l.pointsOf .impressionGain = gain) (hgain' : gain ≤ 2 ^ 200)
    (hadded : l.pointsOf .cardBaseValue (some (.text "impression")) = added)
    (hadded' : added ≤ 2 ^ 200)
    (hfloor : ((ofInt (value + added : ℕ)).mul (percentFactor gain)).floor? = some amount)
    (hfigures : printWhole amount = .ok (toString amount)) :
    ∃ note, gainImpression l op = .ok (.changed
      { l with goodImpression := .whole (pool + amount) }
      (s!"Good Impression +{amount}" ++ note)) := by
  have hsum := sumBuffs_counted hcounted
  rw [hgain] at hsum
  have hfactor := onePlusPercent_whole hgain' (by norm_num)
  have hadjusted : l.adjustedValue op .impression = .ok ((value + added : ℕ) : ℤ) := by
    have hsum := sumBuffs_counted hcounted' (some (.text "impression"))
    rw [hadded] at hsum
    simp only [Lesson.adjustedValue, hvalue, EffectKind.gainName?, hsum, bind, Except.bind]
    rfl
  have hbase : (ofInt (value + added : ℕ)).isFinite = true :=
    (near_ofInt_large (b := 201) (by omega) (by norm_num)).plain.isFinite
  have hproduct := Quantity.mul_real hbase (percentFactor gain)
  have hamount := Quantity.floor_real hfloor
  obtain ⟨note, hline⟩ := impressionLine_whole hgain' hfigures
  refine ⟨note, ?_⟩
  simp only [gainImpression, bind, Except.bind, hsum, hfactor, hadjusted, hproduct, hamount, hpool,
    hline]
  rfl

end Gain

/-! ### Effects -/

theorem resolveOne_of_passes {inner : Resolver} {l : Lesson} {e : Effect} {k : EffectKind}
    (h : l.passes k e = true) (hdebuff : k.isDebuff = false) (hgate : k ≠ .conditionGate) :
    resolveOne inner l e = carryOut inner l e.operation e.triggered k := by
  rw [resolveOne_eq, admission_of_passes h hdebuff]
  funext c
  show (if k = .conditionGate then _ else _ : Play Resolution) c = _
  rw [if_neg hgate]

/-- A fixed score without a multiplier, where all that counts for it are whole numbers that are not
too large. -/
structure PlainScore (l : Lesson) (e : Effect) (score : ℤ) (value focus stat bonus : ℕ) : Prop where
  passes : l.passes .scoreFixed e = true
  multiplier_eq : e.operation.multiplier = .null
  score_eq : l.score = .whole score
  value_eq : e.operation.value = .whole value
  value_lt : value < 2 ^ 53
  focus_eq : l.concentration = .whole focus
  focus_lt : focus < 2 ^ 53
  stat_eq : l.statValue = .whole stat
  stat_le : stat ≤ 2 ^ 200
  counted : ∀ b ∈ l.buffs, b.is .scoreBonus = true → b.value.isCounted = true
  bonus_eq : l.pointsOf .scoreBonus = bonus
  bonus_le : bonus ≤ 2 ^ 200

/-- A gain of good impression, where all that counts for it are whole numbers that are not too
large. -/
structure PlainGain (l : Lesson) (e : Effect) (pool : ℤ) (value added gain : ℕ) : Prop where
  passes : l.passes .impression e = true
  pool_eq : l.goodImpression = .whole pool
  value_eq : e.operation.value = .whole value
  value_le : value ≤ 2 ^ 200
  counted : ∀ b ∈ l.buffs, b.is .impressionGain = true ∨ b.is .cardBaseValue = true →
    b.value.isCounted = true
  added_eq : l.pointsOf .cardBaseValue (some (.text "impression")) = added
  added_le : added ≤ 2 ^ 200
  gain_eq : l.pointsOf .impressionGain = gain
  gain_le : gain ≤ 2 ^ 200

section Effects

variable {l : Lesson} {e : Effect}

theorem PlainScore.resolve (inner : Resolver) {score : ℤ} {value focus stat bonus : ℕ}
    (h : PlainScore l e score value focus stat bonus) :
    ∃ amount : ℤ, resolveOne inner l e =
        pure (.changed { l with score := .whole (score + amount) } s!"Score +{amount}") ∧
      NearlyFloored 20000 (l.exactScore (value + focus) stat bonus) amount ∧
      (25 ∣ stat → 25 ∣ bonus → l.exactScore (value + focus) stat bonus < 2 ^ 46 →
        amount = ⌊l.exactScore (value + focus) stat bonus⌋) := by
  have hbase : value + focus ≤ 2 ^ 200 := by
    have := h.value_lt
    have := h.focus_lt
    omega
  have hnear := near_score (l := l) hbase h.stat_le h.bonus_le
  have hfixed := scoreFixed_whole h.score_eq h.focus_eq h.focus_lt h.value_eq h.value_lt
    h.multiplier_eq (scoreMultiplier_whole h.stat_eq h.stat_le h.counted h.bonus_eq h.bonus_le)
    (floor?_value hnear.plain.isFinite) (floor_printed hnear le_rfl (by decide))
  refine ⟨_, ?_, hnear.floor le_rfl (by norm_num) (exactScore_parts l _ stat bonus), ?_⟩
  · rw [resolveOne_of_passes h.passes rfl (by decide)]
    exact congrArg (liftM (n := Play)) hfixed
  · rintro ⟨s, rfl⟩ ⟨t, rfl⟩ hlt
    rcases Nat.eq_zero_or_pos (value + focus) with hzero | hpos
    · have hnone : l.exactScore (value + focus) (25 * s) (25 * t) = 0 := by
        rw [Lesson.exactScore, hzero, Nat.cast_zero, zero_mul]
      rw [hnone] at hnear ⊢
      rw [hnear.zero]
    · rw [score_quarters hpos hlt]

theorem PlainGain.resolve (inner : Resolver) {pool : ℤ} {value added gain : ℕ}
    (h : PlainGain l e pool value added gain) :
    ∃ (amount : ℤ) (note : String), resolveOne inner l e =
        pure (.changed { l with goodImpression := .whole (pool + amount) }
          (s!"Good Impression +{amount}" ++ note)) ∧
      NearlyFloored 100 (exactGain (value + added) gain) amount ∧
      (25 ∣ gain → exactGain (value + added) gain < 2 ^ 46 →
        amount = ⌊exactGain (value + added) gain⌋) := by
  have hbase : value + added ≤ 2 ^ 201 := by
    have := h.value_le
    have := h.added_le
    omega
  have hnear := near_gain hbase h.gain_le
  obtain ⟨note, hgain⟩ := gainImpression_whole h.pool_eq h.value_eq h.value_le
    (fun b hb hk => h.counted b hb (.inl hk)) (fun b hb hk => h.counted b hb (.inr hk))
    h.gain_eq h.gain_le h.added_eq h.added_le (floor?_value hnear.plain.isFinite)
    (floor_printed hnear (by norm_num) (by decide))
  refine ⟨_, note, ?_, hnear.floor (by norm_num) (by norm_num) (exactGain_parts _ gain), ?_⟩
  · rw [resolveOne_of_passes h.passes rfl (by decide)]
    exact congrArg (liftM (n := Play)) hgain
  · rintro ⟨t, rfl⟩ hlt
    rcases Nat.eq_zero_or_pos (value + added) with hzero | hpos
    · have hnone : exactGain (value + added) (25 * t) = 0 := by
        rw [exactGain, hzero, Nat.cast_zero, zero_mul]
      rw [hnone] at hnear ⊢
      rw [hnear.zero]
    · rw [gain_quarters hpos hlt]

/-- **Gains are floored up to rounding.** A fixed score of whole numbers adds the floor of the exact
product of base value, condition, stat and bonuses up to a share of `2 ^ -49`; below `2 ^ 49` parts
that is the floor itself, or one less where the exact product is whole; and with percentages in
quarters it is the floor. The same is true of a gain of good impression and its own product. -/
theorem gains_are_nearly_floored (inner : Resolver) (l : Lesson) (e : Effect) :
    (∀ score value focus stat bonus, PlainScore l e score value focus stat bonus →
      ∃ amount : ℤ, resolveOne inner l e =
          pure (.changed { l with score := .whole (score + amount) } s!"Score +{amount}") ∧
        NearlyFloored 20000 (l.exactScore (value + focus) stat bonus) amount ∧
        (25 ∣ stat → 25 ∣ bonus → l.exactScore (value + focus) stat bonus < 2 ^ 46 →
          amount = ⌊l.exactScore (value + focus) stat bonus⌋)) ∧
    ∀ pool value added gain, PlainGain l e pool value added gain →
      ∃ (amount : ℤ) (note : String), resolveOne inner l e =
          pure (.changed { l with goodImpression := .whole (pool + amount) }
            (s!"Good Impression +{amount}" ++ note)) ∧
        NearlyFloored 100 (exactGain (value + added) gain) amount ∧
        (25 ∣ gain → exactGain (value + added) gain < 2 ^ 46 →
          amount = ⌊exactGain (value + added) gain⌋) :=
  ⟨fun _ _ _ _ _ h => h.resolve inner, fun _ _ _ _ h => h.resolve inner⟩

end Effects

/-- A lesson with three points of concentration, a perfect condition and percentages in quarters. -/
def quarteredLesson : Lesson :=
  { vocal := 25, concentration := 3,
    buffs := [plainBuff .perfectCondition .null, plainBuff .scoreBonus (.whole 50),
      plainBuff .impressionGain (.whole 75)] }

theorem quartered_gains_are_floored :
    PlainScore quarteredLesson (.score (.whole 10) .null) 0 10 3 25 50 ∧
      PlainGain quarteredLesson (.gain (.known .impression) (.whole 10)) 0 10 0 75 ∧
      resolveOne idleResolver quarteredLesson (.score (.whole 10) .null) =
        pure (.changed { quarteredLesson with score := 36 } "Score +36") ∧
      ∃ note, resolveOne idleResolver quarteredLesson (.gain (.known .impression) (.whole 10)) =
        pure (.changed { quarteredLesson with goodImpression := 17 }
          ("Good Impression +17" ++ note)) := by
  have hscore : PlainScore quarteredLesson (.score (.whole 10) .null) 0 10 3 25 50 :=
    ⟨rfl, rfl, rfl, rfl, by decide, rfl, by decide, rfl, by norm_num, by decide, by decide,
      by norm_num⟩
  have hgain : PlainGain quarteredLesson (.gain (.known .impression) (.whole 10)) 0 10 0 75 :=
    ⟨rfl, rfl, rfl, by norm_num, by decide, by decide, by norm_num, by decide, by norm_num⟩
  obtain ⟨amount, hresolve, -, hexact⟩ :=
    (gains_are_nearly_floored idleResolver quarteredLesson _).1 _ _ _ _ _ hscore
  obtain ⟨amount', note, hresolve', -, hexact'⟩ :=
    (gains_are_nearly_floored idleResolver quarteredLesson _).2 _ _ _ _ hgain
  obtain rfl : amount = 36 :=
    (hexact (by decide) (by decide) (by decide +kernel)).trans (by decide +kernel)
  obtain rfl : amount' = 17 := (hexact' (by decide) (by decide +kernel)).trans (by decide +kernel)
  exact ⟨hscore, hgain, hresolve, note, hresolve'⟩

/-- A lesson with a stat of fifteen and a bonus of fifteen for gains of good impression. -/
def fifteenLesson : Lesson := { vocal := 15, buffs := [plainBuff .impressionGain (.whole 15)] }

/-- With fifteen percent more, a hundred is a hundred and fifteen, of which doubles fall short. -/
theorem fifteen_percent_are_missed :
    PlainScore fifteenLesson (.score (.whole 100) .null) 0 100 0 15 0 ∧
      fifteenLesson.exactScore (100 + 0) 15 0 = 115 ∧
      resolveOne idleResolver fifteenLesson (.score (.whole 100) .null) =
        pure (.changed { fifteenLesson with score := 114 } "Score +114") ∧
      PlainGain fifteenLesson (.gain (.known .impression) (.whole 100)) 0 100 0 15 ∧
      exactGain (100 + 0) 15 = 115 ∧
      resolveOne idleResolver fifteenLesson (.gain (.known .impression) (.whole 100)) =
        pure (.changed { fifteenLesson with goodImpression := 114 }
          "Good Impression +114 (gain +15%)") := by
  refine ⟨⟨rfl, rfl, rfl, rfl, by decide, rfl, by decide, rfl, by norm_num, by decide,
    by decide, by norm_num⟩, by decide +kernel, rfl, ⟨rfl, rfl, rfl, by norm_num, by decide,
    by decide, by norm_num, by decide, by norm_num⟩, by decide +kernel, rfl⟩

end CardLesson
