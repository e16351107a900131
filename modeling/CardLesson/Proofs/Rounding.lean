/-
# Rounding

What a quotient of whole numbers rounds to depends on its value alone: `nearest` takes a half to the
even neighbour (`nearest_eq`), `binade` is the power of two below the quotient (`binade_eq`), so the
double of a quotient is the double of its value (`Double.ofRatio_eq`). A double is standard if its
mantissa is full or its exponent the least. Rounding yields no other finite ones, and a standard
double is what every value rounds to that is nearer to it than half a step.

Key definitions: `halfEven`, `Double.rounded`, `Double.isStandard`.
Key theorems: `nearest_eq`, `binade_eq`, `Double.ofRatio_eq`, `Double.ofDecimal_eq`,
`Double.rounded_standard`, `Double.rounded_of_near`.
-/
import Mathlib.Algebra.Order.Floor.Semifield
import Mathlib.Data.Int.Log
import Mathlib.Data.Rat.Floor
import Mathlib.Tactic.FieldSimp
import Mathlib.Tactic.Linarith
import Mathlib.Tactic.Positivity
import Mathlib.Tactic.Ring
import CardLesson.Number.Decimal

namespace CardLesson

/-! ### The nearest whole number -/

/-- The whole number nearest to a value; a half goes to the even neighbour. -/
def halfEven (x : ℚ) : ℕ :=
  if 1 / 2 < x - ⌊x⌋₊ ∨ (x - ⌊x⌋₊ = 1 / 2 ∧ ⌊x⌋₊ % 2 = 1) then ⌊x⌋₊ + 1 else ⌊x⌋₊

theorem nearest_eq (n : ℕ) {d : ℕ} (hd : 0 < d) : nearest n d = halfEven (n / d) := by
  have hd' : (0 : ℚ) < d := Nat.cast_pos.2 hd
  have hfloor : ⌊(n / d : ℚ)⌋₊ = n / d := Nat.floor_div_eq_div n d
  have hrest : (n / d : ℚ) - (n / d : ℕ) = (n % d : ℕ) / d := by
    have hsplit : (n : ℚ) = d * (n / d : ℕ) + (n % d : ℕ) := by
      exact_mod_cast (Nat.div_add_mod n d).symm
    rw [eq_div_iff hd'.ne', sub_mul, div_mul_cancel₀ _ hd'.ne', hsplit]
    ring
  have hlt : (1 / 2 : ℚ) < (n % d : ℕ) / d ↔ d < 2 * (n % d) := by
    rw [div_lt_div_iff₀ two_pos hd', one_mul, mul_comm _ (2 : ℚ)]
    exact_mod_cast Iff.rfl
  have heq : ((n % d : ℕ) / d : ℚ) = 1 / 2 ↔ 2 * (n % d) = d := by
    rw [div_eq_div_iff hd'.ne' two_ne_zero, one_mul, mul_comm _ (2 : ℚ)]
    exact_mod_cast Iff.rfl
  unfold nearest halfEven
  dsimp only
  rw [hfloor, hrest]
  simp only [hlt, heq]

section Near

variable {x : ℚ} {m : ℕ}

theorem halfEven_near (hx : 0 ≤ x) : |(halfEven x : ℚ) - x| ≤ 1 / 2 := by
  have hle := Nat.floor_le hx
  have hlt := Nat.lt_floor_add_one x
  rw [abs_le]
  unfold halfEven
  split
  · next h =>
    have h : 1 / 2 ≤ x - ⌊x⌋₊ := h.elim le_of_lt fun h => h.1.ge
    push_cast
    constructor <;> linarith
  · next h =>
    have h : x - ⌊x⌋₊ ≤ 1 / 2 := not_lt.1 fun h' => h (.inl h')
    constructor <;> linarith

theorem halfEven_eq_of_near (hx : 0 ≤ x) (h : |x - m| < 1 / 2) : halfEven x = m := by
  have hnear := halfEven_near hx
  rw [abs_le] at hnear
  rw [abs_lt] at h
  have hle : (halfEven x : ℚ) < m + 1 := by linarith
  have hge : (m : ℚ) < halfEven x + 1 := by linarith
  have hle : halfEven x < m + 1 := by exact_mod_cast hle
  have hge : m < halfEven x + 1 := by exact_mod_cast hge
  omega

theorem halfEven_le (hx : 0 ≤ x) (h : x ≤ m) : halfEven x ≤ m := by
  have hnear := halfEven_near hx
  rw [abs_le] at hnear
  have hlt : (halfEven x : ℚ) < m + 1 := by linarith
  have hlt : halfEven x < m + 1 := by exact_mod_cast hlt
  omega

theorem le_halfEven (hx : 0 ≤ x) (h : m ≤ x) : m ≤ halfEven x := by
  have hnear := halfEven_near hx
  rw [abs_le] at hnear
  have hlt : (m : ℚ) < halfEven x + 1 := by linarith
  have hlt : m < halfEven x + 1 := by exact_mod_cast hlt
  omega

end Near

/-! ### Powers below a quotient -/

section Powers

variable {b : ℕ}

theorem zpow_eq_div (hb : 0 < b) (k : ℤ) :
    (b : ℚ) ^ k = (b ^ k.toNat : ℕ) / (b ^ (-k).toNat : ℕ) := by
  have hb' : (b : ℚ) ≠ 0 := Nat.cast_ne_zero.2 hb.ne'
  conv_lhs => rw [← Int.toNat_sub_toNat_neg k]
  rw [zpow_sub₀ hb', zpow_natCast, zpow_natCast]
  push_cast
  rfl

/-- A quotient with a power of the base moved to its numerator or denominator. -/
theorem scaled_div (hb : 0 < b) (n d : ℕ) (k : ℤ) :
    ((n * Nat.pow b (-k).toNat : ℕ) : ℚ) / (d * Nat.pow b k.toNat : ℕ) =
      n / d * (b : ℚ) ^ (-k) := by
  rw [zpow_eq_div hb, neg_neg, Nat.pow_eq, Nat.pow_eq, Nat.cast_mul, Nat.cast_mul, mul_div_mul_comm]

theorem scaled_lt_iff (hb : 0 < b) (n : ℕ) {d : ℕ} (hd : 0 < d) (k : ℤ) :
    n * Nat.pow b (-k).toNat < d * Nat.pow b k.toNat ↔ (n / d : ℚ) < (b : ℚ) ^ k := by
  have hpos : (0 : ℚ) < (d * Nat.pow b k.toNat : ℕ) :=
    Nat.cast_pos.2 (Nat.mul_pos hd (Nat.pow_pos hb))
  have hb' : (0 : ℚ) < (b : ℚ) ^ k := zpow_pos (Nat.cast_pos.2 hb) k
  rw [← Nat.cast_lt (α := ℚ), ← div_lt_one hpos, scaled_div hb, zpow_neg, ← div_eq_mul_inv,
    div_lt_one hb']

/-- **The binade of a quotient is that of its value.** -/
theorem binade_eq {n d : ℕ} (hn : 0 < n) (hd : 0 < d) : binade n d = Int.log 2 (n / d : ℚ) := by
  have hn' : (0 : ℚ) < n := Nat.cast_pos.2 hn
  have hd' : (0 : ℚ) < d := Nat.cast_pos.2 hd
  have hx : (0 : ℚ) < n / d := div_pos hn' hd'
  have hnle : (2 : ℚ) ^ n.log2 ≤ n := by exact_mod_cast Nat.log2_self_le hn.ne'
  have hnlt : (n : ℚ) < 2 ^ (n.log2 + 1) := by exact_mod_cast Nat.lt_log2_self
  have hdle : (2 : ℚ) ^ d.log2 ≤ d := by exact_mod_cast Nat.log2_self_le hd.ne'
  have hdlt : (d : ℚ) < 2 ^ (d.log2 + 1) := by exact_mod_cast Nat.lt_log2_self
  have hlow : ((2 : ℕ) : ℚ) ^ ((n.log2 : ℤ) - d.log2 - 1) ≤ n / d := by
    rw [le_div_iff₀ hd']
    calc ((2 : ℕ) : ℚ) ^ ((n.log2 : ℤ) - d.log2 - 1) * d
        ≤ 2 ^ ((n.log2 : ℤ) - d.log2 - 1) * 2 ^ (d.log2 + 1) :=
          mul_le_mul_of_nonneg_left hdlt.le (zpow_pos (by norm_num) _).le
      _ = 2 ^ n.log2 := by
          rw [← zpow_natCast, ← zpow_natCast, ← zpow_add₀ two_ne_zero]
          congr 1
          push_cast
          ring
      _ ≤ n := hnle
  have hhigh : (n / d : ℚ) < ((2 : ℕ) : ℚ) ^ ((n.log2 : ℤ) - d.log2 + 1) := by
    rw [div_lt_iff₀ hd']
    calc (n : ℚ) < 2 ^ (n.log2 + 1) := hnlt
      _ = 2 ^ ((n.log2 : ℤ) - d.log2 + 1) * 2 ^ d.log2 := by
          rw [← zpow_natCast, ← zpow_natCast, ← zpow_add₀ two_ne_zero]
          congr 1
          push_cast
          ring
      _ ≤ ((2 : ℕ) : ℚ) ^ ((n.log2 : ℤ) - d.log2 + 1) * d :=
          mul_le_mul_of_nonneg_left hdle (zpow_pos (by norm_num) _).le
  rw [Int.zpow_le_iff_le_log one_lt_two hx] at hlow
  rw [Int.lt_zpow_iff_log_lt one_lt_two hx] at hhigh
  unfold binade
  dsimp only
  simp only [scaled_lt_iff two_pos n hd, Int.lt_zpow_iff_log_lt one_lt_two hx]
  split <;> omega

theorem log_eq (hb : 1 < b) {x : ℚ} {k : ℤ} (hle : (b : ℚ) ^ k ≤ x) (hlt : x < (b : ℚ) ^ (k + 1)) :
    Int.log b x = k := by
  have hx : 0 < x := lt_of_lt_of_le (zpow_pos (Nat.cast_pos.2 (by omega)) k) hle
  rw [Int.zpow_le_iff_le_log hb hx] at hle
  rw [Int.lt_zpow_iff_log_lt hb hx] at hlt
  omega

end Powers

namespace Double

/-! ### The double of a value -/

/-- The double that a value from zero on rounds to. -/
def rounded (negative : Bool) (x : ℚ) : Double :=
  if x = 0 then .finite negative 0 0
  else
    let e := max (Int.log 2 x - (precision - 1 : Nat)) leastExponent
    pack negative (halfEven (x * 2 ^ (-e))) e

/-- **The double of a quotient is that of its value.** -/
theorem ofRatio_eq (s : Bool) (n : ℕ) {d : ℕ} (hd : 0 < d) : ofRatio s n d = rounded s (n / d) := by
  have hd' : (d : ℚ) ≠ 0 := Nat.cast_ne_zero.2 hd.ne'
  by_cases hn : n = 0
  · rw [ofRatio, rounded, if_pos hn, hn, Nat.cast_zero, zero_div, if_pos rfl]
  · have hx : (n / d : ℚ) ≠ 0 := div_ne_zero (Nat.cast_ne_zero.2 hn) hd'
    have hscaled : ∀ e : ℤ, nearest (n * Nat.pow 2 (-e).toNat) (d * Nat.pow 2 e.toNat) =
        halfEven (n / d * 2 ^ (-e)) := fun e => by
      have hpos : 0 < d * Nat.pow 2 e.toNat := Nat.mul_pos hd (Nat.two_pow_pos _)
      rw [nearest_eq _ hpos, scaled_div two_pos]
      rfl
    rw [ofRatio, rounded, if_neg hn, if_neg hx, binade_eq (Nat.pos_of_ne_zero hn) hd]
    dsimp only
    rw [hscaled]

/-- A positive double as rounding writes it: the mantissa is full, or the exponent the least. -/
structure Standard (m : ℕ) (e : ℤ) : Prop where
  pos : 0 < m
  lt : m < 2 ^ 53
  least : -1074 ≤ e
  greatest : e ≤ 971
  full : 2 ^ 52 ≤ m ∨ e = -1074

instance (m : ℕ) (e : ℤ) : Decidable (Standard m e) :=
  decidable_of_iff (0 < m ∧ m < 2 ^ 53 ∧ -1074 ≤ e ∧ e ≤ 971 ∧ (2 ^ 52 ≤ m ∨ e = -1074))
    ⟨fun ⟨h1, h2, h3, h4, h5⟩ => ⟨h1, h2, h3, h4, h5⟩,
      fun ⟨h1, h2, h3, h4, h5⟩ => ⟨h1, h2, h3, h4, h5⟩⟩

/-- Whether a double is finite and as rounding writes it. -/
def isStandard : Double → Bool
  | .finite _ m e => decide (m = 0 ∧ e = 0 ∨ Standard m e)
  | _ => false

section Rounding

variable {s : Bool} {m : ℕ} {e : ℤ} {x : ℚ}

theorem pack_eq : pack s m e =
    if m = 0 then .finite s 0 0
    else if m = 2 ^ 53 then if 971 < e + 1 then .infinite s else .finite s (2 ^ 52) (e + 1)
    else if 971 < e then .infinite s
    else .finite s m e := rfl

theorem pack_of_standard (h : Standard m e) : pack s m e = .finite s m e := by
  rw [pack_eq, if_neg h.pos.ne', if_neg h.lt.ne, if_neg (not_lt.2 h.greatest)]

theorem pack_carried (hlarge : e + 1 ≤ 971) :
    pack s (2 ^ 53) e = .finite s (2 ^ 52) (e + 1) := by
  rw [pack_eq, if_neg (by norm_num), if_pos rfl, if_neg (not_lt.2 hlarge)]

theorem pack_standard (hm : m ≤ 2 ^ 53) (he : -1074 ≤ e) (hfull : 2 ^ 52 ≤ m ∨ e = -1074) :
    pack s m e = .infinite s ∨ (pack s m e).isStandard = true := by
  by_cases hzero : m = 0
  · rw [pack_eq, if_pos hzero]
    exact .inr rfl
  by_cases hcarry : m = 2 ^ 53
  · by_cases hlarge : 971 < e + 1
    · rw [pack_eq, if_neg hzero, if_pos hcarry, if_pos hlarge]
      exact .inl rfl
    · have hstandard : Standard (2 ^ 52) (e + 1) :=
        ⟨by norm_num, by norm_num, by omega, by omega, .inl le_rfl⟩
      rw [hcarry, pack_carried (not_lt.1 hlarge)]
      exact .inr (decide_eq_true (.inr hstandard))
  · by_cases hlarge : 971 < e
    · rw [pack_eq, if_neg hzero, if_neg hcarry, if_pos hlarge]
      exact .inl rfl
    · have hstandard : Standard m e := ⟨by omega, by omega, he, by omega, hfull⟩
      rw [pack_of_standard hstandard]
      exact .inr (decide_eq_true (.inr hstandard))

/-- The exponent that a positive value is rounded at. -/
def exponentOf (x : ℚ) : ℤ := max (Int.log 2 x - 52) (-1074)

theorem rounded_of_pos (hx : 0 < x) :
    rounded s x = pack s (halfEven (x * 2 ^ (-exponentOf x))) (exponentOf x) := by
  rw [rounded, if_neg hx.ne']
  rfl

/-- A value over the step it is rounded at fits into a mantissa. -/
theorem scaled_lt (x : ℚ) : x * 2 ^ (-exponentOf x) < 2 ^ 53 := by
  have hlt := Int.lt_zpow_succ_log_self (R := ℚ) one_lt_two x
  have hpow : (2 : ℚ) ^ (Int.log 2 x + 1) ≤ 2 ^ (53 + exponentOf x) :=
    zpow_le_zpow_right₀ one_le_two (by unfold exponentOf; omega)
  have hpos : (0 : ℚ) < 2 ^ exponentOf x := zpow_pos two_pos _
  rw [zpow_neg, ← div_eq_mul_inv, div_lt_iff₀ hpos]
  calc x < 2 ^ (Int.log 2 x + 1) := by exact_mod_cast hlt
    _ ≤ 2 ^ (53 + exponentOf x) := hpow
    _ = 2 ^ 53 * 2 ^ exponentOf x := zpow_add₀ two_ne_zero 53 _

/-- It fills the mantissa, unless the exponent is the least. -/
theorem le_scaled (hx : 0 < x) (he : exponentOf x ≠ -1074) :
    2 ^ 52 ≤ x * 2 ^ (-exponentOf x) := by
  have hle := Int.zpow_log_le_self (R := ℚ) one_lt_two hx
  have hlog : Int.log 2 x = 52 + exponentOf x := by unfold exponentOf at he ⊢; omega
  have hpos : (0 : ℚ) < 2 ^ exponentOf x := zpow_pos two_pos _
  rw [hlog, Nat.cast_two, zpow_add₀ two_ne_zero] at hle
  rw [zpow_neg, ← div_eq_mul_inv, le_div_iff₀ hpos]
  exact_mod_cast hle

theorem scaled_nonneg (hx : 0 < x) : 0 ≤ x * 2 ^ (-exponentOf x) :=
  mul_nonneg hx.le (zpow_pos two_pos _).le

/-- **Rounding yields an infinity or a standard double.** -/
theorem rounded_standard (hx : 0 ≤ x) :
    rounded s x = .infinite s ∨ (rounded s x).isStandard = true := by
  rcases hx.eq_or_lt with rfl | hx
  · exact .inr rfl
  rw [rounded_of_pos hx]
  refine pack_standard ?_ (le_max_right _ _) ?_
  · exact halfEven_le (scaled_nonneg hx) (by exact_mod_cast (scaled_lt x).le)
  · by_cases he : exponentOf x = -1074
    · exact .inr he
    · exact .inl (le_halfEven (scaled_nonneg hx) (by exact_mod_cast le_scaled hx he))

/-- What is too large for every finite double. -/
theorem rounded_large (hx : 2 ^ (1024 : ℤ) ≤ x) : rounded s x = .infinite s := by
  have hpos : 0 < x := lt_of_lt_of_le (zpow_pos two_pos _) hx
  have hlog : 1024 ≤ Int.log 2 x :=
    (Int.zpow_le_iff_le_log one_lt_two hpos).1 (by rwa [Nat.cast_two])
  have he : 971 < exponentOf x := by unfold exponentOf; omega
  have hm : 2 ^ 52 ≤ halfEven (x * 2 ^ (-exponentOf x)) :=
    le_halfEven (scaled_nonneg hpos) (by exact_mod_cast le_scaled hpos (by omega))
  rw [rounded_of_pos hpos, pack_eq, if_neg (by omega), if_pos he]
  split
  · exact if_pos (by omega)
  · rfl

/-- What is nearer to zero than to every other double. -/
theorem rounded_small (hx : 0 ≤ x) (hlt : x < 2 ^ (-1075 : ℤ)) : rounded s x = .finite s 0 0 := by
  rcases hx.eq_or_lt with rfl | hpos
  · rfl
  have hlog : Int.log 2 x < -1075 :=
    (Int.lt_zpow_iff_log_lt one_lt_two hpos).1 (by exact_mod_cast hlt)
  have he : exponentOf x = -1074 := by unfold exponentOf; omega
  have hscaled : x * 2 ^ (-(-1074) : ℤ) < 1 / 2 := by
    calc x * 2 ^ (-(-1074) : ℤ) < 2 ^ (-1075 : ℤ) * 2 ^ (-(-1074) : ℤ) :=
          mul_lt_mul_of_pos_right hlt (zpow_pos two_pos _)
      _ = 1 / 2 := by rw [← zpow_add₀ two_ne_zero]; norm_num
  have hzero : halfEven (x * 2 ^ (-(-1074) : ℤ)) = 0 := by
    have hnonneg : 0 ≤ x * 2 ^ (-(-1074) : ℤ) := mul_nonneg hx (zpow_pos two_pos _).le
    refine halfEven_eq_of_near hnonneg ?_
    rwa [Nat.cast_zero, sub_zero, abs_of_nonneg hnonneg]
  rw [rounded_of_pos hpos, he, hzero]
  rfl

/-- A value of a known binade is rounded at the exponent of the binade. -/
theorem exponentOf_eq {k : ℤ} (hk : -1074 ≤ k) (hle : 2 ^ (52 + k) ≤ x) (hlt : x < 2 ^ (53 + k)) :
    exponentOf x = k := by
  have hlog : Int.log 2 x = 52 + k := by
    refine log_eq one_lt_two (by rwa [Nat.cast_two]) ?_
    rwa [Nat.cast_two, add_right_comm]
  unfold exponentOf
  omega

/-- A value below all full mantissas is rounded at the least exponent. -/
theorem exponentOf_least (hx : 0 < x) (hlt : x < 2 ^ (52 + -1074 : ℤ)) : exponentOf x = -1074 := by
  have hlog : Int.log 2 x < 52 + -1074 :=
    (Int.lt_zpow_iff_log_lt one_lt_two hx).1 (by rwa [Nat.cast_two])
  unfold exponentOf
  omega

/-- A value that is nearer to a mantissa than half a step, where that is the step it is rounded
at. -/
theorem rounded_at (hx : 0 < x) {k : ℤ} (hk : exponentOf x = k) (h : |x - m * 2 ^ k| < 2 ^ k / 2) :
    rounded s x = pack s m k := by
  subst hk
  have hpos : (0 : ℚ) < 2 ^ exponentOf x := zpow_pos two_pos _
  have hscaled : x * 2 ^ (-exponentOf x) - m =
      (x - m * 2 ^ exponentOf x) / 2 ^ exponentOf x := by
    rw [zpow_neg]
    field_simp
  have hm : halfEven (x * 2 ^ (-exponentOf x)) = m := by
    refine halfEven_eq_of_near (scaled_nonneg hx) ?_
    rw [hscaled, abs_div, abs_of_pos hpos, div_lt_iff₀ hpos]
    linarith
  rw [rounded_of_pos hx, hm]

theorem two_zpow_add (k : ℕ) (e : ℤ) : (2 : ℚ) ^ (k + e) = (2 ^ k : ℕ) * 2 ^ e := by
  rw [zpow_add₀ two_ne_zero, zpow_natCast]
  push_cast
  rfl

/-- A value a little below the least full mantissa lies in the binade below, where steps are half as
long and that mantissa is one past the greatest. -/
theorem rounded_of_below (hx : 0 < x) (hleast : -1074 ≤ e - 1) (hgreatest : e ≤ 971)
    (hquarter : (2 ^ 52 : ℕ) * 2 ^ e - x < 2 ^ e / 4) (hlt : x < 2 ^ (52 + e)) :
    rounded s x = .finite s (2 ^ 52) e := by
  have hhalf : (2 : ℚ) ^ e = 2 * 2 ^ (e - 1) := by
    rw [← zpow_one_add₀ two_ne_zero, add_sub_cancel]
  have hend : (2 : ℚ) ^ (52 + e) = (2 ^ 52 : ℕ) * 2 ^ e := two_zpow_add 52 e
  have hlow : (2 : ℚ) ^ (52 + (e - 1)) = (2 ^ 52 : ℕ) * 2 ^ (e - 1) := two_zpow_add 52 (e - 1)
  have hnext : 53 + (e - 1) = 52 + e := by ring
  have hstep : (0 : ℚ) < 2 ^ (e - 1) := zpow_pos two_pos _
  have hk : exponentOf x = e - 1 := by
    refine exponentOf_eq hleast ?_ (by rwa [hnext])
    rw [hlow]
    rw [hhalf] at hquarter
    generalize (2 : ℚ) ^ (e - 1) = u at hquarter hstep ⊢
    push_cast at hquarter ⊢
    linarith
  have hcarried : |x - (2 ^ 53 : ℕ) * 2 ^ (e - 1)| < 2 ^ (e - 1) / 2 := by
    rw [hend, hhalf] at hlt
    rw [hhalf] at hquarter
    generalize (2 : ℚ) ^ (e - 1) = u at hquarter hlt hstep ⊢
    push_cast at hquarter hlt ⊢
    rw [abs_lt]
    constructor <;> linarith
  rw [rounded_at hx hk hcarried, pack_carried (by omega), sub_add_cancel]

/-- **All values nearer to a standard double than half a step round to it.** Below the least full
mantissa steps are half as long. -/
theorem rounded_of_near (h : Standard m e) (hnear : |x - m * 2 ^ e| < 2 ^ e / 2)
    (hbelow : m = 2 ^ 52 → e ≠ -1074 → m * 2 ^ e - x < 2 ^ e / 4) :
    rounded s x = .finite s m e := by
  have hstep : (0 : ℚ) < 2 ^ e := zpow_pos two_pos _
  obtain ⟨hleft, hright⟩ := abs_lt.1 hnear
  have hmin : 1 * 2 ^ e ≤ (m : ℚ) * 2 ^ e :=
    mul_le_mul_of_nonneg_right (by exact_mod_cast h.pos) hstep.le
  have hx : 0 < x := by linarith
  have hlt : x < 2 ^ (53 + e) := by
    have hmax : ((m + 1 : ℕ) : ℚ) * 2 ^ e ≤ (2 ^ 53 : ℕ) * 2 ^ e :=
      mul_le_mul_of_nonneg_right (by exact_mod_cast h.lt) hstep.le
    have hsum : ((m + 1 : ℕ) : ℚ) * 2 ^ e = m * 2 ^ e + 2 ^ e := by push_cast; ring
    have hend : (2 : ℚ) ^ (53 + e) = (2 ^ 53 : ℕ) * 2 ^ e := two_zpow_add 53 e
    linarith
  by_cases hfull : 2 ^ (52 + e) ≤ x
  · rw [rounded_at hx (exponentOf_eq h.least hfull hlt) hnear, pack_of_standard h]
  have hend : (2 : ℚ) ^ (52 + e) = (2 ^ 52 : ℕ) * 2 ^ e := two_zpow_add 52 e
  rw [not_le] at hfull
  by_cases he : e = -1074
  · subst he
    rw [rounded_at hx (exponentOf_least hx hfull) hnear, pack_of_standard h]
  -- The value lies below all full mantissas, so this is the least of them.
  have hm : m = 2 ^ 52 := by
    have hlow : 2 ^ 52 ≤ m := h.full.resolve_right he
    have hhigh : (m : ℚ) * 2 ^ e < (2 ^ 52 + 1 : ℕ) * 2 ^ e := by
      have hsum : ((2 ^ 52 + 1 : ℕ) : ℚ) * 2 ^ e = (2 ^ 52 : ℕ) * 2 ^ e + 2 ^ e := by
        push_cast
        ring
      linarith
    have hhigh : m < 2 ^ 52 + 1 := by exact_mod_cast lt_of_mul_lt_mul_right hhigh hstep.le
    omega
  subst hm
  exact rounded_of_below hx (by have := h.least; omega) h.greatest (hbelow rfl he) hfull

/-- The sign plays no part in rounding. -/
theorem rounded_sign (h : rounded false x = .finite false m e) : rounded s x = .finite s m e := by
  have hpack : ∀ {k : ℕ} {f : ℤ}, pack false k f = .finite false m e →
      pack s k f = .finite s m e := by
    intro k f hk
    rw [pack_eq] at hk ⊢
    split_ifs at hk ⊢ <;> simp_all
  by_cases hx : x = 0
  · rw [rounded, if_pos hx] at h ⊢
    simp_all
  · rw [rounded, if_neg hx] at h ⊢
    exact hpack h

theorem two_pow_lt_ten_pow : (2 : ℚ) ^ (1075 : ℤ) < 10 ^ (400 : ℤ) := by
  have h : 2 ^ 1075 < 10 ^ 400 := by decide +kernel
  have h : ((2 ^ 1075 : ℕ) : ℚ) < (10 ^ 400 : ℕ) := Nat.cast_lt.2 h
  rw [Nat.cast_pow, Nat.cast_pow] at h
  exact h

/-- **The double of a decimal is that of its value**: the exponents that are cut off are those of
values too large or too small. -/
theorem ofDecimal_eq (s : Bool) (digits : ℕ) (e : ℤ) :
    ofDecimal s digits e = rounded s (digits * 10 ^ e) := by
  have hten : (0 : ℚ) < 10 ^ e := zpow_pos (by norm_num) e
  by_cases hzero : digits = 0
  · subst hzero
    simp [ofDecimal, rounded]
  have hone : (1 : ℚ) ≤ digits := by exact_mod_cast Nat.pos_of_ne_zero hzero
  have hnonneg : (0 : ℚ) ≤ digits * 10 ^ e := mul_nonneg (by linarith) hten.le
  rw [ofDecimal, if_neg hzero]
  by_cases hlarge : 400 < e
  · rw [if_pos hlarge, rounded_large]
    calc (2 : ℚ) ^ (1024 : ℤ) ≤ 2 ^ (1075 : ℤ) := zpow_le_zpow_right₀ one_le_two (by norm_num)
      _ ≤ 10 ^ (400 : ℤ) := two_pow_lt_ten_pow.le
      _ ≤ 10 ^ e := zpow_le_zpow_right₀ (by norm_num) hlarge.le
      _ ≤ digits * 10 ^ e := le_mul_of_one_le_left hten.le hone
  rw [if_neg hlarge]
  by_cases hsmall : e < -(400 + digits.log2 : ℤ)
  · rw [if_pos hsmall, rounded_small hnonneg]
    have hdigits : (digits : ℚ) < 2 ^ ((digits.log2 + 1 : ℕ) : ℤ) := by
      rw [zpow_natCast]
      exact_mod_cast Nat.lt_log2_self
    calc (digits : ℚ) * 10 ^ e < 2 ^ ((digits.log2 + 1 : ℕ) : ℤ) * 10 ^ e :=
          mul_lt_mul_of_pos_right hdigits hten
      _ ≤ 10 ^ ((digits.log2 + 1 : ℕ) : ℤ) * 10 ^ e := by
          rw [zpow_natCast, zpow_natCast]
          gcongr
          norm_num
      _ = 10 ^ ((digits.log2 + 1 : ℕ) + e : ℤ) := (zpow_add₀ (by norm_num) _ _).symm
      _ ≤ 10 ^ (-400 : ℤ) := zpow_le_zpow_right₀ (by norm_num) (by push_cast; omega)
      _ < 2 ^ (-1075 : ℤ) := by
          rw [zpow_neg, zpow_neg]
          exact inv_strictAnti₀ (zpow_pos two_pos _) two_pow_lt_ten_pow
  have hpos : 0 < Nat.pow 10 (-e).toNat := Nat.pow_pos (by norm_num)
  rw [if_neg hsmall, ofRatio_eq _ _ hpos]
  have hscaled := scaled_div (b := 10) (by norm_num) digits 1 (-e)
  rw [neg_neg, Nat.one_mul, Nat.cast_one, div_one] at hscaled
  rw [hscaled]
  rfl

end Rounding

end Double

end CardLesson
