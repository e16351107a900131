/-
# Amounts that are not negative

A number that is not below zero stays so in sums, products and hundredths, however these are
rounded, and without its fraction it is still not below zero. The not-a-number counts as such a
number too: wherever a whole number is asked of it, the computation fails.

An operation is generous when its value, its ratio and its multiplier are missing or numbers that
are not below zero. In a lesson that carries only generous operations the values of the buffs are
such numbers, and so are their sums and what scores are multiplied by.

Key definitions: `Double.NotNegative`, `Quantity.NotNegative`, `Datum.isAmount`, `generous`.
Key theorems: `Double.NotNegative.add`, `Double.NotNegative.mul`, `Quantity.NotNegative.floor`,
`sumBuffs_notNegative`, `scoreMultiplier_notNegative`, `adjustedValue_nonneg`.
-/
import CardLesson.Lesson.Gains
import CardLesson.Proofs.Stock

namespace CardLesson

/-! ### Doubles -/

namespace Double

/-- The double is not below zero. A zero may have a minus sign. -/
def NotNegative : Double → Prop
  | .finite s m _ => s = true → m = 0
  | .infinite s => s = false
  | .notANumber => True

theorem pack_notNegative (m : Nat) (e : Int) : (pack false m e).NotNegative := by
  unfold pack
  split
  · nofun
  · split
    · split
      · rfl
      · nofun
    · split
      · rfl
      · nofun

theorem ofRatio_notNegative {s : Bool} {n : Nat} (h : s = true → n = 0) (d : Nat) :
    (ofRatio s n d).NotNegative := by
  unfold ofRatio
  split
  · exact fun _ => rfl
  · next hn =>
    obtain rfl : s = false := by
      cases s with
      | false => rfl
      | true => exact absurd (h rfl) hn
    exact pack_notNegative _ _

theorem ofScaled_notNegative {s : Bool} {m : Nat} (h : s = true → m = 0) (e : Int) :
    (ofScaled s m e).NotNegative :=
  ofRatio_notNegative (fun hs => by rw [h hs, Nat.zero_mul]) _

theorem ofInt_notNegative {n : Int} (h : 0 ≤ n) : (ofInt n).NotNegative :=
  ofRatio_notNegative (fun hs => by rw [decide_eq_true_eq] at hs; omega) 1

theorem signed_nonneg {s : Bool} {m : Nat} (h : s = true → m = 0) : 0 ≤ signed s m := by
  unfold signed
  split
  · next hs =>
    rw [h hs]
    exact Int.le_refl 0
  · exact Int.natCast_nonneg m

theorem aligned_nonneg {s : Bool} {m : Nat} (h : s = true → m = 0) (e low : Int) :
    0 ≤ aligned s m e low := signed_nonneg fun hs => by rw [h hs, Nat.zero_mul]

/-- A product has a minus sign only when one of the factors does, and that one is a zero. -/
theorem sign_mul {s t : Bool} {m n : Nat} (hm : s = true → m = 0) (hn : t = true → n = 0) :
    (s != t) = true → m * n = 0 := by
  cases s with
  | true => exact fun _ => by rw [hm rfl, Nat.zero_mul]
  | false =>
    cases t with
    | true => exact fun _ => by rw [hn rfl, Nat.mul_zero]
    | false => nofun

theorem infinite_mul {t : Bool} {n : Nat} {f : Int} (h : t = true → n = 0) :
    (mul (.infinite false) (.finite t n f)).NotNegative := by
  unfold mul
  dsimp only
  split
  · trivial
  · next hn =>
    cases t with
    | true => exact absurd (h rfl) hn
    | false => rfl

theorem mul_infinite {s : Bool} {m : Nat} {e : Int} (h : s = true → m = 0) :
    (mul (.finite s m e) (.infinite false)).NotNegative := by
  unfold mul
  dsimp only
  split
  · trivial
  · next hm =>
    cases s with
    | true => exact absurd (h rfl) hm
    | false => rfl

namespace NotNegative

variable {x y : Double}

theorem add (hx : x.NotNegative) (hy : y.NotNegative) : (Double.add x y).NotNegative := by
  cases x with
  | notANumber => trivial
  | infinite s =>
    cases y with
    | notANumber => trivial
    | infinite t =>
      cases hx
      cases hy
      rfl
    | finite t n f => exact hx
  | finite s m e =>
    cases y with
    | notANumber => trivial
    | infinite t => exact hy
    | finite t n f =>
      unfold Double.add
      dsimp only
      split
      · exact fun _ => rfl
      · have hm := aligned_nonneg hx e (min e f)
        have hn := aligned_nonneg hy f (min e f)
        refine ofScaled_notNegative (fun hs => ?_) _
        rw [decide_eq_true_eq] at hs
        omega

theorem mul (hx : x.NotNegative) (hy : y.NotNegative) : (Double.mul x y).NotNegative := by
  cases x with
  | notANumber => trivial
  | infinite s =>
    cases hx
    cases y with
    | notANumber => trivial
    | infinite t =>
      cases hy
      rfl
    | finite t n f => exact infinite_mul hy
  | finite s m e =>
    cases y with
    | notANumber => trivial
    | infinite t =>
      cases hy
      exact mul_infinite hx
    | finite t n f => exact ofScaled_notNegative (sign_mul hx hy) _

/-- Hundredths of the double are not below zero. -/
theorem div_hundred (hx : x.NotNegative) : (Double.div x (.ofInt 100)).NotNegative := by
  have hundred : Double.ofInt 100 = .finite false 7036874417766400 (-46) := by decide +kernel
  rw [hundred]
  cases x with
  | notANumber => trivial
  | infinite s =>
    cases hx
    rfl
  | finite s m e =>
    refine ofRatio_notNegative (fun hs => ?_) _
    have hs : s = true := by simpa using hs
    rw [hx hs, Nat.zero_mul]

theorem floor (hx : x.NotNegative) {n : Int} (h : floor? x = some n) : 0 ≤ n := by
  cases x with
  | notANumber => cases h
  | infinite s => cases h
  | finite s m e =>
    cases h
    exact Int.fdiv_nonneg (signed_nonneg fun hs => by rw [hx hs, Nat.zero_mul])
      (Int.natCast_nonneg _)

theorem truncate (hx : x.NotNegative) {n : Int} (h : truncate? x = some n) : 0 ≤ n := by
  cases x with
  | notANumber => cases h
  | infinite s => cases h
  | finite s m e =>
    cases h
    exact Int.tdiv_nonneg (signed_nonneg fun hs => by rw [hx hs, Nat.zero_mul])
      (Int.natCast_nonneg _)

end NotNegative
end Double

/-! ### Quantities -/

namespace Quantity

/-- The quantity is not below zero. -/
def NotNegative : Quantity → Prop
  | .whole n => 0 ≤ n
  | .real x => x.NotNegative

/-- A quantity that compares as at least zero is not below zero. -/
theorem notNegative_of_le {q : Quantity} (h : le 0 q = true) : q.NotNegative := by
  cases q with
  | whole n =>
    rw [ofNat_eq, le_whole, decide_eq_true_eq] at h
    exact h
  | real x =>
    cases x with
    | notANumber => trivial
    | infinite s =>
      cases s with
      | false => rfl
      | true => cases h
    | finite s m e =>
      rintro rfl
      have hzero : ∀ low, Double.aligned false 0 0 low = 0 := fun low => by
        rw [Double.aligned, Nat.zero_mul]
        rfl
      have hle : Double.aligned true m e (min 0 e) = 0 ∨ 0 < Double.aligned true m e (min 0 e) := by
        have hcompare : compare? 0 (.real (.finite true m e)) =
            some (compare 0 (Double.aligned true m e (min 0 e))) := by
          show some (compare (Double.aligned false 0 0 (min 0 e)) _) = _
          rw [hzero]
        rw [le, lt, hcompare, Bool.or_eq_true, beq_iff_eq, beq_iff_eq, Option.some_inj,
          Option.some_inj, Int.compare_eq_lt, Int.compare_eq_eq] at h
        omega
      have hneg : Double.aligned true m e (min 0 e) =
          -((m * Nat.pow 2 (e - min 0 e).toNat : Nat) : Int) := rfl
      have hprod : m * Nat.pow 2 (e - min 0 e).toNat = 0 := by omega
      exact (Nat.mul_eq_zero.1 hprod).resolve_right (Nat.ne_of_gt (Nat.pow_pos Nat.two_pos))

theorem toDouble_notNegative {q : Quantity} {x : Double} (hq : q.NotNegative)
    (h : q.toDouble = .ok x) : x.NotNegative := by
  cases q with
  | real y =>
    cases h
    exact hq
  | whole n =>
    have hn := Double.ofInt_notNegative hq
    rw [toDouble] at h
    split at h
    · cases h
    · cases h
      exact hn

namespace NotNegative

variable {a b q : Quantity}

theorem combine {onWhole : Int → Int → Int} {onReal : Double → Double → Double}
    (hwhole : ∀ m n, 0 ≤ m → 0 ≤ n → 0 ≤ onWhole m n)
    (hreal : ∀ x y, x.NotNegative → y.NotNegative → (onReal x y).NotNegative)
    (ha : a.NotNegative) (hb : b.NotNegative) (h : Quantity.combine onWhole onReal a b = .ok q) :
    q.NotNegative := by
  have real (h : (do return .real (onReal (← a.toDouble) (← b.toDouble)) : Except Fault Quantity) =
      .ok q) : q.NotNegative := by
    obtain ⟨x, hx, h⟩ := Play.except_bind_ok.1 h
    obtain ⟨y, hy, h⟩ := Play.except_bind_ok.1 h
    obtain rfl := Play.except_pure_ok.1 h
    exact hreal x y (toDouble_notNegative ha hx) (toDouble_notNegative hb hy)
  cases a with
  | real x => exact real h
  | whole m =>
    cases b with
    | real y => exact real h
    | whole n =>
      cases h
      exact hwhole m n ha hb

theorem add (ha : a.NotNegative) (hb : b.NotNegative) (h : a.add b = .ok q) : q.NotNegative :=
  combine (fun _ _ => Int.add_nonneg) (fun _ _ => .add) ha hb h

theorem mul (ha : a.NotNegative) (hb : b.NotNegative) (h : a.mul b = .ok q) : q.NotNegative :=
  combine (fun _ _ => Int.mul_nonneg) (fun _ _ => .mul) ha hb h

theorem wholeOf {part : Double → Option Int} {x : Double} {n : Int}
    (hpart : ∀ n, part x = some n → 0 ≤ n) (h : Quantity.wholeOf part x = .ok n) : 0 ≤ n := by
  unfold Quantity.wholeOf at h
  split at h
  · next hn =>
    cases h
    exact hpart _ hn
  · cases h
  · cases h

theorem floor {n : Int} (hq : q.NotNegative) (h : q.floor = .ok n) : 0 ≤ n := by
  cases q with
  | whole m =>
    cases h
    exact hq
  | real x => exact wholeOf (fun _ => hq.floor) h

theorem truncate {n : Int} (hq : q.NotNegative) (h : q.truncate = .ok n) : 0 ≤ n := by
  cases q with
  | whole m =>
    cases h
    exact hq
  | real x => exact wholeOf (fun _ => hq.truncate) h

end NotNegative
end Quantity

/-! ### Generous operations -/

/-- Whether the datum is missing or a number that is not below zero. -/
def Datum.isAmount (d : Datum) : Bool :=
  match d.number? with
  | some q => Quantity.le 0 q
  | none => d.isNull

/-- Whether the value, the ratio and the multiplier are missing or not below zero. -/
def generous (op : Operation) : Bool :=
  op.value.isAmount && op.ratio.isAmount && op.multiplier.isAmount

theorem generous_iff {op : Operation} : generous op = true ↔
    op.value.isAmount = true ∧ op.ratio.isAmount = true ∧ op.multiplier.isAmount = true := by
  rw [generous, Bool.and_eq_true, Bool.and_eq_true, and_assoc]

namespace Datum

variable {d default : Datum} {q : Quantity}

theorem quantity_notNegative (hd : d.isAmount = true) (h : d.quantity = .ok q) :
    q.NotNegative := by
  unfold quantity at h
  unfold isAmount at hd
  cases hn : d.number? with
  | none =>
    rw [hn] at h
    cases h
  | some q' =>
    rw [hn] at h hd
    cases h
    exact Quantity.notNegative_of_le hd

theorem given_isAmount (hd : d.isAmount = true) (hdefault : default.isAmount = true) :
    (d.given default).isAmount = true := by
  unfold given
  split
  · exact hdefault
  · exact hd

theorem orElse_isAmount (hd : d.isAmount = true) (hdefault : default.isAmount = true) :
    (d.orElse default).isAmount = true := by
  unfold orElse
  split
  · exact hd
  · exact hdefault

theorem toWhole_nonneg {n : Int} (hd : d.isAmount = true) (h : d.toWhole = .ok n) : 0 ≤ n := by
  cases d with
  | number q => exact (Quantity.notNegative_of_le hd).truncate h
  | truth b => exact (Quantity.notNegative_of_le hd).truncate h
  | text s => cases hd
  | null => cases h
  | list items => cases h
  | object members => cases h

end Datum

theorem zero_isAmount : (Datum.whole 0).isAmount = true := by decide

theorem one_isAmount : (Datum.number (.real .one)).isAmount = true := by decide +kernel

section

variable {op : Operation}

/-- The value of a generous operation, or a number in its place. -/
theorem value_notNegative {default : Datum} {q : Quantity} (hop : generous op = true)
    (hdefault : default.isAmount = true) (h : (op.value.given default).quantity = .ok q) :
    q.NotNegative :=
  Datum.quantity_notNegative (Datum.given_isAmount (generous_iff.1 hop).1 hdefault) h

theorem ratio_notNegative {q : Quantity} (hop : generous op = true)
    (h : (op.ratio.given (.number (.real .one))).quantity = .ok q) : q.NotNegative :=
  Datum.quantity_notNegative (Datum.given_isAmount (generous_iff.1 hop).2.1 one_isAmount) h

theorem multiplier_notNegative {q : Quantity} (hop : generous op = true)
    (h : (op.multiplier.given (.number (.real .one))).quantity = .ok q) : q.NotNegative :=
  Datum.quantity_notNegative (Datum.given_isAmount (generous_iff.1 hop).2.2 one_isAmount) h

theorem wholeValue_nonneg {n : Int} (hop : generous op = true) (h : op.wholeValue = .ok n) :
    0 ≤ n :=
  Datum.toWhole_nonneg (Datum.given_isAmount (generous_iff.1 hop).1 zero_isAmount) h

end

/-! ### What buffs add up to -/

theorem onePlusPercent_notNegative {q : Quantity} {x : Double} (hq : q.NotNegative)
    (h : onePlusPercent q = .ok x) : x.NotNegative := by
  obtain ⟨y, hy, h⟩ := Play.except_bind_ok.1 h
  obtain rfl := Play.except_pure_ok.1 h
  exact .add (Double.ofInt_notNegative (by decide))
    (Quantity.toDouble_notNegative hq hy).div_hundred

theorem foldlM_add_notNegative {bs : List Buff} (hbs : ∀ b ∈ bs, b.value.isAmount = true) :
    ∀ {total sum : Quantity}, total.NotNegative →
      bs.foldlM (fun total b => do total.add (← (b.value.orElse (.whole 0)).quantity)) total =
        (.ok sum : Except Fault Quantity) → sum.NotNegative := by
  induction bs with
  | nil =>
    intro total sum htotal h
    cases h
    exact htotal
  | cons b bs ih =>
    intro total sum htotal h
    rw [List.foldlM_cons] at h
    obtain ⟨next, hnext, h⟩ := Play.except_bind_ok.1 h
    obtain ⟨value, hvalue, hnext⟩ := Play.except_bind_ok.1 hnext
    have hb := Datum.orElse_isAmount (hbs b List.mem_cons_self) zero_isAmount
    exact ih (fun b' hb' => hbs b' (List.mem_cons_of_mem b hb'))
      (htotal.add (Datum.quantity_notNegative hb hvalue) hnext) h

variable {l : Lesson}

/-- The buffs of a lesson that carries only generous operations hold amounts. -/
theorem Lesson.Carries.value_isAmount (hl : l.Carries generous) {b : Buff} (hb : b ∈ l.buffs) :
    b.value.isAmount = true := by
  obtain ⟨op, hop, hv⟩ := (hl.buffs b hb).value
  rw [hv]
  exact (generous_iff.1 hop).1

theorem sumBuffs_notNegative (hl : l.Carries generous) {k : EffectKind} {param : Option Datum}
    {q : Quantity} (h : l.sumBuffs k param = .ok q) : q.NotNegative :=
  have zero : (0 : Quantity).NotNegative := Int.le_refl 0
  foldlM_add_notNegative (fun _ hb => hl.value_isAmount (List.mem_filter.1 hb).1) zero h

theorem conditionMultiplier_notNegative (l : Lesson) : l.conditionMultiplier.NotNegative := by
  unfold Lesson.conditionMultiplier
  split
  · exact Double.ofRatio_notNegative (s := false) nofun 1
  · split
    · exact Double.ofRatio_notNegative (s := false) nofun 2
    · exact Double.ofInt_notNegative (by decide)

theorem scoreMultiplier_notNegative (hl : l.Carries generous)
    (hstat : l.statValue.NotNegative) {x : Double} (h : l.scoreMultiplier = .ok x) :
    x.NotNegative := by
  obtain ⟨stat, hpercent, h⟩ := Play.except_bind_ok.1 h
  obtain ⟨sum, hsum, h⟩ := Play.except_bind_ok.1 h
  obtain ⟨bonus, hbonus, h⟩ := Play.except_bind_ok.1 h
  obtain rfl := Play.except_pure_ok.1 h
  exact ((conditionMultiplier_notNegative l).mul (onePlusPercent_notNegative hstat hpercent)).mul
    (onePlusPercent_notNegative (sumBuffs_notNegative hl hsum) hbonus)

theorem adjustedValue_nonneg (hl : l.Carries generous) {op : Operation} (hop : generous op = true)
    {k : EffectKind} {n : Int} (h : l.adjustedValue op k = .ok n) : 0 ≤ n := by
  obtain ⟨base, hbase, h⟩ := Play.except_bind_ok.1 h
  have hbase := value_notNegative hop zero_isAmount hbase
  split at h
  · obtain ⟨sum, hsum, h⟩ := Play.except_bind_ok.1 h
    obtain ⟨value, hvalue, h⟩ := Play.except_bind_ok.1 h
    exact (hbase.add (sumBuffs_notNegative hl hsum) hvalue).truncate h
  · exact hbase.truncate h

end CardLesson
