/-
# Equality by meaning

Doubles compare as the numbers they are: two finite ones compare as their mantissas do over any
exponent that is low enough. So turning a comparison round turns its outcome round, and numbers that
are equal compare alike with every other number. For data that can be looked up equality by meaning
does not depend on the order of the two, and equal data are equal to the same ones.

Key theorems: `Double.compare?_finite`, `Double.compare?_swap`, `Double.compare?_congr`,
`Datum.same_congr`, `Datum.same_comm`, `Datum.same_of_quantity`, `Datum.lt_of_quantity`.
-/
import CardLesson.Number.Arithmetic

namespace CardLesson

/-! ### Doubles -/

namespace Double

theorem signed_mul (s : Bool) (m n : Nat) : signed s (m * n) = signed s m * n := by
  cases s with
  | false => exact Int.natCast_mul m n
  | true =>
    show -((m * n : Nat) : Int) = -(m : Int) * n
    rw [Int.natCast_mul, Int.neg_mul]

/-- Over a lower exponent a mantissa is larger by a power of two. -/
theorem aligned_lower {s : Bool} {m : Nat} {e low low' : Int} (hlow : low ≤ low') (he : low' ≤ e) :
    aligned s m e low = aligned s m e low' * Nat.pow 2 (low' - low).toNat := by
  have hshift : (e - low).toNat = (e - low').toNat + (low' - low).toNat := by omega
  have hpow : Nat.pow 2 (e - low).toNat =
      Nat.pow 2 (e - low').toNat * Nat.pow 2 (low' - low).toNat := by
    rw [hshift]
    exact Nat.pow_add 2 _ _
  unfold aligned
  rw [hpow, ← Nat.mul_assoc, signed_mul]

theorem compare_mul_pos (a b : Int) {k : Int} (hk : 0 < k) :
    compare (a * k) (b * k) = compare a b := by
  rcases Int.lt_trichotomy a b with h | h | h
  · rw [Int.compare_eq_lt.2 h, Int.compare_eq_lt.2 (Int.mul_lt_mul_of_pos_right h hk)]
  · rw [h]
    simp
  · rw [Int.compare_eq_gt.2 h, Int.compare_eq_gt.2 (Int.mul_lt_mul_of_pos_right h hk)]

/-- Finite doubles compare as their mantissas over an exponent that is low enough. -/
theorem compare?_finite {s t : Bool} {m n : Nat} {e f low : Int} (he : low ≤ e) (hf : low ≤ f) :
    compare? (.finite s m e) (.finite t n f) =
      some (compare (aligned s m e low) (aligned t n f low)) := by
  have hmin : low ≤ min e f := Int.le_min.2 ⟨he, hf⟩
  have hpos : (0 : Int) < (Nat.pow 2 (min e f - low).toNat : Nat) :=
    Int.natCast_pos.2 (Nat.two_pow_pos _)
  rw [aligned_lower hmin (Int.min_le_left e f), aligned_lower hmin (Int.min_le_right e f),
    compare_mul_pos _ _ hpos]
  rfl

/-- Comparing the other way round turns the outcome round. -/
theorem compare?_swap (x y : Double) : y.compare? x = (x.compare? y).map Ordering.swap := by
  cases x with
  | notANumber => cases y <;> rfl
  | infinite s =>
    cases y with
    | notANumber => rfl
    | infinite t => cases s <;> cases t <;> rfl
    | finite t n f => cases s <;> rfl
  | finite s m e =>
    cases y with
    | notANumber => rfl
    | infinite t => cases t <;> rfl
    | finite t n f =>
      have hle : min e f ≤ e := Int.min_le_left e f
      have hle' : min e f ≤ f := Int.min_le_right e f
      rw [compare?_finite hle hle', compare?_finite hle' hle, Option.map_some,
        Std.OrientedOrd.eq_swap (a := aligned t n f _)]

/-- Numbers that are equal compare alike with every other number. -/
theorem compare?_congr {x y : Double} (h : x.compare? y = some .eq) (z : Double) :
    x.compare? z = y.compare? z := by
  cases x with
  | notANumber => cases h
  | infinite s =>
    cases y with
    | notANumber => cases h
    | infinite t => cases s <;> cases t <;> first
      | rfl
      | cases h
    | finite t n f => cases s <;> cases h
  | finite s m e =>
    cases y with
    | notANumber => cases h
    | infinite t => cases t <;> cases h
    | finite t n f =>
      cases z with
      | notANumber => rfl
      | infinite u => rfl
      | finite u o g =>
        have he : min (min e f) g ≤ e := by omega
        have hf : min (min e f) g ≤ f := by omega
        have hg : min (min e f) g ≤ g := by omega
        rw [compare?_finite he hf, Option.some_inj, Int.compare_eq_eq] at h
        rw [compare?_finite he hg, compare?_finite hf hg, h]

end Double

/-! ### Quantities and data -/

theorem Quantity.same_comm (a b : Quantity) : a.same b = b.same a := by
  unfold Quantity.same Quantity.compare?
  rw [Double.compare?_swap a.unrounded]
  rcases a.unrounded.compare? b.unrounded with _ | _ | _ | _ <;> rfl

theorem Quantity.compare?_congr {p q : Quantity} (h : p.same q = true) (r : Quantity) :
    p.compare? r = q.compare? r := Double.compare?_congr (beq_iff_eq.1 h) r.unrounded

theorem Quantity.lt_congr {p q : Quantity} (h : p.same q = true) (r : Quantity) :
    p.lt r = q.lt r := by
  rw [lt, lt, compare?_congr h]

theorem Quantity.same_congr {p q : Quantity} (h : p.same q = true) (r : Quantity) :
    p.same r = q.same r := by
  rw [same, same, compare?_congr h]

/-- Equal data are equal to the same data, as far as these can be looked up. -/
theorem Datum.same_congr {a b d : Datum} (h : a.same b = true) (hd : d.isKey = true) :
    a.same d = b.same d := by
  cases d with
  | list _ => cases hd
  | object _ => cases hd
  | text u =>
    cases a <;> cases b <;> first
      | rfl
      | cases h
      | rw [Datum.same_text, beq_iff_eq] at h; rw [h]
  | _ =>
    cases a <;> cases b <;> first
      | rfl
      | cases h
      | exact Quantity.same_congr h _

/-- Which of two data that can be looked up comes first does not matter. -/
theorem Datum.same_comm {a b : Datum} (ha : a.isKey = true) (hb : b.isKey = true) :
    a.same b = b.same a := by
  have hlist {items : List Datum} : ¬(Datum.list items).isKey = true := nofun
  have hobject {members : List (String × Datum)} : ¬(Datum.object members).isKey = true := nofun
  cases a <;> cases b <;> first
    | exact absurd ha hlist
    | exact absurd ha hobject
    | exact absurd hb hlist
    | exact absurd hb hobject
    | simp only [Datum.same, Datum.number?, Quantity.same_comm]
  case text.text s t => exact BEq.comm

/-! ### Whole numbers -/

theorem Datum.number?_of_quantity {x : Datum} {q : Quantity} (h : x.quantity = .ok q) :
    x.number? = some q := by
  unfold Datum.quantity at h
  split at h
  · next hnum => rw [hnum, Except.ok.inj h]
  · cases h

/-- A datum that is a whole number equals another one when the two numbers are the same. -/
theorem Datum.same_of_quantity {x : Datum} {m : Int} (h : x.quantity = .ok (.whole m)) (n : Int) :
    x.same (.whole n) = decide (m = n) := by
  have hnum := number?_of_quantity h
  cases x with
  | truth b =>
    cases hnum
    simp [same, number?]
  | number q =>
    cases hnum
    exact same_whole m n
  | _ => cases hnum

/-- Data that are whole numbers compare as these. -/
theorem Datum.lt_of_quantity {x y : Datum} {m n : Int} (hx : x.quantity = .ok (.whole m))
    (hy : y.quantity = .ok (.whole n)) : x.lt y = .ok (decide (m < n)) := by
  have horder : x.order y = .ok (Quantity.compare? (.whole m) (.whole n)) := by
    rw [order, hx, hy]
    · rfl
    · rintro s t rfl
      cases hx
  rw [lt, horder]
  exact congrArg Except.ok (Quantity.lt_whole m n)

end CardLesson
