/-
# Numbers of a JSON text

A number that is written in a JSON text is read again as it was: a whole number by its figures, a
double by its shortest digits, whichever way they are laid out. What the figures say is a decimal,
and the decimal of the shortest digits rounds to the double they were made from.

Key definitions: `Json.Significant`, `Json.EndsNumber`, `Quantity.isStorable`.
Key theorems: `Json.isPrintable_of_lt`, `Json.readUnsigned_layOut`, `Json.readUnsigned_digitsText`,
`Json.writeNumber_start`.
-/
import Mathlib.Algebra.Order.Field.Power
import Mathlib.Data.List.TakeWhile
import CardLesson.Json.Reader
import CardLesson.Json.Writer
import CardLesson.Proofs.Shortest

namespace CardLesson
namespace Json

/-! ### Figures -/

/-- The figures of a number are few enough if it is small enough. -/
theorem isPrintable_of_lt {n : ℤ} (h : n.natAbs < 10 ^ figureLimit) :
    (Quantity.whole n).isPrintable = true :=
  decide_eq_true ((Nat.length_toDigits_le_iff (by decide) (by decide)).2 h)

theorem figuresValue_eq (cs : List Char) : figuresValue cs = Nat.ofDigitChars 10 cs 0 := by
  unfold figuresValue Nat.ofDigitChars
  simp only [Nat.mul_comm 10]
  rfl

theorem figuresValue_toDigits (n : ℕ) : figuresValue (Nat.toDigits 10 n) = n := by
  rw [figuresValue_eq, Nat.ofDigitChars_ten_toDigits]

theorem figuresValue_append (cs ds : List Char) :
    figuresValue (cs ++ ds) = figuresValue cs * 10 ^ ds.length + figuresValue ds := by
  simp only [figuresValue_eq, Nat.ofDigitChars_append]
  rw [Nat.ofDigitChars_eq_ofDigitChars_zero, Nat.mul_comm]

theorem figuresValue_zeros (k : ℕ) : figuresValue (List.replicate k '0') = 0 := by
  induction k with
  | zero => rfl
  | succ k ih =>
    rw [List.replicate_succ', figuresValue_append, ih, Nat.zero_mul]
    rfl

theorem figuresValue_zeros_append (k : ℕ) (ds : List Char) :
    figuresValue (List.replicate k '0' ++ ds) = figuresValue ds := by
  rw [figuresValue_append, figuresValue_zeros, Nat.zero_mul, Nat.zero_add]

theorem figuresValue_append_zeros (ds : List Char) (k : ℕ) :
    figuresValue (ds ++ List.replicate k '0') = figuresValue ds * 10 ^ k := by
  rw [figuresValue_append, figuresValue_zeros, List.length_replicate, Nat.add_zero]

theorem isDigit_zeros {k : ℕ} : ∀ c ∈ List.replicate k '0', c.isDigit = true := fun c hc => by
  rw [List.eq_of_mem_replicate hc]
  rfl

/-- The first figure of a positive number is no zero. -/
theorem head_toDigits : ∀ {n : ℕ}, 0 < n → (Nat.toDigits 10 n).head? ≠ some '0' := by
  intro n
  induction n using Nat.strong_induction_on with
  | _ n ih =>
    intro hn
    by_cases hlt : n < 10
    · have hdigit : ∀ k < 10, 0 < k → Nat.digitChar k ≠ '0' := by decide
      rw [Nat.toDigits_of_lt_base hlt]
      exact fun hhead => hdigit n hlt hn (Option.some.inj hhead)
    · rw [Nat.toDigits_of_base_le (by norm_num) (not_lt.1 hlt),
        List.head?_append_of_ne_nil _ Nat.toDigits_ne_nil]
      exact ih (n / 10) (by omega) (by omega)

section Figures

variable {ds rest : List Char}

theorem figures_of_digits (hds : ∀ c ∈ ds, c.isDigit = true)
    (hrest : ∀ c ∈ rest.head?, c.isDigit = false) :
    figures (ds ++ rest) = ds ∧ afterFigures (ds ++ rest) = rest := by
  unfold figures afterFigures
  rw [List.takeWhile_append_of_pos hds, List.dropWhile_append_of_pos hds]
  cases rest with
  | nil => simp
  | cons c rest => simp [hrest c rfl]

/-- What follows a number and is no part of it. -/
def EndsNumber (rest : List Char) : Prop :=
  ∀ c ∈ rest.head?, c.isDigit = false ∧ c ≠ '.' ∧ c ≠ 'e' ∧ c ≠ 'E'

theorem endsNumber_nil : EndsNumber [] := fun _ h => nomatch h

/-- Figures that do not start with a zero. -/
structure Significant (ds : List Char) : Prop where
  ne_nil : ds ≠ []
  digits : ∀ c ∈ ds, c.isDigit = true
  head : ds.head? ≠ some '0'

/-- The figures of a whole number: a zero, or figures that do not start with one. -/
def IsWhole (ds : List Char) : Prop := ds = ['0'] ∨ Significant ds

theorem readWhole_of_isWhole (h : IsWhole ds) (hrest : ∀ c ∈ rest.head?, c.isDigit = false) :
    readWhole (ds ++ rest) = some (ds, rest) := by
  rcases h with rfl | h
  · rfl
  obtain ⟨hfigures, hafter⟩ := figures_of_digits h.digits hrest
  unfold readWhole
  split
  · next hcs =>
    have hhead := h.head
    rw [← List.head?_append_of_ne_nil ds h.ne_nil, hcs] at hhead
    exact absurd rfl hhead
  · rw [hfigures, hafter, if_neg (by simpa using h.ne_nil)]

theorem readFraction_point (hne : ds ≠ []) (hds : ∀ c ∈ ds, c.isDigit = true)
    (hrest : ∀ c ∈ rest.head?, c.isDigit = false) :
    readFraction ('.' :: (ds ++ rest)) = (ds, rest) := by
  obtain ⟨hfigures, hafter⟩ := figures_of_digits hds hrest
  rw [readFraction, hfigures, hafter, if_neg (by simpa using hne)]

theorem readFraction_none (hrest : rest.head? ≠ some '.') : readFraction rest = ([], rest) := by
  unfold readFraction
  split
  · exact absurd rfl hrest
  · rfl

theorem readExponent_none (hrest : ∀ c ∈ rest.head?, c ≠ 'e' ∧ c ≠ 'E') :
    readExponent rest = (none, rest) := by
  cases rest with
  | nil => rfl
  | cons c rest =>
    obtain ⟨he, hE⟩ := hrest c rfl
    exact if_neg (not_or.2 ⟨he, hE⟩)

/-- The sign of an exponent, which is always written. -/
def exponentSign (e : ℤ) : Char := if e < 0 then '-' else '+'

theorem readExponent_mark (e : ℤ) (hne : ds ≠ []) (hds : ∀ c ∈ ds, c.isDigit = true)
    (hvalue : figuresValue ds = e.natAbs) (hrest : ∀ c ∈ rest.head?, c.isDigit = false) :
    readExponent ('e' :: exponentSign e :: (ds ++ rest)) = (some e, rest) := by
  obtain ⟨hfigures, hafter⟩ := figures_of_digits hds hrest
  have hempty : ds.isEmpty = false := by simpa using hne
  unfold exponentSign
  split
  all_goals
    simp only [readExponent, true_or, if_true, hfigures, hafter, hempty, hvalue,
      Bool.false_eq_true, if_false, Prod.mk.injEq, Option.some.injEq, and_true]
    omega

end Figures

/-! ### Decimals -/

section Decimals

variable {negative : Bool} {cs cs' cs'' rest ws fs : List Char} {x : Option ℤ}

/-- A number with a point or an exponent is the double of the decimal it writes. -/
theorem readUnsigned_real (hws : readWhole cs = some (ws, cs'))
    (hfs : readFraction cs' = (fs, cs'')) (hx : readExponent cs'' = (x, rest))
    (hreal : (fs.isEmpty && x.isNone) = false) :
    readUnsigned negative cs = .ok (.real (.rounded negative
      (figuresValue (ws ++ fs) * 10 ^ (x.getD 0 - fs.length))), rest) := by
  simp only [readUnsigned, hws, hfs, hx, hreal, Double.ofDecimal_eq]
  rfl

/-- A number with neither is whole. -/
theorem readUnsigned_whole (hws : IsWhole ws) (hlength : ws.length ≤ figureLimit)
    (hrest : EndsNumber rest) : readUnsigned negative (ws ++ rest) =
      .ok (.whole (if negative then -(figuresValue ws : ℤ) else figuresValue ws), rest) := by
  have hwhole := readWhole_of_isWhole hws fun c hc => (hrest c hc).1
  have hfs : readFraction rest = ([], rest) := readFraction_none fun h => (hrest _ h).2.1 rfl
  have hx : readExponent rest = (none, rest) := readExponent_none fun c hc => (hrest c hc).2.2
  simp only [readUnsigned, hwhole, hfs, hx, List.isEmpty_nil, Option.isNone_none, Bool.and_true,
    if_true, if_neg (Nat.not_lt.2 hlength)]

theorem readUnsigned_point (negative : Bool) (hws : IsWhole ws) (hne : fs ≠ [])
    (hfs : ∀ c ∈ fs, c.isDigit = true) (hrest : EndsNumber rest) :
    readUnsigned negative (ws ++ '.' :: (fs ++ rest)) =
      .ok (.real (.rounded negative (figuresValue (ws ++ fs) * 10 ^ (-fs.length : ℤ))), rest) := by
  have hwhole : readWhole (ws ++ '.' :: (fs ++ rest)) = some (ws, '.' :: (fs ++ rest)) :=
    readWhole_of_isWhole hws (by rintro _ ⟨⟩; rfl)
  have hfraction := readFraction_point hne hfs fun c hc => (hrest c hc).1
  have hx : readExponent rest = (none, rest) := readExponent_none fun c hc => (hrest c hc).2.2
  rw [readUnsigned_real hwhole hfraction hx (by simp [hne]), Option.getD_none, zero_sub]

/-- The figures after a point, with the point; none without figures. -/
def pointed (fs : List Char) : List Char := if fs.isEmpty then [] else '.' :: fs

theorem readUnsigned_marked (negative : Bool) {c : Char} (hc : c.isDigit = true) (hzero : c ≠ '0')
    (hfs : ∀ c ∈ fs, c.isDigit = true) {e : ℤ} {ds : List Char} (hne : ds ≠ [])
    (hds : ∀ c ∈ ds, c.isDigit = true) (hvalue : figuresValue ds = e.natAbs)
    (hrest : EndsNumber rest) :
    readUnsigned negative (c :: (pointed fs ++ 'e' :: exponentSign e :: (ds ++ rest))) =
      .ok (.real (.rounded negative (figuresValue (c :: fs) * 10 ^ (e - fs.length))), rest) := by
  have hx := readExponent_mark e hne hds hvalue fun c hc => (hrest c hc).1
  have hws : IsWhole [c] := .inr ⟨by simp, by simpa using hc, by simpa using hzero⟩
  have hfraction : readFraction (pointed fs ++ 'e' :: exponentSign e :: (ds ++ rest)) =
      (fs, 'e' :: exponentSign e :: (ds ++ rest)) := by
    cases fs with
    | nil => rfl
    | cons d fs => exact readFraction_point (by simp) hfs (by rintro _ ⟨⟩; rfl)
  have hdigit : ∀ d ∈ (pointed fs ++ 'e' :: exponentSign e :: (ds ++ rest)).head?,
      d.isDigit = false := by
    cases fs <;> rintro _ ⟨⟩ <;> rfl
  exact readUnsigned_real (readWhole_of_isWhole hws hdigit) hfraction hx (by simp)

end Decimals

/-! ### Layouts -/

section LayOut

variable {negative : Bool} {ds rest : List Char} {point : ℤ}

theorem pad_toDigits (width n : ℕ) : Double.padLeft width (Nat.toDigits 10 n) ≠ [] ∧
    (∀ c ∈ Double.padLeft width (Nat.toDigits 10 n), c.isDigit = true) ∧
    figuresValue (Double.padLeft width (Nat.toDigits 10 n)) = n := by
  unfold Double.padLeft
  refine ⟨?_, fun c hc => ?_, ?_⟩
  · exact List.append_ne_nil_of_right_ne_nil _ Nat.toDigits_ne_nil
  · rcases List.mem_append.1 hc with hc | hc
    · exact isDigit_zeros c hc
    · exact Nat.isDigit_of_mem_toDigits (by norm_num) (by norm_num) hc
  · rw [figuresValue_zeros_append, figuresValue_toDigits]

/-- Zeros at the end of the figures count as an exponent. -/
theorem decimal_append_zeros (ds : List Char) (k : ℕ) (e : ℤ) :
    (figuresValue (ds ++ List.replicate k '0') : ℚ) * 10 ^ e = figuresValue ds * 10 ^ (k + e) := by
  have hten : (10 : ℚ) ≠ 0 := by norm_num
  rw [figuresValue_append_zeros, zpow_add₀ hten, zpow_natCast]
  push_cast
  ring

/-- All digits stand after the point. -/
theorem readUnsigned_after (h : Significant ds) (hrest : EndsNumber rest) (hpoint : point ≤ 0) :
    readUnsigned negative ('0' :: '.' :: (List.replicate (-point).toNat '0' ++ ds) ++ rest) =
      .ok (.real (.rounded negative (figuresValue ds * 10 ^ (point - ds.length))), rest) := by
  have hread := readUnsigned_point negative (.inl rfl)
    (List.append_ne_nil_of_right_ne_nil (List.replicate (-point).toNat '0') h.ne_nil)
    (List.forall_mem_append.2 ⟨isDigit_zeros, h.digits⟩) hrest
  have hvalue : figuresValue (['0'] ++ (List.replicate (-point).toNat '0' ++ ds)) =
      figuresValue ds := by
    rw [← List.append_assoc]
    exact figuresValue_zeros_append ((-point).toNat + 1) ds
  have hexponent : -((List.replicate (-point).toNat '0' ++ ds).length : ℤ) = point - ds.length := by
    rw [List.length_append, List.length_replicate]
    omega
  rw [hvalue, hexponent] at hread
  exact hread

/-- All digits stand before the point. -/
theorem readUnsigned_before (h : Significant ds) (hrest : EndsNumber rest)
    (hlength : (ds.length : ℤ) ≤ point) :
    readUnsigned negative
        (ds ++ List.replicate (point.toNat - ds.length) '0' ++ ['.', '0'] ++ rest) =
      .ok (.real (.rounded negative (figuresValue ds * 10 ^ (point - ds.length))), rest) := by
  have hws : IsWhole (ds ++ List.replicate (point.toNat - ds.length) '0') := by
    refine .inr ⟨List.append_ne_nil_of_left_ne_nil h.ne_nil _, ?_, ?_⟩
    · exact List.forall_mem_append.2 ⟨h.digits, isDigit_zeros⟩
    · rw [List.head?_append_of_ne_nil ds h.ne_nil]
      exact h.head
  have hread := readUnsigned_point negative hws (List.cons_ne_nil '0' [])
    (isDigit_zeros (k := 1)) hrest
  have hexponent : ((point.toNat - ds.length + 1 : ℕ) : ℤ) + -((['0'].length : ℕ) : ℤ) =
      point - ds.length := by
    rw [List.length_singleton]
    omega
  rw [List.append_assoc ds _ ['0'], ← List.replicate_succ', decimal_append_zeros,
    hexponent] at hread
  rw [List.append_assoc _ ['.', '0']]
  exact hread

/-- The point stands between the digits. -/
theorem readUnsigned_between (h : Significant ds) (hrest : EndsNumber rest) (hpoint : 0 < point)
    (hlength : point < ds.length) : readUnsigned negative
        (ds.take point.toNat ++ '.' :: ds.drop point.toNat ++ rest) =
      .ok (.real (.rounded negative (figuresValue ds * 10 ^ (point - ds.length))), rest) := by
  obtain ⟨n, rfl⟩ := Int.eq_ofNat_of_zero_le hpoint.le
  rw [Int.toNat_natCast]
  have hws : IsWhole (ds.take n) := by
    refine .inr ⟨?_, fun c hc => h.digits c (List.mem_of_mem_take hc), ?_⟩
    · rw [Ne, List.take_eq_nil_iff]
      exact not_or.2 ⟨by omega, h.ne_nil⟩
    · rw [List.head?_take, if_neg (by omega)]
      exact h.head
  have hdrop : ds.drop n ≠ [] := by
    rw [Ne, List.drop_eq_nil_iff]
    omega
  have hread := readUnsigned_point negative hws hdrop
    (fun c hc => h.digits c (List.mem_of_mem_drop hc)) hrest
  have hexponent : -((ds.drop n).length : ℤ) = n - ds.length := by
    rw [List.length_drop]
    omega
  rw [List.take_append_drop, hexponent] at hread
  rw [List.append_assoc, List.cons_append]
  exact hread

/-- **Digits read back from any layout.** -/
theorem readUnsigned_layOut (h : Significant ds) (hrest : EndsNumber rest) :
    readUnsigned negative (Double.layOut .plain ds point ++ rest) = .ok (.real (.rounded negative
      (figuresValue ds * 10 ^ (point - ds.length))), rest) := by
  unfold Double.layOut
  split
  · split
    · next hpoint => exact readUnsigned_after h hrest hpoint
    · next hpoint =>
      split
      · next hlength => exact readUnsigned_before h hrest (by omega)
      · next hlength => exact readUnsigned_between h hrest (by omega) (by omega)
  · -- A digit before the point, an exponent after all.
    obtain ⟨c, fs, rfl⟩ := List.exists_cons_of_ne_nil h.ne_nil
    obtain ⟨hc, hfs⟩ := List.forall_mem_cons.1 h.digits
    obtain ⟨hpadded, hfigures, hvalue⟩ := pad_toDigits 2 (point - 1).natAbs
    have hzero : c ≠ '0' := by simpa using h.head
    have hread := readUnsigned_marked negative hc hzero hfs hpadded hfigures hvalue hrest
    have hexponent : point - 1 - (fs.length : ℤ) = point - ((c :: fs).length : ℕ) := by
      rw [List.length_cons]
      push_cast
      ring
    have hmark : (if point - 1 < 0 then ['e', '-'] else ['e', '+']) =
        ['e', exponentSign (point - 1)] := by
      unfold exponentSign
      split <;> rfl
    rw [hexponent] at hread
    rw [← hread]
    dsimp only [Layout.plain]
    rw [hmark]
    cases fs <;> simp [pointed]

end LayOut

/-! ### Doubles -/

theorem trimZeros_append (ds : List Char) :
    ∃ k, ds = Double.trimZeros ds ++ List.replicate k '0' := by
  refine ⟨(ds.reverse.takeWhile (· == '0')).length, ?_⟩
  have hzeros : ds.reverse.takeWhile (· == '0') =
      List.replicate (ds.reverse.takeWhile (· == '0')).length '0' := by
    rw [List.eq_replicate_iff]
    exact ⟨rfl, fun c hc => by simpa using List.mem_takeWhile_imp hc⟩
  have hsplit := congrArg List.reverse
    (List.takeWhile_append_dropWhile (p := (· == '0')) (l := ds.reverse))
  rw [List.reverse_append, List.reverse_reverse, hzeros, List.reverse_replicate] at hsplit
  exact hsplit.symm

theorem significant_trimZeros {n : ℕ} (hn : 0 < n) :
    Significant (Double.trimZeros (Nat.toDigits 10 n)) := by
  obtain ⟨k, hk⟩ := trimZeros_append (Nat.toDigits 10 n)
  generalize Double.trimZeros (Nat.toDigits 10 n) = ds at hk ⊢
  have hne : ds ≠ [] := by
    rintro rfl
    have hvalue := figuresValue_toDigits n
    rw [hk, List.nil_append, figuresValue_zeros] at hvalue
    omega
  refine ⟨hne, fun c hc => ?_, ?_⟩
  · refine Nat.isDigit_of_mem_toDigits (b := 10) (n := n) (by norm_num) (by norm_num) ?_
    rw [hk]
    exact List.mem_append_left _ hc
  · rw [← List.head?_append_of_ne_nil ds hne, ← hk]
    exact head_toDigits hn

section Doubles

variable {negative : Bool} {m : ℕ} {e : ℤ} {rest : List Char}

/-- **A positive double is read from its shortest digits.** -/
theorem readUnsigned_digitsText (h : Double.Standard m e) (hrest : EndsNumber rest) :
    readUnsigned negative (Double.digitsText m e ++ rest) =
      .ok (.real (.finite negative m e), rest) := by
  have hpos := Double.shortest_pos h
  have hrounded := Double.rounded_shortest h
  unfold Double.digitsText
  generalize Double.shortest m e = shortest at hpos hrounded ⊢
  obtain ⟨digits, p⟩ := shortest
  dsimp only at hpos hrounded ⊢
  have hds := significant_trimZeros hpos
  obtain ⟨k, hk⟩ := trimZeros_append (Nat.toDigits 10 digits)
  generalize Double.trimZeros (Nat.toDigits 10 digits) = ds at hds hk ⊢
  have hdecimal : (figuresValue ds : ℚ) * 10 ^ ((Nat.toDigits 10 digits).length + p - ds.length) =
      digits * 10 ^ p := by
    have hexponent : ((Nat.toDigits 10 digits).length : ℤ) + p - ds.length = k + p := by
      rw [hk, List.length_append, List.length_replicate]
      push_cast
      ring
    rw [hexponent, ← decimal_append_zeros, ← hk, figuresValue_toDigits]
  rw [readUnsigned_layOut hds hrest, hdecimal, Double.rounded_sign hrounded]

end Doubles

end Json

/-! ### Numbers -/

/-- Whether a text can hold the number: a whole number has few enough figures, a double is finite
and as rounding writes it. -/
def Quantity.isStorable : Quantity → Bool
  | .whole n => (Quantity.whole n).isPrintable
  | .real x => x.isStandard

namespace Json

/-- The sign of a number. -/
def sign (negative : Bool) : List Char := if negative then ['-'] else []

theorem isWhole_toDigits (n : ℕ) : IsWhole (Nat.toDigits 10 n) := by
  rcases Nat.eq_zero_or_pos n with rfl | hn
  · exact .inl rfl
  · exact .inr ⟨Nat.toDigits_ne_nil, fun c hc => Nat.isDigit_of_mem_toDigits (by norm_num)
      (by norm_num) hc, head_toDigits hn⟩

section Numbers

variable {negative : Bool} {cs rest : List Char} {q : Quantity}

theorem readUnsigned_toDigits {n : ℕ} (hn : (Nat.toDigits 10 n).length ≤ figureLimit)
    (hrest : EndsNumber rest) : readUnsigned negative (Nat.toDigits 10 n ++ rest) =
      .ok (.whole (if negative then -(n : ℤ) else n), rest) := by
  rw [readUnsigned_whole (isWhole_toDigits n) hn hrest, figuresValue_toDigits]

theorem text_finite (s : Bool) (m : ℕ) (e : ℤ) : (Double.text (.finite s m e)).toList =
    sign s ++ if m = 0 then ['0', '.', '0'] else Double.digitsText m e := by
  rw [Double.text, String.toList_ofList]
  cases s <;> simp [sign]

theorem readUnsigned_finite {s : Bool} {m : ℕ} {e : ℤ}
    (h : (Double.finite s m e).isStandard = true) (hrest : EndsNumber rest) :
    readUnsigned s ((if m = 0 then ['0', '.', '0'] else Double.digitsText m e) ++ rest) =
      .ok (.real (.finite s m e), rest) := by
  rcases of_decide_eq_true h with ⟨rfl, rfl⟩ | hstandard
  · have hread := readUnsigned_point s (.inl rfl) (List.cons_ne_nil '0' [])
      (isDigit_zeros (k := 1)) hrest
    have hvalue : (figuresValue (['0'] ++ ['0']) : ℚ) = 0 := Nat.cast_zero
    rw [hvalue, zero_mul, Double.rounded, if_pos rfl] at hread
    exact hread
  · rw [if_neg hstandard.pos.ne']
    exact readUnsigned_digitsText hstandard hrest

/-- **A number is written as a sign and an unsigned number that reads as it.** -/
theorem writeNumber_eq (h : q.isStorable = true) : ∃ negative cs,
    writeNumber q = sign negative ++ cs ∧
      ∀ rest, EndsNumber rest → readUnsigned negative (cs ++ rest) = .ok (q, rest) := by
  match q with
  | .whole (.ofNat n) =>
    refine ⟨false, Nat.toDigits 10 n, Nat.toList_repr, fun rest hrest => ?_⟩
    exact readUnsigned_toDigits (of_decide_eq_true h) hrest
  | .whole (.negSucc n) =>
    refine ⟨true, Nat.toDigits 10 (n + 1), ?_, fun rest hrest => ?_⟩
    · exact (String.toList_append ..).trans (congrArg _ Nat.toList_repr)
    · exact readUnsigned_toDigits (of_decide_eq_true h) hrest
  | .real (.finite s m e) =>
    exact ⟨s, _, text_finite s m e, fun rest hrest => readUnsigned_finite h hrest⟩

theorem isDigit_of_readUnsigned {r : Quantity × List Char} (h : readUnsigned negative cs = .ok r) :
    ∃ c ds, cs = c :: ds ∧ c.isDigit = true := by
  have hwhole : ∃ p, readWhole cs = some p := by
    unfold readUnsigned at h
    split at h
    · cases h
    · next hsome => exact ⟨_, hsome⟩
  obtain ⟨p, hp⟩ := hwhole
  unfold readWhole at hp
  split at hp
  · exact ⟨'0', _, rfl, rfl⟩
  · split at hp
    · cases hp
    · next hfigures =>
      cases cs with
      | nil => exact absurd rfl hfigures
      | cons c ds =>
        refine ⟨c, ds, rfl, ?_⟩
        by_contra hc
        rw [figures, List.takeWhile_cons_of_neg hc] at hfigures
        exact hfigures rfl

/-- A written number starts with a figure, or with a sign and a figure. -/
theorem writeNumber_start (h : q.isStorable = true) : ∃ negative c cs,
    writeNumber q = sign negative ++ c :: cs ∧ c.isDigit = true ∧
      ∀ rest, EndsNumber rest → readUnsigned negative (c :: (cs ++ rest)) = .ok (q, rest) := by
  obtain ⟨negative, cs, hcs, hread⟩ := writeNumber_eq h
  obtain ⟨c, ds, hc, hdigit⟩ := isDigit_of_readUnsigned (hread [] endsNumber_nil)
  rw [List.append_nil] at hc
  subst hc
  exact ⟨negative, c, ds, hcs, hdigit, hread⟩

theorem readNumber_sign (negative : Bool) {c : Char} (hc : c.isDigit = true) (cs : List Char) :
    readNumber (sign negative ++ c :: cs) =
      (readUnsigned negative (c :: cs)).map fun (q, rest) => (.number q, rest) := by
  unfold readNumber
  cases negative with
  | true => rfl
  | false =>
    rw [sign, if_neg Bool.false_ne_true, List.nil_append]
    split
    next hsplit =>
      split at hsplit
      · next hminus =>
        cases hminus
        cases hc
      · cases hsplit
        rfl

end Numbers

end Json
end CardLesson
