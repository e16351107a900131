/-
# Decimal digits

The decimal digits of all scripts stand in blocks of ten, so a digit's value is its distance from
the zero of its block. A wider class, `isFigure`, adds superscripts, circled figures and the like,
which look like digits and yet do not count as one.

Key definitions: `digitValue?`, `isDigit`, `isFigure`, `digitsValue`.
Key theorems: `digitValue?_lt`, `digitsValue_append`, `digitsValue_lt`.
-/
namespace CardLesson.Text

/-- The zeros of the decimal digits of all scripts. -/
def digitZeros : List Nat :=
  [0x30, 0x660, 0x6f0, 0x7c0, 0x966, 0x9e6, 0xa66, 0xae6, 0xb66, 0xbe6, 0xc66, 0xce6, 0xd66, 0xde6,
    0xe50, 0xed0, 0xf20, 0x1040, 0x1090, 0x17e0, 0x1810, 0x1946, 0x19d0, 0x1a80, 0x1a90, 0x1b50,
    0x1bb0, 0x1c40, 0x1c50, 0xa620, 0xa8d0, 0xa900, 0xa9d0, 0xa9f0, 0xaa50, 0xabf0, 0xff10,
    0x104a0, 0x10d30, 0x11066, 0x110f0, 0x11136, 0x111d0, 0x112f0, 0x11450, 0x114d0, 0x11650,
    0x116c0, 0x11730, 0x118e0, 0x11950, 0x11c50, 0x11d50, 0x11da0, 0x16a60, 0x16ac0, 0x16b50,
    0x1d7ce, 0x1d7d8, 0x1d7e2, 0x1d7ec, 0x1d7f6, 0x1e140, 0x1e2f0, 0x1e950, 0x1fbf0]

/-- The value of a decimal digit of any script. -/
def digitValue? (c : Char) : Option Nat :=
  (digitZeros.find? fun z => decide (z ≤ c.toNat ∧ c.toNat < z + 10)).map fun z => c.toNat - z

def isDigit (c : Char) : Bool := (digitValue? c).isSome

/-- Characters that are figures but not decimal digits: superscripts, subscripts, circled and
dotted figures. -/
def figureRuns : List (Nat × Nat) :=
  [(0xb2, 0xb3), (0xb9, 0xb9), (0x1369, 0x1371), (0x19da, 0x19da), (0x2070, 0x2070),
    (0x2074, 0x2079), (0x2080, 0x2089), (0x2460, 0x2468), (0x2474, 0x247c), (0x2488, 0x2490),
    (0x24ea, 0x24ea), (0x24f5, 0x24fd), (0x24ff, 0x24ff), (0x2776, 0x277e), (0x2780, 0x2788),
    (0x278a, 0x2792), (0x10a40, 0x10a43), (0x10e60, 0x10e68), (0x11052, 0x1105a),
    (0x1f100, 0x1f10a)]

def isFigure (c : Char) : Bool :=
  isDigit c || figureRuns.any fun r => decide (r.1 ≤ c.toNat ∧ c.toNat ≤ r.2)

theorem digitValue?_lt {c : Char} {v : Nat} (h : digitValue? c = some v) : v < 10 := by
  simp only [digitValue?, Option.map_eq_some_iff] at h
  obtain ⟨z, hz, rfl⟩ := h
  have := List.find?_some hz
  simp only [decide_eq_true_eq] at this
  omega

/-- The number that a run of digits writes; what is no digit counts as zero. -/
def digitsValue (cs : List Char) : Nat :=
  cs.foldl (fun n c => n * 10 + (digitValue? c).getD 0) 0

theorem pow_ten_succ (k : Nat) : Nat.pow 10 (k + 1) = Nat.pow 10 k * 10 := rfl

theorem foldl_digits (cs : List Char) (n : Nat) :
    cs.foldl (fun n c => n * 10 + (digitValue? c).getD 0) n =
      n * Nat.pow 10 cs.length + digitsValue cs := by
  induction cs generalizing n with
  | nil => simp [digitsValue]
  | cons c cs ih =>
    simp only [digitsValue, List.foldl_cons, List.length_cons, Nat.zero_mul, Nat.zero_add]
    rw [ih, ih ((digitValue? c).getD 0), pow_ten_succ, Nat.add_mul, Nat.mul_assoc, Nat.mul_comm 10,
      Nat.add_assoc]

/-- Digits written after others shift them to the left. -/
theorem digitsValue_append (cs ds : List Char) :
    digitsValue (cs ++ ds) = digitsValue cs * Nat.pow 10 ds.length + digitsValue ds := by
  rw [digitsValue, List.foldl_append]
  exact foldl_digits ds _

/-- Digits write a number with no more figures than there are digits. -/
theorem digitsValue_lt (cs : List Char) : digitsValue cs < Nat.pow 10 cs.length := by
  induction cs with
  | nil => simp [digitsValue]
  | cons c cs ih =>
    have hc : (digitValue? c).getD 0 < 10 := by
      cases h : digitValue? c with
      | none => simp
      | some v => simpa using digitValue?_lt h
    have := digitsValue_append [c] cs
    simp only [List.singleton_append] at this
    rw [this, List.length_cons, pow_ten_succ]
    have : digitsValue [c] = (digitValue? c).getD 0 := by simp [digitsValue]
    rw [this]
    have := Nat.mul_le_mul_right (Nat.pow 10 cs.length) (Nat.le_of_lt_succ hc)
    omega

end CardLesson.Text
