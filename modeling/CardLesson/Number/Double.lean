/-
# Doubles

A `Double` is a binary64 number: a finite number `±mantissa · 2^exponent`, one of the two
infinities, or the not-a-number. Every operation computes the exact result as a quotient of
natural numbers and rounds it once, to the nearest double, a half to the even mantissa; so what an
operation returns is said by `ofRatio` alone. `compare?` and the three ways to a whole number
(`floor?`, `truncate?`, `nearestWhole?`) are exact.

Key definitions: `nearest`, `binade`, `Double.ofRatio`, `Double.add`, `Double.mul`, `Double.div`,
`Double.compare?`, `Double.floor?`.
Key theorems: `Double.compare?_self`.
-/
namespace CardLesson

/-- The whole number nearest to `n / d`; a half goes to the even neighbour. -/
def nearest (n d : Nat) : Nat :=
  let q := n / d
  let r := n % d
  if d < 2 * r ∨ (2 * r = d ∧ q % 2 = 1) then q + 1 else q

/-- The power of two below a positive quotient: the `k` with `2^k ≤ n / d < 2^(k+1)`. -/
def binade (n d : Nat) : Int :=
  let k : Int := (n.log2 : Int) - d.log2
  if n * Nat.pow 2 (-k).toNat < d * Nat.pow 2 k.toNat then k - 1 else k

/-- A binary64 number. -/
inductive Double where
  /-- The number `±mantissa · 2^exponent`; a zero keeps its sign. -/
  | finite (negative : Bool) (mantissa : Nat) (exponent : Int)
  | infinite (negative : Bool)
  | notANumber
  deriving DecidableEq, Repr

namespace Double

/-- Bits of a full mantissa. -/
def precision : Nat := 53

/-- The exponent below which mantissas get shorter instead. -/
def leastExponent : Int := -1074

/-- The exponent of the largest doubles. -/
def greatestExponent : Int := 971

/-- A rounded mantissa with its exponent, carried into the next binade when it is one bit too
long, and an infinity when no exponent is left. -/
def pack (negative : Bool) (m : Nat) (e : Int) : Double :=
  if m = 0 then .finite negative 0 0
  else if m = Nat.pow 2 precision then
    if greatestExponent < e + 1 then .infinite negative
    else .finite negative (Nat.pow 2 (precision - 1)) (e + 1)
  else if greatestExponent < e then .infinite negative
  else .finite negative m e

/-- The double nearest to `±n / d`. -/
def ofRatio (negative : Bool) (n d : Nat) : Double :=
  if n = 0 then .finite negative 0 0
  else
    let e := max (binade n d - (precision - 1 : Nat)) leastExponent
    pack negative (nearest (n * Nat.pow 2 (-e).toNat) (d * Nat.pow 2 e.toNat)) e

/-- The double nearest to `±m · 2^e`. -/
def ofScaled (negative : Bool) (m : Nat) (e : Int) : Double :=
  ofRatio negative (m * Nat.pow 2 e.toNat) (Nat.pow 2 (-e).toNat)

/-- The double nearest to a whole number, an infinity when it is too large. -/
def ofInt (n : Int) : Double :=
  ofRatio (decide (n < 0)) n.natAbs 1

def zero : Double := .finite false 0 0

def one : Double := ofInt 1

/-- A mantissa with its sign. -/
def signed (negative : Bool) (m : Nat) : Int :=
  if negative then -(m : Int) else m

/-- The mantissa of `±m · 2^e` over the smaller exponent `low`. -/
def aligned (negative : Bool) (m : Nat) (e low : Int) : Int :=
  signed negative (m * Nat.pow 2 (e - low).toNat)

def neg : Double → Double
  | .finite s m e => .finite (!s) m e
  | .infinite s => .infinite (!s)
  | .notANumber => .notANumber

/-- The sum; two numbers that cancel leave `+0`, two negative zeros `-0`. -/
def add : Double → Double → Double
  | .finite s m e, .finite t n f =>
    let low := min e f
    let total := aligned s m e low + aligned t n f low
    if total = 0 then .finite (s && t) 0 0 else ofScaled (decide (total < 0)) total.natAbs low
  | .infinite s, .infinite t => if s = t then .infinite s else .notANumber
  | .infinite s, .finite .. => .infinite s
  | .finite .., .infinite t => .infinite t
  | _, _ => .notANumber

def sub (x y : Double) : Double := add x (neg y)

def mul : Double → Double → Double
  | .finite s m e, .finite t n f => ofScaled (s != t) (m * n) (e + f)
  | .infinite s, .infinite t => .infinite (s != t)
  | .infinite s, .finite t n _ => if n = 0 then .notANumber else .infinite (s != t)
  | .finite s m _, .infinite t => if m = 0 then .notANumber else .infinite (s != t)
  | _, _ => .notANumber

/-- The quotient; a nonzero number over zero is an infinity. -/
def div : Double → Double → Double
  | .finite s m e, .finite t n f =>
    if n = 0 then (if m = 0 then .notANumber else .infinite (s != t))
    else ofRatio (s != t) (m * Nat.pow 2 (e - f).toNat) (n * Nat.pow 2 (f - e).toNat)
  | .infinite _, .infinite _ => .notANumber
  | .infinite s, .finite t _ _ => .infinite (s != t)
  | .finite s _ _, .infinite t => .finite (s != t) 0 0
  | _, _ => .notANumber

/-- How two doubles compare as numbers; the not-a-number compares with nothing. -/
def compare? : Double → Double → Option Ordering
  | .finite s m e, .finite t n f =>
    let low := min e f
    some (compare (aligned s m e low) (aligned t n f low))
  | .infinite s, .infinite t => some (compare t s)
  | .infinite s, .finite .. => some (if s then .lt else .gt)
  | .finite .., .infinite t => some (if t then .gt else .lt)
  | _, _ => none

/-- The whole number in `±m · 2^e` that `pick` takes from numerator and denominator. -/
def wholePart (pick : Int → Nat → Int) : Double → Option Int
  | .finite s m e => some (pick (signed s (m * Nat.pow 2 e.toNat)) (Nat.pow 2 (-e).toNat))
  | _ => none

/-- The greatest whole number not above the double. -/
def floor? : Double → Option Int := wholePart fun n d => n.fdiv d

/-- The double without its fraction. -/
def truncate? : Double → Option Int := wholePart fun n d => n.tdiv d

/-- The nearest whole number; a half goes to the even neighbour. -/
def nearestWhole? : Double → Option Int :=
  wholePart fun n d => signed (decide (n < 0)) (nearest n.natAbs d)

def isFinite : Double → Bool
  | .finite .. => true
  | _ => false

theorem compare?_self (x : Double) : x.compare? x = if x = .notANumber then none else some .eq := by
  cases x with
  | finite s m e => simp [compare?]
  | infinite s => cases s <;> rfl
  | notANumber => rfl

end Double
end CardLesson
