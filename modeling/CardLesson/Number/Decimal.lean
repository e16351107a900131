/-
# Decimal text of doubles

A double is written with the fewest significant digits that read back as the same double, and of
those the nearest: `shortest` walks the decimal grids from coarse to fine and tests the two grid
points around the number. `Layout` says how the digits are laid out: positionally from `0.0001` up
to, not including, `10^16`, with at least one place after the point, otherwise with an exponent of
at least two figures.

Key definitions: `Double.ofDecimal`, `Double.shortest`, `Layout`, `Double.text`.
Key theorems: `Double.readsBack_of_onGrid`.
-/
import CardLesson.Number.Double

namespace CardLesson
namespace Double

/-- The double nearest to `±digits · 10^exponent`. Exponents past every double are cut off
without computing the power. -/
def ofDecimal (negative : Bool) (digits : Nat) (exponent : Int) : Double :=
  if digits = 0 then .finite negative 0 0
  else if 400 < exponent then .infinite negative
  else if exponent < -(400 + digits.log2 : Int) then .finite negative 0 0
  else ofRatio negative (digits * Nat.pow 10 exponent.toNat) (Nat.pow 10 (-exponent).toNat)

/-- The power of ten below a positive quotient: the `k` with `10^k ≤ n / d < 10^(k+1)`. The
logarithm of two, `1233 / 4096`, is close enough to miss by one step at most. -/
def decade (n d : Nat) : Int :=
  let k := (binade n d * 1233).fdiv 4096
  if n * Nat.pow 10 (-k).toNat < d * Nat.pow 10 k.toNat then k - 1
  else if n * Nat.pow 10 (-(k + 1)).toNat < d * Nat.pow 10 (k + 1).toNat then k
  else k + 1

/-- Whether `digits · 10^exponent` reads as the positive double `m · 2^e`. -/
def readsBack (m : Nat) (e : Int) (digits : Nat) (exponent : Int) : Bool :=
  ofDecimal false digits exponent == .finite false m e

/-- The grid point of step `10^p` around `n / d` that reads back as `m · 2^e`: the nearer one
when both do, the even one when they are equally near. -/
def onGrid (m : Nat) (e : Int) (n d : Nat) (p : Int) : Option Nat :=
  let top := n * Nat.pow 10 (-p).toNat
  let step := d * Nat.pow 10 p.toNat
  let below := top / step
  let near := nearest top step
  let far := if near = below then below + 1 else below
  if readsBack m e near p then some near
  else if readsBack m e far p then some far
  else none

theorem readsBack_of_onGrid {m : Nat} {e : Int} {n d : Nat} {p : Int} {q : Nat}
    (h : onGrid m e n d p = some q) : readsBack m e q p = true := by
  revert h
  fun_cases onGrid m e n d p <;> simp_all <;> rintro rfl <;> assumption

/-- The first grid with a point that reads back, from the grid of step `10^p` on, each ten times
finer than the one before; after the last grid the nearest point is taken as it is. -/
def firstGrid (m : Nat) (e : Int) (n d : Nat) : Nat → Int → Nat × Int
  | 0, p => (nearest (n * Nat.pow 10 (-p).toNat) (d * Nat.pow 10 p.toNat), p)
  | grids + 1, p =>
    match onGrid m e n d p with
    | some digits => (digits, p)
    | none => firstGrid m e n d grids (p - 1)

/-- Digits and decimal exponent of a positive double `m · 2^e`. Seventeen digits always suffice. -/
def shortest (m : Nat) (e : Int) : Nat × Int :=
  let n := m * Nat.pow 2 e.toNat
  let d := Nat.pow 2 (-e).toNat
  firstGrid m e n d 16 (decade n d)

end Double

/-- How the digits of a number are laid out. -/
structure Layout where
  /-- Least count of figures before the point, counted as a power of ten, that is written
  positionally. -/
  leastPoint : Int
  /-- Greatest such count. -/
  greatestPoint : Int
  /-- Least number of figures in an exponent. -/
  exponentFigures : Nat

/-- Numbers from `0.0001` up to, not including, `10^16` are written positionally. -/
def Layout.plain : Layout := ⟨-3, 16, 2⟩

namespace Double

/-- The digits without the zeros at their end. -/
def trimZeros (ds : List Char) : List Char :=
  (ds.reverse.dropWhile (· == '0')).reverse

/-- Pads a figure group on the left. -/
def padLeft (width : Nat) (ds : List Char) : List Char :=
  List.replicate (width - ds.length) '0' ++ ds

/-- Lays out significant digits whose point stands after `point` of them. -/
def layOut (l : Layout) (ds : List Char) (point : Int) : List Char :=
  if l.leastPoint ≤ point ∧ point ≤ l.greatestPoint then
    if point ≤ 0 then '0' :: '.' :: (List.replicate (-point).toNat '0' ++ ds)
    else if ds.length ≤ point.toNat then
      ds ++ List.replicate (point.toNat - ds.length) '0' ++ ['.', '0']
    else ds.take point.toNat ++ '.' :: ds.drop point.toNat
  else
    let exponent := point - 1
    let mark := if exponent < 0 then ['e', '-'] else ['e', '+']
    let figures := padLeft l.exponentFigures (Nat.toDigits 10 exponent.natAbs)
    match ds with
    | [] => []
    | c :: [] => c :: (mark ++ figures)
    | c :: r => c :: '.' :: (r ++ mark ++ figures)

/-- The text of a positive double. -/
def digitsText (m : Nat) (e : Int) : List Char :=
  let (digits, p) := shortest m e
  let ds := Nat.toDigits 10 digits
  layOut .plain (trimZeros ds) (ds.length + p)

/-- The text of a double. -/
def text : Double → String
  | .finite s m e =>
    let body := if m = 0 then ['0', '.', '0'] else digitsText m e
    String.ofList (if s then '-' :: body else body)
  | .infinite s => if s then "-inf" else "inf"
  | .notANumber => "nan"

end Double
end CardLesson
