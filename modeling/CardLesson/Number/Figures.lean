/-
# Numbers in figures

Numbers as running text writes them: no sign, no exponent, the digits of any script. A whole number
may not have more than `figureLimit` figures; a decimal number may be of any length and has at most
one point, with a figure before it or after it.

A double may also be written loosely: with blanks around it, a sign, an exponent, or as the name of
an infinity or of the not-a-number.

Key definitions: `readCount`, `readDecimal`, `Double.ofText?`.
Key theorems: `readCount_eq_ok`.
-/
import CardLesson.Number.Arithmetic
import CardLesson.Number.Decimal

namespace CardLesson

/-- The whole number that a run of digits writes. -/
def readCount (ds : List Char) : Except Fault Nat :=
  if figureLimit < ds.length then .error (.badValue (.tooManyFigures ds.length))
  else .ok (Text.digitsValue ds)

theorem readCount_eq_ok {ds : List Char} (h : ds.length ≤ figureLimit) :
    readCount ds = .ok (Text.digitsValue ds) := by
  simp [readCount, Nat.not_lt.mpr h]

/-- The double nearest to the number that figures and a point write. -/
def readDecimal (cs : List Char) : Except Fault Double :=
  let whole := cs.takeWhile Text.isDigit
  let fraction := (cs.dropWhile Text.isDigit).drop 1
  let hasPoint := (cs.dropWhile Text.isDigit).head? == some '.'
  if (hasPoint || (cs.dropWhile Text.isDigit).isEmpty) && fraction.all Text.isDigit &&
      !(whole.isEmpty && fraction.isEmpty) then
    .ok (Double.ofDecimal false (Text.digitsValue (whole ++ fraction)) (-(fraction.length : Int)))
  else .error (.badValue (.notDecimal (String.ofList cs)))

/-- The exponent that a text ends with: a mark, a sign if need be, and figures. -/
def exponentOf? : List Char → Option Int
  | [] => some 0
  | mark :: cs =>
    let (negative, ds) := splitSign cs
    if (mark == 'e' || mark == 'E') && !ds.isEmpty && ds.all Char.isDigit then
      some (withSign negative (Text.digitsValue ds))
    else none

/-- The names of doubles that no figures write. -/
def namedDouble? (negative : Bool) (name : String) : Option Double :=
  if name = "inf" ∨ name = "infinity" then some (.infinite negative)
  else if name = "nan" then some .notANumber
  else none

/-- The double nearest to the number that a text writes loosely. -/
def Double.ofText? (s : String) : Option Double :=
  let (negative, cs) := splitSign (Text.trimBy isMargin s.toList)
  let isPart := fun c : Char => c.isDigit || c == '.'
  let mantissa := cs.takeWhile isPart
  let whole := mantissa.takeWhile Char.isDigit
  let fraction := (mantissa.dropWhile Char.isDigit).drop 1
  if mantissa.isEmpty then namedDouble? negative (String.ofList (cs.map Char.toLower))
  else if fraction.all Char.isDigit && !(whole.isEmpty && fraction.isEmpty) then
    (exponentOf? (cs.dropWhile isPart)).map fun exponent =>
      .ofDecimal negative (Text.digitsValue (whole ++ fraction)) (exponent - fraction.length)
  else none

end CardLesson
