/-
# Arithmetic of quantities

Whole numbers add, subtract and multiply exactly. Where a double takes part, the other operand
becomes a double too, which fails for a whole number past all doubles, and the result is rounded
once. The quotient of two whole numbers is the double nearest to it.

A datum takes part in a calculation as the number it is; a datum that is no number is a misuse.
Where only a whole number will do, `Datum.toWhole` cuts off a fraction and reads figures in a text.

Key definitions: `Quantity.add`, `Quantity.sub`, `Quantity.mul`, `Quantity.ratio`, `Quantity.floor`,
`Quantity.truncate`, `Quantity.nearestWhole`, `Datum.quantity`, `Datum.toWhole`, `readWhole`.
Key theorems: `Quantity.add_whole`, `Quantity.sub_whole`, `Quantity.truncate_whole`.
-/
import CardLesson.Fault
import CardLesson.Text.Blank
import CardLesson.Text.Digit

namespace CardLesson
namespace Quantity

/-- The quantity as a double; fails for a whole number past all doubles. -/
def toDouble : Quantity → Except Fault Double
  | .real x => .ok x
  | .whole n =>
    match Double.ofInt n with
    | .infinite _ => .error .tooLarge
    | x => .ok x

/-- An operation that is exact on whole numbers and rounds on doubles. -/
def combine (onWhole : Int → Int → Int) (onReal : Double → Double → Double) :
    Quantity → Quantity → Except Fault Quantity
  | .whole m, .whole n => .ok (.whole (onWhole m n))
  | a, b => do return .real (onReal (← a.toDouble) (← b.toDouble))

def add : Quantity → Quantity → Except Fault Quantity := combine (· + ·) Double.add

def sub : Quantity → Quantity → Except Fault Quantity := combine (· - ·) Double.sub

def mul : Quantity → Quantity → Except Fault Quantity := combine (· * ·) Double.mul

/-- The quotient as a double, of two whole numbers rounded once. -/
def ratio : Quantity → Quantity → Except Fault Double
  | .whole m, .whole n =>
    match Double.ofRatio (decide (m < 0) != decide (n < 0)) m.natAbs n.natAbs with
    | .infinite _ => .error .tooLarge
    | x => .ok x
  | a, b => do return Double.div (← a.toDouble) (← b.toDouble)

/-- A whole part of a double, or why there is none. -/
def wholeOf (part : Double → Option Int) (x : Double) : Except Fault Int :=
  match part x, x with
  | some n, _ => .ok n
  | none, .notANumber => .error (.badValue .noWholePart)
  | none, _ => .error .tooLarge

/-- The greatest whole number not above the quantity. -/
def floor : Quantity → Except Fault Int
  | .whole n => .ok n
  | .real x => wholeOf Double.floor? x

/-- The quantity without its fraction. -/
def truncate : Quantity → Except Fault Int
  | .whole n => .ok n
  | .real x => wholeOf Double.truncate? x

/-- The nearest whole number; a half goes to the even neighbour. -/
def nearestWhole : Quantity → Except Fault Int
  | .whole n => .ok n
  | .real x => wholeOf Double.nearestWhole? x

@[simp] theorem add_whole (m n : Int) : add (.whole m) (.whole n) = .ok (.whole (m + n)) := rfl

@[simp] theorem sub_whole (m n : Int) : sub (.whole m) (.whole n) = .ok (.whole (m - n)) := rfl

@[simp] theorem truncate_whole (n : Int) : truncate (.whole n) = .ok n := rfl

end Quantity

/-- The figures of a written number without the single underscores between them; fails where an
underscore does not stand between two figures or another character comes in. -/
def figuresOf? : List Char → Option (List Char)
  | [] => none
  | [c] => if Text.isDigit c then some [c] else none
  | c :: '_' :: rest => if Text.isDigit c then (figuresOf? rest).map (c :: ·) else none
  | c :: rest => if Text.isDigit c then (figuresOf? rest).map (c :: ·) else none

/-- Blanks that may stand around a number: all but the separators U+001C to U+001F. -/
def isMargin (c : Char) : Bool :=
  Text.isBlank c && !decide (0x1c ≤ c.toNat ∧ c.toNat < 0x20)

/-- The sign a number starts with and what follows it. -/
def splitSign : List Char → Bool × List Char
  | '-' :: rest => (true, rest)
  | '+' :: rest => (false, rest)
  | cs => (false, cs)

/-- A whole number by its sign. -/
def withSign (negative : Bool) (n : Nat) : Int := if negative then -(n : Int) else n

/-- The whole number that a text writes, blanks around it and a sign allowed, in the digits of any
script. -/
def readWhole (s : String) : Except Fault Int :=
  let (negative, cs) := splitSign (Text.trimStart isMargin s.toList)
  let isPart := fun c => Text.isDigit c || c == '_'
  match figuresOf? (cs.takeWhile isPart) with
  | none => .error (.badValue (.notWhole s))
  | some ds =>
    if figureLimit < ds.length then .error (.badValue (.tooManyFigures ds.length))
    else if (cs.dropWhile isPart).all isMargin then .ok (withSign negative (Text.digitsValue ds))
    else .error (.badValue (.notWhole s))

namespace Datum

/-- The datum as a number to calculate with. -/
def quantity (d : Datum) : Except Fault Quantity :=
  match d.number? with
  | some q => .ok q
  | none => .error (.misuse .unsuitable)

/-- The datum as a whole number. -/
def toWhole : Datum → Except Fault Int
  | .text s => readWhole s
  | d =>
    match d.number? with
    | some q => q.truncate
    | none => .error (.misuse (.notConvertible d.kind))

@[simp] theorem toWhole_whole (n : Int) : toWhole (whole n) = .ok n := rfl

/-- How two data compare: numbers as numbers, texts by their characters. All other pairs cannot be
compared. -/
def order : Datum → Datum → Except Fault (Option Ordering)
  | .text s, .text t => .ok (some (compare s t))
  | a, b => do return Quantity.compare? (← a.quantity) (← b.quantity)

def lt (a b : Datum) : Except Fault Bool := do return (← order a b) == some .lt

/-- The datum as a key of a collection. -/
def key (d : Datum) : Except Fault Datum :=
  if d.isKey then .ok d else .error (.misuse (.notAKey d.kind))

/-- The characters of a datum that must be a text. -/
def asText : Datum → Except Fault String
  | .text s => .ok s
  | _ => .error .notText

end Datum
end CardLesson
