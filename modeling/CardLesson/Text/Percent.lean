/-
# Percent escapes

In a path any byte may be written as `%` and two figures in base sixteen. A `%` without them stands
for itself.

Key definitions: `Percent.bytes`, `Percent.decode`.
-/
import CardLesson.Text.Utf8

namespace CardLesson.Text.Percent

/-- The value of a figure in base sixteen. -/
def hexValue? (c : Char) : Option Nat :=
  if c.isDigit then some (c.toNat - 48)
  else if 'a' ≤ c ∧ c ≤ 'f' then some (c.toNat - 87)
  else if 'A' ≤ c ∧ c ≤ 'F' then some (c.toNat - 55)
  else none

/-- The bytes that a path writes. -/
def bytes : List Char → List Nat
  | '%' :: a :: b :: rest =>
    match hexValue? a, hexValue? b with
    | some m, some n => (16 * m + n) :: bytes rest
    | _, _ => 0x25 :: bytes (a :: b :: rest)
  | c :: rest => Utf8.encodeChar c ++ bytes rest
  | [] => []

/-- The path without its escapes. -/
def decode (cs : List Char) : List Char := Utf8.decode (bytes cs)

end CardLesson.Text.Percent
