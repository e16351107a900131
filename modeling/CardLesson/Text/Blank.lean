/-
# Blank characters

A blank is any character that separates words and leaves no mark: the spaces and separators of
Unicode, the line ends, and the control characters from U+001C to U+001F. Trimming removes them
at both ends of a text.

Key definitions: `isBlank`, `trimBy`, `trim`.
Key theorems: `trimStart_eq_self`, `trimEnd_eq_self`.
-/
namespace CardLesson.Text

/-- The first and last code points of the runs of blanks. -/
def blankRuns : List (Nat × Nat) :=
  [(0x9, 0xd), (0x1c, 0x20), (0x85, 0x85), (0xa0, 0xa0), (0x1680, 0x1680), (0x2000, 0x200a),
    (0x2028, 0x2029), (0x202f, 0x202f), (0x205f, 0x205f), (0x3000, 0x3000)]

def isBlank (c : Char) : Bool :=
  blankRuns.any fun r => decide (r.1 ≤ c.toNat ∧ c.toNat ≤ r.2)

/-- A text without the characters of a class at its start. -/
def trimStart (p : Char → Bool) (s : List Char) : List Char := s.dropWhile p

/-- A text without the characters of a class at its end. -/
def trimEnd (p : Char → Bool) (s : List Char) : List Char := (s.reverse.dropWhile p).reverse

/-- A text without the characters of a class at both ends. -/
def trimBy (p : Char → Bool) (s : List Char) : List Char := trimEnd p (trimStart p s)

/-- A text without the blanks at both ends. -/
def trim (s : List Char) : List Char := trimBy isBlank s

theorem trimStart_eq_self {p : Char → Bool} {c : Char} {s : List Char} (h : p c = false) :
    trimStart p (c :: s) = c :: s := by
  simp [trimStart, h]

theorem trimEnd_eq_self {p : Char → Bool} {c : Char} {s : List Char} (h : p c = false) :
    trimEnd p (s ++ [c]) = s ++ [c] := by
  simp [trimEnd, h]

end CardLesson.Text
