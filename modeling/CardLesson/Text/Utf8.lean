/-
# Bytes as text

Characters are written as one to four bytes; a character past ASCII starts with a byte that says
how many follow. Reading goes on past bytes that fit nowhere: each run of them that could have
started a character becomes one replacement character.

Key definitions: `Utf8.Pending`, `Utf8.step`, `Utf8.decode`.
-/
namespace CardLesson.Text.Utf8

/-- A character of which some bytes are still to come. -/
structure Pending where
  /-- The bits read so far. -/
  value : Nat
  /-- How many bytes are to come. -/
  left : Nat
  /-- The least next byte. -/
  low : Nat := 0x80
  /-- The greatest next byte. -/
  high : Nat := 0xbf
  deriving DecidableEq, Repr

/-- The character in the place of bytes that fit nowhere. -/
def replacement : Char := '\ufffd'

/-- The first byte of a character. Bytes that could only start a needlessly long form, half of a
surrogate pair, or a character past the last one start nothing. -/
def start (b : Nat) : List Char × Option Pending :=
  if b < 0x80 then ([Char.ofNat b], none)
  else if b < 0xc2 then ([replacement], none)
  else if b < 0xe0 then ([], some { value := b - 0xc0, left := 1 })
  else if b = 0xe0 then ([], some { value := 0, left := 2, low := 0xa0 })
  else if b = 0xed then ([], some { value := 0xd, left := 2, high := 0x9f })
  else if b < 0xf0 then ([], some { value := b - 0xe0, left := 2 })
  else if b = 0xf0 then ([], some { value := 0, left := 3, low := 0x90 })
  else if b < 0xf4 then ([], some { value := b - 0xf0, left := 3 })
  else if b = 0xf4 then ([], some { value := 4, left := 3, high := 0x8f })
  else ([replacement], none)

/-- Takes in one byte: the characters it completes, and the one it leaves open. -/
def step (p : Option Pending) (b : Nat) : List Char × Option Pending :=
  match p with
  | none => start b
  | some p =>
    if p.low ≤ b ∧ b ≤ p.high then
      let value := p.value * 64 + (b - 0x80)
      if p.left = 1 then ([Char.ofNat value], none) else ([], some { value, left := p.left - 1 })
    else
      let (cs, q) := start b
      (replacement :: cs, q)

/-- The text of bytes after a character left open. -/
def decodeFrom : Option Pending → List Nat → List Char
  | none, [] => []
  | some _, [] => [replacement]
  | p, b :: bs =>
    let (cs, q) := step p b
    cs ++ decodeFrom q bs

/-- The text that bytes write. -/
def decode (bs : List Nat) : List Char := decodeFrom none bs

/-- The bytes of a character. -/
def encodeChar (c : Char) : List Nat := (String.utf8EncodeChar c).map (·.toNat)

end CardLesson.Text.Utf8
