/-
# Writing JSON

A datum is written either on one line without blanks (`compact`) or spread over lines, each level
two places further in (`spread`), where only empty lists and objects stay on one line. All
characters but quotes, backslashes and control characters stand for themselves.

Key definitions: `Json.escape`, `Json.writeText`, `Json.compact`, `Json.spread`.
Key theorems: `Json.escape_of_plain`.
-/
import CardLesson.Datum.Basic

namespace CardLesson.Json

/-- A character inside quotes. -/
def escape (c : Char) : List Char :=
  if c = '"' then ['\\', '"']
  else if c = '\\' then ['\\', '\\']
  else if c = '\n' then ['\\', 'n']
  else if c = '\r' then ['\\', 'r']
  else if c = '\t' then ['\\', 't']
  else if c = '\x08' then ['\\', 'b']
  else if c = '\x0c' then ['\\', 'f']
  else if c.toNat < 32 then
    let ds := Nat.toDigits 16 c.toNat
    '\\' :: 'u' :: (List.replicate (4 - ds.length) '0' ++ ds)
  else [c]

theorem escape_of_plain {c : Char} (h : 32 ≤ c.toNat) (hq : c ≠ '"') (hb : c ≠ '\\') :
    escape c = [c] := by
  have hn : ∀ d : Char, d.toNat < 32 → c ≠ d := fun d hd e => by subst e; omega
  simp [escape, hq, hb, hn '\n' (by decide), hn '\r' (by decide), hn '\t' (by decide),
    hn '\x08' (by decide), hn '\x0c' (by decide), Nat.not_lt.2 h]

def writeText (s : String) : List Char :=
  '"' :: (s.toList.flatMap escape ++ ['"'])

/-- A number; the infinities and the not-a-number have names. -/
def writeNumber : Quantity → List Char
  | .whole n => (toString n).toList
  | .real (.infinite false) => "Infinity".toList
  | .real (.infinite true) => "-Infinity".toList
  | .real .notANumber => "NaN".toList
  | .real x => x.text.toList

mutual

/-- The datum on one line. -/
def compact : Datum → List Char
  | .null => "null".toList
  | .truth b => (if b then "true" else "false").toList
  | .number q => writeNumber q
  | .text s => writeText s
  | .list items => '[' :: (compactItems items ++ [']'])
  | .object members => '\x7b' :: (compactMembers members ++ ['\x7d'])
termination_by structural d => d

def compactItems : List Datum → List Char
  | [] => []
  | [d] => compact d
  | d :: rest => compact d ++ ',' :: compactItems rest
termination_by structural d => d

def compactMembers : List (String × Datum) → List Char
  | [] => []
  | [(k, d)] => writeText k ++ ':' :: compact d
  | (k, d) :: rest => writeText k ++ ':' :: (compact d ++ ',' :: compactMembers rest)
termination_by structural d => d

end

/-- The start of a line at a level. -/
def newLine (level : Nat) : List Char := '\n' :: List.replicate (2 * level) ' '

mutual

/-- The datum spread over lines, its own lines at a level. -/
def spreadAt (level : Nat) : Datum → List Char
  | .null => "null".toList
  | .truth b => (if b then "true" else "false").toList
  | .number q => writeNumber q
  | .text s => writeText s
  | .list [] => ['[', ']']
  | .list items => '[' :: (spreadItems (level + 1) items ++ (newLine level ++ [']']))
  | .object [] => ['\x7b', '\x7d']
  | .object members => '\x7b' :: (spreadMembers (level + 1) members ++ (newLine level ++ ['\x7d']))
termination_by structural d => d

def spreadItems (level : Nat) : List Datum → List Char
  | [] => []
  | [d] => newLine level ++ spreadAt level d
  | d :: rest => newLine level ++ (spreadAt level d ++ ',' :: spreadItems level rest)
termination_by structural d => d

def spreadMembers (level : Nat) : List (String × Datum) → List Char
  | [] => []
  | [(k, d)] => newLine level ++ (writeText k ++ ':' :: ' ' :: spreadAt level d)
  | (k, d) :: rest =>
    newLine level ++
      (writeText k ++ ':' :: ' ' :: (spreadAt level d ++ ',' :: spreadMembers level rest))
termination_by structural d => d

end

/-- The datum spread over lines. -/
def spread (d : Datum) : String := String.ofList (spreadAt 0 d)

end CardLesson.Json
