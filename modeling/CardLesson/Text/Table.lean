/-
# Tables of code points

Properties of characters that come as long lists are kept as text: entries parted by blanks and line
ends, in ascending order, each a code point or a run of them in base sixteen (`c0-d6`, or `100:12e`
for every second one), with the code points it stands for after an equals sign when there are any
(`130=69.307`). `Table.read` reads such a text once; `Table.find?` searches it by halving.

Key definitions: `Table.Run`, `Table.read`, `Table.find?`, `Table.holds`.
-/
namespace CardLesson.Text

/-- The value of a number in base sixteen. -/
def readHex (cs : List Char) : Nat :=
  cs.foldl (fun n c => n * 16 + (if c.isDigit then c.toNat - 48 else c.toNat - 87)) 0

namespace Table

/-- The code points `first, first + step, …, last`, and what `first` stands for. -/
structure Run where
  first : Nat
  last : Nat
  step : Nat
  images : List Nat

/-- The key of an entry: one code point, a run, or a run of every second one. -/
def readKey (key : String) (images : List Nat) : Run :=
  match key.splitOn "-" with
  | [a, b] => ⟨readHex a.toList, readHex b.toList, 1, images⟩
  | _ =>
    match key.splitOn ":" with
    | [a, b] => ⟨readHex a.toList, readHex b.toList, 2, images⟩
    | _ => ⟨readHex key.toList, readHex key.toList, 1, images⟩

def readEntry (entry : String) : Run :=
  match entry.splitOn "=" with
  | [key, images] => readKey key ((images.splitOn ".").map fun n => readHex n.toList)
  | _ => readKey entry []

end Table

/-- Runs of code points in ascending order. -/
structure Table where
  runs : Array Table.Run

namespace Table

def read (text : String) : Table :=
  let lines := text.splitOn "\n"
  ⟨((lines.flatMap fun line => line.splitOn " ").map readEntry).toArray⟩

/-- The run around `c` among those from `low` up to, not including, `high`. Each step halves the
gap, so the count of runs is enough steps. -/
def search (t : Table) (c : Nat) : Nat → Nat → Nat → Option Run
  | 0, _, _ => none
  | steps + 1, low, high =>
    if low < high then
      let middle := (low + high) / 2
      match t.runs[middle]? with
      | none => none
      | some r =>
        if c < r.first then search t c steps low middle
        else if r.last < c then search t c steps (middle + 1) high
        else if (c - r.first) % r.step = 0 then some r
        else none
    else none

/-- What the table says of `c`: its distance from the first code point of its run, and the code
points that first one stands for. -/
def find? (t : Table) (c : Nat) : Option (Nat × List Nat) :=
  (t.search c (t.runs.size + 1) 0 t.runs.size).map fun r => (c - r.first, r.images)

def holds (t : Table) (c : Nat) : Bool := (t.find? c).isSome

/-- The code points `c` stands for: in a run of single images they move along with it. -/
def images? (t : Table) (c : Nat) : Option (List Nat) :=
  match t.find? c with
  | some (k, [n]) => some [n + k]
  | some (_, ns) => some ns
  | none => none

end Table
end CardLesson.Text
