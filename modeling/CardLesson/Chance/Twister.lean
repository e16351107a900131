/-
# The Mersenne twister

A generator of 32-bit words with a state of 624 words, of which a whole new set is made whenever
one is used up. A seed of any size is cut into words and mixed into the state.

Key definitions: `Twister`, `Twister.ofSeed`, `Twister.next`.
-/
namespace CardLesson

/-- The words of the state and the position of the next one. -/
structure Twister where
  words : Array UInt32
  position : Nat

namespace Twister

/-- Words in the state. -/
def size : Nat := 624

/-- How far ahead a word is combined with another one. -/
def offset : Nat := 397

def word (ws : Array UInt32) (i : Nat) : UInt32 := ws.getD i 0

/-- A new word from the high bit of one word and the low bits of the next. -/
def blend (high low far : UInt32) : UInt32 :=
  let y := (high &&& 0x80000000) ||| (low &&& 0x7fffffff)
  far ^^^ (y >>> 1) ^^^ (if y &&& 1 = 0 then 0 else 0x9908b0df)

/-- The next set of words. -/
def twist (ws : Array UInt32) : Array UInt32 :=
  size.fold (fun i _ ws =>
    ws.setIfInBounds i
      (blend (word ws i) (word ws ((i + 1) % size)) (word ws ((i + offset) % size)))) ws

/-- Spreads the bits of a word. -/
def temper (y : UInt32) : UInt32 :=
  let y := y ^^^ (y >>> 11)
  let y := y ^^^ ((y <<< 7) &&& 0x9d2c5680)
  let y := y ^^^ ((y <<< 15) &&& 0xefc60000)
  y ^^^ (y >>> 18)

/-- The next word. -/
def next (t : Twister) : UInt32 × Twister :=
  let t := if t.position < size then t else ⟨twist t.words, 0⟩
  (temper (word t.words t.position), ⟨t.words, t.position + 1⟩)

/-- A word mixed with the high bits it lost. -/
def fold (w : UInt32) : UInt32 := w ^^^ (w >>> 30)

/-- The state made from one word. -/
def ofWord (w : UInt32) : Array UInt32 :=
  (size - 1).fold (fun i _ ws =>
    ws.push (1812433253 * fold (word ws i) + UInt32.ofNat (i + 1))) #[w]

/-- The place after `i`, which comes back to one after the last; the last word is then also the
first. -/
def advance (ws : Array UInt32) (i : Nat) : Array UInt32 × Nat :=
  if size ≤ i + 1 then (ws.setIfInBounds 0 (word ws (size - 1)), 1) else (ws, i + 1)

/-- Mixes the words of a key into the state, `steps` times from place `i` and key word `j` on. -/
def mixKey (key : Array UInt32) : Nat → Nat → Nat → Array UInt32 → Array UInt32 × Nat
  | 0, i, _, ws => (ws, i)
  | steps + 1, i, j, ws =>
    let w := (word ws i ^^^ (fold (word ws (i - 1)) * 1664525)) + word key j + UInt32.ofNat j
    let (ws, i') := advance (ws.setIfInBounds i w) i
    mixKey key steps i' (if key.size ≤ j + 1 then 0 else j + 1) ws

/-- Mixes the state with itself, `steps` times from place `i` on. -/
def mixSelf : Nat → Nat → Array UInt32 → Array UInt32
  | 0, _, ws => ws
  | steps + 1, i, ws =>
    let w := (word ws i ^^^ (fold (word ws (i - 1)) * 1566083941)) - UInt32.ofNat i
    let (ws, i') := advance (ws.setIfInBounds i w) i
    mixSelf steps i' ws

/-- The words of a number, the low ones first; at least one. The number's own size bounds their
count. -/
def keyWords : Nat → Nat → List UInt32
  | 0, n => [UInt32.ofNat n]
  | more + 1, n =>
    if n < 4294967296 then [UInt32.ofNat n]
    else UInt32.ofNat (n % 4294967296) :: keyWords more (n / 4294967296)

/-- The generator of a seed; the sign of a seed does not count. -/
def ofSeed (seed : Int) : Twister :=
  let n := seed.natAbs
  let key := (keyWords (n.log2 / 32) n).toArray
  let (ws, i) := mixKey key (max size key.size) 1 0 (ofWord 19650218)
  ⟨(mixSelf (size - 1) i ws).setIfInBounds 0 0x80000000, size⟩

end Twister
end CardLesson
