/-
# Phrase patterns

A pattern describes a phrase: fixed words, runs of characters of a class, parts that may be left
out. Every part takes as much of the text as it can, so a pattern reads a text in at most one way.
Named parts are kept with the text they took.

A phrase covers a text when it leaves nothing but, perhaps, one line end. Phrases inside a text are
found from left to right and do not overlap.

Key definitions: `Slot`, `Pattern`, `Pattern.read`, `Pattern.covers?`, `sift`, `Found`.
Key theorems: `Pattern.read_append`, `Pattern.read_suffix`.
-/
import CardLesson.Number.Figures

namespace CardLesson.Wording

/-- What a named part of a phrase says. -/
inductive Slot where
  | amount
  | factor
  | times
  | turns
  /-- A name or the text of an effect. -/
  | content
  deriving DecidableEq, Repr

/-- The named parts of a phrase with the text they took. -/
abbrev Found := List (Slot × List Char)

/-- A phrase. -/
inductive Pattern where
  /-- The word itself. -/
  | word (s : String)
  /-- The first of some words that fits. -/
  | oneOf (words : List String)
  /-- One or more characters of a class. -/
  | run (p : Char → Bool)
  /-- One or more characters of one line before the word that ends the text, a line end left
  aside. -/
  | upTo (s : String)
  /-- A part that may be left out. -/
  | maybe (p : Pattern)
  /-- One part after another. -/
  | seq (p q : Pattern)
  /-- A part whose text is kept. -/
  | named (slot : Slot) (p : Pattern)

namespace Pattern

instance : Append Pattern := ⟨seq⟩

/-- Whether a character stays on its line. -/
def isInline (c : Char) : Bool := c != '\n'

/-- What stands before the word that ends a text, and the word with the line end that may follow
it. -/
def splitEnd? (s cs : List Char) : Option (List Char × List Char) :=
  match s.isSuffixOf? cs with
  | some before => some (before, s)
  | none => ((s ++ ['\n']).isSuffixOf? cs).map fun before => (before, s ++ ['\n'])

/-- What the pattern finds at the start of a text, and the text after it. -/
def read : Pattern → List Char → Option (Found × List Char)
  | word s, cs => (s.toList.isPrefixOf? cs).map fun rest => ([], rest)
  | oneOf words, cs => (words.findSome? fun s => s.toList.isPrefixOf? cs).map fun rest => ([], rest)
  | run p, cs => if (cs.takeWhile p).isEmpty then none else some ([], cs.dropWhile p)
  | upTo s, cs =>
    match splitEnd? s.toList cs with
    | some (before, rest) =>
      if before.isEmpty || !before.all isInline then none else some ([], rest)
    | none => none
  | maybe p, cs => some ((read p cs).getD ([], cs))
  | seq p q, cs => do
    let (found, rest) ← read p cs
    let (found', rest) ← read q rest
    return (found ++ found', rest)
  | named slot p, cs => do
    let (found, rest) ← read p cs
    return ((slot, cs.take (cs.length - rest.length)) :: found, rest)

theorem read_append (p q : Pattern) (cs : List Char) :
    read (p ++ q) cs = (read p cs).bind fun (found, rest) =>
      (read q rest).map fun (found', rest) => (found ++ found', rest) := by
  show read (seq p q) cs = _
  cases h : read p cs with
  | none => simp [read, h]
  | some r =>
    cases h' : read q r.2 <;> simp [read, h, h']

theorem eq_append_of_isPrefixOf? {s cs rest : List Char} (h : s.isPrefixOf? cs = some rest) :
    cs = s ++ rest := by
  induction s generalizing cs with
  | nil => exact Option.some.inj h
  | cons a s ih =>
    cases cs with
    | nil => cases h
    | cons c cs =>
      change (if a == c then s.isPrefixOf? cs else none) = some rest at h
      split at h
      · next heq => rw [← beq_iff_eq.mp heq, ih h, List.cons_append]
      · cases h

theorem eq_append_of_isSuffixOf? {s cs before : List Char} (h : s.isSuffixOf? cs = some before) :
    cs = before ++ s := by
  change (s.reverse.isPrefixOf? cs.reverse).map List.reverse = some before at h
  obtain ⟨r, hr, rfl⟩ := Option.map_eq_some_iff.mp h
  simpa using congrArg List.reverse (eq_append_of_isPrefixOf? hr)

theorem eq_append_of_splitEnd? {s cs before rest : List Char}
    (h : splitEnd? s cs = some (before, rest)) : cs = before ++ rest := by
  unfold splitEnd? at h
  split at h
  · next before' hb =>
    obtain ⟨rfl, rfl⟩ := Prod.mk.inj (Option.some.inj h)
    exact eq_append_of_isSuffixOf? hb
  · obtain ⟨before', hb, h⟩ := Option.map_eq_some_iff.1 h
    obtain ⟨rfl, rfl⟩ := Prod.mk.inj h
    exact eq_append_of_isSuffixOf? hb

/-- A pattern takes the start of a text: what is left is its end. -/
theorem read_suffix {p : Pattern} {cs rest : List Char} {found : Found}
    (h : p.read cs = some (found, rest)) : rest <:+ cs := by
  induction p generalizing cs rest found with
  | word s =>
    simp only [read, Option.map_eq_some_iff, Prod.mk.injEq] at h
    obtain ⟨r, hr, _, rfl⟩ := h
    exact ⟨_, (eq_append_of_isPrefixOf? hr).symm⟩
  | oneOf words =>
    simp only [read, Option.map_eq_some_iff, Prod.mk.injEq] at h
    obtain ⟨r, hr, _, rfl⟩ := h
    obtain ⟨s, _, hs⟩ := List.exists_of_findSome?_eq_some hr
    exact ⟨_, (eq_append_of_isPrefixOf? hs).symm⟩
  | run p =>
    simp only [read] at h
    split at h
    · simp at h
    · simp only [Option.some.injEq, Prod.mk.injEq] at h
      exact h.2 ▸ List.dropWhile_suffix _
  | upTo s =>
    simp only [read] at h
    split at h
    · next before rest' hb =>
      split at h
      · simp at h
      · simp only [Option.some.injEq, Prod.mk.injEq] at h
        exact h.2 ▸ ⟨before, (eq_append_of_splitEnd? hb).symm⟩
    · simp at h
  | maybe p ih =>
    simp only [read, Option.some.injEq] at h
    cases hp : read p cs with
    | none =>
      simp only [hp, Option.getD_none, Prod.mk.injEq] at h
      exact h.2 ▸ List.suffix_refl _
    | some r =>
      simp only [hp, Option.getD_some] at h
      exact ih (h ▸ hp)
  | seq p q ihp ihq =>
    change read (p ++ q) cs = _ at h
    simp only [read_append, Option.bind_eq_some_iff, Option.map_eq_some_iff, Prod.mk.injEq] at h
    obtain ⟨⟨_, mid⟩, hp, ⟨_, r⟩, hq, _, rfl⟩ := h
    exact (ihq hq).trans (ihp hp)
  | named slot p ih =>
    simp only [read] at h
    cases hp : read p cs with
    | none => simp [hp] at h
    | some r =>
      simp [hp] at h
      exact h.2 ▸ ih hp

/-- What the pattern finds when it covers a text. -/
def covers? (p : Pattern) (cs : List Char) : Option Found :=
  match p.read cs with
  | some (found, []) => some found
  | some (found, ['\n']) => some found
  | _ => none

/-- Figures. -/
def digits (slot : Slot) : Pattern := named slot (run Text.isDigit)

/-- Figures and points in any order. -/
def figures (slot : Slot) : Pattern := named slot (run fun c => Text.isDigit c || c == '.')

/-- Figures, and after a point more of them. -/
def decimal (slot : Slot) : Pattern :=
  named slot (run Text.isDigit ++ maybe (word "." ++ run Text.isDigit))

/-- Latin letters. -/
def letters (slot : Slot) : Pattern := named slot (run Char.isAlpha)

/-- The rest of the line. -/
def line (slot : Slot) : Pattern := named slot (run isInline)

end Pattern

/-- What a reader finds in a text, from left to right, and the text without it. The first argument
counts the characters that belong to what was found last. -/
def sift {α : Type} (read : List Char → Option (α × List Char)) :
    Nat → List Char → List α × List Char
  | _, [] => ([], [])
  | skip + 1, _ :: cs => sift read skip cs
  | 0, c :: cs =>
    match read (c :: cs) with
    | some (a, rest) =>
      let (found, left) := sift read (cs.length - rest.length) cs
      (a :: found, left)
    | none =>
      let (found, left) := sift read 0 cs
      (found, c :: left)

namespace Found

/-- The text of a named part, if the phrase has it. -/
def text? (f : Found) (slot : Slot) : Option (List Char) := f.lookup slot

/-- The text of a named part; empty for a part that was left out. -/
def text (f : Found) (slot : Slot) : List Char := (f.text? slot).getD []

/-- The number in a named part. -/
def count (f : Found) (slot : Slot) : Except Fault Nat := readCount (f.text slot)

/-- The number in a part that may be left out. -/
def count? (f : Found) (slot : Slot) : Except Fault (Option Nat) :=
  match f.text? slot with
  | some ds => (readCount ds).map some
  | none => .ok none

/-- The decimal number in a part that may be left out. -/
def decimal? (f : Found) (slot : Slot) : Except Fault (Option Double) :=
  match f.text? slot with
  | some cs => (readDecimal cs).map some
  | none => .ok none

end Found

/-- A phrase with what it means. -/
structure Rule (α : Type) where
  pattern : Pattern
  meaning : Found → Except Fault α

namespace Rule

variable {α : Type}

/-- The meaning of a text by the first rule whose phrase covers it. -/
def first? (rules : List (Rule α)) (cs : List Char) : Option (Except Fault α) :=
  rules.findSome? fun r => (r.pattern.covers? cs).map r.meaning

/-- The meaning of the start of a text by the first rule whose phrase stands there, and the text
after it. -/
def readFirst (rules : List (Rule α)) (cs : List Char) : Option (Except Fault α × List Char) :=
  rules.findSome? fun r => (r.pattern.read cs).map fun (found, rest) => (r.meaning found, rest)

end Rule
end CardLesson.Wording
