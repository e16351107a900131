/-
# Readers that stop at a character

A phrase that has no text with some character in it takes the text before that character as if it
ended there. So phrases are found in the text on either side of the character and nowhere across it.

Key definitions: `StopsAt`, `Pattern.excludes`.
Key theorems: `sift_append`, `Pattern.read_before`, `Rule.stopsAt`.
-/
import CardLesson.Wording.Pattern

namespace CardLesson.Wording

/-! ### Readers that stop -/

section Stops

variable {α : Type} {read : List Char → Option (α × List Char)} {c : Char}

/-- A reader takes the text before a character as if it ended there. -/
structure StopsAt (read : List Char → Option (α × List Char)) (c : Char) : Prop where
  nothing : read [] = none
  before : ∀ cs tail, read (cs ++ c :: tail) = (read cs).map fun r => (r.1, r.2 ++ c :: tail)

/-- **What is found in a text is found on either side of a character at which the reader stops.** -/
theorem sift_append (h : StopsAt read c) (tail : List Char) : ∀ {cs : List Char} {skip : Nat},
    skip ≤ cs.length → sift read skip (cs ++ c :: tail) =
      ((sift read skip cs).1 ++ (sift read 0 tail).1,
        (sift read skip cs).2 ++ c :: (sift read 0 tail).2)
  | [], 0, _ => by
    have hnone : read (c :: tail) = none := by
      rw [← List.nil_append (c :: tail), h.before, h.nothing]
      rfl
    simp only [List.nil_append, sift, hnone]
  | d :: cs, skip + 1, hskip => by
    have hskip : skip ≤ cs.length := Nat.le_of_succ_le_succ hskip
    show sift read skip (cs ++ c :: tail) =
      ((sift read skip cs).1 ++ _, (sift read skip cs).2 ++ _)
    exact sift_append h tail hskip
  | d :: cs, 0, _ => by
    have hbefore := h.before (d :: cs) tail
    rw [List.cons_append] at hbefore
    rw [List.cons_append, sift, sift, hbefore]
    cases hread : read (d :: cs) with
    | none =>
      rw [Option.map_none]
      dsimp only
      rw [sift_append h tail (Nat.zero_le _)]
      rfl
    | some r =>
      have hlength : (cs ++ c :: tail).length - (r.2 ++ c :: tail).length =
          cs.length - r.2.length := by
        simp only [List.length_append]
        omega
      rw [Option.map_some]
      dsimp only
      rw [hlength, sift_append h tail (Nat.sub_le _ _)]
      rfl

/-- What is left of a text is part of it. -/
theorem sift_sublist : ∀ {cs : List Char} {skip : Nat}, (sift read skip cs).2.Sublist cs
  | [], skip => by cases skip <;> exact List.Sublist.refl _
  | d :: cs, skip + 1 => by
    show (sift read skip cs).2.Sublist _
    exact sift_sublist.cons d
  | d :: cs, 0 => by
    rw [sift]
    split
    · exact sift_sublist.cons d
    · exact sift_sublist.cons_cons d

end Stops

/-! ### Phrases that stop -/

namespace Pattern

variable {c : Char}

/-- Whether no text that the pattern takes has a character. A pattern that looks for the end of the
text has none. -/
def excludes (c : Char) : Pattern → Bool
  | word s => !s.toList.contains c
  | oneOf words => words.all fun s => !s.toList.contains c
  | run p => !p c
  | upTo _ => false
  | maybe p => p.excludes c
  | seq p q => p.excludes c && q.excludes c
  | named _ p => p.excludes c

theorem isPrefixOf?_before (tail : List Char) : ∀ {s cs : List Char}, s.contains c = false →
    s.isPrefixOf? (cs ++ c :: tail) = (s.isPrefixOf? cs).map (· ++ c :: tail)
  | [], _, _ => rfl
  | a :: s, [], h => by
    have hne : (a == c) = false := by
      rw [List.contains_cons, Bool.or_eq_false_iff] at h
      rw [beq_eq_false_iff_ne] at h ⊢
      exact h.1.symm
    show (if a == c then s.isPrefixOf? tail else none) = none
    rw [hne]
    rfl
  | a :: s, b :: cs, h => by
    rw [List.contains_cons, Bool.or_eq_false_iff] at h
    show (if a == b then s.isPrefixOf? (cs ++ c :: tail) else none) =
      (if a == b then s.isPrefixOf? cs else none).map _
    split
    · exact isPrefixOf?_before tail h.2
    · rfl

/-- No word is found across a character that none of them has. -/
theorem firstWord_before (tail cs : List Char) {words : List String}
    (h : ∀ s ∈ words, s.toList.contains c = false) :
    (words.findSome? fun s => s.toList.isPrefixOf? (cs ++ c :: tail)) =
      (words.findSome? fun s => s.toList.isPrefixOf? cs).map (· ++ c :: tail) := by
  induction words with
  | nil => rfl
  | cons s words ih =>
    obtain ⟨hs, hwords⟩ := List.forall_mem_cons.1 h
    rw [List.findSome?_cons, List.findSome?_cons, isPrefixOf?_before tail hs, ih hwords]
    cases s.toList.isPrefixOf? cs <;> rfl

/-- A run ends before a character that is not of its kind. -/
theorem takeWhile_before {p : Char → Bool} (h : p c = false) (cs tail : List Char) :
    (cs ++ c :: tail).takeWhile p = cs.takeWhile p := by
  induction cs with
  | nil => exact List.takeWhile_cons_of_neg (Bool.eq_false_iff.1 h)
  | cons d cs ih => rw [List.cons_append, List.takeWhile_cons, List.takeWhile_cons, ih]

theorem dropWhile_before {p : Char → Bool} (h : p c = false) (cs tail : List Char) :
    (cs ++ c :: tail).dropWhile p = cs.dropWhile p ++ c :: tail := by
  induction cs with
  | nil => exact List.dropWhile_cons_of_neg (Bool.eq_false_iff.1 h)
  | cons d cs ih =>
    rw [List.cons_append, List.dropWhile_cons, List.dropWhile_cons, ih]
    split <;> rfl

/-- What a reader has taken of a text is the same when more text follows. -/
theorem taken_before {cs rest tail : List Char} :
    (cs ++ c :: tail).take ((cs ++ c :: tail).length - (rest ++ c :: tail).length) =
      cs.take (cs.length - rest.length) := by
  rw [List.length_append, List.length_append, Nat.add_sub_add_right,
    List.take_append_of_le_length (Nat.sub_le _ _)]

/-- **A pattern stops at a character that it excludes.** -/
theorem read_before {p : Pattern} (h : p.excludes c = true) (cs tail : List Char) :
    p.read (cs ++ c :: tail) = (p.read cs).map fun r => (r.1, r.2 ++ c :: tail) := by
  induction p generalizing cs with
  | word s =>
    rw [excludes, Bool.not_eq_true'] at h
    rw [read, read, isPrefixOf?_before tail h, Option.map_map, Option.map_map]
    rfl
  | oneOf words =>
    have hwords : ∀ s ∈ words, s.toList.contains c = false := by
      intro s hs
      rw [← Bool.not_eq_true']
      exact List.all_eq_true.1 h s hs
    rw [read, read, firstWord_before tail cs hwords, Option.map_map, Option.map_map]
    rfl
  | run p =>
    rw [excludes, Bool.not_eq_true'] at h
    rw [read, read, takeWhile_before h, dropWhile_before h]
    split <;> rfl
  | upTo s => cases h
  | maybe p ih =>
    rw [read, read, ih h]
    cases read p cs <;> rfl
  | seq p q ihp ihq =>
    obtain ⟨hp, hq⟩ := Bool.and_eq_true_iff.1 h
    change read (p ++ q) _ = (read (p ++ q) _).map _
    rw [read_append, read_append, ihp hp]
    cases read p cs with
    | none => rfl
    | some r =>
      simp only [Option.map_some, Option.bind_some, ihq hq, Option.map_map]
      rfl
  | named slot p ih =>
    rw [read, read, ih h]
    cases hread : read p cs with
    | none => rfl
    | some r =>
      show some _ = some _
      rw [taken_before]

end Pattern

theorem Rule.stopsAt {α : Type} {c : Char} {rules : List (Rule α)}
    (h : ∀ r ∈ rules, r.pattern.excludes c = true ∧ r.pattern.read [] = none) :
    StopsAt (Rule.readFirst rules) c where
  nothing := by
    rw [Rule.readFirst, List.findSome?_eq_none_iff]
    intro r hr
    rw [(h r hr).2]
    rfl
  before cs tail := by
    unfold Rule.readFirst
    induction rules with
    | nil => rfl
    | cons r rules ih =>
      rw [List.forall_mem_cons] at h
      rw [List.findSome?_cons, List.findSome?_cons, Pattern.read_before h.1.1, ih h.2]
      cases r.pattern.read cs <;> rfl

end CardLesson.Wording
