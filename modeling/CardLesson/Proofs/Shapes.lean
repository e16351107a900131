/-
# What texts of a phrase look like

A phrase can be taken apart into shapes: characters that stand as they are, and runs of characters
of a class. A text that a phrase covers fits one of its shapes. Two shapes are apart when comparing
them from the front, or from the back, comes to a place where no character fits both; then no text
fits the two, so phrases whose shapes are apart never cover one text.

Only the shape is looked at, not how a pattern is read: whether a run takes all that it can makes no
difference to what it may take.

Key definitions: `Piece`, `Pattern.shapes`, `Fits`, `apart`, `Pattern.isApart`.
Key theorems: `read_fits`, `covers?_fits`, `not_fits_both`, `not_covers_both`.
-/
import CardLesson.Wording.Pattern
import Mathlib.Data.List.TakeWhile

namespace CardLesson.Wording

open Pattern

/-! ### Shapes -/

/-- A part of a shape: a character, or one or more characters of a class. -/
inductive Piece where
  | lit (c : Char)
  | run (p : Char → Bool)

/-- Whether no line end belongs to a part of a shape. -/
def Piece.isInline : Piece → Bool
  | lit c => c != '\n'
  | run p => !p '\n'

/-- The shapes of a phrase: one for each choice of a word, with each part that may be left out or
not. -/
def Pattern.shapes : Pattern → List (List Piece)
  | word s => [s.toList.map .lit]
  | oneOf words => words.map fun s => s.toList.map .lit
  | run p => [[.run p]]
  | upTo _ => [[.run isInline]]
  | maybe p => [] :: p.shapes
  | seq p q => p.shapes.flatMap fun s => q.shapes.map (s ++ ·)
  | named _ p => p.shapes

/-- The text has the shape. -/
def Fits : List Piece → List Char → Prop
  | [], cs => cs = []
  | .lit c :: s, cs => ∃ rest, cs = c :: rest ∧ Fits s rest
  | .run p :: s, cs => ∃ taken rest, cs = taken ++ rest ∧ taken ≠ [] ∧ (∀ c ∈ taken, p c = true) ∧
      Fits s rest

section Fits

variable {s t : List Piece} {cs ds : List Char} {p : Char → Bool}

theorem fits_lits : ∀ cs : List Char, Fits (cs.map .lit) cs
  | [] => rfl
  | _ :: cs => ⟨cs, rfl, fits_lits cs⟩

theorem fits_run (hcs : cs ≠ []) (h : ∀ c ∈ cs, p c = true) : Fits [.run p] cs :=
  ⟨cs, [], (List.append_nil cs).symm, hcs, h, rfl⟩

theorem Fits.append : ∀ {s : List Piece} {cs : List Char}, Fits s cs → Fits t ds →
    Fits (s ++ t) (cs ++ ds)
  | [], _, h, ht => by
    obtain rfl := h
    exact ht
  | .lit c :: s, _, h, ht => by
    obtain ⟨rest, rfl, h⟩ := h
    exact ⟨rest ++ ds, rfl, h.append ht⟩
  | .run p :: s, _, h, ht => by
    obtain ⟨taken, rest, rfl, hne, hall, h⟩ := h
    exact ⟨taken, rest ++ ds, List.append_assoc .., hne, hall, h.append ht⟩

/-- A text turned round has its shape turned round. -/
theorem Fits.reverse : ∀ {s : List Piece} {cs : List Char}, Fits s cs → Fits s.reverse cs.reverse
  | [], _, h => by
    obtain rfl := h
    rfl
  | .lit c :: s, _, h => by
    obtain ⟨rest, rfl, h⟩ := h
    rw [List.reverse_cons, List.reverse_cons]
    exact h.reverse.append ⟨[], rfl, rfl⟩
  | .run p :: s, _, h => by
    obtain ⟨taken, rest, rfl, hne, hall, h⟩ := h
    rw [List.reverse_cons, List.reverse_append]
    refine h.reverse.append (fits_run (by simpa using hne) fun c hc => ?_)
    exact hall c (List.mem_reverse.1 hc)

theorem Fits.ne_nil {piece : Piece} (h : Fits (piece :: s) cs) : cs ≠ [] := by
  cases piece with
  | lit c =>
    obtain ⟨rest, rfl, -⟩ := h
    exact List.cons_ne_nil c rest
  | run p =>
    obtain ⟨taken, rest, rfl, hne, -⟩ := h
    exact List.append_ne_nil_of_left_ne_nil hne rest

/-- The first character of a text whose shape starts with a run belongs to the run. -/
theorem Fits.starts {c : Char} (h : Fits (.run p :: s) (c :: cs)) : p c = true := by
  obtain ⟨taken, rest, heq, hne, hall, -⟩ := h
  cases taken with
  | nil => exact absurd rfl hne
  | cons d taken =>
    obtain rfl := (List.cons.inj heq).1
    exact hall c List.mem_cons_self

/-- No line end is in a text whose shape has none. -/
theorem Fits.inline : ∀ {s : List Piece} {cs : List Char}, s.all Piece.isInline = true →
    Fits s cs → '\n' ∉ cs
  | [], _, _, h => by
    obtain rfl := h
    exact List.not_mem_nil
  | .lit c :: s, _, hs, h => by
    obtain ⟨hc, hs⟩ := Bool.and_eq_true_iff.1 hs
    obtain ⟨rest, rfl, h⟩ := h
    have hne : '\n' ≠ c := Ne.symm (bne_iff_ne.1 hc)
    exact List.not_mem_cons_of_ne_of_not_mem hne (h.inline hs)
  | .run p :: s, _, hs, h => by
    obtain ⟨hp, hs⟩ := Bool.and_eq_true_iff.1 hs
    obtain ⟨taken, rest, rfl, -, hall, h⟩ := h
    refine List.not_mem_append (fun hmem => ?_) (h.inline hs)
    rw [Piece.isInline, hall _ hmem] at hp
    cases hp

end Fits

/-! ### What patterns read -/

theorem isPrefixOf?_fits {s : String} {cs rest : List Char}
    (h : s.toList.isPrefixOf? cs = some rest) :
    ∃ taken, cs = taken ++ rest ∧ Fits (s.toList.map .lit) taken :=
  ⟨s.toList, eq_append_of_isPrefixOf? h, fits_lits s.toList⟩

/-- **What a pattern takes from a text has one of its shapes.** -/
theorem read_fits {p : Pattern} {cs rest : List Char} {found : Found}
    (h : p.read cs = some (found, rest)) :
    ∃ s ∈ p.shapes, ∃ taken, cs = taken ++ rest ∧ Fits s taken := by
  induction p generalizing cs rest found with
  | word s =>
    simp only [Pattern.read, Option.map_eq_some_iff, Prod.mk.injEq] at h
    obtain ⟨r, hr, -, rfl⟩ := h
    exact ⟨_, List.mem_singleton_self _, isPrefixOf?_fits hr⟩
  | oneOf words =>
    simp only [Pattern.read, Option.map_eq_some_iff, Prod.mk.injEq] at h
    obtain ⟨r, hr, -, rfl⟩ := h
    obtain ⟨s, hs, hprefix⟩ := List.exists_of_findSome?_eq_some hr
    exact ⟨_, List.mem_map_of_mem hs, isPrefixOf?_fits hprefix⟩
  | run p =>
    simp only [Pattern.read] at h
    split at h
    · cases h
    · next hsome =>
      obtain ⟨-, rfl⟩ := Prod.mk.inj (Option.some.inj h)
      exact ⟨_, List.mem_singleton_self _, cs.takeWhile p, List.takeWhile_append_dropWhile.symm,
        fits_run (by simpa using hsome) fun c hc => List.mem_takeWhile_imp hc⟩
  | upTo s =>
    simp only [Pattern.read] at h
    split at h
    · next before rest' hsplit =>
      split at h
      · cases h
      · next hline =>
        obtain ⟨-, rfl⟩ := Prod.mk.inj (Option.some.inj h)
        simp only [Bool.or_eq_true, not_or, Bool.not_eq_true', Bool.not_eq_false,
          List.isEmpty_iff, List.all_eq_true] at hline
        exact ⟨_, List.mem_singleton_self _, before, eq_append_of_splitEnd? hsplit,
          fits_run hline.1 hline.2⟩
    · cases h
  | maybe p ih =>
    simp only [Pattern.read, Option.some.injEq] at h
    cases hread : p.read cs with
    | none =>
      rw [hread] at h
      obtain ⟨-, rfl⟩ := Prod.mk.inj h
      exact ⟨[], List.mem_cons_self, [], rfl, rfl⟩
    | some r =>
      rw [hread] at h
      obtain ⟨s, hs, hfits⟩ := ih (hread.trans (congrArg some h))
      exact ⟨s, List.mem_cons_of_mem _ hs, hfits⟩
  | seq p q ihp ihq =>
    change (p ++ q).read cs = _ at h
    simp only [read_append, Option.bind_eq_some_iff, Option.map_eq_some_iff, Prod.mk.injEq] at h
    obtain ⟨⟨_, mid⟩, hp, ⟨_, r⟩, hq, -, rfl⟩ := h
    obtain ⟨s, hs, taken, rfl, hfits⟩ := ihp hp
    obtain ⟨t, ht, taken', rfl, hfits'⟩ := ihq hq
    exact ⟨s ++ t, List.mem_flatMap.2 ⟨s, hs, List.mem_map_of_mem ht⟩, taken ++ taken',
      (List.append_assoc ..).symm, hfits.append hfits'⟩
  | named slot p ih =>
    simp only [Pattern.read] at h
    cases hread : p.read cs with
    | none => simp [hread] at h
    | some r =>
      simp [hread] at h
      exact ih (hread.trans (congrArg some (Prod.ext rfl h.2)))

/-- **A text that a phrase covers has one of its shapes**, a line end at its end left aside. -/
theorem covers?_fits {p : Pattern} {cs : List Char} (h : (p.covers? cs).isSome = true) :
    ∃ s ∈ p.shapes, ∃ taken, (cs = taken ∨ cs = taken ++ ['\n']) ∧ Fits s taken := by
  unfold covers? at h
  split at h
  · next hread =>
    obtain ⟨s, hs, taken, rfl, hfits⟩ := read_fits hread
    exact ⟨s, hs, taken, .inl (List.append_nil taken), hfits⟩
  · next hread =>
    obtain ⟨s, hs, taken, rfl, hfits⟩ := read_fits hread
    exact ⟨s, hs, taken, .inr rfl, hfits⟩
  · cases h

/-! ### Shapes that no text has in common -/

/-- Whether comparing two shapes from the front comes to a place where no character fits both. Two
runs are compared only where the character after each of them ends the other one, as they are then
as long as each other. -/
def apart : List Piece → List Piece → Bool
  | [], [] => false
  | [], _ :: _ => true
  | _ :: _, [] => true
  | .lit a :: s, .lit b :: t => a != b || apart s t
  | .lit a :: _, .run q :: _ => !q a
  | .run p :: _, .lit b :: _ => !p b
  | .run p :: .lit a :: s, .run q :: .lit b :: t => !q a && !p b && (a != b || apart s t)
  | _, _ => false

/-- Two runs that the character after them ends are as long as each other. -/
theorem runs_eq {p q : Char → Bool} {a b : Char} {cs ds rest rest' : List Char}
    (hcs : ∀ c ∈ cs, p c = true) (hds : ∀ c ∈ ds, q c = true) (ha : q a = false) (hb : p b = false)
    (h : cs ++ a :: rest = ds ++ b :: rest') : a = b ∧ rest = rest' := by
  obtain ⟨mid, rfl, hmid⟩ | ⟨mid, rfl, hmid⟩ := List.append_eq_append_iff.1 h
  · cases mid with
    | nil => exact List.cons.inj hmid
    | cons c mid =>
      obtain rfl := (List.cons.inj hmid).1
      rw [hds a (by simp)] at ha
      cases ha
  · cases mid with
    | nil => exact (List.cons.inj hmid).imp Eq.symm Eq.symm
    | cons c mid =>
      obtain rfl := (List.cons.inj hmid).1
      rw [hcs b (by simp)] at hb
      cases hb

/-- **No text has two shapes that are apart.** -/
theorem not_fits_both {s t : List Piece} {cs : List Char} (h : apart s t = true) (hs : Fits s cs) :
    ¬ Fits t cs := by
  intro ht
  fun_induction apart s t generalizing cs with
  | case1 => cases h
  | case2 piece t =>
    obtain rfl := hs
    exact ht.ne_nil rfl
  | case3 piece s =>
    obtain rfl := ht
    exact hs.ne_nil rfl
  | case4 a s b t ih =>
    obtain ⟨rest, rfl, hs⟩ := hs
    obtain ⟨rest', heq, ht⟩ := ht
    obtain ⟨rfl, rfl⟩ := List.cons.inj heq
    exact ih (by simpa using h) hs ht
  | case5 a s q t =>
    obtain ⟨rest, rfl, -⟩ := hs
    rw [ht.starts] at h
    cases h
  | case6 p s b t =>
    obtain ⟨rest, rfl, -⟩ := ht
    rw [hs.starts] at h
    cases h
  | case7 p a s q b t ih =>
    obtain ⟨taken, _, rfl, -, hp, rest, rfl, hs⟩ := hs
    obtain ⟨taken', _, heq, -, hq, rest', rfl, ht⟩ := ht
    simp only [Bool.and_eq_true, Bool.not_eq_true'] at h
    obtain ⟨⟨hqa, hpb⟩, h⟩ := h
    obtain ⟨rfl, rfl⟩ := runs_eq hp hq hqa hpb heq
    exact ih (by simpa using h) hs ht
  | case8 => cases h

/-! ### Phrases that no text has in common -/

/-- Whether no line end belongs to a phrase. -/
def Pattern.isOneLine (p : Pattern) : Bool := p.shapes.all fun s => s.all Piece.isInline

/-- Whether all shapes of two phrases are apart, from the front or from the back. -/
def Pattern.isApart (p q : Pattern) : Bool :=
  p.shapes.all fun s => q.shapes.all fun t => apart s t || apart s.reverse t.reverse

/-- A text of one line is known when the text with or without a line end after it is. -/
theorem line_eq {cs ds ds' : List Char} (h : cs = ds ∨ cs = ds ++ ['\n'])
    (h' : cs = ds' ∨ cs = ds' ++ ['\n']) (hds : '\n' ∉ ds) (hds' : '\n' ∉ ds') : ds = ds' := by
  rcases h with rfl | rfl <;> rcases h' with h' | h'
  · exact h'
  · exact absurd (h' ▸ List.mem_append_right ds' List.mem_cons_self) hds
  · exact absurd (h' ▸ List.mem_append_right ds List.mem_cons_self) hds'
  · exact List.append_cancel_right h'

/-- **No text is covered by two phrases whose shapes are apart.** -/
theorem not_covers_both {p q : Pattern} (hp : p.isOneLine = true) (hq : q.isOneLine = true)
    (hapart : p.isApart q = true) {cs : List Char} (h : (p.covers? cs).isSome = true) :
    ¬ (q.covers? cs).isSome = true := by
  intro h'
  obtain ⟨s, hs, taken, htaken, hfits⟩ := covers?_fits h
  obtain ⟨t, ht, taken', htaken', hfits'⟩ := covers?_fits h'
  obtain rfl : taken = taken' := line_eq htaken htaken'
    (hfits.inline (List.all_eq_true.1 hp s hs)) (hfits'.inline (List.all_eq_true.1 hq t ht))
  have hst := List.all_eq_true.1 (List.all_eq_true.1 hapart s hs) t ht
  rcases Bool.or_eq_true_iff.1 hst with hfront | hback
  · exact not_fits_both hfront hfits hfits'
  · exact not_fits_both hback hfits.reverse hfits'.reverse

/-- Whether each two phrases of a list are apart and none goes over a line end. -/
def allApart : List Pattern → Bool
  | [] => true
  | p :: ps => p.isOneLine && ps.all p.isApart && allApart ps

theorem isOneLine_of_allApart : ∀ {ps : List Pattern}, allApart ps = true →
    ∀ p ∈ ps, p.isOneLine = true
  | [], _, _, hp => absurd hp List.not_mem_nil
  | q :: ps, h, p, hp => by
    simp only [allApart, Bool.and_eq_true] at h
    rcases List.mem_cons.1 hp with rfl | hp
    · exact h.1.1
    · exact isOneLine_of_allApart h.2 p hp

/-- **At most one of some phrases that are apart covers a text.** -/
theorem countP_covers_le_one (cs : List Char) : ∀ {ps : List Pattern}, allApart ps = true →
    ps.countP (fun p => (p.covers? cs).isSome) ≤ 1
  | [], _ => Nat.zero_le 1
  | p :: ps, h => by
    have hlines := isOneLine_of_allApart h
    simp only [allApart, Bool.and_eq_true, List.all_eq_true] at h
    obtain ⟨⟨hp, hapart⟩, hrest⟩ := h
    by_cases hcovers : (p.covers? cs).isSome = true
    · have hnone : ps.countP (fun q => (q.covers? cs).isSome) = 0 :=
        List.countP_eq_zero.2 fun q hq =>
          not_covers_both hp (hlines q (List.mem_cons_of_mem p hq)) (hapart q hq) hcovers
      simp [hnone, hcovers]
    · simpa [hcovers] using countP_covers_le_one cs hrest

end CardLesson.Wording
