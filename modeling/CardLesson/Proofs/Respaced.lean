/-
# Descriptions as cards keep them

A card keeps the description of its row in plain form, with ` / ` for every comma. It says the same.
No flag, usage condition or span can stand across a comma, a stroke or a space: readers of them stop
there (`Quiet`). So a text that cuts its fragments in the same places, by other separators and with
more spaces around them, gives the same finds and the same fragments (`Respaced`).

Key definitions: `Padded`, `Respaced`, `Quiet`.
Key theorems: `Respaced.sift`, `Respaced.fragments`, `Respaced.trim`, `Description.read_respaced`,
`stored_description_says_the_same`.
-/
import CardLesson.Proofs.Reading
import CardLesson.Proofs.Stops
import CardLesson.Sheet.Compilation

namespace CardLesson.Wording

/-! ### Texts with other spaces -/

/-- Characters between fragments. -/
def isCut (c : Char) : Bool := c == ',' || c == '/'

/-- A text with spaces around it. -/
def Padded (t u : List Char) : Prop :=
  ∃ m n, u = List.replicate m ' ' ++ (t ++ List.replicate n ' ')

/-- The second text has the same pieces as the first, with spaces around them. -/
inductive Respaced : List Char → List Char → Prop
  | last {t u} (ht : ∀ c ∈ t, isCut c = false) (hu : Padded t u) : Respaced t u
  | cut {t u cs cs' c c'} (ht : ∀ c ∈ t, isCut c = false) (hu : Padded t u)
      (hc : isCut c = true) (hc' : isCut c' = true) (rest : Respaced cs cs') :
      Respaced (t ++ c :: cs) (u ++ c' :: cs')

theorem isCut_iff {c : Char} : isCut c = true ↔ c = ',' ∨ c = '/' := by simp [isCut]

/-- A cut is no blank. -/
theorem isBlank_of_isCut {c : Char} (h : isCut c = true) : Text.isBlank c = false := by
  rcases isCut_iff.1 h with rfl | rfl <;> rfl

namespace Padded

theorem refl (t : List Char) : Padded t t := ⟨0, 0, (List.append_nil t).symm⟩

variable {t u : List Char}

theorem isCut_of_mem (h : Padded t u) (ht : ∀ c ∈ t, isCut c = false) :
    ∀ c ∈ u, isCut c = false := by
  obtain ⟨m, n, rfl⟩ := h
  intro c hc
  simp only [List.mem_append, List.mem_replicate] at hc
  rcases hc with ⟨-, rfl⟩ | hc | ⟨-, rfl⟩
  · rfl
  · exact ht c hc
  · rfl

end Padded

/-- ` / ` for every comma leaves the pieces as they are, with spaces around them. -/
theorem respaced_spacedOut : ∀ (cs t : List Char) (m : Nat), (∀ c ∈ t, isCut c = false) →
    Respaced (t ++ cs) (List.replicate m ' ' ++ (t ++ spacedOut cs))
  | [], t, m, ht => by
    rw [List.append_nil]
    exact .last ht ⟨m, 0, rfl⟩
  | c :: cs, t, m, ht => by
    by_cases hcut : isCut c = true
    · rcases isCut_iff.1 hcut with rfl | rfl
      · have hrest := respaced_spacedOut cs [] 1 (List.forall_mem_nil _)
        have h : Respaced (t ++ ',' :: cs) (_ ++ '/' :: _) := .cut ht ⟨m, 1, rfl⟩ hcut rfl hrest
        simpa [spacedOut] using h
      · have hrest := respaced_spacedOut cs [] 0 (List.forall_mem_nil _)
        have h : Respaced (t ++ '/' :: cs) (_ ++ '/' :: _) := .cut ht ⟨m, 0, rfl⟩ hcut rfl hrest
        simpa [spacedOut] using h
    · have hrest := respaced_spacedOut cs (t ++ [c]) m fun d hd => by
        rcases List.mem_append.1 hd with hd | hd
        · exact ht d hd
        · exact List.mem_singleton.1 hd ▸ Bool.eq_false_iff.2 hcut
      have hne : c ≠ ',' := fun h => hcut (isCut_iff.2 (.inl h))
      simpa [spacedOut, hne] using hrest

/-! ### What is found -/

section Found

variable {α : Type} {read : List Char → Option (α × List Char)}

/-- A reader that stops at cuts and spaces. -/
def Quiet (read : List Char → Option (α × List Char)) : Prop :=
  ∀ c ∈ [',', '/', ' '], StopsAt read c

/-- A pattern is quiet if it excludes cuts and spaces. -/
theorem Quiet.of_excludes {p : Pattern} (h : [',', '/', ' '].all p.excludes = true)
    (hnil : p.read [] = none) : Quiet p.read :=
  fun c hc => ⟨hnil, Pattern.read_before (List.all_eq_true.1 h c hc)⟩

theorem Quiet.of_rules {rules : List (Rule α)}
    (h : (rules.all fun r => [',', '/', ' '].all r.pattern.excludes) = true)
    (hnil : (rules.all fun r => (r.pattern.read []).isNone) = true) :
    Quiet (Rule.readFirst rules) := by
  rw [List.all_eq_true] at h hnil
  exact fun c hc => Rule.stopsAt fun r hr =>
    ⟨List.all_eq_true.1 (h r hr) c hc, Option.isNone_iff_eq_none.1 (hnil r hr)⟩

theorem Quiet.space (h : Quiet read) : StopsAt read ' ' := h ' ' (by decide)

theorem Quiet.cut (h : Quiet read) {c : Char} (hc : isCut c = true) : StopsAt read c := by
  rcases isCut_iff.1 hc with rfl | rfl
  · exact h ',' (by decide)
  · exact h '/' (by decide)

theorem sift_spaces (h : StopsAt read ' ') (cs : List Char) (n : Nat) :
    sift read 0 (List.replicate n ' ' ++ cs) =
      ((sift read 0 cs).1, List.replicate n ' ' ++ (sift read 0 cs).2) := by
  induction n with
  | zero => rfl
  | succ n ih =>
    have hstep := sift_append h (List.replicate n ' ' ++ cs) (Nat.zero_le ([] : List Char).length)
    rw [ih] at hstep
    exact hstep

theorem Padded.sift {t u : List Char} (h : StopsAt read ' ') (hu : Padded t u) :
    (sift read 0 u).1 = (sift read 0 t).1 ∧ Padded (sift read 0 t).2 (sift read 0 u).2 := by
  obtain ⟨m, n, rfl⟩ := hu
  rw [sift_spaces h]
  cases n with
  | zero => rw [List.replicate_zero, List.append_nil]; exact ⟨rfl, m, 0, by simp⟩
  | succ n =>
    have hspaces := sift_spaces h [] n
    rw [List.append_nil] at hspaces
    rw [List.replicate_succ, sift_append h _ (Nat.zero_le _), hspaces]
    exact ⟨List.append_nil _, m, n + 1, by simp [Wording.sift, List.replicate_succ]⟩

/-- **In a respaced text the same is found, and what is left is respaced.** -/
theorem Respaced.sift {cs cs' : List Char} (hread : Quiet read) (h : Respaced cs cs') :
    (sift read 0 cs').1 = (sift read 0 cs).1 ∧
      Respaced (Wording.sift read 0 cs).2 (Wording.sift read 0 cs').2 := by
  induction h with
  | last ht hu =>
    obtain ⟨hfound, hleft⟩ := hu.sift hread.space
    exact ⟨hfound, .last (fun c hc => ht c (sift_sublist.subset hc)) hleft⟩
  | cut ht hu hc hc' rest ih =>
    obtain ⟨hfound, hleft⟩ := hu.sift hread.space
    rw [sift_append (hread.cut hc) _ (Nat.zero_le _), sift_append (hread.cut hc') _ (Nat.zero_le _),
      hfound, ih.1]
    exact ⟨rfl, .cut (fun c hc => ht c (sift_sublist.subset hc)) hleft hc hc' ih.2⟩

end Found

/-! ### Ends that are trimmed -/

section Trimmed

variable {p : Char → Bool}

theorem trimStart_spaces (hp : p ' ' = true) (n : Nat) (cs : List Char) :
    Text.trimStart p (List.replicate n ' ' ++ cs) = Text.trimStart p cs :=
  List.dropWhile_append_of_pos fun _ hc => List.eq_of_mem_replicate hc ▸ hp

theorem trimEnd_spaces (hp : p ' ' = true) (n : Nat) (cs : List Char) :
    Text.trimEnd p (cs ++ List.replicate n ' ') = Text.trimEnd p cs := by
  unfold Text.trimEnd
  rw [List.reverse_append, List.reverse_replicate]
  exact congrArg List.reverse (trimStart_spaces hp n cs.reverse)

theorem trimEnd_append_cons {c : Char} (hc : p c = false) (cs tail : List Char) :
    Text.trimEnd p (cs ++ c :: tail) = cs ++ c :: Text.trimEnd p tail := by
  unfold Text.trimEnd
  rw [List.reverse_append, List.reverse_cons, List.append_assoc, List.dropWhile_append]
  split
  · next hempty =>
    rw [List.isEmpty_iff.1 hempty, List.singleton_append,
      List.dropWhile_cons_of_neg (by rw [hc]; exact Bool.false_ne_true)]
    simp
  · simp

/-- Spaces around a text are trimmed with whatever is trimmed. -/
theorem Padded.trimBy {t u : List Char} (hp : p ' ' = true) (hu : Padded t u) :
    Text.trimBy p u = Text.trimBy p t := by
  obtain ⟨m, n, rfl⟩ := hu
  unfold Text.trimBy
  rw [trimStart_spaces hp]
  unfold Text.trimStart
  rw [List.dropWhile_append]
  split
  · next hempty =>
    have hspaces := trimStart_spaces hp n []
    rw [List.append_nil] at hspaces
    rw [List.isEmpty_iff.1 hempty]
    exact congrArg (Text.trimEnd p) hspaces
  · exact trimEnd_spaces hp n _

end Trimmed

theorem trimStart_of_head {p : Char → Bool} : ∀ {cs : List Char}, (∀ c ∈ cs.head?, p c = false) →
    Text.trimStart p cs = cs
  | [], _ => rfl
  | c :: _, h => Text.trimStart_eq_self (h c rfl)

/-- What is left of spaces before a text that starts with no blank. -/
theorem Padded.trimStart {t u : List Char} (hu : Padded t u) (tail : List Char)
    (ht : ∀ c ∈ (t ++ tail).head?, Text.isBlank c = false) :
    ∃ u', Padded t u' ∧ Text.trimStart Text.isBlank (u ++ tail) = u' ++ tail := by
  obtain ⟨m, n, rfl⟩ := hu
  rw [List.append_assoc, trimStart_spaces rfl]
  cases t with
  | nil =>
    rw [List.nil_append] at ht ⊢
    rw [trimStart_spaces rfl, trimStart_of_head ht]
    exact ⟨[], .refl [], rfl⟩
  | cons c t =>
    exact ⟨c :: t ++ List.replicate n ' ', ⟨0, n, rfl⟩, Text.trimStart_eq_self (ht c rfl)⟩

/-- What is left of spaces after a text that ends with no blank. -/
theorem Padded.trimEnd {t u : List Char} (hu : Padded t u)
    (ht : ∀ c ∈ t.getLast?, Text.isBlank c = false) : Padded t (Text.trimEnd Text.isBlank u) := by
  obtain ⟨m, n, rfl⟩ := hu
  rw [← List.append_assoc, trimEnd_spaces rfl]
  rcases List.eq_nil_or_concat t with rfl | ⟨t, c, rfl⟩
  · rw [List.append_nil, ← List.nil_append (List.replicate m ' '), trimEnd_spaces rfl]
    exact .refl []
  · rw [List.concat_eq_append] at ht ⊢
    rw [← List.append_assoc, Text.trimEnd_eq_self (ht c List.getLast?_concat)]
    exact ⟨m, 0, by simp⟩

namespace Respaced

variable {cs cs' : List Char}

/-- **A respaced text has the same fragments.** -/
theorem fragments (h : Respaced cs cs') : fragments cs' = fragments cs := by
  show ((cs'.splitOnP isCut).map _).filter _ = ((cs.splitOnP isCut).map _).filter _
  refine congrArg (List.filter _) ?_
  induction h with
  | last ht hu =>
    rw [List.splitOnP_eq_singleton ht, List.splitOnP_eq_singleton (hu.isCut_of_mem ht)]
    exact congrArg ([·]) (hu.trimBy rfl)
  | cut ht hu hc hc' rest ih =>
    rw [List.splitOnP_append_cons_of_forall_mem ht _ hc,
      List.splitOnP_append_cons_of_forall_mem (hu.isCut_of_mem ht) _ hc', List.map_cons,
      List.map_cons, ih, hu.trimBy rfl]

/-- A text that starts with no blank is respaced when blanks before it are cut off. -/
theorem trimStart (h : Respaced cs cs') (hcs : ∀ c ∈ cs.head?, Text.isBlank c = false) :
    Respaced cs (Text.trimStart Text.isBlank cs') := by
  cases h with
  | last ht hu =>
    obtain ⟨u', hu', htrim⟩ := hu.trimStart [] (by rwa [List.append_nil])
    rw [List.append_nil, List.append_nil] at htrim
    exact htrim ▸ .last ht hu'
  | @cut t u rest rest' c c' ht hu hc hc' hrest =>
    obtain ⟨u', hu', htrim⟩ := hu.trimStart (c' :: rest') (by
      cases t with
      | nil => simpa using isBlank_of_isCut hc'
      | cons d t => simpa using hcs)
    exact htrim ▸ .cut ht hu' hc hc' hrest

/-- A text that ends with no blank is respaced when blanks after it are cut off. -/
theorem trimEnd (h : Respaced cs cs') (hcs : ∀ c ∈ cs.getLast?, Text.isBlank c = false) :
    Respaced cs (Text.trimEnd Text.isBlank cs') := by
  induction h with
  | last ht hu => exact .last ht (hu.trimEnd hcs)
  | @cut t u rest rest' c c' ht hu hc hc' hrest ih =>
    rw [trimEnd_append_cons (isBlank_of_isCut hc')]
    refine .cut ht hu hc hc' (ih fun d hd => hcs d ?_)
    rw [List.getLast?_append, List.getLast?_cons, hd]
    rfl

/-- A text with no blanks at its ends is respaced when blanks around it are cut off. -/
theorem trim (h : Respaced cs cs') (hhead : ∀ c ∈ cs.head?, Text.isBlank c = false)
    (hlast : ∀ c ∈ cs.getLast?, Text.isBlank c = false) : Respaced cs (Text.trim cs') :=
  (h.trimStart hhead).trimEnd hlast

end Respaced

/-! ### Stored descriptions -/

theorem uniqueFlag_quiet : Quiet uniqueFlag.read := .of_excludes (by decide) rfl

theorem onceFlag_quiet : Quiet onceFlag.read := .of_excludes (by decide) rfl

theorem startFlag_quiet : Quiet startFlag.read := .of_excludes (by decide) rfl

theorem spanPhrase_quiet : Quiet spanPhrase.read := .of_excludes (by decide) rfl

theorem usageRules_quiet : Quiet (Rule.readFirst usageRules) :=
  .of_rules (by decide) (by decide)

namespace Description

/-- **A respaced text says the same.** -/
theorem read_respaced {cs cs' : List Char} (h : Respaced (plain cs) (plain cs')) :
    read cs' = read cs := by
  obtain ⟨hunique, h1⟩ := h.sift uniqueFlag_quiet
  obtain ⟨honce, -⟩ := h.sift onceFlag_quiet
  obtain ⟨hstart, -⟩ := h.sift startFlag_quiet
  obtain ⟨-, h2⟩ := h1.sift onceFlag_quiet
  obtain ⟨-, h3⟩ := h2.sift startFlag_quiet
  obtain ⟨husages, h4⟩ := h3.sift usageRules_quiet
  obtain ⟨hspans, h5⟩ := h4.sift spanPhrase_quiet
  have hpieces : pieces cs' = pieces cs := h5.fragments
  have husages : usages cs' = usages cs := husages
  have hspans : spans cs' = spans cs := hspans
  have hcost : costPhrase? cs' = costPhrase? cs := by rw [costPhrase?, costPhrase?, hpieces]
  have hparts : parts cs' = parts cs := by rw [parts, parts, hpieces]
  rw [read_eq, read_eq, husages, hspans, hcost, hparts]
  unfold occurs
  rw [hunique, honce, hstart]

end Description

section Ends

variable {p : Char → Bool} {cs : List Char}

theorem head?_trimBy : ∀ c ∈ (Text.trimBy p cs).head?, p c = false := by
  intro c hc
  have hprefix : Text.trimBy p cs <+: Text.trimStart p cs := by
    rw [← List.reverse_suffix]
    unfold Text.trimBy Text.trimEnd
    rw [List.reverse_reverse]
    exact List.dropWhile_suffix p
  obtain ⟨tail, htail⟩ := hprefix
  have h := List.head?_dropWhile_not p cs
  have hhead : (cs.dropWhile p).head? = some c := by
    show (Text.trimStart p cs).head? = some c
    rw [← htail, List.head?_append, hc]
    rfl
  rw [hhead] at h
  exact h

theorem getLast?_trimBy : ∀ c ∈ (Text.trimBy p cs).getLast?, p c = false := by
  intro c hc
  unfold Text.trimBy Text.trimEnd at hc
  rw [List.getLast?_reverse] at hc
  have h := List.head?_dropWhile_not p (Text.trimStart p cs).reverse
  rw [hc] at h
  exact h

end Ends

end CardLesson.Wording

namespace CardLesson

open Wording

/-- The card that a row with a name becomes has what its description states, and the description in
plain form with ` / ` for every comma. -/
theorem Row.compile_card {row : Row} {c : Compilation} {card : Card} (h : row.compile = .ok c)
    (hcard : c.card = some card) : ∃ cs said, row.description = .text (String.ofList cs) ∧
      Description.read cs = .ok said ∧ card.effects = said.effects ∧
      card.description = .text (String.ofList (spacedOut (plain cs))) := by
  unfold Row.compile at h
  dsimp only at h
  split at h
  · rw [← Play.except_pure_ok.1 h] at hcard
    cases hcard
  · obtain ⟨⟨card', unknown⟩, hdescribe, h⟩ := Play.except_bind_ok.1 h
    obtain ⟨report, _, h⟩ := Play.except_bind_ok.1 h
    rw [← Play.except_pure_ok.1 h] at hcard
    obtain rfl := Option.some.inj hcard
    obtain ⟨cs, hcs, h⟩ := Play.except_bind_ok.1 hdescribe
    obtain ⟨said, hsaid, h⟩ := Play.except_bind_ok.1 h
    obtain ⟨_, _, h⟩ := Play.except_bind_ok.1 h
    obtain ⟨_, _, h⟩ := Play.except_bind_ok.1 h
    obtain ⟨_, _, h⟩ := Play.except_bind_ok.1 h
    obtain ⟨_, _, h⟩ := Play.except_bind_ok.1 h
    obtain ⟨rfl, _⟩ := Prod.mk.inj (Play.except_pure_ok.1 h)
    refine ⟨cs, said, ?_, hsaid, rfl, rfl⟩
    unfold Datum.characters at hcs
    split at hcs
    · next hs => rw [hs, ← Except.ok.inj hcs, String.ofList_toList]
    · cases hcs

/-- **The stored description says the same as the one of the row**: the same effects, usage
conditions, unknown clauses, HP cost and flags, if the stored text is in compatibility form. -/
theorem stored_description_says_the_same {row : Row} {c : Compilation} {card : Card}
    (hc : row.compile = .ok c) (hcard : c.card = some card) :
    ∃ given stored said, row.description = .text (String.ofList given) ∧
      card.description = .text (String.ofList stored) ∧
      Description.read given = .ok said ∧
      (Text.compatible stored = stored → Description.read stored = .ok said) := by
  obtain ⟨cs, said, hcs, hsaid, -, hdescription⟩ := Row.compile_card hc hcard
  refine ⟨cs, spacedOut (plain cs), said, hcs, hdescription, hsaid, fun hstored => ?_⟩
  have hspaced : Respaced (plain cs) (spacedOut (plain cs)) :=
    respaced_spacedOut (plain cs) [] 0 (List.forall_mem_nil _)
  have hplain : plain (spacedOut (plain cs)) = Text.trim (spacedOut (plain cs)) :=
    congrArg Text.trim hstored
  rw [Description.read_respaced (hplain ▸ hspaced.trim head?_trimBy getLast?_trimBy), hsaid]

/-- Genki, and a flag after a comma. -/
def flaggedRow : Row := { name := "なぞ", description := .text "元気+1,重複不可" }

theorem stored_description_says_the_same_flagged : ∃ c card said,
    flaggedRow.compile = .ok c ∧ c.card = some card ∧
    card.description = .text "元気+1 / 重複不可" ∧
    Description.read "元気+1,重複不可".toList = .ok said ∧
    Description.read "元気+1 / 重複不可".toList = .ok said ∧ said.unique = true := by
  have hcompile : (flaggedRow.compile.toOption.bind (·.card)).any (fun card =>
      card.description.same (.text "元気+1 / 重複不可")) = true := by decide +kernel
  have hunique : (Description.read "元気+1,重複不可".toList).toOption.any (·.unique) = true := by
    decide +kernel
  have hsettled : Text.compatible "元気+1 / 重複不可".toList = "元気+1 / 重複不可".toList :=
    Text.compatible_of_settled (by decide +kernel)
  rcases hc : flaggedRow.compile with f | c
  · rw [hc] at hcompile
    cases hcompile
  rw [hc] at hcompile
  rcases hcard : c.card with _ | card
  · simp [Except.toOption, hcard] at hcompile
  obtain ⟨given, stored, said, hgiven, hstored, hread, hreads⟩ :=
    stored_description_says_the_same hc hcard
  obtain rfl : given = "元気+1,重複不可".toList :=
    String.ofList_injective (Datum.text.inj hgiven).symm
  have hstored' : String.ofList stored = "元気+1 / 重複不可" := by
    simpa [Except.toOption, hcard, hstored] using hcompile
  obtain rfl : stored = "元気+1 / 重複不可".toList := by rw [← hstored', String.toList_ofList]
  rw [hread] at hunique
  exact ⟨c, card, said, rfl, hcard, hstored, hread, hreads hsettled, hunique⟩

end CardLesson
