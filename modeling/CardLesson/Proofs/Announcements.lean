/-
# What becomes of announced effects

A trigger announces the effects of its line: they are to wait in one reactive buff. They do when
every clause of the line is known and some clause states an effect (`Announced.waiting`). When the
line has an unknown clause, the buff is given up and the fragment is read over again clause by
clause; the announcement is then one more unknown clause and the effects that can be read count at
once (`Announced.atOnce`).

Key definitions: `announcement?`, `bodyOf`, `Trigger.buff`, `Trigger.Opens`, `Announced`.
Key theorems: `clauses_announced`, `readFragment_announced`,
`announced_effects_wait_iff`, `announced_effect_counts_at_once`.
-/
import Mathlib.Data.List.Induction
import CardLesson.Proofs.Reading

namespace CardLesson.Wording

open Pattern

/-! ### Patterns that open with fixed words -/

namespace Pattern

/-- Whether the pattern consists of fixed words, some of which may be left out. -/
def isVerbal : Pattern → Bool
  | word _ => true
  | maybe p => p.isVerbal
  | seq p q => p.isVerbal && q.isVerbal
  | _ => false

/-- The texts that a pattern of fixed words reads. -/
def wordings : Pattern → List (List Char)
  | word s => [s.toList]
  | maybe p => p.wordings ++ [[]]
  | seq p q => p.wordings.flatMap fun w => q.wordings.map (w ++ ·)
  | _ => []

/-- A pattern of fixed words takes one of its wordings and keeps nothing. -/
theorem read_verbal {p : Pattern} (hp : p.isVerbal = true) : ∀ {cs rest : List Char}
    {found : Found}, p.read cs = some (found, rest) →
      found = [] ∧ ∃ w ∈ p.wordings, cs = w ++ rest := by
  induction p with
  | word s =>
    intro cs rest found h
    simp only [read, Option.map_eq_some_iff, Prod.mk.injEq] at h
    obtain ⟨r, hr, rfl, rfl⟩ := h
    exact ⟨rfl, s.toList, by simp [wordings], eq_append_of_isPrefixOf? hr⟩
  | maybe p ih =>
    intro cs rest found h
    simp only [read, Option.some.injEq] at h
    cases hread : read p cs with
    | none =>
      obtain ⟨rfl, rfl⟩ := Prod.mk.inj ((by rw [hread] : _ = _).trans h)
      exact ⟨rfl, [], by simp [wordings], rfl⟩
    | some r =>
      rw [hread, Option.getD_some] at h
      obtain ⟨hfound, w, hw, hcs⟩ := ih hp (h ▸ hread)
      exact ⟨hfound, w, by simp [wordings, hw], hcs⟩
  | seq p q ihp ihq =>
    intro cs rest found h
    rw [isVerbal, Bool.and_eq_true] at hp
    change read (p ++ q) cs = _ at h
    simp only [read_append, Option.bind_eq_some_iff, Option.map_eq_some_iff, Prod.mk.injEq] at h
    obtain ⟨⟨found₁, mid⟩, hread₁, ⟨found₂, r⟩, hread₂, rfl, rfl⟩ := h
    obtain ⟨rfl, w₁, hw₁, rfl⟩ := ihp hp.1 hread₁
    obtain ⟨rfl, w₂, hw₂, hmid⟩ := ihq hp.2 hread₂
    refine ⟨rfl, w₁ ++ w₂, ?_, by rw [List.append_assoc, ← hmid]⟩
    exact List.mem_flatMap.2 ⟨w₁, hw₁, List.mem_map_of_mem hw₂⟩
  | _ => cases hp

/-- A pattern covers a text when it leaves nothing but, perhaps, one line end. -/
theorem read_of_covers? {p : Pattern} {cs : List Char} {found : Found}
    (h : p.covers? cs = some found) :
    ∃ tail, p.read cs = some (found, tail) ∧ (tail = [] ∨ tail = ['\n']) := by
  unfold covers? at h
  split at h
  · next hread => exact ⟨[], by rw [hread, Option.some.inj h], .inl rfl⟩
  · next hread => exact ⟨['\n'], by rw [hread, Option.some.inj h], .inr rfl⟩
  · cases h

/-- A named part keeps the text that it took. -/
theorem read_named {slot : Slot} {p : Pattern} {cs rest : List Char} {found : Found}
    (h : (named slot p).read cs = some (found, rest)) : ∃ text inner,
    p.read cs = some (inner, rest) ∧ found = (slot, text) :: inner ∧ cs = text ++ rest := by
  obtain ⟨⟨inner, rest'⟩, hread, hkept⟩ := Option.bind_eq_some_iff.1 h
  obtain ⟨rfl, rfl⟩ := Prod.mk.inj (Option.some.inj hkept)
  obtain ⟨text, rfl⟩ := read_suffix hread
  exact ⟨text, inner, hread, by simp, rfl⟩

/-- Fixed words and the rest of the line cover a text of one of the wordings, the line and, perhaps,
one line end. -/
theorem covers?_line {p : Pattern} {slot : Slot} {cs : List Char} {found : Found}
    (hp : p.isVerbal = true) (h : (p ++ line slot).covers? cs = some found) :
    ∃ w ∈ p.wordings, ∃ text tail, found = [(slot, text)] ∧ cs = w ++ (text ++ tail) ∧
      (tail = [] ∨ tail = ['\n']) := by
  obtain ⟨tail, hread, htail⟩ := read_of_covers? h
  simp only [read_append, Option.bind_eq_some_iff, Option.map_eq_some_iff, Prod.mk.injEq] at hread
  obtain ⟨⟨before, mid⟩, hbefore, ⟨kept, rest⟩, hkept, rfl, rfl⟩ := hread
  obtain ⟨rfl, w, hw, rfl⟩ := read_verbal hp hbefore
  obtain ⟨text, inner, hinner, rfl, rfl⟩ := read_named hkept
  refine ⟨w, hw, text, rest, ?_, rfl, htail⟩
  simp only [read] at hinner
  split at hinner
  · cases hinner
  · rw [← (Prod.mk.inj (Option.some.inj hinner)).1]
    rfl

end Pattern

/-! ### The clauses of a text -/

theorem trimBy_concat {p : Char → Bool} {c : Char} (h : p c = true) (cs : List Char) :
    Text.trimBy p (cs ++ [c]) = Text.trimBy p cs := by
  unfold Text.trimBy Text.trimStart Text.trimEnd
  rw [List.dropWhile_append]
  split
  · next hblank => simp [List.isEmpty_iff.1 hblank, h]
  · simp [h]

theorem trimBy_cons {p : Char → Bool} {c : Char} (h : p c = true) (cs : List Char) :
    Text.trimBy p (c :: cs) = Text.trimBy p cs := by
  unfold Text.trimBy Text.trimStart
  rw [List.dropWhile_cons_of_pos h]

/-- The clauses before and after a comma. -/
theorem clauses_append (before after : List Char) :
    clauses (before ++ '、' :: after) = clauses before ++ clauses after := by
  have hsplit := List.splitOnP_append_cons (p := (· == '、')) before after (beq_self_eq_true '、')
  rw [clauses, hsplit, List.map_append, List.filter_append]
  rfl

/-- A text without commas is one clause, or none when it is blank. -/
theorem clauses_of_not_mem {cs : List Char} (h : '、' ∉ cs) :
    clauses cs = [Text.trim cs].filter (!·.isEmpty) := by
  have hone : cs.splitOnP (· == '、') = [cs] :=
    List.splitOnP_eq_singleton fun c hc => beq_false_of_ne fun heq => h (heq ▸ hc)
  rw [clauses, hone, List.map_singleton]

/-- A blank at the end of a text belongs to no clause. -/
theorem clauses_concat {c : Char} (hc : Text.isBlank c = true) (cs : List Char) :
    clauses (cs ++ [c]) = clauses cs := by
  by_cases hcomma : '、' ∈ cs
  · obtain ⟨before, after, rfl⟩ := List.append_of_mem hcomma
    rw [List.append_assoc, List.cons_append, clauses_append, clauses_append,
      clauses_concat hc after]
  · have hcomma' : '、' ∉ cs ++ [c] := by
      intro h
      rcases List.mem_append.1 h with h | h
      · exact hcomma h
      · rw [← List.mem_singleton.1 h] at hc
        revert hc
        decide
    rw [clauses_of_not_mem hcomma, clauses_of_not_mem hcomma', Text.trim, Text.trim,
      trimBy_concat hc]
termination_by cs.length

/-- A blank at the start of a text belongs to no clause. -/
theorem clauses_cons {c : Char} (hc : Text.isBlank c = true) (cs : List Char) :
    clauses (c :: cs) = clauses cs := by
  by_cases hcomma : '、' ∈ cs
  · obtain ⟨before, after, rfl⟩ := List.append_of_mem hcomma
    rw [← List.cons_append, clauses_append, clauses_append, clauses_cons hc before]
  · have hcomma' : '、' ∉ c :: cs := by
      intro h
      rcases List.mem_cons.1 h with rfl | h
      · revert hc
        decide
      · exact hcomma h
    rw [clauses_of_not_mem hcomma, clauses_of_not_mem hcomma', Text.trim, Text.trim,
      trimBy_cons hc]
termination_by cs.length

theorem isPause_cases {c : Char} (h : isPause c = true) : c = ' ' ∨ c = '、' := by
  simpa [isPause] using h

theorem clauses_dropPauses (cs : List Char) : clauses (cs.dropWhile isPause) = clauses cs := by
  induction cs with
  | nil => rfl
  | cons c cs ih =>
    by_cases hc : isPause c = true
    · rw [List.dropWhile_cons_of_pos hc, ih]
      rcases isPause_cases hc with rfl | rfl
      · exact (clauses_cons (by decide) cs).symm
      · exact (clauses_append [] cs).symm
    · rw [List.dropWhile_cons_of_neg hc]

/-- Pauses around a text belong to no clause. -/
theorem clauses_trimBy (cs : List Char) : clauses (Text.trimBy isPause cs) = clauses cs := by
  rw [← clauses_dropPauses cs, Text.trimBy, Text.trimStart]
  generalize cs.dropWhile isPause = cs
  induction cs using List.reverseRecOn with
  | nil => rfl
  | append_singleton cs c ih =>
    by_cases hc : isPause c = true
    · have hdrop : Text.trimEnd isPause (cs ++ [c]) = Text.trimEnd isPause cs := by
        simp [Text.trimEnd, hc]
      rw [hdrop, ih]
      rcases isPause_cases hc with rfl | rfl
      · exact (clauses_concat (by decide) cs).symm
      · rw [clauses_append]
        exact (List.append_nil _).symm
    · rw [Text.trimEnd_eq_self (by simpa using hc)]

/-! ### What a fragment announces -/

/-- The trigger that a fragment opens with, and the text that it announces. -/
def announcement? (fragment : List Char) : Option (Trigger × List Char) :=
  triggers.findSome? fun t =>
    (t.pattern.covers? fragment).map fun found => (t, found.text .content)

/-- What is announced, without the remark on motivation. -/
def bodyOf (content : List Char) : List Char :=
  Text.trimBy isPause (without doubleMotivationPhrase content)

/-- The effects that are announced, as the remark on motivation has them. -/
def marked (content : List Char) (effects : List Effect) : List Effect :=
  if occurs doubleMotivationPhrase content then effects.map Effect.withDoubleMotivation else effects

/-- The buff in which announced effects wait. -/
def Trigger.buff (t : Trigger) : List Effect → Effect
  | [e] => .reactive (.known t.kind) e (.whole (-1)) t.condition
  | es => .reactive (.known t.kind) (.gate [] es) (.whole (-1)) t.condition

theorem readTrigger_eq (fragment : List Char) : readTrigger fragment =
    match announcement? fragment with
    | none => .ok none
    | some (t, content) => do
      let (effects, unknown) ← readClauses [] (clauses (bodyOf content))
      return if unknown.isEmpty && !effects.isEmpty then some (t.buff (marked content effects))
        else none := by
  have htable : Tables.standard.triggers = triggers := rfl
  rw [readTrigger, Tables.readTrigger, htable, announcement?]
  generalize triggers = ts
  induction ts with
  | nil => rfl
  | cons t ts ih =>
    rw [List.findSome?_cons, List.findSome?_cons]
    cases t.pattern.covers? fragment with
    | none => exact ih
    | some found =>
      dsimp only [Option.map_some]
      change (readClauses [] (clauses (bodyOf (found.text .content))) >>= fun r => _) = _
      refine bind_congr fun r => ?_
      obtain ⟨effects, unknown⟩ := r
      unfold marked
      cases unknown with
      | cons c cs => rfl
      | nil =>
        cases occurs doubleMotivationPhrase (found.text .content) <;>
          rcases effects with _ | ⟨e, _ | ⟨e', es⟩⟩ <;> rfl

section Announced

variable {fragment content : List Char} {t : Trigger}

/-- The buff is given up when a clause is unknown or none states an effect. -/
theorem readTrigger_none (h : announcement? fragment = some (t, content)) :
    readTrigger fragment = .ok none ↔ ∃ effects unknown,
      readClauses [] (clauses (bodyOf content)) = .ok (effects, unknown) ∧
        (unknown ≠ [] ∨ effects = []) := by
  rw [readTrigger_eq, h]
  constructor
  · intro htrigger
    obtain ⟨⟨effects, unknown⟩, hbody, hbuff⟩ := Play.except_bind_ok.1 htrigger
    have hbuff := Play.except_pure_ok.1 hbuff
    refine ⟨effects, unknown, hbody, ?_⟩
    by_contra hkept
    rw [if_pos (by simpa using hkept)] at hbuff
    cases hbuff
  · rintro ⟨effects, unknown, hbody, hgap⟩
    have hlost : ¬(unknown.isEmpty && !effects.isEmpty) = true := by
      rcases hgap with hgap | rfl
      · simp [hgap]
      · simp
    refine Play.except_bind_ok.2 ⟨_, hbody, ?_⟩
    dsimp only
    rw [if_neg hlost]
    rfl

/-- The buff holds the effects of all clauses when each is known and one states an effect. -/
theorem readTrigger_some (h : announcement? fragment = some (t, content)) {buff : Effect} :
    readTrigger fragment = .ok (some buff) ↔ ∃ effects,
      readClauses [] (clauses (bodyOf content)) = .ok (effects, []) ∧ effects ≠ [] ∧
        t.buff (marked content effects) = buff := by
  rw [readTrigger_eq, h]
  constructor
  · intro htrigger
    obtain ⟨⟨effects, unknown⟩, hbody, hread⟩ := Play.except_bind_ok.1 htrigger
    obtain ⟨hkept, hbuff⟩ := Option.ite_none_right_eq_some.1 (Play.except_pure_ok.1 hread)
    obtain ⟨rfl, hsome⟩ : unknown = [] ∧ effects ≠ [] := by simpa using hkept
    exact ⟨effects, hbody, hsome, Option.some.inj hbuff⟩
  · rintro ⟨effects, hbody, hsome, rfl⟩
    refine Play.except_bind_ok.2 ⟨_, hbody, ?_⟩
    dsimp only
    rw [if_pos (by simpa using hsome)]
    rfl

end Announced

/-- Every trigger opens with words that no rule covers, and a comma. -/
theorem triggers_open : ∀ t ∈ triggers, ∃ p : Pattern, t.pattern = p ++ line .content ∧
    p.isVerbal = true ∧ ∀ w ∈ p.wordings, w = w.dropLast ++ ['、'] ∧ clauses w.dropLast ≠ [] ∧
      ∀ c ∈ clauses w.dropLast, (Rule.first? gateRules c).isNone ∧
        (Rule.first? effectRules c).isNone := by
  intro t ht
  simp only [triggers, List.mem_cons, List.not_mem_nil, or_false] at ht
  rcases ht with rfl | rfl | rfl | rfl | rfl | rfl <;> exact ⟨_, rfl, rfl, by decide⟩

/-- The clauses of the words that a trigger opens with. -/
def Trigger.Opens (t : Trigger) (heads : List (List Char)) : Prop :=
  ∃ p : Pattern, t.pattern = p ++ line .content ∧ p.isVerbal = true ∧
    ∃ w ∈ p.wordings, heads = clauses w

/-- **The clauses of an announced fragment** are those of the announcement, which no rule covers,
and those of what it announces. -/
theorem clauses_announced {fragment content : List Char} {t : Trigger}
    (h : announcement? fragment = some (t, content)) : ∃ heads, t.Opens heads ∧ heads ≠ [] ∧
      (∀ c ∈ heads, Strange c) ∧ clauses fragment = heads ++ clauses content := by
  obtain ⟨t', ht, hcovers⟩ := List.exists_of_findSome?_eq_some h
  obtain ⟨found, hfound, heq⟩ := Option.map_eq_some_iff.1 hcovers
  obtain ⟨rfl, rfl⟩ := Prod.mk.inj heq
  obtain ⟨p, hp, hverbal, hwordings⟩ := triggers_open t' ht
  rw [hp] at hfound
  obtain ⟨w, hw, text, tail, rfl, rfl, htail⟩ := Pattern.covers?_line hverbal hfound
  obtain ⟨hcomma, hne, hstrange⟩ := hwordings w hw
  generalize w.dropLast = opening at *
  subst hcomma
  have hopening : clauses opening = clauses (opening ++ ['、']) := by
    rw [clauses_append]
    exact (List.append_nil _).symm
  refine ⟨clauses opening, ⟨p, hp, hverbal, _, hw, hopening⟩, hne, fun c hc => ?_, ?_⟩
  · exact ⟨Option.isNone_iff_eq_none.1 (hstrange c hc).1,
      Option.isNone_iff_eq_none.1 (hstrange c hc).2⟩
  · rw [List.append_assoc, List.singleton_append, clauses_append]
    rcases htail with rfl | rfl
    · rw [List.append_nil]
      rfl
    · rw [clauses_concat (by decide)]
      rfl

theorem sift_nothing {α : Type} {read : List Char → Option (α × List Char)} {cs : List Char}
    (h : (sift read 0 cs).1 = []) : (sift read 0 cs).2 = cs := by
  induction cs with
  | nil => rfl
  | cons c cs ih =>
    rw [sift] at h ⊢
    split at h
    · cases h
    · exact congrArg (c :: ·) (ih h)

/-- Without a remark on motivation, all clauses that are announced are read. -/
theorem clauses_bodyOf {content : List Char} (h : occurs doubleMotivationPhrase content = false) :
    clauses (bodyOf content) = clauses content := by
  have hnothing : (sift doubleMotivationPhrase.read 0 content).1 = [] := by
    simpa [occurs] using h
  rw [bodyOf, clauses_trimBy, without, sift_nothing hnothing]

/-- What becomes of the effects that a fragment announces: what the fragment contributes to the
effects of a card, and the clauses of it that are unknown. -/
inductive Announced (t : Trigger) (content : List Char) :
    List Effect × List (List Char) → Prop
  /-- Every clause that is announced is known: all effects wait in one buff. -/
  | waiting {effects : List Effect}
      (hbody : readClauses [] (clauses (bodyOf content)) = .ok (effects, []))
      (hsome : effects ≠ []) :
      Announced t content ([t.buff (marked content effects)], [])
  /-- A clause is unknown, or none states an effect: the announcement is unknown too, and the
  effects that can be read count at once. -/
  | atOnce {effects now : List Effect} {unknown heads rest : List (List Char)}
      (hbody : readClauses [] (clauses (bodyOf content)) = .ok (effects, unknown))
      (hgap : unknown ≠ [] ∨ effects = [])
      (hheads : heads ≠ [])
      (hstrange : ∀ c ∈ heads, Strange c)
      (hnow : readClauses [] (clauses content) = .ok (now, rest))
      (hsame : occurs doubleMotivationPhrase content = false → now = effects ∧ rest = unknown) :
      Announced t content (now, heads ++ rest)

/-- **A fragment with an announcement** has one of the two outcomes. -/
theorem readFragment_announced {fragment content : List Char} {t : Trigger}
    {r : List Effect × List (List Char)} (ha : announcement? fragment = some (t, content))
    (hr : readFragment fragment = .ok r) : Announced t content r := by
  rcases readFragment_ok.1 hr with ⟨buff, htrigger, rfl⟩ | ⟨htrigger, hr⟩
  · obtain ⟨effects, hbody, hsome, rfl⟩ := (readTrigger_some ha).1 htrigger
    exact .waiting hbody hsome
  · obtain ⟨effects, unknown, hbody, hgap⟩ := (readTrigger_none ha).1 htrigger
    obtain ⟨heads, _, hheads, hstrange, hclauses⟩ := clauses_announced ha
    rw [hclauses, readClauses_strange hstrange] at hr
    cases hnow : readClauses [] (clauses content) with
    | error f =>
      rw [hnow] at hr
      cases hr
    | ok now =>
      rw [hnow] at hr
      obtain rfl := Except.ok.inj hr
      refine .atOnce hbody hgap hheads hstrange hnow fun hplain => ?_
      rw [clauses_bodyOf hplain, hnow] at hbody
      exact Prod.mk.inj (Except.ok.inj hbody)

/-- The announcement is kept: the effects wait in one buff, or the fragment contributes no effect
and has unknown clauses. -/
def Kept (t : Trigger) (content : List Char) (r : List Effect × List (List Char)) : Prop :=
  (∃ effects, readClauses [] (clauses (bodyOf content)) = .ok (effects, []) ∧
    r = ([t.buff (marked content effects)], [])) ∨ r.1 = [] ∧ r.2 ≠ []

/-- **An announcement is kept** when all that is announced is known and there is an effect among it,
or when no clause states an effect. -/
theorem Announced.kept_iff {t : Trigger} {content : List Char} {r : List Effect × List (List Char)}
    (h : Announced t content r) : Kept t content r ↔
      (∃ effects, effects ≠ [] ∧ readClauses [] (clauses (bodyOf content)) = .ok (effects, [])) ∨
        ∃ rest, readClauses [] (clauses content) = .ok ([], rest) := by
  cases h with
  | waiting hbody hsome =>
    exact iff_of_true (.inl ⟨_, hbody, rfl⟩) (.inl ⟨_, hsome, hbody⟩)
  | @atOnce effects now unknown heads rest hbody hgap hheads _ hnow _ =>
    constructor
    · rintro (⟨_, _, hr⟩ | ⟨rfl, _⟩)
      · exact absurd (List.append_eq_nil_iff.1 (Prod.mk.inj hr).2).1 hheads
      · exact .inr ⟨rest, hnow⟩
    · rintro (⟨effects', hsome, hbody'⟩ | ⟨rest', hnow'⟩)
      · obtain ⟨rfl, rfl⟩ := Prod.mk.inj (Except.ok.inj (hbody.symm.trans hbody'))
        exact absurd hgap (by simpa using hsome)
      · obtain ⟨rfl, rfl⟩ := Prod.mk.inj (Except.ok.inj (hnow.symm.trans hnow'))
        exact .inr ⟨rfl, by simpa using fun h _ => hheads h⟩

/-- A part of a description contributes what reading it yields. When it opens with an announcement,
the announcement is kept or the effects count at once, and what is announced says which. -/
def Contributes (fragment : List Char) (r : List Effect × List (List Char)) : Prop :=
  readFragment fragment = .ok r ∧ ∀ t content, announcement? fragment = some (t, content) →
    Announced t content r ∧
      (Kept t content r ↔
        (∃ effects, effects ≠ [] ∧ readClauses [] (clauses (bodyOf content)) = .ok (effects, [])) ∨
          ∃ rest, readClauses [] (clauses content) = .ok ([], rest))

/-- **What becomes of announced effects**, in every description that reads: its effects and unknown
clauses are what its parts contribute, part by part, where the first span has set the turns of one
lasting buff. -/
theorem announced_effects_wait_iff {cs : List Char} {d : Description}
    (h : Description.read cs = .ok d) :
    ∃ (span : Option Nat) (rs : List (List Effect × List (List Char))),
      (Description.spans cs).head?.mapM (·.count .turns) = .ok span ∧
      List.Forall₂ Contributes (Description.parts cs) rs ∧
      d.effects = span.elim (rs.flatMap (·.1)) (setSpan · (rs.flatMap (·.1))) ∧
      d.unknown = rs.flatMap (·.2) := by
  obtain ⟨span, effects, _, hspan, _, hparts, heffects⟩ := Description.read_ok h
  obtain ⟨rs, hrs, rfl, hunknown⟩ := readFragments_ok.1 hparts
  refine ⟨span, rs, hspan, hrs.imp fun f r hr => ⟨hr, fun t content ha => ?_⟩, heffects, hunknown⟩
  have houtcome := readFragment_announced ha hr
  exact ⟨houtcome, houtcome.kept_iff⟩

/-- An announcement of vitality and of something that no rule knows. -/
def strayAnnouncement : List Char := "以降、ターン開始時、元気+2、ふしぎ".toList

/-- What it reads as: vitality at once. -/
def strayReading : Description where
  effects := [.of { kind := .known .genki, value := .whole 2 }]
  unknown := ["以降".toList, "ターン開始時".toList, "ふしぎ".toList]

theorem strayAnnouncement_read : Description.read strayAnnouncement = .ok strayReading := rfl

theorem announced_effects_wait_iff_stray :
    Description.read strayAnnouncement = .ok strayReading ∧
    ∃ (span : Option Nat) (rs : List (List Effect × List (List Char))),
      (Description.spans strayAnnouncement).head?.mapM (·.count .turns) = .ok span ∧
      List.Forall₂ Contributes (Description.parts strayAnnouncement) rs ∧
      strayReading.effects = span.elim (rs.flatMap (·.1)) (setSpan · (rs.flatMap (·.1))) ∧
      strayReading.unknown = rs.flatMap (·.2) :=
  ⟨strayAnnouncement_read, announced_effects_wait_iff strayAnnouncement_read⟩

/-- An announced effect counts at once: the description is one fragment with an announcement, which
contributes the effect itself. -/
theorem announced_effect_counts_at_once :
    Description.read strayAnnouncement = .ok strayReading ∧
    Description.parts strayAnnouncement = [strayAnnouncement] ∧
    announcement? strayAnnouncement =
      some ({ pattern := fromNowOn ++ word "ターン開始時、" ++ line .content, kind := .turnStart },
        "元気+2、ふしぎ".toList) ∧
    ∀ t r, readFragment strayAnnouncement = .ok r → ¬Kept t "元気+2、ふしぎ".toList r := by
  refine ⟨strayAnnouncement_read, rfl, rfl, fun t r hr => ?_⟩
  have hread : readFragment strayAnnouncement =
      .ok (strayReading.effects, strayReading.unknown) := rfl
  obtain rfl := Except.ok.inj (hr.symm.trans hread)
  rintro (⟨_, _, hkept⟩ | ⟨hnone, _⟩)
  · cases (Prod.mk.inj hkept).2
  · cases hnone

end CardLesson.Wording
