/-
# The order of the rules does not matter

Phrases of the rules for clauses are apart from each other, those of gates from those of effects
too, and so are the phrases that announce effects. So at most one rule covers a clause and at most
one trigger a fragment, and the first that does is the only one: whatever order the rules stand in,
clauses and fragments are read the same.

The order is that of the tables from which the readers take their rules.

Key definitions: `clausePhrases`, `triggerPhrases`, `Tables.Reorders`.
Key theorems: `findSome?_perm`, `Tables.readClauses_eq`, `Tables.readFragments_eq`,
`rules_unambiguous`.
-/
import CardLesson.Proofs.Shapes
import CardLesson.Wording.Description

namespace CardLesson.Wording

/-! ### The rules are apart -/

/-- The phrases of all rules for clauses. -/
def clausePhrases : List Pattern := gateRules.map (·.pattern) ++ effectRules.map (·.pattern)

/-- The phrases that announce effects. -/
def triggerPhrases : List Pattern := triggers.map (·.pattern)

theorem allApart_clausePhrases : allApart clausePhrases = true := by decide +kernel

theorem allApart_triggerPhrases : allApart triggerPhrases = true := by decide +kernel

/-! ### The first rule is the only one -/

/-- In which order a list is searched does not matter when there is at most one thing to find. -/
theorem findSome?_perm {α β : Type} {f : α → Option β} {as bs : List α} (h : as.Perm bs)
    (hone : bs.countP (fun a => (f a).isSome) ≤ 1) : as.findSome? f = bs.findSome? f := by
  have hperm : (as.filterMap f).Perm (bs.filterMap f) := h.filterMap f
  have hlength : (bs.filterMap f).length ≤ 1 := by rwa [List.length_filterMap_eq_countP]
  rw [← List.head?_filterMap, ← List.head?_filterMap]
  match bs.filterMap f, hperm, hlength with
  | [], hperm, _ => rw [List.perm_nil.1 hperm]
  | [b], hperm, _ => rw [List.perm_singleton.1 hperm]

theorem Rule.first?_perm {α : Type} {rules rules' : List (Rule α)} (h : rules.Perm rules')
    {cs : List Char} (hone : (rules'.map (·.pattern)).countP (fun p => (p.covers? cs).isSome) ≤ 1) :
    first? rules cs = first? rules' cs := by
  refine findSome?_perm h ?_
  simpa [List.countP_map, Function.comp_def] using hone

/-! ### Rules in another order -/

namespace Tables

/-- The tables hold the rules of descriptions, in any order. -/
structure Reorders (t : Tables) : Prop where
  gates : t.gates.Perm gateRules
  effects : t.effects.Perm effectRules
  triggers : t.triggers.Perm Wording.triggers

variable {t : Tables}

theorem first?_gates (h : t.Reorders) (c : List Char) :
    Rule.first? t.gates c = Rule.first? gateRules c := by
  refine Rule.first?_perm h.gates (le_trans ?_ (countP_covers_le_one c allApart_clausePhrases))
  rw [clausePhrases, List.countP_append]
  exact Nat.le_add_right _ _

theorem first?_effects (h : t.Reorders) (c : List Char) :
    Rule.first? t.effects c = Rule.first? effectRules c := by
  refine Rule.first?_perm h.effects (le_trans ?_ (countP_covers_le_one c allApart_clausePhrases))
  rw [clausePhrases, List.countP_append]
  exact Nat.le_add_left _ _

theorem first_trigger (h : t.Reorders) {α : Type} (f : Trigger → Found → α) (c : List Char) :
    (t.triggers.findSome? fun u => (u.pattern.covers? c).map (f u)) =
      Wording.triggers.findSome? fun u => (u.pattern.covers? c).map (f u) := by
  refine findSome?_perm h.triggers ?_
  simpa [triggerPhrases, List.countP_map, Function.comp_def] using
    countP_covers_le_one c allApart_triggerPhrases

/-- Clauses are read the same by rules in any order. -/
theorem readClauses_eq (h : t.Reorders) : ∀ (cs : List (List Char))
    (waiting : List (Condition × List Char)),
    t.readClauses waiting cs = Wording.readClauses waiting cs
  | [], _ => rfl
  | c :: cs, waiting => by
    rw [readClauses_cons]
    simp only [readClauses, first?_gates h, first?_effects h, readClauses_eq h cs]

theorem readTrigger_eq (h : t.Reorders) (fragment : List Char) :
    t.readTrigger fragment = Wording.readTrigger fragment := by
  simp only [readTrigger, first_trigger h, readClauses_eq h]
  rfl

theorem readFragment_eq (h : t.Reorders) (fragment : List Char) :
    t.readFragment fragment = Wording.readFragment fragment := by
  simp only [readFragment, readTrigger_eq h, readClauses_eq h]
  rfl

/-- Fragments are read the same by rules in any order. -/
theorem readFragments_eq (h : t.Reorders) : ∀ fragments : List (List Char),
    t.readFragments fragments = Wording.readFragments fragments
  | [] => rfl
  | f :: fs => by
    simp only [readFragments, readFragment_eq h, readFragments_eq h fs]
    rfl

end Tables

/-- **The rules are unambiguous.** At most one rule covers a clause, be it a gate or a statement,
and at most one trigger a fragment. So rules in any other order read the same in clauses and
fragments. -/
theorem rules_unambiguous :
    (∀ cs, clausePhrases.countP (fun p => (p.covers? cs).isSome) ≤ 1) ∧
      (∀ cs, triggerPhrases.countP (fun p => (p.covers? cs).isSome) ≤ 1) ∧
      ∀ t : Tables, t.Reorders →
        (∀ cs waiting, t.readClauses waiting cs = readClauses waiting cs) ∧
        (∀ fragment, t.readTrigger fragment = readTrigger fragment) ∧
        ∀ fragments, t.readFragments fragments = readFragments fragments :=
  ⟨fun cs => countP_covers_le_one cs allApart_clausePhrases,
    fun cs => countP_covers_le_one cs allApart_triggerPhrases,
    fun _ h => ⟨Tables.readClauses_eq h, Tables.readTrigger_eq h, Tables.readFragments_eq h⟩⟩

/-- The rules from the last to the first. -/
def backwards : Tables where
  gates := gateRules.reverse
  effects := effectRules.reverse
  triggers := triggers.reverse

theorem reorders_backwards : backwards.Reorders where
  gates := List.reverse_perm _
  effects := List.reverse_perm _
  triggers := List.reverse_perm _

/-- A fragment with a gate and a statement, read by the rules from the last to the first. -/
theorem rules_unambiguous_backwards :
    backwards.Reorders ∧
      backwards.readFragments ["好調状態の場合、好印象+3".toList] =
        readFragments ["好調状態の場合、好印象+3".toList] ∧
      readFragments ["好調状態の場合、好印象+3".toList] =
        .ok ([.gate [{ Condition.atLeast .buff 1 with buffKind := some (.known .perfectCondition) }]
          [.of { kind := .known .impression, value := .whole 3 }]], []) :=
  ⟨reorders_backwards, (rules_unambiguous.2.2 backwards reorders_backwards).2.2 _, rfl⟩

end CardLesson.Wording
