/-
# What gates guard

A clause of a fragment is a gate, or it states effects, or it is strange. Gates guard just the next
clause that states effects: what it states is let through by all gates that stand between it and the
clause with effects before it, in their order, and stands alone when there are none. Strange clauses
in between change nothing. The gates after the last clause with effects guard nothing, and are
unknown together with the strange clauses.

Key definitions: `isGate`, `isStatement`, `isStrange`, `pending`, `stated`.
Key theorems: `pending_append`, `readClauses_stated`, `readClauses_guards`.
-/
import Mathlib.Data.List.DropRight
import CardLesson.Proofs.Reading

namespace CardLesson.Wording

/-! ### Kinds of clauses -/

/-- Whether the phrase of a rule covers the text. -/
def Rule.cover {α : Type} (rules : List (Rule α)) (cs : List Char) : Bool :=
  rules.any fun r => (r.pattern.covers? cs).isSome

theorem Rule.cover_eq {α : Type} (rules : List (Rule α)) (cs : List Char) :
    cover rules cs = (first? rules cs).isSome := by
  induction rules with
  | nil => rfl
  | cons r rules ih =>
    rw [cover, List.any_cons, first?, List.findSome?_cons]
    cases r.pattern.covers? cs with
    | none => exact ih
    | some found => rfl

/-- Whether a clause is a gate. -/
def isGate (c : List Char) : Bool := Rule.cover gateRules c

/-- Whether a clause states effects: it is no gate, and a rule covers it. -/
def isStatement (c : List Char) : Bool := !isGate c && Rule.cover effectRules c

/-- Whether no rule covers a clause. -/
def isStrange (c : List Char) : Bool := !isGate c && !Rule.cover effectRules c

section Kinds

variable {c : List Char}

theorem kinds_of_gate {gate : Except Fault Condition} (h : Rule.first? gateRules c = some gate) :
    isGate c = true ∧ isStatement c = false ∧ isStrange c = false := by
  simp [isGate, isStatement, isStrange, Rule.cover_eq, h]

theorem kinds_of_strange (h : Strange c) :
    isGate c = false ∧ isStatement c = false ∧ isStrange c = true := by
  simp [isGate, isStatement, isStrange, Rule.cover_eq, h.1, h.2]

theorem kinds_of_statement {meaning : Except Fault (List Effect)}
    (hgate : Rule.first? gateRules c = none) (h : Rule.first? effectRules c = some meaning) :
    isGate c = false ∧ isStatement c = true ∧ isStrange c = false := by
  simp [isGate, isStatement, isStrange, Rule.cover_eq, hgate, h]

end Kinds

/-- The condition that a gate means. -/
def condition? (c : List Char) : Option Condition :=
  (Rule.first? gateRules c).bind Except.toOption

/-- The effects that a clause states by itself. -/
def builtBy (c : List Char) : List Effect :=
  ((Rule.first? effectRules c).bind Except.toOption).getD []

/-- The gates that no statement follows. -/
def pending (cs : List (List Char)) : List (List Char) :=
  (cs.rtakeWhile fun c => !isStatement c).filter isGate

/-- What a clause contributes after others: the effects it states, behind the gates that wait. -/
def stated (before : List (List Char)) (c : List Char) : List Effect :=
  if !isStatement c then []
  else if (pending before).isEmpty then builtBy c
  else [.gate ((pending before).filterMap condition?) (builtBy c)]

/-! ### What is pending -/

/-- A statement ends the waiting, a gate waits with the others, a strange clause is passed over. -/
theorem pending_append (cs : List (List Char)) (c : List Char) : pending (cs ++ [c]) =
    if isStatement c then [] else if isGate c then pending cs ++ [c] else pending cs := by
  unfold pending
  cases hc : isStatement c with
  | true =>
    rw [List.rtakeWhile_concat_neg _ _ _ (by simp [hc])]
    rfl
  | false =>
    rw [List.rtakeWhile_concat_pos _ _ _ (by simp [hc]), List.filter_append, List.filter_singleton]
    cases isGate c <;> simp

theorem condition?_of_areGates {gates : List (Condition × List Char)} (h : AreGates gates) :
    (gates.map (·.2)).filterMap condition? = gates.map (·.1) := by
  rw [List.filterMap_map, ← List.filterMap_eq_map]
  refine List.filterMap_congr fun g hg => ?_
  simp [condition?, h g hg, Except.toOption]

/-! ### Reading clauses -/

/-- **What is read of clauses that follow others**, while the gates that are pending after those
wait. -/
theorem readClauses_stated : ∀ {cs before : List (List Char)}
    {waiting : List (Condition × List Char)} {effects : List Effect} {unknown : List (List Char)},
    AreGates waiting → pending before = waiting.map (·.2) →
    readClauses waiting cs = .ok (effects, unknown) →
    effects = (cs.mapIdx fun i c => stated (before ++ cs.take i) c).flatten ∧
      unknown = cs.filter isStrange ++ pending (before ++ cs) ∧
      (∀ c ∈ cs, isGate c = true → ∃ g, Rule.first? gateRules c = some (.ok g)) ∧
      ∀ c ∈ cs, isStatement c = true → ∃ es, Rule.first? effectRules c = some (.ok es)
  | [], before, waiting, effects, unknown, _, hpending, h => by
    obtain ⟨rfl, rfl⟩ := Prod.mk.inj (Except.ok.inj h)
    simp [hpending]
  | c :: cs, before, waiting, effects, unknown, hwaiting, hpending, h => by
    have htake (i : Nat) : before ++ (c :: cs).take (i + 1) = before ++ [c] ++ cs.take i := by simp
    have hall : before ++ c :: cs = before ++ [c] ++ cs := by simp
    simp only [List.mapIdx_cons, List.flatten_cons, List.take_zero, List.append_nil, htake, hall,
      List.forall_mem_cons]
    have hnow := pending_append before c
    rw [readClauses_cons] at h
    split at h
    · next gate hgate =>
      obtain ⟨condition, rfl, hrest⟩ := Play.except_bind_ok.1 h
      obtain ⟨hisGate, hnot, hstrange⟩ := kinds_of_gate hgate
      have hgates : AreGates (waiting ++ [(condition, c)]) :=
        List.forall_mem_append.2 ⟨hwaiting, List.forall_mem_singleton.2 hgate⟩
      have hwaits : pending (before ++ [c]) = (waiting ++ [(condition, c)]).map (·.2) := by
        rw [hnow, hnot, hisGate, hpending, List.map_append]
        rfl
      obtain ⟨rfl, rfl, hconditions, hbuilt⟩ := readClauses_stated hgates hwaits hrest
      refine ⟨?_, ?_, ⟨fun _ => ⟨condition, hgate⟩, hconditions⟩, ?_, hbuilt⟩
      · simp [stated, hnot]
      · simp [hstrange]
      · simp [hnot]
    · next hgate =>
      split at h
      · next hnone =>
        obtain ⟨⟨more, rest⟩, hmore, h⟩ := Play.except_bind_ok.1 h
        obtain ⟨rfl, rfl⟩ := Prod.mk.inj (Play.except_pure_ok.1 h)
        obtain ⟨hisGate, hnot, hstrange⟩ := kinds_of_strange ⟨hgate, hnone⟩
        have hwaits : pending (before ++ [c]) = waiting.map (·.2) := by
          rw [hnow, hnot, hisGate, ← hpending]
          rfl
        obtain ⟨rfl, rfl, hconditions, hbuilt⟩ := readClauses_stated hwaiting hwaits hmore
        refine ⟨?_, ?_, ⟨?_, hconditions⟩, ?_, hbuilt⟩
        · simp [stated, hnot]
        · simp [hstrange]
        · simp [hisGate]
        · simp [hnot]
      · next meaning hmeaning =>
        obtain ⟨built, rfl, hrest⟩ := Play.except_bind_ok.1 h
        obtain ⟨⟨more, rest⟩, hmore, hrest⟩ := Play.except_bind_ok.1 hrest
        obtain ⟨rfl, rfl⟩ := Prod.mk.inj (Play.except_pure_ok.1 hrest)
        obtain ⟨hisGate, hstatement, hstrange⟩ := kinds_of_statement hgate hmeaning
        have hwaits : pending (before ++ [c]) = ([] : List (Condition × List Char)).map (·.2) := by
          rw [hnow, hstatement]
          rfl
        have hbuiltBy : builtBy c = built := by simp [builtBy, hmeaning, Except.toOption]
        obtain ⟨rfl, rfl, hconditions, hbuilt⟩ := readClauses_stated areGates_nil hwaits hmore
        refine ⟨?_, ?_, ⟨?_, hconditions⟩, fun _ => ⟨built, hmeaning⟩, hbuilt⟩
        · simp [stated, hstatement, hpending, condition?_of_areGates hwaiting, hbuiltBy]
        · simp [hstrange]
        · simp [hisGate]

/-- **Gates guard just the next statement.** What is read of a fragment is what its clauses state,
in order, each behind the gates that wait for it; unknown are the strange clauses, and after them
the gates that wait in vain. Every gate and every statement of it can be read. -/
theorem readClauses_guards {fragment : List Char} {effects : List Effect}
    {unknown : List (List Char)}
    (h : readClauses [] (clauses fragment) = .ok (effects, unknown)) :
    effects = ((clauses fragment).mapIdx fun i c =>
        stated ((clauses fragment).take i) c).flatten ∧
      unknown = (clauses fragment).filter isStrange ++ pending (clauses fragment) ∧
      (∀ c ∈ clauses fragment, isGate c = true → ∃ g, Rule.first? gateRules c = some (.ok g)) ∧
      ∀ c ∈ clauses fragment, isStatement c = true →
        ∃ es, Rule.first? effectRules c = some (.ok es) := by
  have hpending : pending [] = ([] : List (Condition × List Char)).map (·.2) := rfl
  exact readClauses_stated areGates_nil hpending h

/-- A gate, a strange clause, two statements and a last gate. -/
def guardedFragment : List Char :=
  "好調状態の場合、ふしぎ、元気+2、元気+1、絶好調状態の場合".toList

/-- The gate guards the first of the two statements. -/
def guardedEffects : List Effect :=
  [.gate [{ Condition.atLeast .buff 1 with buffKind := some (.known .perfectCondition) }]
      [.of { kind := .known .genki, value := .whole 2 }],
    .of { kind := .known .genki, value := .whole 1 }]

/-- The strange clause is unknown, and so is the gate that nothing follows. -/
theorem readClauses_guards_mixed :
    readClauses [] (clauses guardedFragment) =
        .ok (guardedEffects, ["ふしぎ".toList, "絶好調状態の場合".toList]) ∧
      guardedEffects = ((clauses guardedFragment).mapIdx fun i c =>
        stated ((clauses guardedFragment).take i) c).flatten := by
  have hread : readClauses [] (clauses guardedFragment) =
      .ok (guardedEffects, ["ふしぎ".toList, "絶好調状態の場合".toList]) := by rfl
  exact ⟨hread, (readClauses_guards hread).1⟩

end CardLesson.Wording
