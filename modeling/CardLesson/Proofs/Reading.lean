/-
# How a description is taken apart

A description is read in stages, and each takes something out of the text: flags, usage conditions,
the phrases that say how long a buff lasts, an HP cost at the start. What is left are the parts,
fragments that are read one by one. The clauses of a fragment form blocks: gates, and the clause
with an effect that they guard.

Every clause of a fragment ends up in one place: it belongs to a block, or it is unknown.

Key definitions: `Description.usages`, `Description.spans`, `Description.costPhrase?`,
`Description.parts`, `Block`.
Key theorems: `Description.read_ok`, `readFragments_ok`, `readClauses_blocks`.
-/
import Mathlib.Data.List.Forall2
import CardLesson.Proofs.Play
import CardLesson.Wording.Description

namespace CardLesson.Wording

/-! ### Stages -/

/-- The HP cost at the start of a fragment. -/
def leadingCost? (fragment : List Char) : Option Found :=
  hpCostPhrase.covers? (Text.trim (fragment.takeWhile (· != '、')))

/-- A fragment without the HP cost it starts with. -/
def afterCost (fragment : List Char) : List Char :=
  if (leadingCost? fragment).isSome then
    Text.trim ((fragment.drop (fragment.takeWhile (· != '、')).length).drop 1)
  else fragment

theorem splitHpCost_eq (fragment : List Char) : splitHpCost fragment = do
    return (← (leadingCost? fragment).mapM (·.count .amount), afterCost fragment) := by
  unfold splitHpCost afterCost leadingCost?
  dsimp only
  split
  · next found h =>
    rw [h]
    show _ = (found.count .amount >>= fun n => pure (some n)) >>= _
    rw [bind_assoc]
    rfl
  · next h =>
    rw [h]
    rfl

theorem takeSpan_eq (cs : List Char) : takeSpan cs = do
    return (← (sift spanPhrase.read 0 cs).1.head?.mapM (·.count .turns),
      (sift spanPhrase.read 0 cs).2) := by
  unfold takeSpan
  split
  · next h => rw [h]; rfl
  · next found _ _ h =>
    rw [h]
    show _ = (found.count .turns >>= fun n => pure (some n)) >>= _
    rw [bind_assoc]
    rfl

namespace Description

variable (cs : List Char)

/-- A description in its plain form, without flags. -/
def unflagged : List Char := without startFlag (without onceFlag (without uniqueFlag (plain cs)))

/-- The usage conditions of a description. -/
def usages : List (Except Fault Condition) := (sift (Rule.readFirst usageRules) 0 (unflagged cs)).1

/-- A description without flags and usage conditions. -/
def unconditional : List Char := (sift (Rule.readFirst usageRules) 0 (unflagged cs)).2

/-- The phrases of a description that say how long a buff lasts. -/
def spans : List Found := (sift spanPhrase.read 0 (unconditional cs)).1

/-- The fragments of a description, once flags, usage conditions and spans are taken out. -/
def pieces : List (List Char) := fragments (sift spanPhrase.read 0 (unconditional cs)).2

/-- The HP cost that a description starts with. -/
def costPhrase? : Option Found := (pieces cs).head?.bind leadingCost?

/-- The fragments of a description that state effects. -/
def parts : List (List Char) :=
  match pieces cs with
  | [] => []
  | first :: others =>
    if (afterCost first).isEmpty then others else afterCost first :: others

/-- **A description is read in stages**: usage conditions, first span, HP cost, parts. -/
theorem read_eq : read cs = do
    let conditions ← (usages cs).mapM id
    let span ← (spans cs).head?.mapM (·.count .turns)
    let hpCost ← (costPhrase? cs).mapM (·.count .amount)
    let read ← readFragments (parts cs)
    return { effects := span.elim read.1 (setSpan · read.1)
             conditions, unknown := read.2, hpCost
             unique := occurs uniqueFlag (plain cs)
             oncePerLesson := occurs onceFlag (plain cs)
             startInHand := occurs startFlag (plain cs) } := by
  simp only [read, takeSpan_eq, costPhrase?, parts, pieces, spans, unconditional, usages, unflagged,
    bind_assoc, pure_bind]
  refine bind_congr fun conditions => bind_congr fun span => ?_
  split
  · next h =>
    rw [h]
    rfl
  · next first others h =>
    simp only [h, splitHpCost_eq, bind_assoc, pure_bind]
    rfl

/-- A description that reads, stage by stage. -/
theorem read_ok {cs : List Char} {d : Description} (h : read cs = .ok d) :
    ∃ (span : Option Nat) (effects : List Effect),
      (usages cs).mapM id = .ok d.conditions ∧
      (spans cs).head?.mapM (·.count .turns) = .ok span ∧
      (costPhrase? cs).mapM (·.count .amount) = .ok d.hpCost ∧
      readFragments (parts cs) = .ok (effects, d.unknown) ∧
      d.effects = span.elim effects (setSpan · effects) := by
  rw [read_eq] at h
  obtain ⟨conditions, hconditions, h⟩ := Play.except_bind_ok.1 h
  obtain ⟨span, hspan, h⟩ := Play.except_bind_ok.1 h
  obtain ⟨hpCost, hcost, h⟩ := Play.except_bind_ok.1 h
  obtain ⟨⟨effects, unknown⟩, hparts, h⟩ := Play.except_bind_ok.1 h
  obtain rfl := Play.except_pure_ok.1 h
  exact ⟨span, effects, hconditions, hspan, hcost, hparts, rfl⟩

end Description

/-! ### Fragments -/

/-- **A fragment is read** as the buff that it announces, or clause by clause when there is none. -/
theorem readFragment_ok {fragment : List Char} {r : List Effect × List (List Char)} :
    readFragment fragment = .ok r ↔
      (∃ buff, readTrigger fragment = .ok (some buff) ∧ r = ([buff], [])) ∨
        readTrigger fragment = .ok none ∧ readClauses [] (clauses fragment) = .ok r := by
  constructor
  · intro h
    obtain ⟨buff, htrigger, h⟩ := Play.except_bind_ok.1 h
    cases buff with
    | some buff => exact .inl ⟨buff, htrigger, (Play.except_pure_ok.1 h).symm⟩
    | none => exact .inr ⟨htrigger, h⟩
  · rintro (⟨buff, htrigger, rfl⟩ | ⟨htrigger, h⟩)
    · exact Play.except_bind_ok.2 ⟨some buff, htrigger, rfl⟩
    · exact Play.except_bind_ok.2 ⟨none, htrigger, h⟩

/-- **Fragments are read one by one**: what each yields is joined in order. -/
theorem readFragments_ok : ∀ {fs : List (List Char)} {effects : List Effect}
    {unknown : List (List Char)},
    readFragments fs = .ok (effects, unknown) ↔ ∃ rs : List (List Effect × List (List Char)),
      List.Forall₂ (fun f r => readFragment f = .ok r) fs rs ∧
        effects = rs.flatMap (·.1) ∧ unknown = rs.flatMap (·.2)
  | [], effects, unknown => by
    constructor
    · intro h
      cases h
      exact ⟨[], .nil, rfl, rfl⟩
    · rintro ⟨_, ⟨⟩, rfl, rfl⟩
      rfl
  | f :: fs, effects, unknown => by
    constructor
    · intro h
      obtain ⟨first, hfirst, h⟩ := Play.except_bind_ok.1 h
      obtain ⟨⟨more, moreUnknown⟩, hmore, h⟩ := Play.except_bind_ok.1 h
      obtain ⟨rfl, rfl⟩ := Prod.mk.inj (Play.except_pure_ok.1 h)
      obtain ⟨rs, hrs, rfl, rfl⟩ := readFragments_ok.1 hmore
      exact ⟨first :: rs, .cons hfirst hrs, rfl, rfl⟩
    · rintro ⟨_, hread, rfl, rfl⟩
      obtain ⟨first, rs, hfirst, hrs, rfl⟩ := List.forall₂_cons_left_iff.1 hread
      have hmore := readFragments_ok.2 ⟨rs, hrs, rfl, rfl⟩
      exact Play.except_bind_ok.2 ⟨first, hfirst, Play.except_bind_ok.2 ⟨_, hmore, rfl⟩⟩

/-! ### Clauses -/

/-- A clause with an effect and the gates that guard it. -/
structure Block where
  gates : List (Condition × List Char)
  clause : List Char
  built : List Effect

namespace Block

/-- The effects that a block stands for. -/
def effects (b : Block) : List Effect :=
  if b.gates.isEmpty then b.built else [.gate (b.gates.map (·.1)) b.built]

/-- The clauses of a block. -/
def clauses (b : Block) : List (List Char) := b.gates.map (·.2) ++ [b.clause]

end Block

/-- Each clause is a gate and means its condition. -/
def AreGates (gates : List (Condition × List Char)) : Prop :=
  ∀ g ∈ gates, Rule.first? gateRules g.2 = some (.ok g.1)

/-- The gates of a block are gates, and its clause is none but states its effects. -/
structure Block.Sound (b : Block) : Prop where
  gates : AreGates b.gates
  notGate : Rule.first? gateRules b.clause = none
  built : Rule.first? effectRules b.clause = some (.ok b.built)

/-- No rule covers the clause. -/
def Strange (c : List Char) : Prop :=
  Rule.first? gateRules c = none ∧ Rule.first? effectRules c = none

/-- A clause that states no effect: a gate, or a clause that no rule covers. -/
def Idle (c : List Char) : Prop := (Rule.first? gateRules c).isSome = true ∨ Strange c

theorem areGates_nil : AreGates [] := List.forall_mem_nil _

theorem AreGates.idle {gates : List (Condition × List Char)} (h : AreGates gates) :
    ∀ c ∈ gates.map (·.2), Idle c := by
  intro c hc
  obtain ⟨g, hg, rfl⟩ := List.mem_map.1 hc
  exact .inl (by rw [h g hg]; rfl)

/-- **Every clause has one place**: it belongs to a block, in the order of the text, or it is
unknown and states no effect. -/
theorem readClauses_blocks : ∀ {cs : List (List Char)} {waiting : List (Condition × List Char)}
    {effects : List Effect} {unknown : List (List Char)}, AreGates waiting →
    readClauses waiting cs = .ok (effects, unknown) →
    ∃ blocks : List Block, (∀ b ∈ blocks, b.Sound) ∧ effects = blocks.flatMap Block.effects ∧
      (waiting.map (·.2) ++ cs).Perm (blocks.flatMap Block.clauses ++ unknown) ∧
      ∀ c ∈ unknown, Idle c
  | [], waiting, _, _, hwaiting, h => by
    obtain ⟨rfl, rfl⟩ := Prod.mk.inj (Except.ok.inj h)
    exact ⟨[], List.forall_mem_nil _, rfl, by simp, hwaiting.idle⟩
  | c :: cs, waiting, effects, unknown, hwaiting, h => by
    rw [readClauses_cons] at h
    split at h
    · next gate hgate =>
      obtain ⟨condition, rfl, hrest⟩ := Play.except_bind_ok.1 h
      have hgates : AreGates (waiting ++ [(condition, c)]) := by
        intro g hg
        rcases List.mem_append.1 hg with hg | hg
        · exact hwaiting g hg
        · rw [List.mem_singleton.1 hg, hgate]
      obtain ⟨blocks, hsound, heffects, hplaces, hidle⟩ := readClauses_blocks hgates hrest
      refine ⟨blocks, hsound, heffects, ?_, hidle⟩
      simpa using hplaces
    · next hgate =>
      split at h
      · next hnone =>
        obtain ⟨⟨more, rest⟩, hmore, h⟩ := Play.except_bind_ok.1 h
        obtain ⟨rfl, rfl⟩ := Prod.mk.inj (Play.except_pure_ok.1 h)
        obtain ⟨blocks, hsound, heffects, hplaces, hidle⟩ := readClauses_blocks hwaiting hmore
        refine ⟨blocks, hsound, heffects, ?_, List.forall_mem_cons.2 ⟨.inr ⟨hgate, hnone⟩, hidle⟩⟩
        exact List.perm_middle.trans ((hplaces.cons c).trans List.perm_middle.symm)
      · next meaning hmeaning =>
        obtain ⟨built, rfl, hrest⟩ := Play.except_bind_ok.1 h
        obtain ⟨⟨more, rest⟩, hmore, hrest⟩ := Play.except_bind_ok.1 hrest
        obtain ⟨rfl, rfl⟩ := Prod.mk.inj (Play.except_pure_ok.1 hrest)
        obtain ⟨blocks, hsound, rfl, hplaces, hidle⟩ := readClauses_blocks areGates_nil hmore
        let block : Block := ⟨waiting, c, built⟩
        refine ⟨block :: blocks, List.forall_mem_cons.2 ⟨⟨hwaiting, hgate, hmeaning⟩, hsound⟩, rfl,
          ?_, hidle⟩
        simpa [Block.clauses, block] using (hplaces.cons c).append_left (waiting.map (·.2))

/-- Clauses that no rule covers are unknown, and the rest is read as if they were not there. -/
theorem readClauses_strange {heads : List (List Char)} (h : ∀ c ∈ heads, Strange c)
    (waiting : List (Condition × List Char)) (cs : List (List Char)) :
    readClauses waiting (heads ++ cs) =
      (readClauses waiting cs).map fun r => (r.1, heads ++ r.2) := by
  induction heads with
  | nil => cases h : readClauses waiting cs <;> simp [h, Except.map]
  | cons c heads ih =>
    obtain ⟨hgate, heffect⟩ := h c List.mem_cons_self
    rw [List.cons_append, readClauses_cons, hgate]
    dsimp only
    rw [heffect]
    dsimp only
    rw [ih fun c' hc' => h c' (List.mem_cons_of_mem c hc')]
    cases readClauses waiting cs <;> rfl

end CardLesson.Wording
