/-
# Effects that descriptions state

The effects of a description are made by rules; gates and announcements put them inside others, a
remark or a span changes a field. So what holds of every effect that a rule makes, and survives the
rest, holds of every effect in what a description reads as (`Description.read_throughout`), and
likewise for operations (`Description.read_every`). Here it is that durations and counts are
numbers, when there are any; so the check of a card that a row describes always returns
(`checkCard_returns`).

Key definitions: `Operation.isTimed`, `Builds`, `Rule.Makes`, `Makes`.
Key theorems: `checkCard_returns`, `Description.read_throughout`, `Description.read_every`,
`makes_timed`.
-/
import CardLesson.Proofs.Leftovers
import CardLesson.Proofs.Failing

namespace CardLesson

/-! ### Effects that pass their check or not -/

/-- The duration and the count are numbers, or there is none. -/
def Operation.isTimed (op : Operation) : Bool :=
  (op.duration.isNull || op.duration.isNumber) && (op.count.isNull || op.count.isNumber)

theorem isBelow_returns {d : Datum} (h : (d.isNull || d.isNumber) = true) (bound : Int) :
    ∃ below, isBelow d bound = .ok below := by
  unfold isBelow
  split
  · exact ⟨false, rfl⟩
  · next hnull =>
    have hnumber : d.isNumber = true := (Bool.or_eq_true_iff.1 h).resolve_left hnull
    obtain ⟨q, hq⟩ := Option.isSome_iff_exists.1 hnumber
    have horder : d.order (.whole bound) = .ok (q.compare? (.whole bound)) := by
      unfold Datum.order
      split
      · next htext => cases htext
      · rw [Datum.quantity, hq]
        rfl
    exact ⟨_, by rw [Datum.lt, horder]; rfl⟩

theorem checkOperation_returns {place : String} {op : Operation} {kind : EffectKind}
    {isEmptyGate lacksEffect : Bool} (h : op.isTimed = true) :
    ∃ r, checkOperation place op kind isEmptyGate lacksEffect = .ok r := by
  rw [Operation.isTimed, Bool.and_eq_true] at h
  obtain ⟨short, hshort⟩ := isBelow_returns h.1 (-1)
  obtain ⟨few, hfew⟩ := isBelow_returns h.2 0
  unfold checkOperation
  rw [hshort, hfew]
  exact ⟨_, rfl⟩

mutual

theorem checkEffect_returns {place : String} : ∀ e : Effect, e.every Operation.isTimed = true →
    ∃ r, checkEffect place e = .ok r
  | ⟨op, subs, triggered⟩, h => by
    rw [Effect.every, Bool.and_eq_true, Bool.and_eq_true] at h
    obtain ⟨⟨hop, hsubs⟩, htriggered⟩ := h
    rw [checkEffect]
    split
    · exact ⟨_, rfl⟩
    · obtain ⟨own, hown⟩ := checkOperation_returns hop
      obtain ⟨inside, hinside⟩ := checkEffects_returns subs hsubs
      obtain ⟨fired, hfired⟩ := checkTriggered_returns triggered htriggered
      rw [hown, hinside, hfired]
      exact ⟨_, rfl⟩
termination_by structural e => e

theorem checkEffects_returns {place : String} : ∀ es : List Effect,
    Effect.everyOf Operation.isTimed es = true → ∃ r, checkEffects place es = .ok r
  | [], _ => ⟨_, rfl⟩
  | e :: es, h => by
    rw [Effect.everyOf, Bool.and_eq_true] at h
    obtain ⟨first, hfirst⟩ := checkEffect_returns e h.1
    obtain ⟨rest, hrest⟩ := checkEffects_returns es h.2
    rw [checkEffects, hfirst, hrest]
    exact ⟨_, rfl⟩
termination_by structural es => es

theorem checkTriggered_returns {place : String} : ∀ o : Option Effect,
    Effect.everyIn Operation.isTimed o = true → ∃ r, checkTriggered place o = .ok r
  | none, _ => ⟨_, rfl⟩
  | some e, h => checkEffect_returns e h
termination_by structural o => o

end

theorem checkCard_returns {c : Card} (h : Effect.everyOf Operation.isTimed c.effects = true) :
    ∃ r, checkCard c = .ok r := by
  obtain ⟨effects, heffects⟩ := checkEffects_returns c.effects h
  exact ⟨_, Play.except_bind_ok.2 ⟨effects, heffects, rfl⟩⟩

namespace Wording

/-! ### What holds of all effects -/

/-- The effects that rules make have a property throughout, gates and reactive buffs that are put
around effects have it, and what a remark or a span changes has it still. -/
structure Builds (P : Effect → Prop) : Prop where
  rules : ∀ r ∈ effectRules, ∀ f built, r.meaning f = .ok built → ∀ e ∈ built, e.Throughout P
  gate : ∀ gates es, AreGates gates → P (.gate (gates.map (·.1)) es)
  reactive : ∀ t ∈ triggers, ∀ e, P (.reactive (.known t.kind) e (.whole (-1)) t.condition)
  remark : ∀ e : Effect, P e →
    P { e with operation := { e.operation with doubleMotivation := true } }
  span : ∀ (e : Effect) (turns : Nat), P e → P (withTurns turns e)

namespace Builds

variable {P : Effect → Prop}

theorem gated (hP : Builds P) {gates : List (Condition × List Char)} (hgates : AreGates gates)
    {es : List Effect} (hes : ∀ e ∈ es, e.Throughout P) :
    (Effect.gate (gates.map (·.1)) es).Throughout P :=
  Effect.throughout_iff.2 ⟨hP.gate gates es hgates, hes, nofun⟩

theorem block (hP : Builds P) {b : Block} (hb : b.Sound) : ∀ e ∈ b.effects, e.Throughout P := by
  obtain ⟨r, hr, hcovers⟩ := List.exists_of_findSome?_eq_some hb.built
  obtain ⟨f, _, hmeaning⟩ := Option.map_eq_some_iff.1 hcovers
  have hbuilt := hP.rules r hr f b.built hmeaning
  unfold Block.effects
  split
  · exact hbuilt
  · exact List.forall_mem_singleton.2 (hP.gated hb.gates hbuilt)

theorem blocks (hP : Builds P) {bs : List Block} (hbs : ∀ b ∈ bs, b.Used) :
    ∀ e ∈ bs.flatMap Block.effects, e.Throughout P := by
  intro e he
  obtain ⟨b, hb, he⟩ := List.mem_flatMap.1 he
  exact hP.block (hbs b hb).1 e he

theorem remarked (hP : Builds P) {content : List Char} {es es' : List Effect}
    (h : Remarked content es es') (hes : ∀ e ∈ es, e.Throughout P) : ∀ e ∈ es', e.Throughout P := by
  cases h with
  | absent _ => exact hes
  | dropped _ _ => exact hes
  | used _ _ _ =>
    intro e he
    obtain ⟨e, he', rfl⟩ := List.mem_map.1 he
    unfold Effect.withDoubleMotivation
    split
    · obtain ⟨hroot, hinside⟩ := Effect.throughout_iff.1 (hes e he')
      exact Effect.throughout_iff.2 ⟨hP.remark e hroot, hinside⟩
    · exact hes e he'

theorem buff (hP : Builds P) {t : Trigger} (ht : t ∈ triggers) {es : List Effect}
    (hes : ∀ e ∈ es, e.Throughout P) : (t.buff es).Throughout P := by
  have reactive {e : Effect} (he : e.Throughout P) :
      (Effect.reactive (.known t.kind) e (.whole (-1)) t.condition).Throughout P := by
    refine Effect.throughout_iff.2 ⟨hP.reactive t ht e, List.forall_mem_nil _, fun e' he' => ?_⟩
    exact Option.some.inj he' ▸ he
  unfold Trigger.buff
  split
  · next e => exact reactive (hes e List.mem_cons_self)
  · exact reactive (hP.gated areGates_nil hes)

theorem accounted (hP : Builds P) {fragment : List Char} {r : List Effect × List (List Char)}
    (h : Accounted fragment r) : ∀ e ∈ r.1, e.Throughout P := by
  cases h with
  | clauseByClause hused _ _ => exact hP.blocks hused
  | inOneBuff hannounced _ _ hused _ _ hremarked =>
    obtain ⟨t', ht, hcovers⟩ := List.exists_of_findSome?_eq_some hannounced
    obtain ⟨_, _, heq⟩ := Option.map_eq_some_iff.1 hcovers
    obtain ⟨rfl, _⟩ := Prod.mk.inj heq
    exact List.forall_mem_singleton.2 (hP.buff ht (hP.remarked hremarked (hP.blocks hused)))

theorem parts (hP : Builds P) {fs : List (List Char)} {rs : List (List Effect × List (List Char))}
    (h : List.Forall₂ (fun f r => readFragment f = .ok r) fs rs) :
    ∀ e ∈ rs.flatMap (·.1), e.Throughout P := by
  induction h with
  | nil => exact List.forall_mem_nil _
  | cons hr _ ih =>
    exact List.forall_mem_append.2 ⟨hP.accounted (readFragment_accounted hr), ih⟩

theorem spanned (hP : Builds P) {spans : List Found} {es es' : List Effect}
    (h : Spanned spans es es') (hes : ∀ e ∈ es, e.Throughout P) :
    ∀ e ∈ es', e.Throughout P := by
  cases h with
  | absent => exact hes
  | dropped _ _ => exact hes
  | @used _ _ turns before after e _ _ _ =>
    rw [List.forall_mem_append, List.forall_mem_cons] at hes ⊢
    obtain ⟨hbefore, he, hafter⟩ := hes
    obtain ⟨hroot, hinside⟩ := Effect.throughout_iff.1 he
    exact ⟨hbefore, Effect.throughout_iff.2 ⟨hP.span e turns hroot, hinside⟩, hafter⟩

end Builds

/-- **What rules make, a description states**: a property of all effects that are built is one of
every effect in what a description reads as. -/
theorem Description.read_throughout {P : Effect → Prop} (hP : Builds P) {cs : List Char}
    {d : Description} (h : read cs = .ok d) : ∀ e ∈ d.effects, e.Throughout P := by
  obtain ⟨rs, hrs, _, hspanned⟩ := read_parts h
  exact hP.spanned hspanned (hP.parts hrs)

/-! ### What holds of all operations -/

/-- All operations that the rule makes pass a test. -/
def Rule.Makes (p : Operation → Bool) (r : Rule (List Effect)) : Prop :=
  ∀ f built, r.meaning f = .ok built → Effect.everyOf p built = true

/-- The operations that rules make, gates and announcements pass a test, and what a remark or a span
changes passes it still. -/
structure Makes (p : Operation → Bool) : Prop where
  rules : ∀ r ∈ effectRules, r.Makes p
  gate : ∀ gates, AreGates gates →
    p { kind := .known .conditionGate, conditions := gates.map (·.1) } = true
  reactive : ∀ t ∈ triggers,
    p { kind := .known t.kind, duration := .whole (-1), triggerCondition := t.condition } = true
  remark : ∀ op : Operation, p op = true → p { op with doubleMotivation := true } = true
  span : ∀ (op : Operation) (turns : Nat), p op = true →
    p { op with duration := .whole turns } = true

theorem Makes.builds {p : Operation → Bool} (hp : Makes p) :
    Builds fun e => p e.operation = true where
  rules r hr f built hbuilt :=
    (Effect.everyOf_iff_throughout built).1 (hp.rules r hr f built hbuilt)
  gate gates _ hgates := hp.gate gates hgates
  reactive t ht _ := hp.reactive t ht
  remark e := hp.remark e.operation
  span e := hp.span e.operation

/-- A test that all operations pass when they are made and that nothing undoes is passed by every
operation in what a description reads as. -/
theorem Description.read_every {p : Operation → Bool} (hp : Makes p) {cs : List Char}
    {d : Description} (h : read cs = .ok d) : Effect.everyOf p d.effects = true :=
  (Effect.everyOf_iff_throughout d.effects).2 (read_throughout hp.builds h)

/-! ### Durations and counts -/

theorem single_makes {p : Operation → Bool} {pattern : Pattern}
    {meaning : Found → Except Fault Operation} (h : ∀ f op, meaning f = .ok op → p op = true) :
    (single pattern meaning).Makes p := by
  intro f built hbuilt
  obtain ⟨op, hop, hbuilt⟩ := Play.except_bind_ok.1 hbuilt
  rw [← Play.except_pure_ok.1 hbuilt, Effect.everyOf, Effect.of, Effect.every, h f op hop]
  rfl

theorem constant_makes {p : Operation → Bool} {pattern : Pattern} {op : Operation}
    (h : p op = true) : (constant pattern op).Makes p := by
  refine single_makes fun f op' hop => ?_
  rw [← Except.ok.inj hop]
  exact h

/-- A rule that reads an amount and nothing else. -/
theorem amount_makes {p : Operation → Bool} {pattern : Pattern} {op : Nat → Operation}
    (h : ∀ n, p (op n) = true) :
    (single pattern fun f => do return op (← f.count .amount)).Makes p := by
  refine single_makes fun f op' hop => ?_
  obtain ⟨n, _, hop⟩ := Play.except_bind_ok.1 hop
  rw [← Play.except_pure_ok.1 hop]
  exact h n

theorem lastingRule_timed {pattern : Pattern} {kind : EffectKind} {lasting : Option Nat → Datum}
    (h : ∀ turns, ((lasting turns).isNull || (lasting turns).isNumber) = true) :
    (lastingRule pattern kind lasting).Makes Operation.isTimed := by
  refine single_makes fun f op hop => ?_
  obtain ⟨n, _, hop⟩ := Play.except_bind_ok.1 hop
  obtain ⟨turns, _, hop⟩ := Play.except_bind_ok.1 hop
  rw [← Play.except_pure_ok.1 hop, Operation.isTimed, h turns]
  rfl

theorem durationOf_timed (turns : Option Nat) :
    ((durationOf turns).isNull || (durationOf turns).isNumber) = true := by
  cases turns <;> rfl

theorem durationOrRest_timed (turns : Option Nat) :
    ((durationOrRest turns).isNull || (durationOrRest turns).isNumber) = true := by
  rcases turns with _ | _ | n <;> rfl

theorem scoreRules_timed : ∀ r ∈ scoreRules, r.Makes Operation.isTimed := by
  refine List.forall_mem_cons.2 ⟨?_, ?_⟩
  · intro f built hbuilt
    obtain ⟨multiplier, _, hbuilt⟩ := Play.except_bind_ok.1 hbuilt
    obtain ⟨times, _, hbuilt⟩ := Play.except_bind_ok.1 hbuilt
    obtain ⟨value, _, hbuilt⟩ := Play.except_bind_ok.1 hbuilt
    refine Effect.everyOf_iff.2 fun e he => ?_
    rw [mem_repeated hbuilt he]
    rfl
  · intro r hr
    obtain ⟨⟨pool, kind⟩, _, rfl⟩ := List.mem_map.1 hr
    refine single_makes fun f op hop => ?_
    obtain ⟨n, _, hop⟩ := Play.except_bind_ok.1 hop
    obtain ⟨ratio, _, hop⟩ := Play.except_bind_ok.1 hop
    rw [← Play.except_pure_ok.1 hop]
    rfl

theorem poolRules_timed : ∀ r ∈ poolRules, r.Makes Operation.isTimed := by
  have hfactor : multiplyImpressionRule.Makes Operation.isTimed := by
    refine single_makes fun f op hop => ?_
    obtain ⟨factor, _, hop⟩ := Play.except_bind_ok.1 hop
    rw [← Play.except_pure_ok.1 hop]
    rfl
  simp only [poolRules, List.forall_mem_cons]
  exact ⟨amount_makes fun _ => rfl, amount_makes fun _ => rfl, amount_makes fun _ => rfl,
    amount_makes fun _ => rfl, hfactor, constant_makes rfl, amount_makes fun _ => rfl,
    amount_makes fun _ => rfl, amount_makes fun _ => rfl, amount_makes fun _ => rfl,
    List.forall_mem_nil _⟩

theorem buffRules_timed : ∀ r ∈ buffRules, r.Makes Operation.isTimed := by
  have himmunity : immunityRule.Makes Operation.isTimed := by
    refine single_makes fun f op hop => ?_
    obtain ⟨times, _, hop⟩ := Play.except_bind_ok.1 hop
    rw [← Play.except_pure_ok.1 hop]
    rfl
  simp only [buffRules, List.cons_append, List.nil_append, basePools, List.map_cons, List.map_nil,
    List.forall_mem_cons]
  exact ⟨amount_makes fun _ => rfl, amount_makes fun _ => rfl, amount_makes fun _ => rfl,
    amount_makes fun _ => rfl, amount_makes fun _ => rfl, lastingRule_timed durationOf_timed,
    amount_makes fun _ => rfl, himmunity, lastingRule_timed durationOrRest_timed,
    lastingRule_timed durationOf_timed, amount_makes fun _ => rfl, amount_makes fun _ => rfl,
    amount_makes fun _ => rfl, List.forall_mem_nil _⟩

theorem cardRules_timed : ∀ r ∈ cardRules, r.Makes Operation.isTimed := by
  have hfree : freeUseRule.Makes Operation.isTimed := by
    refine single_makes fun f op hop => ?_
    obtain ⟨n, _, hop⟩ := Play.except_bind_ok.1 hop
    rw [← Play.except_pure_ok.1 hop]
    rfl
  have hdraw : drawRule.Makes Operation.isTimed := by
    refine single_makes fun f op hop => ?_
    obtain ⟨n, _, hop⟩ := Play.except_bind_ok.1 hop
    rw [← Play.except_pure_ok.1 hop]
    rfl
  have htrouble : troubleRule.Makes Operation.isTimed := by
    refine single_makes fun f op hop => ?_
    rw [← Except.ok.inj hop]
    rfl
  simp only [cardRules, List.forall_mem_cons]
  exact ⟨amount_makes fun _ => rfl, hdraw, constant_makes rfl, constant_makes rfl, hfree, htrouble,
    List.forall_mem_nil _⟩

theorem courseRules_timed : ∀ r ∈ courseRules, r.Makes Operation.isTimed := by
  simp only [courseRules, List.forall_mem_cons]
  exact ⟨amount_makes fun _ => rfl, constant_makes rfl, List.forall_mem_nil _⟩

/-- Durations and counts are numbers in all that descriptions state. -/
theorem makes_timed : Makes Operation.isTimed where
  rules := by
    simp only [effectRules, List.forall_mem_append]
    exact ⟨⟨⟨⟨scoreRules_timed, poolRules_timed⟩, buffRules_timed⟩, cardRules_timed⟩,
      courseRules_timed⟩
  gate _ _ := rfl
  reactive _ _ := rfl
  remark _ h := h
  span op turns h := by
    rw [Operation.isTimed, Bool.and_eq_true] at h
    rw [Operation.isTimed, h.2]
    rfl

end Wording
end CardLesson
