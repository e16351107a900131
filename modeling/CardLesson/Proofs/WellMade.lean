/-
# Effects of descriptions are well made

What a description reads as is fit for a lesson, whatever the text: kinds are known, amounts and
counts are not below zero, durations are turns from zero on or the rest of the lesson, conditions
ask for something known and for no less than zero of it, a reactive buff has an effect to carry out,
and a trouble card has a name (`described_effects_are_well_made`). In particular the cards of a
sheet hold no numbers below zero, which is all that a lesson needs to stay within its bounds.

Numbers in a text have no sign, so what a rule makes of them is not below zero, however it is
rounded.

Key definitions: `Datum.isFrom`, `Condition.isWellMade`, `Operation.isWellMade`, `Effect.WellMade`.
Key theorems: `readDecimal_isFrom`, `ratio_isFrom`, `effectRules_wellMade`, `gateRules_wellMade`,
`builds_wellMade`, `described_effects_are_well_made`.
-/
import CardLesson.Proofs.Readable
import CardLesson.Proofs.Amounts
import CardLesson.Proofs.Respaced

namespace CardLesson

/-! ### Numbers from a bound on -/

/-- Whether the datum is missing or a number from a bound on. -/
def Datum.isFrom (bound : Int) (d : Datum) : Bool :=
  d.isNull || d.number?.any (Quantity.le (.whole bound))

namespace Datum

@[simp] theorem isFrom_null (bound : Int) : isFrom bound .null = true := rfl

@[simp] theorem isFrom_whole (bound n : Int) : isFrom bound (whole n) = decide (bound ≤ n) := by
  rw [isFrom, number?, Option.any_some, Quantity.le_whole]
  rfl

theorem isAmount_of_isFrom {d : Datum} (h : d.isFrom 0 = true) : d.isAmount = true := by
  unfold isFrom at h
  unfold isAmount
  cases hnumber : d.number? with
  | none =>
    rw [hnumber] at h
    simpa using h
  | some q =>
    rw [hnumber, Bool.or_eq_true] at h
    refine h.resolve_left fun hnull => ?_
    cases d <;> cases hnull
    cases hnumber

end Datum

/-- The double is a number from zero on, or the infinity above all. -/
def Double.Unsigned (x : Double) : Prop := x ≠ .notANumber ∧ x.NotNegative

namespace Double.Unsigned

theorem pack (m : Nat) (e : Int) : (Double.pack false m e).Unsigned := by
  refine ⟨?_, pack_notNegative m e⟩
  unfold Double.pack
  split
  · nofun
  · split <;> split <;> nofun

theorem ofRatio (n d : Nat) : (Double.ofRatio false n d).Unsigned := by
  unfold Double.ofRatio
  split
  · exact ⟨nofun, fun _ => rfl⟩
  · exact pack _ _

theorem ofDecimal (digits : Nat) (exponent : Int) :
    (Double.ofDecimal false digits exponent).Unsigned := by
  unfold Double.ofDecimal
  split
  · exact ⟨nofun, fun _ => rfl⟩
  · split
    · exact ⟨nofun, rfl⟩
    · split
      · exact ⟨nofun, fun _ => rfl⟩
      · exact ofRatio _ _

theorem isFrom {x : Double} (h : x.Unsigned) : (Datum.number (.real x)).isFrom 0 = true := by
  show Quantity.le (.whole 0) (.real x) = true
  obtain ⟨hnumber, hsign⟩ := h
  cases x with
  | notANumber => exact absurd rfl hnumber
  | infinite s =>
    cases hsign
    rfl
  | finite s m e =>
    have hnonneg : 0 ≤ Double.aligned s m e (min 0 e) := Double.aligned_nonneg hsign e (min 0 e)
    have hzero : Double.aligned false 0 0 (min 0 e) = 0 := by
      rw [Double.aligned, Nat.zero_mul]
      rfl
    have hcompare : Quantity.compare? (.whole 0) (.real (.finite s m e)) =
        some (compare 0 (Double.aligned s m e (min 0 e))) := by
      show some (compare (Double.aligned false 0 0 (min 0 e)) _) = _
      rw [hzero]
    rw [Quantity.le, Quantity.lt, hcompare]
    rcases Int.lt_or_eq_of_le hnonneg with hpos | heq
    · rw [Int.compare_eq_lt.2 hpos]
      rfl
    · rw [← heq]
      rfl

end Double.Unsigned

theorem readDecimal_isFrom {cs : List Char} {x : Double} (h : readDecimal cs = .ok x) :
    (Datum.number (.real x)).isFrom 0 = true := by
  unfold readDecimal at h
  dsimp only at h
  split at h
  · rw [← Except.ok.inj h]
    exact (Double.Unsigned.ofDecimal _ _).isFrom
  · cases h

theorem ratio_isFrom {n : Nat} {x : Double}
    (h : Quantity.ratio (.whole n) (.whole 100) = .ok x) :
    (Datum.number (.real x)).isFrom 0 = true := by
  have hsign : (decide ((n : Int) < 0) != decide ((100 : Int) < 0)) = false := by simp
  unfold Quantity.ratio at h
  dsimp only at h
  rw [hsign] at h
  have hratio := Double.Unsigned.ofRatio (n : Int).natAbs (100 : Int).natAbs
  split at h
  · cases h
  · rw [← Except.ok.inj h]
    exact hratio.isFrom

/-! ### Well-made effects -/

def Tag.isKnown {α : Type} : Tag α → Bool
  | .known _ => true
  | .unknown _ => false

/-- Whether the condition asks for something known, and for a number of it that is not below
zero. -/
def Condition.isWellMade (c : Condition) : Bool :=
  c.kind.isKnown && c.value.isNumber && c.value.isFrom 0

/-- Whether the operation is of a known kind, its numbers are in range, its conditions are well made
and it names the trouble card that it makes. -/
def Operation.isWellMade (op : Operation) : Bool :=
  op.kind.isKnown && op.value.isFrom 0 && op.ratio.isFrom 0 && op.multiplier.isFrom 0 &&
    op.duration.isFrom (-1) && op.count.isFrom 0 && op.conditions.all Condition.isWellMade &&
    op.triggerCondition.all Condition.isWellMade &&
    (!op.kind.is .generateTrouble || op.troubleId.isText && op.troubleId.holds)

/-- Whether the operation is of a reactive buff. -/
def Operation.isReactive (op : Operation) : Bool :=
  match op.kind with
  | .known k => k.isReactive
  | .unknown _ => false

/-- The effect is well made, apart from the effects inside it, and has an effect to carry out if it
is a reactive buff. -/
structure Effect.WellMade (e : Effect) : Prop where
  operation : e.operation.isWellMade = true
  armed : e.operation.isReactive = true → e.triggered.isSome = true

theorem Operation.generous_of_isWellMade {op : Operation} (h : op.isWellMade = true) :
    generous op = true := by
  simp only [Operation.isWellMade, Bool.and_eq_true] at h
  obtain ⟨⟨⟨⟨⟨⟨⟨⟨_, hvalue⟩, hratio⟩, hmultiplier⟩, _⟩, _⟩, _⟩, _⟩, _⟩ := h
  exact generous_iff.2 ⟨Datum.isAmount_of_isFrom hvalue, Datum.isAmount_of_isFrom hratio,
    Datum.isAmount_of_isFrom hmultiplier⟩

namespace Wording

/-! ### Gates -/

/-- All conditions that the rule makes are well made. -/
def Rule.MakesWell (r : Rule Condition) : Prop :=
  ∀ f c, r.meaning f = .ok c → c.isWellMade = true

theorem atLeast_isWellMade (kind : ConditionKind) (n : Nat) :
    (Condition.atLeast kind n).isWellMade = true := by
  simp [Condition.isWellMade, Condition.atLeast, Tag.isKnown, Datum.isNumber, Datum.number?]

theorem poolCondition_isWellMade {kind : ConditionKind} {f : Found} {c : Condition}
    (h : poolCondition kind f = .ok c) : c.isWellMade = true := by
  obtain ⟨n, _, h⟩ := Play.except_bind_ok.1 h
  rw [← Play.except_pure_ok.1 h]
  exact atLeast_isWellMade kind n

theorem usageRules_wellMade : ∀ r ∈ usageRules, r.MakesWell := by
  intro r hr f c hc
  obtain ⟨_, _, rfl⟩ := List.mem_map.1 hr
  exact poolCondition_isWellMade hc

theorem gateRules_wellMade : ∀ r ∈ gateRules, r.MakesWell := by
  have hpools : ∀ r ∈ poolGates, r.MakesWell := by
    intro r hr f c hc
    obtain ⟨_, _, rfl⟩ := List.mem_map.1 hr
    exact poolCondition_isWellMade hc
  have hrarities : ∀ r ∈ rarityGates, r.MakesWell := by
    intro r hr f c hc
    obtain ⟨_, _, rfl⟩ := List.mem_map.1 hr
    obtain ⟨c', hc', hc⟩ := Play.except_bind_ok.1 hc
    rw [← Play.except_pure_ok.1 hc]
    have hmade := poolCondition_isWellMade hc'
    exact hmade
  have hstates : ∀ r ∈ stateGates, r.MakesWell := by
    intro r hr f c hc
    obtain ⟨_, _, rfl⟩ := List.mem_map.1 hr
    rw [← Except.ok.inj hc]
    exact atLeast_isWellMade .buff 1
  simp only [gateRules, List.forall_mem_append, List.forall_mem_cons]
  exact ⟨⟨⟨hpools, fun _ _ => poolCondition_isWellMade, fun _ _ => poolCondition_isWellMade,
    List.forall_mem_nil _⟩, hrarities⟩, hstates⟩

theorem AreGates.wellMade {gates : List (Condition × List Char)} (h : AreGates gates) :
    ∀ c ∈ gates.map (·.1), c.isWellMade = true := by
  intro c hc
  obtain ⟨g, hg, rfl⟩ := List.mem_map.1 hc
  obtain ⟨r, hr, hcovers⟩ := List.exists_of_findSome?_eq_some (h g hg)
  obtain ⟨f, _, hmeaning⟩ := Option.map_eq_some_iff.1 hcovers
  exact gateRules_wellMade r hr f g.1 hmeaning

/-! ### Rules -/

/-- Whether the operation is well made and needs no effect to carry out. -/
def isPlainlyMade (op : Operation) : Bool := op.isWellMade && !op.isReactive

/-- Whether effects of the kind need nothing but numbers. -/
def needsNumbers (k : EffectKind) : Bool := !k.isReactive && k != .generateTrouble

/-- An operation that is nothing but its kind and its numbers. -/
theorem numbers_plainlyMade {k : EffectKind} {value ratio multiplier duration count : Datum}
    (hk : needsNumbers k = true) (targetRarity param : Datum) (ignoreCost : Bool)
    (hvalue : value.isFrom 0 = true) (hratio : ratio.isFrom 0 = true)
    (hmultiplier : multiplier.isFrom 0 = true) (hduration : duration.isFrom (-1) = true)
    (hcount : count.isFrom 0 = true) :
    isPlainlyMade { kind := .known k, value, ratio, multiplier, duration, count, targetRarity,
                    param, ignoreCost } = true := by
  rw [needsNumbers, Bool.and_eq_true, Bool.not_eq_true', bne_iff_ne] at hk
  simp [isPlainlyMade, Operation.isWellMade, Operation.isReactive, Tag.isKnown, Tag.is, hk, hvalue,
    hratio, hmultiplier, hduration, hcount]

theorem natCast_isFrom (n : Nat) : (Datum.whole n).isFrom 0 = true := by simp

theorem value_plainlyMade {k : EffectKind} (hk : needsNumbers k = true) (n : Nat) :
    isPlainlyMade { kind := .known k, value := .whole n } = true :=
  numbers_plainlyMade hk _ _ _ (natCast_isFrom n) rfl rfl rfl rfl

theorem amountRule_wellMade {pattern : Pattern} {k : EffectKind} (hk : needsNumbers k = true) :
    (amountRule pattern k).Makes isPlainlyMade := amount_makes (value_plainlyMade hk)

theorem turnsRule_wellMade {pattern : Pattern} {k : EffectKind} (hk : needsNumbers k = true) :
    (turnsRule pattern k).Makes isPlainlyMade :=
  amount_makes fun n => numbers_plainlyMade hk _ _ _ rfl rfl rfl (by simp) rfl

theorem lastingRule_wellMade {pattern : Pattern} {k : EffectKind} {lasting : Option Nat → Datum}
    (hk : needsNumbers k = true) (h : ∀ turns, (lasting turns).isFrom (-1) = true) :
    (lastingRule pattern k lasting).Makes isPlainlyMade := by
  refine single_makes fun f op hop => ?_
  obtain ⟨n, _, hop⟩ := Play.except_bind_ok.1 hop
  obtain ⟨turns, _, hop⟩ := Play.except_bind_ok.1 hop
  rw [← Play.except_pure_ok.1 hop]
  exact numbers_plainlyMade hk _ _ _ (natCast_isFrom n) rfl rfl (h turns) rfl

theorem durationOf_isFrom (turns : Option Nat) : (durationOf turns).isFrom (-1) = true := by
  cases turns with
  | none => rfl
  | some n => simp [durationOf]

theorem durationOrRest_isFrom (turns : Option Nat) : (durationOrRest turns).isFrom (-1) = true := by
  rcases turns with _ | _ | n
  · rfl
  · rfl
  · simp [durationOrRest]; omega

theorem decimal?_isFrom {f : Found} {x : Option Double} (h : f.decimal? .factor = .ok x) :
    (x.elim .null fun x => .number (.real x) : Datum).isFrom 0 = true := by
  unfold Found.decimal? at h
  split at h
  · next cs _ =>
    cases hx : readDecimal cs with
    | error e =>
      rw [hx] at h
      cases h
    | ok y =>
      rw [hx] at h
      rw [← Except.ok.inj h]
      exact readDecimal_isFrom hx
  · rw [← Except.ok.inj h]
    rfl

theorem scoreRules_wellMade : ∀ r ∈ scoreRules, r.Makes isPlainlyMade := by
  refine List.forall_mem_cons.2 ⟨?_, ?_⟩
  · intro f built hbuilt
    obtain ⟨multiplier, hmultiplier, hbuilt⟩ := Play.except_bind_ok.1 hbuilt
    obtain ⟨times, _, hbuilt⟩ := Play.except_bind_ok.1 hbuilt
    obtain ⟨value, _, hbuilt⟩ := Play.except_bind_ok.1 hbuilt
    refine Effect.everyOf_iff.2 fun e he => ?_
    rw [mem_repeated hbuilt he, Effect.score, Effect.of, Effect.every, Effect.everyOf,
      Effect.everyIn, Bool.and_true, Bool.and_true]
    exact numbers_plainlyMade rfl _ _ _ (natCast_isFrom value) rfl (decimal?_isFrom hmultiplier)
      rfl rfl
  · intro r hr
    obtain ⟨⟨pool, kind⟩, hpool, rfl⟩ := List.mem_map.1 hr
    have hkind : ∀ p ∈ scalePools, needsNumbers p.2 = true := by decide
    refine single_makes fun f op hop => ?_
    obtain ⟨n, _, hop⟩ := Play.except_bind_ok.1 hop
    obtain ⟨ratio, hratio, hop⟩ := Play.except_bind_ok.1 hop
    rw [← Play.except_pure_ok.1 hop]
    exact numbers_plainlyMade (hkind _ hpool) _ _ _ rfl (ratio_isFrom hratio) rfl rfl rfl

theorem poolRules_wellMade : ∀ r ∈ poolRules, r.Makes isPlainlyMade := by
  have hfactor : multiplyImpressionRule.Makes isPlainlyMade := by
    refine single_makes fun f op hop => ?_
    obtain ⟨factor, hfactor, hop⟩ := Play.except_bind_ok.1 hop
    rw [← Play.except_pure_ok.1 hop]
    exact numbers_plainlyMade rfl _ _ _ (decimal?_isFrom hfactor) rfl rfl rfl rfl
  simp only [poolRules, List.forall_mem_cons]
  exact ⟨amountRule_wellMade rfl, amountRule_wellMade rfl, amountRule_wellMade rfl,
    amountRule_wellMade rfl, hfactor, constant_makes rfl, amountRule_wellMade rfl,
    amountRule_wellMade rfl, amountRule_wellMade rfl, amountRule_wellMade rfl,
    List.forall_mem_nil _⟩

theorem buffRules_wellMade : ∀ r ∈ buffRules, r.Makes isPlainlyMade := by
  have hcheaper : hpCostDownRule.Makes isPlainlyMade :=
    amount_makes fun n => numbers_plainlyMade rfl _ _ _ (natCast_isFrom n) rfl rfl rfl rfl
  have himmunity : immunityRule.Makes isPlainlyMade := by
    refine single_makes fun f op hop => ?_
    obtain ⟨times, _, hop⟩ := Play.except_bind_ok.1 hop
    rw [← Play.except_pure_ok.1 hop]
    exact numbers_plainlyMade rfl _ _ _ rfl rfl rfl rfl (natCast_isFrom _)
  have hbase (pool param : String) : (baseValueRule pool param).Makes isPlainlyMade :=
    amount_makes fun n => numbers_plainlyMade rfl _ _ _ (natCast_isFrom n) rfl rfl rfl rfl
  simp only [buffRules, List.cons_append, List.nil_append, basePools, List.map_cons, List.map_nil,
    List.forall_mem_cons]
  exact ⟨turnsRule_wellMade rfl, turnsRule_wellMade rfl, turnsRule_wellMade rfl,
    turnsRule_wellMade rfl, hcheaper, lastingRule_wellMade rfl durationOf_isFrom,
    turnsRule_wellMade rfl, himmunity, lastingRule_wellMade rfl durationOrRest_isFrom,
    lastingRule_wellMade rfl durationOf_isFrom, hbase _ _, hbase _ _, hbase _ _,
    List.forall_mem_nil _⟩

theorem cardRules_wellMade : ∀ r ∈ cardRules, r.Makes isPlainlyMade := by
  have hfree : freeUseRule.Makes isPlainlyMade := by
    refine single_makes fun f op hop => ?_
    obtain ⟨n, _, hop⟩ := Play.except_bind_ok.1 hop
    rw [← Play.except_pure_ok.1 hop]
    exact numbers_plainlyMade rfl _ _ _ rfl rfl rfl rfl (natCast_isFrom n)
  have hdraw : drawRule.Makes isPlainlyMade := by
    refine single_makes fun f op hop => ?_
    obtain ⟨n, _, hop⟩ := Play.except_bind_ok.1 hop
    rw [← Play.except_pure_ok.1 hop]
    exact value_plainlyMade rfl _
  have htrouble : troubleRule.Makes isPlainlyMade := by
    refine single_makes fun f op hop => ?_
    rw [← Except.ok.inj hop]
    have hname : "trouble_" ++ String.ofList (f.text .content) ≠ "" := by simp
    simp [isPlainlyMade, Operation.isWellMade, Operation.isReactive, Tag.isKnown, Tag.is,
      Datum.isText, Datum.holds, EffectKind.isReactive, hname]
  simp only [cardRules, List.forall_mem_cons]
  exact ⟨amountRule_wellMade rfl, hdraw, constant_makes rfl, constant_makes rfl, hfree, htrouble,
    List.forall_mem_nil _⟩

theorem courseRules_wellMade : ∀ r ∈ courseRules, r.Makes isPlainlyMade := by
  simp only [courseRules, List.forall_mem_cons]
  exact ⟨amountRule_wellMade rfl, constant_makes rfl, List.forall_mem_nil _⟩

theorem effectRules_wellMade : ∀ r ∈ effectRules, r.Makes isPlainlyMade := by
  simp only [effectRules, List.forall_mem_append]
  exact ⟨⟨⟨⟨scoreRules_wellMade, poolRules_wellMade⟩, buffRules_wellMade⟩, cardRules_wellMade⟩,
    courseRules_wellMade⟩

/-! ### Descriptions -/

/-- All effects that are built are well made. -/
theorem builds_wellMade : Builds Effect.WellMade where
  rules r hr f built hbuilt e he n hn := by
    have hplain : isPlainlyMade n.operation = true := (Effect.everyOf_iff_throughout built).1
      (effectRules_wellMade r hr f built hbuilt) e he n hn
    rw [isPlainlyMade, Bool.and_eq_true, Bool.not_eq_true'] at hplain
    refine ⟨hplain.1, fun hreactive => ?_⟩
    rw [hplain.2] at hreactive
    cases hreactive
  gate gates es hgates := by
    refine ⟨?_, nofun⟩
    have hconditions := List.all_eq_true.2 hgates.wellMade
    simp [Effect.gate, Operation.isWellMade, Tag.isKnown, Tag.is, hconditions]
  reactive t ht e := by
    have hmade : ∀ t ∈ triggers, Operation.isWellMade
        { kind := .known t.kind, duration := .whole (-1), triggerCondition := t.condition } =
          true := by decide
    exact ⟨hmade t ht, fun _ => rfl⟩
  remark e h := ⟨h.operation, h.armed⟩
  span e turns h := by
    refine ⟨?_, h.armed⟩
    have hop := h.operation
    simp only [Operation.isWellMade, Bool.and_eq_true] at hop ⊢
    obtain ⟨⟨⟨⟨⟨hnumbers, _⟩, hcount⟩, hconditions⟩, htrigger⟩, htrouble⟩ := hop
    have hturns : (Datum.whole turns).isFrom (-1) = true := by simp
    exact ⟨⟨⟨⟨⟨hnumbers, hturns⟩, hcount⟩, hconditions⟩, htrigger⟩, htrouble⟩

theorem Description.conditions_wellMade {cs : List Char} {d : Description}
    (h : read cs = .ok d) : ∀ c ∈ d.conditions, c.isWellMade = true := by
  obtain ⟨_, _, hconditions, _⟩ := read_ok h
  intro c hc
  obtain ⟨usage, husage, hmeaning⟩ := Play.except_mem_mapM hconditions c hc
  obtain ⟨_, _, hread⟩ := mem_sift _ _ husage
  obtain ⟨r, hr, hsome⟩ := List.exists_of_findSome?_eq_some hread
  obtain ⟨⟨f, _⟩, _, heq⟩ := Option.map_eq_some_iff.1 hsome
  obtain ⟨rfl, _⟩ := Prod.mk.inj heq
  exact usageRules_wellMade r hr f c hmeaning

end Wording

open Wording

/-- **What descriptions state is well made**: every effect, with all effects inside effects, and
every usage condition; so a card that a row with the description becomes holds no numbers below
zero. -/
theorem described_effects_are_well_made {cs : List Char} {d : Description}
    (h : Description.read cs = .ok d) :
    (∀ e ∈ Effect.nodesOf d.effects, e.WellMade) ∧ (∀ c ∈ d.conditions, c.isWellMade = true) ∧
    ∀ (row : Row) (c : Compilation) (card : Card), row.description = .text (String.ofList cs) →
      row.compile = .ok c → c.card = some card → card.every generous = true := by
  have hmade := Description.read_throughout builds_wellMade h
  refine ⟨fun e he => ?_, Description.conditions_wellMade h, fun row c card hrow hc hcard => ?_⟩
  · obtain ⟨root, hroot, he⟩ := Effect.mem_nodesOf.1 he
    exact hmade root hroot e he
  · obtain ⟨cs', said, hcs, hsaid, heffects, -⟩ := Row.compile_card hc hcard
    obtain rfl : cs = cs' := String.ofList_injective (Datum.text.inj (hrow.symm.trans hcs))
    obtain rfl := Except.ok.inj (h.symm.trans hsaid)
    rw [Card.every, heffects, Effect.everyOf_iff_throughout]
    exact fun e he n hn => Operation.generous_of_isWellMade (hmade e he n hn).operation

/-- A condition of use, and motivation at the start of each turn if there is good impression. -/
def guardedAnnouncement : String :=
  "元気が4以上の場合使用可/ターン開始時、好印象が3以上の場合、やる気+1"

/-- A row that says so. -/
def guardedRow : Row := { name := "なぞ", description := .text guardedAnnouncement }

theorem described_effects_are_well_made_guarded : ∃ d c card,
    Description.read guardedAnnouncement.toList = .ok d ∧ guardedRow.compile = .ok c ∧
    c.card = some card ∧ (Effect.nodesOf d.effects).length = 3 ∧ d.conditions.length = 1 ∧
    (∀ e ∈ Effect.nodesOf d.effects, e.WellMade) ∧ (∀ c ∈ d.conditions, c.isWellMade = true) ∧
    card.every generous = true := by
  have hread : (Description.read guardedAnnouncement.toList).toOption.any (fun d =>
      (Effect.nodesOf d.effects).length == 3 && d.conditions.length == 1) = true := by
    decide +kernel
  have hcompile : (guardedRow.compile.toOption.bind (·.card)).isSome = true := by decide +kernel
  rcases hd : Description.read guardedAnnouncement.toList with f | d
  · rw [hd] at hread
    cases hread
  rcases hc : guardedRow.compile with f | c
  · rw [hc] at hcompile
    cases hcompile
  rw [hd] at hread
  rw [hc] at hcompile
  obtain ⟨card, hcard⟩ := Option.isSome_iff_exists.1 hcompile
  obtain ⟨hnodes, hasked⟩ := Bool.and_eq_true_iff.1 hread
  obtain ⟨hmade, hconditions, hcards⟩ := described_effects_are_well_made hd
  have hrow : guardedRow.description = .text (String.ofList guardedAnnouncement.toList) :=
    congrArg Datum.text String.ofList_toList.symm
  exact ⟨d, c, card, rfl, rfl, hcard, beq_iff_eq.1 hnodes, beq_iff_eq.1 hasked, hmade, hconditions,
    hcards guardedRow c card hrow hc hcard⟩

end CardLesson
