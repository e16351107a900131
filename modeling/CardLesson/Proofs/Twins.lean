/-
# Twin lessons

Twins are two lessons that differ only in the serials of their copies, different copies of the one
being different in the other, and in what is written down for those who look on: the log lines they
began with, the part of the turn, and the ids and names of their buffs. Every condition, sum and
multiplier reads the same of both, and every rule does the same to both, so they are still twins
after it and have written the same lines. An effect may carry out a whole tree of effects, and the
effects of triggered cards inside it: the induction is on the tree, and outside it on the depth to
which cards may be nested.

Key definitions: `Twins`, `TwinOutcomes`, `TwinAdmissions`, `Resolver.Even`.
Key theorems: `Twins.measure`, `Twins.absorb`, `Twins.carryOut`, `Twins.resolveOne`,
`Twins.resolveWithin`.
-/
import CardLesson.Proofs.BuffNames
import CardLesson.Proofs.Renaming
import CardLesson.Proofs.Worklist

namespace CardLesson

variable {named : Nat}

/-- Two lessons that agree but for the serials of their copies, the log lines they began with, the
part of the turn, and the ids and names of their buffs. -/
structure Twins (ρ : Renaming named) (old old' : List String) (l l' : Lesson) : Prop where
  frame : l' = { l.renamed ρ with phase := l'.phase, logs := l'.logs, buffs := l'.buffs }
  buffs : SameBuffs l.buffs l'.buffs
  logs : ∃ lines, l.logs = old ++ lines ∧ l'.logs = old' ++ lines

/-- Two outcomes that leave twins and write the same lines. -/
structure TwinOutcomes (ρ : Renaming named) (old old' : List String) (r r' : Resolution) :
    Prop where
  lesson : Twins ρ old old' r.lesson r'.lesson
  lines : r'.lines = r.lines
  touched : r'.touched = r.touched

/-- Two decisions that are done with twins, or go on by the same rule. -/
inductive TwinAdmissions (ρ : Renaming named) (old old' : List String) :
    Admission → Admission → Prop
  | done {r r' : Resolution} (h : TwinOutcomes ρ old old' r r') :
      TwinAdmissions ρ old old' (.done r) (.done r')
  | rule (k : EffectKind) : TwinAdmissions ρ old old' (.rule k) (.rule k)

/-- Carrying out effects does the same to twins. -/
def Resolver.Even (ρ : Renaming named) (old old' : List String) (inner : Resolver) : Prop :=
  ∀ (es : List Effect) (l l' : Lesson), Twins ρ old old' l l' →
    Lockstep named (TwinOutcomes ρ old old') (inner es l) (inner es l')

variable {ρ : Renaming named} {old old' : List String} {l l' : Lesson} {op : Operation}
  {r r' s s' : Resolution}

namespace TwinOutcomes

theorem untouched (h : Twins ρ old old' l l') (lines : List String) :
    TwinOutcomes ρ old old' (.untouched l lines) (.untouched l' lines) := ⟨h, rfl, rfl⟩

theorem andThen (h : TwinOutcomes ρ old old' r r') (h' : TwinOutcomes ρ old old' s s') :
    TwinOutcomes ρ old old' (r.andThen s) (r'.andThen s') where
  lesson := h'.lesson
  lines := by rw [Resolution.lines_andThen, Resolution.lines_andThen, h.lines, h'.lines]
  touched := by rw [Resolution.touched_andThen, Resolution.touched_andThen, h.touched, h'.touched]

end TwinOutcomes

namespace Twins

/-- The second lesson is the first under other serials, with another part of the turn, another log
and other buffs; every field without copies is then the same by computation. -/
theorem dressed (h : Twins ρ old old' l l') :
    ∃ phase logs buffs, l' = { l.renamed ρ with phase, logs, buffs } := ⟨_, _, _, h.frame⟩

/-- Lines that are written to both logs are new in both. -/
theorem withLines (h : Twins ρ old old' l l') (lines : List String) :
    Twins ρ old old' (l.withLines lines) (l'.withLines lines) := by
  obtain ⟨before, hold, hold'⟩ := h.logs
  obtain ⟨phase, logs, buffs, rfl⟩ := h.dressed
  refine ⟨rfl, h.buffs, before ++ lines, ?_, ?_⟩
  · rw [Lesson.logs_withLines, hold, List.append_assoc]
  · rw [Lesson.logs_withLines, hold', List.append_assoc]

/-! ### What is read of twins -/

theorem hasBuff (h : Twins ρ old old' l l') (k : EffectKind) : l'.hasBuff k = l.hasBuff k :=
  h.buffs.any fun _ _ _ => rfl

theorem buffsOf (h : Twins ρ old old' l l') (k : EffectKind) :
    SameBuffs (l.buffsOf k) (l'.buffsOf k) := h.buffs.filter fun _ _ _ => rfl

theorem sumBuffs (h : Twins ρ old old' l l') (k : EffectKind) (param : Option Datum) :
    l'.sumBuffs k param = l.sumBuffs k param :=
  (h.buffs.filter fun _ _ _ => rfl).sumValues

theorem conditionMultiplier (h : Twins ρ old old' l l') :
    l'.conditionMultiplier = l.conditionMultiplier := by
  unfold Lesson.conditionMultiplier
  rw [h.hasBuff, h.hasBuff]

theorem statValue (h : Twins ρ old old' l l') : l'.statValue = l.statValue := by
  obtain ⟨phase, logs, buffs, rfl⟩ := h.dressed
  rfl

theorem scoreMultiplier (h : Twins ρ old old' l l') : l'.scoreMultiplier = l.scoreMultiplier := by
  unfold Lesson.scoreMultiplier
  rw [h.statValue, h.sumBuffs, h.conditionMultiplier]

theorem adjustedValue (h : Twins ρ old old' l l') (k : EffectKind) :
    l'.adjustedValue op k = l.adjustedValue op k := by
  unfold Lesson.adjustedValue
  simp only [h.sumBuffs]

theorem buffDuration (h : Twins ρ old old' l l') (c : Condition) :
    l'.buffDuration c = l.buffDuration c := by
  unfold Lesson.buffDuration
  dsimp only
  rw [(h.buffs.filter fun _ _ _ => rfl).map fun _ _ _ => rfl]

theorem troubleCount (h : Twins ρ old old' l l') (c : Condition) :
    l'.troubleCount c = l.troubleCount c := by
  obtain ⟨phase, logs, buffs, rfl⟩ := h.dressed
  have hcount (zone : List Copy) : (zone.map (Copy.renamed ρ)).countP (·.card.isTrouble) =
      zone.countP (·.card.isTrouble) := countP_renamed (fun _ => rfl) zone
  unfold Lesson.troubleCount
  simp only [Lesson.renamed, hcount]

/-- No condition measures what twins differ in. -/
theorem measure (h : Twins ρ old old' l l') (c : Condition) (k : ConditionKind) :
    l'.measure c k = l.measure c k := by
  cases k with
  | buff => exact h.buffDuration c
  | troubleCardCount => rw [Lesson.measure, Lesson.measure, h.troubleCount]
  | handRarityCount =>
    obtain ⟨phase, logs, buffs, rfl⟩ := h.dressed
    have hcount : (l.renamed ρ).hand.countP (Lesson.hasRarity c.targetRarity) =
        l.hand.countP (Lesson.hasRarity c.targetRarity) := countP_renamed (fun _ => rfl) l.hand
    rw [Lesson.measure, Lesson.measure, hcount]
  | _ =>
    obtain ⟨phase, logs, buffs, rfl⟩ := h.dressed
    rfl

theorem meets (h : Twins ρ old old' l l') (c : Condition) : l'.meets c = l.meets c := by
  unfold Lesson.meets
  simp only [h.measure]

theorem meetsAll (h : Twins ρ old old' l l') : ∀ cs : List Condition, l'.meetsAll cs = l.meetsAll cs
  | [] => rfl
  | c :: cs => by rw [Lesson.meetsAll, Lesson.meetsAll, h.meets, h.meetsAll cs]

theorem matchesPlayed (h : Twins ρ old old' l l') (c : Option Condition) (type : CardType) :
    l'.matchesPlayed c type = l.matchesPlayed c type := by
  unfold Lesson.matchesPlayed
  cases c with
  | none => rfl
  | some c => simp only [h.meets]

/-! ### What the rules do to twins -/

theorem addScore (h : Twins ρ old old' l l') (amount : Int) :
    Together (Twins ρ old old') (l.addScore amount) (l'.addScore amount) := by
  obtain ⟨phase, logs, buffs, rfl⟩ := h.dressed
  exact .bindSame fun _ => .returned ⟨rfl, h.buffs, h.logs⟩

theorem scoreFixed (h : Twins ρ old old' l l') :
    Together (TwinOutcomes ρ old old') (scoreFixed l op) (scoreFixed l' op) := by
  have hscore := h.addScore
  have hfactor := h.scoreMultiplier
  obtain ⟨phase, logs, buffs, rfl⟩ := h.dressed
  unfold CardLesson.scoreFixed
  rw [hfactor]
  iterate 9 refine .bindSame fun _ => ?_
  exact (hscore _).bind fun _ _ hnext => .bindSame fun _ => .pure ⟨hnext, rfl, rfl⟩

theorem scoreScaled (h : Twins ρ old old' l l') (pool : Quantity) (label : String) :
    Together (TwinOutcomes ρ old old') (scoreScaled l op pool label)
      (scoreScaled l' op pool label) := by
  unfold CardLesson.scoreScaled
  rw [h.scoreMultiplier]
  iterate 6 refine .bindSame fun _ => ?_
  exact (h.addScore _).bind fun _ _ hnext => .pure ⟨hnext, rfl, rfl⟩

theorem gainGenki (h : Twins ρ old old' l l') :
    Together (TwinOutcomes ρ old old') (gainGenki l op) (gainGenki l' op) := by
  unfold CardLesson.gainGenki
  rw [h.hasBuff, h.adjustedValue]
  obtain ⟨phase, logs, buffs, rfl⟩ := h.dressed
  refine .ite (fun _ => .returned (.untouched h _)) fun _ => ?_
  iterate 6 refine .bindSame fun _ => ?_
  exact .pure ⟨⟨rfl, h.buffs, h.logs⟩, rfl, rfl⟩

theorem gainImpression (h : Twins ρ old old' l l') :
    Together (TwinOutcomes ρ old old') (gainImpression l op) (gainImpression l' op) := by
  unfold CardLesson.gainImpression
  rw [h.sumBuffs, h.adjustedValue]
  obtain ⟨phase, logs, buffs, rfl⟩ := h.dressed
  iterate 7 refine .bindSame fun _ => ?_
  exact .pure ⟨⟨rfl, h.buffs, h.logs⟩, rfl, rfl⟩

/-- A rule that reads the value of its operation and then sets a pool. -/
theorem twoSteps {α β : Type} {x : Except Fault α} {y : α → Except Fault β}
    {f g : α → β → Resolution} (h : ∀ a b, TwinOutcomes ρ old old' (f a b) (g a b)) :
    Together (TwinOutcomes ρ old old') (do let a ← x; let b ← y a; return f a b)
      (do let a ← x; let b ← y a; return g a b) :=
  .bindSame fun a => .bindSame fun b => .returned (h a b)

/-- Granting draws the number of a new buff alike. -/
theorem grantBuff (h : Twins ρ old old' l l') (k : EffectKind) (name : String)
    (triggered : Option Effect) :
    Lockstep named (TwinOutcomes ρ old old') (grantBuff l op k name triggered)
      (grantBuff l' op k name triggered) := by
  obtain ⟨phase, logs, buffs, rfl⟩ := h.dressed
  unfold CardLesson.grantBuff
  refine .ite (fun _ => .bind (.lift (h.buffs.extendFirst k _)) fun o o' ho => ?_)
    fun _ => .bind (.pure (R := Option.Rel SameBuffs) .none) fun o o' ho => ?_
  all_goals
    cases ho with
    | none =>
      refine .freshSame fun _ _ => .bindSame fun _ => ?_
      exact .pure ⟨⟨rfl, h.buffs.append (.refl _), h.logs⟩, rfl, rfl⟩
    | some hbuffs => exact .bindSame fun _ => .pure ⟨⟨rfl, hbuffs, h.logs⟩, rfl, rfl⟩

/-- The same immunity absorbs a debuff, for the same use or turn. -/
theorem absorb (h : Twins ρ old old' l l') :
    Together (Option.Rel (TwinOutcomes ρ old old')) (absorb l op) (absorb l' op) := by
  have hlasting := h.buffs.any (f := fun b => b.is .noDebuff && b.count.isNull && b.indefinite)
    fun _ _ _ => rfl
  obtain ⟨phase, logs, buffs, rfl⟩ := h.dressed
  unfold CardLesson.absorb
  refine .bind h.buffs.spendCount fun o o' ho => ?_
  cases ho with
  | some hbuffs => exact .pure (.some ⟨⟨rfl, hbuffs, h.logs⟩, rfl, rfl⟩)
  | none =>
    refine .bind h.buffs.spendDuration fun o o' ho => ?_
    cases ho with
    | some hbuffs => exact .pure (.some ⟨⟨rfl, hbuffs, h.logs⟩, rfl, rfl⟩)
    | none =>
      dsimp only at hlasting ⊢
      rw [hlasting]
      exact .ite (fun _ => .pure (.some (.untouched h _))) fun _ => .pure .none

theorem drawForEffect (h : Twins ρ old old' l l') :
    Lockstep named (TwinOutcomes ρ old old') (drawForEffect l op) (drawForEffect l' op) := by
  obtain ⟨phase, logs, buffs, rfl⟩ := h.dressed
  have hroom : (l.renamed ρ).hand.length = l.hand.length := List.length_map _
  unfold CardLesson.drawForEffect
  dsimp only
  rw [hroom]
  refine .bindSame fun requested => .ite (fun _ => .pure (.untouched h _)) fun _ => ?_
  refine .bind (drawCards_renamed l.deck l.discard _ l.hand) fun d d' hd => ?_
  subst hd
  refine .pure ⟨⟨?_, h.buffs, h.logs⟩, ?_, rfl⟩
  · simp [Resolution.changed, Lesson.renamed, Drawn.renamed]
  · simp [Resolution.changed, Drawn.renamed]

theorem swapHand (h : Twins ρ old old' l l') :
    Lockstep named (TwinOutcomes ρ old old') (swapHand l) (swapHand l') := by
  obtain ⟨phase, logs, buffs, rfl⟩ := h.dressed
  have hlength : (l.renamed ρ).hand.length = l.hand.length := List.length_map _
  have hdrawn : Lockstep named _ _ _ :=
    drawCards_renamed (ρ := ρ) l.deck (l.discard ++ l.hand) l.hand.length []
  rw [List.map_append] at hdrawn
  unfold CardLesson.swapHand
  dsimp only
  rw [hlength]
  refine .bind hdrawn fun d d' hd => ?_
  subst hd
  exact .pure ⟨⟨rfl, h.buffs, h.logs⟩, rfl, rfl⟩

theorem upgradeHand (h : Twins ρ old old' l l') :
    Together (TwinOutcomes ρ old old') (upgradeHand l) (upgradeHand l') := by
  obtain ⟨phase, logs, buffs, rfl⟩ := h.dressed
  have hkeys : ((l.renamed ρ).hand.mapM fun c => c.id.key) = l.hand.mapM fun c => c.id.key :=
    List.mapM_map
  unfold CardLesson.upgradeHand
  dsimp only
  rw [hkeys]
  refine .bindSame fun held => (upgradeFrom_renamed l.catalog l.hand held).bind fun cs cs' hcs => ?_
  subst hcs
  exact .pure ⟨⟨rfl, h.buffs, h.logs⟩, rfl, rfl⟩

/-- A trouble card turns up in the same place. -/
theorem generateTrouble (h : Twins ρ old old' l l') :
    Lockstep named (TwinOutcomes ρ old old') (generateTrouble l op) (generateTrouble l' op) := by
  obtain ⟨phase, logs, buffs, rfl⟩ := h.dressed
  have hlength : (l.renamed ρ).deck.length = l.deck.length := List.length_map _
  have placed (copy : Copy) (place : Nat) (line : String) : TwinOutcomes ρ old old'
      (.changed { l with deck := l.deck.take place ++ copy :: l.deck.drop place } line)
      (.changed { l.renamed ρ with
        phase, logs, buffs
        deck := (l.renamed ρ).deck.take place ++
          copy.renamed ρ :: (l.renamed ρ).deck.drop place } line) := by
    refine ⟨⟨?_, h.buffs, h.logs⟩, rfl, rfl⟩
    simp [Resolution.changed, Lesson.renamed, List.map_take, List.map_drop]
  unfold CardLesson.generateTrouble
  refine .ite (fun _ => .pure (.untouched h _)) fun _ => .bindSame fun id => ?_
  have hfound : (l.renamed ρ).catalog.find? id = (l.catalog.find? id).map (Copy.renamed ρ) :=
    Catalog.find?_renamed id l.catalog
  dsimp only
  rw [hfound, hlength]
  cases l.catalog.find? id with
  | some copy =>
    refine .bind (R := fun a b => b = a.renamed ρ) (.pure rfl) ?_
    rintro copy _ rfl
    exact .drawSame (.below _) fun place => .bindSame fun name => .pure (placed copy place _)
  | none =>
    refine .bindSame fun _ => .freshSame fun number hnew => ?_
    refine .bind (R := fun a b => b = a.renamed ρ) (.pure (ρ.madeTrouble hnew id).symm) ?_
    rintro copy _ rfl
    exact .drawSame (.below _) fun place => .bindSame fun name => .pure (placed copy place _)

/-- Triggered cards leave the hands of both for their discard piles. -/
theorem triggerEach {inner : Resolver} (hinner : inner.Even ρ old old') : ∀ (copies : List Copy)
    {l l' : Lesson}, Twins ρ old old' l l' → Lockstep named (TwinOutcomes ρ old old')
      (triggerEach inner copies l) (triggerEach inner (copies.map (Copy.renamed ρ)) l')
  | [], _, _, h => .pure (.untouched h _)
  | c :: rest, l, l', h => by
    have moved : Twins ρ old old'
        { l with hand := removeCopy l.hand c, discard := l.discard ++ [c] }
        { l' with
          hand := removeCopy l'.hand (c.renamed ρ), discard := l'.discard ++ [c.renamed ρ] } := by
      obtain ⟨phase, logs, buffs, rfl⟩ := h.dressed
      refine ⟨?_, h.buffs, h.logs⟩
      simp [Lesson.renamed, removeCopy_renamed ρ.injective]
    refine .bind (hinner c.card.effects _ _ moved) fun r r' hr => ?_
    exact .bind (triggerEach hinner rest hr.lesson) fun s s' hs => .pure (hr.andThen hs)

/-- The names of copies are those of their cards. -/
theorem namesOf_renamed (copies : List Copy) :
    namesOf (copies.map (Copy.renamed ρ)) = namesOf copies := by
  unfold namesOf
  rw [List.mapM_map]
  rfl

theorem triggerHand {inner : Resolver} (hinner : inner.Even ρ old old')
    (h : Twins ρ old old' l l') :
    Lockstep named (TwinOutcomes ρ old old') (triggerHand inner l op)
      (triggerHand inner l' op) := by
  have heach := fun copies => triggerEach hinner copies h
  obtain ⟨phase, logs, buffs, rfl⟩ := h.dressed
  have hcandidates : (l.renamed ρ).hand.filter (Lesson.hasRarity op.targetRarity) =
      (l.hand.filter (Lesson.hasRarity op.targetRarity)).map (Copy.renamed ρ) := List.filter_map
  unfold CardLesson.triggerHand
  dsimp only
  rw [hcandidates, List.length_map]
  refine .bindSame fun count => .ite (fun _ => .pure (.untouched h _)) fun _ => ?_
  refine .bindSame fun k => ?_
  refine .bind (.draw (.sample _ k) (Luck.sample_map _ _ k)) fun chosen _ hchosen => ?_
  subst hchosen
  rw [namesOf_renamed]
  refine .bindSame fun names => .bind (heach chosen) fun r r' hr => .pure ⟨hr.lesson, ?_, rfl⟩
  exact congrArg (List.cons _) hr.lines

/-- **Every rule does the same to twins.** -/
theorem carryOut {inner : Resolver} (hinner : inner.Even ρ old old') (h : Twins ρ old old' l l')
    (triggered : Option Effect) (k : EffectKind) :
    Lockstep named (TwinOutcomes ρ old old') (carryOut inner l op triggered k)
      (carryOut inner l' op triggered k) := by
  cases k <;> unfold CardLesson.carryOut
  case scoreFixed => exact .lift h.scoreFixed
  case genki => exact .lift h.gainGenki
  case impression => exact .lift h.gainImpression
  case drawCard => exact h.drawForEffect
  case swapHand => exact h.swapHand
  case upgradeHand => exact .lift h.upgradeHand
  case triggerRandomHandCard => exact triggerHand hinner h
  case generateTrouble => exact h.generateTrouble
  case conditionGate | delayedEffect => exact .pure (.untouched h _)
  case motivation =>
    unfold gainMotivation
    rw [h.adjustedValue]
    obtain ⟨phase, logs, buffs, rfl⟩ := h.dressed
    exact .lift (.bindSame fun _ => twoSteps fun _ _ => ⟨⟨rfl, h.buffs, h.logs⟩, rfl, rfl⟩)
  case scoreScaleGenki | scoreScaleImpression | scoreScaleMotivation =>
    obtain ⟨phase, logs, buffs, rfl⟩ := h.dressed
    exact .lift (h.scoreScaled _ _)
  case multiplyImpression =>
    obtain ⟨phase, logs, buffs, rfl⟩ := h.dressed
    refine .lift (.bindSame fun _ => .bindSame fun _ => .bindSame fun _ => ?_)
    exact twoSteps fun _ _ => ⟨⟨rfl, h.buffs, h.logs⟩, rfl, rfl⟩
  case endLesson =>
    obtain ⟨phase, logs, buffs, rfl⟩ := h.dressed
    exact .pure ⟨⟨rfl, h.buffs, h.logs⟩, rfl, rfl⟩
  case setGenki =>
    obtain ⟨phase, logs, buffs, rfl⟩ := h.dressed
    exact .lift (twoSteps fun _ _ => ⟨⟨rfl, h.buffs, h.logs⟩, rfl, rfl⟩)
  case concentration | shield | halfGenki | consumeHp | consumeMotivation | consumeImpression
      | addCardPlayCount | addTurn =>
    obtain ⟨phase, logs, buffs, rfl⟩ := h.dressed
    exact .lift (.bindSame fun _ => twoSteps fun _ _ => ⟨⟨rfl, h.buffs, h.logs⟩, rfl, rfl⟩)
  all_goals exact h.grantBuff _ _ triggered

/-! ### Carrying out effects -/

theorem admissionOf (h : Twins ρ old old' l l') :
    Together (TwinAdmissions ρ old old') (admissionOf l op) (admissionOf l' op) := by
  unfold CardLesson.admissionOf
  rw [h.meetsAll]
  refine .bindSame fun met => .ite (fun _ => .bindSame fun _ => ?_)
    fun _ => .pure (.done (.untouched h _))
  cases op.kind with
  | unknown raw => exact .pure (.done (.untouched h _))
  | known k =>
    refine .ite (fun _ => .bind h.absorb fun o o' ho => ?_)
      fun _ => .bind (.pure (R := Option.Rel (TwinOutcomes ρ old old')) .none) fun o o' ho => ?_
    all_goals
      cases ho with
      | none => exact .pure (.rule k)
      | some hr => exact .pure (.done hr)

mutual

/-- **An effect does the same to twins**, with all the effects inside it. -/
theorem resolveOne {inner : Resolver} (hinner : inner.Even ρ old old') : ∀ (e : Effect)
    {l l' : Lesson}, Twins ρ old old' l l' →
      Lockstep named (TwinOutcomes ρ old old') (resolveOne inner l e) (resolveOne inner l' e)
  | ⟨op, subs, triggered⟩, l, l', h => by
    rw [resolveOne_eq, resolveOne_eq]
    refine .bind (.lift h.admissionOf) fun a a' ha => ?_
    cases ha with
    | done hr => exact .pure hr
    | rule k =>
      exact .ite (fun _ => resolveEach hinner subs h) fun _ => carryOut hinner h triggered k
termination_by structural e => e

theorem resolveEach {inner : Resolver} (hinner : inner.Even ρ old old') : ∀ (es : List Effect)
    {l l' : Lesson}, Twins ρ old old' l l' →
      Lockstep named (TwinOutcomes ρ old old') (resolveEach inner l es) (resolveEach inner l' es)
  | [], l, l', h => by
    rw [resolveEach_nil, resolveEach_nil]
    exact .pure (.untouched h _)
  | e :: es, l, l', h => by
    rw [CardLesson.resolveEach, CardLesson.resolveEach]
    refine .bind (resolveOne hinner e h) fun r r' hr => ?_
    exact .bind (resolveEach hinner es hr.lesson) fun s s' hs => .pure (hr.andThen hs)
termination_by structural es => es

end

/-- Carrying out effects does the same to twins, however deep cards may nest. -/
theorem resolveWithin : ∀ depth, Resolver.Even ρ old old' (resolveWithin depth)
  | 0, _, _, _, _ => .fail .tooDeep
  | depth + 1, es, _, _, h => resolveEach (resolveWithin depth) es h

theorem applyEffects (h : Twins ρ old old' l l') (es : List Effect) :
    Lockstep named (Twins ρ old old') (applyEffects es l) (applyEffects es l') :=
  .bind (resolveWithin nestingLimit es l l' h) fun r r' hr => .pure <| by
    rw [Resolution.logged, Resolution.logged, hr.lines]
    exact hr.lesson.withLines r.lines

end Twins

end CardLesson
