/-
# What a task can do

`Performed` lists all that performing a task can do to a lesson: nothing, put tasks before the
others, change pools, change buffs, or move cards in one of five ways. Every invariant of runs is
proved from this list, one case for each kind of step.

Key definitions: `Pools`, `EffectKind.isPool`, `EffectKind.Sets`, `Leaves`, `Performed`, `Handled`,
`Lesson.reworkedAs`.
Key theorems: `carryOut_sets`, `carryOut_pools`, `perform_handled`, `perform_spec`, `Reaches.frame`.
-/
import CardLesson.Proofs.Buffs
import CardLesson.Proofs.Worklist

namespace CardLesson

/-! ### Pools -/

/-- The numbers of a lesson that effects change. -/
structure Pools where
  maxTurns : Quantity
  hp : Quantity
  shield : Quantity
  genki : Quantity
  goodImpression : Quantity
  motivation : Quantity
  concentration : Quantity
  score : Quantity
  cardsPlayed : Quantity

namespace Lesson

def pools (l : Lesson) : Pools :=
  ⟨l.maxTurns, l.hp, l.shield, l.genki, l.goodImpression, l.motivation, l.concentration, l.score,
    l.cardsPlayed⟩

/-- The lesson with other pools. -/
def withPools (l : Lesson) (p : Pools) : Lesson :=
  { l with
    maxTurns := p.maxTurns, hp := p.hp, shield := p.shield, genki := p.genki
    goodImpression := p.goodImpression, motivation := p.motivation
    concentration := p.concentration, score := p.score, cardsPlayed := p.cardsPlayed }

end Lesson

/-- Effects that change pools and nothing else. -/
def EffectKind.isPool : EffectKind → Bool
  | scoreFixed | scoreScaleGenki | scoreScaleImpression | scoreScaleMotivation | genki | impression
  | motivation | concentration | shield | halfGenki | setGenki | consumeHp | consumeMotivation
  | consumeImpression | multiplyImpression | addCardPlayCount | addTurn | endLesson => true
  | _ => false

/-- A rule leaves a lesson with some property whenever it returns. -/
def Leaves (P : Lesson → Prop) (x : Except Fault Resolution) : Prop := ∀ r, x = .ok r → P r.lesson

namespace Leaves

variable {P : Lesson → Prop} {l : Lesson} {op : Operation} {α β : Type}

theorem pure {r : Resolution} (h : P r.lesson) : Leaves P (Pure.pure r) := by
  rintro _ ⟨⟩
  exact h

theorem bind {x : Except Fault α} {f : α → Except Fault Resolution}
    (h : ∀ a, Leaves P (f a)) : Leaves P (x >>= f) := by
  intro r hr
  obtain ⟨a, -, hr⟩ := Play.except_bind_ok.1 hr
  exact h a r hr

/-- A rule that reads the value of its operation, sets a pool and notes it. -/
theorem set {γ : Type} {x : Except Fault α} {y : α → Except Fault β}
    {z : α → β → Except Fault γ} {f : α → β → γ → Resolution} (h : ∀ a b n, P (f a b n).lesson) :
    Leaves P (do let a ← x; let b ← y a; let n ← z a b; return f a b n) :=
  bind fun a => bind fun b => bind fun n => pure (h a b n)

/-- What a rule that draws nothing leaves when it is carried out. -/
theorem lift {x : Except Fault Resolution} {r : Resolution} {c c' : Chance} (hx : Leaves P x)
    (h : (liftM x : Play Resolution) c = (.ok r, c')) : P r.lesson ∧ c = c' := by
  rw [Play.except_ok] at h
  exact ⟨hx r h.1, h.2⟩

end Leaves

/-- What an effect on pools may do to a lesson: it sets the pool of its kind. -/
def EffectKind.Sets (k : EffectKind) (l l' : Lesson) : Prop :=
  match k with
  | scoreFixed | scoreScaleGenki | scoreScaleImpression | scoreScaleMotivation =>
    ∃ (amount : Int) (score : Quantity), l.score.add (.whole amount) = .ok score ∧
      l' = { l with score }
  | genki | halfGenki | setGenki => ∃ genki, l' = { l with genki }
  | impression | multiplyImpression | consumeImpression =>
    ∃ goodImpression, l' = { l with goodImpression }
  | motivation | consumeMotivation => ∃ motivation, l' = { l with motivation }
  | concentration => ∃ concentration, l' = { l with concentration }
  | shield => ∃ shield, l' = { l with shield }
  | consumeHp => ∃ hp, l' = { l with hp }
  | addCardPlayCount => ∃ cardsPlayed, l' = { l with cardsPlayed }
  | addTurn => ∃ maxTurns, l' = { l with maxTurns }
  | endLesson => l' = { l with maxTurns := l.turn }
  | _ => False

section Sets

variable {l : Lesson} {op : Operation}

/-- A score is added, and then what is left to do changes nothing more. -/
theorem addScore_sets {amount : Int} {f : Lesson → Except Fault Resolution}
    (hf : ∀ l', Leaves (· = l') (f l')) :
    Leaves (EffectKind.scoreFixed.Sets l) (l.addScore amount >>= f) := by
  intro r hr
  obtain ⟨l', hadd, hr⟩ := Play.except_bind_ok.1 hr
  obtain ⟨score, hscore, hadd⟩ := Play.except_bind_ok.1 hadd
  obtain rfl := Play.except_pure_ok.1 hadd
  exact ⟨amount, score, hscore, hf _ r hr⟩

theorem scoreFixed_sets : Leaves (EffectKind.scoreFixed.Sets l) (scoreFixed l op) := by
  unfold scoreFixed
  iterate 9 refine .bind fun _ => ?_
  exact addScore_sets fun _ => .bind fun _ => .pure rfl

theorem scoreScaled_sets {pool : Quantity} {label : String} :
    Leaves (EffectKind.scoreFixed.Sets l) (scoreScaled l op pool label) := by
  unfold scoreScaled
  iterate 6 refine .bind fun _ => ?_
  exact addScore_sets fun _ => .pure rfl

theorem gainGenki_sets : Leaves (EffectKind.genki.Sets l) (gainGenki l op) := by
  unfold gainGenki
  split
  · exact .pure ⟨l.genki, rfl⟩
  · iterate 6 refine .bind fun _ => ?_
    exact .pure ⟨_, rfl⟩

theorem gainImpression_sets : Leaves (EffectKind.impression.Sets l) (gainImpression l op) := by
  unfold gainImpression
  iterate 7 refine .bind fun _ => ?_
  exact .pure ⟨_, rfl⟩

/-- **An effect on pools** draws nothing and sets the pool of its kind. -/
theorem carryOut_sets {inner : Resolver} {tr : Option Effect} {k : EffectKind} {c c' : Chance}
    {r : Resolution} (hk : k.isPool = true) (h : carryOut inner l op tr k c = (.ok r, c')) :
    k.Sets l r.lesson ∧ c = c' := by
  have lift {x : Except Fault Resolution} (hx : Leaves (k.Sets l) x)
      (h : (liftM x : Play Resolution) c = (.ok r, c')) := hx.lift h
  cases k <;> try cases hk
  all_goals unfold carryOut at h
  case scoreFixed => exact lift scoreFixed_sets h
  case scoreScaleGenki | scoreScaleImpression | scoreScaleMotivation =>
    exact lift scoreScaled_sets h
  case genki => exact lift gainGenki_sets h
  case impression => exact lift gainImpression_sets h
  case endLesson =>
    obtain ⟨rfl, rfl⟩ := Play.pure_ok.1 h
    exact ⟨rfl, rfl⟩
  case multiplyImpression =>
    exact lift (.bind fun _ => .bind fun _ => .set fun _ _ _ => ⟨_, rfl⟩) h
  case halfGenki => exact lift (.bind fun _ => .bind fun _ => .bind fun _ => .pure ⟨_, rfl⟩) h
  case setGenki => exact lift (.bind fun _ => .bind fun _ => .pure ⟨_, rfl⟩) h
  all_goals exact lift (.set fun _ _ _ => ⟨_, rfl⟩) h

/-- An effect on pools changes no more than pools. -/
theorem carryOut_pools {inner : Resolver} {tr : Option Effect} {k : EffectKind} {c c' : Chance}
    {r : Resolution} (hk : k.isPool = true) (h : carryOut inner l op tr k c = (.ok r, c')) :
    r.lesson = l.withPools r.lesson.pools ∧ c = c' := by
  obtain ⟨hsets, hchance⟩ := carryOut_sets hk h
  refine ⟨?_, hchance⟩
  cases k <;> try cases hk
  all_goals
    first
      | obtain ⟨_, _, -, hset⟩ := hsets
      | obtain ⟨_, hset⟩ := hsets
      | have hset := hsets
    rw [hset]
    rfl

end Sets

/-! ### All that a task can do -/

/-- The trouble card that an operation adds to a lesson: the one of the catalog, or a new one. -/
def troubleCopy (l : Lesson) (c : Chance) (op : Operation) : Copy :=
  (l.catalog.find? op.troubleId).getD (madeTrouble (c.named + 1) op.troubleId)

/-- The lesson after a draw into a hand. -/
def Lesson.drawnTo (l : Lesson) (d : Drawn) (hand : List Copy) : Lesson :=
  { l with deck := d.deck, discard := d.discard, hand }

/-- What performing a task does: the tasks it puts before the others, and the lesson and the chance
it leaves. -/
inductive Performed (l : Lesson) (c : Chance) : Task → List Task → Lesson → Chance → Prop
  | card (copy : Copy) :
      Performed l c (.card copy) (copy.card.effects.map .effect) (l.discardFromHand copy) c
  | idle {e : Effect}
      (h : l.passes .generateTrouble e = true → e.operation.troubleId.holds = false) :
      Performed l c (.effect e) [] l c
  | gate {e : Effect} (h : l.passes .conditionGate e = true) :
      Performed l c (.effect e) (e.subEffects.map .effect) l c
  | chose {e : Effect} {chosen : List Copy} {c' : Chance}
      (h : l.passes .triggerRandomHandCard e = true) (hc : ∀ x ∈ chosen, x ∈ l.hand)
      (hn : c'.named = c.named) :
      Performed l c (.effect e) (chosen.map .card) l c'
  | pools {e : Effect} {k : EffectKind} {r : Resolution} (hk : k.isPool = true)
      (h : l.passes k e = true)
      (hr : carryOut idleResolver l e.operation e.triggered k c = (.ok r, c)) :
      Performed l c (.effect e) [] r.lesson c
  | buffs {e : Effect} {bs : List Buff} {c' : Chance} (h : ¬l.passes .generateTrouble e = true)
      (hb : Rebuffed e.operation e.triggered l.buffs c.named bs c'.named) :
      Performed l c (.effect e) [] { l with buffs := bs } c'
  | drew {e : Effect} {d : Drawn} {c' : Chance} (h : l.passes .drawCard e = true)
      (hd : (d.deck ++ d.discard ++ d.hand).Perm (l.deck ++ l.discard))
      (hl : d.hand.length ≤ Balance.handLimit) (hn : c'.named = c.named) :
      Performed l c (.effect e) [] (l.drawnTo d (l.hand ++ d.hand)) c'
  | swapped {e : Effect} {d : Drawn} {c' : Chance} (h : l.passes .swapHand e = true)
      (hd : (d.deck ++ d.discard ++ d.hand).Perm (l.deck ++ (l.discard ++ l.hand)))
      (hl : d.hand.length ≤ l.hand.length) (hn : c'.named = c.named) :
      Performed l c (.effect e) [] (l.drawnTo d d.hand) c'
  | upgraded {e : Effect} {hand : List Copy} (h : l.passes .upgradeHand e = true)
      (hl : hand.length = l.hand.length)
      (hm : ∀ x ∈ hand, x ∈ l.hand ∨ x ∈ l.catalog.map (·.2)) :
      Performed l c (.effect e) [] { l with hand } c
  | troubled {e : Effect} {place : Nat} {c' : Chance} (h : l.passes .generateTrouble e = true)
      (ht : e.operation.troubleId.holds = true)
      (hn : c.named ≤ c'.named)
      (hnew : l.catalog.find? e.operation.troubleId = none → c'.named = c.named + 1) :
      Performed l c (.effect e) []
        { l with
          deck := l.deck.take place ++ troubleCopy l c e.operation :: l.deck.drop place } c'

/-! ### Each rule is one of the steps -/

variable {l : Lesson} {c c' : Chance} {r : Resolution}

theorem passes_iff {k : EffectKind} {e : Effect} : l.passes k e = true ↔
    e.operation.kind = .known k ∧ l.meetsAll e.operation.conditions = .ok true := by
  unfold Lesson.passes Effect.is Effect.kind Tag.is
  cases hk : e.operation.kind with
  | unknown raw => simp
  | known k' =>
    cases hm : l.meetsAll e.operation.conditions with
    | error f => simp
    | ok met => simp

theorem not_passes_of_kind_ne {k k' : EffectKind} {e : Effect} (he : e.operation.kind = .known k)
    (hne : k ≠ k') : ¬l.passes k' e = true := by
  rw [passes_iff, he]
  rintro ⟨⟨⟩, -⟩
  exact hne rfl

/-- What an operation chooses is in the hand. -/
theorem chooseFromHand_spec {op : Operation} {chosen : List Copy}
    (h : chooseFromHand l op c = (.ok chosen, c')) :
    (∀ x ∈ chosen, x ∈ l.hand) ∧ c'.named = c.named := by
  unfold chooseFromHand at h
  simp only [Play.bind_ok, Play.except_ok] at h
  obtain ⟨count, c₁, ⟨-, rfl⟩, h⟩ := h
  split at h
  · obtain ⟨rfl, rfl⟩ := Play.pure_ok.1 h
    exact ⟨fun x hx => absurd hx List.not_mem_nil, rfl⟩
  · simp only [Play.bind_ok, Play.except_ok, Play.luck_ok, Play.pure_ok] at h
    obtain ⟨k, c₁, ⟨-, rfl⟩, picked, c₂, hs, names, c₃, ⟨-, rfl⟩, rfl, rfl⟩ := h
    refine ⟨fun x hx => ?_, ?_⟩
    · have hx : x ∈ (Luck.sample (l.hand.filter (Lesson.hasRarity op.targetRarity)) k c).1 := by
        rw [hs]
        exact hx
      exact (List.mem_filter.1 (Luck.mem_of_mem_sample hx)).1
    · have := Luck.KeepsNames.sample (l.hand.filter (Lesson.hasRarity op.targetRarity)) k c
      rwa [hs] at this

theorem drawForEffect_spec {e : Effect} (hp : l.passes .drawCard e = true)
    (h : drawForEffect l e.operation c = (.ok r, c')) :
    Performed l c (.effect e) [] r.lesson c' := by
  unfold drawForEffect at h
  obtain ⟨requested, c₁, hr, h⟩ := Play.bind_ok.1 h
  obtain ⟨-, rfl⟩ := Play.except_ok.1 hr
  split at h
  · obtain ⟨rfl, rfl⟩ := Play.pure_ok.1 h
    refine .idle fun ht => absurd ht ?_
    exact not_passes_of_kind_ne (passes_iff.1 hp).1 (by decide)
  · obtain ⟨d, c₂, hd, h⟩ := Play.bind_ok.1 h
    obtain ⟨rfl, rfl⟩ := Play.pure_ok.1 h
    obtain ⟨hperm, hl, hn⟩ := drawCards_spec hd
    exact .drew hp hperm (by omega) hn

theorem swapHand_spec {e : Effect} (hp : l.passes .swapHand e = true)
    (h : swapHand l c = (.ok r, c')) : Performed l c (.effect e) [] r.lesson c' := by
  unfold swapHand at h
  obtain ⟨d, c₂, hd, h⟩ := Play.bind_ok.1 h
  obtain ⟨rfl, rfl⟩ := Play.pure_ok.1 h
  obtain ⟨hperm, hl, hn⟩ := drawCards_spec hd
  exact .swapped hp hperm hl hn

theorem mem_of_find? {id : Datum} {copy : Copy} : ∀ {catalog : Catalog},
    catalog.find? id = some copy → copy ∈ catalog.map (·.2)
  | [], h => by cases h
  | (k, x) :: rest, h => by
    rw [Catalog.find?] at h
    split at h
    · obtain rfl := Option.some.inj h
      exact List.mem_cons_self
    · exact List.mem_cons_of_mem _ (mem_of_find? h)

theorem upgradeOf_mem {catalog : Catalog} {x better : Copy}
    (h : upgradeOf catalog x = .ok (some better)) : better ∈ catalog.map (·.2) := by
  unfold upgradeOf at h
  obtain ⟨id, -, h⟩ := Play.except_bind_ok.1 h
  have h := Play.except_pure_ok.1 h
  split at h
  · cases h
  · exact mem_of_find? h

/-- An upgrade replaces cards by cards of the catalog. -/
theorem upgradeFrom_spec {catalog : Catalog} : ∀ {hand hand' : List Copy} {held : List Datum},
    upgradeFrom catalog held hand = .ok hand' →
      hand'.length = hand.length ∧ ∀ x ∈ hand', x ∈ hand ∨ x ∈ catalog.map (·.2)
  | [], _, _, h => by
    cases h
    exact ⟨rfl, fun x hx => absurd hx List.not_mem_nil⟩
  | y :: hand, hand', held, h => by
    have keep {z : Copy} {held : List Datum} (hz : z = y ∨ z ∈ catalog.map (·.2))
        (h : (do return z :: (← upgradeFrom catalog held hand) : Except Fault _) = .ok hand') :
        hand'.length = hand.length + 1 ∧ ∀ x ∈ hand', x ∈ y :: hand ∨ x ∈ catalog.map (·.2) := by
      obtain ⟨rest, hrest, h⟩ := Play.except_bind_ok.1 h
      obtain rfl := Play.except_pure_ok.1 h
      obtain ⟨hl, hm⟩ := upgradeFrom_spec hrest
      refine ⟨by simpa using hl, fun x hx => ?_⟩
      rcases List.mem_cons.1 hx with rfl | hx
      · refine hz.imp_left fun hz => ?_
        rw [hz]
        exact List.mem_cons_self
      · exact (hm x hx).imp_left (List.mem_cons_of_mem y)
    rw [upgradeFrom] at h
    obtain ⟨better, hb, h⟩ := Play.except_bind_ok.1 h
    cases better with
    | none => exact keep (.inl rfl) h
    | some better =>
      obtain ⟨id, -, h⟩ := Play.except_bind_ok.1 h
      split at h
      · exact keep (.inl rfl) h
      · exact keep (.inr (upgradeOf_mem hb)) h

theorem upgradeHand_spec {e : Effect} (hp : l.passes .upgradeHand e = true)
    (h : upgradeHand l = .ok r) : Performed l c (.effect e) [] r.lesson c := by
  unfold upgradeHand at h
  obtain ⟨held, -, h⟩ := Play.except_bind_ok.1 h
  obtain ⟨hand, hh, h⟩ := Play.except_bind_ok.1 h
  obtain rfl := Play.except_pure_ok.1 h
  obtain ⟨hl, hm⟩ := upgradeFrom_spec hh
  exact .upgraded hp hl hm

theorem key_eq {d d' : Datum} (h : d.key = .ok d') : d' = d := by
  unfold Datum.key at h
  split at h
  · exact (Except.ok.inj h).symm
  · cases h

theorem generateTrouble_spec {e : Effect} (hp : l.passes .generateTrouble e = true)
    (h : generateTrouble l e.operation c = (.ok r, c')) :
    Performed l c (.effect e) [] r.lesson c' := by
  unfold generateTrouble at h
  dsimp only at h
  split at h
  · next ht =>
    obtain ⟨rfl, rfl⟩ := Play.pure_ok.1 h
    exact .idle fun _ => by simpa using ht
  · next ht =>
    have ht : e.operation.troubleId.holds = true := by simpa using ht
    have finish {copy : Copy} {c₁ : Chance}
        (heq : troubleCopy l c e.operation = copy) (hn : c.named ≤ c₁.named)
        (hnew : l.catalog.find? e.operation.troubleId = none → c₁.named = c.named + 1)
        (h : (do
          let place ← (Luck.below (l.deck.length + 1) : Luck Nat)
          let name ← copy.card.name.printed
          return .changed { l with deck := l.deck.take place ++ copy :: l.deck.drop place }
            s!"Trouble card {name} shuffled into the deck" : Play Resolution) c₁ = (.ok r, c')) :
        Performed l c (.effect e) [] r.lesson c' := by
      obtain ⟨place, c₂, hpl, h⟩ := Play.bind_ok.1 h
      obtain ⟨_, -, h⟩ := Play.lift_bind_ok.1 h
      obtain ⟨rfl, rfl⟩ := Play.pure_ok.1 h
      have hkeep : c₂.named = c₁.named := by
        have := Luck.KeepsNames.below (l.deck.length + 1) c₁
        rwa [Play.luck_ok.1 hpl] at this
      subst heq
      exact .troubled hp ht (by omega) fun hf => by rw [hkeep, hnew hf]
    obtain ⟨id, c₁, hid, h⟩ := Play.bind_ok.1 h
    obtain ⟨hkey, rfl⟩ := Play.except_ok.1 hid
    obtain rfl := key_eq hkey
    cases hf : l.catalog.find? e.operation.troubleId with
    | some copy =>
      rw [hf] at h
      obtain ⟨_, _, hc, h⟩ := Play.bind_ok.1 h
      obtain ⟨rfl, rfl⟩ := Play.pure_ok.1 hc
      refine finish ?_ (Nat.le_refl _) ?_ h
      · rw [troubleCopy, hf, Option.getD_some]
      · rw [hf]
        nofun
    | none =>
      rw [hf] at h
      obtain ⟨_, -, h⟩ := Play.lift_bind_ok.1 h
      obtain ⟨number, c₁, hfresh, h⟩ := Play.bind_ok.1 h
      cases Play.luck_ok.1 hfresh
      obtain ⟨_, _, hc, h⟩ := Play.bind_ok.1 h
      obtain ⟨rfl, rfl⟩ := Play.pure_ok.1 hc
      refine finish ?_ (Nat.le_succ _) (fun _ => rfl) h
      rw [troubleCopy, hf, Option.getD_none]

/-- A rule that is neither a gate nor a trigger is one of the steps. -/
theorem carryOut_spec {e : Effect} {k : EffectKind} (hp : l.passes k e = true)
    (hgate : k ≠ .conditionGate) (htrigger : k ≠ .triggerRandomHandCard)
    (h : carryOut idleResolver l e.operation e.triggered k c = (.ok r, c')) :
    Performed l c (.effect e) [] r.lesson c' := by
  have hkind := (passes_iff.1 hp).1
  by_cases hpool : k.isPool = true
  · obtain ⟨-, rfl⟩ := carryOut_pools hpool h
    exact .pools hpool hp h
  · have grant (hk : k ≠ .generateTrouble)
        (h : grantBuff l e.operation k (k.buffName?.getD k.name) e.triggered c = (.ok r, c')) :
        Performed l c (.effect e) [] r.lesson c' := by
      obtain ⟨bs, hr, hb⟩ := grantBuff_spec hkind h
      rw [hr]
      exact .buffs (not_passes_of_kind_ne hkind hk) hb
    have idle (hk : k ≠ .generateTrouble)
        (h : (pure (.untouched l) : Play Resolution) c = (.ok r, c')) :
        Performed l c (.effect e) [] r.lesson c' := by
      obtain ⟨rfl, rfl⟩ := Play.pure_ok.1 h
      exact .idle fun ht => absurd ht (not_passes_of_kind_ne hkind hk)
    cases k <;> first
      | exact absurd rfl hpool
      | exact absurd rfl hgate
      | exact absurd rfl htrigger
      | skip
    case drawCard => exact drawForEffect_spec hp h
    case swapHand => exact swapHand_spec hp h
    case upgradeHand =>
      obtain ⟨hup, rfl⟩ := Play.except_ok.1 h
      exact upgradeHand_spec hp hup
    case generateTrouble => exact generateTrouble_spec hp h
    case delayedEffect => exact idle (by decide) h
    all_goals exact grant (by decide) h

theorem admission_rule {e : Effect} {k : EffectKind}
    (h : admissionOf l e.operation = .ok (.rule k)) : l.passes k e = true := by
  unfold admissionOf at h
  obtain ⟨met, hmet, h⟩ := Play.except_bind_ok.1 h
  cases met with
  | false => cases Play.except_pure_ok.1 h
  | true =>
    obtain ⟨_, -, h⟩ := Play.except_bind_ok.1 h
    cases hk : e.operation.kind with
    | unknown raw =>
      rw [hk] at h
      cases Play.except_pure_ok.1 h
    | known k' =>
      rw [hk] at h
      obtain ⟨absorbed, -, h⟩ := Play.except_ite_bind_ok.1 h
      cases absorbed with
      | some r => cases Play.except_pure_ok.1 h
      | none =>
        cases Play.except_pure_ok.1 h
        exact passes_iff.2 ⟨hk, hmet⟩

/-- An effect that gets past its conditions follows its rule, unless it is a debuff. -/
theorem admission_of_passes {e : Effect} {k : EffectKind} (h : l.passes k e = true)
    (hdebuff : k.isDebuff = false) : admissionOf l e.operation = .ok (.rule k) := by
  obtain ⟨hk, hmet⟩ := passes_iff.1 h
  simp only [admissionOf, hk, hmet, bind, Except.bind, Tag.key, hdebuff, if_true]
  rfl

/-- An effect that is done with did not get past its conditions, or it is a debuff that was
absorbed. -/
theorem admission_done_cases {e : Effect} (h : admissionOf l e.operation = .ok (.done r)) :
    r = .untouched l ∧ (∀ k, ¬l.passes k e = true) ∨
      absorb l e.operation = .ok (some r) ∧ ∀ k, l.passes k e = true → k.isDebuff = true := by
  unfold admissionOf at h
  obtain ⟨met, hmet, h⟩ := Play.except_bind_ok.1 h
  cases met with
  | false =>
    cases Play.except_pure_ok.1 h
    refine .inl ⟨rfl, fun k hp => ?_⟩
    cases hmet.symm.trans (passes_iff.1 hp).2
  | true =>
    obtain ⟨_, -, h⟩ := Play.except_bind_ok.1 h
    cases hk : e.operation.kind with
    | unknown raw =>
      rw [hk] at h
      cases Play.except_pure_ok.1 h
      refine .inl ⟨rfl, fun k hp => ?_⟩
      cases hk.symm.trans (passes_iff.1 hp).1
    | known k' =>
      rw [hk] at h
      obtain ⟨absorbed, ha, h⟩ := Play.except_ite_bind_ok.1 h
      cases absorbed with
      | none => cases Play.except_pure_ok.1 h
      | some r =>
        cases Play.except_pure_ok.1 h
        split at ha
        · next hdebuff =>
          refine .inr ⟨ha, fun k hp => ?_⟩
          cases hk.symm.trans (passes_iff.1 hp).1
          exact hdebuff
        · cases Play.except_pure_ok.1 ha

/-- An effect that is done with has changed no more than the buffs. It did not get past its
conditions, unless it is a debuff. -/
theorem admission_done {e : Effect} (h : admissionOf l e.operation = .ok (.done r)) (named : Nat) :
    (∃ bs, r.lesson = { l with buffs := bs } ∧
        Rebuffed e.operation e.triggered l.buffs named bs named) ∧
      ∀ k, l.passes k e = true → k.isDebuff = true := by
  rcases admission_done_cases h with ⟨rfl, hnone⟩ | ⟨habsorb, hdebuff⟩
  · exact ⟨⟨l.buffs, rfl, .kept⟩, fun k hp => absurd hp (hnone k)⟩
  · exact ⟨absorb_spec habsorb e.triggered named, hdebuff⟩

/-- How an effect is handled: it is done with, its gate opens, it triggers cards, or the rule of its
kind is carried out. -/
inductive Handled (l : Lesson) (c : Chance) (e : Effect) : List Task → Lesson → Chance → Prop
  | done {r : Resolution} (h : admissionOf l e.operation = .ok (.done r)) :
      Handled l c e [] r.lesson c
  | gate (h : l.passes .conditionGate e = true) : Handled l c e (e.subEffects.map .effect) l c
  | chose {chosen : List Copy} {c' : Chance} (h : l.passes .triggerRandomHandCard e = true)
      (hc : chooseFromHand l e.operation c = (.ok chosen, c')) :
      Handled l c e (chosen.map .card) l c'
  | rule {k : EffectKind} {r : Resolution} {c' : Chance} (h : l.passes k e = true)
      (hgate : k ≠ .conditionGate) (htrigger : k ≠ .triggerRandomHandCard)
      (hr : carryOut idleResolver l e.operation e.triggered k c = (.ok r, c')) :
      Handled l c e [] r.lesson c'

theorem perform_handled {e : Effect} {new : List Task} {l' : Lesson}
    (h : perform l (.effect e) c = (.ok (new, l'), c')) : Handled l c e new l' c' := by
  obtain ⟨admission, c₁, ha, h⟩ := Play.bind_ok.1 h
  obtain ⟨hadm, rfl⟩ := Play.except_ok.1 ha
  cases admission with
  | done r =>
    obtain ⟨hnew, rfl⟩ := Play.pure_ok.1 h
    cases hnew
    exact .done hadm
  | rule k =>
    have hp := admission_rule hadm
    dsimp only at h
    split at h
    · next hgate =>
      obtain ⟨hnew, rfl⟩ := Play.pure_ok.1 h
      cases hnew
      subst hgate
      exact .gate hp
    · next hgate =>
      split at h
      · next htrigger =>
        obtain ⟨chosen, c₁, hc, h⟩ := Play.bind_ok.1 h
        obtain ⟨hnew, rfl⟩ := Play.pure_ok.1 h
        cases hnew
        subst htrigger
        exact .chose hp hc
      · next htrigger =>
        obtain ⟨r, c₁, hr, h⟩ := Play.bind_ok.1 h
        obtain ⟨hnew, rfl⟩ := Play.pure_ok.1 h
        cases hnew
        exact .rule hp hgate htrigger hr

/-- **All that a task can do.** -/
theorem perform_spec : ∀ {t : Task} {new : List Task} {l' : Lesson},
    perform l t c = (.ok (new, l'), c') → Performed l c t new l' c'
  | .card copy, _, _, h => by
    obtain ⟨hnew, rfl⟩ := Play.pure_ok.1 h
    cases hnew
    exact .card copy
  | .effect e, _, _, h => by
    cases perform_handled h with
    | done hadm =>
      obtain ⟨⟨bs, hr, hb⟩, hdebuff⟩ := admission_done hadm c.named
      rw [hr]
      refine .buffs (fun hp => ?_) hb
      cases hdebuff _ hp
    | gate hp => exact .gate hp
    | chose hp hc =>
      obtain ⟨hmem, hn⟩ := chooseFromHand_spec hc
      exact .chose hp hmem hn
    | rule hp hgate htrigger hr => exact carryOut_spec hp hgate htrigger hr

/-! ### What no task changes -/

/-- The lesson, with all that effects can change as it is in another one: the pools, the buffs, and
the deck, the hand and the discard pile. -/
def Lesson.reworkedAs (l l' : Lesson) : Lesson :=
  { l.withPools l'.pools with
    deck := l'.deck, hand := l'.hand, discard := l'.discard, buffs := l'.buffs }

/-- **The frame of a task**: what effects cannot change stays as it was. -/
theorem Performed.frame {l' : Lesson} {t : Task} {new : List Task}
    (h : Performed l c t new l' c') : l' = l.reworkedAs l' := by
  cases h with
  | pools hk _ hr =>
    rw [(carryOut_pools hk hr).1]
    rfl
  | _ => rfl

theorem Reaches.frame {s s' : Stage} {ms : List Moment} (h : Reaches s ms s') :
    s'.lesson = s.lesson.reworkedAs s'.lesson := by
  induction h with
  | refl => rfl
  | @step t rest new l l' c c' ms s now _ ih =>
    rw [ih, (perform_spec now).frame]
    rfl

end CardLesson
