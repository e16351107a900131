/-
# What may be played, and what it costs

Whether a card may be played is worked out anew by the check before a play, by the policies, by the
play itself and by the preview of its cost. They agree: the check is a play's own conditions with
those of the card on top, every policy but the fixed one names cards that pass the check, and what a
play takes from HP and genki is the cost that was previewed.

What follows a rejected play when a lesson is played out is a branch that these policies never
reach. `runLessonElse` has anything else in its place, and comes to the same.

Key definitions: `Lesson.Accepts`, `Policy.chooses`, `runLessonElse`, `Moment.Touches`.
Key theorems: `isPlayable_iff`, `play_isSome_iff`, `select_accepts`, `runLessonElse_eq`,
`Moment.Touches.kind`, `payment_exact`, `play_takes_cost`, `legality_agrees`.
-/
import CardLesson.Policy
import CardLesson.Proofs.CourseBounds
import CardLesson.Proofs.Rejection

namespace CardLesson

variable {l l' : Lesson} {c c' : Chance} {id : Datum}

/-! ### The check and the play -/

/-- A play is accepted: plays are left, a card of the hand has the id, and the first one that has it
can be paid for. -/
def Lesson.Accepts (l : Lesson) (id : Datum) : Prop :=
  l.isPlayedOut = false ∧ ∃ copy cost, l.findInHand id = some copy ∧
    actualCost copy.card l.buffs = .ok cost ∧ l.obstacle copy.card cost = .ok none

/-- The conditions of the first card of the hand with an id hold. -/
def Lesson.meetsConditionsOf (l : Lesson) (id : Datum) : Prop :=
  ∃ copy, l.findInHand id = some copy ∧ l.meetsAll copy.card.conditions = .ok true

/-- **The check is the play's own and the card's conditions.** -/
theorem isPlayable_iff : l.isPlayable id = .ok true ↔ l.Accepts id ∧ l.meetsConditionsOf id := by
  unfold Lesson.isPlayable Lesson.Accepts Lesson.meetsConditionsOf
  cases left : l.isPlayedOut with
  | true => simp
  | false =>
    rw [if_neg Bool.false_ne_true]
    cases found : l.findInHand id with
    | none => simp
    | some copy =>
      constructor
      · intro h
        obtain ⟨met, hmet, h⟩ := Play.except_bind_ok.1 h
        cases met with
        | false => cases Play.except_pure_ok.1 h
        | true =>
          obtain ⟨cost, costs, h⟩ := Play.except_bind_ok.1 h
          obtain ⟨obstacle, payable, h⟩ := Play.except_bind_ok.1 h
          obtain rfl := Option.isNone_iff_eq_none.1 (Play.except_pure_ok.1 h)
          exact ⟨⟨rfl, copy, cost, rfl, costs, payable⟩, copy, rfl, hmet⟩
      · rintro ⟨⟨-, copy', cost, hcopy, costs, payable⟩, copy'', hcopy', hmet⟩
        cases hcopy
        cases hcopy'
        refine Play.except_bind_ok.2 ⟨true, hmet, ?_⟩
        exact Play.except_bind_ok.2 ⟨cost, costs, Play.except_bind_ok.2 ⟨none, payable, rfl⟩⟩

theorem Lesson.Accepts.not_rejected (h : l.Accepts id) : ¬Move.Rejected l (.play id) := by
  obtain ⟨left, copy, cost, found, costs, payable⟩ := h
  rw [rejected_play_iff left found]
  rintro ⟨cost', o, costs', unpaid⟩
  rw [costs] at costs'
  cases costs'
  rw [payable] at unpaid
  cases unpaid

/-- A play that is accepted is never rejected, whatever is drawn. -/
theorem Lesson.Accepts.play_ne (h : l.Accepts id) (c c' : Chance) :
    l.play id c ≠ (.ok none, c') :=
  fun hnone => h.not_rejected (play_none_iff.1 hnone).1

/-- A play that returns was made just when it is one that is accepted. -/
theorem play_isSome_iff {next : Option Lesson} (h : l.play id c = (.ok next, c')) :
    next.isSome = true ↔ l.Accepts id := by
  cases next with
  | none => exact iff_of_false Bool.false_ne_true fun ha => ha.play_ne c c' h
  | some l' =>
    refine iff_of_true rfl ?_
    obtain ⟨ms, hmade⟩ := play_ok h
    rw [Option.getD_some] at hmade
    cases hmade with
    | rejected hnone => cases h.symm.trans hnone
    | played left found costs payable => exact ⟨left, _, _, found, costs, payable⟩

/-! ### What policies name -/

/-- The ids that are listed as playable are playable, one and all. -/
theorem mem_playableAfter : ∀ {copies : List Copy} {found ids : List Datum},
    l.playableAfter found copies = .ok ids →
      ∀ id ∈ ids, id ∈ found ∨ l.isPlayable id = .ok true
  | [], found, ids, h, id, hid => by
    cases h
    exact .inl hid
  | copy :: copies, found, ids, h, id, hid => by
    rw [Lesson.playableAfter] at h
    split at h
    · exact mem_playableAfter h id hid
    · obtain ⟨playable, hplayable, h⟩ := Play.except_bind_ok.1 h
      cases playable with
      | false => exact mem_playableAfter h id hid
      | true =>
        rcases mem_playableAfter h id hid with hfound | hcheck
        · rcases List.mem_append.1 hfound with hfound | hnew
          · exact .inl hfound
          · rw [List.mem_singleton.1 hnew]
            exact .inr hplayable
        · exact .inr hcheck

theorem accepts_of_mem_playableIds {ids : List Datum} (h : l.playableIds = .ok ids)
    (hid : id ∈ ids) : l.Accepts id := by
  rcases mem_playableAfter h id hid with hnil | hcheck
  · exact absurd hnil List.not_mem_nil
  · exact (isPlayable_iff.1 hcheck).1

/-- What is drawn from a list is in the list. -/
theorem mem_of_choose? {α : Type} {xs : List α} {x : α} (h : (Luck.choose? xs c).1 = some x) :
    x ∈ xs := by
  rw [Luck.choose?, Play.luck_bind, Play.luck_pure] at h
  exact List.mem_of_getElem? h

/-- The best of some plays is one of them, or was the best before. -/
theorem bestAfter_mem {gain : Datum → Except Fault Quantity} :
    ∀ {ids : List Datum} {best result : Option (Datum × Quantity)},
      bestAfter gain best ids = .ok result →
        ∀ p ∈ result, best = some p ∨ p.1 ∈ ids
  | [], best, result, h, p, hp => by
    cases h
    exact .inl hp
  | id :: ids, best, result, h, p, hp => by
    obtain ⟨g, -, h⟩ := Play.except_bind_ok.1 h
    rcases bestAfter_mem h p hp with hbest | hmem
    · rcases ite_eq_iff.1 hbest with ⟨-, hnew⟩ | ⟨-, hold⟩
      · obtain rfl := Option.some.inj hnew
        exact .inr List.mem_cons_self
      · exact .inl hold
    · exact .inr (List.mem_cons_of_mem id hmem)

namespace Policy

variable {p p' : Policy} {named : Nat} {d : Decision}

/-- Whether the policy chooses among the cards that may be played; the fixed one does not. -/
def chooses : Policy → Bool
  | first | random _ | greedy _ => true
  | fixed _ => false

/-- **A policy that chooses names a card that is accepted**, and goes on to choose. -/
theorem select_accepts (hp : p.chooses = true) (h : p.select named l = .ok (d, p')) :
    (∀ id, d.card = some id → l.Accepts id) ∧ p'.chooses = true := by
  cases p with
  | fixed card => cases hp
  | first =>
    obtain ⟨ids, hids, h⟩ := Play.except_bind_ok.1 h
    cases ids with
    | nil =>
      cases h
      exact ⟨nofun, rfl⟩
    | cons id ids =>
      cases h
      refine ⟨fun id' hid' => ?_, rfl⟩
      obtain rfl := Decision.eq_of_play_card hid'
      exact accepts_of_mem_playableIds hids List.mem_cons_self
  | random chance =>
    obtain ⟨ids, hids, h⟩ := Play.except_bind_ok.1 h
    cases ids with
    | nil =>
      cases h
      exact ⟨nofun, rfl⟩
    | cons id ids =>
      rcases hpick : Luck.choose? (id :: ids) chance with ⟨picked, chance'⟩
      simp only [hpick] at h
      cases picked with
      | none =>
        cases h
        exact ⟨nofun, rfl⟩
      | some id' =>
        cases h
        refine ⟨fun id'' hid' => ?_, rfl⟩
        obtain rfl := Decision.eq_of_play_card hid'
        exact accepts_of_mem_playableIds hids (mem_of_choose? (c := chance) (by rw [hpick]))
  | greedy seed =>
    obtain ⟨ids, hids, h⟩ := Play.except_bind_ok.1 h
    obtain ⟨best, hbest, h⟩ := Play.except_bind_ok.1 h
    cases best with
    | none =>
      cases h
      exact ⟨nofun, rfl⟩
    | some pair =>
      obtain ⟨id, g⟩ := pair
      cases h
      refine ⟨fun id' hid' => ?_, rfl⟩
      obtain rfl := Decision.eq_of_play_card hid'
      rcases bestAfter_mem hbest (id, g) rfl with hnone | hmem
      · cases hnone
      · exact accepts_of_mem_playableIds hids hmem

end Policy

/-! ### What follows a rejected play is never reached -/

/-- Plays a lesson to its end as `runLesson` does, but for what follows a play that is rejected. -/
def runLessonElse (other : Policy → Lesson → Play (Lesson × Policy)) (l : Lesson) (p : Policy)
    (schedule : Schedule) : Play Lesson :=
  playLesson Policy.select other l p schedule

variable {p p' : Policy} {other : Policy → Lesson → Play (Lesson × Policy)}

theorem playTurn_else (other : Policy → Lesson → Play (Lesson × Policy)) :
    ∀ (plays : Nat) {p : Policy} (l : Lesson) (c : Chance), p.chooses = true →
      playTurn Policy.select other plays p l c = playTurn Policy.select stopTurn plays p l c
  | 0, _, _, _, _ => rfl
  | plays + 1, p, l, c, hp => by
    rw [playTurn, playTurn]
    refine Play.bind_congr fun chance c₁ _ => Play.bind_congr fun (d, p') c₂ hselect => ?_
    obtain ⟨haccepts, hp'⟩ := Policy.select_accepts hp (Play.except_ok.1 hselect).1
    dsimp only
    cases hcard : d.card with
    | none => rfl
    | some id =>
      refine Play.bind_congr fun next c₃ hplay => ?_
      cases next with
      | none => exact absurd hplay ((haccepts id hcard).play_ne c₂ c₃)
      | some l' => exact playTurn_else other plays l' c₃ hp'

/-- A policy that chooses still does after the turn. -/
theorem playTurn_chooses : ∀ {plays : Nat} {p p' : Policy} {l l' : Lesson} {c c' : Chance},
    p.chooses = true → playTurn Policy.select stopTurn plays p l c = (.ok (l', p'), c') →
      p'.chooses = true
  | 0, _, _, _, _, _, _, hp, h => by
    cases h
    exact hp
  | plays + 1, p, p', l, l', c, c', hp, h => by
    rw [playTurn] at h
    obtain ⟨chance, c₁, -, h⟩ := Play.bind_ok.1 h
    obtain ⟨⟨d, p₁⟩, c₂, hselect, h⟩ := Play.bind_ok.1 h
    have hp₁ := (Policy.select_accepts hp (Play.except_ok.1 hselect).1).2
    dsimp only at h
    cases hcard : d.card with
    | none =>
      rw [hcard] at h
      cases h
      exact hp₁
    | some id =>
      rw [hcard] at h
      obtain ⟨next, c₃, -, h⟩ := Play.bind_ok.1 h
      cases next with
      | none =>
        cases h
        exact hp₁
      | some l₁ => exact playTurn_chooses hp₁ h

theorem playOut_else (other : Policy → Lesson → Play (Lesson × Policy)) (schedule : Schedule) :
    ∀ (turns : Nat) {p : Policy} (l : Lesson) (c : Chance), p.chooses = true →
      playOut Policy.select other schedule turns p l c =
        playOut Policy.select stopTurn schedule turns p l c
  | turns, p, l, c, hp => by
    rw [playOut, playOut, Play.bind_apply, Play.bind_apply, playTurn_else other _ l c hp]
    rcases hturn : playTurn Policy.select stopTurn Balance.handLimit p l c with ⟨f | ⟨l₁, p₁⟩, c₁⟩
    · rfl
    · refine Play.bind_congr fun next c₂ _ => ?_
      have hp₁ := playTurn_chooses hp hturn
      cases next with
      | none => rfl
      | some l₂ =>
        cases turns with
        | zero => rfl
        | succ turns => exact playOut_else other schedule turns l₂ c₂ hp₁

/-- **What follows a rejected play is never reached** by a policy that chooses: with anything else
in its place a lesson is played to the same end. -/
theorem runLessonElse_eq (other : Policy → Lesson → Play (Lesson × Policy)) (l : Lesson)
    (schedule : Schedule) (hp : p.chooses = true) :
    runLessonElse other l p schedule = runLesson l p schedule := by
  funext c
  refine Play.bind_congr fun diff c₁ _ => Play.bind_congr fun left c₂ _ => ?_
  exact playOut_else other schedule _ l c₂ hp

/-! ### What touches HP and genki -/

/-- Performing the task of a moment changes HP or genki. -/
def Moment.Touches (m : Moment) : Prop :=
  ∃ new l' c', perform m.lesson m.task m.chance = (.ok (new, l'), c') ∧
    ¬(l'.hp = m.lesson.hp ∧ l'.genki = m.lesson.genki)

/-- The kinds of effects that change HP or genki. -/
def vitalKinds : List EffectKind := [.genki, .halfGenki, .setGenki, .consumeHp]

/-- An effect on pools of another kind leaves HP and genki as they are. -/
theorem carryOut_sparesVitals {inner : Resolver} {op : Operation} {tr : Option Effect}
    {k : EffectKind} {r : Resolution} (hpool : k.isPool = true) (hk : k ∉ vitalKinds)
    (h : carryOut inner l op tr k c = (.ok r, c')) :
    r.lesson.hp = l.hp ∧ r.lesson.genki = l.genki := by
  obtain ⟨hsets, -⟩ := carryOut_sets hpool h
  cases k <;> first
    | exact (hk (by decide)).elim
    | cases hpool
  case scoreFixed | scoreScaleGenki | scoreScaleImpression | scoreScaleMotivation =>
    obtain ⟨_, _, -, hset⟩ := hsets
    rw [hset]
    exact ⟨rfl, rfl⟩
  case endLesson =>
    rw [hsets]
    exact ⟨rfl, rfl⟩
  all_goals
    obtain ⟨_, hset⟩ := hsets
    rw [hset]
    exact ⟨rfl, rfl⟩

/-- **Only gains of genki, its halving and setting, and costs in HP touch HP or genki.** -/
theorem Moment.Touches.kind {m : Moment} (h : m.Touches) :
    ∃ k ∈ vitalKinds, m.carriesOut k = true := by
  obtain ⟨t, l, c⟩ := m
  obtain ⟨new, l', c', hperform, hchanged⟩ := h
  cases perform_spec hperform with
  | @pools e k r hpool hpass hrule =>
    by_cases hk : k ∈ vitalKinds
    · exact ⟨k, hk, hpass⟩
    · exact absurd (carryOut_sparesVitals hpool hk hrule) hchanged
  | _ => exact absurd ⟨rfl, rfl⟩ hchanged

variable {ms : List Moment}

theorem Reaches.vitals_eq {s s' : Stage} (h : Reaches s ms s') (hms : ∀ m ∈ ms, ¬m.Touches) :
    s'.lesson.hp = s.lesson.hp ∧ s'.lesson.genki = s.lesson.genki := by
  induction h with
  | refl => exact ⟨rfl, rfl⟩
  | @step t rest new l l' c c' ms s now _ ih =>
    have hfirst : l'.hp = l.hp ∧ l'.genki = l.genki := by
      by_contra hchanged
      exact hms _ List.mem_cons_self ⟨new, l', c', now, hchanged⟩
    have hrest := ih fun m hm => hms m (List.mem_cons_of_mem _ hm)
    exact ⟨hrest.1.trans hfirst.1, hrest.2.trans hfirst.2⟩

theorem Worked.vitals_eq {es : List Effect} (h : Worked es l c ms l' c')
    (hms : ∀ m ∈ ms, ¬m.Touches) : l'.hp = l.hp ∧ l'.genki = l.genki := by
  obtain ⟨l₁, lines, hrun, rfl⟩ := h
  exact hrun.vitals_eq hms

/-! ### What a play takes -/

/-- A cost is taken from HP and genki: all of it, no more than is there, for an HP-cost card from
HP alone and for all others from genki first. -/
structure Takes (card : Card) (cost hp genki hp' genki' : Int) : Prop where
  sum : hp' + genki' + cost = hp + genki
  cost_nonneg : 0 ≤ cost
  hp_nonneg : 0 ≤ hp'
  genki_nonneg : 0 ≤ genki'
  fromHp : card.costType = .hp → genki' = genki
  fromGenki : card.costType = .normal → genki' = genki - min genki cost

/-- A payment takes exactly the cost. -/
theorem payment_exact {card : Card} {cost hp genki : Int} {p : Payment} (hhp : l.hp = .whole hp)
    (hgenki : l.genki = .whole genki) (hp_nonneg : 0 ≤ hp) (genki_nonneg : 0 ≤ genki)
    (cost_nonneg : 0 ≤ cost) (payable : l.obstacle card cost = .ok none)
    (pays : Payment.of l card cost = .ok p) : ∃ taken left : Int, p.hp = .whole taken ∧
      p.genkiLeft = .whole left ∧ Takes card cost hp genki (hp - taken) left := by
  have henough := cost_le_of_obstacle_none hhp hgenki payable
  unfold Payment.of at pays
  cases htype : card.costType with
  | hp =>
    rw [htype] at pays henough
    dsimp only at henough
    cases pays
    exact ⟨cost, genki, rfl, hgenki, by omega, cost_nonneg, by omega, genki_nonneg, fun _ => rfl,
      fun hn => by rw [htype] at hn; cases hn⟩
  | normal =>
    rw [htype] at pays henough
    rw [hgenki] at pays
    obtain ⟨short, hshort, pays⟩ := Play.except_bind_ok.1 pays
    obtain ⟨rest, hrest, pays⟩ := Play.except_bind_ok.1 pays
    cases hshort
    cases hrest
    obtain rfl := Play.except_pure_ok.1 pays
    dsimp only at henough
    refine ⟨max 0 (cost - genki), max 0 (genki - cost), Quantity.larger_whole 0 _,
      Quantity.larger_whole 0 _, by omega, cost_nonneg, by omega, by omega, fun hn => ?_,
      fun _ => by omega⟩
    rw [htype] at hn
    cases hn

/-- **A play takes its cost**: when nothing on the way touches HP or genki, they are what they were
less the cost that was previewed. -/
theorem play_takes_cost {hp genki : Int} (hhp : l.hp = .whole hp) (hgenki : l.genki = .whole genki)
    (hp_nonneg : 0 ≤ hp) (genki_nonneg : 0 ≤ genki) (h : l.play id c = (.ok (some l'), c')) :
    ∃ copy cost ms, l.findInHand id = some copy ∧ l.previewCost id = .ok (some cost) ∧
      Made l c (.play id) ms l' c' ∧ ((∀ m ∈ ms, ¬m.Touches) → ∃ hp' genki' : Int,
        l'.hp = .whole hp' ∧ l'.genki = .whole genki' ∧
          Takes copy.card cost hp genki hp' genki') := by
  obtain ⟨ms, hmade⟩ := play_ok h
  rw [Option.getD_some] at hmade
  have hplay := hmade
  cases hmade with
  | rejected hnone => cases h.symm.trans hnone
  | @played id copy cost pay hp₁ plays fired l₁ l₂ l₃ c₁ c₂ c₃ ms₁ ms₂ ms₃ lines left found costs
      payable pays hsub _ main reacting _ firing =>
    have hpreview : l.previewCost id = .ok (some cost) := by
      rw [Lesson.previewCost, found]
      simp only [costs]
      rfl
    refine ⟨copy, cost, _, found, hpreview, hplay, fun hms => ?_⟩
    obtain ⟨taken, left, htaken, hleft, htakes⟩ := payment_exact hhp hgenki hp_nonneg genki_nonneg
      (actualCost_nonneg costs) payable pays
    simp only [List.mem_append, or_imp, forall_and] at hms
    obtain ⟨⟨hms₁, hms₂⟩, hms₃⟩ := hms
    have hvitals₁ := main.vitals_eq hms₁
    have hvitals₂ := reacting.vitals_eq hms₂
    have hvitals₃ := firing.vitals_eq hms₃
    have hput : ((l₃.putAway copy).withLines lines).hp = l₃.hp ∧
        ((l₃.putAway copy).withLines lines).genki = l₃.genki := by
      unfold Lesson.putAway
      split <;> exact ⟨rfl, rfl⟩
    rw [hhp, htaken] at hsub
    cases hsub
    refine ⟨hp - taken, left, ?_, ?_, htakes⟩
    · rw [hput.1, hvitals₃.1, hvitals₂.1, hvitals₁.1]
      rfl
    · rw [hput.2, hvitals₃.2, hvitals₂.2, hvitals₁.2]
      exact hleft

/-- **The check, the policies, the preview and the play agree.** A card may be played just when its
play is accepted and its conditions hold, and plays that return are made just when they are
accepted. What a policy that chooses names is accepted, so what follows a rejected play is never
reached when it plays a lesson out. And a play on which nothing touches HP or genki, as only effects
of four kinds do, takes from them exactly the cost that was previewed. -/
theorem legality_agrees {hp genki : Int} (hhp : l.hp = .whole hp) (hgenki : l.genki = .whole genki)
    (hp_nonneg : 0 ≤ hp) (genki_nonneg : 0 ≤ genki) (id : Datum) :
    (l.isPlayable id = .ok true ↔ l.Accepts id ∧ l.meetsConditionsOf id) ∧
    (∀ c c' next, l.play id c = (.ok next, c') → (next.isSome = true ↔ l.Accepts id)) ∧
    (∀ p p' named d, Policy.chooses p = true → p.select named l = .ok (d, p') →
      ∀ id, d.card = some id → l.Accepts id ∧ ∀ c c', l.play id c ≠ (.ok none, c')) ∧
    (∀ p schedule, runLessonElse stopTurn l p schedule = runLesson l p schedule) ∧
    (∀ p schedule other, Policy.chooses p = true →
      runLessonElse other l p schedule = runLesson l p schedule) ∧
    ∀ c c' l', l.play id c = (.ok (some l'), c') →
      ∃ copy cost ms, l.findInHand id = some copy ∧ l.previewCost id = .ok (some cost) ∧
        Made l c (.play id) ms l' c' ∧
        (∀ m ∈ ms, m.Touches → ∃ k ∈ vitalKinds, m.carriesOut k = true) ∧
        ((∀ m ∈ ms, ¬m.Touches) → ∃ hp' genki' : Int, l'.hp = .whole hp' ∧
          l'.genki = .whole genki' ∧ Takes copy.card cost hp genki hp' genki') := by
  refine ⟨isPlayable_iff, fun c c' next => play_isSome_iff,
    fun p p' named d hp hselect id hid => ?_, fun _ _ => rfl,
    fun p schedule other hp => runLessonElse_eq other l schedule hp, fun c c' l' hplay => ?_⟩
  · have haccepts := (Policy.select_accepts hp hselect).1 id hid
    exact ⟨haccepts, haccepts.play_ne⟩
  · obtain ⟨copy, cost, ms, found, hpreview, hmade, htakes⟩ :=
      play_takes_cost hhp hgenki hp_nonneg genki_nonneg hplay
    exact ⟨copy, cost, ms, found, hpreview, hmade, fun m _ htouch => htouch.kind, htakes⟩

/-- A card that costs more than the genki there are. -/
def costlyCard : Card :=
  { id := .text "a", name := .text "A", cost := 5
    effects := [.of { kind := .known .scoreFixed, value := .whole 7 }] }

/-- A lesson with this card in the hand. -/
def costlyLesson : Lesson :=
  { hp := .whole 30, genki := .whole 3, hand := [⟨.dealt 0, costlyCard⟩] }

theorem costlyLesson_carries : costlyLesson.Carries (avoids vitalKinds) where
  zones x hx := by
    simp only [Lesson.zones, costlyLesson, List.nil_append, List.append_nil,
      List.mem_singleton] at hx
    rw [hx]
    rfl
  catalog x hx := absurd hx List.not_mem_nil
  buffs b hb := absurd hb List.not_mem_nil
  drinks slot hslot := absurd hslot List.not_mem_nil

/-- The card takes all genki, and the rest of its cost from HP. -/
theorem costly_play_takes_cost : ∃ l' c', costlyLesson.isPlayable (.text "a") = .ok true ∧
    costlyLesson.play (.text "a") stillChance = (.ok (some l'), c') ∧
    costlyLesson.previewCost (.text "a") = .ok (some 5) ∧
    l'.hp = .whole 28 ∧ l'.genki = .whole 0 ∧
    ∀ other, runLessonElse other costlyLesson .first [] = runLesson costlyLesson .first [] := by
  have hreturns : (costlyLesson.play (.text "a") stillChance).1.toOption.any (·.isSome) = true := by
    decide +kernel
  have hmet : costlyLesson.meetsConditionsOf (.text "a") := ⟨_, rfl, rfl⟩
  have hcost : costlyLesson.previewCost (.text "a") = .ok (some 5) := rfl
  obtain ⟨next, c', hplay, hsome⟩ := Play.ok_of_any hreturns
  obtain ⟨hcheck, haccepted, -, -, hrun, htakes⟩ := legality_agrees (l := costlyLesson)
    rfl rfl (by decide) (by decide) (.text "a")
  have haccepts := (haccepted _ _ next hplay).1 hsome
  obtain ⟨l', rfl⟩ := Option.isSome_iff_exists.1 hsome
  obtain ⟨copy, cost, ms, hfound, hpreview, hmade, htouch, htaken⟩ := htakes _ _ l' hplay
  have hspared : ∀ m ∈ ms, ¬m.Touches := by
    intro m hm htouches
    obtain ⟨k, hk, hcarried⟩ := htouch m hm htouches
    have htask := ((hmade.carries costlyLesson_carries).2 m hm).2
    rw [carriesOut_of_avoids hk htask] at hcarried
    cases hcarried
  obtain ⟨hp', genki', hhp, hgenki, htakes⟩ := htaken hspared
  cases hcost.symm.trans hpreview
  cases hfound
  have hgenki' : genki' = 3 - min 3 5 := htakes.fromGenki rfl
  have hhp' := htakes.sum
  obtain rfl : genki' = 0 := by omega
  obtain rfl : hp' = 28 := by omega
  exact ⟨l', c', hcheck.2 ⟨haccepts, hmet⟩, hplay, hcost, hhp, hgenki,
    fun other => hrun .first [] other rfl⟩

end CardLesson
