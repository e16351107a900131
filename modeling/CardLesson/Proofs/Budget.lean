/-
# The uses of a reactive buff

A reactive buff carries out its effect when its time comes. Its count is no budget: no firing spends
a use, and a buff that counts uses and no turns is there for the rest of the lesson. So it fires
whenever its time comes, however small its count.

Key theorems: `Accepted.tracks_likeness`, `fires_of_waiting`, `reactive_buff_stays`,
`budget_is_overrun`.
-/
import CardLesson.Proofs.Lifetime

namespace CardLesson

variable {l l' : Lesson} {c c' : Chance} {b x : Buff} {e : Effect}

/-- The buff is another one but for its turns. -/
def Buff.likeness (b x : Buff) : Prop :=
  x = { b with duration := x.duration, isNew := x.isNew }

theorem tickBuff_likeness {y : Buff} (h : tickBuff x = .ok y) (hx : b.likeness x) :
    b.likeness y := by
  have hy := (tickBuff_spec h).1
  unfold Buff.likeness at hx ⊢
  rw [hy, hx]

/-- Whatever is under the id of a buff later is that buff but for its turns. -/
theorem Accepted.tracks_likeness {moves : List Move} (h : Accepted l c moves l' c')
    (htracks : l.Tracks c b.id [b]) : ∀ x ∈ l'.buffs, x.id = b.id → b.likeness x := by
  have hstep : ∀ (_ : Nat) (bs bs' : List Buff), (∀ x ∈ bs, b.likeness x) →
      tickBuffs bs = .ok bs' → ∀ x ∈ bs', b.likeness x := by
    intro _ bs bs' hbs htick x hx
    obtain ⟨x₀, hx₀, htick⟩ := mem_tickBuffs htick hx
    exact tickBuff_likeness htick (hbs x₀ hx₀)
  have hstart : ∀ x ∈ [b], b.likeness x := by
    intro x hx
    rw [List.mem_singleton.1 hx]
    rfl
  obtain ⟨bs, hend, hbs⟩ := h.tracks hstep htracks (k := 0) hstart
  exact fun x hx hid => hbs x (hend.mem_iff.2 ⟨hx, hid⟩)

/-- A buff that waits for a card fires when a card sets it off. -/
theorem fires_of_waiting {type : CardType} {fired : List Effect} (hb : b ∈ l.waiting)
    (he : b.triggered = some e) (hmatch : l'.matchesPlayed b.triggerCondition type = .ok true)
    (hfired : l'.firedBy l.waiting type = .ok fired) : e ∈ fired := by
  obtain ⟨bs, hbs, hfired⟩ := Play.except_bind_ok.1 hfired
  obtain rfl := Play.except_pure_ok.1 hfired
  exact List.mem_filterMap.2 ⟨b, mem_filterM_of hbs hb hmatch, he⟩

theorem mem_waiting (hb : b ∈ l.buffs) (hkind : b.is .onCardUse = true)
    (he : b.triggered = some e) : b ∈ l.waiting := by
  refine List.mem_filter.2 ⟨List.mem_filter.2 ⟨hb, hkind⟩, ?_⟩
  rw [he]
  rfl

theorem mem_reactionsOf_of {k : EffectKind} (hb : b ∈ l.buffs) (hkind : b.is k = true)
    (he : b.triggered = some e) : e ∈ l.reactionsOf k :=
  List.mem_filterMap.2 ⟨b, List.mem_filter.2 ⟨hb, hkind⟩, he⟩

theorem not_worn_of_reactive {k : EffectKind} (hk : k.isReactive = true) (hb : b.is k = true) :
    b.isWorn = false := by
  have hne {k' : EffectKind} (hk' : k'.isReactive = false) : b.is k' = false := by
    unfold Buff.is Tag.is at hb ⊢
    cases hkind : b.kind with
    | unknown raw => rfl
    | known k₀ =>
      rw [hkind] at hb
      rw [beq_iff_eq.1 hb]
      refine beq_eq_false_iff_ne.2 fun heq => ?_
      rw [heq, hk'] at hk
      cases hk
  unfold Buff.isWorn
  rw [hne rfl, hne rfl, Bool.or_false]

/-- **The uses of a reactive buff are not spent.** Whatever is there of a buff that was granted with
a count has that count. If the effect named no turns, the buff is there for the rest of the lesson
and fires whenever a card sets it off, HP are paid, or a turn starts. -/
theorem reactive_buff_stays {status : Status} {schedule : Schedule} {deck : List Copy}
    {drinks : List Drink} {maxTurns : Quantity} {catalog : Catalog} {before after : List Move}
    {move : Move} {ms : List Moment} {m : Moment} {l₀ l₁ l₂ l₃ : Lesson}
    {c₀ c c₁ c₂ c₃ : Chance} {k : EffectKind} {e₀ : Effect} {n : Nat}
    (hopen : openLesson status schedule deck drinks maxTurns catalog c = (.ok l₀, c₀))
    (hbefore : Accepted l₀ c₀ before l₁ c₁) (hmove : Made l₁ c₁ move ms l₂ c₂) (hm : m ∈ ms)
    (htask : m.task = .effect e₀) (hgrant : m.Grants b) (hk : k.isReactive = true)
    (hkind : b.is k = true) (he : b.triggered = some e) (hcount : b.count = .whole n)
    (hafter : Accepted l₂ c₂ after l₃ c₃) :
    (∀ x ∈ l₃.buffs, x.id = b.id → x.count = .whole n) ∧
    (e₀.operation.duration.isNull = true → b ∈ l₃.buffs ∧
      (k = .onCardUse → ∀ (l' : Lesson) type fired,
        l'.matchesPlayed b.triggerCondition type = .ok true →
          l'.firedBy l₃.waiting type = .ok fired → e ∈ fired) ∧
      (k = .reactionOnCost → ∀ p : Payment, Quantity.lt 0 p.hp = true → e ∈ l₃.costReactions p) ∧
      (k = .turnStart → ∀ schedule next c₄, l₃.nextTurn schedule c₃ = (.ok next, c₄) →
        e ∈ next.reactionsOf .turnStart)) := by
  have hworn := not_worn_of_reactive hk hkind
  have hnumbered := hbefore.numbered (openLesson_ok hopen).1.numbered
  have htracks : l₂.Tracks c₂ b.id [b] := hmove.tracks_of_grants hnumbered hm hgrant hworn
  refine ⟨fun x hx hid => ?_, fun hduration => ?_⟩
  · have hlike := hafter.tracks_likeness htracks x hx hid
    rw [hlike]
    exact hcount
  · have hcounted : e₀.operation.count.isNull = false := by
      obtain ⟨e', k', ht, -, heq⟩ := hgrant.spec
      rw [htask] at ht
      cases ht
      have hop : b.count = e₀.operation.count := by
        rw [heq]
        rfl
      rw [← hop, hcount]
      rfl
    have hendless : b.duration.quantity = .ok (.whole (-1)) := by
      rw [hgrant.endless htask hduration hcounted]
      rfl
    have hthere := hafter.tracks_endless htracks hendless
    have hb : b ∈ l₃.buffs := (hthere.mem_iff.1 (List.mem_singleton.2 rfl)).1
    refine ⟨hb, ?_, ?_, ?_⟩
    · rintro rfl l' type fired hmatch hfired
      exact fires_of_waiting (mem_waiting hb hkind he) he hmatch hfired
    · rintro rfl p hp
      rw [Lesson.costReactions, if_pos hp]
      exact mem_reactionsOf_of hb hkind he
    · rintro rfl schedule next c₄ hnext
      obtain ⟨bs, htick, hnextThere⟩ := hthere.turned hnext
      rw [tickBuffs_endless hendless] at htick
      obtain rfl := Except.ok.inj htick
      have hbnext := (hnextThere.mem_iff.1 (List.mem_singleton.2 rfl)).1
      exact mem_reactionsOf_of hbnext hkind he

/-- Once, a card that is played gains genki. -/
def budgetEffect : Effect :=
  ⟨{ kind := .known .onCardUse, count := .whole 1 }, [], some (.gain (.known .genki) (.whole 1))⟩

/-- Another play in this turn. -/
def againEffect : Effect := .gain (.known .addCardPlayCount) (.whole 1)

def budgetDeck : List Card :=
  [{ Card.plain "g" with startInHand := true, effects := [budgetEffect, againEffect] },
    { Card.plain "a" with startInHand := true, effects := [againEffect] },
    { Card.plain "b" with startInHand := true }]

theorem budgetEffect_grants {m : Moment} (hm : m.task = .effect budgetEffect) :
    m.Grants (grantedBuff (m.chance.named + 1) budgetEffect.operation .onCardUse "Card Use Trigger"
      budgetEffect.triggered) := by
  obtain ⟨t, l, c⟩ := m
  obtain rfl := hm
  exact ⟨_, { c with named := c.named + 1 }, rfl, rfl⟩

/-- The buff stays with its count when two more cards were played. -/
theorem reactive_buff_stays_two_plays : ∃ l₀ c₀ ms m b l₁ c₁ l₂ c₂,
    openLesson {} [] (Copy.deal 0 budgetDeck) [] (.whole 12) [] stillChance = (.ok l₀, c₀) ∧
      Made l₀ c₀ (.play (.text "g")) ms l₁ c₁ ∧ m ∈ ms ∧ m.task = .effect budgetEffect ∧
      m.Grants b ∧ b.is .onCardUse = true ∧ b.triggered = budgetEffect.triggered ∧
      b.count = .whole (1 : Nat) ∧ Accepted l₁ c₁ [.play (.text "a"), .play (.text "b")] l₂ c₂ ∧
      b ∈ l₂.buffs := by
  let run : Play (Option Lesson) := do
    let l₀ ← openLesson {} [] (Copy.deal 0 budgetDeck) [] (.whole 12) []
    Lesson.accept [.play (.text "g"), .play (.text "a"), .play (.text "b")] l₀
  have hok : (run stillChance).1.toOption.any Option.isSome = true := by decide +kernel
  obtain ⟨o, c₂, hout, hsome⟩ := Play.ok_of_any hok
  obtain ⟨l₂, rfl⟩ := Option.isSome_iff_exists.1 hsome
  obtain ⟨l₀, c₀, hopen, hout⟩ := Play.bind_ok.1 hout
  cases accept_ok hout with
  | @cons _ _ _ l₁ _ _ c₁ _ hplay hafter =>
    have hcard : ∀ copy, l₀.findInHand (.text "g") = some copy →
        ∃ es, copy.card.effects = budgetEffect :: es := by
      intro copy found
      have hcopy := (openLesson_ok hopen).1.zones.mem_iff.1
        (mem_zones_of_mem_hand (mem_of_findInHand found))
      have hid := List.find?_some found
      simp only [budgetDeck, Copy.deal, List.mem_cons, List.not_mem_nil, or_false] at hcopy
      rcases hcopy with rfl | rfl | rfl
      · exact ⟨[againEffect], rfl⟩
      · cases hid
      · cases hid
    obtain ⟨ms, hmade, m, hm, htask⟩ := play_accepted hplay hcard
    have hgrant := budgetEffect_grants htask
    have hstays := reactive_buff_stays hopen (.nil l₀ c₀) hmade hm htask hgrant
      (k := .onCardUse) rfl rfl rfl rfl hafter
    exact ⟨l₀, c₀, ms, m, _, l₁, c₁, l₂, c₂, hopen, hmade, hm, htask, hgrant, rfl, rfl, rfl,
      hafter, (hstays.2 rfl).1⟩

/-- A buff with one use fires twice: of all effects of the cards only the one that waits in it
gains genki, and each of two plays gains one. Then it is still there with its one use. -/
theorem budget_is_overrun : ∃ l₀ c₀ l₁ c₁ l₂ c₂ l₃ c₃ b,
    openLesson {} [] (Copy.deal 0 budgetDeck) [] (.whole 12) [] stillChance = (.ok l₀, c₀) ∧
      Lesson.course [.play (.text "g")] l₀ c₀ = (.ok l₁, c₁) ∧
      Lesson.course [.play (.text "a")] l₁ c₁ = (.ok l₂, c₂) ∧
      Lesson.course [.play (.text "b")] l₂ c₂ = (.ok l₃, c₃) ∧
      l₁.genki = .whole 0 ∧ l₂.genki = .whole 1 ∧ l₃.genki = .whole 2 ∧
      l₃.buffs = [b] ∧ b.is .onCardUse = true ∧ b.count.same (.whole 1) = true := by
  let run : Play (Lesson × Lesson × Lesson) := do
    let l₀ ← openLesson {} [] (Copy.deal 0 budgetDeck) [] (.whole 12) []
    let l₁ ← Lesson.course [.play (.text "g")] l₀
    let l₂ ← Lesson.course [.play (.text "a")] l₁
    let l₃ ← Lesson.course [.play (.text "b")] l₂
    return (l₁, l₂, l₃)
  let shows : Lesson × Lesson × Lesson → Bool := fun (l₁, l₂, l₃) =>
    decide (l₁.genki = .whole 0 ∧ l₂.genki = .whole 1 ∧ l₃.genki = .whole 2 ∧
      l₃.buffs.length = 1 ∧
        l₃.buffs.all (fun b => b.is .onCardUse && b.count.same (.whole 1)) = true)
  have hok : (run stillChance).1.toOption.any shows = true := by decide +kernel
  obtain ⟨⟨l₁, l₂, l₃⟩, c, hout, hshows⟩ := Play.ok_of_any hok
  obtain ⟨hzero, hone, htwo, hlength, hall⟩ := of_decide_eq_true hshows
  obtain ⟨b, hb⟩ := List.length_eq_one_iff.1 hlength
  rw [hb, List.all_cons, List.all_nil, Bool.and_true, Bool.and_eq_true] at hall
  obtain ⟨l₀, c₀, hopen, hout⟩ := Play.bind_ok.1 hout
  obtain ⟨_, c₁, hfirst, hout⟩ := Play.bind_ok.1 hout
  obtain ⟨_, c₂, hsecond, hout⟩ := Play.bind_ok.1 hout
  obtain ⟨_, c₃, hthird, hout⟩ := Play.bind_ok.1 hout
  obtain ⟨heq, rfl⟩ := Play.pure_ok.1 hout
  cases heq
  exact ⟨l₀, c₀, l₁, c₁, l₂, c₂, l₃, c₃, b, hopen, hfirst, hsecond, hthird, hzero, hone, htwo, hb,
    hall.1, hall.2⟩

end CardLesson
