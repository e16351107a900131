/-
# A course stays within bounds

Paying for a card takes no more HP than there are and leaves genki that is not below zero, and the
end of a turn scores good impression before some of it is lost, so moves keep the bounds that
effects keep. From the opening of a lesson on, every state that a course reaches is in its bounds,
and its score is at least that of every state before it.

Key definitions: `Status.Sound`.
Key theorems: `actualCost_nonneg`, `paying_advances`, `nextTurn_advances`, `Made.advances`,
`Course.advances`, `Opened.inBounds`, `course_in_bounds`.
-/
import CardLesson.Proofs.Bounds
import CardLesson.Proofs.Course
import CardLesson.Proofs.Opening

namespace CardLesson

variable {l l' : Lesson} {c c' : Chance} {ms : List Moment}

/-! ### Paying for a card -/

/-- A cost is never below zero. -/
theorem actualCost_nonneg {card : Card} {buffs : List Buff} {cost : Int}
    (h : actualCost card buffs = .ok cost) : 0 ≤ cost := by
  have bind {α : Type} {x : Except Fault α} {f : α → Except Fault Int} {n : Int}
      (hf : ∀ a n, f a = .ok n → 0 ≤ n) (h : (x >>= f) = .ok n) : 0 ≤ n := by
    obtain ⟨a, -, h⟩ := Play.except_bind_ok.1 h
    exact hf a n h
  have last (q : Quantity) (n : Int)
      (h : (do return max 0 (← q.truncate) : Except Fault Int) = .ok n) : 0 ≤ n :=
    bind (fun a n h => by
      obtain rfl := Play.except_pure_ok.1 h
      exact Int.le_max_left 0 a) h
  have doubled (q : Quantity) (n : Int) (h : (do
      let q ← if buffs.any (·.is .doubleCost) then q.mul (.whole Balance.doubleCostRate) else pure q
      return max 0 (← q.truncate) : Except Fault Int) = .ok n) : 0 ≤ n := by
    dsimp only at h
    split at h
    · exact bind last h
    · exact bind last h
  unfold actualCost at h
  iterate 4 refine bind (fun _ _ h => ?_) h
  dsimp only at h
  split at h
  · exact bind (fun _ _ => bind fun _ _ => bind doubled) h
  · exact bind doubled h

/-- Only HP are an obstacle that HP and genki can be. -/
theorem hpObstacle_ok {available : Quantity} {cost : Int} {o : Option Lesson.Obstacle}
    (h : Lesson.hpObstacle available cost = .ok o) :
    o = if available.lt (.whole cost) then some .hp else none := by
  unfold Lesson.hpObstacle at h
  split at h
  · next hlt =>
    obtain ⟨_, -, h⟩ := Play.except_bind_ok.1 h
    obtain ⟨_, -, h⟩ := Play.except_bind_ok.1 h
    rw [if_pos hlt, Play.except_pure_ok.1 h]
  · next hlt => rw [if_neg hlt, Play.except_pure_ok.1 h]

/-- What can be paid for: a cost in HP from the HP, any other from HP and genki together. -/
theorem cost_le_of_obstacle_none {card : Card} {cost hp genki : Int} (hhp : l.hp = .whole hp)
    (hgenki : l.genki = .whole genki) (h : l.obstacle card cost = .ok none) :
    cost ≤ match card.costType with
      | .hp => hp
      | .normal => hp + genki := by
  unfold Lesson.obstacle at h
  obtain ⟨_, -, h⟩ := Play.except_bind_ok.1 h
  split at h
  · cases Play.except_pure_ok.1 h
  obtain ⟨_, -, h⟩ := Play.except_bind_ok.1 h
  split at h
  · cases Play.except_pure_ok.1 h
  cases htype : card.costType with
  | hp =>
    rw [htype] at h
    have h := hpObstacle_ok h
    rw [hhp, Quantity.lt_whole] at h
    split at h
    · cases h
    · next hlt => simpa using hlt
  | normal =>
    rw [htype] at h
    obtain ⟨q, hq, h⟩ := Play.except_bind_ok.1 h
    rw [hhp, hgenki] at hq
    cases hq
    have h := hpObstacle_ok h
    rw [Quantity.lt_whole] at h
    split at h
    · cases h
    · next hlt => simpa using hlt

/-- The HP that a payment takes are there, and the genki that it leaves are not below zero. -/
theorem payment_spec {card : Card} {cost : Int} {p : Payment} (hb : l.InBounds) (hcost : 0 ≤ cost)
    (payable : l.obstacle card cost = .ok none) (pays : Payment.of l card cost = .ok p) :
    p.genkiLeft.IsCount ∧
      ∃ taken hp : Int, p.hp = .whole taken ∧ l.hp = .whole hp ∧ 0 ≤ taken ∧ taken ≤ hp := by
  obtain ⟨hp, _, hhp, -, hzero, -⟩ := hb.hp
  obtain ⟨genki, hgenki⟩ := hb.genki
  have hle := cost_le_of_obstacle_none hhp hgenki payable
  unfold Payment.of at pays
  split at pays
  · next htype =>
    rw [htype] at hle
    cases pays
    exact ⟨hb.genki, cost, hp, rfl, hhp, hcost, hle⟩
  · next htype =>
    rw [htype] at hle
    rw [hgenki] at pays
    obtain ⟨short, hshort, pays⟩ := Play.except_bind_ok.1 pays
    obtain ⟨rest, hrest, pays⟩ := Play.except_bind_ok.1 pays
    cases hshort
    cases hrest
    obtain rfl := Play.except_pure_ok.1 pays
    refine ⟨?_, max 0 (cost - genki), hp, Quantity.larger_whole 0 _, hhp, Int.le_max_left _ _, ?_⟩
    · show (Quantity.larger (.whole 0) (.whole (genki - cost))).IsCount
      rw [Quantity.larger_whole]
      exact Quantity.isCount_whole (Int.le_max_left _ _)
    · dsimp only at hle
      omega

/-- Paying for a card keeps the bounds. -/
theorem paying_advances {copy : Copy} {cost : Int} {p : Payment} {hp plays : Quantity}
    (hb : l.InBounds) (left : l.isPlayedOut = false)
    (costs : actualCost copy.card l.buffs = .ok cost)
    (payable : l.obstacle copy.card cost = .ok none) (pays : Payment.of l copy.card cost = .ok p)
    (hhp : l.hp.sub p.hp = .ok hp) (hplays : l.cardsPlayed.add 1 = .ok plays) :
    Advances l (l.paying copy p hp plays) := by
  obtain ⟨hgenki, taken, before, htaken, hbefore, hzero, hle⟩ :=
    payment_spec hb (actualCost_nonneg costs) payable pays
  obtain ⟨before', most, hbefore', hmost, -, hbound⟩ := hb.hp
  cases hbefore.symm.trans hbefore'
  rw [hbefore, htaken] at hhp
  cases hhp
  have hplayed : l.cardsPlayed = 0 := by
    refine hb.cardsPlayed.resolve_right fun hone => ?_
    rw [Lesson.isPlayedOut, hone] at left
    cases left
  rw [hplayed] at hplays
  cases hplays
  exact .of_score_eq
    { hb with
      genki := hgenki
      hp := ⟨before - taken, most, rfl, hmost, by omega, by omega⟩
      cardsPlayed := .inr rfl } rfl

/-! ### Ending a turn -/

section

variable {next : Lesson}

/-- The score goes up by the good impression. -/
theorem Turned.score_eq (turned : Turned l next) {m g : Int} (hm : l.score = .whole m)
    (hg : l.goodImpression = .whole g) : next.score = .whole (m + g) := by
  obtain ⟨gained, hgained, hadd⟩ := turned.score
  rw [hg] at hgained
  cases hgained
  rw [hm] at hadd
  have hscore := (Except.ok.inj hadd).symm
  rw [hscore]
  exact congrArg Quantity.whole (by simp [Balance.impressionScorePerStack])

theorem Turned.goodImpression_isCount (turned : Turned l next) (hb : l.InBounds) :
    next.goodImpression.IsCount := by
  obtain ⟨g, hg⟩ := hb.goodImpression
  obtain ⟨q, hsub, hlarger⟩ := turned.goodImpression
  rw [hlarger]
  rw [hg] at hsub
  cases hsub
  show (Quantity.larger (.whole 0) (.whole _)).IsCount
  rw [Quantity.larger_whole]
  exact Quantity.isCount_whole (Int.le_max_left _ _)

/-- Recovery stops at the maximum. -/
theorem Turned.hp_inBounds (turned : Turned l next) (hb : l.InBounds) :
    ∃ hp most : Int, next.hp = .whole hp ∧ l.maxHp = .whole most ∧ 0 ≤ hp ∧ hp ≤ most := by
  obtain ⟨hp, most, hhp, hmost, hzero, hle⟩ := hb.hp
  rcases turned.hp with hkeep | ⟨q, hadd, hmin⟩
  · exact ⟨hp, most, hkeep.trans hhp, hmost, hzero, hle⟩
  · rw [hhp] at hadd
    cases hadd
    rw [hmost, Quantity.smaller_whole] at hmin
    refine ⟨_, most, hmin, hmost, ?_, Int.min_le_left _ _⟩
    have hrecover : 0 ≤ hp + Balance.skipRecoveryHp := Int.add_nonneg hzero (by decide)
    exact Int.le_min.2 ⟨Int.le_trans hzero hle, hrecover⟩

/-- The end of a turn keeps the bounds, as long as it was not the last turn. -/
theorem nextTurn_advances (hb : l.InBounds) (left : l.isFinished = false)
    (turned : Turned l next) : Advances l next := by
  obtain ⟨t, most, ht, hmost, hone, -⟩ := hb.turn
  obtain ⟨m, hm⟩ := hb.score
  obtain ⟨g, hg⟩ := hb.goodImpression
  have hlt : t < most := by
    rw [Lesson.isFinished, ht, hmost, Quantity.le_whole] at left
    simpa using left
  have hturn : next.turn = .whole (t + 1) := by
    have hadd := turned.turn
    rw [ht] at hadd
    exact (Except.ok.inj hadd).symm
  have hscore := turned.score_eq hm hg
  have hhp := turned.hp_inBounds hb
  have hdecayed := turned.goodImpression_isCount hb
  refine ⟨?_, m, m + g, hm, hscore, by omega⟩
  rw [turned.frame]
  exact
    { hb with
      turn := ⟨t + 1, most, hturn, hmost, by omega, by omega⟩
      hp := hhp
      goodImpression := hdecayed
      score := hscore ▸ Quantity.isCount_whole (by omega)
      cardsPlayed := .inl rfl }

end

/-! ### Moves and courses -/

theorem Worked.advances {es : List Effect} (h : Worked es l c ms l' c') (hb : l.InBounds)
    (hl : l.Carries generous) (hes : ∀ e ∈ es, e.every generous = true) : Advances l l' := by
  obtain ⟨l₁, lines, hrun, rfl⟩ := h
  refine Advances.withLines (hrun.advances hb hl fun t ht => ?_) lines
  obtain ⟨e, he, rfl⟩ := List.mem_map.1 ht
  exact hes e he

/-- **A move keeps the bounds**, and the score does not fall in it. -/
theorem Made.advances {move : Move} (h : Made l c move ms l' c') (hb : l.InBounds)
    (hl : l.Carries generous) : Advances l l' := by
  cases h with
  | rejected _ => exact .refl hb
  | @played id copy cost pay hp plays fired l₁ l₂ l₃ c₁ c₂ c₃ ms₁ ms₂ ms₃ lines left found costs
      payable pays hhp hplays main reacting fires firing =>
    have hpaid := paying_advances hb left costs payable pays hhp hplays
    have hcarried : (l.paying copy pay hp plays).Carries generous := hl.paying
    have hcopy := Effect.everyOf_iff.1
      (hl.zones copy (mem_zones_of_mem_hand (mem_of_findInHand found)))
    have h₁ := main.advances hpaid.bounds hcarried hcopy
    have hl₁ := main.carries hcarried hcopy
    have hreactions : ∀ e ∈ l.costReactions pay, e.every generous = true :=
      fun e he => hl.of_triggered (mem_costReactions he)
    have h₂ := reacting.advances h₁.bounds hl₁ hreactions
    have hl₂ := reacting.carries hl₁ hreactions
    have h₃ := firing.advances h₂.bounds hl₂ fun e he => hl.of_triggered (mem_fired fires he)
    have hput : Advances l₃ (l₃.putAway copy) := by
      unfold Lesson.putAway
      split
      · exact .of_score_eq { h₃.bounds with } rfl
      · exact .of_score_eq { h₃.bounds with } rfl
    exact (((hpaid.trans h₁).trans (h₂.trans h₃)).trans hput).withLines lines
  | @ended schedule next _ c₁ _ _ left turns starting =>
    have hturned := (nextTurn_ok turns).1
    have hnext := hl.turned hturned
    have hadvance := nextTurn_advances hb left hturned
    exact hadvance.trans
      (starting.advances hadvance.bounds hnext fun e he => hnext.of_triggered (mem_reactionsOf he))
  | @drunk id drink drinks l₁ _ _ lines taken drinking =>
    obtain ⟨hdrinks, hdrink⟩ := hl.drinking taken
    have hstart : Advances l { l with drinks } := .of_score_eq { hb with } rfl
    have hrun := drinking.advances hstart.bounds hdrinks (Effect.everyOf_iff.1 hdrink)
    exact (hstart.trans hrun).withLines lines

/-- **A course keeps the bounds**, and the score does not fall in it. -/
theorem Course.advances {moves : List Move} (h : Course l c moves ms l' c') (hb : l.InBounds)
    (hl : l.Carries generous) : Advances l l' := by
  induction h with
  | nil => exact .refl hb
  | cons first _ ih =>
    have hfirst := first.advances hb hl
    exact hfirst.trans (ih hfirst.bounds (first.carries hl).1)

/-! ### From the opening on -/

/-- HP are whole numbers from zero on, and stats are numbers that are not below zero. -/
structure Status.Sound (status : Status) : Prop where
  hp : ∃ n : Nat, status.hp = .whole n
  maxHp : ∃ n : Nat, status.maxHp = .whole n
  vocal : status.vocal.isAmount = true
  dance : status.dance.isAmount = true
  visual : status.visual.isAmount = true

/-- A lesson is opened within its bounds. -/
theorem Opened.inBounds {status : Status} {deck : List Copy} {drinks : List Drink} {turns : Int}
    {catalog : Catalog} (h : Opened status deck drinks (.whole turns) catalog l)
    (hstatus : status.Sound) (hturns : 1 ≤ turns) : l.InBounds := by
  have zero : (0 : Quantity).IsCount := ⟨0, rfl⟩
  have hhp : ∃ hp most : Int, l.hp = .whole hp ∧ l.maxHp = .whole most ∧ 0 ≤ hp ∧ hp ≤ most := by
    obtain ⟨m, hm⟩ := hstatus.hp
    obtain ⟨most, hmost⟩ := hstatus.maxHp
    obtain ⟨hp, hhp, hmin⟩ := h.hp
    have hmaxHp := h.maxHp
    rw [hm] at hhp
    rw [hmost] at hmaxHp
    cases hhp
    have hmaxHp := (Except.ok.inj hmaxHp).symm
    rw [hmaxHp, Quantity.smaller_whole] at hmin
    exact ⟨_, most, hmin, hmaxHp, by omega, by omega⟩
  have hvocal := Datum.quantity_notNegative hstatus.vocal h.vocal
  have hdance := Datum.quantity_notNegative hstatus.dance h.dance
  have hvisual := Datum.quantity_notNegative hstatus.visual h.visual
  rw [h.frame]
  exact ⟨⟨1, turns, rfl, rfl, Int.le_refl 1, hturns⟩, hhp, zero, zero, zero, zero, zero, zero,
    .inl rfl, hvocal, hdance, hvisual⟩

/-- **A lesson stays within its bounds and its score never falls.** The effects of the cards, the
drinks and the catalog hold no numbers below zero; then every state that is reached from the opening
is in its bounds, and so is every state that is reached from it, with a score that is no lower. -/
theorem course_in_bounds {status : Status} {schedule : Schedule} {deck : List Copy}
    {drinks : List Drink} {turns : Int} {catalog : Catalog} {moves more : List Move}
    {l₀ l l' : Lesson} {c₀ c₁ c c' : Chance} (hstatus : status.Sound) (hturns : 1 ≤ turns)
    (hcards : ∀ x ∈ deck ++ catalog.map (·.2), x.card.every generous = true)
    (hdrinks : ∀ d ∈ drinks, Effect.everyOf generous d.effects = true)
    (hopen : openLesson status schedule deck drinks (.whole turns) catalog c₀ = (.ok l₀, c₁))
    (hmoves : Lesson.course moves l₀ c₁ = (.ok l, c))
    (hmore : Lesson.course more l c = (.ok l', c')) :
    l.InBounds ∧ l'.InBounds ∧ l.score.le l'.score = true := by
  obtain ⟨hopened, -⟩ := openLesson_ok hopen
  obtain ⟨ms, hrun⟩ := course_ok hmoves
  obtain ⟨ms', hrun'⟩ := course_ok hmore
  have hl := hopened.carries hcards hdrinks
  have hbefore := hrun.advances (hopened.inBounds hstatus hturns) hl
  have hafter := hrun'.advances hbefore.bounds (hrun.carries hl).1
  exact ⟨hbefore.bounds, hafter.bounds, hafter.score_le⟩

/-- Scores, raises later gains of genki, and gains genki at the start of each later turn. -/
def steadyCard : Card :=
  { id := .text "s", name := .text "S", cost := 3
    effects := [.score (.whole 5) .null,
      .of { kind := .known .cardBaseValue, value := .whole 1, param := .text "genki" },
      .reactive (.known .turnStart) (.gain (.known .genki) (.whole 2)) (.whole (-1)) none] }

/-- The card is played, and then the turn ends. -/
theorem course_in_bounds_steady : ∃ l₀ c₁ l c l' c',
    openLesson {} [] (Copy.deal 0 [steadyCard]) [] (.whole 12) [] stillChance = (.ok l₀, c₁) ∧
      Lesson.course [.play (.text "s")] l₀ c₁ = (.ok l, c) ∧
      Lesson.course [.endTurn []] l c = (.ok l', c') ∧
      l.InBounds ∧ l'.InBounds ∧ l.score.le l'.score = true := by
  let run : Play Lesson := do
    let l₀ ← openLesson {} [] (Copy.deal 0 [steadyCard]) [] (.whole 12) []
    let l ← Lesson.course [.play (.text "s")] l₀
    Lesson.course [.endTurn []] l
  have hok : (run stillChance).1.toOption.isSome = true := by decide +kernel
  rcases hout : run stillChance with ⟨f | l', c'⟩
  · rw [hout] at hok
    cases hok
  · obtain ⟨l₀, c₁, hopen, hout⟩ := Play.bind_ok.1 hout
    obtain ⟨l, c, hmoves, hmore⟩ := Play.bind_ok.1 hout
    have hstatus : ({} : Status).Sound :=
      ⟨⟨30, rfl⟩, ⟨30, rfl⟩, zero_isAmount, zero_isAmount, zero_isAmount⟩
    have hcards : ∀ x ∈ Copy.deal 0 [steadyCard] ++ ([] : Catalog).map (·.2),
        x.card.every generous = true := by
      intro x hx
      simp only [Copy.deal, List.map_nil, List.append_nil, List.mem_singleton] at hx
      rw [hx]
      decide +kernel
    exact ⟨l₀, c₁, l, c, l', c', hopen, hmoves, hmore,
      course_in_bounds hstatus (by decide) hcards (fun d hd => absurd hd List.not_mem_nil) hopen
        hmoves hmore⟩

end CardLesson
