/-
# Effects stay within bounds

Whatever effects are carried out, HP stay between zero and their maximum and the turn within the
turns of the lesson, no pool falls below zero, at most one card is played in a turn, and the score
never falls. This holds where the operations in play are generous, and it needs that of the buffs as
well: their values are added to later gains, and the effects they wait with are carried out later.

Key definitions: `Quantity.IsCount`, `Lesson.InBounds`, `Advances`.
Key theorems: `carryOut_advances`, `Performed.advances`, `Reaches.advances`.
-/
import CardLesson.Proofs.Amounts

namespace CardLesson

/-! ### Counts -/

namespace Quantity

/-- The quantity is a whole number that is not below zero. -/
def IsCount (q : Quantity) : Prop := ∃ n : Nat, q = .whole n

theorem isCount_whole {n : Int} (h : 0 ≤ n) : (Quantity.whole n).IsCount :=
  ⟨n.toNat, by rw [Int.toNat_of_nonneg h]⟩

namespace IsCount

variable {q r : Quantity}

theorem notNegative (h : q.IsCount) : q.NotNegative := by
  obtain ⟨n, rfl⟩ := h
  exact Int.natCast_nonneg n

theorem add (hq : q.IsCount) {n : Int} (hn : 0 ≤ n) (h : q.add (.whole n) = .ok r) :
    r.IsCount := by
  obtain ⟨m, rfl⟩ := hq
  cases h
  exact isCount_whole (Int.add_nonneg (Int.natCast_nonneg m) hn)

theorem mul (hq : q.IsCount) {n : Int} (hn : 0 ≤ n) (h : q.mul (.whole n) = .ok r) :
    r.IsCount := by
  obtain ⟨m, rfl⟩ := hq
  cases h
  exact isCount_whole (Int.mul_nonneg (Int.natCast_nonneg m) hn)

end IsCount
end Quantity

/-- What is left of a whole number. -/
theorem consume_whole {m n : Int} {q : Quantity} (h : consume (.whole m) n = .ok q) :
    q = .whole (max 0 (m - n)) := by
  obtain ⟨left, hleft, h⟩ := Play.except_bind_ok.1 h
  cases hleft
  obtain rfl := Play.except_pure_ok.1 h
  exact Quantity.larger_whole 0 (m - n)

theorem consume_isCount {pool q : Quantity} {n : Int} (hpool : pool.IsCount)
    (h : consume pool n = .ok q) : q.IsCount := by
  obtain ⟨m, rfl⟩ := hpool
  rw [consume_whole h]
  exact Quantity.isCount_whole (Int.le_max_left _ _)

/-! ### The bounds -/

/-- The numbers of a lesson are in their bounds. -/
structure Lesson.InBounds (l : Lesson) : Prop where
  turn : ∃ t most : Int, l.turn = .whole t ∧ l.maxTurns = .whole most ∧ 1 ≤ t ∧ t ≤ most
  hp : ∃ hp most : Int, l.hp = .whole hp ∧ l.maxHp = .whole most ∧ 0 ≤ hp ∧ hp ≤ most
  shield : l.shield.IsCount
  genki : l.genki.IsCount
  goodImpression : l.goodImpression.IsCount
  motivation : l.motivation.IsCount
  concentration : l.concentration.IsCount
  score : l.score.IsCount
  cardsPlayed : l.cardsPlayed = 0 ∨ l.cardsPlayed = 1
  vocal : l.vocal.NotNegative
  dance : l.dance.NotNegative
  visual : l.visual.NotNegative

theorem Lesson.InBounds.statValue {l : Lesson} (h : l.InBounds) : l.statValue.NotNegative := by
  unfold Lesson.statValue
  split
  · exact h.vocal
  · exact h.dance
  · exact h.visual

/-- From one lesson to another that is in its bounds the score does not fall. -/
structure Advances (l l' : Lesson) : Prop where
  bounds : l'.InBounds
  score : ∃ m n : Int, l.score = .whole m ∧ l'.score = .whole n ∧ m ≤ n

namespace Advances

variable {l l' l'' : Lesson}

/-- A lesson with the same score that is in its bounds. -/
theorem of_score_eq (h : l'.InBounds) (hs : l'.score = l.score) : Advances l l' := by
  obtain ⟨n, hn⟩ := h.score
  exact ⟨h, n, n, hs ▸ hn, hn, Int.le_refl _⟩

theorem refl (h : l.InBounds) : Advances l l := of_score_eq h rfl

theorem withLines (h : Advances l l') (lines : List String) : Advances l (l'.withLines lines) :=
  ⟨{ h.bounds with }, h.score⟩

theorem trans (h : Advances l l') (h' : Advances l' l'') : Advances l l'' := by
  obtain ⟨m, n, hm, hn, hle⟩ := h.score
  obtain ⟨m', n', hm', hn', hle'⟩ := h'.score
  cases hn.symm.trans hm'
  exact ⟨h'.bounds, m, n', hm, hn', Int.le_trans hle hle'⟩

theorem score_le (h : Advances l l') : l.score.le l'.score = true := by
  obtain ⟨m, n, hm, hn, hle⟩ := h.score
  rw [hm, hn, Quantity.le_whole, decide_eq_true_eq]
  exact hle

end Advances

/-! ### Effects on pools -/

section

variable {l : Lesson} {op : Operation} {r : Resolution}

theorem addScore_advances (hb : l.InBounds) {amount : Int} (hn : 0 ≤ amount) {l' : Lesson}
    (h : l.addScore amount = .ok l') : Advances l l' := by
  obtain ⟨score, hscore, h⟩ := Play.except_bind_ok.1 h
  obtain rfl := Play.except_pure_ok.1 h
  obtain ⟨m, hm⟩ := hb.score
  rw [hm] at hscore
  cases hscore
  exact ⟨{ hb with score := Quantity.isCount_whole (Int.add_nonneg (Int.natCast_nonneg m) hn) },
    m, m + amount, hm, rfl, by omega⟩

theorem scoreFixed_advances (hb : l.InBounds) (hl : l.Carries generous) (hop : generous op = true)
    (h : scoreFixed l op = .ok r) : Advances l r.lesson := by
  obtain ⟨points, hpoints, h⟩ := Play.except_bind_ok.1 h
  obtain ⟨multiplier, hmultiplier, h⟩ := Play.except_bind_ok.1 h
  obtain ⟨focus, hfocus, h⟩ := Play.except_bind_ok.1 h
  obtain ⟨value, hvalue, h⟩ := Play.except_bind_ok.1 h
  obtain ⟨bonus, hbonus, h⟩ := Play.except_bind_ok.1 h
  obtain ⟨base, hbase, h⟩ := Play.except_bind_ok.1 h
  obtain ⟨factor, hfactor, h⟩ := Play.except_bind_ok.1 h
  obtain ⟨scaled, hscaled, h⟩ := Play.except_bind_ok.1 h
  obtain ⟨amount, hamount, h⟩ := Play.except_bind_ok.1 h
  obtain ⟨l', hscore, h⟩ := Play.except_bind_ok.1 h
  obtain ⟨line, -, h⟩ := Play.except_bind_ok.1 h
  obtain rfl := Play.except_pure_ok.1 h
  have hpoints := hb.concentration.mul (by decide) hpoints
  have hfocus := hpoints.notNegative.mul (multiplier_notNegative hop hmultiplier) hfocus
  have hbonus : (Quantity.whole bonus).NotNegative := hfocus.floor hbonus
  have hbase := (value_notNegative hop zero_isAmount hvalue).add hbonus hbase
  have hfactor : (Quantity.real factor).NotNegative :=
    scoreMultiplier_notNegative hl hb.statValue hfactor
  exact addScore_advances hb ((hbase.mul hfactor hscaled).floor hamount) hscore

theorem scoreScaled_advances (hb : l.InBounds) (hl : l.Carries generous) (hop : generous op = true)
    {pool : Quantity} (hpool : pool.IsCount) {label : String}
    (h : scoreScaled l op pool label = .ok r) : Advances l r.lesson := by
  obtain ⟨ratio, hratio, h⟩ := Play.except_bind_ok.1 h
  obtain ⟨share, hshare, h⟩ := Play.except_bind_ok.1 h
  obtain ⟨factor, hfactor, h⟩ := Play.except_bind_ok.1 h
  obtain ⟨scaled, hscaled, h⟩ := Play.except_bind_ok.1 h
  obtain ⟨amount, hamount, h⟩ := Play.except_bind_ok.1 h
  obtain ⟨line, -, h⟩ := Play.except_bind_ok.1 h
  obtain ⟨l', hscore, h⟩ := Play.except_bind_ok.1 h
  obtain rfl := Play.except_pure_ok.1 h
  have hshare := hpool.notNegative.mul (ratio_notNegative hop hratio) hshare
  have hfactor : (Quantity.real factor).NotNegative :=
    scoreMultiplier_notNegative hl hb.statValue hfactor
  exact addScore_advances hb ((hshare.mul hfactor hscaled).floor hamount) hscore

theorem gainGenki_advances (hb : l.InBounds) (hl : l.Carries generous) (hop : generous op = true)
    (h : gainGenki l op = .ok r) : Advances l r.lesson := by
  unfold gainGenki at h
  split at h
  · obtain rfl := Play.except_pure_ok.1 h
    exact .refl hb
  · obtain ⟨flat, hflat, h⟩ := Play.except_bind_ok.1 h
    obtain ⟨points, hpoints, h⟩ := Play.except_bind_ok.1 h
    obtain ⟨bonus, hbonus, h⟩ := Play.except_bind_ok.1 h
    obtain ⟨line, -, h⟩ := Play.except_bind_ok.1 h
    obtain ⟨gained, hgained, h⟩ := Play.except_bind_ok.1 h
    obtain ⟨genki, hgenki, h⟩ := Play.except_bind_ok.1 h
    obtain rfl := Play.except_pure_ok.1 h
    have hpoints := hb.motivation.mul (by decide) hpoints
    have hbonus : bonus.IsCount := by
      split at hbonus
      · exact hpoints.mul (by decide) hbonus
      · exact hpoints.mul (by decide) hbonus
    have hgained := hb.genki.add (adjustedValue_nonneg hl hop hflat) hgained
    obtain ⟨n, rfl⟩ := hbonus
    exact .of_score_eq { hb with genki := hgained.add (Int.natCast_nonneg n) hgenki } rfl

theorem gainImpression_advances (hb : l.InBounds) (hl : l.Carries generous)
    (hop : generous op = true) (h : gainImpression l op = .ok r) : Advances l r.lesson := by
  unfold gainImpression at h
  obtain ⟨sum, hsum, h⟩ := Play.except_bind_ok.1 h
  obtain ⟨factor, hfactor, h⟩ := Play.except_bind_ok.1 h
  obtain ⟨value, hvalue, h⟩ := Play.except_bind_ok.1 h
  obtain ⟨scaled, hscaled, h⟩ := Play.except_bind_ok.1 h
  obtain ⟨amount, hamount, h⟩ := Play.except_bind_ok.1 h
  obtain ⟨line, -, h⟩ := Play.except_bind_ok.1 h
  obtain ⟨goodImpression, hgained, h⟩ := Play.except_bind_ok.1 h
  obtain rfl := Play.except_pure_ok.1 h
  have hfactor : (Quantity.real factor).NotNegative :=
    onePlusPercent_notNegative (sumBuffs_notNegative hl hsum) hfactor
  have hvalue : (Quantity.whole value).NotNegative := adjustedValue_nonneg hl hop hvalue
  have hamount := (hvalue.mul hfactor hscaled).floor hamount
  exact .of_score_eq { hb with goodImpression := hb.goodImpression.add hamount hgained } rfl

theorem multiplyImpression_advances (hb : l.InBounds) (hop : generous op = true)
    (h : multiplyImpression l op = .ok r) : Advances l r.lesson := by
  obtain ⟨factor, hfactor, h⟩ := Play.except_bind_ok.1 h
  obtain ⟨scaled, hscaled, h⟩ := Play.except_bind_ok.1 h
  obtain ⟨product, hproduct, h⟩ := Play.except_bind_ok.1 h
  obtain ⟨times, -, h⟩ := Play.except_bind_ok.1 h
  obtain ⟨line, -, h⟩ := Play.except_bind_ok.1 h
  obtain rfl := Play.except_pure_ok.1 h
  have hfactor := value_notNegative hop one_isAmount hfactor
  have hscaled := hb.goodImpression.notNegative.mul hfactor hscaled
  exact .of_score_eq
    { hb with goodImpression := Quantity.isCount_whole (hscaled.floor hproduct) } rfl

theorem halveGenki_advances (hb : l.InBounds) (h : halveGenki l = .ok r) : Advances l r.lesson := by
  obtain ⟨half, hhalf, h⟩ := Play.except_bind_ok.1 h
  obtain ⟨left, hleft, h⟩ := Play.except_bind_ok.1 h
  obtain ⟨line, -, h⟩ := Play.except_bind_ok.1 h
  obtain rfl := Play.except_pure_ok.1 h
  have hrate : (Quantity.real (.ofRatio false 1 2)).NotNegative :=
    Double.ofRatio_notNegative (s := false) (n := 1) nofun 2
  have hhalf := hb.genki.notNegative.mul hrate hhalf
  exact .of_score_eq { hb with genki := Quantity.isCount_whole (hhalf.floor hleft) } rfl

/-- A rule that reads a whole number of a generous operation and sets a pool by it. -/
theorem wholeValue_advances {f : Int → Quantity → String → Resolution}
    {pool : Int → Except Fault Quantity} {line : Int → Quantity → Except Fault String}
    (hop : generous op = true)
    (hf : ∀ n q text, 0 ≤ n → pool n = .ok q → Advances l (f n q text).lesson)
    (h : (do
      let n ← op.wholeValue
      let q ← pool n
      let text ← line n q
      return f n q text) = .ok r) : Advances l r.lesson := by
  obtain ⟨n, hn, h⟩ := Play.except_bind_ok.1 h
  obtain ⟨q, hq, h⟩ := Play.except_bind_ok.1 h
  obtain ⟨text, -, h⟩ := Play.except_bind_ok.1 h
  obtain rfl := Play.except_pure_ok.1 h
  exact hf n q text (wholeValue_nonneg hop hn) hq

theorem gainMotivation_advances (hb : l.InBounds) (hl : l.Carries generous)
    (hop : generous op = true) (h : gainMotivation l op = .ok r) : Advances l r.lesson := by
  obtain ⟨amount, hamount, h⟩ := Play.except_bind_ok.1 h
  obtain ⟨motivation, hgained, h⟩ := Play.except_bind_ok.1 h
  obtain ⟨line, -, h⟩ := Play.except_bind_ok.1 h
  obtain rfl := Play.except_pure_ok.1 h
  have hamount := adjustedValue_nonneg hl hop hamount
  exact .of_score_eq { hb with motivation := hb.motivation.add hamount hgained } rfl

theorem setGenki_advances (hb : l.InBounds) (h : setGenki l op = .ok r) : Advances l r.lesson := by
  obtain ⟨n, -, h⟩ := Play.except_bind_ok.1 h
  obtain ⟨line, -, h⟩ := Play.except_bind_ok.1 h
  obtain rfl := Play.except_pure_ok.1 h
  exact .of_score_eq { hb with genki := Quantity.isCount_whole (Int.le_max_left 0 n) } rfl

theorem consumeHp_inBounds (hb : l.InBounds) {n : Int} (hn : 0 ≤ n) {hp : Quantity}
    (h : consume l.hp n = .ok hp) : ({ l with hp } : Lesson).InBounds := by
  obtain ⟨m, most, hm, hmost, hzero, hle⟩ := hb.hp
  rw [hm] at h
  exact { hb with hp := ⟨_, most, consume_whole h, hmost, Int.le_max_left _ _, by omega⟩ }

theorem addPlays_inBounds (hb : l.InBounds) {n : Int} (hn : 0 ≤ n) {cardsPlayed : Quantity}
    (h : consume l.cardsPlayed n = .ok cardsPlayed) :
    ({ l with cardsPlayed } : Lesson).InBounds := by
  refine { hb with cardsPlayed := ?_ }
  rcases hb.cardsPlayed with hplayed | hplayed
  · rw [hplayed] at h
    have hleft := consume_whole (m := 0) h
    rw [show max 0 (0 - n) = 0 by omega] at hleft
    exact .inl hleft
  · rw [hplayed] at h
    have hleft := consume_whole (m := 1) h
    rcases Int.lt_or_le 0 n with hpos | hle
    · rw [show max 0 (1 - n) = 0 by omega] at hleft
      exact .inl hleft
    · rw [show max 0 (1 - n) = 1 by omega] at hleft
      exact .inr hleft

theorem addTurns_inBounds (hb : l.InBounds) {n : Int} (hn : 0 ≤ n) {maxTurns : Quantity}
    (h : l.maxTurns.add (.whole n) = .ok maxTurns) : ({ l with maxTurns } : Lesson).InBounds := by
  obtain ⟨t, most, ht, hmost, hone, hle⟩ := hb.turn
  rw [hmost] at h
  cases h
  exact { hb with turn := ⟨t, most + n, ht, rfl, hone, by omega⟩ }

theorem endLesson_inBounds (hb : l.InBounds) :
    ({ l with maxTurns := l.turn } : Lesson).InBounds := by
  obtain ⟨t, _, ht, -, hone, -⟩ := hb.turn
  exact { hb with turn := ⟨t, t, ht, ht, hone, Int.le_refl t⟩ }

end

variable {l l' : Lesson} {c c' : Chance} {ms : List Moment}

/-- **Effects on pools keep the bounds.** -/
theorem carryOut_advances {op : Operation} {tr : Option Effect} {k : EffectKind} {r : Resolution}
    (hk : k.isPool = true) (hb : l.InBounds) (hl : l.Carries generous) (hop : generous op = true)
    (h : carryOut idleResolver l op tr k c = (.ok r, c')) : Advances l r.lesson := by
  have lift {x : Except Fault Resolution} (hx : x = .ok r → Advances l r.lesson)
      (h : (liftM x : Play Resolution) c = (.ok r, c')) : Advances l r.lesson :=
    hx (Play.except_ok.1 h).1
  cases k <;> try cases hk
  all_goals unfold carryOut at h
  case scoreFixed => exact lift (scoreFixed_advances hb hl hop) h
  case scoreScaleGenki => exact lift (scoreScaled_advances hb hl hop hb.genki) h
  case scoreScaleImpression => exact lift (scoreScaled_advances hb hl hop hb.goodImpression) h
  case scoreScaleMotivation => exact lift (scoreScaled_advances hb hl hop hb.motivation) h
  case genki => exact lift (gainGenki_advances hb hl hop) h
  case impression => exact lift (gainImpression_advances hb hl hop) h
  case motivation => exact lift (gainMotivation_advances hb hl hop) h
  case halfGenki => exact lift (halveGenki_advances hb) h
  case setGenki => exact lift (setGenki_advances hb) h
  case multiplyImpression => exact lift (multiplyImpression_advances hb hop) h
  case concentration =>
    exact lift (wholeValue_advances hop fun _ _ _ hn hq =>
      .of_score_eq { hb with concentration := hb.concentration.add hn hq } rfl) h
  case shield =>
    exact lift (wholeValue_advances hop fun _ _ _ hn hq =>
      .of_score_eq { hb with shield := hb.shield.add hn hq } rfl) h
  case consumeHp =>
    exact lift (wholeValue_advances hop fun _ _ _ hn hq =>
      .of_score_eq (consumeHp_inBounds hb hn hq) rfl) h
  case consumeMotivation =>
    exact lift (wholeValue_advances hop fun _ _ _ _ hq =>
      .of_score_eq { hb with motivation := consume_isCount hb.motivation hq } rfl) h
  case consumeImpression =>
    exact lift (wholeValue_advances hop fun _ _ _ _ hq =>
      .of_score_eq { hb with goodImpression := consume_isCount hb.goodImpression hq } rfl) h
  case addCardPlayCount =>
    exact lift (wholeValue_advances hop fun _ _ _ hn hq =>
      .of_score_eq (addPlays_inBounds hb hn hq) rfl) h
  case addTurn =>
    exact lift (wholeValue_advances hop fun _ _ _ hn hq =>
      .of_score_eq (addTurns_inBounds hb hn hq) rfl) h
  case endLesson =>
    obtain ⟨rfl, rfl⟩ := Play.pure_ok.1 h
    exact .of_score_eq (endLesson_inBounds hb) rfl

/-! ### Runs -/

/-- A task whose operations are generous keeps the bounds. -/
theorem Performed.advances {t : Task} {new : List Task} (h : Performed l c t new l' c')
    (hb : l.InBounds) (hl : l.Carries generous) (ht : t.every generous = true) : Advances l l' := by
  cases h with
  | pools hk _ hr => exact carryOut_advances hk hb hl (Effect.every_iff.1 ht).1 hr
  | _ => exact .of_score_eq { hb with } rfl

/-- **A run keeps the bounds**, and the score does not fall in it. -/
theorem Reaches.advances {s s' : Stage} (h : Reaches s ms s') (hb : s.lesson.InBounds)
    (hl : s.lesson.Carries generous) (ht : ∀ t ∈ s.todo, t.every generous = true) :
    Advances s.lesson s'.lesson := by
  induction h with
  | refl => exact .refl hb
  | @step t rest new l l' c c' ms s now _ ih =>
    have htask := ht t List.mem_cons_self
    have hstep := (perform_spec now).advances hb hl htask
    obtain ⟨hl', hnew⟩ := (perform_spec now).carries hl htask
    refine hstep.trans (ih hstep.bounds hl' fun t' ht' => ?_)
    rcases List.mem_append.1 ht' with ht' | ht'
    · exact hnew t' ht'
    · exact ht t' (List.mem_cons_of_mem t ht')

end CardLesson
