/-
# Cards that a check lets through are safe to play

A lesson is sound when its numbers are in their bounds and all that it holds is usable. From a sound
lesson every move leads to a sound lesson again, or it fails because something grew beyond what can
be held: a number, or the nesting of triggered cards.

A check of a deck is not enough for a sound lesson, since it does not look at amounts: a gain below
zero takes a pool below zero. What the check does not look at is `Card.fit`.

The lemmas about single moves do not take soundness as a hypothesis: it is the `given` of what they
pardon, so that they also tell what no move fails with from any lesson whatsoever.

Key definitions: `Fault.isExcess`, `Pardoned`, `Safe`, `Lesson.Sound`, `Schedule.entryAt`,
`Schedule.Sound`, `Drink.Fit`.
Key theorems: `applyEffects_safe`, `make_safe`, `course_safe`, `openLesson_returns`,
`checked_deck_is_safe`, `debt_is_let_through`.
-/
import CardLesson.Proofs.Checked
import CardLesson.Proofs.CourseBounds
import CardLesson.Proofs.Reliable

namespace CardLesson

/-! ### Faults that cannot be ruled out -/

/-- Whether something grew beyond what can be held: a number, or the nesting of triggered cards. -/
def Fault.isExcess : Fault → Bool
  | .tooDeep => true
  | f => f.isOverflow

/-- What is excused is pardoned, and so is a nesting that is too deep. -/
def Pardoned (given : Prop) (f : Fault) : Prop := Excused given f ∨ f = .tooDeep

/-- As long as `given` holds, only an excess is pardoned. -/
theorem Pardoned.isExcess {given : Prop} {f : Fault} (h : Pardoned given f) (hg : given) :
    f.isExcess = true := by
  rcases h with h | rfl
  · have hover := h.isOverflow hg
    cases f with
    | tooDeep => rfl
    | _ => exact hover
  · rfl

/-- Whatever is given, a schedule that names no stat is not pardoned. -/
theorem Pardoned.ne_notAnAttribute {given : Prop} {f : Fault} (h : Pardoned given f) (raw : Datum) :
    f ≠ .badValue (.notAnAttribute raw) := by
  rintro rfl
  rcases h with h | h
  · exact h.not_foreign (.notAnAttribute raw)
  · cases h

/-- The computation fails only with what is pardoned: as long as `given` holds, when something grew
beyond what can be held. -/
abbrev Safe {α : Type} (given : Prop) (x : Except Fault α) : Prop := FailsOnly (Pardoned given) x

/-- The computation of play fails only with what is pardoned. -/
abbrev SafePlay {α : Type} (given : Prop) (x : Play α) : Prop := PlayFailsOnly (Pardoned given) x

theorem FailsOnly.safe {α : Type} {given : Prop} {x : Except Fault α} (h : Reliable given x) :
    Safe given x := h.mono fun _ => .inl

variable {given : Prop} {l l' : Lesson} {c c' : Chance} {ms : List Moment}

/-! ### Effects -/

/-- Carrying out usable effects is safe. -/
theorem resolve_safe {es : List Effect} (hl : given → l.Bears usable)
    (hes : given → ∀ e ∈ es, usable.effect e) : SafePlay given (resolve es l) := by
  intro c f c' h
  have hfollows := resolveWithin_follows nestingLimit es l c
  have h : resolveWithin nestingLimit es l c = (.error f, c') := h
  rw [lessonAfter_error h] at hfollows
  -- the run stops at a task that fails in a lesson that still bears usable things, or at the limit
  rcases hfollows with ⟨ms, s, hrun, t, rest, c₁, htodo, hfail⟩ | ⟨rfl, -⟩
  · have hbears (hg : given) := hrun.bears usable_handedOn (hl hg) fun t ht => by
      obtain ⟨e, he, rfl⟩ := List.mem_map.1 ht
      exact hes hg e he
    have hreliable : ReliablePlay given (perform s.lesson t) :=
      perform_reliable (fun hg => (hbears hg).1)
        fun hg => (hbears hg).2.1 t (by rw [htodo]; exact List.mem_cons_self)
    exact .inl (hreliable _ _ _ hfail)
  · exact .inr rfl

theorem applyEffects_safe {es : List Effect} (hl : given → l.Bears usable)
    (hes : given → ∀ e ∈ es, usable.effect e) : SafePlay given (applyEffects es l) :=
  (resolve_safe hl hes).bind fun _ _ _ _ => .pure

/-! ### Lines -/

theorem reactionNotes_reliable (es : List Effect) : Reliable given (Lesson.reactionNotes es) := by
  refine .mapM fun e _ => FailsOnly.bind ?_ fun _ _ => .pure
  unfold Tag.printed
  split
  · exact .ok
  · exact Reliable.printedDatum

theorem playedNote_reliable (card : Card) (cost : Int) :
    Reliable given (Lesson.playedNote card cost) := by
  have named (note : String) : Reliable given (do
      let name ← card.name.printed
      return s!"Played {name}{note}") := Reliable.printedDatum.bind fun _ _ => .pure
  exact .ite (fun _ => Reliable.printWhole.bind fun _ _ => FailsOnly.bind .pure fun _ _ => named _)
    fun _ => FailsOnly.bind .pure fun _ _ => named _

theorem turnNotes_reliable (gained turn : Quantity) (skipped : Bool) :
    Reliable given (Lesson.turnNotes gained turn skipped) := by
  have started (scored : List String) (note : String) : Reliable given (do
      let number ← turn.printed
      return scored ++
        [s!"Turn {number} start (Good Impression -{Balance.impressionDecay}){note}"]) :=
    Reliable.printed.bind fun _ _ => .pure
  exact .ite (fun _ => Reliable.printed.bind fun _ _ => FailsOnly.bind .pure fun _ _ => started _ _)
    fun _ => FailsOnly.bind .pure fun _ _ => started _ _

theorem react_safe {es : List Effect} {notes : Except Fault (List String)}
    (hl : given → l.Bears usable) (hes : given → ∀ e ∈ es, usable.effect e)
    (hnotes : Reliable given notes) : SafePlay given (Lesson.react es notes l) :=
  .ite (fun _ => .pure) fun _ => (applyEffects_safe hl hes).bind fun _ _ _ _ =>
    .except_bind hnotes.safe fun _ _ => .pure

/-! ### Plays -/

theorem actualCost_reliable {card : Card} {bs : List Buff} (hbs : given → ∀ b ∈ bs, b.Usable) :
    Reliable given (actualCost card bs) := by
  have sum (k : EffectKind) : Reliable given (Lesson.sumValues (bs.filter (·.is k))) :=
    .sumValues fun hg b hb => hbs hg b (List.mem_filter.1 hb).1
  have last (q : Quantity) : Reliable given (do return max 0 (← q.truncate) : Except Fault Int) :=
    Reliable.truncate.bind fun _ _ => .pure
  have doubled (q : Quantity) : Reliable given (do
      let q ← if bs.any (·.is .doubleCost) then q.mul (.whole Balance.doubleCostRate) else pure q
      return max 0 (← q.truncate) : Except Fault Int) :=
    .ite (fun _ => Reliable.mul.bind fun q _ => last q)
      fun _ => FailsOnly.bind .pure fun q _ => last q
  refine (sum _).bind fun _ _ => (sum _).bind fun _ _ =>
    Reliable.sub.bind fun _ _ => Reliable.add.bind fun _ _ => ?_
  exact .ite (fun _ => Reliable.mul.bind fun _ _ => Reliable.floor.bind fun _ _ =>
      FailsOnly.bind .pure fun q _ => doubled q)
    fun _ => FailsOnly.bind .pure fun q _ => doubled q

/-- What a usable card asks of a pool is a number. -/
theorem requiredAmount_isNumber {x : Copy} (hx : x.Usable) (k : EffectKind) :
    (requiredAmount x.card k).isNumber = true := by
  unfold requiredAmount
  split
  · next e he =>
    have hop := (Effect.live_iff.1 (hx.effects e (List.mem_of_find?_eq_some he))).1
    have hfit := Operation.fit_iff.1 (Bool.and_eq_true_iff.1 hop).1
    have hamount := (generous_iff.1 hfit.generous).1
    exact Datum.orElse_isNumber (Datum.isNumber_of_isAmount hamount) rfl
  · rfl

theorem obstacle_reliable {x : Copy} (hx : given → x.Usable) (cost : Int) :
    Reliable given (l.obstacle x.card cost) := by
  have asks (q : Quantity) (k : EffectKind) :
      Reliable given (Datum.lt (.number q) (requiredAmount x.card k)) :=
    .lt (fun _ => rfl) fun hg => requiredAmount_isNumber (hx hg) k
  refine (asks _ _).bind fun _ _ => .ite (fun _ => .pure) fun _ =>
    (asks _ _).bind fun _ _ => .ite (fun _ => .pure) fun _ => ?_
  have falls (available : Quantity) : Reliable given (Lesson.hpObstacle available cost) :=
    .ite (fun _ => Reliable.printed.bind fun _ _ => Reliable.printWhole.bind fun _ _ => .pure)
      fun _ => .pure
  split
  · exact falls _
  · exact Reliable.add.bind fun _ _ => falls _

theorem payment_reliable (card : Card) (cost : Int) : Reliable given (Payment.of l card cost) := by
  unfold Payment.of
  split
  · exact .ok
  · exact Reliable.sub.bind fun _ _ => Reliable.sub.bind fun _ _ => .pure

theorem firedBy_reliable {bs : List Buff} {type : CardType} (hl : given → l.Bears usable)
    (hbs : given → ∀ b ∈ bs, b.Usable) : Reliable given (l.firedBy bs type) := by
  refine FailsOnly.bind (.filterM fun b hb => ?_) fun _ _ => .pure
  unfold Lesson.matchesPlayed
  split
  · exact .ok
  · next trigger htrigger =>
    refine .ite (fun _ => .ok) fun _ => Reliable.meets hl fun hg => ?_
    exact (hbs hg b hb).triggerCondition trigger htrigger

theorem playPaid_safe {copy : Copy} {cost : Int} {p : Payment} (hl : given → l.Bears usable)
    (hcopy : given → copy.Usable) : SafePlay given (l.playPaid copy cost p) := by
  have hT := usable_handedOn
  have hwaiting : given → ∀ b ∈ l.waiting, b.Usable := fun hg b hb =>
    (hl hg).buffs b (List.mem_filter.1 (List.mem_filter.1 hb).1).1
  refine PlayFailsOnly.except_bind (.safe .sub) fun hp _ =>
    .except_bind (.safe .add) fun plays _ => ?_
  have hpaid : given → (l.paying copy p hp plays).Bears usable := fun hg => (hl hg).paying hT
  have heffects : given → ∀ e ∈ copy.card.effects, usable.effect e := fun hg => (hcopy hg).effects
  refine (applyEffects_safe hpaid heffects).bind fun l₁ c c₁ hmain => ?_
  obtain ⟨ms₁, main⟩ := applyEffects_ok hmain
  have hl₁ := fun hg => (main.bears hT (hpaid hg) (heffects hg)).1
  have hreactions : given → ∀ e ∈ l.costReactions p, usable.effect e :=
    fun hg e he => (hl hg).of_triggered hT (mem_costReactions he)
  refine (react_safe hl₁ hreactions (reactionNotes_reliable _)).bind fun l₂ c₁ c₂ hreact => ?_
  obtain ⟨ms₂, reacting⟩ := react_ok hreact
  have hl₂ := fun hg => (reacting.bears hT (hl₁ hg) (hreactions hg)).1
  refine .except_bind (.safe (firedBy_reliable hl₂ hwaiting)) fun fired hfired => ?_
  have hfiring : given → ∀ e ∈ fired, usable.effect e :=
    fun hg e he => (hl hg).of_triggered hT (mem_fired hfired he)
  exact (react_safe hl₂ hfiring .ok).bind fun _ _ _ _ =>
    .except_bind (.safe (playedNote_reliable _ _)) fun _ _ => .pure

theorem play_safe {id : Datum} (hl : given → l.Bears usable) : SafePlay given (l.play id) := by
  unfold Lesson.play
  refine .ite (fun _ => .pure) fun _ => ?_
  split
  · exact .pure
  · next copy hfound =>
    have hcopy := fun hg => (hl hg).zones copy (mem_zones_of_mem_hand (mem_of_findInHand hfound))
    refine .except_bind (.safe (actualCost_reliable fun hg => (hl hg).buffs)) fun cost _ =>
      .except_bind (.safe (obstacle_reliable hcopy cost)) fun _ _ => .ite (fun _ => .pure)
        fun _ => ?_
    exact .except_bind (.safe (payment_reliable _ _)) fun _ _ =>
      (playPaid_safe hl hcopy).bind fun _ _ _ _ => .pure

/-! ### Ends of turns -/

/-- The entry of a schedule for a turn; its last one stands for all later turns as well. -/
def Schedule.entryAt (schedule : Schedule) (turn : Int) : Option Datum :=
  schedule[(min (max turn 1 - 1) ((schedule.length - 1 : Nat) : Int)).toNat]?

/-- The stat of a turn is the one that its entry names. -/
theorem Schedule.statAt_whole (schedule : Schedule) (turn : Int) :
    schedule.statAt (.whole turn) = match schedule.entryAt turn with
      | none => .ok .vocal
      | some d => Stat.ofDatum d := by
  unfold Schedule.statAt Schedule.entryAt
  cases schedule with
  | nil => rfl
  | cons d rest =>
    rw [if_neg (by simp), Quantity.ofNat_eq, Quantity.larger_whole, Quantity.sub_whole]
    simp only [bind, Except.bind, Quantity.smaller_whole]
    generalize hn : (min (max turn ((1 : Nat) : Int) - ((1 : Nat) : Int))
      (((d :: rest).length - 1 : Nat) : Int)).toNat = n
    have hlt : n < (d :: rest).length := by
      rw [List.length_cons] at hn ⊢
      omega
    rw [List.getElem?_eq_getElem hlt]

/-- Every entry names a stat. -/
def Schedule.Sound (schedule : Schedule) : Prop :=
  ∀ d ∈ schedule, ∃ s : Stat, Named.ofDatum? d = some s

theorem Schedule.Sound.ofDatum {schedule : Schedule} (h : schedule.Sound) {d : Datum}
    (hd : d ∈ schedule) : ∃ s, Stat.ofDatum d = .ok s := by
  obtain ⟨s, hs⟩ := h d hd
  exact ⟨s, by rw [Stat.ofDatum, hs]⟩

/-- A sound schedule has a stat for every turn. -/
theorem Schedule.Sound.statAt {schedule : Schedule} (h : schedule.Sound) (turn : Int) :
    ∃ s, schedule.statAt (.whole turn) = .ok s := by
  rw [schedule.statAt_whole]
  split
  · exact ⟨_, rfl⟩
  · next d hd => exact h.ofDatum (List.mem_of_getElem? hd)

/-- A sound schedule has a stat for whatever is a turn. -/
theorem Schedule.Sound.statAt_reliable {schedule : Schedule} (h : schedule.Sound) {q : Quantity}
    (hq : given → ∃ turn, q = .whole turn) : Reliable given (schedule.statAt q) := by
  by_cases hg : given
  · obtain ⟨turn, rfl⟩ := hq hg
    obtain ⟨s, hs⟩ := h.statAt turn
    exact hs ▸ .ok
  · have hforeign : ¬(Fault.misuse .unsuitable).Foreign := by rintro ⟨⟩
    unfold Schedule.statAt
    refine .ite (fun _ => .ok) fun _ => Reliable.sub.bind fun _ _ => ?_
    split
    · split
      · next d hd =>
        obtain ⟨s, hs⟩ := h.ofDatum (List.mem_of_getElem? hd)
        exact hs ▸ .ok
      · exact Reliable.blamed hg hforeign
    · exact Reliable.blamed hg hforeign

theorem tickBuffs_reliable {bs : List Buff} (hbs : given → ∀ b ∈ bs, b.Usable) :
    Reliable given (tickBuffs bs) := by
  refine FailsOnly.bind (.mapM fun b hb => ?_) fun _ _ => .pure
  exact .ite (fun _ => .ok) fun _ => .ite (fun _ => .ok) fun _ =>
    (Reliable.lessOne fun hg => (hbs hg b hb).duration).bind fun _ _ => .pure

theorem nextTurn_safe {schedule : Schedule} (hl : given → l.Bears usable)
    (hturn : given → ∃ turn, l.turn = .whole turn) (hschedule : schedule.Sound) :
    SafePlay given (l.nextTurn schedule) := by
  unfold Lesson.nextTurn
  -- a turn starts with HP won back, or with the HP as they are
  refine .ite_bind_bind (fun _ => .except_bind (.safe .add) fun _ _ => .pure) (fun _ => .pure)
    fun hp => ?_
  refine (PlayFailsOnly.drawCards fun x hx => .safe (.key fun hg => (hl hg).id_isKey ?_)).bind
    fun drawn _ _ _ => ?_
  · simp only [mem_zones, List.mem_append, List.not_mem_nil, or_false] at hx ⊢
    tauto
  refine .except_bind (.safe .mul) fun gained _ => .except_bind (.safe .add) fun next hnext =>
    .except_bind (.safe (turnNotes_reliable _ _ _)) fun lines _ =>
    .except_bind (.safe .add) fun score _ => .except_bind (.safe ?_) fun stat _ => ?_
  · refine hschedule.statAt_reliable fun hg => ?_
    obtain ⟨turn, hturn⟩ := hturn hg
    rw [hturn] at hnext
    cases hnext
    exact ⟨turn + 1, rfl⟩
  · exact .except_bind (.safe (tickBuffs_reliable fun hg => (hl hg).buffs)) fun _ _ =>
      .except_bind (.safe .sub) fun _ _ => .pure

theorem endTurn_safe {schedule : Schedule} (hl : given → l.Bears usable)
    (hturn : given → ∃ turn, l.turn = .whole turn) (hschedule : schedule.Sound) :
    SafePlay given (l.endTurn schedule) := by
  have hT := usable_handedOn
  refine .ite (fun _ => .pure) fun _ =>
    (nextTurn_safe hl hturn hschedule).bind fun next c c₁ h => ?_
  have hnext := fun hg => (hl hg).turned hT (nextTurn_ok h).1
  have hstarting : given → ∀ e ∈ next.reactionsOf .turnStart, usable.effect e :=
    fun hg e he => (hnext hg).of_triggered hT (mem_reactionsOf he)
  exact (react_safe hnext hstarting .ok).bind fun _ _ _ _ => .pure

/-! ### Courses -/

theorem useDrink_safe {id : Datum} (hl : given → l.Bears usable) :
    SafePlay given (l.useDrink id) := by
  unfold Lesson.useDrink
  split
  · exact .pure
  · next drink drinks htaken =>
    have hdrink := fun hg => (hl hg).drinking usable_handedOn htaken
    refine PlayFailsOnly.bind ?_ fun _ _ _ _ => .pure
    exact (applyEffects_safe (fun hg => (hdrink hg).1) fun hg => (hdrink hg).2).bind
      fun _ _ _ _ => .except_bind (.safe .printedDatum) fun _ _ => .pure

/-- The numbers of a lesson are in their bounds, no operation in it takes them out of these, and all
that it holds is usable. -/
structure Lesson.Sound (l : Lesson) : Prop where
  bounds : l.InBounds
  carries : l.Carries generous
  bears : l.Bears usable

/-- A move that ends the turn goes by a sound schedule. -/
def Move.Sound (move : Move) : Prop := ∀ schedule, move = .endTurn schedule → schedule.Sound

/-- A move from a sound lesson leads to a sound lesson. -/
theorem Made.sound {move : Move} (h : Made l c move ms l' c') (hl : l.Sound) : l'.Sound where
  bounds := (h.advances hl.bounds hl.carries).bounds
  carries := (h.carries hl.carries).1
  bears := (h.bears usable_handedOn hl.bears).1

/-- **A move from a sound lesson is safe.** -/
theorem make_safe {move : Move} (hl : given → l.Sound) (hmove : move.Sound) :
    SafePlay given (move.make l) := by
  have hbears := fun hg => (hl hg).bears
  cases move with
  | play id => exact play_safe hbears
  | endTurn schedule =>
    refine endTurn_safe hbears (fun hg => ?_) (hmove schedule rfl)
    obtain ⟨turn, most, hturn, -⟩ := (hl hg).bounds.turn
    exact ⟨turn, hturn⟩
  | drink id => exact useDrink_safe hbears

/-- **A course from a sound lesson is safe.** -/
theorem course_safe : ∀ {moves : List Move} {l : Lesson}, (given → l.Sound) →
    (∀ move ∈ moves, move.Sound) → SafePlay given (Lesson.course moves l)
  | [], _, _, _ => .pure
  | move :: moves, l, hl, hmoves => by
    refine (make_safe hl (hmoves move List.mem_cons_self)).bind fun next c c' h => ?_
    obtain ⟨ms, hmade⟩ := make_ok h
    exact course_safe (fun hg => hmade.sound (hl hg))
      fun m hm => hmoves m (List.mem_cons_of_mem move hm)

theorem Course.sound {moves : List Move} (h : Course l c moves ms l' c') (hl : l.Sound) :
    l'.Sound := by
  induction h with
  | nil => exact hl
  | cons first _ ih => exact ih (first.sound hl)

/-! ### Openings -/

section

variable {status : Status} {schedule : Schedule} {deck : List Copy} {drinks : List Drink}
  {turns : Int} {catalog : Catalog}

theorem mem_splitStart {x : Copy}
    (hx : x ∈ (splitStart [] [] deck).1 ∨ x ∈ (splitStart [] [] deck).2) : x ∈ deck := by
  have hmem := (splitStart_perm deck [] []).mem_iff (a := x)
  simp only [List.mem_append, List.nil_append, List.mem_filter] at hmem
  exact (hmem.1 hx).1

theorem ofCopies_returns {copies : List Copy} (h : ∀ x ∈ copies, x.id.isKey = true)
    (known : Catalog) : FailsOnly (fun _ => False) (Catalog.ofCopies known copies) :=
  .foldlM fun _ x hx => (FailsOnly.key (h x hx)).bind fun _ _ => .pure

/-- **A lesson can always be opened** with a status of numbers, a sound schedule and cards that have
keys for ids. -/
theorem openLesson_returns (hstatus : status.Sound)
    (hstats : ∀ d ∈ [status.vocal, status.dance, status.visual], d.isNumber = true)
    (hschedule : schedule.Sound) (hdeck : ∀ x ∈ deck, x.id.isKey = true) (c : Chance) :
    ∃ l c', openLesson status schedule deck drinks (.whole turns) catalog c = (.ok l, c') := by
  have stat {d : Datum} (h : d ∈ [status.vocal, status.dance, status.visual]) :
      FailsOnly (fun _ => False) d.quantity := .quantity (hstats d h)
  have whole {d : Datum} (h : ∃ n : Nat, d = .whole n) : FailsOnly (fun _ => False) d.quantity := by
    obtain ⟨n, rfl⟩ := h
    exact .ok
  refine PlayFailsOnly.returns ?_ c
  unfold openLesson
  refine PlayFailsOnly.luck.bind fun remaining c₀ c₁ hshuffle => ?_
  have hremaining : ∀ x ∈ remaining, x ∈ deck := fun x hx => by
    have hperm := Luck.shuffle_perm (deck.filter fun x => !x.card.startInHand) c₀
    rw [Play.luck_ok.1 hshuffle] at hperm
    exact (List.mem_filter.1 (hperm.mem_iff.1 hx)).1
  refine (PlayFailsOnly.drawCards fun x hx => .key (hdeck x ?_)).bind fun drawn _ _ _ => ?_
  · simp only [List.mem_append] at hx
    rcases hx with (hx | hx) | hx
    · exact hremaining x hx
    · exact mem_splitStart (.inr hx)
    · exact mem_splitStart (.inl hx)
  refine .except_bind (ofCopies_returns hdeck []) fun known _ => .except_bind ?_ fun _ _ => ?_
  · obtain ⟨s, hs⟩ := hschedule.statAt 1
    exact hs ▸ .ok
  exact .except_bind (whole hstatus.hp) fun _ _ => .except_bind (whole hstatus.maxHp) fun _ _ =>
    .except_bind (stat (by simp)) fun _ _ => .except_bind (stat (by simp)) fun _ _ =>
      .except_bind (stat (by simp)) fun _ _ => .pure

/-! ### Decks that a check lets through -/

/-- Effects that are fit and in range can be carried out. -/
theorem usable_of_fit {es : List Effect} (hfit : Effect.everyOf Operation.fit es = true)
    (hrange : Effect.liveAll Operation.inRange es = true) : ∀ e ∈ es, usable.effect e :=
  have hlive : Effect.liveAll Operation.usable es = true :=
    Effect.liveAll_of (fun _ hop hop' => Bool.and_eq_true_iff.2 ⟨hop, hop'⟩) es hfit hrange
  Effect.liveAll_iff.1 hlive

theorem generous_of_fit {es : List Effect} (hfit : Effect.everyOf Operation.fit es = true) :
    Effect.everyOf generous es = true :=
  Effect.everyOf_mono (fun _ hop => (Operation.fit_iff.1 hop).generous) es hfit

theorem Copy.usable_of_fit {x : Copy} (hfit : x.card.fit = true) (hrange : x.card.inRange = true) :
    x.Usable := by
  obtain ⟨htexts, heffects⟩ := Bool.and_eq_true_iff.1 hfit
  obtain ⟨hid, hname⟩ := Bool.and_eq_true_iff.1 htexts
  exact ⟨hid, hname, CardLesson.usable_of_fit heffects hrange⟩

/-- A drink whose effects are fit and in range. -/
structure Drink.Fit (d : Drink) : Prop where
  fit : Effect.everyOf Operation.fit d.effects = true
  inRange : Effect.liveAll Operation.inRange d.effects = true

/-- A lesson is sound when it is opened with a sound status and with cards and drinks that are fit
and in range. -/
theorem Opened.sound {l : Lesson} (h : Opened status deck drinks (.whole turns) catalog l)
    (hstatus : status.Sound) (hturns : 1 ≤ turns)
    (hfit : ∀ x ∈ deck ++ catalog.map (·.2), x.card.fit = true)
    (hrange : ∀ x ∈ deck ++ catalog.map (·.2), x.card.inRange = true)
    (hdrinks : ∀ d ∈ drinks, d.Fit) : l.Sound where
  bounds := h.inBounds hstatus hturns
  carries := h.carries (fun x hx => generous_of_fit (Bool.and_eq_true_iff.1 (hfit x hx)).2)
    fun d hd => generous_of_fit (hdrinks d hd).fit
  bears := h.bears (fun x hx => Copy.usable_of_fit (hfit x hx) (hrange x hx))
    fun d hd => usable_of_fit (hdrinks d hd).fit (hdrinks d hd).inRange

/-- **A deck that a check lets through is safe to play, as long as its cards are fit**, and so are
the cards that upgrades can bring in and the drinks. The lesson opens, and every course of moves
from there leads to a lesson in its bounds, or it fails because something grew beyond what can be
held. -/
theorem checked_deck_is_safe {r : Report} (hstatus : status.Sound)
    (hstats : ∀ d ∈ [status.vocal, status.dance, status.visual], d.isNumber = true)
    (hturns : 1 ≤ turns) (hschedule : schedule.Sound)
    (hcheck : checkRoster (deck.map (·.card)) true = .ok r) (hvalid : r.valid = true)
    (hfit : ∀ x ∈ deck, x.card.fit = true)
    (hcatalog : ∀ x ∈ catalog.map (·.2), x.card.fit = true ∧ x.card.inRange = true)
    (hdrinks : ∀ d ∈ drinks, d.Fit) (c₀ : Chance) :
    ∃ l₀ c₁, openLesson status schedule deck drinks (.whole turns) catalog c₀ = (.ok l₀, c₁) ∧
      ∀ moves : List Move, (∀ move ∈ moves, move.Sound) →
        match (Lesson.course moves l₀ c₁).1 with
        | .ok l => l.InBounds
        | .error f => f.isExcess = true := by
  have hrange : ∀ x ∈ deck, x.card.inRange = true :=
    fun x hx => checkRoster_inRange hcheck hvalid x.card (List.mem_map_of_mem hx)
  have hkeys : ∀ x ∈ deck, x.id.isKey = true :=
    fun x hx => Datum.isKey_of_isText (Copy.usable_of_fit (hfit x hx) (hrange x hx)).id
  obtain ⟨l₀, c₁, hopen⟩ := openLesson_returns hstatus hstats hschedule hkeys c₀
  have hl₀ : l₀.Sound := (openLesson_ok hopen).1.sound hstatus hturns
    (fun x hx => (List.mem_append.1 hx).elim (hfit x) fun h => (hcatalog x h).1)
    (fun x hx => (List.mem_append.1 hx).elim (hrange x) fun h => (hcatalog x h).2) hdrinks
  refine ⟨l₀, c₁, hopen, fun moves hmoves => ?_⟩
  rcases hrun : Lesson.course moves l₀ c₁ with ⟨f | l, c⟩
  · exact (course_safe (fun _ : True => hl₀) hmoves c₁ f c hrun).isExcess trivial
  · obtain ⟨ms, hcourse⟩ := course_ok hrun
    exact (hcourse.sound hl₀).bounds

end

/-- A deck of two copies of a card; the first one is played, and then the turn ends. -/
theorem checked_deck_is_safe_steady : ∃ l₀ c₁ l c,
    openLesson {} [] (Copy.deal 0 [steadyCard, steadyCard]) [] (.whole 12) [] stillChance =
        (.ok l₀, c₁) ∧
      Lesson.course [.play (.text "s"), .endTurn []] l₀ c₁ = (.ok l, c) ∧ l.InBounds := by
  have hstatus : ({} : Status).Sound :=
    ⟨⟨30, rfl⟩, ⟨30, rfl⟩, zero_isAmount, zero_isAmount, zero_isAmount⟩
  have hfit : ∀ x ∈ Copy.deal 0 [steadyCard, steadyCard], x.card.fit = true := by decide +kernel
  have hcheck : checkRoster ((Copy.deal 0 [steadyCard, steadyCard]).map (·.card)) true =
      .ok {} := by rfl
  have hcatalog : ∀ x ∈ ([] : Catalog).map (·.2), x.card.fit = true ∧ x.card.inRange = true :=
    fun x hx => absurd hx List.not_mem_nil
  have hdrinks : ∀ d ∈ ([] : List Drink), d.Fit := fun d hd => absurd hd List.not_mem_nil
  have hmoves : ∀ move ∈ [Move.play (.text "s"), .endTurn []], move.Sound := by
    rintro move hmove schedule rfl
    rcases List.mem_cons.1 hmove with h | h
    · cases h
    · cases List.mem_singleton.1 h
      exact fun d hd => absurd hd List.not_mem_nil
  obtain ⟨l₀, c₁, hopen, hsafe⟩ := checked_deck_is_safe hstatus (by decide +kernel)
    (by decide : (1 : Int) ≤ 12) (fun d hd => absurd hd List.not_mem_nil) hcheck rfl hfit
    hcatalog hdrinks stillChance
  have hbounds := hsafe _ hmoves
  let run : Play Lesson := do
    let l₀ ← openLesson {} [] (Copy.deal 0 [steadyCard, steadyCard]) [] (.whole 12) []
    Lesson.course [.play (.text "s"), .endTurn []] l₀
  have hok : (run stillChance).1.toOption.any (fun _ => true) = true := by decide +kernel
  obtain ⟨l, c, hout, -⟩ := Play.ok_of_any hok
  obtain ⟨l', c', hopen', hmoves'⟩ := Play.bind_ok.1 hout
  cases hopen.symm.trans hopen'
  rw [hmoves'] at hbounds
  exact ⟨l₀, c₁, l, c, hopen, hmoves', hbounds⟩

/-- Takes genki in place of giving it. -/
def debtCard : Card :=
  { id := .text "x", name := .text "X", startInHand := true
    effects := [.gain (.known .genki) (.whole (-5))] }

/-- The record of the card. -/
def debtRecord : Datum :=
  .object [("id", .text "x"), ("name", .text "X"), ("startInHand", .truth true),
    ("effects", .list [.object [("type", .text "buff_genki"), ("value", .whole (-5))]])]

/-- **A check does not look at amounts.** It lets a card through that takes genki when there are
none; the card is read, dealt and played, and genki are below zero. -/
theorem debt_is_let_through : Card.read debtRecord = .ok debtCard ∧
    checkRoster [debtCard] true = .ok {} ∧ ∃ l₀ c₁ l c,
      openLesson {} [] (Copy.deal 0 [debtCard]) [] (.whole 12) [] stillChance = (.ok l₀, c₁) ∧
        Lesson.course [.play (.text "x")] l₀ c₁ = (.ok l, c) ∧ l.genki = .whole (-5) ∧
          ¬l.InBounds := by
  refine ⟨by rfl, by rfl, ?_⟩
  let run : Play Lesson := do
    let l₀ ← openLesson {} [] (Copy.deal 0 [debtCard]) [] (.whole 12) []
    Lesson.course [.play (.text "x")] l₀
  have hok : (run stillChance).1.toOption.any (fun l => decide (l.genki = .whole (-5))) = true := by
    decide +kernel
  obtain ⟨l, c, hout, hgenki⟩ := Play.ok_of_any hok
  obtain ⟨l₀, c₁, hopen, hmoves⟩ := Play.bind_ok.1 hout
  have hgenki : l.genki = .whole (-5) := of_decide_eq_true hgenki
  refine ⟨l₀, c₁, l, c, hopen, hmoves, hgenki, fun hb => ?_⟩
  obtain ⟨n, hn⟩ := hb.genki
  cases hgenki.symm.trans hn

end CardLesson
