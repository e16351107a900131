/-
# Buffs stay in order

From the opening on, whatever tasks are performed and turns end, the turns of the buffs stay in
order as long as all turns that cards and drinks name are whole numbers or the rest of the lesson.
Ids tell the buffs apart, so that a buff can be looked for under its id at another time; when it had
turns left and is there for the rest of the lesson then, there was a moment in between that renewed
it.

Key definitions: `Moment.Renews`, `Descended`, `Lesson.Orderly`.
Key theorems: `Descended.trans`, `Descended.renewed`, `Made.orderly`, `Course.orderly`,
`buffs_stay_in_order`.
-/
import CardLesson.Proofs.BuffTurns

namespace CardLesson

variable {l l₁ l' : Lesson} {c c₁ c' : Chance} {b b' : Buff} {bs bs₁ bs' : List Buff}
  {ms ms' : List Moment}

/-! ### From the turns of a buff to the rest of the lesson -/

/-- The moment carries out a ban on genki for the rest of the lesson, while there is one for some
turns, and makes this one a ban for the rest of the lesson. -/
structure Moment.Renews (m : Moment) (id : String) : Prop where
  forGood : m.BansForGood
  before : ∃ b ∈ m.lesson.buffs, b.id = id ∧ b.is .noGenkiGain = true ∧ b.indefinite = false
  after : ∃ new l' c', perform m.lesson m.task m.chance = (.ok (new, l'), c') ∧
    ∃ b ∈ l'.buffs, b.id = id ∧ b.indefinite = true

/-- Where buffs come from: each one was there before under its id, or its id was given out
meanwhile; and one that was there before for some turns is there for the rest of the lesson only
when some moment renewed it. -/
structure Descended (ms : List Moment) (bs : List Buff) (named : Nat) (bs' : List Buff)
    (named' : Nat) : Prop where
  names : named ≤ named'
  each : ∀ b' ∈ bs', (∃ b ∈ bs, b'.id = b.id ∧
      (b.indefinite = false → b'.indefinite = true → ∃ m ∈ ms, m.Renews b.id)) ∨
    ∃ n, named < n ∧ n ≤ named' ∧ b'.id = buffId n

namespace Descended

variable {named named₁ named' : Nat}

theorem of_left {reason : Buff → Prop} (hn : named ≤ named')
    (h : bs'.SublistForall₂ (Buff.Left reason) bs)
    (hreason : ∀ b ∈ bs, ∀ b' ∈ bs', b'.id = b.id → b.indefinite = false →
      b'.indefinite = true → reason b → ∃ m ∈ ms, m.Renews b.id) :
    Descended ms bs named bs' named' := by
  refine ⟨hn, fun b' hb' => .inl ?_⟩
  obtain ⟨b, hb, hleft⟩ := exists_left h b' hb'
  exact ⟨b, hb, hleft.id, fun hfinite hendless =>
    hreason b hb b' hb' hleft.id hfinite hendless (hleft.renewed hfinite hendless)⟩

theorem refl (bs : List Buff) (named : Nat) : Descended [] bs named bs named := by
  refine ⟨Nat.le_refl named, fun b hb => .inl ⟨b, hb, rfl, fun hfinite hendless => ?_⟩⟩
  exact absurd (hfinite.symm.trans hendless) Bool.false_ne_true

/-- A buff that went from turns to the rest of the lesson did so before or after. -/
theorem trans (h : Descended ms bs named bs₁ named₁) (h' : Descended ms' bs₁ named₁ bs' named') :
    Descended (ms ++ ms') bs named bs' named' := by
  refine ⟨Nat.le_trans h.names h'.names, fun b' hb' => ?_⟩
  rcases h'.each b' hb' with ⟨b₁, hb₁, hid₁, hlater⟩ | ⟨n, hlt, hle, hnum⟩
  · rcases h.each b₁ hb₁ with ⟨b, hb, hid, hsooner⟩ | ⟨n, hlt, hle, hnum⟩
    · refine .inl ⟨b, hb, hid₁.trans hid, fun hfinite hendless => ?_⟩
      cases hmiddle : b₁.indefinite with
      | true =>
        obtain ⟨m, hm, hrenews⟩ := hsooner hfinite hmiddle
        exact ⟨m, List.mem_append_left ms' hm, hrenews⟩
      | false =>
        obtain ⟨m, hm, hrenews⟩ := hlater hmiddle hendless
        exact ⟨m, List.mem_append_right ms hm, hid ▸ hrenews⟩
    · exact .inr ⟨n, hlt, Nat.le_trans hle h'.names, hid₁.trans hnum⟩
  · exact .inr ⟨n, Nat.lt_of_le_of_lt h.names hlt, hle, hnum⟩

/-- A buff of another time is the one under its id, or what became of it. -/
theorem renewed (h : Descended ms bs named bs' named') (hbs : BuffsInOrder bs)
    (hnum : ∀ b ∈ bs, ∃ n ≤ named, b.id = buffId n) (hb : b ∈ bs) (hb' : b' ∈ bs')
    (hid : b'.id = b.id) (hfinite : b.indefinite = false) (hendless : b'.indefinite = true) :
    ∃ m ∈ ms, m.Renews b.id := by
  rcases h.each b' hb' with ⟨b₀, hb₀, hid₀, hrenews⟩ | ⟨n, hlt, -, hfresh⟩
  · obtain rfl : b₀ = b := hbs.eq_of_id hb₀ hb (hid₀.symm.trans hid)
    exact hrenews hfinite hendless
  · obtain ⟨n', hle, hnum'⟩ := hnum b hb
    have heq := buffId_injective (hnum'.symm.trans (hid.symm.trans hfresh))
    omega

end Descended

theorem Regrouped.descended {t : Task} {new : List Task} (h : Regrouped ⟨t, l, c⟩ l'.buffs c'.named)
    (now : perform l t c = (.ok (new, l'), c')) :
    Descended [⟨t, l, c⟩] l.buffs c.named l'.buffs c'.named := by
  generalize hbs : l'.buffs = bs at h
  generalize hnamed : c'.named = named at h
  cases h with
  | left hn h =>
    refine .of_left hn h fun b hb b' hb' hid hfinite hendless hreason => ?_
    refine ⟨_, List.mem_singleton_self _, hreason.2, ⟨b, hb, rfl, hreason.1, hfinite⟩, ?_⟩
    exact ⟨new, l', c', now, b', hbs ▸ hb', hid, hendless⟩
  | @granted b hid _ _ =>
    refine ⟨Nat.le_succ _, fun b' hb' => ?_⟩
    rcases List.mem_append.1 hb' with hb' | hb'
    · refine .inl ⟨b', hb', rfl, fun hfinite hendless => ?_⟩
      exact absurd (hfinite.symm.trans hendless) Bool.false_ne_true
    · rw [List.mem_singleton.1 hb']
      exact .inr ⟨c.named + 1, Nat.lt_succ_self _, Nat.le_refl _, hid⟩

/-! ### Traces, moves and courses -/

/-- A lesson all of whose operations are timely, and whose buffs are in order and numbered. -/
structure Lesson.Orderly (l : Lesson) (c : Chance) : Prop where
  carries : l.Carries Operation.isTimely
  inOrder : BuffsInOrder l.buffs
  numbered : l.Numbered c

/-- Timely tasks keep the buffs in order. -/
theorem Trace.inOrder (h : Trace l c ms l' c')
    (ht : ∀ m ∈ ms, m.task.every Operation.isTimely = true) (hl : BuffsInOrder l.buffs)
    (hn : l.Numbered c) :
    BuffsInOrder l'.buffs ∧ Descended ms l.buffs c.named l'.buffs c'.named := by
  induction h with
  | nil l c => exact ⟨hl, .refl l.buffs c.named⟩
  | still hbuffs _ _ ih =>
    rw [← hbuffs] at hl ⊢
    refine ih ht hl fun b hb => hn b ?_
    rwa [hbuffs] at hb
  | @task t new l l₁ l' c c₁ c' ms now _ ih =>
    have hregrouped := perform_regrouped now (ht _ List.mem_cons_self) hl.timed
    obtain ⟨hend, hrest⟩ := ih (fun m hm => ht m (List.mem_cons_of_mem _ hm))
      (hregrouped.inOrder hl hn) ((perform_spec now).numbered hn)
    exact ⟨hend, (hregrouped.descended now).trans hrest⟩

/-- The end of a turn keeps the buffs in order, and makes none stay for the rest of the lesson. -/
theorem nextTurn_inOrder {schedule : Schedule} {next : Lesson}
    (h : l.nextTurn schedule c = (.ok next, c')) (hl : BuffsInOrder l.buffs) :
    BuffsInOrder next.buffs ∧ Descended [] l.buffs c.named next.buffs c'.named := by
  obtain ⟨turned, hn⟩ := nextTurn_ok h
  have hleft : next.buffs.SublistForall₂ (Buff.Left fun _ => False) l.buffs :=
    tickBuffs_left turned.buffs hl.timed
  exact ⟨hl.left hleft, .of_left (Nat.le_of_eq hn.symm) hleft fun _ _ _ _ _ _ _ => False.elim⟩

theorem Made.orderly {move : Move} (h : Made l c move ms l' c') (hl : l.Orderly c) :
    l'.Orderly c' ∧ Descended ms l.buffs c.named l'.buffs c'.named := by
  obtain ⟨hcarries, hms⟩ := h.carries hl.carries
  have ht : ∀ m ∈ ms, m.task.every Operation.isTimely = true := fun m hm => (hms m hm).2
  have hnumbered := (h.numbered hl.numbered).1
  obtain ⟨l₁, c₁, htrace, ⟨rfl, rfl⟩ | ⟨schedule, -, hturn⟩⟩ := h.trace
  · obtain ⟨hend, hdescended⟩ := htrace.inOrder ht hl.inOrder hl.numbered
    exact ⟨⟨hcarries, hend, hnumbered⟩, hdescended⟩
  · obtain ⟨hnext, haged⟩ := nextTurn_inOrder hturn hl.inOrder
    obtain ⟨hend, hdescended⟩ := htrace.inOrder ht hnext (nextTurn_numbered hturn hl.numbered)
    exact ⟨⟨hcarries, hend, hnumbered⟩, haged.trans hdescended⟩

theorem Course.orderly {moves : List Move} (h : Course l c moves ms l' c') (hl : l.Orderly c) :
    l'.Orderly c' ∧ Descended ms l.buffs c.named l'.buffs c'.named := by
  induction h with
  | nil l c => exact ⟨hl, .refl l.buffs c.named⟩
  | cons first _ ih =>
    obtain ⟨hl₁, hfirst⟩ := first.orderly hl
    obtain ⟨hend, hrest⟩ := ih hl₁
    exact ⟨hend, hfirst.trans hrest⟩

theorem Opened.orderly {status : Status} {deck : List Copy} {drinks : List Drink}
    {maxTurns : Quantity} {catalog : Catalog} (h : Opened status deck drinks maxTurns catalog l)
    (hcards : ∀ x ∈ deck ++ catalog.map (·.2), x.card.every Operation.isTimely = true)
    (hdrinks : ∀ d ∈ drinks, Effect.everyOf Operation.isTimely d.effects = true) : l.Orderly c where
  carries := h.carries hcards hdrinks
  inOrder := by
    rw [h.frame]
    exact ⟨fun b hb => absurd hb List.not_mem_nil, Nat.zero_le 1, List.nodup_nil⟩
  numbered := h.numbered

/-- **Buffs stay in order.** When all turns that the cards and the drinks name are whole numbers or
the rest of the lesson, then in every state that a course reaches from the opening the buffs are in
order: those that are not new have turns left, no turns are below the rest of the lesson, and one at
most is a ban on genki. So ageing the buffs leaves none that had turns there for the rest of the
lesson; and whenever, in what comes then, a buff with turns is there for the rest of the lesson, it
is a ban on genki, and there was a moment at which a further ban for the rest of the lesson renewed
it. -/
theorem buffs_stay_in_order {status : Status} {schedule : Schedule} {deck : List Copy}
    {drinks : List Drink} {maxTurns : Quantity} {catalog : Catalog} {moves : List Move}
    {l₀ l : Lesson} {c₀ c₁ c : Chance}
    (hcards : ∀ x ∈ deck ++ catalog.map (·.2), x.card.every Operation.isTimely = true)
    (hdrinks : ∀ d ∈ drinks, Effect.everyOf Operation.isTimely d.effects = true)
    (hopen : openLesson status schedule deck drinks maxTurns catalog c₀ = (.ok l₀, c₁))
    (hmoves : Lesson.course moves l₀ c₁ = (.ok l, c)) :
    (∀ b ∈ l.buffs, ∃ d : Int, b.duration.quantity = .ok (.whole d) ∧
        (b.isNew = false → d = -1 ∨ 1 ≤ d) ∧ (b.isNew = true → -1 ≤ d)) ∧
      l.buffs.countP (·.is .noGenkiGain) ≤ 1 ∧ (l.buffs.map (·.id)).Nodup ∧
      (∀ bs, tickBuffs l.buffs = .ok bs → ∀ b ∈ l.buffs, ∀ b' ∈ bs, b'.id = b.id →
        b.indefinite = false → b'.indefinite = false) ∧
      ∀ more l' c', Lesson.course more l c = (.ok l', c') → ∃ ms, Course l c more ms l' c' ∧
        ∀ b ∈ l.buffs, ∀ b' ∈ l'.buffs, b'.id = b.id → b.indefinite = false →
          b'.indefinite = true → ∃ m ∈ ms, m.Renews b.id := by
  obtain ⟨ms, hcourse⟩ := course_ok hmoves
  have hl := (hcourse.orderly ((openLesson_ok hopen).1.orderly hcards hdrinks)).1
  refine ⟨hl.inOrder.timed, hl.inOrder.oneBan, hl.inOrder.apart,
    fun bs hbs b hb b' hb' hid hfinite => ?_, fun more l' c' hmore => ?_⟩
  · have hleft : bs.SublistForall₂ (Buff.Left fun _ => False) l.buffs :=
      tickBuffs_left hbs hl.inOrder.timed
    obtain ⟨b₀, hb₀, hleft⟩ := exists_left hleft b' hb'
    obtain rfl : b₀ = b := hl.inOrder.eq_of_id hb₀ hb (hleft.id.symm.trans hid)
    cases hendless : b'.indefinite with
    | false => rfl
    | true => exact (hleft.renewed hfinite hendless).elim
  · obtain ⟨ms', hcourse'⟩ := course_ok hmore
    refine ⟨ms', hcourse', fun b hb b' hb' hid hfinite hendless => ?_⟩
    exact (hcourse'.orderly hl).2.renewed hl.inOrder hl.numbered hb hb' hid hfinite hendless

/-- A drink that bans gains of genki. -/
def banningDrink (name : String) (duration : Int) : Drink where
  id := .text name
  name := .text name
  effects := [.grant (.known .noGenkiGain) (.whole duration) .null .null]

/-- A card that grants a bonus for no turns, inside a gate. -/
def fleetingCard : Card :=
  { Card.plain "f" with
    startInHand := true
    effects := [.gate [] [.grant (.known .scoreBonus) (.whole 0) .null (.whole 1)]] }

/-- A ban on genki for two turns is there for the rest of the lesson after a further one. -/
theorem buffs_stay_in_order_banned : ∃ l₀ c₁ l c l' c' ms b b',
    openLesson {} [] (Copy.deal 0 [fleetingCard]) [banningDrink "t" 2, banningDrink "g" (-1)]
        (.whole 12) [] stillChance = (.ok l₀, c₁) ∧
      Lesson.course [.drink (.text "t"), .play (.text "f")] l₀ c₁ = (.ok l, c) ∧
      Lesson.course [.endTurn [], .drink (.text "g")] l c = (.ok l', c') ∧
      Course l c [.endTurn [], .drink (.text "g")] ms l' c' ∧ b ∈ l.buffs ∧ b' ∈ l'.buffs ∧
      b'.id = b.id ∧ b.indefinite = false ∧ b'.indefinite = true ∧ ∃ m ∈ ms, m.Renews b.id := by
  let run : Play (Lesson × Lesson) := do
    let l₀ ← openLesson {} [] (Copy.deal 0 [fleetingCard])
      [banningDrink "t" 2, banningDrink "g" (-1)] (.whole 12) []
    let l ← Lesson.course [.drink (.text "t"), .play (.text "f")] l₀
    return (l, ← Lesson.course [.endTurn [], .drink (.text "g")] l)
  have hok : (run stillChance).1.toOption.any (fun (l, l') => l.buffs.any fun b =>
      l'.buffs.any fun b' => b'.id == b.id && !b.indefinite && b'.indefinite) = true := by
    decide +kernel
  obtain ⟨⟨l, l'⟩, c', hout, hbuffs⟩ := Play.ok_of_any hok
  obtain ⟨l₀, c₁, hopen, hout⟩ := Play.bind_ok.1 hout
  obtain ⟨l₁, c, hmoves, hout⟩ := Play.bind_ok.1 hout
  obtain ⟨l₂, c₂, hmore, hout⟩ := Play.bind_ok.1 hout
  cases hout
  obtain ⟨b, hb, hbuffs⟩ := List.any_eq_true.1 hbuffs
  obtain ⟨b', hb', hbuffs⟩ := List.any_eq_true.1 hbuffs
  simp only [Bool.and_eq_true, beq_iff_eq, Bool.not_eq_true'] at hbuffs
  obtain ⟨⟨hid, hfinite⟩, hendless⟩ := hbuffs
  obtain ⟨-, -, -, -, hlater⟩ :=
    buffs_stay_in_order (by decide) (by decide) hopen hmoves
  obtain ⟨ms, hcourse, hrenewed⟩ := hlater _ l' c' hmore
  exact ⟨l₀, c₁, l, c, l', c', ms, b, b', hopen, hmoves, hmore, hcourse, hb, hb', hid, hfinite,
    hendless, hrenewed b hb b' hb' hid hfinite hendless⟩

end CardLesson
