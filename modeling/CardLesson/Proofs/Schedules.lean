/-
# Schedules with entries that name no stat

A schedule is not read as a whole. Opening a lesson looks up the entry of turn one, and the end of
each turn the entry of the next one. An entry that names no stat is found out when a lesson gets to
its turn: the end of the turn before it fails, and no lesson ever is in that turn. Nothing else in a
lesson fails so, and with a schedule whose entries all name stats nothing does.

The end of a turn is taken apart where it looks up the stat. What comes before is a `Draft` of the
next turn, for which the schedule does not matter.

Key definitions: `Draft`, `Lesson.draft`, `Lesson.drafted`, `Schedule.Names`, `Move.By`,
`Lesson.Scheduled`.
Key theorems: `nextTurn_eq`, `endTurn_misnamed_iff`, `make_misnamed_iff`, `Led.scheduled`,
`runLesson_misnamed`, `misnamed_turn_is_found_late`.
-/
import CardLesson.Proofs.Legality
import CardLesson.Proofs.Safety
import CardLesson.Proofs.Trace

namespace CardLesson

variable {l l' l₀ : Lesson} {c c' : Chance} {schedule : Schedule} {raw : Datum}

/-! ### The end of a turn, up to the stat of the next one and from there on -/

/-- What is settled about the next turn before its stat is looked up. -/
structure Draft where
  hp : Quantity
  drawn : Drawn
  gained : Quantity
  turn : Quantity
  lines : List String
  score : Quantity

namespace Lesson

/-- Drafts the next turn: its HP and its hand, the score and the number it starts with, and the
lines on it. -/
def draft (l : Lesson) : Play Draft := do
  let hp ← if l.cardsPlayed.same 0 then
      do pure (l.maxHp.smaller (← l.hp.add (.whole Balance.skipRecoveryHp)))
    else pure l.hp
  let drawn ← drawCards l.deck (l.discard ++ l.hand) (min Balance.baseDraw Balance.handLimit) []
  let gained ← l.goodImpression.mul (.whole Balance.impressionScorePerStack)
  let turn ← l.turn.add 1
  let lines ← turnNotes gained turn (l.cardsPlayed.same 0)
  let score ← l.score.add gained
  return { hp, drawn, gained, turn, lines, score }

/-- The lesson in the turn that was drafted, given its stat. -/
def drafted (l : Lesson) (d : Draft) (turnStat : Stat) : Play Lesson := do
  let buffs ← tickBuffs l.buffs
  let goodImpression := Quantity.larger 0 (← l.goodImpression.sub (.whole Balance.impressionDecay))
  return { l with
    score := d.score, hp := d.hp, turn := d.turn, turnStat, buffs, goodImpression
    phase := .start
    deck := d.drawn.deck
    hand := d.drawn.hand
    discard := d.drawn.discard
    cardsPlayed := 0
    logs := l.logs ++ d.lines }

end Lesson

/-- **The stat is all that the next turn takes from the schedule.** -/
theorem nextTurn_eq (l : Lesson) (schedule : Schedule) : l.nextTurn schedule = (do
    let d ← l.draft
    let turnStat ← schedule.statAt d.turn
    l.drafted d turnStat) := by
  unfold Lesson.nextTurn Lesson.draft Lesson.drafted
  cases l.cardsPlayed.same 0 <;>
    simp only [Bool.false_eq_true, if_true, if_false, bind_assoc, pure_bind]

/-- No draft looks anything up in a schedule. -/
theorem draft_safe (l : Lesson) : SafePlay False l.draft := by
  unfold Lesson.draft
  refine .ite_bind_bind (fun _ => .except_bind (.safe .add) fun _ _ => .pure) (fun _ => .pure)
    fun hp => (PlayFailsOnly.drawCards fun _ _ => .safe (.key False.elim)).bind fun _ _ _ _ => ?_
  exact .except_bind (.safe .mul) fun _ _ => .except_bind (.safe .add) fun _ _ =>
    .except_bind (.safe (turnNotes_reliable _ _ _)) fun _ _ =>
    .except_bind (.safe .add) fun _ _ => .pure

theorem drafted_safe (l : Lesson) (d : Draft) (s : Stat) : SafePlay False (l.drafted d s) :=
  .except_bind (.safe (tickBuffs_reliable False.elim)) fun _ _ =>
    .except_bind (.safe .sub) fun _ _ => .pure

/-- A draft is of the next turn. -/
theorem draft_turn {d : Draft} {n : Nat} (hn : l.turn = .whole n) (h : l.draft c = (.ok d, c')) :
    d.turn = .whole (n + 1 : Nat) := by
  unfold Lesson.draft at h
  obtain ⟨hp, c₁, -, h⟩ := Play.ite_bind_bind_ok.1 h
  obtain ⟨drawn, c₂, -, h⟩ := Play.bind_ok.1 h
  obtain ⟨gained, c₃, -, h⟩ := Play.bind_ok.1 h
  obtain ⟨turn, c₄, hturn, h⟩ := Play.bind_ok.1 h
  obtain ⟨lines, c₅, -, h⟩ := Play.bind_ok.1 h
  obtain ⟨score, c₆, -, h⟩ := Play.bind_ok.1 h
  obtain ⟨rfl, -⟩ := Play.pure_ok.1 h
  have hadd := (Play.except_ok.1 hturn).1
  rw [hn] at hadd
  exact (Except.ok.inj hadd).symm

/-! ### Looking up a stat -/

/-- A schedule names the stat of a turn. -/
def Schedule.Names (schedule : Schedule) (turn : Nat) : Prop :=
  ∀ d, schedule.entryAt turn = some d → ∃ s : Stat, Named.ofDatum? d = some s

theorem Stat.ofDatum_ok_iff {d : Datum} {s : Stat} :
    Stat.ofDatum d = .ok s ↔ Named.ofDatum? d = some s := by
  unfold Stat.ofDatum
  cases Named.ofDatum? (α := Stat) d with
  | none => exact iff_of_false nofun nofun
  | some s' =>
    exact ⟨fun h => congrArg some (Except.ok.inj h), fun h => congrArg _ (Option.some.inj h)⟩

theorem Stat.ofDatum_error_iff {d : Datum} {f : Fault} :
    Stat.ofDatum d = .error f ↔ Named.ofDatum? (α := Stat) d = none ∧
      f = .badValue (.notAnAttribute d) := by
  unfold Stat.ofDatum
  cases Named.ofDatum? (α := Stat) d with
  | none => exact ⟨fun h => ⟨rfl, (Except.error.inj h).symm⟩, fun h => congrArg _ h.2.symm⟩
  | some s => exact iff_of_false nofun nofun

theorem Schedule.Names.of_statAt {turn : Nat} {s : Stat}
    (h : schedule.statAt (.whole turn) = .ok s) : schedule.Names turn := by
  intro d hd
  rw [schedule.statAt_whole, hd] at h
  exact ⟨s, Stat.ofDatum_ok_iff.1 h⟩

/-- A look-up fails for an entry that names no stat, and that is the fault. -/
theorem Schedule.statAt_misnamed_iff {turn : Nat} :
    schedule.statAt (.whole turn) = .error (.badValue (.notAnAttribute raw)) ↔
      schedule.entryAt turn = some raw ∧ Named.ofDatum? (α := Stat) raw = none := by
  rw [schedule.statAt_whole]
  cases schedule.entryAt turn with
  | none => exact iff_of_false nofun nofun
  | some d =>
    constructor
    · intro h
      obtain ⟨hnone, hraw⟩ := Stat.ofDatum_error_iff.1 h
      cases hraw
      exact ⟨rfl, hnone⟩
    · rintro ⟨hd, hnone⟩
      cases hd
      exact Stat.ofDatum_error_iff.2 ⟨hnone, rfl⟩

/-- The stat of a turn that starts is named. -/
theorem nextTurn_names {n : Nat} (hn : l.turn = .whole n)
    (h : l.nextTurn schedule c = (.ok l', c')) : schedule.Names (n + 1) := by
  rw [nextTurn_eq] at h
  obtain ⟨d, c₁, hdraft, h⟩ := Play.bind_ok.1 h
  obtain ⟨s, c₂, hstat, -⟩ := Play.bind_ok.1 h
  rw [draft_turn hn hdraft] at hstat
  exact .of_statAt (Play.except_ok.1 hstat).1

theorem openLesson_names {status : Status} {deck : List Copy} {drinks : List Drink}
    {maxTurns : Quantity} {catalog : Catalog}
    (h : openLesson status schedule deck drinks maxTurns catalog c = (.ok l, c')) :
    schedule.Names 1 := by
  unfold openLesson at h
  obtain ⟨remaining, c₁, -, h⟩ := Play.bind_ok.1 h
  obtain ⟨drawn, c₂, -, h⟩ := Play.bind_ok.1 h
  obtain ⟨known, c₃, -, h⟩ := Play.bind_ok.1 h
  obtain ⟨s, c₄, hstat, -⟩ := Play.bind_ok.1 h
  exact .of_statAt (Play.except_ok.1 hstat).1

/-! ### What fails for an entry that names no stat -/

/-- **The end of a turn fails for an entry that names no stat**, when it is not the last turn and
the next one can be drafted, and the entry is that of the next turn. -/
theorem endTurn_misnamed_iff {n : Nat} (hn : l.turn = .whole n) :
    l.endTurn schedule c = (.error (.badValue (.notAnAttribute raw)), c') ↔
      l.isFinished = false ∧ (∃ d, l.draft c = (.ok d, c')) ∧
        schedule.entryAt (n + 1 : Nat) = some raw ∧ Named.ofDatum? (α := Stat) raw = none := by
  unfold Lesson.endTurn
  cases hfinished : l.isFinished with
  | true =>
    refine iff_of_false (fun h => Play.pure_error h) fun h => ?_
    cases h.1
  | false =>
    rw [if_neg Bool.false_ne_true, ← Schedule.statAt_misnamed_iff]
    constructor
    · intro h
      -- neither the reactions to the new turn fail so nor anything of the turn but its stat
      rcases Play.bind_error.1 h with h | ⟨next, c₁, -, h⟩
      · rw [nextTurn_eq] at h
        rcases Play.bind_error.1 h with h | ⟨d, c₁, hdraft, h⟩
        · exact ((draft_safe l c _ c' h).ne_notAnAttribute raw rfl).elim
        rcases Play.bind_error.1 h with h | ⟨s, c₂, -, h⟩
        · obtain ⟨hstat, rfl⟩ := Play.except_error.1 h
          rw [draft_turn hn hdraft] at hstat
          exact ⟨rfl, ⟨d, hdraft⟩, hstat⟩
        · exact ((drafted_safe l d s c₂ _ c' h).ne_notAnAttribute raw rfl).elim
      · have hreact {es : List Effect} {notes : List String} :
            SafePlay False (do return some (← next.react es (.ok notes))) :=
          (react_safe False.elim False.elim .ok).bind fun _ _ _ _ => .pure
        exact ((hreact c₁ _ c' h).ne_notAnAttribute raw rfl).elim
    · rintro ⟨-, ⟨d, hdraft⟩, hstat⟩
      refine Play.bind_error.2 (.inl ?_)
      rw [nextTurn_eq]
      refine Play.bind_error.2 (.inr ⟨d, c', hdraft, Play.bind_error.2 (.inl ?_)⟩)
      rw [draft_turn hn hdraft]
      exact Play.except_error.2 ⟨hstat, rfl⟩

/-- A move that ends a turn goes by the schedule. -/
def Move.By (schedule : Schedule) (move : Move) : Prop := ∀ s, move = .endTurn s → s = schedule

/-- **Only the end of a turn fails for an entry that names no stat.** -/
theorem make_misnamed_iff {move : Move} {n : Nat} (hmove : move.By schedule)
    (hn : l.turn = .whole n) :
    move.make l c = (.error (.badValue (.notAnAttribute raw)), c') ↔
      move = .endTurn schedule ∧ l.isFinished = false ∧ (∃ d, l.draft c = (.ok d, c')) ∧
        schedule.entryAt (n + 1 : Nat) = some raw ∧ Named.ofDatum? (α := Stat) raw = none := by
  have only {x : Play (Option Lesson)} (hx : SafePlay False x) :
      x c ≠ (.error (.badValue (.notAnAttribute raw)), c') :=
    fun h => (hx c _ c' h).ne_notAnAttribute raw rfl
  cases move with
  | play id => exact iff_of_false (only (play_safe False.elim)) nofun
  | drink id => exact iff_of_false (only (useDrink_safe False.elim)) nofun
  | endTurn s =>
    obtain rfl := hmove s rfl
    exact (endTurn_misnamed_iff hn).trans ⟨fun h => ⟨rfl, h⟩, fun h => h.2⟩

/-! ### Lessons that go by a schedule -/

/-- The lesson is in a turn up to which the schedule names every stat. -/
def Lesson.Scheduled (schedule : Schedule) (l : Lesson) : Prop :=
  ∃ n : Nat, l.turn = .whole n ∧ 1 ≤ n ∧ ∀ turn, 1 ≤ turn → turn ≤ n → schedule.Names turn

theorem Made.scheduled {move : Move} {ms : List Moment} (h : Made l c move ms l' c')
    (hmove : move.By schedule) (hl : l.Scheduled schedule) : l'.Scheduled schedule := by
  obtain ⟨n, hn, hpos, hnames⟩ := hl
  obtain ⟨l₁, c₁, htrace, ⟨rfl, rfl⟩ | ⟨s, rfl, hturn⟩⟩ := h.trace
  · exact ⟨n, htrace.turn_eq.1.trans hn, hpos, hnames⟩
  · obtain rfl := hmove s rfl
    refine ⟨n + 1, htrace.turn_eq.1.trans ((nextTurn_ok hturn).1.turn_succ hn), by omega, ?_⟩
    intro turn hturn₁ hle
    rcases Nat.lt_or_eq_of_le hle with hlt | rfl
    · exact hnames turn hturn₁ (by omega)
    · exact nextTurn_names hn hturn

/-- **No lesson is in a turn whose entry names no stat**, or past such a turn. -/
theorem Led.scheduled (h : Led (Move.By schedule) l₀ l) (hl₀ : l₀.Scheduled schedule) :
    l.Scheduled schedule := by
  induction h with
  | refl => exact hl₀
  | made _ hmove hmade ih =>
    obtain ⟨ms, hmade⟩ := make_ok hmade
    exact hmade.scheduled hmove ih

/-! ### Lessons that a policy plays out -/

theorem isPlayable_safe (l : Lesson) (id : Datum) : Reliable False (l.isPlayable id) := by
  refine .ite (fun _ => .ok) fun _ => ?_
  split
  · exact .ok
  · exact (Reliable.meetsAll False.elim False.elim).bind fun _ _ => .ite
      (fun _ => (actualCost_reliable False.elim).bind fun _ _ =>
        (obstacle_reliable False.elim _).bind fun _ _ => .pure) fun _ => .pure

theorem playableAfter_safe (l : Lesson) : ∀ (copies : List Copy) (found : List Datum),
    Reliable False (l.playableAfter found copies)
  | [], _ => .ok
  | copy :: copies, found => .ite (fun _ => playableAfter_safe l copies found) fun _ =>
    (isPlayable_safe l copy.id).bind fun _ _ =>
      .ite (fun _ => playableAfter_safe l copies _) fun _ => playableAfter_safe l copies found

theorem gainOf_safe (l : Lesson) (seed : Int) (named : Nat) (id : Datum) :
    Safe False (gainOf l seed named id) := by
  refine FailsOnly.bind (fun f hf => ?_) fun _ _ => .safe .sub
  exact play_safe (l := l) False.elim _ f _ (Prod.ext hf rfl)

theorem bestAfter_safe {gain : Datum → Except Fault Quantity} (hgain : ∀ id, Safe False (gain id)) :
    ∀ (ids : List Datum) (best : Option (Datum × Quantity)), Safe False (bestAfter gain best ids)
  | [], _ => .ok
  | id :: ids, _ => (hgain id).bind fun _ _ => bestAfter_safe hgain ids _

theorem select_safe (p : Policy) (named : Nat) (l : Lesson) : Safe False (p.select named l) := by
  have hids : Safe False l.playableIds := .safe (playableAfter_safe l l.hand [])
  cases p with
  | fixed card => exact .pure
  | first =>
    refine hids.bind fun ids _ => ?_
    cases ids <;> exact .pure
  | random chance =>
    refine hids.bind fun ids _ => ?_
    dsimp only
    split <;> exact .pure
  | greedy seed =>
    refine hids.bind fun ids _ => (bestAfter_safe (gainOf_safe l seed named) ids none).bind ?_
    intro best _
    cases best <;> exact .pure

/-- The plays of a turn never fail so. -/
theorem playTurn_safe : ∀ (plays : Nat) (p : Policy) (l : Lesson),
    SafePlay False (playTurn Policy.select stopTurn plays p l)
  | 0, _, _ => .pure
  | plays + 1, p, l => by
    refine PlayFailsOnly.luck.bind fun chance _ _ _ => .except_bind (select_safe p _ l) ?_
    rintro ⟨d, p⟩ -
    dsimp only
    split
    · exact .pure
    · refine (play_safe False.elim).bind fun next _ _ _ => ?_
      cases next with
      | none => exact .pure
      | some l => exact playTurn_safe plays p l

/-- The plays of a turn lead from lesson to lesson. -/
theorem playTurn_led {P : Move → Prop} (hP : ∀ id, P (.play id)) :
    ∀ {plays : Nat} {p p' : Policy} {l l' : Lesson} {c c' : Chance}, Led P l₀ l →
      playTurn Policy.select stopTurn plays p l c = (.ok (l', p'), c') → Led P l₀ l'
  | 0, _, _, _, _, _, _, hl, h => by
    cases h
    exact hl
  | plays + 1, p, _, l, _, _, _, hl, h => by
    obtain ⟨chance, c₁, -, h⟩ := Play.bind_ok.1 h
    obtain ⟨⟨d, p₁⟩, c₂, -, h⟩ := Play.bind_ok.1 h
    dsimp only at h
    cases hcard : d.card with
    | none =>
      rw [hcard] at h
      cases h
      exact hl
    | some id =>
      rw [hcard] at h
      obtain ⟨next, c₃, hplay, h⟩ := Play.bind_ok.1 h
      have hmove : (Move.play id).make l c₂ = (.ok next, c₃) := hplay
      have hnext := hl.made (hP id) hmove
      cases next with
      | none =>
        cases h
        exact hl
      | some l₁ => exact playTurn_led hP hnext h

theorem play_by (schedule : Schedule) (id : Datum) : (Move.play id).By schedule := nofun

theorem endTurn_by (schedule : Schedule) : (Move.endTurn schedule).By schedule := by
  rintro s ⟨⟩
  rfl

/-- When playing turn after turn fails so, it is at the end of a turn that it got to. -/
theorem playOut_misnamed : ∀ {turns : Nat} {p : Policy} {l : Lesson} {c : Chance},
    Led (Move.By schedule) l₀ l →
      playOut Policy.select stopTurn schedule turns p l c =
          (.error (.badValue (.notAnAttribute raw)), c') →
        ∃ l₁ c₁, Led (Move.By schedule) l₀ l₁ ∧
          l₁.endTurn schedule c₁ = (.error (.badValue (.notAnAttribute raw)), c')
  | turns, p, l, c, hl, h => by
    rw [playOut] at h
    rcases Play.bind_error.1 h with h | ⟨⟨l₁, p₁⟩, c₁, hturn, h⟩
    · exact ((playTurn_safe _ p l c _ c' h).ne_notAnAttribute raw rfl).elim
    have hl₁ := playTurn_led (play_by schedule) hl hturn
    rcases Play.bind_error.1 h with h | ⟨next, c₂, hend, h⟩
    · exact ⟨l₁, c₁, hl₁, h⟩
    have hnext := hl₁.made (endTurn_by schedule) hend
    cases next with
    | none => exact (Play.pure_error h).elim
    | some l₂ =>
      cases turns with
      | zero => cases h
      | succ turns => exact playOut_misnamed hnext h

theorem runLesson_misnamed {p : Policy} (hl : Led (Move.By schedule) l₀ l)
    (h : runLesson l p schedule c = (.error (.badValue (.notAnAttribute raw)), c')) :
    ∃ l₁ c₁, Led (Move.By schedule) l₀ l₁ ∧
      l₁.endTurn schedule c₁ = (.error (.badValue (.notAnAttribute raw)), c') := by
  rcases Play.bind_error.1 h with h | ⟨turns, c₁, -, h⟩
  · have hsub : SafePlay False (liftM (l.maxTurns.sub l.turn)) := .except (.safe .sub)
    exact ((hsub c _ c' h).ne_notAnAttribute raw rfl).elim
  rcases Play.bind_error.1 h with h | ⟨left, c₂, -, h⟩
  · have htruncate : SafePlay False (liftM turns.truncate) := .except (.safe .truncate)
    exact ((htruncate c₁ _ c' h).ne_notAnAttribute raw rfl).elim
  · exact playOut_misnamed hl h

/-! ### Schedules that a lesson is opened with -/

/-- **An entry that names no stat is found when a lesson gets to its turn, and not before.** A
lesson that opens has a stat for turn one. From there on every turn it is in had an entry that names
one, and what fails for want of a stat is the end of a turn, when the entry of the next turn names
none. So it is too when a policy plays the lesson out. With a schedule whose entries all name stats
nothing fails so. -/
theorem misnamed_turn_is_found_late {status : Status} {deck : List Copy} {drinks : List Drink}
    {maxTurns : Quantity} {catalog : Catalog} {c₀ c₁ : Chance}
    (hopen : openLesson status schedule deck drinks maxTurns catalog c₀ = (.ok l₀, c₁)) :
    (∀ l, Led (Move.By schedule) l₀ l → ∃ n : Nat, l.turn = .whole n ∧ 1 ≤ n ∧
      (∀ turn, 1 ≤ turn → turn ≤ n → schedule.Names turn) ∧
      ∀ move : Move, move.By schedule → ∀ raw c c',
        move.make l c = (.error (.badValue (.notAnAttribute raw)), c') ↔
          move = .endTurn schedule ∧ l.isFinished = false ∧ (∃ d, l.draft c = (.ok d, c')) ∧
            schedule.entryAt (n + 1 : Nat) = some raw ∧ Named.ofDatum? (α := Stat) raw = none) ∧
    (∀ l, Led (Move.By schedule) l₀ l → ∀ p raw c c',
      runLesson l p schedule c = (.error (.badValue (.notAnAttribute raw)), c') →
        ∃ l₁ c₁, Led (Move.By schedule) l₀ l₁ ∧
          l₁.endTurn schedule c₁ = (.error (.badValue (.notAnAttribute raw)), c')) ∧
    (schedule.Sound → ∀ l, Led (Move.By schedule) l₀ l → ∀ raw c c',
      (∀ move : Move, move.By schedule →
        move.make l c ≠ (.error (.badValue (.notAnAttribute raw)), c')) ∧
      ∀ p, runLesson l p schedule c ≠ (.error (.badValue (.notAnAttribute raw)), c')) := by
  have hl₀ : l₀.Scheduled schedule := by
    refine ⟨1, (openLesson_ok hopen).1.turn_one, le_rfl, fun turn hpos hle => ?_⟩
    obtain rfl : turn = 1 := by omega
    exact openLesson_names hopen
  have hnever (hsound : schedule.Sound) {l : Lesson} (hl : Led (Move.By schedule) l₀ l)
      {raw : Datum} {c c' : Chance} {move : Move} (hmove : move.By schedule) :
      move.make l c ≠ (.error (.badValue (.notAnAttribute raw)), c') := by
    intro h
    obtain ⟨n, hn, -⟩ := hl.scheduled hl₀
    obtain ⟨-, -, -, hentry, hnone⟩ := (make_misnamed_iff hmove hn).1 h
    obtain ⟨s, hs⟩ := hsound raw (List.mem_of_getElem? hentry)
    rw [hnone] at hs
    cases hs
  refine ⟨fun l hl => ?_, fun l hl p raw c c' => runLesson_misnamed hl, fun hsound l hl raw c c' =>
    ⟨fun move hmove => hnever hsound hl hmove, fun p h => ?_⟩⟩
  · obtain ⟨n, hn, hpos, hnames⟩ := hl.scheduled hl₀
    exact ⟨n, hn, hpos, hnames, fun move hmove raw c c' => make_misnamed_iff hmove hn⟩
  · obtain ⟨l₁, c₁, hl₁, hend⟩ := runLesson_misnamed hl h
    exact hnever hsound hl₁ (endTurn_by schedule) hend

/-- Names a stat for turn one, and none for all turns after it. -/
def lateSchedule : Schedule := [.text "vocal", .text "bogus"]

/-- What a lesson with this schedule opens as. -/
def lateStart : Except Fault Lesson × Chance :=
  openLesson {} lateSchedule (Copy.deal 0 [steadyCard]) [] (.whole 12) [] stillChance

/-- The lesson opens, and whatever is done it stays in turn one. -/
theorem misnamed_turn_is_found_late_bogus : ∃ l₀ c₁,
    openLesson {} lateSchedule (Copy.deal 0 [steadyCard]) [] (.whole 12) [] stillChance =
      (.ok l₀, c₁) ∧ ∀ l, Led (Move.By lateSchedule) l₀ l → l.turn = .whole 1 := by
  have hok : lateStart.1.toOption.any (fun _ => true) = true := by decide +kernel
  obtain ⟨l₀, c₁, hopen, -⟩ := Play.ok_of_any hok
  refine ⟨l₀, c₁, hopen, fun l hl => ?_⟩
  obtain ⟨n, hn, hpos, hnames, -⟩ := (misnamed_turn_is_found_late hopen).1 l hl
  have hbogus : ¬lateSchedule.Names 2 := fun h => by
    obtain ⟨s, hs⟩ := h (.text "bogus") rfl
    cases hs
  obtain rfl : n = 1 := by
    by_contra hne
    exact hbogus (hnames 2 (by omega) (by omega))
  exact hn

/-- Whether a computation fails for want of a stat that a text names. -/
def misnames {α : Type} (text : String) : Except Fault α → Bool
  | .error (.badValue (.notAnAttribute (.text s))) => s == text
  | _ => false

theorem eq_error_of_misnames {α : Type} {text : String} {x : Except Fault α}
    (h : misnames text x = true) : x = .error (.badValue (.notAnAttribute (.text text))) := by
  unfold misnames at h
  split at h
  · rw [eq_of_beq h]
  · cases h

/-- **A schedule that a lesson opens with can fail later**, at the end of a turn and when a policy
plays the lesson out. -/
theorem accepted_schedule_fails_later : ∃ l₀ c₁ c₂ c₃,
    openLesson {} lateSchedule (Copy.deal 0 [steadyCard]) [] (.whole 12) [] stillChance =
        (.ok l₀, c₁) ∧
      l₀.endTurn lateSchedule c₁ = (.error (.badValue (.notAnAttribute (.text "bogus"))), c₂) ∧
      runLesson l₀ .first lateSchedule c₁ =
        (.error (.badValue (.notAnAttribute (.text "bogus"))), c₃) := by
  have hfails : (lateStart.1.toOption.any fun l₀ =>
      misnames "bogus" (l₀.endTurn lateSchedule lateStart.2).1 &&
        misnames "bogus" (runLesson l₀ .first lateSchedule lateStart.2).1) = true := by
    decide +kernel
  rcases hopen : lateStart with ⟨f | l₀, c₁⟩ <;> rw [hopen] at hfails
  · cases hfails
  · obtain ⟨hend, hrun⟩ := Bool.and_eq_true_iff.1 hfails
    exact ⟨l₀, c₁, _, _, hopen, Prod.ext (eq_error_of_misnames hend) rfl,
      Prod.ext (eq_error_of_misnames hrun) rfl⟩

end CardLesson
