/-
# The frame of effects

Most of a lesson is beyond the reach of effects: its turn and its phase, its stats, the cards that
are out of play, the drinks, the catalog and the log stay as they were. Of the buffs only immunities
and bans on genki are ever worked on. All others outlast every effect, as they are and in their
order, and what is granted comes after them, under ids that no buff had before.

So the log, which is written when all effects are done, is only ever added to.

Key definitions: `Framed`, `Outlasts`, `Grown`.
Key theorems: `Outlasts.filter_unworn`, `Grown.trans`, `Reaches.grown`, `effects_keep_frame`.
-/
import CardLesson.Proofs.Rejection

namespace CardLesson

variable {l l' : Lesson} {c c' : Chance} {b : Buff} {bs bs₁ bs' : List Buff}

/-! ### What is out of reach -/

/-- All that effects cannot touch is as it was. -/
structure Framed (l l' : Lesson) : Prop where
  turn : l'.turn = l.turn
  phase : l'.phase = l.phase
  turnStat : l'.turnStat = l.turnStat
  vocal : l'.vocal = l.vocal
  dance : l'.dance = l.dance
  visual : l'.visual = l.visual
  maxHp : l'.maxHp = l.maxHp
  onHold : l'.onHold = l.onHold
  excluded : l'.excluded = l.excluded
  drinks : l'.drinks = l.drinks
  catalog : l'.catalog = l.catalog
  logs : l'.logs = l.logs

theorem Framed.of_reworked (h : l' = l.reworkedAs l') : Framed l l' := by
  constructor <;> (rw [h]; rfl)

/-! ### Buffs that were there before -/

/-- How buffs fare: each stays as it is, in its place, unless it is one that effects work on. Such a
buff may go, or have other turns and uses left. -/
inductive Outlasts : List Buff → List Buff → Prop
  | nil : Outlasts [] []
  | kept {b : Buff} {bs bs' : List Buff} (rest : Outlasts bs bs') : Outlasts (b :: bs) (b :: bs')
  | worn {b : Buff} {bs bs' : List Buff} {duration count : Datum} (hb : b.isWorn = true)
      (rest : Outlasts bs bs') : Outlasts (b :: bs) ({ b with duration, count } :: bs')
  | gone {b : Buff} {bs bs' : List Buff} (hb : b.isWorn = true) (rest : Outlasts bs bs') :
      Outlasts (b :: bs) bs'

namespace Outlasts

theorem refl : ∀ bs : List Buff, Outlasts bs bs
  | [] => .nil
  | _ :: bs => .kept (refl bs)

theorem trans (h : Outlasts bs bs₁) (h' : Outlasts bs₁ bs') : Outlasts bs bs' := by
  induction h generalizing bs' with
  | nil => exact h'
  | kept _ ih =>
    cases h' with
    | kept rest => exact .kept (ih rest)
    | worn hb rest => exact .worn hb (ih rest)
    | gone hb rest => exact .gone hb (ih rest)
  | worn hb _ ih =>
    cases h' with
    | kept rest => exact .worn hb (ih rest)
    | worn _ rest => exact .worn hb (ih rest)
    | gone _ rest => exact .gone hb (ih rest)
  | gone hb _ ih => exact .gone hb (ih h')

/-- Of two lists of buffs together each fares by itself. -/
theorem append_split : ∀ {bs more after : List Buff}, Outlasts (bs ++ more) after →
    ∃ bs' more', after = bs' ++ more' ∧ Outlasts bs bs' ∧ Outlasts more more'
  | [], _, after, h => ⟨[], after, rfl, .nil, h⟩
  | b :: bs, _, _, h => by
    cases h with
    | kept rest =>
      obtain ⟨bs', more', rfl, hbs, hmore⟩ := append_split rest
      exact ⟨b :: bs', more', rfl, .kept hbs, hmore⟩
    | worn hb rest =>
      obtain ⟨bs', more', rfl, hbs, hmore⟩ := append_split rest
      exact ⟨_ :: bs', more', rfl, .worn hb hbs, hmore⟩
    | gone hb rest =>
      obtain ⟨bs', more', rfl, hbs, hmore⟩ := append_split rest
      exact ⟨bs', more', rfl, .gone hb hbs, hmore⟩

/-- What is left of a buff keeps its id, and is as new as it was. -/
theorem mem (h : Outlasts bs bs') : ∀ b' ∈ bs', ∃ b ∈ bs, b'.id = b.id ∧ b'.isNew = b.isNew := by
  induction h with
  | nil => exact fun b' hb' => absurd hb' List.not_mem_nil
  | @kept b bs bs' _ ih =>
    intro b' hb'
    rcases List.mem_cons.1 hb' with rfl | hb'
    · exact ⟨b', List.mem_cons_self, rfl, rfl⟩
    · obtain ⟨x, hx, heq⟩ := ih b' hb'
      exact ⟨x, List.mem_cons_of_mem b hx, heq⟩
  | @worn b bs bs' duration count _ _ ih =>
    intro b' hb'
    rcases List.mem_cons.1 hb' with rfl | hb'
    · exact ⟨b, List.mem_cons_self, rfl, rfl⟩
    · obtain ⟨x, hx, heq⟩ := ih b' hb'
      exact ⟨x, List.mem_cons_of_mem b hx, heq⟩
  | @gone b bs bs' _ _ ih =>
    intro b' hb'
    obtain ⟨x, hx, heq⟩ := ih b' hb'
    exact ⟨x, List.mem_cons_of_mem b hx, heq⟩

/-- **Buffs that effects do not work on are left as they are**, in their order. -/
theorem filter_unworn (h : Outlasts bs bs') :
    bs'.filter (fun b => !b.isWorn) = bs.filter (fun b => !b.isWorn) := by
  induction h with
  | nil => rfl
  | kept _ ih => simp only [List.filter_cons, ih]
  | @worn b bs bs' duration count hb _ ih =>
    have hb' : ({ b with duration, count } : Buff).isWorn = true := hb
    rw [List.filter_cons_of_neg (by simp [hb']), List.filter_cons_of_neg (by simp [hb]), ih]
  | @gone b bs bs' hb _ ih => rw [List.filter_cons_of_neg (by simp [hb]), ih]

end Outlasts

theorem Buff.isWorn_of_is {k : EffectKind} (hk : k = .noDebuff ∨ k.isExtendable = true)
    (hb : b.is k = true) : b.isWorn = true := by
  by_contra hworn
  rw [is_of_not_worn hk (Bool.eq_false_iff.2 hworn)] at hb
  cases hb

theorem Reworked.outlasts {k : EffectKind} (hk : k = .noDebuff ∨ k.isExtendable = true)
    (h : Reworked k bs bs') : Outlasts bs bs' := by
  induction h with
  | gone hb => exact .gone (Buff.isWorn_of_is hk hb) (.refl _)
  | changed hb _ _ => exact .worn (Buff.isWorn_of_is hk hb) (.refl _)
  | later _ ih => exact .kept ih

/-! ### Buffs that come after them -/

/-- What is left of some buffs, and after it buffs that were granted: they are new, and their ids
are among those that were given out meanwhile. -/
structure Grown (bs : List Buff) (named : Nat) (bs' : List Buff) (named' : Nat) : Prop where
  names : named ≤ named'
  buffs : ∃ kept new, bs' = kept ++ new ∧ Outlasts bs kept ∧
    ∀ b ∈ new, b.isNew = true ∧ ∃ n, named < n ∧ n ≤ named' ∧ b.id = buffId n

namespace Grown

variable {named named₁ named' : Nat}

theorem of_outlasts (hn : named ≤ named') (h : Outlasts bs bs') : Grown bs named bs' named' :=
  ⟨hn, bs', [], (List.append_nil bs').symm, h, fun _ hb => absurd hb List.not_mem_nil⟩

/-- What was granted first may be worked on later, and stays among what was granted. -/
theorem trans (h : Grown bs named bs₁ named₁) (h' : Grown bs₁ named₁ bs' named') :
    Grown bs named bs' named' := by
  obtain ⟨hn, kept₁, new₁, rfl, hkept₁, hnew₁⟩ := h
  obtain ⟨hn', kept₂, new₂, rfl, hkept₂, hnew₂⟩ := h'
  obtain ⟨kept, left, rfl, hkept, hleft⟩ := hkept₂.append_split
  refine ⟨Nat.le_trans hn hn', kept, left ++ new₂, List.append_assoc kept left new₂,
    hkept₁.trans hkept, fun b hb => ?_⟩
  rcases List.mem_append.1 hb with hb | hb
  · obtain ⟨b₀, hb₀, hid, hnew⟩ := hleft.mem b hb
    obtain ⟨hisNew, n, hlt, hle, hnum⟩ := hnew₁ b₀ hb₀
    exact ⟨hnew.trans hisNew, n, hlt, Nat.le_trans hle hn', hid.trans hnum⟩
  · obtain ⟨hisNew, n, hlt, hle, hnum⟩ := hnew₂ b hb
    exact ⟨hisNew, n, Nat.lt_of_le_of_lt hn hlt, hle, hnum⟩

end Grown

/-- Each thing that effects do to buffs lets them grow. -/
theorem Rebuffed.grown {op : Operation} {triggered : Option Effect} {named named' : Nat}
    (h : Rebuffed op triggered bs named bs' named') : Grown bs named bs' named' := by
  cases h with
  | kept => exact .of_outlasts (Nat.le_refl named) (.refl bs)
  | reworked hk h => exact .of_outlasts (Nat.le_refl named) (h.outlasts hk)
  | @granted k _ =>
    refine ⟨Nat.le_succ named, bs, _, rfl, .refl bs, fun b hb => ?_⟩
    rw [List.mem_singleton.1 hb]
    exact ⟨rfl, named + 1, Nat.lt_succ_self named, Nat.le_refl _, rfl⟩

theorem Performed.grown {t : Task} {new : List Task} (h : Performed l c t new l' c') :
    Grown l.buffs c.named l'.buffs c'.named := by
  rcases h.rebuffed with ⟨heq, hn⟩ | ⟨e, -, hb⟩
  · rw [heq]
    exact .of_outlasts hn (.refl l.buffs)
  · exact hb.grown

/-- Whatever tasks are performed, the buffs only grow. -/
theorem Reaches.grown {s s' : Stage} {ms : List Moment} (h : Reaches s ms s') :
    Grown s.lesson.buffs s.chance.named s'.lesson.buffs s'.chance.named := by
  induction h with
  | refl s => exact .of_outlasts (Nat.le_refl _) (.refl s.lesson.buffs)
  | step now _ ih => exact (perform_spec now).grown.trans ih

/-! ### The frame -/

theorem make_logs_prefix {move : Move} {next : Option Lesson}
    (h : move.make l c = (.ok next, c')) : l.logs <+: (next.getD l).logs := by
  cases next with
  | none => exact List.prefix_refl l.logs
  | some l' =>
    obtain ⟨lines, -, hlogs⟩ := make_some_logs h
    exact ⟨lines, hlogs.symm⟩

/-- **The frame of effects.** Whenever effects are carried out, however deep they may nest, all that
is out of their reach is as it was; the buffs that are neither immunities nor bans on genki are as
they were, in their order, and all that was granted comes after them. So the log that effects are
carried out on, or that a move is made on, is where the log after it begins. -/
theorem effects_keep_frame :
    (∀ (depth : Nat) (es : List Effect) (l : Lesson) (c : Chance) (r : Resolution) (c' : Chance),
      resolveWithin depth es l c = (.ok r, c') → Framed l r.lesson ∧
        ∃ kept new, r.lesson.buffs = kept ++ new ∧ Outlasts l.buffs kept ∧
          kept.filter (fun b => !b.isWorn) = l.buffs.filter (fun b => !b.isWorn) ∧
          ∀ b ∈ new, b.isNew = true ∧ ∃ n, c.named < n ∧ n ≤ c'.named ∧ b.id = buffId n) ∧
    (∀ (es : List Effect) (l : Lesson) (c : Chance) (l' : Lesson) (c' : Chance),
      applyEffects es l c = (.ok l', c') → l.logs <+: l'.logs) ∧
    ∀ (move : Move) (l : Lesson) (c : Chance) (next : Option Lesson) (c' : Chance),
      move.make l c = (.ok next, c') → l.logs <+: (next.getD l).logs := by
  refine ⟨fun depth es l c r c' h => ?_, fun es l c l' c' h => applyEffects_logs h,
    fun move l c next c' h => make_logs_prefix h⟩
  obtain ⟨ms, hrun⟩ := exists_run h
  obtain ⟨-, kept, new, hbuffs, hkept, hnew⟩ := hrun.grown
  exact ⟨.of_reworked hrun.frame, kept, new, hbuffs, hkept, hkept.filter_unworn, hnew⟩

/-- A lesson in its third turn with an immunity of one use and a bonus. -/
def guardedLesson : Lesson where
  turn := .whole 3
  hand := [⟨.dealt 0, .plain "a"⟩]
  buffs := [
    { id := buffId 1, kind := .known .noDebuff, duration := .whole (-1), name := "i"
      count := .whole 1 },
    { id := buffId 2, kind := .known .scoreBonus, duration := .whole 2, name := "s" }]
  logs := ["Turn 3 start"]
  drinks := [⟨{ id := .text "d", name := .text "d", effects := [.gain (.known .genki) (.whole 3)] },
    false⟩]

/-- A cost increase, which the immunity absorbs, and then a ban on genki that is extended at
once. -/
def absorbedEffects : List Effect :=
  [.grant (.known .costIncrease) (.whole 2) .null .null,
    .gate [] [.grant (.known .noGenkiGain) (.whole 2) .null .null,
      .grant (.known .noGenkiGain) (.whole 1) .null .null]]

/-- The immunity is gone, the bonus is as it was, and the log is added to. -/
theorem effects_keep_frame_guarded : ∃ r c₁ l₂ c₂ next c₃,
    resolveWithin 1 absorbedEffects guardedLesson stillChance = (.ok r, c₁) ∧
      applyEffects absorbedEffects guardedLesson stillChance = (.ok l₂, c₂) ∧
      Move.make guardedLesson (.drink (.text "d")) stillChance = (.ok next, c₃) ∧
      (Framed guardedLesson r.lesson ∧ ∃ kept new, r.lesson.buffs = kept ++ new ∧
        kept.filter (fun b => !b.isWorn) = guardedLesson.buffs.drop 1) ∧
      guardedLesson.logs <+: l₂.logs ∧ guardedLesson.logs <+: (next.getD guardedLesson).logs := by
  obtain ⟨hresolve, happly, hmake⟩ := effects_keep_frame
  have hok₁ : (resolveWithin 1 absorbedEffects guardedLesson stillChance).1.toOption.any
      (fun _ => true) = true := by decide +kernel
  have hok₂ : (applyEffects absorbedEffects guardedLesson stillChance).1.toOption.any
      (fun _ => true) = true := by decide +kernel
  have hok₃ : (Move.make guardedLesson (.drink (.text "d")) stillChance).1.toOption.any
      (fun _ => true) = true := by decide +kernel
  obtain ⟨r, c₁, hr, -⟩ := Play.ok_of_any hok₁
  obtain ⟨l₂, c₂, hl₂, -⟩ := Play.ok_of_any hok₂
  obtain ⟨next, c₃, hnext, -⟩ := Play.ok_of_any hok₃
  obtain ⟨hframe, kept, new, hbuffs, -, hkept, -⟩ := hresolve _ _ _ _ _ _ hr
  exact ⟨r, c₁, l₂, c₂, next, c₃, hr, hl₂, hnext, ⟨hframe, kept, new, hbuffs, hkept.trans rfl⟩,
    happly _ _ _ _ _ hl₂, hmake _ _ _ _ _ hnext⟩

end CardLesson
