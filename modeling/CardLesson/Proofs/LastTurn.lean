/-
# Lessons that are played to their last turn

Playing a lesson out goes on from turn to turn until a turn is the last, and nothing in it bounds
the number of turns. What bounds it are the turns that are left. Each end of a turn takes one of
them, and effects take them all or leave them as they are, unless they add turns. So a lesson in
which no effect adds turns comes to its end, whatever decides the plays.

What decides them looks at the lesson and remembers what it wants to. It may name cards that cannot
be played, and it may fail.

Key definitions: `runLessonBy`, `Shortens`, `PlayedOut`, `Stumbles`.
Key theorems: `play_shortens`, `endTurn_shortens`, `playTurn_ends`, `playOut_ends`,
`lesson_is_played_out`.
-/
import CardLesson.Policy
import CardLesson.Proofs.CourseBounds
import CardLesson.Proofs.Rejection

namespace CardLesson

variable {σ : Type}

/-- Plays a lesson to its end as a chooser decides. A play that is rejected stops the turn. -/
def runLessonBy (choose : Chooser σ) (l : Lesson) (s : σ) (schedule : Schedule) : Play Lesson :=
  playLesson choose stopTurn l s schedule

/-! ### The turns that are left -/

variable {l l₁ l' : Lesson} {c c₁ c' : Chance} {ms : List Moment} {kinds : List EffectKind}

/-- The turn is the same, and the last turn is the same or is the present one. -/
structure Shortens (l l' : Lesson) : Prop where
  turn : l'.turn = l.turn
  maxTurns : l'.maxTurns = l.maxTurns ∨ l'.maxTurns = l.turn

namespace Shortens

theorem of_eq (hturn : l'.turn = l.turn) (hmax : l'.maxTurns = l.maxTurns) : Shortens l l' :=
  ⟨hturn, .inl hmax⟩

theorem refl (l : Lesson) : Shortens l l := of_eq rfl rfl

theorem trans (h : Shortens l l₁) (h' : Shortens l₁ l') : Shortens l l' := by
  refine ⟨h'.turn.trans h.turn, ?_⟩
  rcases h'.maxTurns with hsame | hpresent
  · rw [hsame]
    exact h.maxTurns
  · exact .inr (hpresent.trans h.turn)

theorem whole (h : Shortens l l') {t m : Int} (ht : l.turn = .whole t)
    (hm : l.maxTurns = .whole m) :
    l'.turn = .whole t ∧ ∃ m', l'.maxTurns = .whole m' ∧ (m' = m ∨ m' = t) := by
  refine ⟨h.turn.trans ht, ?_⟩
  rcases h.maxTurns with hsame | hpresent
  · exact ⟨m, hsame.trans hm, .inl rfl⟩
  · exact ⟨t, hpresent.trans ht, .inr rfl⟩

end Shortens

/-- An effect on pools adds turns, or it shortens the lesson at most. -/
theorem carryOut_shortens {inner : Resolver} {op : Operation} {tr : Option Effect} {k : EffectKind}
    {r : Resolution} (hpool : k.isPool = true) (hk : k ≠ .addTurn)
    (h : carryOut inner l op tr k c = (.ok r, c')) : Shortens l r.lesson := by
  obtain ⟨hsets, -⟩ := carryOut_sets hpool h
  cases k <;> first
    | exact (hk rfl).elim
    | cases hpool
  case scoreFixed | scoreScaleGenki | scoreScaleImpression | scoreScaleMotivation =>
    obtain ⟨_, _, -, hset⟩ := hsets
    rw [hset]
    exact .of_eq rfl rfl
  case endLesson =>
    rw [hsets]
    exact ⟨rfl, .inr rfl⟩
  all_goals
    obtain ⟨_, hset⟩ := hsets
    rw [hset]
    exact .of_eq rfl rfl

/-- A task that adds no turns shortens the lesson at most. -/
theorem Performed.shortens {t : Task} {new : List Task} (hkinds : .addTurn ∈ kinds)
    (h : Performed l c t new l' c') (ht : t.every (avoids kinds) = true) : Shortens l l' := by
  cases h with
  | @pools e k r hpool hpass hrule =>
    refine carryOut_shortens hpool ?_ hrule
    rintro rfl
    have hnot : l.passes .addTurn e = false :=
      carriesOut_of_avoids hkinds (show (⟨.effect e, l, c⟩ : Moment).task.every _ = true from ht)
    rw [hnot] at hpass
    cases hpass
  | _ => exact .of_eq rfl rfl

theorem Reaches.shortens (hkinds : .addTurn ∈ kinds) {s s' : Stage} (h : Reaches s ms s')
    (hms : ∀ m ∈ ms, m.task.every (avoids kinds) = true) : Shortens s.lesson s'.lesson := by
  induction h with
  | refl s => exact .refl s.lesson
  | step now _ ih =>
    have hfirst := (perform_spec now).shortens hkinds (hms _ List.mem_cons_self)
    exact hfirst.trans (ih fun m hm => hms m (List.mem_cons_of_mem _ hm))

theorem Worked.shortens (hkinds : .addTurn ∈ kinds) {es : List Effect}
    (h : Worked es l c ms l' c') (hms : ∀ m ∈ ms, m.task.every (avoids kinds) = true) :
    Shortens l l' := by
  obtain ⟨l₁, lines, hrun, rfl⟩ := h
  exact (hrun.shortens hkinds hms).trans (.of_eq rfl rfl)

/-- A play from a lesson in which no effect adds turns shortens it at most. -/
theorem play_shortens (hkinds : .addTurn ∈ kinds) (hl : l.Carries (avoids kinds)) {id : Datum}
    (h : l.play id c = (.ok (some l'), c')) : Shortens l l' ∧ l'.Carries (avoids kinds) := by
  obtain ⟨ms, hmade⟩ := play_ok h
  rw [Option.getD_some] at hmade
  obtain ⟨hl', hms⟩ := hmade.carries hl
  refine ⟨?_, hl'⟩
  cases hmade with
  | rejected _ => exact .refl l
  | @played id copy cost pay hp plays fired l₁ l₂ l₃ c₁ c₂ c₃ ms₁ ms₂ ms₃ lines _ _ _ _ _ _ _
      main reacting _ firing =>
    have hms (m : Moment) (hm : m ∈ ms₁ ++ ms₂ ++ ms₃) := (hms m hm).2
    simp only [List.mem_append] at hms
    have hpaid : Shortens l (l.paying copy pay hp plays) := .of_eq rfl rfl
    have hput : Shortens l₃ ((l₃.putAway copy).withLines lines) := by
      unfold Lesson.putAway
      split <;> exact .of_eq rfl rfl
    have hmain := main.shortens hkinds fun m hm => hms m (.inl (.inl hm))
    have hreacting := reacting.shortens hkinds fun m hm => hms m (.inl (.inr hm))
    have hfiring := firing.shortens hkinds fun m hm => hms m (.inr hm)
    exact (((hpaid.trans hmain).trans hreacting).trans hfiring).trans hput

/-- The end of a turn leads to the next one, which what waits for it shortens the lesson to at
most. -/
theorem endTurn_shortens (hkinds : .addTurn ∈ kinds) (hl : l.Carries (avoids kinds))
    {schedule : Schedule} (h : l.endTurn schedule c = (.ok (some l'), c')) :
    l.isFinished = false ∧ l'.Carries (avoids kinds) ∧ ∃ next : Lesson,
      l.turn.add 1 = .ok next.turn ∧ next.maxTurns = l.maxTurns ∧ Shortens next l' := by
  obtain ⟨ms, hmade⟩ := endTurn_ok h
  rw [Option.getD_some] at hmade
  obtain ⟨hl', hms⟩ := hmade.carries hl
  cases hmade with
  | rejected hnone => cases h.symm.trans hnone
  | @ended schedule next _ c₁ _ _ left turns starting =>
    have turned := (nextTurn_ok turns).1
    refine ⟨left, hl', next, turned.turn, ?_, starting.shortens hkinds fun m hm => (hms m hm).2⟩
    rw [turned.frame]

/-! ### Playing a turn -/

variable {choose : Chooser σ} {schedule : Schedule} {f : Fault} {s s' : σ}

/-- Accepted moves lead to a lesson in which the choice of a play, a play or the end of the turn
fails. -/
def Stumbles (choose : Chooser σ) (schedule : Schedule) (l : Lesson) (c : Chance) (f : Fault) :
    Prop :=
  ∃ moves l₁ c₁, Accepted l c moves l₁ c₁ ∧ ((∃ s, choose s c₁.named l₁ = .error f) ∨
    (∃ id, (l₁.play id c₁).1 = .error f) ∨ (l₁.endTurn schedule c₁).1 = .error f)

theorem Accepted.append {moves moves' : List Move} (h : Accepted l c moves l₁ c₁)
    (h' : Accepted l₁ c₁ moves' l' c') : Accepted l c (moves ++ moves') l' c' := by
  induction h with
  | nil => exact h'
  | cons first _ ih => exact .cons first (ih h')

theorem Stumbles.after {moves : List Move} (h : Accepted l c moves l₁ c₁)
    (hf : Stumbles choose schedule l₁ c₁ f) : Stumbles choose schedule l c f := by
  obtain ⟨moves', l₂, c₂, hmoves, hfails⟩ := hf
  exact ⟨moves ++ moves', l₂, c₂, h.append hmoves, hfails⟩

/-- One play of a turn: what was decided, and what became of it. -/
theorem playTurn_apply (plays : Nat) (s : σ) (l : Lesson) (c : Chance) :
    playTurn choose stopTurn (plays + 1) s l c = match choose s c.named l with
      | .error f => (.error f, c)
      | .ok (d, s') => match d.card with
        | none => (.ok (l, s'), c)
        | some id => match l.play id c with
          | (.error f, c') => (.error f, c')
          | (.ok none, c') => (.ok (l, s'), c')
          | (.ok (some l'), c') => playTurn choose stopTurn plays s' l' c' := by
  rw [playTurn, Play.bind_apply, Play.luck_apply]
  show (liftM (choose s c.named l) >>= _ : Play (Lesson × σ)) c = _
  rw [Play.bind_apply, Play.except_apply]
  rcases choose s c.named l with f | ⟨d, s'⟩
  · rfl
  dsimp only
  rcases d.card with _ | id
  · rfl
  dsimp only
  rw [Play.bind_apply]
  rcases l.play id c with ⟨f | _ | l', c'⟩ <;> rfl

/-- **The plays of a turn**: accepted ones, no more than there may be, or something fails. -/
theorem playTurn_ends (choose : Chooser σ) (schedule : Schedule) : ∀ (plays : Nat) (s : σ)
    (l : Lesson) (c : Chance), (∃ (ids : List Datum) (l' : Lesson) (s' : σ) (c' : Chance),
      playTurn choose stopTurn plays s l c = (.ok (l', s'), c') ∧
      Accepted l c (ids.map .play) l' c' ∧ ids.length ≤ plays) ∨
    ∃ f c', playTurn choose stopTurn plays s l c = (.error f, c') ∧ Stumbles choose schedule l c f
  | 0, s, l, c => .inl ⟨[], l, s, c, rfl, .nil l c, Nat.le_refl 0⟩
  | plays + 1, s, l, c => by
    rw [playTurn_apply]
    rcases hchoice : choose s c.named l with f | ⟨d, s'⟩
    · exact .inr ⟨f, c, rfl, [], l, c, .nil l c, .inl ⟨s, hchoice⟩⟩
    dsimp only
    rcases d.card with _ | id
    · exact .inl ⟨[], l, s', c, rfl, .nil l c, Nat.zero_le _⟩
    dsimp only
    rcases hplay : l.play id c with ⟨f | _ | l₁, c₁⟩
    · refine .inr ⟨f, c₁, rfl, [], l, c, .nil l c, .inr (.inl ⟨id, ?_⟩)⟩
      rw [hplay]
    · obtain rfl := (play_none_iff.1 hplay).2
      exact .inl ⟨[], l, s', c₁, rfl, .nil l c₁, Nat.zero_le _⟩
    · have hfirst : Accepted l c [.play id] l₁ c₁ := .cons hplay (.nil l₁ c₁)
      rcases playTurn_ends choose schedule plays s' l₁ c₁ with
        ⟨ids, l', s'', c', hout, hids, hle⟩ | ⟨f, c', hout, hf⟩
      · exact .inl ⟨id :: ids, l', s'', c', hout, hfirst.append hids, Nat.succ_le_succ hle⟩
      · exact .inr ⟨f, c', hout, hf.after hfirst⟩

/-- Plays shorten a lesson at most. -/
theorem Accepted.shortens (hkinds : .addTurn ∈ kinds) : ∀ {ids : List Datum} {l : Lesson}
    {c : Chance}, Accepted l c (ids.map .play) l' c' → l.Carries (avoids kinds) →
      Shortens l l' ∧ l'.Carries (avoids kinds)
  | [], _, _, h, hl => by
    cases h
    exact ⟨.refl _, hl⟩
  | _ :: _, _, _, h, hl => by
    cases h with
    | cons first rest =>
      obtain ⟨hfirst, hl₁⟩ := play_shortens hkinds hl first
      obtain ⟨hrest, hl'⟩ := Accepted.shortens hkinds rest hl₁
      exact ⟨hfirst.trans hrest, hl'⟩

/-! ### Playing turn after turn -/

/-- A lesson is played to its last turn in rounds: the plays of a turn and the end of it, and at
last the plays of a turn that does not end. -/
inductive PlayedOut (schedule : Schedule) :
    Lesson → Chance → List (List Datum) → Lesson → Chance → Prop
  | last {l l' : Lesson} {c c' : Chance} {ids : List Datum}
      (plays : Accepted l c (ids.map .play) l' c') (last : l'.isFinished = true) :
      PlayedOut schedule l c [ids] l' c'
  | turn {l l₁ l₂ l' : Lesson} {c c₁ c₂ c' : Chance} {ids : List Datum} {rounds : List (List Datum)}
      (plays : Accepted l c (ids.map .play) l₁ c₁)
      (ends : l₁.endTurn schedule c₁ = (.ok (some l₂), c₂))
      (rest : PlayedOut schedule l₂ c₂ rounds l' c') :
      PlayedOut schedule l c (ids :: rounds) l' c'

theorem PlayedOut.isFinished {rounds : List (List Datum)}
    (h : PlayedOut schedule l c rounds l' c') : l'.isFinished = true := by
  induction h with
  | last _ last => exact last
  | turn _ _ _ ih => exact ih

/-- One round: the plays of the turn, and the end of it. -/
theorem playOut_apply (turns : Nat) (s : σ) (l : Lesson) (c : Chance) :
    playOut choose stopTurn schedule turns s l c =
      match playTurn choose stopTurn Balance.handLimit s l c with
      | (.error f, c₁) => (.error f, c₁)
      | (.ok (l₁, s'), c₁) => match l₁.endTurn schedule c₁ with
        | (.error f, c₂) => (.error f, c₂)
        | (.ok none, c₂) => (.ok l₁, c₂)
        | (.ok (some l₂), c₂) => match turns with
          | 0 => (.error .tooDeep, c₂)
          | turns + 1 => playOut choose stopTurn schedule turns s' l₂ c₂ := by
  rw [playOut, Play.bind_apply]
  rcases playTurn choose stopTurn Balance.handLimit s l c with ⟨f | ⟨l₁, s'⟩, c₁⟩
  · rfl
  dsimp only
  rw [Play.bind_apply]
  rcases l₁.endTurn schedule c₁ with ⟨f | _ | l₂, c₂⟩
  · rfl
  · rfl
  · cases turns <;> rfl

theorem isFinished_whole {t m : Int} (ht : l.turn = .whole t) (hm : l.maxTurns = .whole m) :
    l.isFinished = decide (m ≤ t) := by
  rw [Lesson.isFinished, ht, hm, Quantity.le_whole]

/-- A turn that ends is not the last one. The next one has its number, and what waits for it leaves
the last turn where it is or makes it this one. -/
theorem endTurn_whole (hkinds : .addTurn ∈ kinds) (hl : l.Carries (avoids kinds)) {t m : Int}
    (ht : l.turn = .whole t) (hm : l.maxTurns = .whole m)
    (h : l.endTurn schedule c = (.ok (some l'), c')) :
    t < m ∧ l'.Carries (avoids kinds) ∧ l'.turn = .whole (t + 1) ∧
      ∃ m', l'.maxTurns = .whole m' ∧ (m' = m ∨ m' = t + 1) := by
  obtain ⟨hleft, hl', next, hnext, hmax, hshort⟩ := endTurn_shortens hkinds hl h
  have hlt : t < m := by
    rw [isFinished_whole ht hm, decide_eq_false_iff_not] at hleft
    exact Int.not_le.1 hleft
  have hnext : next.turn = .whole (t + 1) := by
    rw [ht] at hnext
    exact (Except.ok.inj hnext).symm
  obtain ⟨ht', m', hm', hsame⟩ := hshort.whole hnext (hmax.trans hm)
  exact ⟨hlt, hl', ht', m', hm', hsame⟩

/-- **As many turns as are left are enough**: the lesson is played to its last turn, or something
fails. A lesson that is past its last turn stays in its turn, all others end in the last one. -/
theorem playOut_ends (hkinds : .addTurn ∈ kinds) (choose : Chooser σ) (schedule : Schedule) :
    ∀ (turns : Nat) (s : σ) {l : Lesson} (c : Chance) {t m : Int}, l.turn = .whole t →
      l.maxTurns = .whole m → l.Carries (avoids kinds) → (m - t).toNat ≤ turns →
      (∃ rounds l' c' m', playOut choose stopTurn schedule turns s l c = (.ok l', c') ∧
        PlayedOut schedule l c rounds l' c' ∧ rounds.length ≤ (m - t).toNat + 1 ∧
        (∀ ids ∈ rounds, ids.length ≤ Balance.handLimit) ∧
        l'.maxTurns = .whole m' ∧ l'.turn = .whole (max t m') ∧ (t ≤ m → t ≤ m')) ∨
      ∃ f, (playOut choose stopTurn schedule turns s l c).1 = .error f ∧
        Stumbles choose schedule l c f
  | turns, s, l, c, t, m, ht, hm, hl, hle => by
    rw [playOut_apply]
    rcases playTurn_ends choose schedule Balance.handLimit s l c with
      ⟨ids, l₁, s', c₁, hturn, hids, hlen⟩ | ⟨f, c₁, hturn, hf⟩
    · rw [hturn]
      dsimp only
      obtain ⟨hshort, hl₁⟩ := hids.shortens hkinds hl
      obtain ⟨ht₁, m₁, hm₁, hsame⟩ := hshort.whole ht hm
      rcases hend : l₁.endTurn schedule c₁ with ⟨f | _ | l₂, c₂⟩
      · refine .inr ⟨f, rfl, _, l₁, c₁, hids, .inr (.inr ?_)⟩
        rw [hend]
      · -- the turn was the last, and perhaps more than that
        obtain ⟨hlast, rfl⟩ := endTurn_none_iff.1 hend
        have hlast : l₁.isFinished = true := hlast
        have hreached : m₁ ≤ t := by
          rw [isFinished_whole ht₁ hm₁, decide_eq_true_iff] at hlast
          exact hlast
        refine .inl ⟨[ids], l₁, c₂, m₁, rfl, .last hids hlast, ?_, ?_, hm₁, ?_, ?_⟩
        · exact Nat.succ_le_succ (Nat.zero_le _)
        · exact fun ids' hids' => (List.mem_singleton.1 hids') ▸ hlen
        · rw [ht₁, max_eq_left hreached]
        · omega
      · obtain ⟨hlt, hl₂, ht₂, m₂, hm₂, hsame₂⟩ := endTurn_whole hkinds hl₁ ht₁ hm₁ hend
        have hmore : (m₂ - (t + 1)).toNat + 1 ≤ (m - t).toNat := by omega
        cases turns with
        | zero => omega
        | succ turns =>
          rcases playOut_ends hkinds choose schedule turns s' c₂ ht₂ hm₂ hl₂ (by omega) with
            ⟨rounds, l', c', m', hout, hplayed, hrounds, hplays, hm', ht', hreach⟩ | ⟨f, hout, hf⟩
          · refine .inl
              ⟨ids :: rounds, l', c', m', hout, .turn hids hend hplayed, ?_, ?_, hm', ?_, ?_⟩
            · exact Nat.succ_le_succ (by omega)
            · exact fun ids' hids' => (List.mem_cons.1 hids').elim (· ▸ hlen) (hplays ids')
            · rw [ht']
              congr 1
              omega
            · omega
          · refine .inr ⟨f, hout, ?_⟩
            have hround : Accepted l c (ids.map .play ++ [.endTurn schedule]) l₂ c₂ :=
              hids.append (.cons hend (.nil l₂ c₂))
            exact hf.after hround
    · rw [hturn]
      exact .inr ⟨f, rfl, hf⟩

/-! ### Playing a lesson to its end -/

/-- **A lesson in which no effect adds turns is played to its last turn**, whatever decides the
plays and whether or not they can be made. When nothing fails on the way it takes no more ends of a
turn than there are turns left, with five accepted plays in a turn at most; it is over then, in the
last turn, or in the turn it was in when that was past the last one. -/
theorem lesson_is_played_out (choose : Chooser σ) (s : σ) (schedule : Schedule) (c : Chance)
    {t m : Int} (ht : l.turn = .whole t) (hm : l.maxTurns = .whole m)
    (hl : l.Carries (avoids [.addTurn])) :
    (∃ rounds l' c' m', runLessonBy choose l s schedule c = (.ok l', c') ∧
      PlayedOut schedule l c rounds l' c' ∧ rounds.length ≤ (m - t).toNat + 1 ∧
      (∀ ids ∈ rounds, ids.length ≤ 5) ∧
      l'.isFinished = true ∧ l'.maxTurns = .whole m' ∧ l'.turn = .whole (max t m')) ∨
    ∃ f, (runLessonBy choose l s schedule c).1 = .error f ∧ Stumbles choose schedule l c f := by
  have hrun : runLessonBy choose l s schedule c =
      playOut choose stopTurn schedule ((m - t).toNat + addedTurnLimit) s l c := by
    rw [runLessonBy, playLesson, ht, hm, Quantity.sub_whole, Play.bind_apply, Play.except_apply]
    dsimp only
    rw [Quantity.truncate_whole, Play.bind_apply, Play.except_apply]
  rw [hrun]
  refine (playOut_ends List.mem_cons_self choose schedule _ s c ht hm hl
    (Nat.le_add_right _ _)).imp_left ?_
  rintro ⟨rounds, l', c', m', hout, hplayed, hrounds, hplays, hm', ht', -⟩
  exact ⟨rounds, l', c', m', hout, hplayed, hrounds, hplays, hplayed.isFinished, hm', ht'⟩

/-- A lesson of three turns with a card that is drawn anew in each turn. -/
def shortLesson : Lesson := { maxTurns := .whole 3, deck := Copy.deal 0 [steadyCard] }

theorem shortLesson_carries : shortLesson.Carries (avoids [.addTurn]) where
  zones x hx := by
    simp only [Lesson.zones, shortLesson, Copy.deal, List.append_nil, List.mem_singleton] at hx
    rw [hx]
    rfl
  catalog x hx := absurd hx List.not_mem_nil
  buffs b hb := absurd hb List.not_mem_nil
  drinks slot hslot := absurd hslot List.not_mem_nil

/-- The card is named in each turn, whether it can be played or not. -/
theorem short_lesson_is_played_out : ∃ rounds l' c',
    runLesson shortLesson (.fixed (.text "s")) [] stillChance = (.ok l', c') ∧
      PlayedOut [] shortLesson stillChance rounds l' c' ∧ rounds.length ≤ 3 ∧
      l'.turn = .whole 3 := by
  have hok : ((runLesson shortLesson (.fixed (.text "s")) [] stillChance).1.toOption.any
      fun l' => l'.maxTurns == .whole 3) = true := by decide +kernel
  obtain ⟨l', c', hrun, hmax⟩ := Play.ok_of_any hok
  have hmax : l'.maxTurns = .whole 3 := eq_of_beq hmax
  have hpolicy : runLesson shortLesson (.fixed (.text "s")) [] =
      runLessonBy Policy.select shortLesson (.fixed (.text "s")) [] := rfl
  rcases lesson_is_played_out Policy.select (.fixed (.text "s")) [] stillChance (t := 1) (m := 3)
    rfl rfl shortLesson_carries with ⟨rounds, l₁, c₁, m', hout, hplayed, hrounds, -, -, hm', ht'⟩ |
      ⟨f, hout, -⟩
  · rw [← hpolicy, hrun] at hout
    cases hout
    rw [hmax] at hm'
    cases hm'
    exact ⟨rounds, l', c', hrun, hplayed, hrounds, ht'⟩
  · rw [← hpolicy, hrun] at hout
    cases hout

end CardLesson
