/-
# How cards come into the hand and leave it

Of all that tasks do, five things change the hand: a card leaves it to be triggered, cards are drawn
to it as far as there is room, it is swapped for as many cards, and its cards are upgraded; and each
turn begins with a hand that is drawn anew. So a property of hands that these keep is a property of
every hand that a course comes to.

Key definitions: `HandMoved`, `HandLaw`.
Key theorems: `perform_handMoved`, `HandLaw.made`, `HandLaw.course`.
-/
import CardLesson.Proofs.Course

namespace CardLesson

variable {l l' : Lesson} {c c' : Chance} {ms : List Moment}

/-! ### What tasks do to the hand -/

/-- The hand that a task leaves. -/
inductive HandMoved (l : Lesson) (c : Chance) : List Copy → Prop
  | kept : HandMoved l c l.hand
  | left (copy : Copy) : HandMoved l c (removeCopy l.hand copy)
  | drew {count : Nat} {d : Drawn} {c' : Chance}
      (room : l.hand.length + count ≤ Balance.handLimit)
      (hd : drawCards l.deck l.discard count l.hand c = (.ok d, c')) :
      HandMoved l c (l.hand ++ d.hand)
  | swapped {d : Drawn} {c' : Chance}
      (hd : drawCards l.deck (l.discard ++ l.hand) l.hand.length [] c = (.ok d, c')) :
      HandMoved l c d.hand
  | upgraded {held : List Datum} {hand : List Copy}
      (hheld : (l.hand.mapM fun x => x.id.key : Except Fault (List Datum)) = .ok held)
      (hhand : upgradeFrom l.catalog held l.hand = .ok hand) : HandMoved l c hand

/-- Effects that leave the hand alone. -/
theorem Performed.hand_eq {e : Effect} {new : List Task} (h : Performed l c (.effect e) new l' c')
    (hdraw : ¬l.passes .drawCard e = true) (hswap : ¬l.passes .swapHand e = true)
    (hupgrade : ¬l.passes .upgradeHand e = true) : l'.hand = l.hand := by
  cases h with
  | pools hk _ hr =>
    rw [(carryOut_pools hk hr).1]
    rfl
  | drew h => exact absurd h hdraw
  | swapped h => exact absurd h hswap
  | upgraded h => exact absurd h hupgrade
  | _ => rfl

/-- A draw never goes beyond the room that is left in the hand. -/
theorem drawForEffect_handMoved {op : Operation} {r : Resolution}
    (h : drawForEffect l op c = (.ok r, c')) : HandMoved l c r.lesson.hand := by
  unfold drawForEffect at h
  obtain ⟨requested, c₁, hr, h⟩ := Play.bind_ok.1 h
  obtain ⟨-, rfl⟩ := Play.except_ok.1 hr
  split at h
  · obtain ⟨rfl, rfl⟩ := Play.pure_ok.1 h
    exact .kept
  · obtain ⟨d, c₂, hd, h⟩ := Play.bind_ok.1 h
    obtain ⟨rfl, rfl⟩ := Play.pure_ok.1 h
    exact .drew (by omega) hd

theorem swapHand_handMoved {r : Resolution} (h : swapHand l c = (.ok r, c')) :
    HandMoved l c r.lesson.hand := by
  obtain ⟨d, c₁, hd, h⟩ := Play.bind_ok.1 h
  obtain ⟨rfl, rfl⟩ := Play.pure_ok.1 h
  exact .swapped hd

theorem upgradeHand_handMoved {r : Resolution} (h : upgradeHand l = .ok r) :
    HandMoved l c r.lesson.hand := by
  obtain ⟨held, hheld, h⟩ := Play.except_bind_ok.1 h
  obtain ⟨hand, hhand, h⟩ := Play.except_bind_ok.1 h
  obtain rfl := Play.except_pure_ok.1 h
  exact .upgraded hheld hhand

/-- **What a task does to the hand.** -/
theorem perform_handMoved {t : Task} {new : List Task} (h : perform l t c = (.ok (new, l'), c')) :
    HandMoved l c l'.hand := by
  cases t with
  | card copy =>
    obtain ⟨heq, rfl⟩ := Play.pure_ok.1 h
    cases heq
    exact .left copy
  | effect e =>
    cases perform_handled h with
    | done hadm =>
      obtain ⟨⟨bs, hr, -⟩, -⟩ := admission_done hadm c.named
      rw [hr]
      exact .kept
    | gate _ => exact .kept
    | chose _ _ => exact .kept
    | @rule k r _ hp hgate htrigger hr =>
      have hkind := (passes_iff.1 hp).1
      by_cases hdraw : k = .drawCard
      · subst hdraw
        exact drawForEffect_handMoved hr
      by_cases hswap : k = .swapHand
      · subst hswap
        exact swapHand_handMoved hr
      by_cases hupgrade : k = .upgradeHand
      · subst hupgrade
        exact upgradeHand_handMoved (Play.except_ok.1 hr).1
      · rw [(carryOut_spec hp hgate htrigger hr).hand_eq (not_passes_of_kind_ne hkind hdraw)
          (not_passes_of_kind_ne hkind hswap) (not_passes_of_kind_ne hkind hupgrade)]
        exact .kept

/-! ### What moves keep -/

/-- A property of hands that every task keeps, and that the hand has that a turn begins with. -/
structure HandLaw (P : List Copy → Prop) : Prop where
  task : ∀ {l : Lesson} {c : Chance} {hand : List Copy}, HandMoved l c hand → P l.hand → P hand
  dealt : ∀ {deck discard : List Copy} {c c' : Chance} {d : Drawn},
    drawCards deck discard (min Balance.baseDraw Balance.handLimit) [] c = (.ok d, c') → P d.hand

namespace HandLaw

variable {P : List Copy → Prop}

theorem reaches (hP : HandLaw P) {s s' : Stage} (h : Reaches s ms s') (hl : P s.lesson.hand) :
    P s'.lesson.hand := by
  induction h with
  | refl => exact hl
  | step now _ ih => exact ih (hP.task (perform_handMoved now) hl)

theorem worked (hP : HandLaw P) {es : List Effect} (h : Worked es l c ms l' c') (hl : P l.hand) :
    P l'.hand := by
  obtain ⟨l₁, lines, hrun, rfl⟩ := h
  have hend : P l₁.hand := hP.reaches hrun hl
  exact hend

theorem turned (hP : HandLaw P) {next : Lesson} (h : Turned l next) : P next.hand := by
  obtain ⟨c, d, c', hd, heq⟩ := h.hand
  rw [heq]
  exact hP.dealt hd

/-- A move keeps what the law says of the hand. -/
theorem made (hP : HandLaw P) {move : Move} (h : Made l c move ms l' c') (hl : P l.hand) :
    P l'.hand := by
  cases h with
  | rejected _ => exact hl
  | @played id copy cost pay hp plays fired l₁ l₂ l₃ c₁ c₂ c₃ ms₁ ms₂ ms₃ lines _ _ _ _ _ _ _
      main reacting _ firing =>
    have hpaid : P (l.paying copy pay hp plays).hand := hP.task (c := c) (.left copy) hl
    have hend : P l₃.hand := hP.worked firing (hP.worked reacting (hP.worked main hpaid))
    show P (l₃.putAway copy).hand
    unfold Lesson.putAway
    split <;> exact hend
  | ended _ turns starting => exact hP.worked starting (hP.turned (nextTurn_ok turns).1)
  | @drunk id drink drinks l₁ _ _ lines _ drinking =>
    have hend : P l₁.hand := hP.worked drinking hl
    exact hend

theorem course (hP : HandLaw P) {moves : List Move} (h : Course l c moves ms l' c')
    (hl : P l.hand) : P l'.hand := by
  induction h with
  | nil => exact hl
  | cons first _ ih => exact ih (hP.made first hl)

end HandLaw

end CardLesson
