/-
# Carrying out effects follows their run

Carrying out effects agrees with the run of their tasks: when it returns, the run ends with the same
lesson and chance; when it fails, the run comes to a task that fails in the same way. The third
outcome is a nesting that is too deep, which no task knows. A card leaves the hand before its
effects are carried out, so a nesting cannot be deeper than the hand was long at its start unless
cards were drawn on the way, and a draw brings no more than a hand can hold: a run that nests deep
is one that draws often.

Key definitions: `Follows`, `lessonAfter`.
Key theorems: `Reaches.hand_le`, `resolveWithin_follows`, `exists_run`, `exists_run_one`.
-/
import CardLesson.Proofs.Steps

namespace CardLesson

/-! ### How a hand grows -/

/-- A task adds cards to the hand only by a draw. -/
theorem Performed.hand_le {l l' : Lesson} {c c' : Chance} {t : Task} {new : List Task}
    (h : Performed l c t new l' c') :
    l'.hand.length ≤ l.hand.length + Balance.handLimit * draws [⟨t, l, c⟩] := by
  cases h with
  | card copy =>
    have := (removeCopy_sublist l.hand copy).length_le
    exact Nat.le_add_right_of_le this
  | pools hk _ hr =>
    rw [(carryOut_pools hk hr).1]
    exact Nat.le_add_right _ _
  | @drew e d c' h _ hl _ =>
    have hd : draws [⟨.effect e, l, c⟩] = 1 := by simp [draws, Moment.carriesOut, h]
    rw [hd, Nat.mul_one]
    simpa [Lesson.drawnTo] using hl
  | swapped _ _ hl _ => exact Nat.le_add_right_of_le hl
  | upgraded _ hl _ => exact Nat.le_add_right_of_le (Nat.le_of_eq hl)
  | _ => exact Nat.le_add_right _ _

/-- The hand grows in a run by no more than its draws bring. -/
theorem Reaches.hand_le {s s' : Stage} {ms : List Moment} (h : Reaches s ms s') :
    s'.lesson.hand.length ≤ s.lesson.hand.length + Balance.handLimit * draws ms := by
  induction h with
  | refl => exact Nat.le_add_right _ _
  | @step t rest new l l' c c' ms s now _ ih =>
    have hone := (perform_spec now).hand_le
    rw [show (⟨t, l, c⟩ : Moment) :: ms = [⟨t, l, c⟩] ++ ms from rfl, draws_append, Nat.mul_add]
    dsimp only at ih ⊢
    omega

/-! ### Agreement with a run -/

/-- The outcome agrees with the run of some tasks. When it is a nesting too deep for `depth`, the
run draws so often that the cards drawn, with `room` for those that were there, are at least as
many. -/
def Follows (depth room : Nat) (todo : List Task) (l : Lesson) (c : Chance) :
    Except Fault Lesson × Chance → Prop
  | (.ok l', c') => ∃ ms, Reaches ⟨todo, l, c⟩ ms ⟨[], l', c'⟩
  | (.error f, _) => (∃ ms s, Reaches ⟨todo, l, c⟩ ms s ∧ s.FailsWith f) ∨
      f = .tooDeep ∧ ∃ ms s, Reaches ⟨todo, l, c⟩ ms s ∧ depth ≤ Balance.handLimit * draws ms + room

theorem Stage.FailsWith.before {s : Stage} {f : Fault} (h : s.FailsWith f) (rest : List Task) :
    Stage.FailsWith { s with todo := s.todo ++ rest } f := by
  obtain ⟨t, others, c', htodo, hfail⟩ := h
  exact ⟨t, others ++ rest, c', by simp [htodo], hfail⟩

namespace Follows

variable {depth room depth' room' : Nat} {todo new rest : List Task} {t : Task} {l l' : Lesson}
  {c c' : Chance} {out : Except Fault Lesson × Chance}

theorem mono (h : Follows depth room todo l c out) (hle : depth' + room ≤ depth + room') :
    Follows depth' room' todo l c out := by
  rcases out with ⟨f | r, c'⟩
  · refine h.imp_right fun h => ?_
    obtain ⟨rfl, ms, s, hr, hd⟩ := h
    exact ⟨rfl, ms, s, hr, by omega⟩
  · exact h

/-- What agrees with the run after a task agrees with the run that starts with the task. -/
theorem step (now : perform l t c = (.ok (new, l'), c'))
    (h : Follows depth room (new ++ rest) l' c' out) : Follows depth room (t :: rest) l c out := by
  rcases out with ⟨f | r, c₁⟩
  · rcases h with ⟨ms, s, hr, hf⟩ | ⟨rfl, ms, s, hr, hd⟩
    · exact .inl ⟨_, s, .step now hr, hf⟩
    · refine .inr ⟨rfl, _, s, .step now hr, Nat.le_trans hd ?_⟩
      have : draws ms ≤ draws (⟨t, l, c⟩ :: ms) :=
        List.Sublist.countP_le (List.sublist_cons_self _ ms)
      exact Nat.add_le_add_right (Nat.mul_le_mul_left _ this) room
  · obtain ⟨ms, hr⟩ := h
    exact ⟨_, .step now hr⟩

/-- A task that fails is a run that fails. -/
theorem fails {f : Fault} {c₁ : Chance} (now : perform l t c = (.error f, c')) :
    Follows depth room (t :: rest) l c (.error f, c₁) :=
  .inl ⟨[], _, .refl _, t, rest, c', rfl, now⟩

/-- With nothing to do the lesson stays as it is. -/
theorem done : Follows depth room [] l c (.ok l, c) := ⟨[], .refl _⟩

/-- What follows the run of some tasks, and then that of others, follows the run of all. -/
theorem bind {x : Play Lesson} {y : Lesson → Play Lesson}
    (hx : Follows depth room todo l c (x c))
    (hy : ∀ l' c' ms, Reaches ⟨todo, l, c⟩ ms ⟨[], l', c'⟩ →
      Follows depth (room + Balance.handLimit * draws ms) rest l' c' (y l' c')) :
    Follows depth room (todo ++ rest) l c ((x >>= y) c) := by
  rw [Play.bind_apply]
  rcases hout : x c with ⟨f | l₁, c₁⟩
  · rw [hout] at hx
    rcases hx with ⟨ms, s, hr, hf⟩ | ⟨rfl, ms, s, hr, hd⟩
    · exact .inl ⟨ms, _, hr.before rest, hf.before rest⟩
    · exact .inr ⟨rfl, ms, _, hr.before rest, hd⟩
  · rw [hout] at hx
    obtain ⟨ms, hr⟩ := hx
    have hr' := hr.before rest
    have hy := hy _ _ ms hr
    dsimp only
    rcases hout' : y l₁ c₁ with ⟨f | l₂, c₂⟩ <;> rw [hout'] at hy
    · rcases hy with ⟨ms', s, hs, hf⟩ | ⟨rfl, ms', s, hs, hd⟩
      · exact .inl ⟨ms ++ ms', s, hr'.trans hs, hf⟩
      · refine .inr ⟨rfl, ms ++ ms', s, hr'.trans hs, ?_⟩
        rw [draws_append, Nat.mul_add]
        omega
    · obtain ⟨ms', hs⟩ := hy
      exact ⟨ms ++ ms', hr'.trans hs⟩

end Follows

/-! ### Each rule agrees with its task -/

/-- The lesson that is left when effects were carried out. -/
def lessonAfter (x : Play Resolution) : Play Lesson := do return (← x).lesson

variable {inner inner' : Resolver} {l : Lesson}

theorem lessonAfter_bind {α : Type} (x : Play α) (f : α → Play Resolution) :
    lessonAfter (x >>= f) = x >>= fun a => lessonAfter (f a) := bind_assoc ..

theorem lessonAfter_pure (r : Resolution) : lessonAfter (pure r) = pure r.lesson := pure_bind ..

theorem lessonAfter_andThen (x : Play Resolution) (y : Lesson → Play Resolution) :
    lessonAfter (do let r ← x; return r.andThen (← y r.lesson)) =
      lessonAfter x >>= fun l => lessonAfter (y l) := by
  simp [lessonAfter]

theorem lessonAfter_cons (e : Effect) (es : List Effect) :
    lessonAfter (resolveEach inner l (e :: es)) =
      lessonAfter (resolveOne inner l e) >>= fun l => lessonAfter (resolveEach inner l es) := by
  rw [resolveEach, ← lessonAfter_andThen]

/-- Only a trigger carries out effects of cards. -/
theorem carryOut_inner (inner' : Resolver) {k : EffectKind} (hk : k ≠ .triggerRandomHandCard)
    (op : Operation) (tr : Option Effect) :
    carryOut inner l op tr k = carryOut inner' l op tr k := by
  cases k <;> first
    | exact absurd rfl hk
    | rfl

/-- A trigger chooses cards and triggers each of them. -/
theorem lessonAfter_triggerHand (op : Operation) :
    lessonAfter (triggerHand inner l op) = (do
      let chosen ← chooseFromHand l op
      lessonAfter (triggerEach inner chosen l)) := by
  funext c
  unfold lessonAfter triggerHand chooseFromHand
  dsimp only
  simp only [Play.bind_apply, Play.except_apply]
  generalize l.hand.filter (Lesson.hasRarity op.targetRarity) = candidates
  rcases triggerCount op candidates.length with f | count
  · rfl
  by_cases hzero : count.same (.whole 0) = true
  · simp only [hzero, ↓reduceIte]
    rfl
  · simp only [hzero, Bool.false_eq_true, ↓reduceIte, Play.bind_apply, Play.except_apply,
      Play.luck_apply]
    rcases pickCount count candidates.length with f | k
    · rfl
    dsimp only
    rcases namesOf (Luck.sample candidates k c).1 with f | names
    · rfl
    dsimp only [Play.pure_apply]
    rcases triggerEach inner (Luck.sample candidates k c).1 l (Luck.sample candidates k c).2
      with ⟨f | r, c'⟩ <;> rfl

/-- Triggering cards agrees with their tasks, given that a list of effects does. The first card
makes no room for the cards that come after it, so that `room` has to be for one card more. -/
theorem triggerEach_follows {n : Nat}
    (hn : ∀ es (l : Lesson) c, Follows n l.hand.length (es.map .effect) l c
      (lessonAfter (inner es l) c)) : ∀ (xs : List Copy) (l : Lesson) (c : Chance) {room : Nat},
    l.hand.length + 1 ≤ room →
      Follows (n + 1) room (xs.map .card) l c (lessonAfter (triggerEach inner xs l) c)
  | [], _, _, _, _ => .done
  | x :: xs, l, c, room, hroom => by
    rw [triggerEach, lessonAfter_andThen]
    have hx := (removeCopy_sublist l.hand x).length_le
    refine .step rfl (.bind ((hn _ _ _).mono ?_) fun l' c' ms hr => ?_)
    · show n + 1 + (removeCopy l.hand x).length ≤ n + room
      omega
    · refine triggerEach_follows hn xs l' c' ?_
      have hgrow : l'.hand.length ≤ (removeCopy l.hand x).length + _ := hr.hand_le
      omega

/-- Triggering cards of the hand agrees with their tasks: the first of them leaves the hand. -/
theorem triggerEach_follows_of_mem {n : Nat}
    (hn : ∀ es (l : Lesson) c, Follows n l.hand.length (es.map .effect) l c
      (lessonAfter (inner es l) c)) {xs : List Copy} (hxs : ∀ x ∈ xs, x ∈ l.hand) (c : Chance) :
    Follows (n + 1) l.hand.length (xs.map .card) l c (lessonAfter (triggerEach inner xs l) c) := by
  cases xs with
  | nil => exact .done
  | cons x xs =>
    rw [triggerEach, lessonAfter_andThen]
    have hx := length_removeCopy (hxs x List.mem_cons_self)
    refine .step rfl (.bind ((hn _ _ _).mono ?_) fun l' c' ms hr => ?_)
    · show n + 1 + (removeCopy l.hand x).length ≤ n + l.hand.length
      omega
    · refine triggerEach_follows hn xs l' c' ?_
      have hgrow : l'.hand.length ≤ (removeCopy l.hand x).length + _ := hr.hand_le
      omega

mutual

theorem resolveOne_follows {n : Nat}
    (hn : ∀ es (l : Lesson) c, Follows n l.hand.length (es.map .effect) l c
      (lessonAfter (inner es l) c)) : ∀ (e : Effect) (l : Lesson) (c : Chance),
    Follows (n + 1) l.hand.length [.effect e] l c (lessonAfter (resolveOne inner l e) c)
  | ⟨op, subs, triggered⟩, l, c => by
    rw [resolveOne_eq, lessonAfter_bind, Play.bind_apply, Play.except_apply]
    have now : perform l (.effect ⟨op, subs, triggered⟩) c = _ := Play.bind_apply _ _ c
    rw [Play.except_apply] at now
    rcases ha : admissionOf l op with f | (r | k)
    · rw [ha] at now
      exact .fails now
    · rw [ha] at now
      exact .step now .done
    · rw [ha] at now
      dsimp only at now ⊢
      by_cases hgate : k = .conditionGate
      · rw [if_pos hgate] at now ⊢
        refine .step now ?_
        rw [List.append_nil]
        exact resolveEach_follows hn subs l c
      · rw [if_neg hgate] at now ⊢
        by_cases htrigger : k = .triggerRandomHandCard
        · rw [if_pos htrigger, Play.bind_apply] at now
          subst htrigger
          rw [carryOut, lessonAfter_triggerHand, Play.bind_apply]
          rcases hc : chooseFromHand l op c with ⟨f | chosen, c₁⟩ <;> rw [hc] at now
          · exact .fails now
          · refine .step now ?_
            rw [List.append_nil]
            exact triggerEach_follows_of_mem hn (chooseFromHand_spec hc).1 c₁
        · rw [if_neg htrigger, Play.bind_apply] at now
          rw [carryOut_inner idleResolver htrigger, lessonAfter, Play.bind_apply]
          rcases hr : carryOut idleResolver l op triggered k c with ⟨f | r, c₁⟩ <;> rw [hr] at now
          · exact .fails now
          · exact .step now .done
termination_by structural e => e

theorem resolveEach_follows {n : Nat}
    (hn : ∀ es (l : Lesson) c, Follows n l.hand.length (es.map .effect) l c
      (lessonAfter (inner es l) c)) : ∀ (es : List Effect) (l : Lesson) (c : Chance),
    Follows (n + 1) l.hand.length (es.map .effect) l c (lessonAfter (resolveEach inner l es) c)
  | [], _, _ => by
    rw [resolveEach_nil, lessonAfter_pure]
    exact .done
  | e :: es, l, c => by
    rw [lessonAfter_cons]
    show Follows _ _ ([.effect e] ++ es.map .effect) l c _
    refine .bind (resolveOne_follows hn e l c) fun l' c' ms hr => ?_
    refine (resolveEach_follows hn es l' c').mono ?_
    have hgrow : l'.hand.length ≤ l.hand.length + _ := hr.hand_le
    omega
termination_by structural es => es

end

/-- **Carrying out effects follows their run**, whatever the limit on nesting is. -/
theorem resolveWithin_follows : ∀ (n : Nat) (es : List Effect) (l : Lesson) (c : Chance),
    Follows n l.hand.length (es.map .effect) l c (lessonAfter (resolveWithin n es l) c)
  | 0, _, _, _ => .inr ⟨rfl, [], _, .refl _, Nat.zero_le _⟩
  | n + 1, es, l, c => resolveEach_follows (resolveWithin_follows n) es l c

theorem lessonAfter_ok {x : Play Resolution} {r : Resolution} {c c' : Chance}
    (h : x c = (.ok r, c')) : lessonAfter x c = (.ok r.lesson, c') := by
  rw [lessonAfter, Play.bind_apply, h]
  rfl

theorem lessonAfter_error {x : Play Resolution} {f : Fault} {c c' : Chance}
    (h : x c = (.error f, c')) : lessonAfter x c = (.error f, c') := by
  rw [lessonAfter, Play.bind_apply, h]

/-- Effects that are carried out have a run to its end. -/
theorem exists_run {n : Nat} {es : List Effect} {l : Lesson} {c c' : Chance} {r : Resolution}
    (h : resolveWithin n es l c = (.ok r, c')) :
    ∃ ms, Reaches ⟨es.map .effect, l, c⟩ ms ⟨[], r.lesson, c'⟩ := by
  have hf := resolveWithin_follows n es l c
  rwa [lessonAfter_ok h] at hf

/-- An effect that is carried out has a run to its end. -/
theorem exists_run_one {n : Nat} {e : Effect} {l : Lesson} {c c' : Chance} {r : Resolution}
    (h : resolveOne (resolveWithin n) l e c = (.ok r, c')) :
    ∃ ms, Reaches ⟨[.effect e], l, c⟩ ms ⟨[], r.lesson, c'⟩ := by
  have hf := resolveOne_follows (resolveWithin_follows n) e l c
  rwa [lessonAfter_ok h] at hf

end CardLesson
