/-
# When nested effects come to an end

A triggered card leaves the hand before its effects are carried out, and nothing but a draw brings
cards back into the hand. So carrying out effects comes to an end just when the draws in it do. A
card that draws a card and then triggers one of the hand can draw itself and trigger itself without
end, when both piles are empty but for it.

Key definitions: `Ends`, `loopCard`, `loopLesson`.
Key theorems: `ends_of_draws_le`, `draws_le_of_ends`, `ends_iff`, `loop_not_ends`.
-/
import CardLesson.Proofs.Reliable
import CardLesson.Proofs.Triggers

namespace CardLesson

/-- Carrying out effects comes to an end: some limit on nesting is not reached. -/
def Ends (es : List Effect) (l : Lesson) (c : Chance) : Prop :=
  ∃ n, (resolveWithin n es l c).1 ≠ .error .tooDeep

variable {es : List Effect} {l : Lesson} {c : Chance}

/-- What never draws more than so often comes to an end. -/
theorem ends_of_draws_le {bound : Nat}
    (h : ∀ ms s, Reaches ⟨es.map .effect, l, c⟩ ms s → draws ms ≤ bound) : Ends es l c := by
  refine ⟨Balance.handLimit * bound + l.hand.length + 1, fun hdeep => ?_⟩
  generalize hn : Balance.handLimit * bound + l.hand.length + 1 = n at hdeep
  have hf := resolveWithin_follows n es l c
  rcases hout : resolveWithin n es l c with ⟨f | r, c'⟩
  · rw [hout] at hdeep
    cases hdeep
    rw [lessonAfter_error hout] at hf
    rcases hf with ⟨ms, s, -, t, rest, c₁, -, hfail⟩ | ⟨-, ms, s, hr, hd⟩
    · exact perform_shallow _ _ _ _ hfail
    · have := Nat.mul_le_mul_left Balance.handLimit (h ms s hr)
      omega
  · rw [hout] at hdeep
    cases hdeep

/-- What comes to an end never draws more than so often. -/
theorem draws_le_of_ends (h : Ends es l c) :
    ∃ bound, ∀ ms s, Reaches ⟨es.map .effect, l, c⟩ ms s → draws ms ≤ bound := by
  obtain ⟨n, hn⟩ := h
  have hf := resolveWithin_follows n es l c
  -- the run that carrying out follows goes as far as any run does
  have longest {ms s} (hr : Reaches ⟨es.map .effect, l, c⟩ ms s)
      (hend : ∀ {more s'}, Reaches s more s' → more = []) :
      ∃ bound, ∀ ms s, Reaches ⟨es.map .effect, l, c⟩ ms s → draws ms ≤ bound :=
    ⟨draws ms, fun _ _ hr' => (hr.prefix_of_stuck hend hr').sublist.countP_le⟩
  rcases hout : resolveWithin n es l c with ⟨f | r, c'⟩
  · rw [lessonAfter_error hout] at hf
    rcases hf with ⟨ms, s, hr, hfail⟩ | ⟨rfl, -⟩
    · exact longest hr fun h => h.nil_of_fails hfail
    · rw [hout] at hn
      exact absurd rfl hn
  · rw [lessonAfter_ok hout] at hf
    obtain ⟨ms, hr⟩ := hf
    exact longest hr fun h => h.nil_of_done

/-- **Carrying out effects comes to an end exactly when the draws in it do.** -/
theorem ends_iff (es : List Effect) (l : Lesson) (c : Chance) :
    Ends es l c ↔
      ∃ bound, ∀ ms s, Reaches ⟨es.map .effect, l, c⟩ ms s → draws ms ≤ bound :=
  ⟨draws_le_of_ends, fun ⟨_, h⟩ => ends_of_draws_le h⟩

/-- Effects come to an end where none of those in play draws. -/
theorem ends_of_avoids_draws (hl : l.Carries (avoids [.drawCard]))
    (hes : Effect.everyOf (avoids [.drawCard]) es = true) : Ends es l c := by
  have none {ms : List Moment} {s : Stage} (hr : Reaches ⟨es.map .effect, l, c⟩ ms s) :
      draws ms ≤ 0 := by
    have hall := (hr.carries hl fun t ht => by
      obtain ⟨e, he, rfl⟩ := List.mem_map.1 ht
      exact Effect.everyOf_iff.1 hes e he).2.2
    refine Nat.le_of_eq (List.countP_eq_zero.2 fun m hm => ?_)
    rw [carriesOut_of_avoids List.mem_cons_self (hall m hm).2]
    exact Bool.false_ne_true
  exact ends_of_draws_le fun _ _ hr => none hr

/-! ### A card that triggers itself -/

/-- Draws a card. -/
def drawOne : Effect := .of { kind := .known .drawCard, value := .whole 1 }

/-- Draws a card and triggers one of the hand. -/
def loopCard : Card :=
  { id := .text "loop", name := .text "Loop", effects := [drawOne, triggerOf .null] }

/-- The one copy of the card that there is. -/
def loopCopy : Copy := ⟨.dealt 0, loopCard⟩

/-- The card is in the hand, and all other zones are empty. -/
def loopLesson : Lesson := { hand := [loopCopy] }

theorem Luck.sample_singleton {α : Type} (x : α) (c : Chance) : (sample [x] 1 c).1 = [x] := by
  show (samplePool 1 #[x] c).1 = [x]
  have hj : (below 1 c).1 = 0 := Nat.lt_one_iff.1 (below_lt Nat.one_pos c)
  have hx : (#[x] : Array α)[(below 1 c).1]? = some x := by rw [hj]; rfl
  have hlast : (#[x] : Array α).back? = some x := rfl
  rw [samplePool, Play.luck_bind]
  simp only [Array.size_singleton, hx, hlast]
  rfl

theorem loop_triggers (c : Chance) :
    ∃ c', perform loopLesson (.effect (triggerOf .null)) c =
      (.ok ([.card loopCopy], loopLesson), c') := by
  refine ⟨(Luck.sample [loopCopy] 1 c).2, ?_⟩
  have hchoose : chooseFromHand loopLesson (triggerOf .null).operation c =
      (.ok [loopCopy], (Luck.sample [loopCopy] 1 c).2) := by
    show ((liftM (Luck.sample [loopCopy] 1) : Play (List Copy)) >>= fun chosen => do
      let _ ← (namesOf chosen : Except Fault String)
      return chosen) c = _
    rw [Play.bind_apply, Play.luck_apply, Luck.sample_singleton]
    rfl
  show ((chooseFromHand loopLesson (triggerOf .null).operation) >>= fun chosen =>
    return (chosen.map Task.card, loopLesson)) c = _
  rw [Play.bind_apply, hchoose]
  rfl

theorem loop_draws (c : Chance) :
    perform (loopLesson.discardFromHand loopCopy) (.effect drawOne) c = (.ok ([], loopLesson), c) :=
  rfl

/-- The card of the hand is about to be triggered. -/
def loopStage (c : Chance) : Stage := ⟨[.effect (triggerOf .null)], loopLesson, c⟩

/-- Each round draws the card and comes back to where it started. -/
theorem loop_round (c : Chance) :
    ∃ ms c', draws ms = 1 ∧ Reaches (loopStage c) ms (loopStage c') := by
  obtain ⟨c', htrigger⟩ := loop_triggers c
  refine ⟨_, c', ?_, .step htrigger (.step rfl (.step (loop_draws c') (.refl _)))⟩
  rfl

theorem loop_rounds (k : Nat) (c : Chance) :
    ∃ ms s, draws ms = k ∧ Reaches (loopStage c) ms s := by
  induction k generalizing c with
  | zero => exact ⟨[], _, rfl, .refl _⟩
  | succ k ih =>
    obtain ⟨ms, c', hone, hround⟩ := loop_round c
    obtain ⟨ms', s, hk, hrounds⟩ := ih c'
    refine ⟨ms ++ ms', s, ?_, hround.trans hrounds⟩
    rw [draws_append, hone, hk, Nat.add_comm]

/-- A check of the roster finds nothing wrong with the card, and yet triggering it does not come to
an end. -/
theorem loop_not_ends :
    checkRoster [loopCard] false = .ok {} ∧ ¬Ends [triggerOf .null] loopLesson (.ofSeed 0) := by
  refine ⟨by rfl, fun h => ?_⟩
  obtain ⟨bound, hbound⟩ := draws_le_of_ends h
  obtain ⟨ms, s, hk, hr⟩ := loop_rounds (bound + 1) (.ofSeed 0)
  have := hbound ms s hr
  omega

end CardLesson
