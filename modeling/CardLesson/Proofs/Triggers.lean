/-
# When triggers keep the cards

The cards that a trigger chooses are fixed when it chooses them, and the effects of the first may
move the others out of the hand before their turn comes. A card whose turn comes when the hand has
neither it nor an equal card is put into the discard pile all the same. So an effect keeps the cards
of the zones exactly when there is no such stray in its run; two cards that trigger each other
become three.

Key definitions: `triggerOf`, `echoLesson`.
Key theorems: `resolveOne_keeps_iff`, `echo_does_not_keep`.
-/
import CardLesson.Proofs.Zones

namespace CardLesson

/-- **Triggers keep the cards exactly when there are no strays.** The effect may be a trigger whose
cards trigger, draw and swap further cards; as long as no trouble card is made and no card is
upgraded on the way, the zones hold the same cards after it as before just when, for each triggered
card, the hand has that card or an equal one when its turn comes. -/
theorem resolveOne_keeps_iff {n : Nat} {e : Effect} {l : Lesson} {c c' : Chance} {r : Resolution}
    (hg : Genuine l.zones) (h : resolveOne (resolveWithin n) l e c = (.ok r, c')) :
    ∃ ms, Reaches ⟨[.effect e], l, c⟩ ms ⟨[], r.lesson, c'⟩ ∧
      ((∀ m ∈ ms, m.carriesOut .upgradeHand = false ∧ m.carriesOut .generateTrouble = false) →
        (SameCards r.lesson.zones l.zones ↔ ∀ m ∈ ms, m.isStray = false)) := by
  obtain ⟨ms, hrun⟩ := exists_run_one h
  refine ⟨ms, hrun, fun hplain => ?_⟩
  have hsame : SameCards r.lesson.zones (l.zones + total Moment.strays ms) :=
    hrun.sameCards (fun m hm => (hplain m hm).1)
      (fun m hm => Moment.troubles_eq_zero (hplain m hm).2) hg (by simp)
  rw [← total_strays_eq_zero]
  constructor
  · intro hkeep
    have hcard := hsame.card_eq
    rw [Multiset.card_add, hkeep.card_eq] at hcard
    exact Multiset.card_eq_zero.1 (by omega)
  · intro hnone
    rwa [hnone, add_zero] at hsame

/-! ### Two cards that trigger each other -/

/-- Triggers cards of the hand, one when no count is given. -/
def triggerOf (count : Datum) : Effect := .of { kind := .known .triggerRandomHandCard, count }

/-- A card that triggers a card of the hand. -/
def echoCard (id : String) : Card :=
  { id := .text id, name := .text id, effects := [triggerOf .null] }

/-- Two such cards are in the hand, and all other zones are empty. -/
def echoLesson : Lesson :=
  { hand := [⟨.dealt 0, echoCard "a"⟩, ⟨.dealt 1, echoCard "b"⟩] }

theorem echoLesson_genuine : Genuine echoLesson.zones := by
  intro x hx y hy hs
  simp only [Lesson.zones, echoLesson, List.nil_append, List.append_nil, List.mem_cons,
    List.not_mem_nil, or_false] at hx hy
  rcases hx with rfl | rfl <;> rcases hy with rfl | rfl <;> first
    | rfl
    | cases hs

theorem echoLesson_carries : echoLesson.Carries (avoids [.upgradeHand, .generateTrouble]) where
  zones := by
    intro x hx
    simp only [Lesson.zones, echoLesson, List.nil_append, List.append_nil, List.mem_cons,
      List.not_mem_nil, or_false] at hx
    rcases hx with rfl | rfl <;> rfl
  catalog := by simp [echoLesson]
  buffs := by simp [echoLesson]
  drinks := by simp [echoLesson]

/-- When both cards are chosen, the first triggers the second before its turn comes. -/
theorem echo_resolves : ∃ r c',
    resolveOne (resolveWithin 3) echoLesson (triggerOf (.whole 2)) stillChance = (.ok r, c') ∧
      r.lesson.zones.length = 3 := by
  have hlen : (resolveOne (resolveWithin 3) echoLesson (triggerOf (.whole 2))
      stillChance).1.toOption.map (·.lesson.zones.length) = some 3 := by decide +kernel
  rcases hout : resolveOne (resolveWithin 3) echoLesson (triggerOf (.whole 2)) stillChance
    with ⟨f | r, c'⟩
  · rw [hout] at hlen
    cases hlen
  · rw [hout] at hlen
    exact ⟨r, c', rfl, Option.some.inj hlen⟩

theorem echo_keeps_iff : ∃ r c' ms,
    resolveOne (resolveWithin 3) echoLesson (triggerOf (.whole 2)) stillChance = (.ok r, c') ∧
      Reaches ⟨[.effect (triggerOf (.whole 2))], echoLesson, stillChance⟩ ms ⟨[], r.lesson, c'⟩ ∧
      (SameCards r.lesson.zones echoLesson.zones ↔ ∀ m ∈ ms, m.isStray = false) := by
  obtain ⟨r, c', h, -⟩ := echo_resolves
  obtain ⟨ms, hrun, hiff⟩ := resolveOne_keeps_iff echoLesson_genuine h
  refine ⟨r, c', ms, h, hrun, hiff fun m hm => ?_⟩
  have htask := ((hrun.carries echoLesson_carries (by simp; rfl)).2.2 m hm).2
  exact ⟨carriesOut_of_avoids (by decide) htask, carriesOut_of_avoids (by decide) htask⟩

/-- The two cards become three. -/
theorem echo_does_not_keep : ∃ r c',
    resolveOne (resolveWithin 3) echoLesson (triggerOf (.whole 2)) stillChance = (.ok r, c') ∧
      ¬SameCards r.lesson.zones echoLesson.zones := by
  obtain ⟨r, c', h, hthree⟩ := echo_resolves
  refine ⟨r, c', h, fun hkeep => ?_⟩
  have htwo : r.lesson.zones.length = 2 := hkeep.card_eq
  omega

end CardLesson
