/-
# How many cards a hand holds

The cards that start in the hand are all there when a lesson opens, however many they are, and no
limit is set to them. From then on nothing lets a hand grow beyond the limit: a draw stops where the
room in the hand ends, a swap draws no more than it discards, and an upgrade puts one card in the
place of one. A turn begins with a few cards, so that the first end of a turn leaves the opening
hand behind for good, and with it the only way to have more cards than the limit.

Key theorems: `length_le_law`, `Opened.hand_length_le`, `Accepted.hand_length_le`,
`course_limits_hand`.
-/
import CardLesson.Proofs.HandMoves
import CardLesson.Proofs.Rejection

namespace CardLesson

variable {l l' : Lesson} {c c' : Chance} {n : Nat}

/-! ### The limit -/

/-- A task lets the hand grow to the limit at most. -/
theorem HandMoved.length_le {hand : List Copy} (h : HandMoved l c hand)
    (hn : Balance.handLimit ≤ n) (hl : l.hand.length ≤ n) : hand.length ≤ n := by
  cases h with
  | kept => exact hl
  | left copy => exact Nat.le_trans (removeCopy_sublist l.hand copy).length_le hl
  | drew room hd =>
    have hdrawn := (drawCards_spec hd).2.1
    rw [List.length_append]
    omega
  | swapped hd => exact Nat.le_trans (drawCards_spec hd).2.1 hl
  | upgraded _ hhand =>
    rw [(upgradeFrom_spec hhand).1]
    exact hl

/-- **A hand never outgrows the limit**, or what it was when it held more. -/
theorem length_le_law (hn : Balance.handLimit ≤ n) : HandLaw (·.length ≤ n) where
  task h hl := h.length_le hn hl
  dealt hd := by
    have hdrawn := (drawCards_spec hd).2.1
    omega

/-! ### The opening hand -/

/-- All cards that start in the hand may be dealt to it, and no others. -/
theorem splitStart_length_le (deck : List Copy) :
    (splitStart [] [] deck).1.length ≤ deck.countP (·.card.startInHand) := by
  have hsplit := (splitStart_perm deck [] []).length_eq
  rw [List.append_nil, List.nil_append, List.length_append] at hsplit
  rw [List.countP_eq_length_filter]
  omega

/-- The opening hand is filled up to the cards of a turn, unless more cards start in it. -/
theorem Opened.hand_length_le {status : Status} {deck : List Copy} {drinks : List Drink}
    {maxTurns : Quantity} {catalog : Catalog}
    (h : Opened status deck drinks maxTurns catalog l) :
    l.hand.length ≤ max Balance.baseDraw (deck.countP (·.card.startInHand)) := by
  obtain ⟨remaining, c, d, c', hd, hhand⟩ := h.hand
  have hstart := splitStart_length_le deck
  have hdrawn := (drawCards_spec hd).2.1
  rw [hhand, List.length_append]
  omega

/-! ### After the first end of a turn -/

/-- A turn that starts leaves no more cards than the limit, whatever waits for its start. -/
theorem endTurn_hand_length_le {schedule : Schedule}
    (h : l.endTurn schedule c = (.ok (some l'), c')) : l'.hand.length ≤ Balance.handLimit := by
  have hlaw := length_le_law (Nat.le_refl Balance.handLimit)
  obtain ⟨next, c₁, ms, hturn, hworked⟩ := endTurn_accepted h
  exact hlaw.worked hworked (hlaw.turned (nextTurn_ok hturn).1)

/-- Accepted moves of which one ends a turn leave no more cards than the limit. -/
theorem Accepted.hand_length_le {moves : List Move} (h : Accepted l c moves l' c')
    (hends : l.hand.length ≤ Balance.handLimit ∨ 0 < turnEnds moves) :
    l'.hand.length ≤ Balance.handLimit := by
  induction h with
  | nil => exact hends.resolve_right (Nat.lt_irrefl 0)
  | @cons move moves l l₁ l' c c₁ c' first _ ih =>
    cases hmove : move.endsTurn with
    | true =>
      cases move with
      | endTurn schedule => exact ih (.inl (endTurn_hand_length_le first))
      | _ => cases hmove
    | false =>
      have hcount : turnEnds (move :: moves) = turnEnds moves := by simp [turnEnds, hmove]
      rw [hcount] at hends
      refine ih (hends.imp_left fun hl => ?_)
      obtain ⟨ms, hmade⟩ := make_ok first
      exact (length_le_law (Nat.le_refl Balance.handLimit)).made hmade hl

/-- **How many cards a hand holds.** In every state that a course reaches from the opening the hand
holds no more cards than the limit or, if they are more, than the cards of the deck that start in
the hand; and once a turn was ended, it holds no more cards than the limit. -/
theorem course_limits_hand {status : Status} {schedule : Schedule} {deck : List Copy}
    {drinks : List Drink} {maxTurns : Quantity} {catalog : Catalog} {moves : List Move}
    {l₀ l : Lesson} {c₀ c₁ c : Chance}
    (hopen : openLesson status schedule deck drinks maxTurns catalog c₀ = (.ok l₀, c₁))
    (hmoves : Lesson.course moves l₀ c₁ = (.ok l, c)) :
    l.hand.length ≤ max Balance.handLimit (deck.countP (·.card.startInHand)) ∧
      ∃ kept, Lesson.acceptedOf moves l₀ c₁ = (.ok kept, c) ∧
        (0 < turnEnds kept → l.hand.length ≤ Balance.handLimit) := by
  obtain ⟨ms, hcourse⟩ := course_ok hmoves
  obtain ⟨kept, hkept, -, haccepted⟩ := course_acceptedOf hmoves
  have hlaw := length_le_law (Nat.le_max_left Balance.handLimit (deck.countP (·.card.startInHand)))
  have hstart := (openLesson_ok hopen).1.hand_length_le
  refine ⟨hlaw.course hcourse ?_, kept, hkept, fun hends => haccepted.hand_length_le (.inr hends)⟩
  calc l₀.hand.length
      ≤ max Balance.baseDraw (deck.countP (·.card.startInHand)) := hstart
    _ ≤ max Balance.handLimit (deck.countP (·.card.startInHand)) :=
        max_le_max_right _ (by decide)

/-- A card that starts in the hand, and swaps the hand and draws three cards when it is played. -/
def eagerCard (name : String) : Card :=
  { Card.plain name with
    startInHand := true
    effects := [.gain (.known .swapHand) .null, .gain (.known .drawCard) (.whole 3)] }

/-- A deck of which six cards start in the hand. -/
def eagerDeck : List Copy := Copy.deal 0 (["a", "b", "c", "d", "e", "f"].map eagerCard)

/-- A turn with six cards in the hand, and one in which a card swaps the hand and draws. -/
def eagerMoves : List Move := [.endTurn [], .play (.text "a"), .play (.text "b")]

/-- Six cards start in the hand, and after the turn five are the most that it holds. -/
theorem course_limits_hand_eager : ∃ l₀ c₁ l c kept,
    openLesson {} [] eagerDeck [] (.whole 12) [] stillChance = (.ok l₀, c₁) ∧
      l₀.hand.length = 6 ∧ Lesson.course eagerMoves l₀ c₁ = (.ok l, c) ∧
      Lesson.acceptedOf eagerMoves l₀ c₁ = (.ok kept, c) ∧ turnEnds kept = 1 ∧
      l.hand.length ≤ max 5 6 ∧ l.hand.length ≤ 5 := by
  let opening : Play Lesson := openLesson {} [] eagerDeck [] (.whole 12) []
  have hopens : (opening stillChance).1.toOption.any (·.hand.length == 6) = true := by
    decide +kernel
  have hcourse : ((opening >>= Lesson.course eagerMoves) stillChance).1.toOption.any
      (fun _ => true) = true := by decide +kernel
  have hends : ((opening >>= Lesson.acceptedOf eagerMoves) stillChance).1.toOption.any
      (turnEnds · == 1) = true := by decide +kernel
  obtain ⟨l₀, c₁, hopen, hsix⟩ := Play.ok_of_any hopens
  obtain ⟨l, c, hl, -⟩ := Play.ok_of_any hcourse
  obtain ⟨kept, c', hkept, hone⟩ := Play.ok_of_any hends
  rw [Play.bind_apply, hopen] at hl hkept
  obtain ⟨hle, kept', hkept', hlimit⟩ := course_limits_hand hopen hl
  cases hkept.symm.trans hkept'
  have hone : turnEnds kept = 1 := beq_iff_eq.1 hone
  exact ⟨l₀, c₁, l, c, kept, hopen, beq_iff_eq.1 hsix, hl, hkept, hone, hle, hlimit (by omega)⟩

end CardLesson
