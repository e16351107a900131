/-
# Why a draw is short

A draw with fewer cards than were asked for has left nothing that could be drawn, or it has used up
its attempts. Each attempt takes a card off the deck, so a draw that is out of attempts has diverted
more than `count + 10` unique cards. The discard pile becomes the deck each time the deck is empty;
when that happens for a second time, every card has been looked at since the first, and those that
are left are blocked. So a draw that leaves a card that could be drawn has come by each unique card
twice at most, and the piles held more than half as many of them.

Key definitions: `Dealing.Tallied`.
Key theorems: `Dealing.pull_tallied`, `short_draw_leaves_or_spends`, `drawable_card_is_left`.
-/
import CardLesson.Proofs.Drawing

namespace CardLesson

/-! ### Blocked cards -/

/-- A unique card. -/
def Copy.isUnique (x : Copy) : Bool := x.card.unique

theorem Copy.isBlocked_iff {held : List Copy} {x : Copy} : x.isBlocked held = true ↔
    x.card.unique = true ∧ ∃ y ∈ held, y.id.same x.id = true := by
  simp [isBlocked]

/-- A blocked card stays blocked when more cards are held. -/
theorem Copy.isBlocked_append {held : List Copy} {x : Copy} (h : x.isBlocked held = true)
    (more : List Copy) : x.isBlocked (held ++ more) = true := by
  obtain ⟨hunique, y, hy, hsame⟩ := isBlocked_iff.1 h
  exact isBlocked_iff.2 ⟨hunique, y, List.mem_append_left more hy, hsame⟩

namespace Dealing

variable {hand : List Copy} {uniques : Nat} {t t' : Dealing}

/-- How often unique cards were come by: each of them once in every pass through the deck. What was
put on the discard pile since the deck was filled up is blocked, and after a whole pass all cards
are that are left. -/
structure Tallied (hand : List Copy) (uniques : Nat) (t : Dealing) : Prop where
  total : (t.deck ++ t.discard).countP Copy.isUnique ≤ uniques
  diverted : t.diverted.length + t.deck.countP Copy.isUnique ≤ (t.refills + 1) * uniques
  discard : 1 ≤ t.refills → ∀ x ∈ t.discard, x.isBlocked (hand ++ t.drawn) = true
  piles : 2 ≤ t.refills → ∀ x ∈ t.deck ++ t.discard, x.isBlocked (hand ++ t.drawn) = true

/-- A deck that takes in the discard pile opens another pass. -/
theorem Tallied.refilled (h : t.Tallied hand uniques) : t.refilled.Tallied hand uniques := by
  rcases t.refilled_cases with ⟨-, heq⟩ | ⟨hempty, hdeck, hdiscard, hpulls, hrefills⟩
  · rw [heq]
    exact h
  · have hdrawn : t.refilled.drawn = t.drawn := by simp [drawn]
    have hcount : t.refilled.deck.countP Copy.isUnique = t.discard.countP Copy.isUnique :=
      hdeck.countP_eq _
    have htotal : t.discard.countP Copy.isUnique ≤ uniques := by
      simpa [hempty] using h.total
    constructor
    · simpa [hdiscard, hcount] using htotal
    · have hdiverted : t.diverted.length ≤ (t.refills + 1) * uniques := by
        simpa [hempty] using h.diverted
      have hsame : t.refilled.diverted = t.diverted := by simp [Dealing.diverted]
      rw [hsame, hcount, hrefills, Nat.add_mul (t.refills + 1) 1, Nat.one_mul]
      omega
    · intro _ x hx
      simp [hdiscard] at hx
    · intro htwice x hx
      rw [hdrawn]
      have hx : x ∈ t.discard := hdeck.mem_iff.1 (by simpa [hdiscard] using hx)
      exact h.discard (by omega) x hx

/-- A pull keeps the tally: a card that is diverted is a unique one less in the deck. -/
theorem pull_tallied (hpull : t.pull hand = some t') (h : t.Tallied hand uniques) :
    t'.Tallied hand uniques := by
  obtain ⟨x, deck, hdeck, hcases⟩ := pull_cases hpull
  obtain ⟨htotal, hdiverted, hdiscard, hpiles⟩ := h.refilled
  have hdrawn : t.refilled.drawn = t.drawn := by simp [drawn]
  have hsame : t.refilled.diverted = t.diverted := by simp [Dealing.diverted]
  rw [hdeck] at htotal hdiverted hpiles
  rw [hdrawn] at hdiscard hpiles
  rw [hsame] at hdiverted
  rcases hcases with ⟨hblocked, rfl⟩ | ⟨-, rfl⟩
  · have hunique : x.isUnique = true := (Copy.isBlocked_iff.1 hblocked).1
    constructor
    · simp only [List.countP_append, List.countP_cons, List.countP_nil, hunique] at htotal ⊢
      omega
    · simp only [List.countP_cons, hunique, if_true] at hdiverted
      simp only [Dealing.diverted, Pull.divertedOf_diverted, List.length_append,
        List.length_singleton] at hdiverted ⊢
      omega
    · intro honce y hy
      simp only [drawn, Pull.keptOf_diverted]
      rcases List.mem_append.1 hy with hy | hy
      · exact hdiscard honce y hy
      · rw [List.mem_singleton.1 hy]
        exact hblocked
    · intro htwice y hy
      simp only [drawn, Pull.keptOf_diverted]
      refine hpiles htwice y ?_
      simp only [List.mem_append, List.mem_cons, List.not_mem_nil, or_false] at hy ⊢
      tauto
  · have hmore (y : Copy) (hy : y.isBlocked (hand ++ t.drawn) = true) :
        y.isBlocked (hand ++ (t.drawn ++ [x])) = true := by
      rw [← List.append_assoc]
      exact Copy.isBlocked_append hy [x]
    constructor
    · simp only [List.countP_append, List.countP_cons] at htotal ⊢
      omega
    · simp only [List.countP_cons] at hdiverted
      simp only [Dealing.diverted, Pull.divertedOf_kept] at hdiverted ⊢
      omega
    · intro honce y hy
      simpa [drawn] using hmore y (hdiscard honce y hy)
    · intro htwice y hy
      have hy : y ∈ x :: deck ++ t.refilled.discard := List.mem_cons_of_mem x hy
      simpa [drawn] using hmore y (hpiles htwice y hy)

end Dealing

/-! ### Short draws -/

theorem dealing_tallied (deck discard : List Copy) (count : Nat) (hand : List Copy) (c : Chance) :
    (dealing deck discard count hand c).Tallied hand
      ((deck ++ discard).countP Copy.isUnique) := by
  refine Dealing.run_of_pull (fun t t' => Dealing.pull_tallied) _ _ ⟨?_, ?_, ?_, ?_⟩
  · simp
  · simp [Dealing.diverted, Pull.divertedOf]
  · intro h
    simp at h
  · intro h
    simp at h

/-- A draw stops when enough cards are drawn, when the piles are empty, or when it is out of
attempts. -/
theorem dealing_stops (deck discard : List Copy) (count : Nat) (hand : List Copy) (c : Chance) :
    count ≤ (dealing deck discard count hand c).drawn.length ∨
      (dealing deck discard count hand c).pull hand = none ∨
        (dealing deck discard count hand c).pulls.length = count * 2 + 10 := by
  have hstops := @Dealing.run_stops hand count (count * 2 + 10) ⟨deck.reverse, discard, c, [], 0⟩
  simpa [dealing] using hstops

/-- **A short draw has left nothing that could be drawn, or used up its attempts.** In the first
case all cards that are left are unique, and their ids are those of cards of the hand or of cards
that were drawn. In the second case every attempt has taken a card off the deck, more than
`count + 10` of these were diverted, and more than half as many unique cards were in the piles. -/
theorem short_draw_leaves_or_spends {deck discard hand : List Copy} {count : Nat} {c c' : Chance}
    {d : Drawn} (h : drawCards deck discard count hand c = (.ok d, c'))
    (hshort : d.hand.length < count) :
    (∀ x ∈ d.deck ++ d.discard,
        x.card.unique = true ∧ ∃ y ∈ hand ++ d.hand, y.id.same x.id = true) ∨
      (dealing deck discard count hand c).pulls.length = count * 2 + 10 ∧
        count + 10 < (dealing deck discard count hand c).diverted.length ∧
        count + 10 < 2 * (deck ++ discard).countP Copy.isUnique := by
  obtain ⟨rfl, -⟩ := drawCards_ok h
  have htallied := dealing_tallied deck discard count hand c
  have hstops := dealing_stops deck discard count hand c
  generalize dealing deck discard count hand c = t at *
  have hdrawn : t.drawn.length < count := hshort
  have hpulls : t.drawn.length + t.diverted.length = t.pulls.length :=
    Pull.length_kept_add_diverted t.pulls
  have hblocked (hall : ∀ x ∈ t.deck ++ t.discard, x.isBlocked (hand ++ t.drawn) = true) :
      ∀ x ∈ t.result.deck ++ t.result.discard,
        x.card.unique = true ∧ ∃ y ∈ hand ++ t.result.hand, y.id.same x.id = true := by
    intro x hx
    exact Copy.isBlocked_iff.1 (hall x (by simpa [Dealing.result] using hx))
  rcases hstops with henough | hnone | hspent
  · omega
  · left
    obtain ⟨hdeck, hdiscard⟩ := Dealing.piles_of_pull_none hnone
    exact hblocked (by simp [hdeck, hdiscard])
  · by_cases htwice : 2 ≤ t.refills
    · exact .inl (hblocked (htallied.piles htwice))
    · right
      have hpasses : (t.refills + 1) * (deck ++ discard).countP Copy.isUnique ≤
          2 * (deck ++ discard).countP Copy.isUnique := Nat.mul_le_mul_right _ (by omega)
      have hdiverted := htallied.diverted
      omega

/-- A unique card of which there are twelve copies, on top of another card. -/
def buriedDeck : List Copy :=
  Copy.deal 0 (Card.plain "a" :: List.replicate 12 { Card.plain "u" with unique := true })

/-- A hand with one more copy of the unique card. -/
def holdingHand : List Copy := [⟨.dealt 13, { Card.plain "u" with unique := true }⟩]

/-- Twelve attempts are spent on the twelve copies that the hand blocks. -/
theorem short_draw_spends_twelve : ∃ d c', drawCards buriedDeck [] 1 holdingHand stillChance =
      (.ok d, c') ∧ d.hand.length < 1 ∧
    ((∀ x ∈ d.deck ++ d.discard,
        x.card.unique = true ∧ ∃ y ∈ holdingHand ++ d.hand, y.id.same x.id = true) ∨
      (dealing buriedDeck [] 1 holdingHand stillChance).pulls.length = 1 * 2 + 10 ∧
        1 + 10 < (dealing buriedDeck [] 1 holdingHand stillChance).diverted.length ∧
        1 + 10 < 2 * (buriedDeck ++ []).countP Copy.isUnique) := by
  have hok : (drawCards buriedDeck [] 1 holdingHand stillChance).1.toOption.any
      (fun d => decide (d.hand.length < 1)) = true := by decide +kernel
  obtain ⟨d, c', hdraw, hshort⟩ := Play.ok_of_any hok
  have hshort : d.hand.length < 1 := of_decide_eq_true hshort
  exact ⟨d, c', hdraw, hshort, short_draw_leaves_or_spends hdraw hshort⟩

/-- **A card that could be drawn is left.** One card is asked for and none is drawn, though the deck
still holds a card that is not unique. -/
theorem drawable_card_is_left : ∃ d c', drawCards buriedDeck [] 1 holdingHand stillChance =
    (.ok d, c') ∧ d.hand.length < 1 ∧ ∃ x ∈ d.deck ++ d.discard, x.card.unique = false := by
  have hok : (drawCards buriedDeck [] 1 holdingHand stillChance).1.toOption.any
      (fun d => decide (d.hand.length < 1) && d.deck.any (!·.card.unique)) = true := by
    decide +kernel
  obtain ⟨d, c', hdraw, hleft⟩ := Play.ok_of_any hok
  obtain ⟨hshort, hdeck⟩ := Bool.and_eq_true_iff.1 hleft
  obtain ⟨x, hx, hplain⟩ := List.any_eq_true.1 hdeck
  exact ⟨d, c', hdraw, of_decide_eq_true hshort, x, List.mem_append_left _ hx,
    by simpa using hplain⟩

end CardLesson
