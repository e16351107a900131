/-
# A draw, card by card

A draw takes cards off the deck one after another, and each of them is kept or diverted: it goes to
the discard pile when it is unique and its id is held. `Dealing` is a draw under way, with a record
of the cards taken off so far and of how often the discard pile became the deck; `Dealing.run` pulls
cards until enough are kept, the piles are empty or the attempts are used up. It is the draw of the
rules (`drawCards_ok`), so what a pull keeps is true of every draw.

Key definitions: `Copy.isBlocked`, `Pull`, `Dealing`, `Dealing.pull`, `Dealing.run`, `dealing`.
Key theorems: `Dealing.pull_cases`, `Dealing.run_of_pull`, `Dealing.run_stops`, `loop_ok`,
`drawCards_ok`, `draw_keeps_contract`.
-/
import CardLesson.Proofs.Reliable

namespace CardLesson

/-- Whether a card may not join others that are held: it is unique, and one of them has its id. -/
def Copy.isBlocked (held : List Copy) (x : Copy) : Bool :=
  x.card.unique && held.any fun y => y.id.same x.id

/-- A card that was taken off the deck, and whether it was kept. -/
structure Pull where
  copy : Copy
  kept : Bool

namespace Pull

/-- The cards that were kept. -/
def keptOf (pulls : List Pull) : List Copy := (pulls.filter (·.kept)).map (·.copy)

/-- The cards that went to the discard pile. -/
def divertedOf (pulls : List Pull) : List Copy := (pulls.filter (!·.kept)).map (·.copy)

variable (pulls : List Pull) (x : Copy)

@[simp] theorem keptOf_kept : keptOf (pulls ++ [⟨x, true⟩]) = keptOf pulls ++ [x] := by
  simp [keptOf]

@[simp] theorem keptOf_diverted : keptOf (pulls ++ [⟨x, false⟩]) = keptOf pulls := by
  simp [keptOf]

@[simp] theorem divertedOf_kept : divertedOf (pulls ++ [⟨x, true⟩]) = divertedOf pulls := by
  simp [divertedOf]

@[simp] theorem divertedOf_diverted :
    divertedOf (pulls ++ [⟨x, false⟩]) = divertedOf pulls ++ [x] := by
  simp [divertedOf]

/-- A card that was taken off was kept or diverted. -/
theorem length_kept_add_diverted :
    (keptOf pulls).length + (divertedOf pulls).length = pulls.length := by
  induction pulls with
  | nil => rfl
  | cons p pulls ih =>
    simp only [keptOf, divertedOf, List.length_map, List.length_cons] at ih ⊢
    cases hp : p.kept <;> simp [hp] <;> omega

end Pull

/-- A draw under way. The deck is upside down: its first card is drawn first. -/
structure Dealing where
  deck : List Copy
  discard : List Copy
  chance : Chance
  /-- The cards taken off the deck, in this order. -/
  pulls : List Pull := []
  /-- How often a card was taken off an empty deck, for which the discard pile became the deck. -/
  refills : Nat := 0

namespace Dealing

/-- The cards drawn so far. -/
def drawn (t : Dealing) : List Copy := Pull.keptOf t.pulls

/-- The cards diverted so far. -/
def diverted (t : Dealing) : List Copy := Pull.divertedOf t.pulls

/-- An empty deck takes in the shuffled discard pile. -/
def refilled (t : Dealing) : Dealing :=
  if t.deck.isEmpty then
    { t with
      deck := (Luck.shuffle t.discard t.chance).1.reverse
      discard := []
      chance := (Luck.shuffle t.discard t.chance).2
      refills := t.refills + 1 }
  else t

/-- Takes a card off the deck, if the piles have one, beside the cards of a hand. -/
def pull (hand : List Copy) (t : Dealing) : Option Dealing :=
  match t.refilled.deck with
  | [] => none
  | x :: deck =>
    if x.isBlocked (hand ++ t.drawn) then
      some { t.refilled with
        deck, discard := t.refilled.discard ++ [x], pulls := t.pulls ++ [⟨x, false⟩] }
    else some { t.refilled with deck, pulls := t.pulls ++ [⟨x, true⟩] }

/-- Takes cards off the deck until `count` are drawn or nothing is left, in a number of attempts. -/
def run (hand : List Copy) (count : Nat) : Nat → Dealing → Dealing
  | 0, t => t
  | n + 1, t =>
    if t.drawn.length < count then
      match t.pull hand with
      | some next => run hand count n next
      | none => t
    else t

/-- The piles and the cards drawn. -/
def result (t : Dealing) : Drawn := ⟨t.deck.reverse, t.discard, t.drawn⟩

end Dealing

/-- The dealing that a draw comes to. -/
def dealing (deck discard : List Copy) (count : Nat) (hand : List Copy) (c : Chance) : Dealing :=
  Dealing.run hand count (count * 2 + 10) ⟨deck.reverse, discard, c, [], 0⟩

namespace Dealing

variable {hand : List Copy} {count : Nat} {t t' : Dealing}

/-! ### One pull -/

/-- The deck has a card left, or it takes in the discard pile. -/
theorem refilled_cases (t : Dealing) : t.deck ≠ [] ∧ t.refilled = t ∨
    t.deck = [] ∧ t.refilled.deck.Perm t.discard ∧ t.refilled.discard = [] ∧
      t.refilled.pulls = t.pulls ∧ t.refilled.refills = t.refills + 1 := by
  unfold refilled
  by_cases h : t.deck = []
  · right
    have hperm := (List.reverse_perm _).trans (Luck.shuffle_perm t.discard t.chance)
    rw [if_pos (List.isEmpty_iff.2 h)]
    exact ⟨h, hperm, rfl, rfl, rfl⟩
  · left
    rw [if_neg (by simpa using h)]
    exact ⟨h, rfl⟩

@[simp] theorem refilled_pulls (t : Dealing) : t.refilled.pulls = t.pulls := by
  unfold refilled
  split <;> rfl

/-- A card is taken off the deck; it is diverted when it is blocked, and kept otherwise. -/
theorem pull_cases (h : t.pull hand = some t') : ∃ x deck, t.refilled.deck = x :: deck ∧
    (x.isBlocked (hand ++ t.drawn) = true ∧ t' = { t.refilled with
        deck, discard := t.refilled.discard ++ [x], pulls := t.pulls ++ [⟨x, false⟩] } ∨
      x.isBlocked (hand ++ t.drawn) = false ∧
        t' = { t.refilled with deck, pulls := t.pulls ++ [⟨x, true⟩] }) := by
  unfold pull at h
  cases hdeck : t.refilled.deck with
  | nil =>
    rw [hdeck] at h
    cases h
  | cons x deck =>
    rw [hdeck] at h
    refine ⟨x, deck, rfl, ?_⟩
    by_cases hblocked : x.isBlocked (hand ++ t.drawn) = true
    · left
      simp only [hblocked, if_true, Option.some.injEq] at h
      exact ⟨hblocked, h.symm⟩
    · right
      simp only [hblocked, Bool.false_eq_true, if_false, Option.some.injEq] at h
      exact ⟨by simpa using hblocked, h.symm⟩

/-- When no card can be taken off, the piles are empty. -/
theorem piles_of_pull_none (h : t.pull hand = none) : t.deck = [] ∧ t.discard = [] := by
  unfold pull at h
  cases hdeck : t.refilled.deck with
  | cons x deck =>
    rw [hdeck] at h
    by_cases hblocked : x.isBlocked (hand ++ t.drawn) = true <;> simp [hblocked] at h
  | nil =>
    rcases t.refilled_cases with ⟨hne, heq⟩ | ⟨hempty, hperm, -⟩
    · rw [heq] at hdeck
      exact absurd hdeck hne
    · rw [hdeck] at hperm
      exact ⟨hempty, hperm.symm.eq_nil⟩

theorem length_pulls_of_pull (h : t.pull hand = some t') :
    t'.pulls.length = t.pulls.length + 1 := by
  obtain ⟨x, deck, -, ⟨-, rfl⟩ | ⟨-, rfl⟩⟩ := pull_cases h <;> simp

/-! ### A whole dealing -/

/-- What every pull keeps is true of the dealing at its end. -/
theorem run_of_pull {P : Dealing → Prop} (hpull : ∀ t t', t.pull hand = some t' → P t → P t')
    (n : Nat) (t : Dealing) (h : P t) : P (t.run hand count n) := by
  induction n generalizing t with
  | zero => exact h
  | succ n ih =>
    unfold run
    by_cases hshort : t.drawn.length < count
    · rw [if_pos hshort]
      cases hnext : t.pull hand with
      | none => exact h
      | some next => exact ih next (hpull t next hnext h)
    · rw [if_neg hshort]
      exact h

/-- A dealing stops when enough cards are drawn, when none can be taken off, or when all attempts
have taken one off. -/
theorem run_stops (n : Nat) (t : Dealing) : count ≤ (t.run hand count n).drawn.length ∨
    (t.run hand count n).pull hand = none ∨
      (t.run hand count n).pulls.length = t.pulls.length + n := by
  induction n generalizing t with
  | zero => exact .inr (.inr rfl)
  | succ n ih =>
    unfold run
    by_cases hshort : t.drawn.length < count
    · rw [if_pos hshort]
      cases hnext : t.pull hand with
      | none => exact .inr (.inl hnext)
      | some next =>
        have hlength := length_pulls_of_pull hnext
        rcases ih next with h | h | h
        · exact .inl h
        · exact .inr (.inl h)
        · exact .inr (.inr (by simp only [h]; omega))
    · rw [if_neg hshort]
      exact .inl (by omega)

end Dealing

/-! ### The draw of the rules -/

/-- The ids of a hand, when they can be listed as keys. -/
theorem held_eq : ∀ {hand : List Copy} {held : List Datum},
    (hand.mapM fun x => x.id.key : Except Fault (List Datum)) = .ok held →
      held = hand.map (·.id)
  | [], _, h => by
    cases h
    rfl
  | x :: hand, held, h => by
    rw [List.mapM_cons] at h
    obtain ⟨id, hkey, h⟩ := Play.except_bind_ok.1 h
    obtain ⟨ids, hids, h⟩ := Play.except_bind_ok.1 h
    obtain rfl := Play.except_pure_ok.1 h
    rw [List.map_cons, held_eq hids, key_eq hkey]

theorem refill_eq (t : Dealing) : refill t.deck t.discard t.chance =
    ((t.refilled.deck, t.refilled.discard), t.refilled.chance) := by
  unfold refill Dealing.refilled
  by_cases h : t.deck.isEmpty = true
  · simp only [h, if_true]
    rfl
  · simp only [h, Bool.false_eq_true, if_false]
    rfl

/-- The ids are those of the hand and of the cards drawn so far. -/
def Dealing.Holds (hand : List Copy) (t : Dealing) (held : List Datum) : Prop :=
  ∀ id : Datum, held.any (·.same id) = (hand ++ t.drawn).any (·.id.same id)

/-- The loop of a draw, from a dealing under way. -/
def Dealing.loop (count n : Nat) (t : Dealing) (held : List Datum) : Except Fault Drawn × Chance :=
  drawLoop n (count - t.drawn.length) t.deck t.discard held t.drawn.reverse t.chance

/-- The loop pulls a card and goes on, or there is none. -/
theorem loop_pull {hand : List Copy} {count n : Nat} {t : Dealing} {held : List Datum}
    (hheld : t.Holds hand held) (hshort : t.drawn.length < count) {d : Drawn} {c : Chance}
    (h : t.loop count (n + 1) held = (.ok d, c)) :
    t.pull hand = none ∧ d = t.result ∧ c = t.chance ∨
      ∃ next held', t.pull hand = some next ∧ next.Holds hand held' ∧
        next.loop count n held' = (.ok d, c) := by
  obtain ⟨want, hwant⟩ : ∃ want, count - t.drawn.length = want + 1 :=
    ⟨count - t.drawn.length - 1, by omega⟩
  rw [Dealing.loop, hwant, drawLoop] at h
  obtain ⟨piles, c₁, hpiles, h⟩ := Play.bind_ok.1 h
  rw [Play.luck_ok, refill_eq] at hpiles
  cases hpiles
  cases hdeck : t.refilled.deck with
  | nil =>
    left
    have hnone : t.pull hand = none := by simp [Dealing.pull, hdeck]
    obtain ⟨hempty, hdiscard⟩ := Dealing.piles_of_pull_none hnone
    have hsame : t.refilled.discard = [] ∧ t.refilled.chance = t.chance := by
      simp [Dealing.refilled, hempty, hdiscard, Luck.shuffle_nil]
    rw [hdeck] at h
    obtain ⟨rfl, rfl⟩ := Play.pure_ok.1 h
    simp [hnone, Dealing.result, hempty, hdiscard, hsame.1, hsame.2]
  | cons x deck =>
    right
    rw [hdeck] at h
    obtain ⟨id, c₂, hid, h⟩ := Play.bind_ok.1 h
    obtain ⟨hkey, rfl⟩ := Play.except_ok.1 hid
    obtain rfl := key_eq hkey
    have hguard : (x.card.unique && held.any (·.same x.id)) = x.isBlocked (hand ++ t.drawn) := by
      rw [hheld]
      rfl
    rw [hguard] at h
    by_cases hblocked : x.isBlocked (hand ++ t.drawn) = true
    · rw [if_pos hblocked, ← hwant] at h
      refine ⟨{ t.refilled with
        deck, discard := t.refilled.discard ++ [x], pulls := t.pulls ++ [⟨x, false⟩] },
        held, by simp [Dealing.pull, hdeck, hblocked], ?_, ?_⟩
      · simpa [Dealing.Holds, Dealing.drawn] using hheld
      · simpa [Dealing.loop, Dealing.drawn] using h
    · have hless : want = count - (t.drawn.length + 1) := by omega
      rw [if_neg hblocked, hless] at h
      refine ⟨{ t.refilled with deck, pulls := t.pulls ++ [⟨x, true⟩] }, x.id :: held,
        by simp [Dealing.pull, hdeck, hblocked], fun id => ?_, ?_⟩
      · have hid := hheld id
        simp only [List.any_cons, hid, Dealing.drawn, Pull.keptOf_kept, List.any_append,
          List.any_nil, Bool.or_false]
        rw [Bool.or_comm, Bool.or_assoc]
      · simpa [Dealing.loop, Dealing.drawn] using h

/-- **The loop of a draw is a dealing.** -/
theorem loop_ok {hand : List Copy} {count : Nat} (n : Nat) (t : Dealing) (held : List Datum)
    (hheld : t.Holds hand held) {d : Drawn} {c : Chance} (h : t.loop count n held = (.ok d, c)) :
    d = (t.run hand count n).result ∧ c = (t.run hand count n).chance := by
  induction n generalizing t held with
  | zero =>
    rw [Dealing.loop, drawLoop] at h
    · obtain ⟨rfl, rfl⟩ := Play.pure_ok.1 h
      simp [Dealing.run, Dealing.result]
    · intros; contradiction
  | succ n ih =>
    unfold Dealing.run
    by_cases hshort : t.drawn.length < count
    · rw [if_pos hshort]
      rcases loop_pull hheld hshort h with ⟨hnone, hd, hc⟩ | ⟨next, held', hnext, hheld', h⟩
      · simp [hnone, hd, hc]
      · rw [hnext]
        exact ih next held' hheld' h
    · have hwant : count - t.drawn.length = 0 := by omega
      rw [Dealing.loop, hwant, drawLoop] at h
      · obtain ⟨rfl, rfl⟩ := Play.pure_ok.1 h
        simp [if_neg hshort, Dealing.result]
      · intros; contradiction

/-- **A draw is a dealing.** -/
theorem drawCards_ok {deck discard hand : List Copy} {count : Nat} {c c' : Chance} {d : Drawn}
    (h : drawCards deck discard count hand c = (.ok d, c')) :
    d = (dealing deck discard count hand c).result ∧
      c' = (dealing deck discard count hand c).chance := by
  obtain ⟨held, c₁, hids, h⟩ := Play.bind_ok.1 h
  obtain ⟨hkeys, rfl⟩ := Play.except_ok.1 hids
  obtain rfl := held_eq hkeys
  refine loop_ok (count * 2 + 10) ⟨deck.reverse, discard, c, [], 0⟩ _ (fun id => ?_) h
  simp [Dealing.drawn, Pull.keptOf, List.any_map, Function.comp_def]

/-! ### What a draw keeps -/

/-- Each card was kept just when it was not blocked by the hand and the cards kept before it. -/
def Labelled (hand : List Copy) (pulls : List Pull) : Prop :=
  ∀ before p after, pulls = before ++ p :: after →
    p.kept = !p.copy.isBlocked (hand ++ Pull.keptOf before)

namespace Labelled

variable {hand : List Copy} {pulls : List Pull}

theorem nil : Labelled hand [] := by
  intro before p after h
  simp at h

theorem concat {p : Pull} (h : Labelled hand pulls)
    (hp : p.kept = !p.copy.isBlocked (hand ++ Pull.keptOf pulls)) :
    Labelled hand (pulls ++ [p]) := by
  intro before q after heq
  rcases List.eq_nil_or_concat after with rfl | ⟨after', r, rfl⟩
  · obtain ⟨rfl, hlast⟩ := List.append_inj' heq rfl
    obtain rfl : p = q := by simpa using hlast
    exact hp
  · have hcons : pulls ++ [p] = (before ++ q :: after') ++ [r] := by simpa using heq
    obtain ⟨rfl, -⟩ := List.append_inj' hcons rfl
    exact h before q after' rfl

/-- A card that was kept was not blocked by the cards kept before it. -/
theorem not_blocked (h : Labelled hand pulls) {before after : List Copy} {x : Copy}
    (hkept : Pull.keptOf pulls = before ++ x :: after) :
    x.isBlocked (hand ++ before) = false := by
  obtain ⟨kept₁, kept₂, hsplit, hbefore, hrest⟩ := List.map_eq_append_iff.1 hkept
  obtain ⟨p, kept₃, rfl, hx, -⟩ := List.map_eq_cons_iff.1 hrest
  obtain ⟨pulls₁, pulls₂, rfl, rfl, hlater⟩ := List.filter_eq_append_iff.1 hsplit
  obtain ⟨gap, pulls₃, rfl, hgap, hp, -⟩ := List.filter_eq_cons_iff.1 hlater
  have hnone : gap.filter (·.kept) = [] := List.filter_eq_nil_iff.2 hgap
  have hearlier : Pull.keptOf (pulls₁ ++ gap) = before := by
    simp [Pull.keptOf, hnone, hbefore]
  have hlabel := h (pulls₁ ++ gap) p pulls₃ (by simp)
  rw [hearlier, hp, hx] at hlabel
  simpa using hlabel

end Labelled

/-- A card that is not blocked and unique has the id of no card that is held. -/
theorem Copy.same_eq_false_of_not_blocked {held : List Copy} {x y : Copy}
    (h : x.isBlocked held = false) (hunique : x.card.unique = true) (hy : y ∈ held) :
    y.id.same x.id = false := by
  have hany : held.any (fun y => y.id.same x.id) = false := by
    simpa [isBlocked, hunique] using h
  simpa using List.any_eq_false.1 hany y hy

namespace Dealing

variable {hand : List Copy} {count : Nat} {t t' : Dealing}

theorem pull_labelled (h : t.pull hand = some t') (ht : Labelled hand t.pulls) :
    Labelled hand t'.pulls := by
  obtain ⟨x, deck, -, ⟨hblocked, rfl⟩ | ⟨hblocked, rfl⟩⟩ := pull_cases h
  · exact ht.concat (by simpa [drawn] using hblocked)
  · exact ht.concat (by simpa [drawn] using hblocked)

/-- So far all cards came off the deck as it was, which is given upside down: the discard pile was
not touched but for the cards that went onto it, and nothing was left to chance. -/
structure Straight (deck discard : List Copy) (c : Chance) (t : Dealing) : Prop where
  deck : deck = t.pulls.map (·.copy) ++ t.deck
  discard : t.discard = discard ++ t.diverted
  chance : t.chance = c

/-- As long as no card is taken off an empty deck, a dealing goes straight on. -/
theorem pull_straight {deck discard : List Copy} {c : Chance} (h : t.pull hand = some t')
    (ht : t.refills = 0 → t.Straight deck discard c) (hrefills : t'.refills = 0) :
    t'.Straight deck discard c := by
  obtain ⟨x, rest, hdeck, hcases⟩ := pull_cases h
  rcases t.refilled_cases with ⟨-, hsame⟩ | ⟨-, -, -, -, hmore⟩
  · rw [hsame] at hdeck hcases
    obtain ⟨-, rfl⟩ | ⟨-, rfl⟩ := hcases
    · obtain ⟨hpulled, hdiscard, hchance⟩ := ht hrefills
      exact ⟨by simp [hpulled, hdeck], by simp [hdiscard, diverted], hchance⟩
    · obtain ⟨hpulled, hdiscard, hchance⟩ := ht hrefills
      exact ⟨by simp [hpulled, hdeck], by simp [hdiscard, diverted], hchance⟩
  · have hpositive : t'.refills = t.refills + 1 := by
      obtain ⟨-, rfl⟩ | ⟨-, rfl⟩ := hcases <;> exact hmore
    omega

end Dealing

/-- **A draw keeps its contract.** It returns when the ids of all cards are keys, as texts are. The
piles after it and the cards drawn are the piles before it; no more cards are drawn than were asked
for; and no unique card is drawn whose id a card of the hand has, or one that was drawn before it.

When no card is taken off an empty deck, the cards that were taken off are the end of the deck, the
last one first, and each of them was drawn or put on the discard pile, in this order: put there when
it was blocked, and drawn otherwise. Then nothing is left to chance. -/
theorem draw_keeps_contract (deck discard hand : List Copy) (count : Nat) (c : Chance) :
    ((∀ x ∈ deck ++ discard ++ hand, x.id.isKey = true) →
      ∃ d c', drawCards deck discard count hand c = (.ok d, c')) ∧
    ∀ d c', drawCards deck discard count hand c = (.ok d, c') →
      (d.deck ++ d.discard ++ d.hand).Perm (deck ++ discard) ∧ d.hand.length ≤ count ∧
      (∀ before x after, d.hand = before ++ x :: after → x.card.unique = true →
        ∀ y ∈ hand ++ before, y.id.same x.id = false) ∧
      ((dealing deck discard count hand c).refills = 0 →
        ∃ pulls : List Pull, deck = d.deck ++ (pulls.map (·.copy)).reverse ∧
          d.hand = Pull.keptOf pulls ∧ d.discard = discard ++ Pull.divertedOf pulls ∧
          Labelled hand pulls ∧ c' = c) := by
  constructor
  · intro hkeys
    have hnever : PlayFailsOnly (fun _ => False) (drawCards deck discard count hand) :=
      .drawCards fun x hx => .key (hkeys x hx)
    exact hnever.returns c
  · intro d c' h
    obtain ⟨hperm, hlength, -⟩ := drawCards_spec h
    obtain ⟨rfl, rfl⟩ := drawCards_ok h
    have hlabelled : Labelled hand (dealing deck discard count hand c).pulls :=
      Dealing.run_of_pull (fun t t' => Dealing.pull_labelled) _ _ .nil
    refine ⟨hperm, hlength, fun before x after hsplit hunique y hy => ?_, fun hrefills => ?_⟩
    · have hfree := hlabelled.not_blocked hsplit
      exact Copy.same_eq_false_of_not_blocked hfree hunique hy
    · have hstraight : (dealing deck discard count hand c).Straight deck.reverse discard c :=
        Dealing.run_of_pull
          (P := fun t => t.refills = 0 → t.Straight deck.reverse discard c)
          (fun t t' => Dealing.pull_straight) _ _ (fun _ => ⟨rfl, by simp [Dealing.diverted,
            Pull.divertedOf], rfl⟩) hrefills
      refine ⟨_, ?_, rfl, hstraight.discard, hlabelled, hstraight.chance⟩
      have hdeck := congrArg List.reverse hstraight.deck
      simpa [Dealing.result] using hdeck

/-- A unique card between two others. -/
def layeredDeck : List Copy :=
  Copy.deal 0 [.plain "a", { Card.plain "u" with unique := true }, .plain "b"]

/-- A hand with one more copy of the unique card. -/
def blockingHand : List Copy := [⟨.dealt 3, { Card.plain "u" with unique := true }⟩]

/-- Two draws of two cards. The first puts the unique card aside, which is held, and takes the cards
off the deck in order. The second finds no deck and shuffles the discard pile. -/
theorem draws_divert_and_refill :
    (∃ d pulls, drawCards layeredDeck [] 2 blockingHand stillChance = (.ok d, stillChance) ∧
      layeredDeck = d.deck ++ (pulls.map Pull.copy).reverse ∧ d.hand = Pull.keptOf pulls ∧
      d.discard = Pull.divertedOf pulls ∧ d.discard.length = 1 ∧ d.hand.length ≤ 2 ∧
      ∀ before x after, d.hand = before ++ x :: after → x.card.unique = true →
        ∀ y ∈ blockingHand ++ before, y.id.same x.id = false) ∧
    ∃ d c', drawCards [] layeredDeck 2 [] stillChance = (.ok d, c') ∧
      (dealing [] layeredDeck 2 [] stillChance).refills = 1 ∧
      (d.deck ++ d.discard ++ d.hand).Perm layeredDeck ∧ d.hand.length ≤ 2 := by
  have hkeys : ∀ x ∈ layeredDeck ++ [] ++ blockingHand, x.id.isKey = true := by decide
  have hkeys' : ∀ x ∈ [] ++ layeredDeck ++ [], x.id.isKey = true := by decide
  obtain ⟨hreturns, hcontract⟩ :=
    draw_keeps_contract layeredDeck [] blockingHand 2 stillChance
  obtain ⟨hreturns', hcontract'⟩ := draw_keeps_contract [] layeredDeck [] 2 stillChance
  constructor
  · obtain ⟨d, c', hdraw⟩ := hreturns hkeys
    obtain ⟨hperm, hlength, hunique, hstraight⟩ := hcontract d c' hdraw
    obtain ⟨pulls, hdeck, hhand, hdiscard, -, rfl⟩ := hstraight (by decide +kernel)
    have hresult := (drawCards_ok hdraw).1
    have hone : d.discard.length = 1 := by
      rw [hresult]
      decide +kernel
    exact ⟨d, pulls, hdraw, hdeck, hhand, hdiscard, hone, hlength, hunique⟩
  · obtain ⟨d, c', hdraw⟩ := hreturns' hkeys'
    obtain ⟨hperm, hlength, -, -⟩ := hcontract' d c' hdraw
    exact ⟨d, c', hdraw, by decide +kernel, hperm, hlength⟩

end CardLesson
