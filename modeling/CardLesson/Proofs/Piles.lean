/-
# Drawing and removing keep the cards

A draw moves cards between the piles and the hand: what it leaves in the deck and the discard pile
and what it draws are, together, the cards that were in the piles. It never draws more cards than
were asked for. Taking a copy out of a zone takes out one copy or none, and a sample of a list picks
from the list.

Key definitions: `takenFrom`, `Luck.KeepsNames`.
Key theorems: `Luck.mem_of_mem_sample`, `drawCards_spec`, `removeCopy_perm`, `takenFrom_spec`.
-/
import CardLesson.Proofs.Play

namespace CardLesson
namespace Luck

variable {α β : Type}

/-! ### Names -/

/-- A computation that hands out no names. -/
def KeepsNames (x : Luck α) : Prop := ∀ c, (x c).2.named = c.named

namespace KeepsNames

theorem pure (a : α) : KeepsNames (Pure.pure a) := fun _ => rfl

theorem bind {x : Luck α} {f : α → Luck β} (hx : KeepsNames x) (hf : ∀ a, KeepsNames (f a)) :
    KeepsNames (x >>= f) := fun c => by
  rw [Play.luck_bind, hf, hx]

theorem bits (k : Nat) : KeepsNames (bits k) := fun _ => rfl

theorem unit : KeepsNames unit := fun _ => rfl

theorem tryBelow (n k : Nat) : ∀ left, KeepsNames (tryBelow n k left)
  | 0 => (bits k).bind fun _ => pure _
  | left + 1 => by
    refine (bits k).bind fun r => ?_
    split
    · exact pure r
    · exact tryBelow n k left

theorem below (n : Nat) : KeepsNames (below n) := tryBelow n _ _

theorem samplePool : ∀ (k : Nat) (pool : Array α), KeepsNames (samplePool k pool)
  | 0, _ => pure []
  | k + 1, pool => by
    refine (below _).bind fun j => ?_
    split
    · exact (samplePool k _).bind fun _ => pure _
    · exact pure []

theorem freshPlace (n : Nat) (taken : List Nat) : ∀ left, KeepsNames (freshPlace n taken left)
  | 0 => pure _
  | left + 1 => by
    refine (below n).bind fun j => ?_
    split
    · exact freshPlace n taken left
    · exact pure j

theorem samplePlaces (xs : Array α) : ∀ (k : Nat) (taken : List Nat),
    KeepsNames (samplePlaces xs k taken)
  | 0, _ => pure []
  | k + 1, taken =>
    (freshPlace _ taken _).bind fun _ => (samplePlaces xs k _).bind fun _ => pure _

theorem sample (xs : List α) (k : Nat) : KeepsNames (sample xs k) := by
  unfold Luck.sample
  split
  · exact samplePool k _
  · exact samplePlaces _ k _

theorem shuffleFrom : ∀ (i : Nat) (xs : Array α), KeepsNames (shuffleFrom i xs)
  | 0, xs => pure xs
  | i + 1, _ => unit.bind fun _ => shuffleFrom i _

theorem shuffle (xs : List α) : KeepsNames (shuffle xs) := (shuffleFrom _ _).bind fun _ => pure _

end KeepsNames

/-! ### Samples -/

theorem mem_of_mem_samplePool : ∀ (k : Nat) (pool : Array α) (c : Chance),
    ∀ x ∈ (samplePool k pool c).1, x ∈ pool
  | 0, _, _, x, hx => by cases hx
  | k + 1, pool, c, x, hx => by
    rw [samplePool, Play.luck_bind] at hx
    rcases hy : pool[(below pool.size c).1]? with _ | y
    · simp only [hy] at hx
      cases hx
    · rcases hlast : pool.back? with _ | last
      · simp only [hy, hlast] at hx
        cases hx
      · simp only [hy, hlast, Play.luck_bind, Play.luck_pure] at hx
        rcases List.mem_cons.1 hx with rfl | hx
        · exact Array.mem_of_getElem? hy
        · have hmem := mem_of_mem_samplePool k _ _ x hx
          rw [← Array.mem_toList_iff, Array.toList_pop] at hmem
          have hmem := Array.mem_toList_iff.1 (List.dropLast_subset _ hmem)
          rcases Array.mem_or_eq_of_mem_setIfInBounds hmem with hmem | rfl
          · exact hmem
          · exact Array.mem_of_back? hlast

theorem mem_of_mem_samplePlaces (xs : Array α) : ∀ (k : Nat) (taken : List Nat) (c : Chance),
    ∀ x ∈ (samplePlaces xs k taken c).1, x ∈ xs
  | 0, _, _, x, hx => by cases hx
  | k + 1, taken, c, x, hx => by
    rw [samplePlaces, Play.luck_bind, Play.luck_bind, Play.luck_pure] at hx
    rcases List.mem_append.1 hx with hx | hx
    · exact Array.mem_of_getElem? (Option.mem_toList.1 hx)
    · exact mem_of_mem_samplePlaces xs k _ _ x hx

/-- What is sampled from a list is in the list. -/
theorem mem_of_mem_sample {xs : List α} {k : Nat} {c : Chance} {x : α}
    (h : x ∈ (sample xs k c).1) : x ∈ xs := by
  unfold sample at h
  split at h
  · simpa using mem_of_mem_samplePool k _ c x h
  · simpa using mem_of_mem_samplePlaces _ k _ c x h

end Luck

/-! ### Draws -/

theorem refill_named (deck discard : List Copy) : Luck.KeepsNames (refill deck discard) := by
  unfold refill
  split
  · exact (Luck.KeepsNames.shuffle discard).bind fun _ => .pure _
  · exact .pure _

/-- Refilling the deck keeps the cards of the piles. -/
theorem refill_perm (deck discard : List Copy) (c : Chance) :
    ((refill deck discard c).1.1 ++ (refill deck discard c).1.2).Perm (deck ++ discard) := by
  unfold refill
  split
  · next h =>
    rw [List.isEmpty_iff.1 h, Play.luck_bind, Play.luck_pure]
    show ((Luck.shuffle discard c).1.reverse ++ []).Perm discard
    rw [List.append_nil]
    exact (List.reverse_perm _).trans (Luck.shuffle_perm discard c)
  · exact .refl _

/-- A draw keeps the cards of the piles and of the hand that is drawn, and draws no more than it
should. -/
theorem drawLoop_spec : ∀ (attempts want : Nat) (deck discard : List Copy) (held : List Datum)
    (drawn : List Copy) {c c' : Chance} {d : Drawn},
    drawLoop attempts want deck discard held drawn c = (.ok d, c') →
      (d.deck ++ d.discard ++ d.hand).Perm (deck ++ discard ++ drawn) ∧
        d.hand.length ≤ drawn.length + want ∧ c'.named = c.named
  | attempts + 1, want + 1, deck, discard, held, drawn, c, c', d, h => by
    rw [drawLoop] at h
    simp only [Play.bind_ok, Play.luck_ok] at h
    obtain ⟨⟨deck₁, discard₁⟩, c₁, hr, h⟩ := h
    have hp : (deck₁ ++ discard₁).Perm (deck ++ discard) := by
      simpa [hr] using refill_perm deck discard c
    have hn : c₁.named = c.named := by
      simpa [hr] using refill_named deck discard c
    cases deck₁ with
    | nil =>
      obtain ⟨rfl, rfl⟩ := Play.pure_ok.1 h
      refine ⟨?_, by simp, hn⟩
      exact hp.append (List.reverse_perm drawn)
    | cons x deck₁ =>
      simp only [Play.bind_ok, Play.except_ok] at h
      obtain ⟨id, c₂, ⟨-, rfl⟩, h⟩ := h
      split at h
      · obtain ⟨hd, hl, hn'⟩ := drawLoop_spec attempts (want + 1) _ _ _ _ h
        refine ⟨hd.trans ?_, hl, hn'.trans hn⟩
        refine List.Perm.append_right drawn (.trans ?_ hp)
        simpa using @List.perm_append_comm _ (deck₁ ++ discard₁) [x]
      · obtain ⟨hd, hl, hn'⟩ := drawLoop_spec attempts want _ _ _ _ h
        rw [List.length_cons] at hl
        refine ⟨hd.trans ?_, by omega, hn'.trans hn⟩
        refine .trans ?_ (hp.append_right drawn)
        simpa using @List.perm_middle _ x (deck₁ ++ discard₁) drawn
  | 0, want, deck, discard, held, drawn, c, c', d, h => by
    rw [drawLoop] at h
    · obtain ⟨rfl, rfl⟩ := Play.pure_ok.1 h
      refine ⟨?_, by simp, rfl⟩
      exact ((List.reverse_perm deck).append_right discard).append (List.reverse_perm drawn)
    · intros; contradiction
  | attempts + 1, 0, deck, discard, held, drawn, c, c', d, h => by
    rw [drawLoop] at h
    · obtain ⟨rfl, rfl⟩ := Play.pure_ok.1 h
      refine ⟨?_, by simp, rfl⟩
      exact ((List.reverse_perm deck).append_right discard).append (List.reverse_perm drawn)
    · intros; contradiction

/-- **A draw keeps the cards.** The piles after it and the cards drawn are the piles before it, no
more cards are drawn than were asked for, and no name is handed out. -/
theorem drawCards_spec {deck discard hand : List Copy} {count : Nat} {c c' : Chance} {d : Drawn}
    (h : drawCards deck discard count hand c = (.ok d, c')) :
    (d.deck ++ d.discard ++ d.hand).Perm (deck ++ discard) ∧ d.hand.length ≤ count ∧
      c'.named = c.named := by
  rw [drawCards] at h
  simp only [Play.bind_ok, Play.except_ok] at h
  obtain ⟨held, c₁, ⟨-, rfl⟩, h⟩ := h
  obtain ⟨hd, hl, hn⟩ := drawLoop_spec _ _ _ _ _ _ h
  refine ⟨hd.trans ?_, by simpa using hl, hn⟩
  simpa using (List.reverse_perm deck).append_right discard

/-! ### Removing a copy -/

/-- Taking out the first item that passes a test takes that item out, and nothing when there is
none. -/
theorem removeFirst_perm (p : Copy → Bool) : ∀ zone : List Copy,
    zone.Perm ((zone.find? p).toList ++ removeFirst p zone)
  | [] => .refl _
  | x :: zone => by
    cases hx : p x with
    | true => simp [removeFirst, List.find?, hx]
    | false =>
      simp only [removeFirst, List.find?, hx, Bool.false_eq_true, ↓reduceIte]
      exact ((removeFirst_perm p zone).cons x).trans List.perm_middle.symm

/-- The copy that is taken out of a zone for a copy: that very copy or, if it is not there, the
first one of an equal card. -/
def takenFrom (zone : List Copy) (copy : Copy) : Option Copy :=
  (zone.find? (·.serial == copy.serial)).or (zone.find? (·.card.same copy.card))

/-- A zone is what is taken out of it and what is left. -/
theorem removeCopy_perm (zone : List Copy) (copy : Copy) :
    zone.Perm ((takenFrom zone copy).toList ++ removeCopy zone copy) := by
  unfold takenFrom removeCopy
  by_cases hs : zone.any (·.serial == copy.serial) = true
  · rw [if_pos hs]
    obtain ⟨x, hx⟩ := Option.isSome_iff_exists.1 (List.find?_isSome.2 (List.any_eq_true.1 hs))
    rw [hx, Option.some_or, ← hx]
    exact removeFirst_perm _ zone
  · rw [if_neg hs]
    have hnone : zone.find? (·.serial == copy.serial) = none := by
      rw [List.find?_eq_none]
      exact fun x hx h => hs (List.any_eq_true.2 ⟨x, hx, h⟩)
    rw [hnone, Option.none_or]
    exact removeFirst_perm _ zone

/-- What is taken out for a copy was in the zone, and has its serial or an equal card. -/
theorem takenFrom_spec {zone : List Copy} {copy x : Copy} (h : takenFrom zone copy = some x) :
    x ∈ zone ∧ (x.serial = copy.serial ∨ x.card.same copy.card = true) := by
  rcases Option.or_eq_some_iff.1 h with h | ⟨-, h⟩
  · exact ⟨List.mem_of_find?_eq_some h, .inl (by simpa using List.find?_some h)⟩
  · exact ⟨List.mem_of_find?_eq_some h, .inr (by simpa using List.find?_some h)⟩

/-- For a copy in the zone a copy with its serial is taken out. -/
theorem takenFrom_of_mem {zone : List Copy} {copy : Copy} (h : copy ∈ zone) :
    ∃ x ∈ zone, takenFrom zone copy = some x ∧ x.serial = copy.serial := by
  have hs : (zone.find? (·.serial == copy.serial)).isSome = true :=
    List.find?_isSome.2 ⟨copy, h, beq_self_eq_true _⟩
  obtain ⟨x, hx⟩ := Option.isSome_iff_exists.1 hs
  refine ⟨x, List.mem_of_find?_eq_some hx, ?_, by simpa using List.find?_some hx⟩
  rw [takenFrom, hx, Option.some_or]

/-- Of a zone with a copy in it, one copy less is left. -/
theorem length_removeCopy {zone : List Copy} {copy : Copy} (h : copy ∈ zone) :
    (removeCopy zone copy).length + 1 = zone.length := by
  obtain ⟨x, -, hx, -⟩ := takenFrom_of_mem h
  have hperm := (removeCopy_perm zone copy).length_eq
  rw [hx] at hperm
  simp only [Option.toList_some, List.length_append, List.length_singleton] at hperm
  omega

end CardLesson
