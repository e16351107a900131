/-
# How a lesson opens

The first turn deals the deck out: the zones of the lesson that is opened hold the copies of the
deck and no others. The numbers come from the status, no buff is there yet, and all else that the
lesson carries comes out of the deck, the drinks and the catalog that were given.

Key definitions: `Opened`.
Key theorems: `splitStart_perm`, `openLesson_ok`, `Opened.bears`.
-/
import CardLesson.Lesson.Opening
import CardLesson.Proofs.Zones

namespace CardLesson

/-- The cards that start in the hand are in it, or are those that are one too many. -/
theorem splitStart_perm : ∀ (deck hand blocked : List Copy),
    ((splitStart hand blocked deck).1 ++ (splitStart hand blocked deck).2).Perm
      (hand ++ blocked ++ deck.filter (·.card.startInHand))
  | [], hand, blocked => by simp [splitStart]
  | x :: deck, hand, blocked => by
    cases hx : x.card.startInHand with
    | false =>
      rw [splitStart, hx]
      simpa [hx] using splitStart_perm deck hand blocked
    | true =>
      have hfilter : (x :: deck).filter (·.card.startInHand) =
          x :: deck.filter (·.card.startInHand) := by simp [hx]
      rw [splitStart, hx, hfilter, Bool.not_true, if_neg Bool.false_ne_true]
      split
      · refine (splitStart_perm deck hand (blocked ++ [x])).trans ?_
        simp
      · refine (splitStart_perm deck (hand ++ [x]) blocked).trans ?_
        simp only [List.append_assoc, List.singleton_append]
        exact List.Perm.append_left hand List.perm_middle.symm

/-- The cards that start in the hand, those that are one too many and all others, after a draw from
the last two, are the cards of the deck. -/
theorem dealt_perm {deck startHand blocked remaining : List Copy} {d : Drawn}
    (hstart : (startHand ++ blocked).Perm (deck.filter (·.card.startInHand)))
    (hrest : remaining.Perm (deck.filter fun x => !x.card.startInHand))
    (hdrawn : (d.deck ++ d.discard ++ d.hand).Perm (remaining ++ blocked)) :
    (d.deck ++ (startHand ++ d.hand) ++ d.discard).Perm deck := by
  have hd := coe_drawn hdrawn
  have hs := Multiset.coe_eq_coe.2 hstart
  have hr := Multiset.coe_eq_coe.2 hrest
  rw [← Multiset.coe_add] at hs
  rw [← Multiset.coe_eq_coe]
  simp only [← Multiset.coe_add]
  calc (d.deck : Multiset Copy) + (startHand + d.hand) + d.discard
      = startHand + (d.deck + d.discard + d.hand) := by abel
    _ = (startHand + blocked) + remaining := by rw [hd]; abel
    _ = ↑(deck.filter (·.card.startInHand) ++ deck.filter fun x => !x.card.startInHand) := by
        rw [hs, hr, Multiset.coe_add]
    _ = deck := Multiset.coe_eq_coe.2 (List.filter_append_perm _ deck)

theorem mem_put {id : Datum} {copy x : Copy} : ∀ {catalog : Catalog},
    x ∈ (catalog.put id copy).map (·.2) → x = copy ∨ x ∈ catalog.map (·.2)
  | [], h => by simpa [Catalog.put] using h
  | (k, y) :: rest, h => by
    rw [Catalog.put] at h
    split at h
    · rw [List.map_cons, List.mem_cons] at h ⊢
      tauto
    · rw [List.map_cons, List.mem_cons] at h ⊢
      rcases h with h | h
      · exact .inr (.inl h)
      · exact (mem_put h).imp_right .inr

theorem mem_ofCopies {x : Copy} : ∀ {copies : List Copy} {catalog known : Catalog},
    Catalog.ofCopies catalog copies = .ok known → x ∈ known.map (·.2) →
      x ∈ copies ∨ x ∈ catalog.map (·.2)
  | [], _, _, h, hx => by
    cases h
    exact .inr hx
  | y :: copies, catalog, known, h, hx => by
    unfold Catalog.ofCopies at h
    rw [List.foldlM_cons] at h
    obtain ⟨next, hnext, h⟩ := Play.except_bind_ok.1 h
    obtain ⟨key, -, hnext⟩ := Play.except_bind_ok.1 hnext
    obtain rfl := Play.except_pure_ok.1 hnext
    rcases mem_ofCopies h hx with hx | hx
    · exact .inl (List.mem_cons_of_mem y hx)
    · rcases mem_put hx with rfl | hx
      · exact .inl List.mem_cons_self
      · exact .inr hx

theorem mem_foldl_put {x : Copy} : ∀ {entries known : Catalog},
    x ∈ (entries.foldl (fun known e => known.put e.1 e.2) known).map (·.2) →
      x ∈ entries.map (·.2) ∨ x ∈ known.map (·.2)
  | [], _, hx => .inr hx
  | e :: entries, known, hx => by
    rw [List.foldl_cons] at hx
    rcases mem_foldl_put hx with hx | hx
    · exact .inl (List.mem_cons_of_mem _ hx)
    · rcases mem_put hx with rfl | hx
      · exact .inl List.mem_cons_self
      · exact .inr hx

/-- The lesson in its first turn. -/
structure Opened (status : Status) (deck : List Copy) (drinks : List Drink) (maxTurns : Quantity)
    (catalog : Catalog) (l : Lesson) : Prop where
  zones : l.zones.Perm deck
  known : ∀ x ∈ l.catalog.map (·.2), x ∈ deck ∨ x ∈ catalog.map (·.2)
  frame : l = {
    maxTurns, turnStat := l.turnStat, vocal := l.vocal, dance := l.dance, visual := l.visual
    hp := l.hp, maxHp := l.maxHp, deck := l.deck, hand := l.hand, discard := l.discard
    drinks := drinks.map fun d => ⟨d, false⟩, logs := l.logs, catalog := l.catalog }
  vocal : status.vocal.quantity = .ok l.vocal
  dance : status.dance.quantity = .ok l.dance
  visual : status.visual.quantity = .ok l.visual
  hp : ∃ hp, status.hp.quantity = .ok hp ∧ l.hp = hp.smaller l.maxHp
  maxHp : status.maxHp.quantity = .ok l.maxHp
  hand : ∃ remaining c d c', drawCards remaining (splitStart [] [] deck).2
    (Balance.baseDraw - (splitStart [] [] deck).1.length) (splitStart [] [] deck).1 c =
        (.ok d, c') ∧
      l.hand = (splitStart [] [] deck).1 ++ d.hand

/-- **What opening a lesson does.** -/
theorem openLesson_ok {status : Status} {schedule : Schedule} {deck : List Copy}
    {drinks : List Drink} {maxTurns : Quantity} {catalog : Catalog} {l : Lesson} {c c' : Chance}
    (h : openLesson status schedule deck drinks maxTurns catalog c = (.ok l, c')) :
    Opened status deck drinks maxTurns catalog l ∧ c'.named = c.named := by
  unfold openLesson at h
  have hsplit := splitStart_perm deck [] []
  rcases hs : splitStart [] [] deck with ⟨startHand, blocked⟩
  rw [hs] at h hsplit
  obtain ⟨remaining, c₁, hx, h⟩ := Play.bind_ok.1 h
  have hshuffle := Play.luck_ok.1 hx
  obtain ⟨d, c₂, hd, h⟩ := Play.bind_ok.1 h
  obtain ⟨known, c₃, hx, h⟩ := Play.bind_ok.1 h
  obtain ⟨hknown, rfl⟩ := Play.except_ok.1 hx
  obtain ⟨turnStat, c₃, hx, h⟩ := Play.bind_ok.1 h
  obtain ⟨-, rfl⟩ := Play.except_ok.1 hx
  obtain ⟨hp, c₃, hx, h⟩ := Play.bind_ok.1 h
  obtain ⟨hhp, rfl⟩ := Play.except_ok.1 hx
  obtain ⟨maxHp, c₃, hx, h⟩ := Play.bind_ok.1 h
  obtain ⟨hmaxHp, rfl⟩ := Play.except_ok.1 hx
  obtain ⟨vocal, c₃, hx, h⟩ := Play.bind_ok.1 h
  obtain ⟨hvocal, rfl⟩ := Play.except_ok.1 hx
  obtain ⟨dance, c₃, hx, h⟩ := Play.bind_ok.1 h
  obtain ⟨hdance, rfl⟩ := Play.except_ok.1 hx
  obtain ⟨visual, c₃, hx, h⟩ := Play.bind_ok.1 h
  obtain ⟨hvisual, rfl⟩ := Play.except_ok.1 hx
  obtain ⟨rfl, rfl⟩ := Play.pure_ok.1 h
  obtain ⟨hperm, -, hn⟩ := drawCards_spec hd
  have hremaining : remaining.Perm (deck.filter fun x => !x.card.startInHand) := by
    have := Luck.shuffle_perm (deck.filter fun x => !x.card.startInHand) c
    rwa [hshuffle] at this
  have hnamed : c₁.named = c.named := by
    have := Luck.KeepsNames.shuffle (deck.filter fun x => !x.card.startInHand) c
    rwa [hshuffle] at this
  refine ⟨⟨?_, fun x hx => ?_, rfl, hvocal, hdance, hvisual, ⟨hp, hhp, rfl⟩, hmaxHp,
    ⟨remaining, c₁, d, _, by rwa [hs], by rw [hs]⟩⟩, hn.trans hnamed⟩
  · have hdealt := dealt_perm (by simpa using hsplit) hremaining hperm
    simpa [Lesson.zones] using hdealt
  · rcases mem_foldl_put hx with hx | hx
    · exact .inr hx
    · rcases mem_ofCopies hknown hx with hx | hx
      · exact .inl hx
      · exact absurd hx List.not_mem_nil

/-- A lesson that is opened bears what it was given. -/
theorem Opened.bears {status : Status} {deck : List Copy} {drinks : List Drink}
    {maxTurns : Quantity} {catalog : Catalog} {l : Lesson} {T : Trait}
    (h : Opened status deck drinks maxTurns catalog l)
    (hcards : ∀ x ∈ deck ++ catalog.map (·.2), T.card x)
    (hdrinks : ∀ d ∈ drinks, ∀ e ∈ d.effects, T.effect e) : l.Bears T where
  zones x hx := hcards x (List.mem_append_left _ (h.zones.mem_iff.1 hx))
  catalog x hx := hcards x (List.mem_append.2 (h.known x hx))
  buffs b hb := by
    rw [h.frame] at hb
    exact absurd hb List.not_mem_nil
  drinks slot hslot := by
    rw [h.frame] at hslot
    obtain ⟨d, hd, rfl⟩ := List.mem_map.1 hslot
    exact hdrinks d hd

theorem Opened.carries {status : Status} {deck : List Copy} {drinks : List Drink}
    {maxTurns : Quantity} {catalog : Catalog} {l : Lesson} {p : Operation → Bool}
    (h : Opened status deck drinks maxTurns catalog l)
    (hcards : ∀ x ∈ deck ++ catalog.map (·.2), x.card.every p = true)
    (hdrinks : ∀ d ∈ drinks, Effect.everyOf p d.effects = true) : l.Carries p :=
  carries_iff.2 (h.bears hcards fun d hd => Effect.everyOf_iff.1 (hdrinks d hd))

end CardLesson
