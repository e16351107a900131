/-
# A hand holds a unique card once

Every way into the hand passes a guard of its own: the opening hand, a draw, a swap and an upgrade
each look for the id of a unique card among the ids that are held. `OneOfEach` is what they all
keep, so that it holds in every state of a lesson.

A guard asks whether an id that is held equals the new one. In a draw the new card comes last; an
upgrade may replace a card before others, and then the question is asked the other way round, which
makes no difference for ids that are keys.

Key definitions: `Copy.Apart`, `OneOfEach`.
Key theorems: `drawCards_oneOfEach`, `upgradeFrom_oneOfEach`, `HandMoved.oneOfEach`,
`Course.oneOfEach`, `course_holds_unique_once`.
-/
import CardLesson.Proofs.HandMoves
import CardLesson.Proofs.Opening
import CardLesson.Proofs.Sameness

namespace CardLesson

/-! ### The invariant -/

/-- Two copies are not both of one unique card. -/
def Copy.Apart (x y : Copy) : Prop :=
  x.card.unique = true → y.card.unique = true → x.id.same y.id = false

theorem Copy.Apart.symm {x y : Copy} (hx : x.id.isKey = true) (hy : y.id.isKey = true)
    (h : x.Apart y) : y.Apart x := fun hyu hxu => by
  rw [Datum.same_comm hy hx]
  exact h hxu hyu

/-- A hand that holds no unique card twice, and whose ids are keys. -/
structure OneOfEach (hand : List Copy) : Prop where
  keys : ∀ x ∈ hand, x.id.isKey = true
  apart : hand.Pairwise Copy.Apart

namespace OneOfEach

variable {hand rest : List Copy} {held : List Datum} {x : Copy} {id : Datum}

theorem sublist (h : OneOfEach hand) (hsub : rest.Sublist hand) : OneOfEach rest :=
  ⟨fun x hx => h.keys x (hsub.mem hx), h.apart.sublist hsub⟩

theorem isKey_of_key {d d' : Datum} (h : d.key = .ok d') : d.isKey = true := by
  unfold Datum.key at h
  split at h
  · assumption
  · cases h

/-- The guard: a card is apart from all cards whose ids are held, unless it is unique and its id is
held. -/
theorem apart_of_guard (hkey : x.id.key = .ok id)
    (hguard : ¬(x.card.unique && held.any (·.same id)) = true) {y : Copy} (hy : y.id ∈ held) :
    y.Apart x := by
  intro _ hunique
  obtain rfl := key_eq hkey
  rw [hunique, Bool.true_and] at hguard
  by_contra hsame
  exact hguard (List.any_eq_true.2 ⟨y.id, hy, by simpa using hsame⟩)

/-- A card that passed the guard may stand between the cards whose ids are held. -/
theorem insert (h : OneOfEach (hand ++ rest)) (hheld : ∀ y ∈ hand ++ rest, y.id ∈ held)
    (hkey : x.id.key = .ok id) (hguard : ¬(x.card.unique && held.any (·.same id)) = true) :
    OneOfEach (hand ++ x :: rest) := by
  have hx : x.id.isKey = true := isKey_of_key hkey
  have hapart {y : Copy} (hy : y ∈ hand ++ rest) : y.Apart x :=
    apart_of_guard hkey hguard (hheld y hy)
  refine ⟨fun y hy => ?_, ?_⟩
  · rcases List.mem_append.1 hy with hy | hy
    · exact h.keys y (List.mem_append_left rest hy)
    · rcases List.mem_cons.1 hy with rfl | hy
      · exact hx
      · exact h.keys y (List.mem_append_right hand hy)
  · obtain ⟨hhand, hrest, hcross⟩ := List.pairwise_append.1 h.apart
    refine List.pairwise_append.2 ⟨hhand, List.pairwise_cons.2 ⟨fun y hy => ?_, hrest⟩, ?_⟩
    · have hmem := List.mem_append_right hand hy
      exact (hapart hmem).symm (h.keys y hmem) hx
    · intro y hy z hz
      rcases List.mem_cons.1 hz with rfl | hz
      · exact hapart (List.mem_append_left rest hy)
      · exact hcross y hy z hz

/-- At different places of the hand there are not two of one unique card. -/
theorem same_eq_false (h : OneOfEach hand) {i j : Nat} {x y : Copy} (hij : i ≠ j)
    (hx : hand[i]? = some x) (hy : hand[j]? = some y) (hxu : x.card.unique = true)
    (hyu : y.card.unique = true) : x.id.same y.id = false := by
  have hget := List.pairwise_iff_getElem.1 h.apart
  obtain ⟨hi, rfl⟩ := List.getElem?_eq_some_iff.1 hx
  obtain ⟨hj, rfl⟩ := List.getElem?_eq_some_iff.1 hy
  rcases Nat.lt_or_gt_of_ne hij with hlt | hlt
  · exact hget i j hi hj hlt hxu hyu
  · have happart := hget j i hj hi hlt
    exact happart.symm (h.keys _ (List.getElem_mem hj)) (h.keys _ (List.getElem_mem hi)) hxu hyu

end OneOfEach

/-- The ids of a hand are keys when they can be listed as keys, and then each is listed. -/
theorem held_spec {hand : List Copy} {held : List Datum}
    (h : (hand.mapM fun c => c.id.key : Except Fault (List Datum)) = .ok held) :
    ∀ x ∈ hand, x.id.isKey = true ∧ x.id ∈ held := by
  intro x hx
  obtain ⟨id, hid, hkey⟩ := Play.except_mapM_mem h x hx
  have hmem := hid
  rw [key_eq hkey] at hmem
  exact ⟨OneOfEach.isKey_of_key hkey, hmem⟩

/-! ### Draws -/

/-- A draw lets in only cards that pass the guard. -/
theorem drawLoop_oneOfEach {hand : List Copy} : ∀ (attempts want : Nat) (deck discard : List Copy)
    (held : List Datum) (drawn : List Copy) {c c' : Chance} {d : Drawn},
    drawLoop attempts want deck discard held drawn c = (.ok d, c') →
      OneOfEach (hand ++ drawn.reverse) → (∀ x ∈ hand ++ drawn.reverse, x.id ∈ held) →
        OneOfEach (hand ++ d.hand)
  | attempts + 1, want + 1, deck, discard, held, drawn, c, c', d, h, hone, hheld => by
    rw [drawLoop] at h
    obtain ⟨⟨deck₁, discard₁⟩, c₁, -, h⟩ := Play.bind_ok.1 h
    cases deck₁ with
    | nil =>
      obtain ⟨rfl, rfl⟩ := Play.pure_ok.1 h
      exact hone
    | cons x deck₁ =>
      obtain ⟨id, c₂, hid, h⟩ := Play.bind_ok.1 h
      obtain ⟨hkey, rfl⟩ := Play.except_ok.1 hid
      split at h
      · exact drawLoop_oneOfEach attempts (want + 1) _ _ _ _ h hone hheld
      · next hguard =>
        have happend : hand ++ (x :: drawn).reverse = (hand ++ drawn.reverse) ++ [x] := by simp
        refine drawLoop_oneOfEach attempts want _ _ _ _ h ?_ fun y hy => ?_
        · have hone' : OneOfEach (hand ++ drawn.reverse ++ []) := by simpa using hone
          have hheld' : ∀ y ∈ hand ++ drawn.reverse ++ [], y.id ∈ held := by simpa using hheld
          rw [happend]
          exact hone'.insert hheld' hkey hguard
        · rw [happend] at hy
          rcases List.mem_append.1 hy with hy | hy
          · exact List.mem_cons_of_mem id (hheld y hy)
          · rw [List.mem_singleton.1 hy, key_eq hkey]
            exact List.mem_cons_self
  | 0, want, deck, discard, held, drawn, c, c', d, h, hone, _ => by
    rw [drawLoop] at h
    · obtain ⟨rfl, rfl⟩ := Play.pure_ok.1 h
      exact hone
    · intros; contradiction
  | attempts + 1, 0, deck, discard, held, drawn, c, c', d, h, hone, _ => by
    rw [drawLoop] at h
    · obtain ⟨rfl, rfl⟩ := Play.pure_ok.1 h
      exact hone
    · intros; contradiction

/-- **A draw beside a hand** adds no unique card that the hand holds, and none twice. -/
theorem drawCards_oneOfEach {deck discard hand : List Copy} {count : Nat} {c c' : Chance}
    {d : Drawn} (h : drawCards deck discard count hand c = (.ok d, c'))
    (hone : hand.Pairwise Copy.Apart) : OneOfEach (hand ++ d.hand) := by
  obtain ⟨held, c₁, hx, h⟩ := Play.bind_ok.1 h
  obtain ⟨hheld, rfl⟩ := Play.except_ok.1 hx
  have hids := held_spec hheld
  refine drawLoop_oneOfEach _ _ _ _ _ _ h ?_ fun x hx => ?_
  · rw [List.reverse_nil, List.append_nil]
    exact ⟨fun x hx => (hids x hx).1, hone⟩
  · rw [List.reverse_nil, List.append_nil] at hx
    exact (hids x hx).2

/-- A hand that is drawn anew holds no unique card twice. -/
theorem drawCards_nil_oneOfEach {deck discard : List Copy} {count : Nat} {c c' : Chance} {d : Drawn}
    (h : drawCards deck discard count [] c = (.ok d, c')) : OneOfEach d.hand := by
  have hone : OneOfEach ([] ++ d.hand) := drawCards_oneOfEach h .nil
  exact hone

/-! ### Upgrades -/

/-- An upgrade lets in only cards that pass the guard. The cards before are those that the upgrade
has gone through. -/
theorem upgradeFrom_oneOfEach {catalog : Catalog} : ∀ {hand hand' before : List Copy}
    {held : List Datum}, upgradeFrom catalog held hand = .ok hand' → OneOfEach (before ++ hand) →
      (∀ x ∈ before ++ hand, x.id ∈ held) → OneOfEach (before ++ hand')
  | [], _, before, held, h, hone, _ => by
    cases h
    exact hone
  | y :: hand, hand', before, held, h, hone, hheld => by
    have next {z : Copy} {held : List Datum} (hone : OneOfEach (before ++ z :: hand))
        (hheld : ∀ x ∈ before ++ z :: hand, x.id ∈ held)
        (h : (do return z :: (← upgradeFrom catalog held hand) : Except Fault _) = .ok hand') :
        OneOfEach (before ++ hand') := by
      obtain ⟨rest, hrest, h⟩ := Play.except_bind_ok.1 h
      obtain rfl := Play.except_pure_ok.1 h
      rw [List.append_cons] at hone hheld ⊢
      exact upgradeFrom_oneOfEach hrest hone hheld
    rw [upgradeFrom] at h
    obtain ⟨better, -, h⟩ := Play.except_bind_ok.1 h
    cases better with
    | none => exact next hone hheld h
    | some better =>
      obtain ⟨id, hkey, h⟩ := Play.except_bind_ok.1 h
      split at h
      · exact next hone hheld h
      · next hguard =>
        have hsub : (before ++ hand).Sublist (before ++ y :: hand) :=
          List.Sublist.append_left (List.sublist_cons_self y hand) before
        have hheld' : ∀ x ∈ before ++ hand, x.id ∈ held := fun x hx => hheld x (hsub.mem hx)
        refine next ((hone.sublist hsub).insert hheld' hkey hguard) (fun x hx => ?_) h
        rw [List.mem_append, List.mem_cons] at hx
        rcases hx with hx | rfl | hx
        · exact List.mem_cons_of_mem id (hheld' x (List.mem_append_left hand hx))
        · rw [key_eq hkey]
          exact List.mem_cons_self
        · exact List.mem_cons_of_mem id (hheld' x (List.mem_append_right before hx))

/-! ### Tasks, moves and courses -/

variable {l l' : Lesson} {c c' : Chance} {ms : List Moment}

/-- **A task keeps the hand in order.** -/
theorem HandMoved.oneOfEach {hand : List Copy} (h : HandMoved l c hand) (hone : OneOfEach l.hand) :
    OneOfEach hand := by
  cases h with
  | kept => exact hone
  | left copy => exact hone.sublist (removeCopy_sublist l.hand copy)
  | drew _ hd => exact drawCards_oneOfEach hd hone.apart
  | swapped hd => exact drawCards_nil_oneOfEach hd
  | upgraded hheld hhand =>
    have hids := held_spec hheld
    have hupgraded : OneOfEach ([] ++ hand) :=
      upgradeFrom_oneOfEach hhand hone fun x hx => (hids x hx).2
    exact hupgraded

theorem oneOfEach_law : HandLaw OneOfEach where
  task h hone := h.oneOfEach hone
  dealt hd := drawCards_nil_oneOfEach hd

theorem Course.oneOfEach {moves : List Move} (h : Course l c moves ms l' c')
    (hone : OneOfEach l.hand) : OneOfEach l'.hand := oneOfEach_law.course h hone

/-! ### From the opening on -/

/-- Of the cards that start in the hand, a unique one does once. -/
theorem splitStart_apart : ∀ (deck hand blocked : List Copy), hand.Pairwise Copy.Apart →
    (splitStart hand blocked deck).1.Pairwise Copy.Apart
  | [], _, _, h => h
  | x :: deck, hand, blocked, h => by
    rw [splitStart]
    split
    · exact splitStart_apart deck hand blocked h
    · split
      · exact splitStart_apart deck hand (blocked ++ [x]) h
      · next hguard =>
        refine splitStart_apart deck (hand ++ [x]) blocked ?_
        refine List.pairwise_append.2 ⟨h, List.pairwise_singleton _ x, fun y hy z hz => ?_⟩
        rw [List.mem_singleton.1 hz]
        intro _ hunique
        rw [hunique, Bool.true_and] at hguard
        by_contra hsame
        exact hguard (List.any_eq_true.2 ⟨y, hy, by simpa using hsame⟩)

theorem Opened.oneOfEach {status : Status} {deck : List Copy} {drinks : List Drink}
    {maxTurns : Quantity} {catalog : Catalog}
    (h : Opened status deck drinks maxTurns catalog l) : OneOfEach l.hand := by
  obtain ⟨remaining, c, d, c', hd, heq⟩ := h.hand
  rw [heq]
  exact drawCards_oneOfEach hd (splitStart_apart deck [] [] .nil)

/-- **A hand holds a unique card once.** In every state that a course reaches from the opening, the
cards at two different places of the hand are not both unique with the same id. -/
theorem course_holds_unique_once {status : Status} {schedule : Schedule} {deck : List Copy}
    {drinks : List Drink} {maxTurns : Quantity} {catalog : Catalog} {moves : List Move}
    {l₀ l : Lesson} {c₀ c₁ c : Chance} {i j : Nat} {x y : Copy}
    (hopen : openLesson status schedule deck drinks maxTurns catalog c₀ = (.ok l₀, c₁))
    (hmoves : Lesson.course moves l₀ c₁ = (.ok l, c)) (hij : i ≠ j)
    (hx : l.hand[i]? = some x) (hy : l.hand[j]? = some y) (hxu : x.card.unique = true)
    (hyu : y.card.unique = true) : x.id.same y.id = false := by
  obtain ⟨ms, hcourse⟩ := course_ok hmoves
  have hone := hcourse.oneOfEach (openLesson_ok hopen).1.oneOfEach
  exact hone.same_eq_false hij hx hy hxu hyu

/-- A unique card that starts in the hand. -/
def soloCard (name : String) : Card :=
  { Card.plain name with unique := true, startInHand := true }

/-- Of one card there are two copies, and in the next turn the hand holds one of each card. -/
theorem course_holds_unique_once_pair : ∃ l₀ c₁ l c x y,
    openLesson {} [] (Copy.deal 0 [soloCard "u", soloCard "u", soloCard "v"]) [] (.whole 12) []
        stillChance = (.ok l₀, c₁) ∧
      Lesson.course [.endTurn []] l₀ c₁ = (.ok l, c) ∧ l.hand[0]? = some x ∧ l.hand[1]? = some y ∧
      x.card.unique = true ∧ y.card.unique = true ∧ x.id.same y.id = false := by
  let run : Play Lesson := do
    let l₀ ← openLesson {} [] (Copy.deal 0 [soloCard "u", soloCard "u", soloCard "v"]) []
      (.whole 12) []
    Lesson.course [.endTurn []] l₀
  have hok : (run stillChance).1.toOption.any
      (fun l => l.hand.length == 2 && l.hand.all (·.card.unique)) = true := by decide +kernel
  obtain ⟨l, c, hout, hhand⟩ := Play.ok_of_any hok
  obtain ⟨hlen, hall⟩ := Bool.and_eq_true_iff.1 hhand
  obtain ⟨x, y, hhand⟩ := List.length_eq_two.1 (beq_iff_eq.1 hlen)
  obtain ⟨l₀, c₁, hopen, hmoves⟩ := Play.bind_ok.1 hout
  rw [hhand] at hall
  simp only [List.all_cons, List.all_nil, Bool.and_true, Bool.and_eq_true] at hall
  have hx : l.hand[0]? = some x := by rw [hhand]; rfl
  have hy : l.hand[1]? = some y := by rw [hhand]; rfl
  exact ⟨l₀, c₁, l, c, x, y, hopen, hmoves, hx, hy, hall.1, hall.2,
    course_holds_unique_once hopen hmoves (by decide) hx hy hall.1 hall.2⟩

end CardLesson
