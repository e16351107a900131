/-
# A ledger of the cards in the zones

A run keeps the cards of the five zones but for three things. A trouble card that is made comes in.
A card that is triggered comes into the discard pile, and what the hand gives for it goes out: that
very copy or, if it is not there, one of an equal card. An upgrade of the hand changes cards, but
not how many there are.

When it is the turn of a triggered card that has left the hand, and no equal card is there, it
comes in and nothing goes out: it is a stray, and one card more is in the zones. Strays are the only
way in which triggers change the cards of the zones.

Key definitions: `Moment.troubles`, `Moment.triggered`, `Moment.taken`, `Moment.isStray`,
`Genuine`, `SameCards`.
Key theorems: `Performed.ledger`, `Reaches.ledger`, `Reaches.card_ledger`, `Reaches.sameCards`.
-/
import CardLesson.Proofs.Faithful
import CardLesson.Proofs.Stock
import Mathlib.Algebra.Order.Group.Multiset
import Mathlib.Tactic.Abel

namespace CardLesson

/-! ### What comes into the zones and what goes out of them -/

namespace Moment

/-- The trouble card that is made. -/
def troubles (m : Moment) : Multiset Copy :=
  match m.task with
  | .effect e =>
    if m.lesson.passes .generateTrouble e && e.operation.troubleId.holds then
      {troubleCopy m.lesson m.chance e.operation}
    else 0
  | .card _ => 0

/-- The card that is triggered. -/
def triggered (m : Moment) : Multiset Copy :=
  match m.task with
  | .effect _ => 0
  | .card copy => {copy}

/-- What the hand gives for the card that is triggered. -/
def taken (m : Moment) : Multiset Copy :=
  match m.task with
  | .effect _ => 0
  | .card copy => (takenFrom m.lesson.hand copy).toList

/-- A card is triggered for which the hand gives nothing. -/
def isStray (m : Moment) : Bool :=
  match m.task with
  | .effect _ => false
  | .card copy => (takenFrom m.lesson.hand copy).isNone

end Moment

theorem coe_zones (l : Lesson) : (l.zones : Multiset Copy) =
    l.deck + l.hand + l.discard + l.onHold + l.excluded := by
  simp only [Lesson.zones, ← Multiset.coe_add]

variable {l l' : Lesson} {c c' : Chance} {t : Task} {new : List Task}

theorem troubles_eq_zero {e : Effect} (h : ¬l.passes .generateTrouble e = true) :
    Moment.troubles ⟨.effect e, l, c⟩ = 0 := by
  simp [Moment.troubles, h]

theorem troubles_of_passes {e : Effect} {k : EffectKind} (h : l.passes k e = true)
    (hk : k ≠ .generateTrouble) : Moment.troubles ⟨.effect e, l, c⟩ = 0 :=
  troubles_eq_zero (not_passes_of_kind_ne (passes_iff.1 h).1 hk)

/-- What a draw leaves in the piles and in the hand is what was in the piles. -/
theorem coe_drawn {d : Drawn} {deck discard : List Copy}
    (h : (d.deck ++ d.discard ++ d.hand).Perm (deck ++ discard)) :
    (d.deck : Multiset Copy) + d.discard + d.hand = deck + discard := by
  have := Multiset.coe_eq_coe.2 h
  simpa only [← Multiset.coe_add] using this

/-- An effect that is not an upgrade adds to the zones the trouble card that it makes, if any. -/
theorem Performed.zones_effect {e : Effect} (h : Performed l c (.effect e) new l' c')
    (hup : ¬l.passes .upgradeHand e = true) :
    (l'.zones : Multiset Copy) = l.zones + Moment.troubles ⟨.effect e, l, c⟩ := by
  cases h with
  | idle h =>
    have hnone : Moment.troubles ⟨.effect e, l, c⟩ = 0 := by
      by_cases hp : l.passes .generateTrouble e = true
      · simp [Moment.troubles, h hp]
      · exact troubles_eq_zero hp
    rw [hnone, add_zero]
  | gate h => rw [troubles_of_passes h (by decide), add_zero]
  | chose h _ _ => rw [troubles_of_passes h (by decide), add_zero]
  | pools hk h hr =>
    rw [troubles_of_passes h (by rintro rfl; cases hk), add_zero, (carryOut_pools hk hr).1]
    rfl
  | buffs h _ =>
    rw [troubles_eq_zero h, add_zero]
    rfl
  | @drew e d c' h hd _ _ =>
    rw [troubles_of_passes h (by decide), add_zero, coe_zones, coe_zones]
    have hd := coe_drawn hd
    calc (d.deck : Multiset Copy) + ↑(l.hand ++ d.hand) + d.discard + l.onHold + l.excluded
        = (d.deck + d.discard + d.hand) + (l.hand + l.onHold + l.excluded) := by
          rw [← Multiset.coe_add]; abel
      _ = (l.deck + l.discard) + (l.hand + l.onHold + l.excluded) := by rw [hd]
      _ = l.deck + l.hand + l.discard + l.onHold + l.excluded := by abel
  | @swapped e d c' h hd _ _ =>
    rw [troubles_of_passes h (by decide), add_zero, coe_zones, coe_zones]
    have hd := coe_drawn hd
    calc (d.deck : Multiset Copy) + d.hand + d.discard + l.onHold + l.excluded
        = (d.deck + d.discard + d.hand) + (l.onHold + l.excluded) := by abel
      _ = (l.deck + ↑(l.discard ++ l.hand)) + (l.onHold + l.excluded) := by rw [hd]
      _ = l.deck + l.hand + l.discard + l.onHold + l.excluded := by
          rw [← Multiset.coe_add]; abel
  | upgraded h _ _ => exact absurd h hup
  | @troubled e place c' h ht _ _ =>
    have hone : Moment.troubles ⟨.effect e, l, c⟩ = {troubleCopy l c e.operation} := by
      simp [Moment.troubles, h, ht]
    rw [hone, coe_zones, coe_zones]
    have hdeck : (↑(l.deck.take place ++ troubleCopy l c e.operation :: l.deck.drop place) :
        Multiset Copy) = l.deck + {troubleCopy l c e.operation} := by
      rw [← Multiset.coe_singleton, Multiset.coe_add, Multiset.coe_eq_coe]
      refine List.perm_middle.trans ?_
      rw [List.take_append_drop]
      exact List.perm_append_singleton _ _ |>.symm
    show (↑(l.deck.take place ++ troubleCopy l c e.operation :: l.deck.drop place) :
      Multiset Copy) + l.hand + l.discard + l.onHold + l.excluded = _
    rw [hdeck]
    abel

/-- **The ledger of a task.** What is in the zones after it, with what went out, is what was in them
before it, with what came in. -/
theorem Performed.ledger (h : Performed l c t new l' c')
    (hup : Moment.carriesOut .upgradeHand ⟨t, l, c⟩ = false) :
    (l'.zones : Multiset Copy) + Moment.taken ⟨t, l, c⟩ =
      l.zones + (Moment.triggered ⟨t, l, c⟩ + Moment.troubles ⟨t, l, c⟩) := by
  cases t with
  | effect e =>
    rw [h.zones_effect (by simpa [Moment.carriesOut] using hup)]
    simp only [Moment.taken, Moment.triggered, add_zero, zero_add]
  | card copy =>
    cases h
    rw [coe_zones, coe_zones]
    have hhand := Multiset.coe_eq_coe.2 (removeCopy_perm l.hand copy)
    rw [← Multiset.coe_add] at hhand
    show (l.deck : Multiset Copy) + removeCopy l.hand copy + ↑(l.discard ++ [copy]) + l.onHold +
      l.excluded + (takenFrom l.hand copy).toList = _
    rw [hhand, ← Multiset.coe_add, Multiset.coe_singleton]
    simp only [Moment.triggered, Moment.troubles]
    abel

/-- An upgrade does not change how many cards there are. -/
theorem Performed.card_ledger (h : Performed l c t new l' c') :
    l'.zones.length + (Moment.taken ⟨t, l, c⟩).card =
      l.zones.length + ((Moment.triggered ⟨t, l, c⟩).card + (Moment.troubles ⟨t, l, c⟩).card) := by
  by_cases hup : Moment.carriesOut .upgradeHand ⟨t, l, c⟩ = false
  · have := congrArg Multiset.card (h.ledger hup)
    simpa only [Multiset.card_add, Multiset.coe_card] using this
  · cases t with
    | card copy => exact absurd rfl hup
    | effect e =>
      have hp : l.passes .upgradeHand e = true := by simpa [Moment.carriesOut] using hup
      rw [troubles_of_passes hp (by decide)]
      show l'.zones.length + 0 = l.zones.length + 0
      have other {k : EffectKind} (hk : l.passes k e = true) (hne : k ≠ .upgradeHand) : False :=
        not_passes_of_kind_ne (passes_iff.1 hp).1 hne.symm hk
      cases h with
      | upgraded _ hl _ => simp [Lesson.zones, hl]
      | pools hk h hr => exact (other h (by rintro rfl; cases hk)).elim
      | drew h _ _ _ => exact (other h (by decide)).elim
      | swapped h _ _ _ => exact (other h (by decide)).elim
      | troubled h _ _ _ => exact (other h (by decide)).elim
      | _ => rfl

/-! ### The ledger of a run -/

/-- What the moments of a run bring together. -/
def total (f : Moment → Multiset Copy) (ms : List Moment) : Multiset Copy := (ms.map f).sum

theorem total_nil (f : Moment → Multiset Copy) : total f [] = 0 := rfl

theorem total_cons (f : Moment → Multiset Copy) (m : Moment) (ms : List Moment) :
    total f (m :: ms) = f m + total f ms := List.sum_cons

theorem total_append (f : Moment → Multiset Copy) (ms ms' : List Moment) :
    total f (ms ++ ms') = total f ms + total f ms' := by
  simp [total]

theorem total_eq_zero {f : Moment → Multiset Copy} : ∀ {ms : List Moment}, (∀ m ∈ ms, f m = 0) →
    total f ms = 0
  | [], _ => rfl
  | m :: ms, h => by
    rw [total_cons, h m List.mem_cons_self,
      total_eq_zero fun m hm => h m (List.mem_cons_of_mem _ hm), add_zero]

variable {s s' : Stage} {ms : List Moment}

/-- **The ledger of a run** in which the hand is not upgraded. -/
theorem Reaches.ledger (h : Reaches s ms s') (hup : ∀ m ∈ ms, m.carriesOut .upgradeHand = false) :
    (s'.lesson.zones : Multiset Copy) + total Moment.taken ms =
      s.lesson.zones + (total Moment.triggered ms + total Moment.troubles ms) := by
  induction h with
  | refl => rfl
  | @step t rest new l l' c c' ms s now _ ih =>
    have hone := (perform_spec now).ledger (hup _ List.mem_cons_self)
    have ih := ih fun m hm => hup m (List.mem_cons_of_mem _ hm)
    rw [total_cons, total_cons, total_cons]
    calc (s.lesson.zones : Multiset Copy) + (Moment.taken ⟨t, l, c⟩ + total Moment.taken ms)
        = (s.lesson.zones + total Moment.taken ms) + Moment.taken ⟨t, l, c⟩ := by abel
      _ = (l'.zones + Moment.taken ⟨t, l, c⟩) +
            (total Moment.triggered ms + total Moment.troubles ms) := by
          rw [ih]; abel
      _ = l.zones + (Moment.triggered ⟨t, l, c⟩ + total Moment.triggered ms +
            (Moment.troubles ⟨t, l, c⟩ + total Moment.troubles ms)) := by rw [hone]; abel

/-- How many cards there are after a run, upgrades or not. -/
theorem Reaches.card_ledger (h : Reaches s ms s') :
    s'.lesson.zones.length + (total Moment.taken ms).card = s.lesson.zones.length +
      ((total Moment.triggered ms).card + (total Moment.troubles ms).card) := by
  induction h with
  | refl => rfl
  | @step t rest new l l' c c' ms s now _ ih =>
    have hone := (perform_spec now).card_ledger
    simp only [total_cons, Multiset.card_add]
    dsimp only at ih ⊢
    omega

/-! ### Triggers keep the cards but for strays -/

/-- A serial tells one copy from all others: copies with one serial are one copy. -/
def Genuine (copies : List Copy) : Prop :=
  ∀ x ∈ copies, ∀ y ∈ copies, x.serial = y.serial → x = y

/-- Two collections hold the same cards: each kind of card that can be told from others by its
meaning is in both of them equally often. -/
def SameCards (xs ys : Multiset Copy) : Prop :=
  ∀ p : Card → Bool, (∀ a b, a.same b = true → p a = p b) →
    xs.countP (fun x => p x.card = true) = ys.countP (fun x => p x.card = true)

/-- The card of a moment when it is a stray. -/
def Moment.strays (m : Moment) : Multiset Copy := if m.isStray then m.triggered else 0

/-- A card that a task is to trigger is in the hand. -/
theorem Performed.mem_hand_of_mem (h : Performed l c t new l' c') {x : Copy}
    (hx : .card x ∈ new) : x ∈ l.hand := by
  cases h with
  | chose _ hc _ =>
    obtain ⟨y, hy, hyx⟩ := List.mem_map.1 hx
    cases hyx
    exact hc x hy
  | card copy =>
    obtain ⟨y, _, hyx⟩ := List.mem_map.1 hx
    cases hyx
  | gate _ =>
    obtain ⟨y, _, hyx⟩ := List.mem_map.1 hx
    cases hyx
  | _ => exact absurd hx List.not_mem_nil

/-- Without trouble cards and upgrades all copies of a run were in a zone, or waited to be
triggered, at its start. -/
theorem Reaches.within {copies : List Copy} (h : Reaches s ms s')
    (hup : ∀ m ∈ ms, m.carriesOut .upgradeHand = false) (htr : ∀ m ∈ ms, m.troubles = 0)
    (hz : ∀ x ∈ s.lesson.zones, x ∈ copies) (ht : ∀ x, .card x ∈ s.todo → x ∈ copies) :
    ∀ m ∈ ms, (∀ x ∈ m.lesson.zones, x ∈ copies) ∧ ∀ x, m.task = .card x → x ∈ copies := by
  induction h with
  | refl => exact fun m hm => absurd hm List.not_mem_nil
  | @step t rest new l l' c c' ms s now _ ih =>
    have hp := perform_spec now
    have hfirst : ∀ x, t = .card x → x ∈ copies := by
      rintro x rfl
      exact ht x List.mem_cons_self
    have hz' : ∀ x ∈ l'.zones, x ∈ copies := by
      intro x hx
      have hled := hp.ledger (hup _ List.mem_cons_self)
      rw [htr _ List.mem_cons_self, add_zero] at hled
      have hmem : x ∈ (l.zones : Multiset Copy) + Moment.triggered ⟨t, l, c⟩ := by
        rw [← hled]
        exact Multiset.mem_add.2 (.inl hx)
      rcases Multiset.mem_add.1 hmem with hx | hx
      · exact hz x hx
      · cases t with
        | effect e => exact absurd hx (Multiset.notMem_zero x)
        | card copy =>
          obtain rfl := Multiset.mem_singleton.1 hx
          exact hfirst x rfl
    have ht' : ∀ x, .card x ∈ new ++ rest → x ∈ copies := by
      intro x hx
      rcases List.mem_append.1 hx with hx | hx
      · exact hz x (mem_zones_of_mem_hand (hp.mem_hand_of_mem hx))
      · exact ht x (List.mem_cons_of_mem t hx)
    intro m hm
    rcases List.mem_cons.1 hm with rfl | hm
    · exact ⟨hz, hfirst⟩
    · exact ih (fun m hm => hup m (List.mem_cons_of_mem _ hm))
        (fun m hm => htr m (List.mem_cons_of_mem _ hm)) hz' ht' m hm

/-- What the hand gives for a triggered card is an equal card, or nothing for a stray. -/
theorem Moment.countP_triggered {m : Moment} {copies : List Copy} (hg : Genuine copies)
    (hz : ∀ x ∈ m.lesson.zones, x ∈ copies) (ht : ∀ x, m.task = .card x → x ∈ copies)
    {p : Card → Bool} (hp : ∀ a b, a.same b = true → p a = p b) :
    m.triggered.countP (fun x => p x.card = true) =
      m.taken.countP (fun x => p x.card = true) + m.strays.countP (fun x => p x.card = true) := by
  obtain ⟨t, l, c⟩ := m
  cases t with
  | effect e => rfl
  | card copy =>
    cases htaken : takenFrom l.hand copy with
    | none => simp [Moment.triggered, Moment.taken, Moment.strays, Moment.isStray, htaken]
    | some y =>
      obtain ⟨hy, hsame⟩ := takenFrom_spec htaken
      have hcard : p y.card = p copy.card := by
        rcases hsame with hs | hs
        · rw [hg y (hz y (mem_zones_of_mem_hand hy)) copy (ht copy rfl) hs]
        · exact hp _ _ hs
      simp [Moment.triggered, Moment.taken, Moment.strays, Moment.isStray, htaken,
        ← Multiset.cons_zero, Multiset.countP_cons, hcard]

/-- **Triggers keep the cards but for strays**, each of which is one card more. -/
theorem Reaches.sameCards (h : Reaches s ms s')
    (hup : ∀ m ∈ ms, m.carriesOut .upgradeHand = false) (htr : ∀ m ∈ ms, m.troubles = 0)
    (hg : Genuine s.lesson.zones) (ht : ∀ x, .card x ∈ s.todo → x ∈ s.lesson.zones) :
    SameCards s'.lesson.zones (s.lesson.zones + total Moment.strays ms) := by
  intro p hp
  have hled := congrArg (Multiset.countP fun x => p x.card = true) (h.ledger hup)
  rw [total_eq_zero htr, add_zero, Multiset.countP_add, Multiset.countP_add] at hled
  have hms := h.within hup htr (fun x hx => hx) ht
  have hcount : (total Moment.triggered ms).countP (fun x => p x.card = true) =
      (total Moment.taken ms).countP (fun x => p x.card = true) +
        (total Moment.strays ms).countP (fun x => p x.card = true) := by
    clear hled h hup htr ht
    induction ms with
    | nil => rfl
    | cons m ms ih =>
      obtain ⟨hz, htask⟩ := hms m List.mem_cons_self
      have hone := m.countP_triggered hg hz htask hp
      have ih := ih fun m hm => hms m (List.mem_cons_of_mem _ hm)
      simp only [total_cons, Multiset.countP_add]
      omega
  rw [Multiset.countP_add]
  omega

theorem SameCards.card_eq {xs ys : Multiset Copy} (h : SameCards xs ys) : xs.card = ys.card := by
  have := h (fun _ => true) fun _ _ _ => rfl
  simpa using this

theorem Moment.troubles_eq_zero {m : Moment} (h : m.carriesOut .generateTrouble = false) :
    m.troubles = 0 := by
  obtain ⟨t, l, c⟩ := m
  cases t with
  | card copy => rfl
  | effect e => exact CardLesson.troubles_eq_zero (by simpa [Moment.carriesOut] using h)

/-- There is no stray in a run just when its strays make no card. -/
theorem total_strays_eq_zero : ∀ {ms : List Moment},
    total Moment.strays ms = 0 ↔ ∀ m ∈ ms, m.isStray = false
  | [] => by simp [total_nil]
  | ⟨t, l, c⟩ :: ms => by
    rw [total_cons, ← Multiset.card_eq_zero, Multiset.card_add, Nat.add_eq_zero_iff,
      Multiset.card_eq_zero, Multiset.card_eq_zero, List.forall_mem_cons, total_strays_eq_zero]
    refine and_congr_left fun _ => ?_
    cases t with
    | effect e => simp [Moment.strays, Moment.isStray]
    | card copy => simp [Moment.strays, Moment.isStray, Moment.triggered, Option.isSome_iff_ne_none]

end CardLesson
