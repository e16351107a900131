/-
# A lesson keeps its cards

From the opening of a lesson on, whatever moves are made, the zones hold the cards of the deck and
one more for each trouble card that was made, as long as no card triggers others from the hand; an
upgrade of the hand changes cards but not their number.

While a card is played it is in no zone, so what is known of the copies in the zones is also said of
copies held `aside`.

Key definitions: `Known`, `Alike`, `Calm`, `Moment.makesTrouble`.
Key theorems: `Performed.known`, `Worked.conserves`, `Made.conserves`, `Course.conserves`,
`course_conserves`.
-/
import CardLesson.Proofs.Course
import CardLesson.Proofs.Opening

namespace CardLesson

/-! ### Serials stay apart -/

/-- The serials of copies are those of a lesson: one serial is one copy, and a copy that was made in
the lesson has a number that was handed out. -/
structure Known (copies : List Copy) (named : Nat) : Prop where
  genuine : Genuine copies
  numbered : ∀ x ∈ copies, ∀ n, x.serial = .made n → n ≤ named

theorem Known.subset {xs ys : List Copy} {n m : Nat} (h : Known xs n) (hsub : ∀ y ∈ ys, y ∈ xs)
    (hle : n ≤ m) : Known ys m where
  genuine x hx y hy := h.genuine x (hsub x hx) y (hsub y hy)
  numbered x hx k hk := Nat.le_trans (h.numbered x (hsub x hx) k hk) hle

/-- A new copy with a new number is known beside the others. -/
theorem Known.add {xs ys : List Copy} {n : Nat} {z : Copy} (h : Known xs n)
    (hz : z.serial = .made (n + 1)) (hys : ∀ y ∈ ys, y ∈ xs ∨ y = z) : Known ys (n + 1) where
  genuine x hx y hy hs := by
    have apart {w : Copy} (hw : w ∈ xs) (hs : w.serial = z.serial) : False := by
      have := h.numbered w hw (n + 1) (hs.trans hz)
      omega
    rcases hys x hx with hx | rfl <;> rcases hys y hy with hy | rfl
    · exact h.genuine x hx y hy hs
    · exact (apart hx hs).elim
    · exact (apart hy hs.symm).elim
    · rfl
  numbered x hx k hk := by
    rcases hys x hx with hx | rfl
    · exact Nat.le_succ_of_le (h.numbered x hx k hk)
    · cases hz.symm.trans hk
      exact Nat.le_refl _

/-- Copies that are dealt out are known. -/
theorem deal_known (first : Nat) (cards : List Card) (named : Nat) :
    Known (Copy.deal first cards) named := by
  have bound : ∀ (cards : List Card) (first : Nat), ∀ x ∈ Copy.deal first cards,
      ∃ n, x.serial = .dealt n ∧ first ≤ n := by
    intro cards
    induction cards with
    | nil => exact fun first x hx => absurd hx List.not_mem_nil
    | cons card cards ih =>
      intro first x hx
      rcases List.mem_cons.1 hx with rfl | hx
      · exact ⟨first, rfl, Nat.le_refl _⟩
      · obtain ⟨n, hn, hle⟩ := ih (first + 1) x hx
        exact ⟨n, hn, by omega⟩
  refine ⟨?_, fun x hx k hk => ?_⟩
  · induction cards generalizing first with
    | nil => exact fun x hx => absurd hx List.not_mem_nil
    | cons card cards ih =>
      have apart {y : Copy} (hy : y ∈ Copy.deal (first + 1) cards)
          (hs : y.serial = .dealt first) : False := by
        obtain ⟨n, hn, hle⟩ := bound cards (first + 1) y hy
        cases hn.symm.trans hs
        omega
      intro x hx y hy hs
      rcases List.mem_cons.1 hx with rfl | hx <;> rcases List.mem_cons.1 hy with rfl | hy
      · rfl
      · exact (apart hy hs.symm).elim
      · exact (apart hx hs).elim
      · exact ih (first + 1) x hx y hy hs
  · obtain ⟨n, hn, -⟩ := bound cards first x hx
    cases hn.symm.trans hk

/-- The copies that a lesson can come to hold: those in its zones and in its catalog. -/
def Lesson.copies (l : Lesson) : List Copy := l.zones ++ l.catalog.map (·.2)

variable {l l' : Lesson} {c c' : Chance} {ms : List Moment} {aside : List Copy}

/-- An effect leaves the copies known. -/
theorem Performed.known {e : Effect} {new : List Task} (h : Performed l c (.effect e) new l' c')
    (hk : Known (aside ++ l.copies) c.named) : Known (aside ++ l'.copies) c'.named := by
  have hcat : ∀ y ∈ l'.catalog.map (·.2), y ∈ aside ++ l.copies := by
    rw [h.catalog_eq]
    exact fun y hy => List.mem_append_right _ (List.mem_append_right _ hy)
  -- either a trouble card is new, or every copy was there before
  by_cases hnew : c'.named = c.named + 1
  · rw [hnew]
    refine hk.add (z := madeTrouble (c.named + 1) e.operation.troubleId) rfl fun y hy => ?_
    rcases List.mem_append.1 hy with hy | hy
    · exact .inl (List.mem_append_left _ hy)
    rcases List.mem_append.1 hy with hy | hy
    · rcases h.origin hy with hy | hy | hy | ⟨e', he, -, -, hy, -⟩
      · exact .inl (List.mem_append_right _ (List.mem_append_left _ hy))
      · cases hy
      · exact .inl (List.mem_append_right _ (List.mem_append_right _ hy))
      · cases he
        exact .inr hy
    · exact .inl (hcat y hy)
  · refine hk.subset (fun y hy => ?_) h.named_le
    rcases List.mem_append.1 hy with hy | hy
    · exact List.mem_append_left _ hy
    rcases List.mem_append.1 hy with hy | hy
    · rcases h.origin hy with hy | hy | hy | ⟨_, _, _, _, _, hn⟩
      · exact List.mem_append_right _ (List.mem_append_left _ hy)
      · cases hy
      · exact List.mem_append_right _ (List.mem_append_right _ hy)
      · exact absurd hn hnew
    · exact hcat y hy

/-! ### Runs without triggers -/

/-- Without triggers every task is an effect. -/
theorem Reaches.effects {s s' : Stage} (h : Reaches s ms s')
    (htr : ∀ m ∈ ms, m.carriesOut .triggerRandomHandCard = false)
    (ht : ∀ t ∈ s.todo, ∃ e, t = .effect e) : ∀ m ∈ ms, ∃ e, m.task = .effect e := by
  induction h with
  | refl => exact fun m hm => absurd hm List.not_mem_nil
  | @step t rest new l l' c c' ms s now _ ih =>
    obtain ⟨e, rfl⟩ := ht t List.mem_cons_self
    have hnew : ∀ t ∈ new, ∃ e, t = .effect e := by
      intro t hnew
      cases perform_spec now with
      | gate _ =>
        obtain ⟨e, _, rfl⟩ := List.mem_map.1 hnew
        exact ⟨e, rfl⟩
      | chose hp _ _ =>
        have hno := htr _ List.mem_cons_self
        simp [Moment.carriesOut, hp] at hno
      | _ => exact absurd hnew List.not_mem_nil
    have ih := ih (fun m hm => htr m (List.mem_cons_of_mem _ hm)) fun t' ht' => by
      rcases List.mem_append.1 ht' with ht' | ht'
      · exact hnew t' ht'
      · exact ht t' (List.mem_cons_of_mem _ ht')
    intro m hm
    rcases List.mem_cons.1 hm with rfl | hm
    · exact ⟨e, rfl⟩
    · exact ih m hm

theorem Reaches.known {s s' : Stage} (h : Reaches s ms s')
    (heff : ∀ m ∈ ms, ∃ e, m.task = .effect e)
    (hk : Known (aside ++ s.lesson.copies) s.chance.named) :
    Known (aside ++ s'.lesson.copies) s'.chance.named := by
  induction h with
  | refl => exact hk
  | @step t rest new l l' c c' ms s now _ ih =>
    obtain ⟨e, rfl⟩ : ∃ e, t = .effect e := heff _ List.mem_cons_self
    exact ih (fun m hm => heff m (List.mem_cons_of_mem _ hm)) ((perform_spec now).known hk)

/-- Two collections of copies are equally large and, where `quiet` holds, the same. -/
structure Alike (quiet : Prop) (xs ys : Multiset Copy) : Prop where
  card : xs.card = ys.card
  eq : quiet → xs = ys

namespace Alike

variable {quiet : Prop} {xs ys zs : Multiset Copy}

theorem refl (xs : Multiset Copy) : Alike quiet xs xs := ⟨rfl, fun _ => rfl⟩

theorem trans (h : Alike quiet xs ys) (h' : Alike quiet ys zs) : Alike quiet xs zs :=
  ⟨h.card.trans h'.card, fun hq => (h.eq hq).trans (h'.eq hq)⟩

theorem add_right (h : Alike quiet xs ys) (zs : Multiset Copy) : Alike quiet (xs + zs) (ys + zs) :=
  ⟨by rw [Multiset.card_add, Multiset.card_add, h.card], fun hq => by rw [h.eq hq]⟩

end Alike

variable {quiet : Prop} {es : List Effect}

/-- No triggers are carried out and, where `quiet` holds, no upgrades. -/
def Calm (quiet : Prop) (ms : List Moment) : Prop :=
  (∀ m ∈ ms, m.carriesOut .triggerRandomHandCard = false) ∧
    (quiet → ∀ m ∈ ms, m.carriesOut .upgradeHand = false)

theorem calm_append {ms ms' : List Moment} :
    Calm quiet (ms ++ ms') ↔ Calm quiet ms ∧ Calm quiet ms' := by
  simp only [Calm, List.forall_mem_append]
  tauto

/-- Carrying out effects adds the trouble cards that it makes, and leaves the copies known. -/
theorem Worked.conserves (h : Worked es l c ms l' c') (hcalm : Calm quiet ms)
    (hk : Known (aside ++ l.copies) c.named) :
    Alike quiet l'.zones (l.zones + total Moment.troubles ms) ∧
      Known (aside ++ l'.copies) c'.named := by
  obtain ⟨l₁, lines, hrun, rfl⟩ := h
  have heff := hrun.effects hcalm.1 fun t ht => by
    obtain ⟨e, -, rfl⟩ := List.mem_map.1 ht
    exact ⟨e, rfl⟩
  have hzero {f : Moment → Multiset Copy} (hf : ∀ e l c, f ⟨.effect e, l, c⟩ = 0) :
      total f ms = 0 := total_eq_zero fun m hm => by
    obtain ⟨t, l, c⟩ := m
    obtain ⟨e, rfl⟩ : ∃ e, t = .effect e := heff _ hm
    exact hf e l c
  have htaken : total Moment.taken ms = 0 := hzero fun _ _ _ => rfl
  have htriggered : total Moment.triggered ms = 0 := hzero fun _ _ _ => rfl
  refine ⟨⟨?_, fun hq => ?_⟩, hrun.known heff hk⟩
  · have hcard := hrun.card_ledger
    rw [htaken, htriggered] at hcard
    rw [Multiset.card_add, Multiset.coe_card, Multiset.coe_card]
    show l₁.zones.length = _
    simpa only [Multiset.card_zero, add_zero, zero_add] using hcard
  · have hled := hrun.ledger (hcalm.2 hq)
    rw [htaken, htriggered, add_zero, zero_add] at hled
    exact hled

/-! ### Moves and courses -/

/-- Paying for a card of the hand takes it out of the zones. -/
theorem zones_paying {copy : Copy} {pay : Payment} {hp plays : Quantity} (hg : Genuine l.zones)
    (hcopy : copy ∈ l.hand) :
    ((l.paying copy pay hp plays).zones : Multiset Copy) + {copy} = l.zones := by
  obtain ⟨x, hx, htaken, hs⟩ := takenFrom_of_mem hcopy
  obtain rfl := hg x (mem_zones_of_mem_hand hx) copy (mem_zones_of_mem_hand hcopy) hs
  have hhand := Multiset.coe_eq_coe.2 (removeCopy_perm l.hand x)
  rw [htaken, Option.toList_some, ← Multiset.coe_add, Multiset.coe_singleton] at hhand
  rw [coe_zones, coe_zones, hhand]
  show (l.deck : Multiset Copy) + removeCopy l.hand x + l.discard + l.onHold + l.excluded + {x} = _
  abel

theorem zones_putAway (copy : Copy) :
    ((l.putAway copy).zones : Multiset Copy) = l.zones + {copy} := by
  rw [coe_zones, coe_zones]
  unfold Lesson.putAway
  split
  · show (l.deck : Multiset Copy) + l.hand + l.discard + l.onHold + ↑(l.excluded ++ [copy]) = _
    rw [← Multiset.coe_add, Multiset.coe_singleton]
    abel
  · show (l.deck : Multiset Copy) + l.hand + ↑(l.discard ++ [copy]) + l.onHold + l.excluded = _
    rw [← Multiset.coe_add, Multiset.coe_singleton]
    abel

theorem catalog_putAway (copy : Copy) : (l.putAway copy).catalog = l.catalog := by
  unfold Lesson.putAway
  split <;> rfl

/-- A card that is paid for is known beside the copies that are left. -/
theorem Known.paying {copy : Copy} {pay : Payment} {hp plays : Quantity} {n : Nat}
    (h : Known l.copies n) (hcopy : copy ∈ l.hand) :
    Known ([copy] ++ (l.paying copy pay hp plays).copies) n :=
  h.subset (fun y hy => by
    rcases List.mem_append.1 hy with hy | hy
    · rw [List.mem_singleton.1 hy]
      exact List.mem_append_left _ (mem_zones_of_mem_hand hcopy)
    · rcases List.mem_append.1 hy with hy | hy
      · exact List.mem_append_left _ (mem_zones_paying hy)
      · exact List.mem_append_right _ hy) (Nat.le_refl _)

/-- A card that was held aside is known when it is put away. -/
theorem Known.putAway {copy : Copy} {n : Nat} (h : Known ([copy] ++ l.copies) n) :
    Known (l.putAway copy).copies n :=
  h.subset (fun y hy => by
    rcases List.mem_append.1 hy with hy | hy
    · rcases mem_zones_putAway hy with hy | rfl
      · exact List.mem_append_right _ (List.mem_append_left _ hy)
      · exact List.mem_append_left _ List.mem_cons_self
    · rw [catalog_putAway] at hy
      exact List.mem_append_right _ (List.mem_append_right _ hy)) (Nat.le_refl _)

/-- The end of a turn moves cards between the deck, the hand and the discard pile. -/
theorem Turned.zones_perm {next : Lesson} (h : Turned l next) : next.zones.Perm l.zones := by
  have hpiles := coe_drawn (d := ⟨next.deck, next.discard, next.hand⟩) h.piles
  have hhold : next.onHold = l.onHold := by rw [h.frame]
  have hexcl : next.excluded = l.excluded := by rw [h.frame]
  rw [← Multiset.coe_eq_coe, coe_zones, coe_zones, hhold, hexcl]
  calc (next.deck : Multiset Copy) + next.hand + next.discard + l.onHold + l.excluded
      = (next.deck + next.discard + next.hand) + (l.onHold + l.excluded) := by abel
    _ = (l.deck + ↑(l.discard ++ l.hand)) + (l.onHold + l.excluded) := by rw [hpiles]
    _ = l.deck + l.hand + l.discard + l.onHold + l.excluded := by
        rw [← Multiset.coe_add]; abel

/-- A move adds to the zones the trouble cards that it makes, and nothing else. -/
theorem Made.conserves {move : Move} (h : Made l c move ms l' c') (hcalm : Calm quiet ms)
    (hk : Known l.copies c.named) :
    Alike quiet l'.zones (l.zones + total Moment.troubles ms) ∧ Known l'.copies c'.named := by
  cases h with
  | rejected _ =>
    rw [total_nil, add_zero]
    exact ⟨.refl _, hk⟩
  | @played id copy cost pay hp plays fired l₁ l₂ l₃ c₁ c₂ c₃ ms₁ ms₂ ms₃ lines _ found _ _ _ _ _
      main reacting _ firing =>
    have hcopy := mem_of_findInHand found
    rw [calm_append, calm_append] at hcalm
    obtain ⟨⟨hcalm₁, hcalm₂⟩, hcalm₃⟩ := hcalm
    have hgenuine : Genuine l.zones := fun x hx y hy =>
      hk.genuine x (List.mem_append_left _ hx) y (List.mem_append_left _ hy)
    have hpaid : ((l.paying copy pay hp plays).zones : Multiset Copy) + {copy} = l.zones :=
      zones_paying hgenuine hcopy
    have hk₀ : Known ([copy] ++ (l.paying copy pay hp plays).copies) c.named := hk.paying hcopy
    obtain ⟨hz₁, hk₁⟩ := main.conserves hcalm₁ hk₀
    obtain ⟨hz₂, hk₂⟩ := reacting.conserves hcalm₂ hk₁
    obtain ⟨hz₃, hk₃⟩ := firing.conserves hcalm₃ hk₂
    refine ⟨?_, hk₃.putAway⟩
    have hall := hz₃.trans ((hz₂.trans (hz₁.add_right _)).add_right _)
    have hput := hall.add_right {copy}
    rw [← zones_putAway] at hput
    rw [total_append, total_append, ← hpaid]
    have hsum : ((l.paying copy pay hp plays).zones : Multiset Copy) + {copy} +
        (total Moment.troubles ms₁ + total Moment.troubles ms₂ + total Moment.troubles ms₃) =
        (l.paying copy pay hp plays).zones + total Moment.troubles ms₁ +
          total Moment.troubles ms₂ + total Moment.troubles ms₃ + {copy} := by abel
    rw [hsum]
    exact hput
  | @ended schedule next _ c₁ _ _ _ turns starting =>
    obtain ⟨hturned, hn⟩ := nextTurn_ok turns
    have hcat : next.catalog = l.catalog := by rw [hturned.frame]
    have hk₀ : Known ([] ++ next.copies) c₁.named := hk.subset (fun y hy => by
      rw [List.nil_append, Lesson.copies, hcat] at hy
      rcases List.mem_append.1 hy with hy | hy
      · exact List.mem_append_left _ (hturned.zones_perm.mem_iff.1 hy)
      · exact List.mem_append_right _ hy) (Nat.le_of_eq hn.symm)
    rw [← Multiset.coe_eq_coe.2 hturned.zones_perm]
    exact starting.conserves hcalm hk₀
  | drunk _ drinking => 
    have hk₀ : Known ([] ++ l.copies) c.named := hk
    exact drinking.conserves hcalm hk₀

/-- **A course keeps the cards**: it adds the trouble cards that are made in it, and no others. -/
theorem Course.conserves {moves : List Move} (h : Course l c moves ms l' c')
    (hcalm : Calm quiet ms) (hk : Known l.copies c.named) :
    Alike quiet l'.zones (l.zones + total Moment.troubles ms) ∧ Known l'.copies c'.named := by
  induction h with
  | nil =>
    rw [total_nil, add_zero]
    exact ⟨.refl _, hk⟩
  | cons first _ ih =>
    rw [calm_append] at hcalm
    obtain ⟨hz₁, hk₁⟩ := first.conserves hcalm.1 hk
    obtain ⟨hz₂, hk₂⟩ := ih hcalm.2 hk₁
    refine ⟨?_, hk₂⟩
    rw [total_append, ← add_assoc]
    exact hz₂.trans (hz₁.add_right _)

/-! ### From the opening on -/

/-- The moment carries out an effect that makes a trouble card, and the effect names one. -/
def Moment.makesTrouble (m : Moment) : Bool :=
  m.carriesOut .generateTrouble && match m.task with
    | .effect e => e.operation.troubleId.holds
    | .card _ => false

theorem Moment.card_troubles (m : Moment) :
    m.troubles.card = if m.makesTrouble then 1 else 0 := by
  obtain ⟨t, l, c⟩ := m
  cases t with
  | card copy => rfl
  | effect e =>
    show (if l.passes .generateTrouble e && e.operation.troubleId.holds then
        {troubleCopy l c e.operation} else (0 : Multiset Copy)).card =
      if l.passes .generateTrouble e && e.operation.troubleId.holds then 1 else 0
    split
    · exact Multiset.card_singleton _
    · exact Multiset.card_zero

theorem card_troubles (ms : List Moment) :
    (total Moment.troubles ms).card = ms.countP (·.makesTrouble) := by
  induction ms with
  | nil => rfl
  | cons m ms ih =>
    rw [total_cons, Multiset.card_add, ih, List.countP_cons, m.card_troubles, Nat.add_comm]

/-- **A lesson keeps its cards.** Without cards that trigger others, every state that is reached
from the opening has as many cards in its zones as the deck and one more for each trouble card made;
where the hand is never upgraded, these are the cards of the deck and the trouble cards. -/
theorem course_conserves {status : Status} {schedule : Schedule} {deck : List Copy}
    {drinks : List Drink} {maxTurns : Quantity} {catalog : Catalog} {moves : List Move}
    {l₀ l : Lesson} {c₀ c₁ c : Chance} (hk : Known (deck ++ catalog.map (·.2)) c₀.named)
    (hcards : ∀ x ∈ deck ++ catalog.map (·.2),
      x.card.every (avoids [.triggerRandomHandCard]) = true)
    (hdrinks : ∀ d ∈ drinks, Effect.everyOf (avoids [.triggerRandomHandCard]) d.effects = true)
    (hopen : openLesson status schedule deck drinks maxTurns catalog c₀ = (.ok l₀, c₁))
    (hcourse : Lesson.course moves l₀ c₁ = (.ok l, c)) :
    ∃ ms, Course l₀ c₁ moves ms l c ∧
      (total Moment.troubles ms).card = ms.countP (·.makesTrouble) ∧
      l.zones.length = deck.length + ms.countP (·.makesTrouble) ∧
      ((∀ x ∈ deck ++ catalog.map (·.2), x.card.every (avoids [.upgradeHand]) = true) →
        (∀ d ∈ drinks, Effect.everyOf (avoids [.upgradeHand]) d.effects = true) →
        (l.zones : Multiset Copy) = deck + total Moment.troubles ms) := by
  obtain ⟨hopened, hnamed⟩ := openLesson_ok hopen
  obtain ⟨ms, hrun⟩ := course_ok hcourse
  have hk₀ : Known l₀.copies c₁.named := hk.subset (fun y hy => by
    rcases List.mem_append.1 hy with hy | hy
    · exact List.mem_append_left _ (hopened.zones.mem_iff.1 hy)
    · exact List.mem_append.2 (hopened.known y hy)) (Nat.le_of_eq hnamed.symm)
  have hno {k : EffectKind}
      (hcards : ∀ x ∈ deck ++ catalog.map (·.2), x.card.every (avoids [k]) = true)
      (hdrinks : ∀ d ∈ drinks, Effect.everyOf (avoids [k]) d.effects = true) :
      ∀ m ∈ ms, m.carriesOut k = false := fun m hm =>
    carriesOut_of_avoids List.mem_cons_self
      ((hrun.carries (hopened.carries hcards hdrinks)).2 m hm).2
  refine ⟨ms, hrun, card_troubles ms, ?_, fun hup hup' => ?_⟩
  · have hcalm : Calm False ms := ⟨hno hcards hdrinks, False.elim⟩
    have hz := (hrun.conserves hcalm hk₀).1.card
    rw [Multiset.card_add, card_troubles, Multiset.coe_card, Multiset.coe_card,
      hopened.zones.length_eq] at hz
    exact hz
  · have hcalm : Calm True ms := ⟨hno hcards hdrinks, fun _ => hno hup hup'⟩
    have hz := (hrun.conserves hcalm hk₀).1.eq trivial
    rw [hz, Multiset.coe_eq_coe.2 hopened.zones]

/-- Makes a trouble card that no catalog knows. -/
def troublesome : Card :=
  { id := .text "t", name := .text "T"
    effects := [.of { kind := .known .generateTrouble, troubleId := .text "x" }] }

/-- A deck of two such cards. -/
def troublesomeDeck : List Copy := Copy.deal 0 [troublesome, troublesome]

/-- One of the two cards is played before the turn ends. -/
theorem course_conserves_troublesome : ∃ l₀ c₁ l c ms,
    openLesson {} [] troublesomeDeck [] 12 [] stillChance = (.ok l₀, c₁) ∧
      Lesson.course [.play (.text "t"), .endTurn []] l₀ c₁ = (.ok l, c) ∧
      Course l₀ c₁ [.play (.text "t"), .endTurn []] ms l c ∧
      (l.zones : Multiset Copy) = troublesomeDeck + total Moment.troubles ms := by
  let run : Play Lesson := do
    let l₀ ← openLesson {} [] troublesomeDeck [] 12 []
    Lesson.course [.play (.text "t"), .endTurn []] l₀
  have hok : (run stillChance).1.toOption.isSome = true := by decide +kernel
  rcases hout : run stillChance with ⟨f | l, c⟩
  · rw [hout] at hok
    cases hok
  · obtain ⟨l₀, c₁, hopen, hcourse⟩ := Play.bind_ok.1 hout
    have hk : Known (troublesomeDeck ++ ([] : Catalog).map (·.2)) stillChance.named := by
      rw [List.map_nil, List.append_nil]
      exact deal_known 0 _ _
    have hcards {k : EffectKind} (hk : troublesome.every (avoids [k]) = true) :
        ∀ x ∈ troublesomeDeck ++ ([] : Catalog).map (·.2), x.card.every (avoids [k]) = true := by
      intro x hx
      simp only [troublesomeDeck, Copy.deal, List.map_nil, List.append_nil, List.mem_cons,
        List.not_mem_nil, or_false] at hx
      rcases hx with rfl | rfl <;> exact hk
    obtain ⟨ms, hrun, -, -, hzones⟩ := course_conserves hk (hcards rfl)
      (fun d hd => absurd hd List.not_mem_nil) hopen hcourse
    exact ⟨l₀, c₁, l, c, ms, hopen, hcourse, hrun,
      hzones (hcards rfl) fun d hd => absurd hd List.not_mem_nil⟩

end CardLesson
