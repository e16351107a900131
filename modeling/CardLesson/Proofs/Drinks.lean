/-
# Every drink is used once

A lesson keeps the drinks that were brought into it, in their order; all that changes is that one of
them is used. Only a drink that is accepted does so: it takes the first unused drink with its id,
and effects never touch the drinks. So the drinks with an id that are used are as many as the times
that the id was accepted, of which there can be no more than drinks with that id.

Key definitions: `Taken`, `Move.asksFor`, `usedUp`.
Key theorems: `takeDrink_taken`, `Taken.usedUp`, `make_drinks`, `Accepted.usedUp`,
`drinks_are_used_once`.
-/
import CardLesson.Proofs.Rejection
import CardLesson.Proofs.Sameness

namespace CardLesson

variable {l l₁ l' : Lesson} {c c₁ c' : Chance} {id : Datum} {slots slots' : List DrinkSlot}
  {move : Move} {moves : List Move}

/-! ### Taking a drink -/

/-- The first unused drink with an id is used now, and all others are as they were. -/
inductive Taken (id : Datum) : List DrinkSlot → List DrinkSlot → Prop
  | here {slot : DrinkSlot} {rest : List DrinkSlot} (hid : slot.drink.id.same id = true)
      (hunused : slot.used = false) : Taken id (slot :: rest) (⟨slot.drink, true⟩ :: rest)
  | later {slot : DrinkSlot} {rest rest' : List DrinkSlot}
      (hskip : slot.drink.id.same id = true → slot.used = true) (h : Taken id rest rest') :
      Taken id (slot :: rest) (slot :: rest')

theorem takeDrink_taken : ∀ {slots slots' : List DrinkSlot} {drink : Drink},
    Lesson.takeDrink id slots = some (drink, slots') → Taken id slots slots'
  | [], _, _, h => by cases h
  | slot :: slots, slots', drink, h => by
    rw [Lesson.takeDrink] at h
    split at h
    · next htake =>
      cases h
      rw [Bool.and_eq_true, Bool.not_eq_true'] at htake
      exact .here htake.1 htake.2
    · next hskip =>
      obtain ⟨⟨d, rest⟩, hrest, h⟩ := Option.map_eq_some_iff.1 h
      cases h
      refine .later (fun hid => ?_) (takeDrink_taken hrest)
      rw [hid, Bool.true_and, Bool.not_eq_true', Bool.not_eq_false] at hskip
      exact hskip

namespace Taken

/-- The drink that is taken, with those before and after it. -/
theorem split (h : Taken id slots slots') : ∃ before slot after,
    slots = before ++ slot :: after ∧ slots' = before ++ ⟨slot.drink, true⟩ :: after ∧
      slot.drink.id.same id = true ∧ slot.used = false ∧
      ∀ s ∈ before, s.drink.id.same id = true → s.used = true := by
  induction h with
  | @here slot rest hid hunused =>
    exact ⟨[], slot, rest, rfl, rfl, hid, hunused, fun s hs => absurd hs List.not_mem_nil⟩
  | @later slot rest rest' hskip _ ih =>
    obtain ⟨before, taken, after, rfl, rfl, hid, hunused, hbefore⟩ := ih
    refine ⟨slot :: before, taken, after, rfl, rfl, hid, hunused, fun s hs => ?_⟩
    rcases List.mem_cons.1 hs with rfl | hs
    · exact hskip
    · exact hbefore s hs

/-- The drinks and their order stay. -/
theorem drinks_eq (h : Taken id slots slots') : slots'.map (·.drink) = slots.map (·.drink) := by
  induction h with
  | here _ _ => rfl
  | later _ _ ih => rw [List.map_cons, List.map_cons, ih]

/-- A drink that is used stays used. -/
theorem used_stays (h : Taken id slots slots') : ∀ (i : Nat) (slot : DrinkSlot),
    slots[i]? = some slot → slot.used = true → slots'[i]? = some slot := by
  induction h with
  | here _ hunused =>
    intro i slot hslot hused
    cases i with
    | zero =>
      obtain rfl := Option.some.inj hslot
      rw [hunused] at hused
      cases hused
    | succ i => exact hslot
  | later _ _ ih =>
    intro i slot hslot hused
    cases i with
    | zero => exact hslot
    | succ i => exact ih i slot hslot hused

end Taken

/-! ### Counting drinks -/

/-- Whether a move asks for a drink with an id. -/
def Move.asksFor (id : Datum) : Move → Bool
  | .drink id' => id'.same id
  | _ => false

/-- How many drinks with an id are used. -/
def usedUp (id : Datum) (slots : List DrinkSlot) : Nat :=
  slots.countP fun slot => slot.used && slot.drink.id.same id

/-- No more drinks with an id are used than there are. -/
theorem usedUp_le (id : Datum) (slots : List DrinkSlot) :
    usedUp id slots ≤ (slots.map (·.drink)).countP (·.id.same id) := by
  unfold usedUp
  rw [List.countP_map]
  exact List.countP_mono_left fun slot _ h => (Bool.and_eq_true_iff.1 h).2

/-- One drink more is used of those that have the id that was asked for. -/
theorem Taken.usedUp {id' : Datum} (hid' : id'.isKey = true) (h : Taken id slots slots') :
    usedUp id' slots' = usedUp id' slots + if id.same id' then 1 else 0 := by
  unfold CardLesson.usedUp
  induction h with
  | here hid hunused =>
    rw [List.countP_cons, List.countP_cons, hunused, Datum.same_congr hid hid']
    simp
  | later _ _ ih =>
    rw [List.countP_cons, List.countP_cons, ih]
    omega

/-! ### Moves -/

/-- Effects touch no drinks. -/
theorem Worked.drinks_eq {es : List Effect} {ms : List Moment} (h : Worked es l c ms l' c') :
    l'.drinks = l.drinks := by
  obtain ⟨l₁, lines, hrun, rfl⟩ := h
  have hframe : l₁ = l.reworkedAs l₁ := hrun.frame
  rw [hframe]
  rfl

theorem useDrink_taken (h : l.useDrink id c = (.ok (some l'), c')) :
    Taken id l.drinks l'.drinks := by
  obtain ⟨ms, hmade⟩ := useDrink_ok h
  rw [Option.getD_some] at hmade
  cases hmade with
  | rejected hnone => cases h.symm.trans hnone
  | @drunk id drink drinks l₁ _ _ lines taken drinking =>
    have hdrinks : l₁.drinks = drinks := drinking.drinks_eq
    show Taken id l.drinks l₁.drinks
    rw [hdrinks]
    exact takeDrink_taken taken

/-- An accepted move takes the drink that it asks for, and one that asks for none leaves the drinks
as they are. -/
theorem make_drinks (h : move.make l c = (.ok (some l'), c')) :
    (∃ id, move = .drink id ∧ Taken id l.drinks l'.drinks) ∨
      (∀ id, move.asksFor id = false) ∧ l'.drinks = l.drinks := by
  cases move with
  | drink id => exact .inl ⟨id, rfl, useDrink_taken h⟩
  | play id =>
    refine .inr ⟨fun _ => rfl, ?_⟩
    obtain ⟨ms, hmade⟩ := play_ok h
    rw [Option.getD_some] at hmade
    cases hmade with
    | rejected _ => rfl
    | @played id copy cost pay hp plays fired l₁ l₂ l₃ c₁ c₂ c₃ ms₁ ms₂ ms₃ lines _ _ _ _ _ _ _
        main reacting _ firing =>
      have hend : l₃.drinks = l.drinks :=
        firing.drinks_eq.trans (reacting.drinks_eq.trans main.drinks_eq)
      show (l₃.putAway copy).drinks = l.drinks
      unfold Lesson.putAway
      split <;> exact hend
  | endTurn schedule =>
    refine .inr ⟨fun _ => rfl, ?_⟩
    obtain ⟨next, c₁, ms, hturn, hworked⟩ := endTurn_accepted h
    rw [hworked.drinks_eq, (nextTurn_ok hturn).1.frame]

namespace Accepted

theorem drinks_eq (h : Accepted l c moves l' c') :
    l'.drinks.map (·.drink) = l.drinks.map (·.drink) := by
  induction h with
  | nil => rfl
  | cons first _ ih =>
    rw [ih]
    rcases make_drinks first with ⟨id, -, htaken⟩ | ⟨-, heq⟩
    · exact htaken.drinks_eq
    · rw [heq]

/-- A drink that is used stays used, whatever comes. -/
theorem used_stays (h : Accepted l c moves l' c') : ∀ (i : Nat) (slot : DrinkSlot),
    l.drinks[i]? = some slot → slot.used = true → l'.drinks[i]? = some slot := by
  induction h with
  | nil => exact fun i slot hslot _ => hslot
  | cons first _ ih =>
    intro i slot hslot hused
    refine ih i slot ?_ hused
    rcases make_drinks first with ⟨id, -, htaken⟩ | ⟨-, heq⟩
    · exact htaken.used_stays i slot hslot hused
    · rw [heq]
      exact hslot

/-- **Every accepted drink uses one up.** -/
theorem usedUp (h : Accepted l c moves l' c') (hid : id.isKey = true) :
    usedUp id l'.drinks = usedUp id l.drinks + moves.countP (·.asksFor id) := by
  induction h with
  | nil => rfl
  | @cons move moves l l₁ l' c c₁ c' first _ ih =>
    rw [ih, List.countP_cons]
    rcases make_drinks first with ⟨id', rfl, htaken⟩ | ⟨hother, heq⟩
    · rw [htaken.usedUp hid, Move.asksFor]
      omega
    · rw [heq, hother]
      simp

end Accepted

/-! ### When a drink is accepted -/

/-- A drink that returns is accepted just when an unused one with its id is left. -/
theorem useDrink_isSome_iff {next : Option Lesson} (h : l.useDrink id c = (.ok next, c')) :
    next.isSome = true ↔ ∃ slot ∈ l.drinks, slot.drink.id.same id = true ∧ slot.used = false := by
  have hnone : next = none ↔ Move.Rejected l (.drink id) := by
    constructor
    · rintro rfl
      exact (useDrink_none_iff.1 h).1
    · intro hrejected
      have hall := h.symm.trans (useDrink_none_iff.2 ⟨hrejected, rfl⟩)
      cases hall
      rfl
  have hleft : ¬Move.Rejected l (.drink id) ↔
      ∃ slot ∈ l.drinks, slot.drink.id.same id = true ∧ slot.used = false := by
    simp [Move.Rejected]
  rw [← hleft, ← hnone, Option.isSome_iff_ne_none]

theorem Opened.drinks_eq {status : Status} {deck : List Copy} {drinks : List Drink}
    {maxTurns : Quantity} {catalog : Catalog}
    (h : Opened status deck drinks maxTurns catalog l) :
    l.drinks = drinks.map fun d => ⟨d, false⟩ := by
  rw [h.frame]

/-- **Every drink is used once.** In every state that a course reaches from the opening the drinks
are those that were brought, in their order, and whatever comes then, one that is used stays used.
For every id that can be looked up, as all texts can, the accepted moves that ask for it are as many
as the drinks with it that are used, and no more than were brought. A drink that returns is accepted
just when an unused one with its id is left, and then the first one of these is used. -/
theorem drinks_are_used_once {status : Status} {schedule : Schedule} {deck : List Copy}
    {drinks : List Drink} {maxTurns : Quantity} {catalog : Catalog} {moves : List Move}
    {l₀ l : Lesson} {c₀ c₁ c : Chance}
    (hopen : openLesson status schedule deck drinks maxTurns catalog c₀ = (.ok l₀, c₁))
    (hmoves : Lesson.course moves l₀ c₁ = (.ok l, c)) :
    l.drinks.map (·.drink) = drinks ∧
      (∀ more l' c', Lesson.course more l c = (.ok l', c') → ∀ (i : Nat) (slot : DrinkSlot),
        l.drinks[i]? = some slot → slot.used = true → l'.drinks[i]? = some slot) ∧
      (∃ kept, Lesson.acceptedOf moves l₀ c₁ = (.ok kept, c) ∧ ∀ id, id.isKey = true →
        kept.countP (·.asksFor id) = usedUp id l.drinks ∧
          kept.countP (·.asksFor id) ≤ drinks.countP (·.id.same id)) ∧
      ∀ id next c', l.useDrink id c = (.ok next, c') →
        (next.isSome = true ↔
          ∃ slot ∈ l.drinks, slot.drink.id.same id = true ∧ slot.used = false) ∧
        ∀ l', next = some l' → ∃ before slot after, l.drinks = before ++ slot :: after ∧
          l'.drinks = before ++ ⟨slot.drink, true⟩ :: after ∧
          slot.drink.id.same id = true ∧ slot.used = false ∧
          ∀ s ∈ before, s.drink.id.same id = true → s.used = true := by
  have hopened := (openLesson_ok hopen).1.drinks_eq
  obtain ⟨kept, hkept, -, haccepted⟩ := course_acceptedOf hmoves
  have hdrinks : l.drinks.map (·.drink) = drinks := by
    rw [haccepted.drinks_eq, hopened, List.map_map]
    exact List.map_id drinks
  have hnone (id : Datum) : usedUp id l₀.drinks = 0 := by
    rw [hopened, usedUp, List.countP_eq_zero]
    simp
  refine ⟨hdrinks, fun more l' c' hmore => ?_, ⟨kept, hkept, fun id hid => ?_⟩,
    fun id next c' hdrink => ⟨useDrink_isSome_iff hdrink, ?_⟩⟩
  · obtain ⟨later, -, -, hlater⟩ := course_acceptedOf hmore
    exact hlater.used_stays
  · have hcount : kept.countP (·.asksFor id) = usedUp id l.drinks := by
      rw [haccepted.usedUp hid, hnone, Nat.zero_add]
    have hle := usedUp_le id l.drinks
    rw [hdrinks, ← hcount] at hle
    exact ⟨hcount, hle⟩
  · rintro l' rfl
    exact (useDrink_taken hdrink).split

/-- A drink that grants genki. -/
def tea (name : String) : Drink where
  id := .text name
  name := .text name
  effects := [.gain (.known .genki) (.whole 3)]

/-- Two drinks of one kind are brought and one of another; one of the two is asked for three
times. -/
theorem drinks_are_used_once_tea : ∃ l₀ c₁ l c kept,
    openLesson {} [] [] [tea "t", tea "m", tea "t"] (.whole 12) [] stillChance = (.ok l₀, c₁) ∧
      Lesson.course [.drink (.text "t"), .drink (.text "t"), .drink (.text "t")] l₀ c₁ =
        (.ok l, c) ∧
      Lesson.acceptedOf [.drink (.text "t"), .drink (.text "t"), .drink (.text "t")] l₀ c₁ =
        (.ok kept, c) ∧
      l.drinks.map (·.drink) = [tea "t", tea "m", tea "t"] ∧ usedUp (.text "t") l.drinks = 2 ∧
      kept.countP (·.asksFor (.text "t")) = 2 := by
  let run : Play Lesson := do
    let l₀ ← openLesson {} [] [] [tea "t", tea "m", tea "t"] (.whole 12) []
    Lesson.course [.drink (.text "t"), .drink (.text "t"), .drink (.text "t")] l₀
  have hok : (run stillChance).1.toOption.any (usedUp (.text "t") ·.drinks == 2) = true := by
    decide +kernel
  obtain ⟨l, c, hout, htwo⟩ := Play.ok_of_any hok
  obtain ⟨l₀, c₁, hopen, hmoves⟩ := Play.bind_ok.1 hout
  obtain ⟨hdrinks, -, ⟨kept, hkept, hcount⟩, -⟩ := drinks_are_used_once hopen hmoves
  have htwo : usedUp (.text "t") l.drinks = 2 := beq_iff_eq.1 htwo
  exact ⟨l₀, c₁, l, c, kept, hopen, hmoves, hkept, hdrinks, htwo,
    (hcount (.text "t") rfl).1.trans htwo⟩

end CardLesson
