/-
# Diagnostics never influence play

The log, the part of the turn and the ids and names of buffs are there to be looked at. No move
reads them: of two lessons that differ in nothing else, the same moves are accepted, with the same
lines and the same draws, whatever was logged before and whatever the buffs are called.

Nor does a move read which copies the places of a lesson hold, only where two of them hold one copy.
That it does read: a triggered card is taken out of the hand where its copy stands first.

Key definitions: `Lesson.answers`.
Key theorems: `Twins.nextTurn`, `Twins.make`, `Twins.answers`, `course_eq_answers`,
`diagnostics_never_influence_play`, `shared_copy_is_told_apart`.
-/
import CardLesson.Proofs.Course
import CardLesson.Proofs.Twins

namespace CardLesson

namespace Lesson

/-- Makes moves one after another and says of each whether it was accepted. -/
def answers : List Move → Lesson → Play (List Bool × Lesson)
  | [], l => return ([], l)
  | move :: moves, l => do
    let next ← move.make l
    let (later, last) ← answers moves (next.getD l)
    return (next.isSome :: later, last)

end Lesson

/-- A course ends with the lesson that is left when all of its moves have been answered. -/
theorem course_eq_answers : ∀ (moves : List Move) (l : Lesson),
    Lesson.course moves l = do return (← l.answers moves).2
  | [], l => rfl
  | move :: moves, l => by
    simp only [Lesson.course, Lesson.answers, course_eq_answers moves, bind_assoc, pure_bind]

variable {named : Nat} {ρ : Renaming named} {old old' : List String} {l l' : Lesson}

namespace Twins

theorem isPlayedOut (h : Twins ρ old old' l l') : l'.isPlayedOut = l.isPlayedOut := by
  obtain ⟨phase, logs, buffs, rfl⟩ := h.dressed
  rfl

theorem findInHand (h : Twins ρ old old' l l') (id : Datum) :
    l'.findInHand id = (l.findInHand id).map (Copy.renamed ρ) := by
  obtain ⟨phase, logs, buffs, rfl⟩ := h.dressed
  exact List.find?_map

theorem actualCost (h : Twins ρ old old' l l') (card : Card) :
    actualCost card l'.buffs = actualCost card l.buffs := h.buffs.actualCost_eq card

theorem obstacle (h : Twins ρ old old' l l') (card : Card) (cost : Int) :
    l'.obstacle card cost = l.obstacle card cost := by
  obtain ⟨phase, logs, buffs, rfl⟩ := h.dressed
  rfl

theorem payment (h : Twins ρ old old' l l') (card : Card) (cost : Int) :
    Payment.of l' card cost = Payment.of l card cost := by
  obtain ⟨phase, logs, buffs, rfl⟩ := h.dressed
  rfl

theorem reactionsOf (h : Twins ρ old old' l l') (k : EffectKind) :
    l'.reactionsOf k = l.reactionsOf k := (h.buffsOf k).filterMap fun _ _ _ => rfl

theorem waiting (h : Twins ρ old old' l l') : SameBuffs l.waiting l'.waiting :=
  (h.buffsOf .onCardUse).filter fun _ _ _ => rfl

/-- Buffs that wait for a card fire alike. -/
theorem firedBy (h : Twins ρ old old' l l') {bs bs' : List Buff} (hbs : SameBuffs bs bs')
    (type : CardType) : Together Eq (l.firedBy bs type) (l'.firedBy bs' type) := by
  refine .bind (hbs.filterM fun b _ _ => h.matchesPlayed b.triggerCondition type) ?_
  exact fun fired fired' hfired => .pure (hfired.filterMap fun _ _ _ => rfl).symm

theorem react (h : Twins ρ old old' l l') (es : List Effect) (notes : Except Fault (List String)) :
    Lockstep named (Twins ρ old old') (Lesson.react es notes l) (Lesson.react es notes l') :=
  .ite (fun _ => .pure h) fun _ => .bind (h.applyEffects es) fun _ _ hnext =>
    .bindSame fun lines => .pure (hnext.withLines lines)

theorem putAway (h : Twins ρ old old' l l') (copy : Copy) :
    Twins ρ old old' (l.putAway copy) (l'.putAway (copy.renamed ρ)) := by
  obtain ⟨phase, logs, buffs, rfl⟩ := h.dressed
  have honce : (copy.renamed ρ).card.oncePerLesson = copy.card.oncePerLesson := rfl
  unfold Lesson.putAway
  rw [honce]
  split
  · exact ⟨by simp [Lesson.renamed], h.buffs, h.logs⟩
  · exact ⟨by simp [Lesson.renamed], h.buffs, h.logs⟩

theorem playPaid (h : Twins ρ old old' l l') (copy : Copy) (cost : Int) (p : Payment) :
    Lockstep named (Twins ρ old old') (l.playPaid copy cost p)
      (l'.playPaid (copy.renamed ρ) cost p) := by
  have hreactions := h.reactionsOf .reactionOnCost
  have hwaiting := h.waiting
  obtain ⟨phase, logs, buffs, rfl⟩ := h.dressed
  unfold Lesson.playPaid
  dsimp only
  rw [hreactions]
  refine .bindSame fun hp => .bindSame fun cardsPlayed => ?_
  have paid : Twins ρ old old' (l.paying copy p hp cardsPlayed)
      (Lesson.paying { l.renamed ρ with phase, logs, buffs } (copy.renamed ρ) p hp cardsPlayed) :=
    ⟨by simp [Lesson.paying, Lesson.renamed, removeCopy_renamed ρ.injective], h.buffs, h.logs⟩
  refine .bind (paid.applyEffects copy.card.effects) fun _ _ hmain => ?_
  refine .bind (hmain.react _ _) fun _ _ hreacted => ?_
  refine .bind (.lift (hreacted.firedBy hwaiting copy.card.type)) fun fired _ hfired => ?_
  subst hfired
  exact .bind (hreacted.react _ _) fun _ _ hdone =>
    .bindSame fun line => .pure ((hdone.putAway copy).withLines [line])

/-- A move that goes on from twins yields twins. -/
theorem accepted {x y : Play Lesson} (h : Lockstep named (Twins ρ old old') x y) :
    Lockstep named (Option.Rel (Twins ρ old old')) (do return some (← x)) (do return some (← y)) :=
  .bind h fun _ _ hnext => .pure (.some hnext)

theorem play (h : Twins ρ old old' l l') (id : Datum) :
    Lockstep named (Option.Rel (Twins ρ old old')) (l.play id) (l'.play id) := by
  unfold Lesson.play
  rw [h.isPlayedOut, h.findInHand]
  refine .ite (fun _ => .pure .none) fun _ => ?_
  cases l.findInHand id with
  | none => exact .pure .none
  | some copy =>
    have hcard : (copy.renamed ρ).card = copy.card := rfl
    dsimp only [Option.map_some]
    rw [hcard, h.actualCost]
    refine .bindSame fun cost => ?_
    rw [h.obstacle]
    refine .bindSame fun obstacle => .ite (fun _ => .pure .none) fun _ => ?_
    rw [h.payment]
    exact .bindSame fun p => accepted (h.playPaid copy cost p)

/-- The next turn of twins begins with the same draws and the same lines. -/
theorem nextTurn (h : Twins ρ old old' l l') (schedule : Schedule) :
    Lockstep named (Twins ρ old old') (l.nextTurn schedule) (l'.nextTurn schedule) := by
  obtain ⟨phase, logs, buffs, rfl⟩ := h.dressed
  obtain ⟨lines, hold, hold'⟩ := h.logs
  dsimp only at hold'
  have logged (notes : List String) : ∃ lines,
      l.logs ++ notes = old ++ lines ∧ logs ++ notes = old' ++ lines :=
    ⟨lines ++ notes, by simp [hold], by simp [hold']⟩
  have hdrawn : Lockstep named _ _ _ := drawCards_renamed (ρ := ρ) l.deck (l.discard ++ l.hand)
    (min Balance.baseDraw Balance.handLimit) []
  rw [List.map_append] at hdrawn
  unfold Lesson.nextTurn
  refine .ite (fun _ => .bindSame fun _ => .bindSame fun hp => ?_) fun _ => .bindSame fun hp => ?_
  all_goals
    refine .bind hdrawn fun d d' hd => ?_
    subst hd
    iterate 5 refine .bindSame fun _ => ?_
    refine .bind (.lift h.buffs.tickBuffs) fun bs bs' hbuffs => ?_
    exact .bindSame fun _ => .pure ⟨rfl, hbuffs, logged _⟩

theorem endTurn (h : Twins ρ old old' l l') (schedule : Schedule) :
    Lockstep named (Option.Rel (Twins ρ old old')) (l.endTurn schedule) (l'.endTurn schedule) := by
  have hnext := h.nextTurn schedule
  obtain ⟨phase, logs, buffs, rfl⟩ := h.dressed
  refine .ite (fun _ => .pure .none) fun _ => .bind hnext fun next next' h => ?_
  rw [h.reactionsOf]
  exact accepted (h.react _ _)

theorem drinkUp (h : Twins ρ old old' l l') (drink : Drink) (drinks : List DrinkSlot) :
    Lockstep named (Twins ρ old old') (l.drinkUp drink drinks) (l'.drinkUp drink drinks) := by
  obtain ⟨phase, logs, buffs, rfl⟩ := h.dressed
  have drunk : Twins ρ old old' { l with drinks } { l.renamed ρ with phase, logs, buffs, drinks } :=
    ⟨rfl, h.buffs, h.logs⟩
  exact .bind (drunk.applyEffects drink.effects) fun _ _ hused =>
    .bindSame fun _ => .pure (hused.withLines _)

theorem useDrink (h : Twins ρ old old' l l') (id : Datum) :
    Lockstep named (Option.Rel (Twins ρ old old')) (l.useDrink id) (l'.useDrink id) := by
  have hdrunk := h.drinkUp
  obtain ⟨phase, logs, buffs, rfl⟩ := h.dressed
  have hdrinks : (l.renamed ρ).drinks = l.drinks := rfl
  unfold Lesson.useDrink
  dsimp only
  rw [hdrinks]
  cases Lesson.takeDrink id l.drinks with
  | none => exact .pure .none
  | some taken => exact accepted (hdrunk taken.1 taken.2)

/-- **A move does the same to twins**: it is accepted for both or for none. -/
theorem make (h : Twins ρ old old' l l') (move : Move) :
    Lockstep named (Option.Rel (Twins ρ old old')) (move.make l) (move.make l') := by
  cases move with
  | play id => exact h.play id
  | endTurn schedule => exact h.endTurn schedule
  | drink id => exact h.useDrink id

/-- Twins give the same answers to all moves of a sequence, and are twins at its end. -/
theorem answers (h : Twins ρ old old' l l') (moves : List Move) :
    Lockstep named (fun a a' => a'.1 = a.1 ∧ Twins ρ old old' a.2 a'.2) (Lesson.answers moves l)
      (Lesson.answers moves l') := by
  induction moves generalizing l l' with
  | nil => exact .pure ⟨rfl, h⟩
  | cons move moves ih =>
    refine .bind (h.make move) fun next next' hnext => ?_
    cases hnext with
    | none => exact .bind (ih h) fun a a' ha => .pure ⟨congrArg (List.cons _) ha.1, ha.2⟩
    | some hnext => exact .bind (ih hnext) fun a a' ha => .pure ⟨congrArg (List.cons _) ha.1, ha.2⟩

end Twins

/-- **Diagnostics never influence play.** Take two lessons that differ only in their logs, in the
part of the turn and in the ids and names of their buffs, and any moves, which both make from one
chance. Either a move fails for both, with one fault and one chance, or all moves return: then each
was accepted for both or rejected for both, the same lines were added to both logs, the same chance
is left, which has taken back no names, and the lessons differ as little as before. The moves before
one that fails are a sequence of their own, and so were answered alike too.

The lessons hold equal cards, and two places of the second hold one copy of a card exactly when
those of the first do: the second has the copies of the first under other serials. When both hold
the very same copies, no serial is another. -/
theorem diagnostics_never_influence_play (c : Chance) {ρ : Renaming c.named}
    (frame : l' = { l.renamed ρ with phase := l'.phase, logs := l'.logs, buffs := l'.buffs })
    (buffs : SameBuffs l.buffs l'.buffs) (moves : List Move) :
    (∃ f c₁, l.answers moves c = (.error f, c₁) ∧ l'.answers moves c = (.error f, c₁)) ∨
      ∃ accepted lines last last' c₁,
        l.answers moves c = (.ok (accepted, last), c₁) ∧
        l'.answers moves c = (.ok (accepted, last'), c₁) ∧
        last.logs = l.logs ++ lines ∧ last'.logs = l'.logs ++ lines ∧
        last' = { last.renamed ρ with
          phase := last'.phase, logs := last'.logs, buffs := last'.buffs } ∧
        SameBuffs last.buffs last'.buffs ∧ c.named ≤ c₁.named := by
  have twins : Twins ρ l.logs l'.logs l l' :=
    ⟨frame, buffs, [], (List.append_nil _).symm, (List.append_nil _).symm⟩
  have hanswers := twins.answers moves c (Nat.le_refl _)
  generalize l.answers moves c = out at hanswers ⊢
  generalize l'.answers moves c = out' at hanswers ⊢
  cases hanswers with
  | failed f c₁ => exact .inl ⟨f, c₁, rfl, rfl⟩
  | @returned a a' hlast c₁ hc =>
    obtain ⟨accepted, last⟩ := a
    obtain ⟨accepted', last'⟩ := a'
    obtain ⟨rfl, hlast⟩ := hlast
    obtain ⟨lines, hlines, hlines'⟩ := hlast.logs
    exact .inr
      ⟨_, lines, last, last', c₁, rfl, rfl, hlines, hlines', hlast.frame, hlast.buffs, hc⟩

/-- A lesson with a card in the hand and a buff that gains genki at the start of each turn. -/
def tendedLesson : Lesson where
  hand := [⟨.dealt 0, .plain "a"⟩]
  buffs := [{
    id := "buff_00000001"
    kind := .known .turnStart
    duration := .whole (-1)
    name := "Turn Start Trigger"
    triggered := some (.gain (.known .genki) (.whole 2)) }]
  logs := ["Turn 1 start"]

/-- Other serials for all copies that were dealt. -/
def laterSerials : Renaming stillChance.named where
  serial
    | .dealt n => .dealt (n + 5)
    | .made n => .made n
  injective s t h := by cases s <;> cases t <;> simp_all
  fresh _ _ := rfl

/-- The same lesson without a log, in another part of the turn, its copy under another serial and
its buff under another name. -/
def relabelledLesson : Lesson :=
  { tendedLesson.renamed laterSerials with
    phase := .finish
    logs := []
    buffs := tendedLesson.buffs.map fun b => { b with id := "b", name := "B" } }

/-- The card is played, its second play is rejected in both lessons, and in the next turn both have
the genki of the buff. -/
theorem relabelled_lesson_plays_alike : ∃ lines last last' c,
    tendedLesson.answers [.play (.text "a"), .play (.text "a"), .endTurn []] stillChance =
        (.ok ([true, false, true], last), c) ∧
      relabelledLesson.answers [.play (.text "a"), .play (.text "a"), .endTurn []] stillChance =
        (.ok ([true, false, true], last'), c) ∧
      last.logs = "Turn 1 start" :: lines ∧ last'.logs = lines ∧
      last.genki = .whole 2 ∧ last'.genki = .whole 2 := by
  let moves : List Move := [.play (.text "a"), .play (.text "a"), .endTurn []]
  have hreturns : (tendedLesson.answers moves stillChance).1.toOption.any
      (fun (accepted, last) => accepted == [true, false, true] && last.genki == .whole 2) =
        true := by
    decide +kernel
  have hbuffs : SameBuffs tendedLesson.buffs relabelledLesson.buffs := .cons _ _ _ .nil
  obtain ⟨a, c, hlast, hright⟩ := Play.ok_of_any hreturns
  have hframe : relabelledLesson = { tendedLesson.renamed laterSerials with
      phase := .finish, logs := [], buffs := relabelledLesson.buffs } := rfl
  rcases diagnostics_never_influence_play stillChance hframe hbuffs moves with
    ⟨f, c₁, hfails, -⟩ |
      ⟨accepted, lines, last, last', c₁, hone, hother, hlines, hlines', hframe, -⟩
  · rw [hlast] at hfails
    cases hfails
  · rw [hlast] at hone
    cases hone
    obtain ⟨haccepted, hgenki⟩ := Bool.and_eq_true_iff.1 hright
    obtain rfl : accepted = [true, false, true] := beq_iff_eq.1 haccepted
    have hgenki : last.genki = .whole 2 := beq_iff_eq.1 hgenki
    have hgenki' : last'.genki = last.genki := by
      rw [hframe]
      rfl
    exact ⟨lines, last, last', c, hlast, hother, hlines, hlines', hgenki, hgenki'.trans hgenki⟩

/-- A drink that triggers two cards of the hand. -/
def pairDrink : Drink where
  id := .text "d"
  name := .text "D"
  effects := [.of { kind := .known .triggerRandomHandCard, count := .whole 2 }]

/-- A lesson with two copies of a card in the hand. -/
def twoCopiesLesson : Lesson where
  hand := [⟨.dealt 0, .plain "b"⟩, ⟨.dealt 1, .plain "a"⟩, ⟨.dealt 2, .plain "c"⟩,
    ⟨.dealt 3, .plain "a"⟩]
  drinks := [⟨pairDrink, false⟩]

/-- The lesson with one copy of the card in both places. -/
def oneCopyLesson : Lesson :=
  twoCopiesLesson.renamed fun s => if s = .dealt 3 then .dealt 1 else s

/-- **Copies matter.** The two lessons hold equal cards and agree in all else, and the drink
triggers the last card of the hand in both. With two copies that one leaves the hand; where the same
copy is in both places, the first one does. -/
theorem shared_copy_is_told_apart :
    oneCopyLesson = { twoCopiesLesson with hand := oneCopyLesson.hand } ∧
      oneCopyLesson.hand.map (·.card) = twoCopiesLesson.hand.map (·.card) ∧
      ∃ last last' c c',
        twoCopiesLesson.answers [.drink (.text "d")] stillChance = (.ok ([true], last), c) ∧
        oneCopyLesson.answers [.drink (.text "d")] stillChance = (.ok ([true], last'), c') ∧
        last.logs = last'.logs ∧
        last.hand.map (·.id.shown) = ["a", "c"] ∧
        last'.hand.map (·.id.shown) = ["c", "a"] := by
  have htwo : (twoCopiesLesson.answers [.drink (.text "d")] stillChance).1.toOption.any (fun a =>
      a.1 == [true] && a.2.logs == ["Triggered from hand: b, a", "Used drink D"] &&
        a.2.hand.map (·.id.shown) == ["a", "c"]) = true := by decide +kernel
  have hone : (oneCopyLesson.answers [.drink (.text "d")] stillChance).1.toOption.any (fun a =>
      a.1 == [true] && a.2.logs == ["Triggered from hand: b, a", "Used drink D"] &&
        a.2.hand.map (·.id.shown) == ["c", "a"]) = true := by decide +kernel
  obtain ⟨⟨accepted, last⟩, c, hlast, hright⟩ := Play.ok_of_any htwo
  obtain ⟨⟨accepted', last'⟩, c', hlast', hright'⟩ := Play.ok_of_any hone
  simp only [Bool.and_eq_true, beq_iff_eq] at hright hright'
  obtain ⟨⟨rfl, hlogs⟩, hhand⟩ := hright
  obtain ⟨⟨rfl, hlogs'⟩, hhand'⟩ := hright'
  exact ⟨rfl, rfl, last, last', c, c', hlast, hlast', hlogs.trans hlogs'.symm, hhand, hhand'⟩

end CardLesson
