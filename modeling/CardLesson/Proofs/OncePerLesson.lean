/-
# Cards that are played once per lesson

A card that is limited to once per lesson is excluded when it is played, so each of its copies is
played at most once: at any time the plays so far and the copies that are not excluded are,
together, the copies of the deck and the strays. A trigger works through such a card too, but puts
it into the discard pile like any other card; from there it is shuffled back, drawn and used again.
So its effects are resolved at most as often as there are copies exactly while no more of them were
triggered, or are strays, than are left.

Key definitions: `isOnceCard`, `onceCount`, `Lesson.playedIn`, `timesResolved`.
Key theorems: `Worked.once_ledger`, `Made.once_ledger`, `course_once_ledger`,
`once_per_lesson_ledger`, `once_card_resolved_twice`.
-/
import CardLesson.Proofs.Conservation
import CardLesson.Proofs.Rejection

namespace CardLesson

/-! ### Counting the cards -/

/-- Whether a card is played once per lesson and has an id. -/
def isOnceCard (id : String) (card : Card) : Bool := card.oncePerLesson && card.id.same (.text id)

theorem same_text_of_same {a b : Datum} (h : a.same b = true) (s : String) :
    a.same (.text s) = b.same (.text s) := by
  cases a <;> cases b <;> first
    | rfl
    | cases h
    | skip
  case text.text t u =>
    rw [Datum.same_text, beq_iff_eq] at h
    rw [h]

/-- Equal cards are both such a card, or both not. -/
theorem isOnceCard_of_same {id : String} (a b : Card) (h : a.same b = true) :
    isOnceCard id a = isOnceCard id b := by
  simp only [Card.same, Bool.and_eq_true, beq_iff_eq] at h
  obtain ⟨⟨⟨⟨⟨⟨⟨⟨⟨⟨⟨⟨hid, -⟩, -⟩, -⟩, -⟩, -⟩, -⟩, -⟩, -⟩, hlimit⟩, -⟩, -⟩, -⟩ := h
  rw [isOnceCard, isOnceCard, Card.oncePerLesson, Card.oncePerLesson, hlimit,
    same_text_of_same hid]

/-- How many copies are of such a card. -/
def onceCount (id : String) (copies : Multiset Copy) : Nat :=
  copies.countP fun x => isOnceCard id x.card = true

theorem onceCount_add {id : String} (xs ys : Multiset Copy) :
    onceCount id (xs + ys) = onceCount id xs + onceCount id ys :=
  Multiset.countP_add _ xs ys

theorem onceCount_singleton {id : String} (copy : Copy) :
    onceCount id {copy} = if isOnceCard id copy.card then 1 else 0 := by
  rw [onceCount, ← Multiset.cons_zero, Multiset.countP_cons, Multiset.countP_zero, Nat.zero_add]

/-- The copies that can still be played: all but those that are excluded. -/
def Lesson.unspent (l : Lesson) : List Copy := l.deck ++ l.hand ++ l.discard ++ l.onHold

theorem coe_zones_unspent (l : Lesson) : (l.zones : Multiset Copy) = l.unspent + l.excluded := by
  rw [coe_zones, Lesson.unspent]
  simp only [← Multiset.coe_add]

variable {l l' : Lesson} {c c' : Chance} {ms : List Moment} {copies : List Copy}

/-! ### What effects do to them -/

/-- Effects exclude no card. -/
theorem Reaches.excluded_eq {s s' : Stage} (h : Reaches s ms s') :
    s'.lesson.excluded = s.lesson.excluded := by
  rw [h.frame]
  rfl

/-- The operations neither upgrade the hand nor make trouble cards. -/
def keepsCards : Operation → Bool := avoids [.upgradeHand, .generateTrouble]

/-- The cards are among some copies, and no operation changes cards or makes new ones. -/
def stockOf (copies : List Copy) : Trait where
  effect e := e.every keepsCards = true
  card x := x ∈ copies ∧ x.card.every keepsCards = true
  buff b := b.Granted keepsCards

theorem not_keepsCards {op : Operation} (hkind : op.kind = .known .generateTrouble) :
    ¬keepsCards op = true := by
  simp [keepsCards, avoids, hkind, Tag.is]

theorem stockOf_handedOn (copies : List Copy) : (stockOf copies).HandedOn where
  ofCard hx := (passing_handedOn keepsCards).ofCard hx.2
  ofGate := (passing_handedOn keepsCards).ofGate
  ofBuff := (passing_handedOn keepsCards).ofBuff
  made he hkind _ _ := absurd (Effect.every_iff.1 he).1 (not_keepsCards hkind)
  granted := (passing_handedOn keepsCards).granted
  aged := (passing_handedOn keepsCards).aged

theorem stockOf_task {t : Task} (h : (stockOf copies).task t) : t.every keepsCards = true := by
  cases t with
  | effect e => exact h
  | card copy => exact h.2

/-- Effects bring strays, and nothing else, to the cards of the zones. -/
theorem Worked.once_ledger {es : List Effect} (h : Worked es l c ms l' c') (id : String)
    (hg : Genuine copies) (hl : l.Bears (stockOf copies))
    (hes : ∀ e ∈ es, e.every keepsCards = true) :
    onceCount id l'.zones = onceCount id l.zones + onceCount id (total Moment.strays ms) ∧
      l'.excluded = l.excluded := by
  obtain ⟨-, hms⟩ := h.bears (stockOf_handedOn copies) hl hes
  obtain ⟨l₁, lines, hrun, rfl⟩ := h
  have hnone {k : EffectKind} (hk : k ∈ [EffectKind.upgradeHand, .generateTrouble]) :
      ∀ m ∈ ms, m.carriesOut k = false :=
    fun m hm => carriesOut_of_avoids hk (stockOf_task (hms m hm).2)
  have hgenuine : Genuine l.zones :=
    fun x hx y hy => hg x (hl.zones x hx).1 y (hl.zones y hy).1
  have hsame : SameCards l₁.zones (l.zones + total Moment.strays ms) :=
    hrun.sameCards (hnone (by simp)) (fun m hm => Moment.troubles_eq_zero (hnone (by simp) m hm))
      hgenuine (by simp)
  refine ⟨?_, hrun.excluded_eq⟩
  rw [← onceCount_add]
  exact hsame (isOnceCard id) isOnceCard_of_same

/-! ### What moves do to them -/

/-- The copy of the hand that a move plays when it is accepted. -/
def Move.playedFrom (l : Lesson) : Move → List Copy
  | .play id => (l.findInHand id).toList
  | _ => []

/-- The copies that are played in a sequence of moves. -/
def Lesson.playedIn : List Move → Lesson → Play (List Copy)
  | [], _ => return []
  | move :: moves, l => do
    match ← move.make l with
    | none => playedIn moves l
    | some l₁ => return move.playedFrom l ++ (← playedIn moves l₁)

/-- A card that is put away is excluded when it is played once per lesson. -/
theorem onceCount_excluded_putAway (id : String) (l : Lesson) (copy : Copy) :
    onceCount id (l.putAway copy).excluded =
      onceCount id l.excluded + onceCount id {copy} := by
  unfold Lesson.putAway
  split
  · show onceCount id ↑(l.excluded ++ [copy]) = _
    rw [← Multiset.coe_add, onceCount_add, Multiset.coe_singleton]
  · next hlimit =>
    have hother : isOnceCard id copy.card = false := by
      rw [isOnceCard, Bool.eq_false_iff.2 hlimit, Bool.false_and]
    rw [onceCount_singleton, hother]
    rfl

/-- **The ledger of a move** that is accepted: strays come into the zones, and what is played is
excluded. -/
theorem Made.once_ledger {move : Move} (h : Made l c move ms l' c') (id : String)
    (hg : Genuine copies) (hl : l.Bears (stockOf copies))
    (accepted : ∀ c₁, move.make l c ≠ (.ok none, c₁)) :
    onceCount id l'.zones = onceCount id l.zones + onceCount id (total Moment.strays ms) ∧
      onceCount id l'.excluded = onceCount id l.excluded + onceCount id (move.playedFrom l) := by
  have hT := stockOf_handedOn copies
  have hgenuine : Genuine l.zones :=
    fun x hx y hy => hg x (hl.zones x hx).1 y (hl.zones y hy).1
  cases h with
  | rejected hnone => exact absurd hnone (accepted c)
  | @played id' copy cost pay hp plays fired l₁ l₂ l₃ c₁ c₂ c₃ ms₁ ms₂ ms₃ lines _ found _ _ _ _ _
      main reacting fires firing =>
    have hcopy := mem_of_findInHand found
    have hcard := hl.zones copy (mem_zones_of_mem_hand hcopy)
    have hl₀ : (l.paying copy pay hp plays).Bears (stockOf copies) := hl.paying hT
    have hreact : ∀ e ∈ l.costReactions pay, e.every keepsCards = true :=
      fun e he => hl.of_triggered hT (mem_costReactions he)
    have hfired : ∀ e ∈ fired, e.every keepsCards = true :=
      fun e he => hl.of_triggered hT (mem_fired fires he)
    obtain ⟨hl₁, -⟩ := main.bears hT hl₀ (hT.ofCard hcard)
    obtain ⟨hl₂, -⟩ := reacting.bears hT hl₁ hreact
    obtain ⟨hz₁, hx₁⟩ := main.once_ledger id hg hl₀ (hT.ofCard hcard)
    obtain ⟨hz₂, hx₂⟩ := reacting.once_ledger id hg hl₁ hreact
    obtain ⟨hz₃, hx₃⟩ := firing.once_ledger id hg hl₂ hfired
    have hpaid : onceCount id (l.paying copy pay hp plays).zones + onceCount id {copy} =
        onceCount id l.zones := by
      rw [← onceCount_add, zones_paying hgenuine hcopy]
    have hput : onceCount id (l₃.putAway copy).zones =
        onceCount id l₃.zones + onceCount id {copy} := by
      rw [← onceCount_add, zones_putAway]
    constructor
    · show onceCount id (l₃.putAway copy).zones = _
      rw [total_append, total_append, onceCount_add, onceCount_add]
      omega
    · show onceCount id (l₃.putAway copy).excluded = _
      have hplayed : Move.playedFrom l (.play id') = [copy] := by
        rw [Move.playedFrom, found, Option.toList_some]
      rw [onceCount_excluded_putAway, hx₃, hx₂, hx₁, hplayed]
      rfl
  | @ended schedule next _ c₁ _ _ _ turns starting =>
    have hturned := (nextTurn_ok turns).1
    have hnext := hl.turned hT hturned
    obtain ⟨hz, hx⟩ := starting.once_ledger id hg hnext
      fun e he => hnext.of_triggered hT (mem_reactionsOf he)
    have hexcluded : next.excluded = l.excluded := by rw [hturned.frame]
    constructor
    · rw [hz, Multiset.coe_eq_coe.2 hturned.zones_perm]
    · rw [hx, hexcluded]
      rfl
  | @drunk id' drink drinks l₁ _ _ lines taken drinking =>
    obtain ⟨hdrinks, hdrink⟩ := hl.drinking hT taken
    obtain ⟨hz, hx⟩ := drinking.once_ledger id hg hdrinks hdrink
    refine ⟨hz, ?_⟩
    show onceCount id l₁.excluded = _
    rw [hx]
    rfl

/-- **The ledger of a course.** -/
theorem course_once_ledger (id : String) (hg : Genuine copies) : ∀ {moves : List Move} {l : Lesson}
    {c : Chance}, Lesson.course moves l c = (.ok l', c') → l.Bears (stockOf copies) →
      ∃ ms played, Course l c moves ms l' c' ∧ Lesson.playedIn moves l c = (.ok played, c') ∧
        onceCount id l'.zones = onceCount id l.zones + onceCount id (total Moment.strays ms) ∧
        onceCount id l'.excluded = onceCount id l.excluded + onceCount id played
  | [], l, c, h, _ => by
    obtain ⟨rfl, rfl⟩ := Play.pure_ok.1 h
    exact ⟨[], [], .nil l c, rfl, rfl, rfl⟩
  | move :: moves, l, c, h, hl => by
    obtain ⟨next, c₁, hmove, h⟩ := Play.bind_ok.1 h
    obtain ⟨ms, hmade⟩ := make_ok hmove
    have hl₁ := (hmade.bears (stockOf_handedOn copies) hl).1
    obtain ⟨ms', played, hcourse, hplayed, hz, hx⟩ := course_once_ledger id hg h hl₁
    cases next with
    | none =>
      -- a rejected move has no moments, and the lesson stays
      have hnone := hmove
      obtain ⟨-, rfl⟩ := make_none_iff.1 hmove
      exact ⟨ms', played, .cons (.rejected hnone) hcourse, Play.bind_ok.2 ⟨none, _, hnone, hplayed⟩,
        hz, hx⟩
    | some l₁ =>
      have haccepted : ∀ c₂, move.make l c ≠ (.ok none, c₂) := by
        intro c₂ hnone
        cases hmove.symm.trans hnone
      obtain ⟨hz₁, hx₁⟩ := hmade.once_ledger id hg hl haccepted
      rw [Option.getD_some] at hz hx hz₁ hx₁
      refine ⟨ms ++ ms', move.playedFrom l ++ played, .cons hmade hcourse,
        Play.bind_ok.2 ⟨some l₁, c₁, hmove, Play.bind_ok.2 ⟨played, c', hplayed, rfl⟩⟩, ?_, ?_⟩
      · rw [total_append, onceCount_add]
        omega
      · rw [← Multiset.coe_add, onceCount_add]
        omega

/-! ### How often their effects are resolved -/

/-- How often the effects of such a card are resolved: each time it is played or triggered. -/
def timesResolved (id : String) (played : List Copy) (ms : List Moment) : Nat :=
  onceCount id played + onceCount id (total Moment.triggered ms)

/-- A stray is triggered. -/
theorem onceCount_strays_le (id : String) (ms : List Moment) :
    onceCount id (total Moment.strays ms) ≤ onceCount id (total Moment.triggered ms) := by
  induction ms with
  | nil => exact Nat.le_refl _
  | cons m ms ih =>
    rw [total_cons, total_cons, onceCount_add, onceCount_add]
    have hone : onceCount id m.strays ≤ onceCount id m.triggered := by
      unfold Moment.strays
      split
      · exact Nat.le_refl _
      · exact Nat.zero_le _
    omega

/-- **How often cards are used that are played once per lesson.** Of the cards with an id those
played so far and those that can still be played are, together, the copies of the deck and the
strays. So their effects are resolved at most as often as there are copies exactly when no more of
them were triggered, or are strays, than can still be played; and so whenever none was triggered. -/
theorem once_per_lesson_ledger {status : Status} {schedule : Schedule} {deck : List Copy}
    {drinks : List Drink} {maxTurns : Quantity} {catalog : Catalog} {moves : List Move}
    {l₀ l : Lesson} {c₀ c₁ c : Chance} (hg : Genuine (deck ++ catalog.map (·.2)))
    (hcards : ∀ x ∈ deck ++ catalog.map (·.2), x.card.every keepsCards = true)
    (hdrinks : ∀ d ∈ drinks, Effect.everyOf keepsCards d.effects = true)
    (hopen : openLesson status schedule deck drinks maxTurns catalog c₀ = (.ok l₀, c₁))
    (hcourse : Lesson.course moves l₀ c₁ = (.ok l, c)) (id : String) :
    ∃ ms played, Course l₀ c₁ moves ms l c ∧ Lesson.playedIn moves l₀ c₁ = (.ok played, c) ∧
      onceCount id played + onceCount id l.unspent =
        onceCount id deck + onceCount id (total Moment.strays ms) ∧
      (timesResolved id played ms ≤ onceCount id deck ↔
        onceCount id (total Moment.triggered ms) + onceCount id (total Moment.strays ms) ≤
          onceCount id l.unspent) ∧
      (onceCount id (total Moment.triggered ms) = 0 →
        timesResolved id played ms ≤ onceCount id deck) := by
  obtain ⟨hopened, -⟩ := openLesson_ok hopen
  have hl₀ : l₀.Bears (stockOf (deck ++ catalog.map (·.2))) :=
    hopened.bears (fun x hx => ⟨hx, hcards x hx⟩) fun d hd => Effect.everyOf_iff.1 (hdrinks d hd)
  have hexcluded : l₀.excluded = [] := by rw [hopened.frame]
  obtain ⟨ms, played, hrun, hplayed, hz, hx⟩ := course_once_ledger id hg hcourse hl₀
  have hstrays := onceCount_strays_le id ms
  rw [Multiset.coe_eq_coe.2 hopened.zones, coe_zones_unspent, onceCount_add] at hz
  rw [hexcluded] at hx
  have hnone : onceCount id (([] : List Copy) : Multiset Copy) = 0 := rfl
  refine ⟨ms, played, hrun, hplayed, by omega, ?_, fun huntriggered => ?_⟩
  · unfold timesResolved
    omega
  · unfold timesResolved
    omega

/-! ### One copy, used twice -/

/-- The one copy of a card that is played once per lesson. -/
def onceCopy : Copy where
  serial := .dealt 0
  card :=
    { id := .text "x", name := .text "X", usageLimit := some .oncePerLesson, startInHand := true
      effects := [.gain (.known .genki) (.whole 1)] }

/-- A drink that triggers a card of the hand. -/
def triggerDrink : Drink :=
  { id := .text "d", name := .text "D"
    effects := [.of { kind := .known .triggerRandomHandCard }] }

/-- The lesson that opens with them. -/
def onceLesson : Lesson :=
  { hand := [onceCopy], drinks := [⟨triggerDrink, false⟩], logs := ["Turn 1 start"]
    catalog := [(.text "x", onceCopy)] }

/-- The drink is used, the turn ends, and the card is played. -/
def onceMoves : List Move := [.drink (.text "d"), .endTurn [], .play (.text "x")]

theorem onceLesson_opens : openLesson {} [] [onceCopy] [triggerDrink] 12 [] stillChance =
    (.ok onceLesson, stillChance) := rfl

theorem onceCopy_keepsCards : ∀ x ∈ [onceCopy] ++ ([] : Catalog).map (·.2),
    x.card.every keepsCards = true := by
  intro x hx
  rw [List.map_nil, List.append_nil, List.mem_singleton] at hx
  rw [hx]
  rfl

theorem triggerDrink_keepsCards : ∀ d ∈ [triggerDrink],
    Effect.everyOf keepsCards d.effects = true := by
  intro d hd
  rw [List.mem_singleton.1 hd]
  rfl

theorem onceMoves_return : ∃ l c, Lesson.course onceMoves onceLesson stillChance = (.ok l, c) := by
  have hreturns : (Lesson.course onceMoves onceLesson stillChance).1.toOption.any
      (fun _ => true) = true := by decide +kernel
  obtain ⟨l, c, hcourse, -⟩ := Play.ok_of_any hreturns
  exact ⟨l, c, hcourse⟩

theorem onceCopy_genuine : Genuine ([onceCopy] ++ ([] : Catalog).map (·.2)) :=
  (deal_known 0 [onceCopy.card] 0).genuine

/-- The play and what is left of the one copy, in a lesson in which it was triggered before. -/
theorem once_per_lesson_ledger_reused : ∃ l c ms played,
    Lesson.course onceMoves onceLesson stillChance = (.ok l, c) ∧
      Course onceLesson stillChance onceMoves ms l c ∧
      Lesson.playedIn onceMoves onceLesson stillChance = (.ok played, c) ∧
      onceCount "x" played + onceCount "x" l.unspent =
        1 + onceCount "x" (total Moment.strays ms) := by
  obtain ⟨l, c, hcourse⟩ := onceMoves_return
  obtain ⟨ms, played, hrun, hplayed, hledger, -⟩ := once_per_lesson_ledger onceCopy_genuine
    onceCopy_keepsCards triggerDrink_keepsCards onceLesson_opens hcourse "x"
  exact ⟨l, c, ms, played, hcourse, hrun, hplayed, hledger⟩

/-- The drink triggers the card. -/
theorem triggerDrink_triggers {next : Lesson}
    (h : Made onceLesson stillChance (.drink (.text "d")) ms next c) :
    onceCopy ∈ total Moment.triggered ms := by
  have hperform : ∃ c', perform { onceLesson with drinks := [⟨triggerDrink, true⟩] }
      (.effect (.of { kind := .known .triggerRandomHandCard })) stillChance =
        (.ok ([.card onceCopy], { onceLesson with drinks := [⟨triggerDrink, true⟩] }), c') :=
    ⟨_, rfl⟩
  obtain ⟨c', hperform⟩ := hperform
  cases h with
  | rejected hnone =>
    have hused := (make_none_iff.1 hnone).1 _ List.mem_cons_self rfl
    cases hused
  | drunk taken drinking =>
    cases taken
    obtain ⟨l₁, lines, hrun, -⟩ := drinking
    cases hrun with
    | step now later =>
      rw [hperform] at now
      cases now
      cases later with
      | step _ _ => simp [total_cons, Moment.triggered]

/-- **A card that is played once per lesson is used twice**: the drink triggers the only copy, the
end of the turn shuffles it back and draws it, and it is played. -/
theorem once_card_resolved_twice : ∃ l₀ c₁ l c ms played,
    openLesson {} [] [onceCopy] [triggerDrink] 12 [] stillChance = (.ok l₀, c₁) ∧
      (∀ x ∈ [onceCopy] ++ ([] : Catalog).map (·.2), x.card.every keepsCards = true) ∧
      (∀ d ∈ [triggerDrink], Effect.everyOf keepsCards d.effects = true) ∧
      Lesson.course onceMoves l₀ c₁ = (.ok l, c) ∧ Course l₀ c₁ onceMoves ms l c ∧
      Lesson.playedIn onceMoves l₀ c₁ = (.ok played, c) ∧
      ¬timesResolved "x" played ms ≤ onceCount "x" ([onceCopy] : List Copy) := by
  obtain ⟨l, c, hcourse⟩ := onceMoves_return
  have hplays : (Lesson.playedIn onceMoves onceLesson stillChance).1.toOption.any
      (fun played => played.any fun x => isOnceCard "x" x.card) = true := by decide +kernel
  obtain ⟨hopened, -⟩ := openLesson_ok onceLesson_opens
  have hl₀ : onceLesson.Bears (stockOf ([onceCopy] ++ ([] : Catalog).map (·.2))) :=
    hopened.bears (fun x hx => ⟨hx, onceCopy_keepsCards x hx⟩)
      fun d hd => Effect.everyOf_iff.1 (triggerDrink_keepsCards d hd)
  obtain ⟨ms, played, hrun, hplayed, -, -⟩ := course_once_ledger "x" onceCopy_genuine hcourse hl₀
  refine ⟨onceLesson, stillChance, l, c, ms, played, onceLesson_opens, onceCopy_keepsCards,
    triggerDrink_keepsCards, hcourse, hrun, hplayed, ?_⟩
  have hone : onceCount "x" ([onceCopy] : List Copy) = 1 := rfl
  have honce : isOnceCard "x" onceCopy.card = true := by decide
  have hpos : 0 < onceCount "x" played := by
    rw [hplayed] at hplays
    obtain ⟨x, hx, hcard⟩ := List.any_eq_true.1 hplays
    exact Multiset.countP_pos.2 ⟨x, hx, hcard⟩
  have htriggered : 0 < onceCount "x" (total Moment.triggered ms) := by
    cases hrun with
    | cons first _ =>
      rw [total_append, onceCount_add]
      have hmem := triggerDrink_triggers first
      exact Nat.add_pos_left (Multiset.countP_pos.2 ⟨onceCopy, hmem, honce⟩) _
  unfold timesResolved
  omega

end CardLesson
