/-
# Courses of a lesson

A course is a sequence of moves, plays, turn ends and drinks, from one lesson to another; a move
that is rejected leaves the lesson as it is. `Made` says what an accepted move does, stage by stage:
what it changes by itself, and the runs of the effects that it carries out. A course that returns
has a history, the moments of all its runs in order.

Key definitions: `Move`, `Lesson.course`, `Worked`, `Made`, `Course`, `Led`.
Key theorems: `nextTurn_ok`, `make_ok`, `course_ok`, `Made.carries`, `Course.carries`.
-/
import CardLesson.Lesson.Turn
import CardLesson.Proofs.Faithful
import CardLesson.Proofs.Stock

namespace CardLesson

/-! ### Moves -/

/-- The three moves of a lesson. -/
inductive Move where
  | play (id : Datum)
  | endTurn (schedule : Schedule)
  | drink (id : Datum)

/-- Makes a move; none when it is rejected. -/
def Move.make (l : Lesson) : Move → Play (Option Lesson)
  | .play id => l.play id
  | .endTurn schedule => l.endTurn schedule
  | .drink id => l.useDrink id

namespace Lesson

/-- Makes moves one after another. -/
def course : List Move → Lesson → Play Lesson
  | [], l => return l
  | move :: moves, l => do course moves ((← move.make l).getD l)

/-- The lesson when a card of the hand is paid for. -/
def paying (l : Lesson) (copy : Copy) (p : Payment) (hp cardsPlayed : Quantity) : Lesson :=
  { l with
    phase := .main, hand := removeCopy l.hand copy, genki := p.genkiLeft, hp, cardsPlayed }

/-- The effects that react to a payment: those that wait for a cost in HP, when there is one. -/
def costReactions (l : Lesson) (p : Payment) : List Effect :=
  if Quantity.lt 0 p.hp then l.reactionsOf .reactionOnCost else []

/-- The buffs that wait for a card. -/
def waiting (l : Lesson) : List Buff := (l.buffsOf .onCardUse).filter (·.triggered.isSome)

end Lesson

/-! ### What moves do -/

variable {l l' : Lesson} {c c' : Chance}

/-- Effects were carried out, with these moments, and lines were written to the log. -/
def Worked (es : List Effect) (l : Lesson) (c : Chance) (ms : List Moment) (l' : Lesson)
    (c' : Chance) : Prop :=
  ∃ l₁ lines, Reaches ⟨es.map .effect, l, c⟩ ms ⟨[], l₁, c'⟩ ∧ l' = l₁.withLines lines

theorem applyEffects_ok {es : List Effect} (h : applyEffects es l c = (.ok l', c')) :
    ∃ ms, Worked es l c ms l' c' := by
  obtain ⟨r, c₁, hr, h⟩ := Play.bind_ok.1 h
  obtain ⟨rfl, rfl⟩ := Play.pure_ok.1 h
  obtain ⟨ms, hrun⟩ := exists_run hr
  exact ⟨ms, r.lesson, r.lines, hrun, rfl⟩

theorem react_ok {es : List Effect} {notes : Except Fault (List String)}
    (h : Lesson.react es notes l c = (.ok l', c')) : ∃ ms, Worked es l c ms l' c' := by
  unfold Lesson.react at h
  split at h
  · next hempty =>
    obtain ⟨rfl, rfl⟩ := Play.pure_ok.1 h
    rw [List.isEmpty_iff.1 hempty]
    exact ⟨[], l, [], .refl _, (l.withLines_nil).symm⟩
  · obtain ⟨l₁, c₁, hl, h⟩ := Play.bind_ok.1 h
    obtain ⟨noted, -, h⟩ := Play.lift_bind_ok.1 h
    obtain ⟨rfl, rfl⟩ := Play.pure_ok.1 h
    obtain ⟨ms, l₂, lines, hrun, rfl⟩ := applyEffects_ok hl
    exact ⟨ms, l₂, lines ++ noted, hrun, l₂.withLines_withLines lines noted⟩

/-- What a move does that returns: the moments of its runs, and the lesson and the chance it
leaves. -/
inductive Made (l : Lesson) (c : Chance) : Move → List Moment → Lesson → Chance → Prop
  | rejected {move : Move} (h : move.make l c = (.ok none, c)) : Made l c move [] l c
  | played {id : Datum} {copy : Copy} {cost : Int} {p : Payment} {hp cardsPlayed : Quantity}
      {fired : List Effect} {l₁ l₂ l₃ : Lesson} {c₁ c₂ c₃ : Chance}
      {ms₁ ms₂ ms₃ : List Moment} {lines : List String}
      (left : l.isPlayedOut = false) (found : l.findInHand id = some copy)
      (costs : actualCost copy.card l.buffs = .ok cost)
      (payable : l.obstacle copy.card cost = .ok none)
      (pays : Payment.of l copy.card cost = .ok p)
      (hhp : l.hp.sub p.hp = .ok hp) (hplays : l.cardsPlayed.add 1 = .ok cardsPlayed)
      (main : Worked copy.card.effects (l.paying copy p hp cardsPlayed) c ms₁ l₁ c₁)
      (reacting : Worked (l.costReactions p) l₁ c₁ ms₂ l₂ c₂)
      (fires : l₂.firedBy l.waiting copy.card.type = .ok fired)
      (firing : Worked fired l₂ c₂ ms₃ l₃ c₃) :
      Made l c (.play id) (ms₁ ++ ms₂ ++ ms₃) ((l₃.putAway copy).withLines lines) c₃
  | ended {schedule : Schedule} {next l' : Lesson} {c₁ c' : Chance} {ms : List Moment}
      (left : l.isFinished = false) (turns : l.nextTurn schedule c = (.ok next, c₁))
      (starting : Worked (next.reactionsOf .turnStart) next c₁ ms l' c') :
      Made l c (.endTurn schedule) ms l' c'
  | drunk {id : Datum} {drink : Drink} {drinks : List DrinkSlot} {l₁ : Lesson} {c' : Chance}
      {ms : List Moment} {lines : List String}
      (taken : Lesson.takeDrink id l.drinks = some (drink, drinks))
      (drinking : Worked drink.effects { l with drinks } c ms l₁ c') :
      Made l c (.drink id) ms (l₁.withLines lines) c'

theorem mem_reactionsOf {k : EffectKind} {e : Effect} (h : e ∈ l.reactionsOf k) :
    ∃ b ∈ l.buffs, b.triggered = some e := by
  obtain ⟨b, hb, he⟩ := List.mem_filterMap.1 h
  exact ⟨b, (List.mem_filter.1 hb).1, he⟩

theorem mem_costReactions {p : Payment} {e : Effect} (h : e ∈ l.costReactions p) :
    ∃ b ∈ l.buffs, b.triggered = some e := by
  unfold Lesson.costReactions at h
  split at h
  · exact mem_reactionsOf h
  · exact absurd h List.not_mem_nil

theorem mem_filterAuxM {α : Type} {p : α → Except Fault Bool} : ∀ {xs acc ys : List α},
    xs.filterAuxM p acc = .ok ys → ∀ y ∈ ys, y ∈ xs ∨ y ∈ acc
  | [], acc, ys, h, y, hy => by
    cases h
    exact .inr hy
  | x :: xs, acc, ys, h, y, hy => by
    obtain ⟨b, -, h⟩ := Play.except_bind_ok.1 h
    rcases mem_filterAuxM h y hy with hy | hy
    · exact .inl (List.mem_cons_of_mem x hy)
    · cases b with
      | true =>
        refine (List.mem_cons.1 hy).imp_left fun hyx => ?_
        rw [hyx]
        exact List.mem_cons_self
      | false => exact .inr hy

/-- A filter that may fail picks from its list. -/
theorem mem_filterM {α : Type} {p : α → Except Fault Bool} {xs ys : List α}
    (h : xs.filterM p = .ok ys) {y : α} (hy : y ∈ ys) : y ∈ xs := by
  obtain ⟨zs, hz, h⟩ := Play.except_bind_ok.1 h
  obtain rfl := Play.except_pure_ok.1 h
  simpa using mem_filterAuxM hz y (List.mem_reverse.1 hy)

theorem mem_filterAuxM_of {α : Type} {p : α → Except Fault Bool} {y : α} : ∀ {xs acc ys : List α},
    xs.filterAuxM p acc = .ok ys → y ∈ acc ∨ y ∈ xs ∧ p y = .ok true → y ∈ ys
  | [], acc, ys, h, hy => by
    cases h
    exact hy.resolve_right fun hy => absurd hy.1 List.not_mem_nil
  | x :: xs, acc, ys, h, hy => by
    obtain ⟨b, hb, h⟩ := Play.except_bind_ok.1 h
    refine mem_filterAuxM_of h ?_
    rcases hy with hacc | ⟨hxs, hp⟩
    · left
      cases b with
      | true => exact List.mem_cons_of_mem x hacc
      | false => exact hacc
    · rcases List.mem_cons.1 hxs with rfl | hxs
      · left
        rw [hp] at hb
        cases hb
        exact List.mem_cons_self
      · exact .inr ⟨hxs, hp⟩

/-- A filter that may fail picks what passes its test. -/
theorem mem_filterM_of {α : Type} {p : α → Except Fault Bool} {xs ys : List α}
    (h : xs.filterM p = .ok ys) {y : α} (hy : y ∈ xs) (hp : p y = .ok true) : y ∈ ys := by
  obtain ⟨zs, hz, h⟩ := Play.except_bind_ok.1 h
  obtain rfl := Play.except_pure_ok.1 h
  exact List.mem_reverse.2 (mem_filterAuxM_of hz (.inr ⟨hy, hp⟩))

/-- What fires after a card was played waited for it before. -/
theorem mem_fired {type : CardType} {es : List Effect} {e : Effect}
    (h : l'.firedBy l.waiting type = .ok es) (he : e ∈ es) :
    ∃ b ∈ l.buffs, b.triggered = some e := by
  obtain ⟨fired, hf, h⟩ := Play.except_bind_ok.1 h
  obtain rfl := Play.except_pure_ok.1 h
  obtain ⟨b, hb, he⟩ := List.mem_filterMap.1 he
  have hwaiting := (List.mem_filter.1 (mem_filterM hf hb)).1
  exact ⟨b, (List.mem_filter.1 hwaiting).1, he⟩

theorem playPaid_ok {copy : Copy} {cost : Int} {p : Payment}
    (left : l.isPlayedOut = false) {id : Datum} (found : l.findInHand id = some copy)
    (costs : actualCost copy.card l.buffs = .ok cost)
    (payable : l.obstacle copy.card cost = .ok none)
    (pays : Payment.of l copy.card cost = .ok p)
    (h : l.playPaid copy cost p c = (.ok l', c')) : ∃ ms, Made l c (.play id) ms l' c' := by
  unfold Lesson.playPaid at h
  dsimp only at h
  obtain ⟨hp, c₁, hsub, h⟩ := Play.bind_ok.1 h
  obtain ⟨hhp, rfl⟩ := Play.except_ok.1 hsub
  obtain ⟨plays, c₁, hadd, h⟩ := Play.bind_ok.1 h
  obtain ⟨hplays, rfl⟩ := Play.except_ok.1 hadd
  obtain ⟨l₁, c₁, hmain, h⟩ := Play.bind_ok.1 h
  obtain ⟨l₂, c₂, hreact, h⟩ := Play.bind_ok.1 h
  obtain ⟨fired, c₃, hf, h⟩ := Play.bind_ok.1 h
  obtain ⟨hfired, rfl⟩ := Play.except_ok.1 hf
  obtain ⟨l₃, c₃, hfire, h⟩ := Play.bind_ok.1 h
  obtain ⟨line, -, h⟩ := Play.lift_bind_ok.1 h
  obtain ⟨rfl, rfl⟩ := Play.pure_ok.1 h
  obtain ⟨ms₁, main⟩ := applyEffects_ok hmain
  obtain ⟨ms₂, reacting⟩ := react_ok hreact
  obtain ⟨ms₃, firing⟩ := react_ok hfire
  exact ⟨ms₁ ++ ms₂ ++ ms₃,
    .played left found costs payable pays hhp hplays main reacting hfired firing⟩

/-- A play is rejected, or the card is found and paid for. -/
theorem play_ok {id : Datum} {next : Option Lesson} (h : l.play id c = (.ok next, c')) :
    ∃ ms, Made l c (.play id) ms (next.getD l) c' := by
  have hmove : Move.make l (.play id) c = (.ok next, c') := h
  unfold Lesson.play at h
  cases hleft : l.isPlayedOut with
  | true =>
    rw [hleft] at h
    obtain ⟨rfl, rfl⟩ := Play.pure_ok.1 h
    exact ⟨[], .rejected hmove⟩
  | false =>
    rw [hleft] at h
    cases found : l.findInHand id with
    | none =>
      rw [found] at h
      obtain ⟨rfl, rfl⟩ := Play.pure_ok.1 h
      exact ⟨[], .rejected hmove⟩
    | some copy =>
      rw [found] at h
      obtain ⟨cost, c₁, hc, h⟩ := Play.bind_ok.1 h
      obtain ⟨costs, rfl⟩ := Play.except_ok.1 hc
      obtain ⟨obstacle, c₁, ho, h⟩ := Play.bind_ok.1 h
      obtain ⟨payable, rfl⟩ := Play.except_ok.1 ho
      cases obstacle with
      | some o =>
        obtain ⟨rfl, rfl⟩ := Play.pure_ok.1 h
        exact ⟨[], .rejected hmove⟩
      | none =>
        obtain ⟨p, c₁, hpay, h⟩ := Play.bind_ok.1 h
        obtain ⟨pays, rfl⟩ := Play.except_ok.1 hpay
        obtain ⟨l₁, c₁, hplay, h⟩ := Play.bind_ok.1 h
        obtain ⟨rfl, rfl⟩ := Play.pure_ok.1 h
        exact playPaid_ok hleft found costs payable pays hplay

/-- The end of a turn is rejected in the last turn, or the next turn starts. -/
theorem endTurn_ok {schedule : Schedule} {next : Option Lesson}
    (h : l.endTurn schedule c = (.ok next, c')) :
    ∃ ms, Made l c (.endTurn schedule) ms (next.getD l) c' := by
  have hmove : Move.make l (.endTurn schedule) c = (.ok next, c') := h
  unfold Lesson.endTurn at h
  cases hleft : l.isFinished with
  | true =>
    rw [hleft] at h
    obtain ⟨rfl, rfl⟩ := Play.pure_ok.1 h
    exact ⟨[], .rejected hmove⟩
  | false =>
    rw [hleft] at h
    obtain ⟨turned, c₁, turns, h⟩ := Play.bind_ok.1 h
    obtain ⟨l₁, c₂, hreact, h⟩ := Play.bind_ok.1 h
    obtain ⟨rfl, rfl⟩ := Play.pure_ok.1 h
    obtain ⟨ms, starting⟩ := react_ok hreact
    exact ⟨ms, .ended hleft turns starting⟩

/-- Using a drink carries out its effects. -/
theorem drinkUp_ok {drink : Drink} {drinks : List DrinkSlot}
    (h : l.drinkUp drink drinks c = (.ok l', c')) : ∃ ms l₁ line,
      Worked drink.effects { l with drinks } c ms l₁ c' ∧ l' = l₁.withLines [line] := by
  obtain ⟨l₁, c₁, hdrink, h⟩ := Play.bind_ok.1 h
  obtain ⟨name, -, h⟩ := Play.lift_bind_ok.1 h
  obtain ⟨rfl, rfl⟩ := Play.pure_ok.1 h
  obtain ⟨ms, drinking⟩ := applyEffects_ok hdrink
  exact ⟨ms, l₁, _, drinking, rfl⟩

/-- A drink is rejected, or it is there and unused. -/
theorem useDrink_ok {id : Datum} {next : Option Lesson} (h : l.useDrink id c = (.ok next, c')) :
    ∃ ms, Made l c (.drink id) ms (next.getD l) c' := by
  have hmove : Move.make l (.drink id) c = (.ok next, c') := h
  unfold Lesson.useDrink at h
  cases taken : Lesson.takeDrink id l.drinks with
  | none =>
    rw [taken] at h
    obtain ⟨rfl, rfl⟩ := Play.pure_ok.1 h
    exact ⟨[], .rejected hmove⟩
  | some found =>
    obtain ⟨drink, drinks⟩ := found
    rw [taken] at h
    obtain ⟨l₁, c₁, hdrink, h⟩ := Play.bind_ok.1 h
    obtain ⟨rfl, rfl⟩ := Play.pure_ok.1 h
    obtain ⟨ms, l₂, line, drinking, rfl⟩ := drinkUp_ok hdrink
    exact ⟨ms, .drunk taken drinking⟩

/-- **What moves do.** A move that returns is rejected and leaves the lesson as it is, or it is
made. -/
theorem make_ok {move : Move} {next : Option Lesson} (h : move.make l c = (.ok next, c')) :
    ∃ ms, Made l c move ms (next.getD l) c' := by
  cases move with
  | play id => exact play_ok h
  | endTurn schedule => exact endTurn_ok h
  | drink id => exact useDrink_ok h

/-! ### What the end of a turn does -/

/-- The next turn, before the buffs that wait for it. -/
structure Turned (l next : Lesson) : Prop where
  frame : next = { l with
    score := next.score, hp := next.hp, turn := next.turn, turnStat := next.turnStat
    buffs := next.buffs, goodImpression := next.goodImpression, phase := .start
    deck := next.deck, hand := next.hand, discard := next.discard, cardsPlayed := 0
    logs := next.logs }
  hp : next.hp = l.hp ∨ ∃ q, l.hp.add (.whole Balance.skipRecoveryHp) = .ok q ∧
    next.hp = l.maxHp.smaller q
  score : ∃ gained, l.goodImpression.mul (.whole Balance.impressionScorePerStack) = .ok gained ∧
    l.score.add gained = .ok next.score
  turn : l.turn.add 1 = .ok next.turn
  buffs : tickBuffs l.buffs = .ok next.buffs
  goodImpression : ∃ q, l.goodImpression.sub (.whole Balance.impressionDecay) = .ok q ∧
    next.goodImpression = Quantity.larger 0 q
  piles : (next.deck ++ next.discard ++ next.hand).Perm (l.deck ++ (l.discard ++ l.hand))
  hand : ∃ c d c', drawCards l.deck (l.discard ++ l.hand)
    (min Balance.baseDraw Balance.handLimit) [] c = (.ok d, c') ∧ next.hand = d.hand

theorem nextTurn_ok {schedule : Schedule} {next : Lesson}
    (h : l.nextTurn schedule c = (.ok next, c')) : Turned l next ∧ c'.named = c.named := by
  unfold Lesson.nextTurn at h
  obtain ⟨hp, c₁, hx, h⟩ := Play.ite_bind_bind_ok.1 h
  have hhp : (hp = l.hp ∨ ∃ q, l.hp.add (.whole Balance.skipRecoveryHp) = .ok q ∧
      hp = l.maxHp.smaller q) ∧ c = c₁ := by
    split at hx
    · obtain ⟨q, c₂, hq, hx⟩ := Play.bind_ok.1 hx
      obtain ⟨hadd, rfl⟩ := Play.except_ok.1 hq
      obtain ⟨rfl, rfl⟩ := Play.pure_ok.1 hx
      exact ⟨.inr ⟨q, hadd, rfl⟩, rfl⟩
    · obtain ⟨rfl, rfl⟩ := Play.pure_ok.1 hx
      exact ⟨.inl rfl, rfl⟩
  clear hx
  obtain ⟨hhp, rfl⟩ := hhp
  obtain ⟨d, c₁, hd, h⟩ := Play.bind_ok.1 h
  obtain ⟨gained, c₂, hx, h⟩ := Play.bind_ok.1 h
  obtain ⟨hgained, rfl⟩ := Play.except_ok.1 hx
  obtain ⟨turn, c₂, hx, h⟩ := Play.bind_ok.1 h
  obtain ⟨hturn, rfl⟩ := Play.except_ok.1 hx
  obtain ⟨lines, -, h⟩ := Play.lift_bind_ok.1 h
  obtain ⟨score, c₂, hx, h⟩ := Play.bind_ok.1 h
  obtain ⟨hscore, rfl⟩ := Play.except_ok.1 hx
  obtain ⟨turnStat, c₂, hx, h⟩ := Play.bind_ok.1 h
  obtain ⟨-, rfl⟩ := Play.except_ok.1 hx
  obtain ⟨buffs, c₂, hx, h⟩ := Play.bind_ok.1 h
  obtain ⟨hbuffs, rfl⟩ := Play.except_ok.1 hx
  obtain ⟨decayed, c₂, hx, h⟩ := Play.bind_ok.1 h
  obtain ⟨hdecayed, rfl⟩ := Play.except_ok.1 hx
  obtain ⟨rfl, rfl⟩ := Play.pure_ok.1 h
  obtain ⟨hperm, -, hn⟩ := drawCards_spec hd
  exact ⟨⟨rfl, hhp, ⟨gained, hgained, hscore⟩, hturn, hbuffs, ⟨decayed, hdecayed, rfl⟩, hperm,
    _, d, _, hd, rfl⟩, hn⟩

/-! ### Courses -/

/-- A course with its history: the moves that were made, and the moments of their runs. -/
inductive Course : Lesson → Chance → List Move → List Moment → Lesson → Chance → Prop
  | nil (l : Lesson) (c : Chance) : Course l c [] [] l c
  | cons {l l₁ l' : Lesson} {c c₁ c' : Chance} {move : Move} {moves : List Move}
      {ms ms' : List Moment} (first : Made l c move ms l₁ c₁)
      (rest : Course l₁ c₁ moves ms' l' c') : Course l c (move :: moves) (ms ++ ms') l' c'

/-- **A course that returns has a history.** -/
theorem course_ok : ∀ {moves : List Move} {l : Lesson} {c : Chance},
    Lesson.course moves l c = (.ok l', c') → ∃ ms, Course l c moves ms l' c'
  | [], l, c, h => by
    obtain ⟨rfl, rfl⟩ := Play.pure_ok.1 h
    exact ⟨[], .nil l c⟩
  | move :: moves, l, c, h => by
    obtain ⟨next, c₁, hmove, h⟩ := Play.bind_ok.1 h
    obtain ⟨ms, hmade⟩ := make_ok hmove
    obtain ⟨ms', hrest⟩ := course_ok h
    exact ⟨ms ++ ms', .cons hmade hrest⟩

/-- Moves of a kind lead from one lesson to another, whatever each of them draws. -/
inductive Led (P : Move → Prop) (l₀ : Lesson) : Lesson → Prop
  | refl : Led P l₀ l₀
  | made {l : Lesson} {c c' : Chance} {move : Move} {next : Option Lesson} (before : Led P l₀ l)
      (hmove : P move) (h : move.make l c = (.ok next, c')) : Led P l₀ (next.getD l)

/-- A course that returns is one way to be led. -/
theorem Led.course {P : Move → Prop} {l₀ : Lesson} : ∀ {moves : List Move} {l l' : Lesson}
    {c c' : Chance}, Led P l₀ l → (∀ move ∈ moves, P move) →
      Lesson.course moves l c = (.ok l', c') → Led P l₀ l'
  | [], _, _, _, _, hl, _, h => by
    obtain ⟨rfl, rfl⟩ := Play.pure_ok.1 h
    exact hl
  | move :: moves, _, _, _, _, hl, hmoves, h => by
    obtain ⟨next, c₁, hmove, h⟩ := Play.bind_ok.1 h
    exact Led.course (.made hl (hmoves move List.mem_cons_self) hmove)
      (fun m hm => hmoves m (List.mem_cons_of_mem move hm)) h

/-! ### What moves hand on -/

variable {p : Operation → Bool} {T : Trait} {ms : List Moment}

/-- A lesson whose cards, buffs and drinks are among those of another one bears what that does. -/
theorem Lesson.Bears.of_among (hT : T.HandedOn) (hl : l.Bears T) (hz : ∀ x ∈ l'.zones, x ∈ l.zones)
    (hc : l'.catalog = l.catalog) (hb : StemFrom l'.buffs l.buffs)
    (hd : ∀ slot ∈ l'.drinks, ∃ slot₀ ∈ l.drinks, slot.drink = slot₀.drink) : l'.Bears T where
  zones x hx := hl.zones x (hz x hx)
  catalog := by
    rw [hc]
    exact hl.catalog
  buffs b hb' := by
    obtain ⟨b₀, hb₀, hof⟩ := hb b hb'
    exact hT.aged (hl.buffs b₀ hb₀) hof
  drinks slot hslot := by
    obtain ⟨slot₀, hslot₀, heq⟩ := hd slot hslot
    rw [heq]
    exact hl.drinks slot₀ hslot₀

theorem drinks_refl (l : Lesson) :
    ∀ slot ∈ l.drinks, ∃ slot₀ ∈ l.drinks, slot.drink = slot₀.drink :=
  fun slot h => ⟨slot, h, rfl⟩

theorem Lesson.Bears.withLines (hl : l.Bears T) (lines : List String) :
    (l.withLines lines).Bears T := ⟨hl.zones, hl.catalog, hl.buffs, hl.drinks⟩

theorem Worked.bears {es : List Effect} (hw : Worked es l c ms l' c') (hT : T.HandedOn)
    (hl : l.Bears T) (hes : ∀ e ∈ es, T.effect e) :
    l'.Bears T ∧ ∀ m ∈ ms, m.lesson.Bears T ∧ T.task m.task := by
  obtain ⟨l₁, lines, hrun, rfl⟩ := hw
  obtain ⟨hl₁, -, hms⟩ := hrun.bears hT hl fun t ht => by
    obtain ⟨e, he, rfl⟩ := List.mem_map.1 ht
    exact hes e he
  exact ⟨hl₁.withLines lines, hms⟩

theorem Lesson.Bears.of_triggered (hT : T.HandedOn) (hl : l.Bears T) {e : Effect}
    (he : ∃ b ∈ l.buffs, b.triggered = some e) : T.effect e := by
  obtain ⟨b, hb, htr⟩ := he
  exact hT.ofBuff (hl.buffs b hb) e htr

theorem mem_of_findInHand {id : Datum} {copy : Copy} (h : l.findInHand id = some copy) :
    copy ∈ l.hand := List.mem_of_find?_eq_some h

theorem mem_zones_paying {copy x : Copy} {pay : Payment} {hp plays : Quantity}
    (hx : x ∈ (l.paying copy pay hp plays).zones) : x ∈ l.zones := by
  rcases mem_zones.1 hx with hx | hx | hx
  · exact mem_zones.2 (.inl hx)
  · exact mem_zones_of_mem_hand ((removeCopy_sublist l.hand copy).mem hx)
  · exact mem_zones.2 (.inr (.inr hx))

theorem mem_zones_putAway {copy x : Copy} (hx : x ∈ (l.putAway copy).zones) :
    x ∈ l.zones ∨ x = copy := by
  unfold Lesson.putAway at hx
  split at hx <;> simp only [mem_zones, List.mem_append, List.mem_singleton] at hx ⊢ <;> tauto

theorem takeDrink_among {id : Datum} : ∀ {slots drinks : List DrinkSlot} {drink : Drink},
    Lesson.takeDrink id slots = some (drink, drinks) →
      (∃ slot ∈ slots, slot.drink = drink) ∧
        ∀ slot ∈ drinks, ∃ slot₀ ∈ slots, slot.drink = slot₀.drink
  | [], _, _, h => by cases h
  | slot :: slots, drinks, drink, h => by
    rw [Lesson.takeDrink] at h
    split at h
    · cases h
      refine ⟨⟨slot, List.mem_cons_self, rfl⟩, fun s hs => ?_⟩
      rcases List.mem_cons.1 hs with rfl | hs
      · exact ⟨slot, List.mem_cons_self, rfl⟩
      · exact ⟨s, List.mem_cons_of_mem slot hs, rfl⟩
    · obtain ⟨⟨d, rest⟩, hrest, h⟩ := Option.map_eq_some_iff.1 h
      cases h
      obtain ⟨⟨s₀, hs₀, hd⟩, hamong⟩ := takeDrink_among hrest
      refine ⟨⟨s₀, List.mem_cons_of_mem slot hs₀, hd⟩, fun s hs => ?_⟩
      rcases List.mem_cons.1 hs with rfl | hs
      · exact ⟨s, List.mem_cons_self, rfl⟩
      · obtain ⟨s₁, hs₁, heq⟩ := hamong s hs
        exact ⟨s₁, List.mem_cons_of_mem slot hs₁, heq⟩

theorem Lesson.Bears.paying (hT : T.HandedOn) (hl : l.Bears T) {copy : Copy} {pay : Payment}
    {hp plays : Quantity} : (l.paying copy pay hp plays).Bears T :=
  hl.of_among hT (fun _ => mem_zones_paying) rfl (.refl _) (drinks_refl l)

theorem Lesson.Bears.putAway (hl : l.Bears T) {copy : Copy} (hcopy : T.card copy) :
    (l.putAway copy).Bears T := by
  refine ⟨fun x hx => ?_, ?_, ?_, ?_⟩
  · rcases mem_zones_putAway hx with hx | rfl
    · exact hl.zones x hx
    · exact hcopy
  · unfold Lesson.putAway
    split <;> exact hl.catalog
  · unfold Lesson.putAway
    split <;> exact hl.buffs
  · unfold Lesson.putAway
    split <;> exact hl.drinks

theorem Lesson.Bears.turned (hT : T.HandedOn) (hl : l.Bears T) {next : Lesson} (h : Turned l next) :
    next.Bears T := by
  refine hl.of_among hT (fun x hx => ?_) (by rw [h.frame]) (tickBuffs_stem h.buffs) ?_
  · have hmem := h.piles.mem_iff (a := x)
    have hhold : next.onHold = l.onHold := by rw [h.frame]
    have hexcl : next.excluded = l.excluded := by rw [h.frame]
    simp only [List.mem_append] at hmem
    simp only [mem_zones, hhold, hexcl] at hx ⊢
    tauto
  · rw [h.frame]
    exact drinks_refl l

theorem Lesson.Bears.drinking (hT : T.HandedOn) (hl : l.Bears T) {id : Datum} {drink : Drink}
    {drinks : List DrinkSlot} (taken : Lesson.takeDrink id l.drinks = some (drink, drinks)) :
    ({ l with drinks } : Lesson).Bears T ∧ ∀ e ∈ drink.effects, T.effect e := by
  obtain ⟨⟨slot, hslot, hdrink⟩, hamong⟩ := takeDrink_among taken
  refine ⟨hl.of_among hT (fun _ h => h) rfl (.refl _) hamong, ?_⟩
  rw [← hdrink]
  exact hl.drinks slot hslot

/-- A move from a lesson that bears a trait carries out only effects of that trait, and leaves a
lesson that bears it. -/
theorem Made.bears {move : Move} (h : Made l c move ms l' c') (hT : T.HandedOn) (hl : l.Bears T) :
    l'.Bears T ∧ ∀ m ∈ ms, m.lesson.Bears T ∧ T.task m.task := by
  cases h with
  | rejected _ => exact ⟨hl, fun m hm => absurd hm List.not_mem_nil⟩
  | @played id copy cost pay hp plays fired l₁ l₂ l₃ c₁ c₂ c₃ ms₁ ms₂ ms₃ lines _ found _ _ _ _ _
      main reacting fires firing =>
    have hcopy : T.card copy := hl.zones copy (mem_zones_of_mem_hand (mem_of_findInHand found))
    obtain ⟨hl₁, hms₁⟩ := main.bears hT (hl.paying hT) (hT.ofCard hcopy)
    obtain ⟨hl₂, hms₂⟩ :=
      reacting.bears hT hl₁ fun e he => hl.of_triggered hT (mem_costReactions he)
    obtain ⟨hl₃, hms₃⟩ := firing.bears hT hl₂ fun e he => hl.of_triggered hT (mem_fired fires he)
    refine ⟨(hl₃.putAway hcopy).withLines lines, fun m hm => ?_⟩
    simp only [List.mem_append, or_assoc] at hm
    rcases hm with hm | hm | hm
    · exact hms₁ m hm
    · exact hms₂ m hm
    · exact hms₃ m hm
  | @ended schedule next _ c₁ _ _ _ turns starting =>
    have hnext := hl.turned hT (nextTurn_ok turns).1
    exact starting.bears hT hnext fun e he => hnext.of_triggered hT (mem_reactionsOf he)
  | @drunk id drink drinks l₁ _ _ lines taken drinking =>
    obtain ⟨hdrinks, hdrink⟩ := hl.drinking hT taken
    obtain ⟨hl₁, hms⟩ := drinking.bears hT hdrinks hdrink
    exact ⟨hl₁.withLines lines, hms⟩

/-- A course from a lesson that bears a trait carries out only effects of that trait. -/
theorem Course.bears {moves : List Move} (h : Course l c moves ms l' c') (hT : T.HandedOn)
    (hl : l.Bears T) : l'.Bears T ∧ ∀ m ∈ ms, m.lesson.Bears T ∧ T.task m.task := by
  induction h with
  | nil => exact ⟨hl, fun m hm => absurd hm List.not_mem_nil⟩
  | cons first _ ih =>
    obtain ⟨hl₁, hfirst⟩ := first.bears hT hl
    obtain ⟨hend, hrest⟩ := ih hl₁
    refine ⟨hend, fun m hm => ?_⟩
    rcases List.mem_append.1 hm with hm | hm
    · exact hfirst m hm
    · exact hrest m hm

/-- A lesson that moves lead to bears what the lesson does that they lead from. -/
theorem Led.bears {P : Move → Prop} {l₀ : Lesson} (h : Led P l₀ l) (hT : T.HandedOn)
    (hl : l₀.Bears T) : l.Bears T := by
  induction h with
  | refl => exact hl
  | made _ _ hmade ih =>
    obtain ⟨ms, hmade⟩ := make_ok hmade
    exact (hmade.bears hT ih).1

/-! ### What moves carry -/

theorem Lesson.Carries.of_triggered (hl : l.Carries p) {e : Effect}
    (he : ∃ b ∈ l.buffs, b.triggered = some e) : e.every p = true :=
  (carries_iff.1 hl).of_triggered (passing_handedOn p) he

theorem Lesson.Carries.paying (hl : l.Carries p) {copy : Copy} {pay : Payment}
    {hp plays : Quantity} : (l.paying copy pay hp plays).Carries p :=
  carries_iff.2 ((carries_iff.1 hl).paying (passing_handedOn p))

theorem Lesson.Carries.turned (hl : l.Carries p) {next : Lesson} (h : Turned l next) :
    next.Carries p :=
  carries_iff.2 ((carries_iff.1 hl).turned (passing_handedOn p) h)

theorem Lesson.Carries.drinking (hl : l.Carries p) {id : Datum} {drink : Drink}
    {drinks : List DrinkSlot} (taken : Lesson.takeDrink id l.drinks = some (drink, drinks)) :
    ({ l with drinks } : Lesson).Carries p ∧ Effect.everyOf p drink.effects = true := by
  rw [carries_iff, Effect.everyOf_iff]
  exact (carries_iff.1 hl).drinking (passing_handedOn p) taken

theorem Worked.carries {es : List Effect} (hw : Worked es l c ms l' c') (hl : l.Carries p)
    (hes : ∀ e ∈ es, e.every p = true) : l'.Carries p :=
  carries_iff.2 (hw.bears (passing_handedOn p) (carries_iff.1 hl) hes).1

/-- A move from a lesson that passes a test carries out only effects that do, and leaves a lesson
that does. -/
theorem Made.carries {move : Move} (h : Made l c move ms l' c') (hl : l.Carries p) :
    l'.Carries p ∧ ∀ m ∈ ms, m.lesson.Carries p ∧ m.task.every p = true := by
  simp only [carries_iff, ← passing_task] at hl ⊢
  exact h.bears (passing_handedOn p) hl

/-- A course from a lesson that passes a test carries out only effects that do. -/
theorem Course.carries {moves : List Move} (h : Course l c moves ms l' c') (hl : l.Carries p) :
    l'.Carries p ∧ ∀ m ∈ ms, m.lesson.Carries p ∧ m.task.every p = true := by
  simp only [carries_iff, ← passing_task] at hl ⊢
  exact h.bears (passing_handedOn p) hl

end CardLesson
