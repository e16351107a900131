/-
# Rejected moves are invisible

A move is rejected in a few cases that can be told from the lesson alone, and then nothing is drawn.
So the rejected moves of a sequence can be left out: those that are kept lead to the same lesson and
to the same chance.

An accepted move, whatever its effects do to the numbers of the lesson and undo again, ends with a
line in the log, and nothing takes lines out of the log. So an accepted move always changes the
lesson, and the answer that a session gives to a move says whether its lesson has changed.

Key definitions: `Move.Rejected`, `Lesson.LogsOn`, `Lesson.acceptedOf`, `Likeness`.
Key theorems: `make_none_iff`, `make_some_logs`, `course_acceptedOf`, `Host.Makes.answer`,
`rejected_moves_are_invisible`.
-/
import CardLesson.Proofs.Trace
import CardLesson.Session

namespace CardLesson

variable {l l₁ l' : Lesson} {c c₁ c' : Chance} {move : Move} {moves : List Move}

/-! ### When a move is rejected -/

/-- A move is rejected: a play when the plays of the turn are used up, when no card of the hand has
its id or when the card cannot be paid for, an end of turn in the last turn, and a drink when all
drinks with its id are used. -/
def Move.Rejected (l : Lesson) : Move → Prop
  | .play id => l.isPlayedOut = true ∨ l.findInHand id = none ∨ ∃ copy cost o,
      l.findInHand id = some copy ∧ actualCost copy.card l.buffs = .ok cost ∧
        l.obstacle copy.card cost = .ok (some o)
  | .endTurn _ => l.isFinished = true
  | .drink id => ∀ slot ∈ l.drinks, slot.drink.id.same id = true → slot.used = true

/-- Returning nothing, where a move is rejected. -/
theorem nothing_iff {p : Prop} (hp : p) :
    (pure none : Play (Option Lesson)) c = (.ok none, c') ↔ p ∧ c' = c := by
  rw [Play.pure_ok]
  exact ⟨fun h => ⟨hp, h.2.symm⟩, fun h => ⟨rfl, h.2.symm⟩⟩

/-- What ends with a lesson returns one, where a move is not rejected. -/
theorem something_iff {p : Prop} (hp : ¬p) {x : Play Lesson} {f : Lesson → Lesson} :
    (do return some (f (← x)) : Play (Option Lesson)) c = (.ok none, c') ↔ p ∧ c' = c := by
  constructor
  · intro h
    obtain ⟨l₁, c₁, -, h⟩ := Play.bind_ok.1 h
    cases (Play.pure_ok.1 h).1
  · exact fun h => absurd h.1 hp

/-- A card that is in the hand, while plays are left, is rejected when it cannot be paid for. -/
theorem rejected_play_iff {id : Datum} {copy : Copy} (left : l.isPlayedOut = false)
    (found : l.findInHand id = some copy) : Move.Rejected l (.play id) ↔
      ∃ cost o, actualCost copy.card l.buffs = .ok cost ∧
        l.obstacle copy.card cost = .ok (some o) := by
  show (_ ∨ _ ∨ ∃ copy cost o, l.findInHand id = some copy ∧ _) ↔ _
  rw [left, found]
  constructor
  · rintro (hno | hno | ⟨copy', cost, o, hcopy, costs, unpaid⟩)
    · cases hno
    · cases hno
    · obtain rfl := Option.some.inj hcopy
      exact ⟨cost, o, costs, unpaid⟩
  · rintro ⟨cost, o, costs, unpaid⟩
    exact .inr (.inr ⟨copy, cost, o, rfl, costs, unpaid⟩)

theorem play_none_iff {id : Datum} :
    l.play id c = (.ok none, c') ↔ Move.Rejected l (.play id) ∧ c' = c := by
  unfold Lesson.play
  cases left : l.isPlayedOut with
  | true => exact nothing_iff (.inl left)
  | false =>
    rw [if_neg Bool.false_ne_true]
    cases found : l.findInHand id with
    | none => exact nothing_iff (.inr (.inl found))
    | some copy =>
      rw [rejected_play_iff left found]
      simp only [Play.bind_ok, Play.except_ok]
      constructor
      · rintro ⟨cost, c₁, ⟨costs, rfl⟩, obstacle, c₂, ⟨payable, rfl⟩, h⟩
        cases obstacle with
        | some o => exact (nothing_iff ⟨cost, o, costs, payable⟩).1 h
        | none =>
          obtain ⟨p, c₂, -, h⟩ := Play.bind_ok.1 h
          exact absurd ((something_iff not_false).1 h).1 not_false
      · rintro ⟨⟨cost, o, costs, unpaid⟩, rfl⟩
        exact ⟨cost, c', ⟨costs, rfl⟩, some o, c', ⟨unpaid, rfl⟩, rfl⟩

theorem endTurn_none_iff {schedule : Schedule} :
    l.endTurn schedule c = (.ok none, c') ↔ Move.Rejected l (.endTurn schedule) ∧ c' = c := by
  unfold Lesson.endTurn
  cases last : l.isFinished with
  | true => exact nothing_iff last
  | false =>
    have hgoes : ¬Move.Rejected l (.endTurn schedule) := by
      show ¬l.isFinished = true
      rw [last]
      exact Bool.false_ne_true
    rw [if_neg Bool.false_ne_true]
    constructor
    · intro h
      obtain ⟨next, c₁, -, h⟩ := Play.bind_ok.1 h
      exact absurd ((something_iff not_false).1 h).1 not_false
    · exact fun h => absurd h.1 hgoes

/-- No drink is taken when all that have the id are used. -/
theorem takeDrink_none_iff (id : Datum) : ∀ slots : List DrinkSlot,
    Lesson.takeDrink id slots = none ↔
      ∀ slot ∈ slots, slot.drink.id.same id = true → slot.used = true
  | [] => by simp [Lesson.takeDrink]
  | slot :: slots => by
    have ih := takeDrink_none_iff id slots
    rw [Lesson.takeDrink, List.forall_mem_cons, ← ih]
    by_cases hsame : slot.drink.id.same id = true
    · by_cases hused : slot.used = true
      · simp [hsame, hused]
      · simp [hsame, hused]
    · simp [hsame]

theorem useDrink_none_iff {id : Datum} :
    l.useDrink id c = (.ok none, c') ↔ Move.Rejected l (.drink id) ∧ c' = c := by
  have htake := takeDrink_none_iff id l.drinks
  unfold Lesson.useDrink
  cases taken : Lesson.takeDrink id l.drinks with
  | none => exact nothing_iff (htake.1 taken)
  | some found =>
    refine something_iff fun hall => ?_
    rw [htake.2 hall] at taken
    cases taken

/-- **When a move is rejected**: it returns no lesson just when the lesson rejects it, and then
nothing is drawn. -/
theorem make_none_iff : move.make l c = (.ok none, c') ↔ move.Rejected l ∧ c' = c := by
  cases move with
  | play id => exact play_none_iff
  | endTurn schedule => exact endTurn_none_iff
  | drink id => exact useDrink_none_iff

/-! ### What accepted moves leave in the log -/

/-- The log has lines after those it had. -/
def Lesson.LogsOn (l l' : Lesson) : Prop := ∃ lines, lines ≠ [] ∧ l'.logs = l.logs ++ lines

/-- Carrying out effects touches no log; their lines are written when all is done. -/
theorem Reaches.logs_eq {s s' : Stage} {ms : List Moment} (h : Reaches s ms s') :
    s'.lesson.logs = s.lesson.logs := by
  rw [h.frame]
  rfl

theorem Worked.logs_prefix {es : List Effect} {ms : List Moment} (h : Worked es l c ms l' c') :
    l.logs <+: l'.logs := by
  obtain ⟨l₁, lines, hrun, rfl⟩ := h
  have hlogs : l₁.logs = l.logs := hrun.logs_eq
  rw [Lesson.logs_withLines, hlogs]
  exact List.prefix_append l.logs lines

theorem applyEffects_logs {es : List Effect} (h : applyEffects es l c = (.ok l', c')) :
    l.logs <+: l'.logs := by
  obtain ⟨ms, hworked⟩ := applyEffects_ok h
  exact hworked.logs_prefix

theorem react_logs {es : List Effect} {notes : Except Fault (List String)}
    (h : Lesson.react es notes l c = (.ok l', c')) : l.logs <+: l'.logs := by
  obtain ⟨ms, hworked⟩ := react_ok h
  exact hworked.logs_prefix

theorem Lesson.logs_putAway (l : Lesson) (copy : Copy) : (l.putAway copy).logs = l.logs := by
  unfold Lesson.putAway
  split <;> rfl

/-- A line after a log that was only added to is a new line. -/
theorem Lesson.LogsOn.withLine (h : l.logs <+: l₁.logs) (line : String) :
    l.LogsOn (l₁.withLines [line]) := by
  obtain ⟨lines, hlines⟩ := h
  refine ⟨lines ++ [line], by simp, ?_⟩
  rw [Lesson.logs_withLines, ← hlines, List.append_assoc]

theorem playPaid_logs {copy : Copy} {cost : Int} {p : Payment}
    (h : l.playPaid copy cost p c = (.ok l', c')) : l.LogsOn l' := by
  unfold Lesson.playPaid at h
  dsimp only at h
  obtain ⟨hp, c₁, -, h⟩ := Play.bind_ok.1 h
  obtain ⟨plays, c₂, -, h⟩ := Play.bind_ok.1 h
  obtain ⟨l₁, c₃, hmain, h⟩ := Play.bind_ok.1 h
  obtain ⟨l₂, c₄, hreact, h⟩ := Play.bind_ok.1 h
  obtain ⟨fired, c₅, -, h⟩ := Play.bind_ok.1 h
  obtain ⟨l₃, c₆, hfire, h⟩ := Play.bind_ok.1 h
  obtain ⟨line, -, h⟩ := Play.lift_bind_ok.1 h
  obtain ⟨rfl, rfl⟩ := Play.pure_ok.1 h
  have hlogs : l.logs <+: l₃.logs :=
    ((applyEffects_logs hmain).trans (react_logs hreact)).trans (react_logs hfire)
  rw [← l₃.logs_putAway copy] at hlogs
  exact .withLine hlogs _

theorem turnNotes_ne_nil {gained turn : Quantity} {skipped : Bool} {lines : List String}
    (h : Lesson.turnNotes gained turn skipped = .ok lines) : lines ≠ [] := by
  obtain ⟨scored, -, h⟩ := Play.except_ite_bind_bind_ok.1 h
  obtain ⟨number, -, h⟩ := Play.except_bind_ok.1 h
  obtain rfl := Play.except_pure_ok.1 h
  exact List.append_ne_nil_of_right_ne_nil scored (List.cons_ne_nil _ [])

/-- The next turn begins with a line of its own. -/
theorem nextTurn_logs {schedule : Schedule} (h : l.nextTurn schedule c = (.ok l', c')) :
    l.LogsOn l' := by
  unfold Lesson.nextTurn at h
  obtain ⟨hp, c₁, -, h⟩ := Play.ite_bind_bind_ok.1 h
  obtain ⟨d, c₂, -, h⟩ := Play.bind_ok.1 h
  obtain ⟨gained, c₃, -, h⟩ := Play.bind_ok.1 h
  obtain ⟨turn, c₄, -, h⟩ := Play.bind_ok.1 h
  obtain ⟨lines, hlines, h⟩ := Play.lift_bind_ok.1 h
  obtain ⟨score, c₅, -, h⟩ := Play.bind_ok.1 h
  obtain ⟨turnStat, c₆, -, h⟩ := Play.bind_ok.1 h
  obtain ⟨buffs, c₇, -, h⟩ := Play.bind_ok.1 h
  obtain ⟨decayed, c₈, -, h⟩ := Play.bind_ok.1 h
  obtain ⟨rfl, rfl⟩ := Play.pure_ok.1 h
  exact ⟨lines, turnNotes_ne_nil hlines, rfl⟩

theorem play_some_logs {id : Datum} (h : l.play id c = (.ok (some l'), c')) : l.LogsOn l' := by
  unfold Lesson.play at h
  cases left : l.isPlayedOut with
  | true =>
    rw [left] at h
    cases (Play.pure_ok.1 h).1
  | false =>
    rw [left] at h
    cases found : l.findInHand id with
    | none =>
      rw [found] at h
      cases (Play.pure_ok.1 h).1
    | some copy =>
      rw [found] at h
      obtain ⟨cost, c₁, -, h⟩ := Play.bind_ok.1 h
      obtain ⟨obstacle, c₂, -, h⟩ := Play.bind_ok.1 h
      cases obstacle with
      | some o => cases (Play.pure_ok.1 h).1
      | none =>
        obtain ⟨p, c₃, -, h⟩ := Play.bind_ok.1 h
        obtain ⟨played, c₄, hpaid, h⟩ := Play.bind_ok.1 h
        obtain ⟨heq, rfl⟩ := Play.pure_ok.1 h
        obtain rfl := Option.some.inj heq
        exact playPaid_logs hpaid

theorem endTurn_some_logs {schedule : Schedule} (h : l.endTurn schedule c = (.ok (some l'), c')) :
    l.LogsOn l' := by
  obtain ⟨next, c₁, ms, hturn, hworked⟩ := endTurn_accepted h
  obtain ⟨lines, hne, hlines⟩ := nextTurn_logs hturn
  obtain ⟨more, hmore⟩ := hworked.logs_prefix
  refine ⟨lines ++ more, List.append_ne_nil_of_left_ne_nil hne more, ?_⟩
  rw [← hmore, hlines, List.append_assoc]

theorem useDrink_some_logs {id : Datum} (h : l.useDrink id c = (.ok (some l'), c')) :
    l.LogsOn l' := by
  unfold Lesson.useDrink at h
  cases taken : Lesson.takeDrink id l.drinks with
  | none =>
    rw [taken] at h
    cases (Play.pure_ok.1 h).1
  | some found =>
    rw [taken] at h
    obtain ⟨l₁, c₁, hdrink, h⟩ := Play.bind_ok.1 h
    obtain ⟨heq, rfl⟩ := Play.pure_ok.1 h
    obtain rfl := Option.some.inj heq
    obtain ⟨ms, l₂, line, hworked, rfl⟩ := drinkUp_ok hdrink
    exact .withLine hworked.logs_prefix line

/-- **An accepted move is seen in the log**, which has new lines after those it had. -/
theorem make_some_logs (h : move.make l c = (.ok (some l'), c')) : l.LogsOn l' := by
  cases move with
  | play id => exact play_some_logs h
  | endTurn schedule => exact endTurn_some_logs h
  | drink id => exact useDrink_some_logs h

/-! ### Whether two lessons are alike -/

/-- A notion of lessons that are equal as values: each is like itself, and lessons that are alike
have the same log. -/
structure Likeness (alike : Lesson → Lesson → Prop) : Prop where
  refl : ∀ l, alike l l
  logs : ∀ l l', alike l l' → l.logs = l'.logs

variable {alike : Lesson → Lesson → Prop}

/-- Lessons that are the same in every field are equal as values. -/
theorem likeness_eq : Likeness (· = ·) := ⟨fun _ => rfl, fun _ _ h => congrArg Lesson.logs h⟩

/-- A lesson whose log has new lines is unlike the one before it. -/
theorem Likeness.not_of_logsOn (h : Likeness alike) (hlogs : l.LogsOn l') : ¬alike l' l := by
  obtain ⟨lines, hne, hlines⟩ := hlogs
  intro hsame
  have heq : l.logs ++ lines = l.logs := by rw [← hlines, h.logs l' l hsame]
  exact hne (List.append_right_eq_self.1 heq)

/-- A move is rejected just when the lesson after it is like the one before it. -/
theorem Likeness.rejected_iff {next : Option Lesson} (h : Likeness alike)
    (hmove : move.make l c = (.ok next, c')) : next = none ↔ alike (next.getD l) l := by
  cases next with
  | none => exact iff_of_true rfl (h.refl l)
  | some l' => exact iff_of_false nofun (h.not_of_logsOn (make_some_logs hmove))

/-! ### Leaving out what is rejected -/

/-- The moves of a sequence that are accepted when it is made. -/
def Lesson.acceptedOf : List Move → Lesson → Play (List Move)
  | [], _ => return []
  | move :: moves, l => do
    match ← move.make l with
    | none => acceptedOf moves l
    | some l₁ => return move :: (← acceptedOf moves l₁)

/-- A sequence of accepted moves is a course. -/
theorem Accepted.course (h : Accepted l c moves l' c') :
    Lesson.course moves l c = (.ok l', c') := by
  induction h with
  | nil => rfl
  | cons first _ ih => exact Play.bind_ok.2 ⟨_, _, first, ih⟩

/-- The accepted moves of a course that returns lead where it leads. -/
theorem course_acceptedOf : ∀ {moves : List Move} {l : Lesson} {c : Chance},
    Lesson.course moves l c = (.ok l', c') →
      ∃ kept, Lesson.acceptedOf moves l c = (.ok kept, c') ∧ kept.Sublist moves ∧
        Accepted l c kept l' c'
  | [], l, c, h => by
    obtain ⟨rfl, rfl⟩ := Play.pure_ok.1 h
    exact ⟨[], rfl, .slnil, .nil l c⟩
  | move :: moves, l, c, h => by
    obtain ⟨next, c₁, hmove, h⟩ := Play.bind_ok.1 h
    obtain ⟨kept, hkept, hsub, haccepted⟩ := course_acceptedOf h
    cases next with
    | none =>
      obtain ⟨-, rfl⟩ := make_none_iff.1 hmove
      exact ⟨kept, Play.bind_ok.2 ⟨none, c₁, hmove, hkept⟩, hsub.cons move, haccepted⟩
    | some l₁ =>
      exact ⟨move :: kept,
        Play.bind_ok.2 ⟨some l₁, c₁, hmove, Play.bind_ok.2 ⟨kept, c', hkept, rfl⟩⟩,
        hsub.cons_cons move, .cons hmove haccepted⟩

/-! ### The answer of a session -/

namespace Host

variable {id : String} {host host' : Host} {s : Session} {flag : Bool}
  {step : Session → Play (Option Lesson)}

/-- The session that takes the place of another one is found under its id. -/
theorem find?_replace_self {t : Session} (h : host.find? id = some s) (ht : t.id = s.id) :
    (host.replace t).find? id = some t := by
  have hid : t.id = id := by simpa [ht] using List.find?_some h
  simp only [find?, replace] at h ⊢
  generalize host.sessions = sessions at h ⊢
  induction sessions with
  | nil => cases h
  | cons u rest ih =>
    rw [List.map_cons, List.find?_cons]
    rw [List.find?_cons] at h
    by_cases hu : u.id = t.id
    · simp [hu, hid]
    · have hne : (u.id == id) = false := by simpa [hid] using hu
      rw [if_neg hu, hne]
      rw [hne] at h
      exact ih h

/-- A move that a session answers to was made on its lesson, and the lesson that it leaves is kept
under the id. -/
theorem move_ok (hfind : host.find? id = some s) (h : Host.move id step host = (.ok flag, host')) :
    ∃ next c' s', step s ⟨s.source, host.named⟩ = (.ok next, c') ∧ flag = next.isSome ∧
      host'.find? id = some s' ∧ s'.lesson = next.getD s.lesson := by
  unfold Host.move at h
  rw [hfind] at h
  dsimp only at h
  rcases hstep : step s ⟨s.source, host.named⟩ with ⟨f | _ | lesson, c'⟩
  · rw [hstep] at h
    cases h
  · rw [hstep] at h
    cases h
    exact ⟨none, c', _, rfl, rfl, find?_replace_self hfind rfl, rfl⟩
  · rw [hstep] at h
    cases h
    exact ⟨some lesson, c', _, rfl, rfl, find?_replace_self hfind rfl, rfl⟩

/-- What a host does for a session is one of the three moves. -/
def Makes (id : String) (action : Hosting Bool) : Prop :=
  (∃ card, action = play id card) ∨ action = endTurn id ∨ ∃ drink, action = useDrink id drink

/-- The answer to a move says whether the lesson of the session has changed. -/
theorem Makes.answer {action : Hosting Bool} (haction : Makes id action) (halike : Likeness alike)
    (hfind : host.find? id = some s) (h : action host = (.ok flag, host')) :
    ∃ s', host'.find? id = some s' ∧ (flag = true ↔ ¬alike s'.lesson s.lesson) := by
  have answer (make : Session → Move)
      (h : Host.move id (fun s => (make s).make s.lesson) host = (.ok flag, host')) :
      ∃ s', host'.find? id = some s' ∧ (flag = true ↔ ¬alike s'.lesson s.lesson) := by
    obtain ⟨next, c', s', hmove, rfl, hfind', hlesson⟩ := move_ok hfind h
    refine ⟨s', hfind', ?_⟩
    rw [hlesson, ← halike.rejected_iff hmove]
    cases next <;> simp
  rcases haction with ⟨card, rfl⟩ | rfl | ⟨drink, rfl⟩
  · exact answer (fun _ => .play card) h
  · exact answer (fun s => .endTurn s.schedule) h
  · exact answer (fun _ => .drink drink) h

end Host

/-- **Rejected moves are invisible.** When a sequence of moves returns, the moves of it that are
accepted lead to the same lesson and to the same chance. Whenever a move returns, it is rejected
just when the lesson is one that rejects it, and just when the lesson is the same as before; so the
answer of a session says for each move whether its lesson is another one. -/
theorem rejected_moves_are_invisible (halike : Likeness alike)
    (h : Lesson.course moves l c = (.ok l', c')) :
    (∃ kept, Lesson.acceptedOf moves l c = (.ok kept, c') ∧ kept.Sublist moves ∧
      Accepted l c kept l' c' ∧ Lesson.course kept l c = (.ok l', c')) ∧
    (∀ (move : Move) (l : Lesson) (c c' : Chance) (next : Option Lesson),
      move.make l c = (.ok next, c') →
        (next = none ↔ move.Rejected l) ∧ (next = none ↔ alike (next.getD l) l) ∧
          (next = none → c' = c)) ∧
    ∀ (id : String) (action : Hosting Bool) (host host' : Host) (s : Session) (flag : Bool),
      Host.Makes id action → host.find? id = some s → action host = (.ok flag, host') →
        ∃ s', host'.find? id = some s' ∧ (flag = true ↔ ¬alike s'.lesson s.lesson) := by
  refine ⟨?_, fun move l c c' next hmove => ⟨⟨?_, ?_⟩, halike.rejected_iff hmove, ?_⟩,
    fun id action host host' s flag haction hfind hanswer =>
      haction.answer halike hfind hanswer⟩
  · obtain ⟨kept, hkept, hsub, haccepted⟩ := course_acceptedOf h
    exact ⟨kept, hkept, hsub, haccepted, haccepted.course⟩
  · rintro rfl
    exact (make_none_iff.1 hmove).1
  · intro hrejected
    have hnone := make_none_iff (c := c).2 ⟨hrejected, rfl⟩
    rw [hmove] at hnone
    cases hnone
    rfl
  · rintro rfl
    exact (make_none_iff.1 hmove).2

/-- A lesson with one card in the hand. -/
def oneCardLesson : Lesson := { hand := [⟨.dealt 0, .plain "a"⟩] }

/-- A host that keeps this lesson in a session. -/
def oneCardHost : Host :=
  { sessions := [⟨"s", oneCardLesson, [], stillChance.source, .real .zero, none⟩], opened := 1 }

/-- The card is played, asked for once more and put away by the end of the turn: without the second
play, which is rejected, the lesson comes to the same. In a session the first play is answered with
yes, as the lesson is another one then. -/
theorem second_play_is_invisible : ∃ l c kept host',
    Lesson.course [.play (.text "a"), .play (.text "a"), .endTurn []] oneCardLesson stillChance =
        (.ok l, c) ∧
      kept.length = 2 ∧ Lesson.course kept oneCardLesson stillChance = (.ok l, c) ∧
      Host.play "s" (.text "a") oneCardHost = (.ok true, host') ∧
      ∃ s', host'.find? "s" = some s' ∧ s'.lesson ≠ oneCardLesson := by
  let moves : List Move := [.play (.text "a"), .play (.text "a"), .endTurn []]
  have hcount : (Lesson.acceptedOf moves oneCardLesson stillChance).1.toOption.any
      (·.length == 2) = true := by decide +kernel
  have hreturns : (Lesson.course moves oneCardLesson stillChance).1.toOption.any
      (fun _ => true) = true := by decide +kernel
  have hanswer : (Host.play "s" (.text "a") oneCardHost).1.toOption = some true := by
    decide +kernel
  obtain ⟨kept₀, c₀, hkept₀, hlen⟩ := Play.ok_of_any hcount
  obtain ⟨l, c, hcourse, -⟩ := Play.ok_of_any hreturns
  rcases hplay : Host.play "s" (.text "a") oneCardHost with ⟨f | flag, host'⟩
  · rw [hplay] at hanswer
    cases hanswer
  · rw [hplay] at hanswer
    obtain rfl := Option.some.inj hanswer
    obtain ⟨⟨kept, hkept, -, -, hleft⟩, -, hsession⟩ :=
      rejected_moves_are_invisible likeness_eq hcourse
    obtain ⟨s', hfind, hflag⟩ :=
      hsession "s" _ oneCardHost host' _ true (.inl ⟨.text "a", rfl⟩) rfl hplay
    rw [hkept] at hkept₀
    cases hkept₀
    exact ⟨l, c₀, kept₀, host', hcourse, beq_iff_eq.1 hlen, hleft, rfl, s', hfind, hflag.1 rfl⟩

end CardLesson
