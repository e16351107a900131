/-
# Replies to moves, and the lesson they leave

A move that is asked for by a request is made first, and its reply is put together from the lesson
after it. So a reply can be an error although the move was made: when the lesson after it holds
something that no reply can show. What a reply can show is `Lesson.Shown`: texts where texts are
shown, costs that can be worked out, and numbers that their fields take and that can be written.

Apart from that a reply tells what became of the move. One that fails or is rejected leaves the
lesson as it is, and one that is accepted leaves the lesson that it leads to, never anything in
between.

Texts are a matter of what the lesson is opened with: cards that have them make cards that have
them, and what a catalog or a drink brings in is there from the start. Numbers are not; they come
out of the moves.

Key definitions: `Shows`, `Fits`, `Lesson.Labelled`, `Lesson.Told`, `Lesson.Shown`,
`Endpoint.acting`, `Endpoint.deed?`, `Endpoint.outcome?`, `labelled`.
Key theorems: `Card.shows_iff`, `Buff.shows_iff`, `Session.shows_iff`, `Service.showMove_eq`,
`Service.answer_move`, `Opening.Labelled.led`, `settled_ne_iff`, `error_keeps_lesson_iff`,
`error_after_a_move`.
-/
import CardLesson.Proofs.Drinks
import CardLesson.Proofs.Fitness
import CardLesson.Proofs.Hosts
import CardLesson.Proofs.Provenance
import CardLesson.Proofs.Records
import CardLesson.Service.Answer

namespace CardLesson

/-! ### What can be shown -/

/-- A part of a reply fits and can be written. -/
def Shows (part : Except Fault Datum) : Prop := ∃ d, part = .ok d ∧ d.isWritable = true

/-- A field takes a datum, and what it makes of it can be written. -/
def Fits (field : Datum → Option Datum) (d : Datum) : Prop :=
  ∃ shown, field d = some shown ∧ shown.isWritable = true

namespace Datum

theorem isWritable_list {ds : List Datum} :
    (list ds).isWritable = true ↔ ∀ d ∈ ds, d.isWritable = true := by
  rw [isWritable, every_list, everyItem_iff]
  exact and_iff_right rfl

theorem isWritable_object {ms : Members} :
    (object ms).isWritable = true ↔ ∀ m ∈ ms, m.2.isWritable = true := by
  rw [isWritable, every_object, everyMember_iff]
  exact and_iff_right rfl

theorem isWritable_of_isText {d : Datum} (h : d.isText = true) : d.isWritable = true := by
  cases d with
  | text s => rfl
  | _ => cases h

end Datum

variable {fw : Framework}

theorem shows_fill_iff {field : Datum → Option Datum} {d : Datum} :
    Shows (fill field d) ↔ Fits field d := by
  unfold Shows Fits fill
  cases field d with
  | some shown => simp
  | none => simp

theorem fits_text_iff (hfw : fw.Documented) {d : Datum} :
    Fits fw.textField d ↔ d.isText = true := by
  unfold Fits
  rw [hfw.textField_eq]
  by_cases h : d.isText = true
  · rw [if_pos h]
    exact iff_of_true ⟨d, rfl, Datum.isWritable_of_isText h⟩ h
  · rw [if_neg h]
    exact iff_of_false (fun ⟨_, hnone, _⟩ => by cases hnone) h

theorem shows_optional_iff {field : Datum → Option Datum} {d : Datum} :
    Shows (fillOptional field d) ↔ d.isNull = true ∨ Fits field d := by
  rw [← shows_fill_iff]
  unfold fillOptional
  cases d.isNull with
  | true => exact iff_of_true ⟨_, rfl, rfl⟩ (.inl rfl)
  | false => exact (or_iff_right Bool.false_ne_true).symm

/-- A list of parts is shown when each of them is. -/
theorem shows_each_iff {α : Type} {f : α → Except Fault Datum} : ∀ {xs : List α},
    (∃ ds, xs.mapM f = .ok ds ∧ ∀ d ∈ ds, d.isWritable = true) ↔ ∀ x ∈ xs, Shows (f x)
  | [] => iff_of_true ⟨[], rfl, fun _ hd => absurd hd List.not_mem_nil⟩
      fun _ hx => absurd hx List.not_mem_nil
  | x :: xs => by
    rw [List.forall_mem_cons, ← shows_each_iff, List.mapM_cons]
    simp only [Play.exists_ok_bind, Play.exists_ok_pure, List.forall_mem_cons]
    constructor
    · rintro ⟨d, hd, rest, hrest, hw, hw'⟩
      exact ⟨⟨d, hd, hw⟩, rest, hrest, hw'⟩
    · rintro ⟨⟨d, hd, hw⟩, rest, hrest, hw'⟩
      exact ⟨d, hd, rest, hrest, hw, hw'⟩

theorem texts_writable (lines : List String) :
    ∀ d ∈ lines.map Datum.text, d.isWritable = true := by
  intro d hd
  obtain ⟨line, -, rfl⟩ := List.mem_map.1 hd
  rfl

/-! ### Lessons that can be shown -/

/-- Where a reply shows a text of the card, there is one. -/
structure Card.Labelled (c : Card) : Prop where
  id : c.id.isText = true
  name : c.name.isText = true
  rarity : c.rarity.isNull = true ∨ c.rarity.isText = true
  description : c.description.isText = true

/-- Where a reply shows a text of the drink, there is one. -/
structure Drink.Labelled (d : Drink) : Prop where
  id : d.id.isText = true
  name : d.name.isText = true
  description : d.description.isText = true

/-- The numbers of the card can be told: its cost under some buffs can be worked out, and neither
that one nor its own has too many figures. -/
structure Card.Told (c : Card) (buffs : List Buff) : Prop where
  cost : (Quantity.whole c.cost).isWritable = true
  actual : ∃ n, actualCost c buffs = .ok n ∧ (Quantity.whole n).isWritable = true

/-- The fields take the numbers of the buff. -/
structure Buff.Told (fw : Framework) (b : Buff) : Prop where
  duration : Fits fw.wholeField b.duration
  count : b.count.isNull = true ∨ Fits fw.wholeField b.count
  value : b.value.isNull = true ∨ Fits fw.realField b.value

/-- The numbers of a lesson that replies show, under their names. -/
def Lesson.counts (l : Lesson) : List (String × Quantity) :=
  [("turn", l.turn), ("max_turns", l.maxTurns), ("vocal", l.vocal), ("dance", l.dance),
    ("visual", l.visual), ("hp", l.hp), ("max_hp", l.maxHp), ("shield", l.shield),
    ("genki", l.genki), ("good_impression", l.goodImpression), ("motivation", l.motivation),
    ("concentration", l.concentration), ("score", l.score), ("cards_played", l.cardsPlayed)]

/-- Where a reply shows a text of the lesson, there is one. -/
structure Lesson.Labelled (l : Lesson) : Prop where
  hand : ∀ x ∈ l.hand, x.card.Labelled
  drinks : ∀ slot ∈ l.drinks, slot.drink.Labelled

/-- The numbers of the lesson can be told: costs, those of its buffs, those that must be whole, and
the sizes of its piles. -/
structure Lesson.Told (fw : Framework) (l : Lesson) : Prop where
  costs : ∀ x ∈ l.hand, x.card.Told l.buffs
  buffs : ∀ b ∈ l.buffs, b.Told fw
  counts : ∀ count ∈ l.counts, Fits fw.wholeField (.number count.2)
  sizes : ∀ zone ∈ [l.deck, l.discard, l.excluded], (zoneSize zone).isWritable = true

/-- A reply can show the lesson. -/
structure Lesson.Shown (fw : Framework) (l : Lesson) : Prop where
  labelled : l.Labelled
  told : l.Told fw

theorem Card.shows_iff (hfw : fw.Documented) {c : Card} {buffs : List Buff} :
    Shows (c.picture fw buffs) ↔ c.Labelled ∧ c.Told buffs := by
  have text {d : Datum} : Shows (fill fw.textField d) ↔ d.isText = true :=
    shows_fill_iff.trans (fits_text_iff hfw)
  have optional {d : Datum} : Shows (fillOptional fw.textField d) ↔
      d.isNull = true ∨ d.isText = true :=
    shows_optional_iff.trans (or_congr_right (fits_text_iff hfw))
  simp only [Shows, Card.picture, Play.exists_ok_bind, Play.exists_ok_pure,
    Datum.isWritable_object, List.forall_mem_cons]
  constructor
  · rintro ⟨cost, hcost, id, hid, name, hname, rarity, hrarity, description, hdescription, hidw,
      hnamew, -, hownw, -, hcostw, hrarityw, hdescriptionw, -⟩
    exact ⟨⟨text.1 ⟨id, hid, hidw⟩, text.1 ⟨name, hname, hnamew⟩,
      optional.1 ⟨rarity, hrarity, hrarityw⟩, text.1 ⟨description, hdescription, hdescriptionw⟩⟩,
      hownw, cost, hcost, hcostw⟩
  · rintro ⟨⟨hid, hname, hrarity, hdescription⟩, hownw, cost, hcost, hcostw⟩
    obtain ⟨id, hid, hidw⟩ := text.2 hid
    obtain ⟨name, hname, hnamew⟩ := text.2 hname
    obtain ⟨rarity, hrarity, hrarityw⟩ := optional.2 hrarity
    obtain ⟨description, hdescription, hdescriptionw⟩ := text.2 hdescription
    exact ⟨cost, hcost, id, hid, name, hname, rarity, hrarity, description, hdescription, hidw,
      hnamew, rfl, hownw, rfl, hcostw, hrarityw, hdescriptionw, nofun⟩

theorem Buff.shows_iff {b : Buff} : Shows (b.picture fw) ↔ b.Told fw := by
  simp only [Shows, Buff.picture, Play.exists_ok_bind, Play.exists_ok_pure,
    Datum.isWritable_object, List.forall_mem_cons]
  constructor
  · rintro ⟨duration, hduration, count, hcount, value, hvalue, -, -, -, hdurationw, hcountw,
      hvaluew, -⟩
    exact ⟨shows_fill_iff.1 ⟨duration, hduration, hdurationw⟩,
      shows_optional_iff.1 ⟨count, hcount, hcountw⟩, shows_optional_iff.1 ⟨value, hvalue, hvaluew⟩⟩
  · rintro ⟨hduration, hcount, hvalue⟩
    obtain ⟨duration, hduration, hdurationw⟩ := shows_fill_iff.2 hduration
    obtain ⟨count, hcount, hcountw⟩ := shows_optional_iff.2 hcount
    obtain ⟨value, hvalue, hvaluew⟩ := shows_optional_iff.2 hvalue
    exact ⟨duration, hduration, count, hcount, value, hvalue, rfl, rfl, rfl, hdurationw, hcountw,
      hvaluew, nofun⟩

theorem DrinkSlot.shows_iff (hfw : fw.Documented) {slot : DrinkSlot} :
    Shows (slot.picture fw) ↔ slot.drink.Labelled := by
  have text {d : Datum} : Shows (fill fw.textField d) ↔ d.isText = true :=
    shows_fill_iff.trans (fits_text_iff hfw)
  simp only [Shows, DrinkSlot.picture, Play.exists_ok_bind, Play.exists_ok_pure,
    Datum.isWritable_object, List.forall_mem_cons]
  constructor
  · rintro ⟨id, hid, name, hname, description, hdescription, hidw, hnamew, -, hdescriptionw, -⟩
    exact ⟨text.1 ⟨id, hid, hidw⟩, text.1 ⟨name, hname, hnamew⟩,
      text.1 ⟨description, hdescription, hdescriptionw⟩⟩
  · rintro ⟨hid, hname, hdescription⟩
    obtain ⟨id, hid, hidw⟩ := text.2 hid
    obtain ⟨name, hname, hnamew⟩ := text.2 hname
    obtain ⟨description, hdescription, hdescriptionw⟩ := text.2 hdescription
    exact ⟨id, hid, name, hname, description, hdescription, hidw, hnamew, rfl, hdescriptionw,
      nofun⟩

theorem shows_counts_iff : ∀ {counts : List (String × Quantity)},
    (∃ ms, fillCounts fw counts = .ok ms ∧ ∀ m ∈ ms, m.2.isWritable = true) ↔
      ∀ count ∈ counts, Fits fw.wholeField (.number count.2)
  | [] => iff_of_true ⟨[], rfl, fun _ hm => absurd hm List.not_mem_nil⟩
      fun _ hcount => absurd hcount List.not_mem_nil
  | (name, q) :: counts => by
    rw [List.forall_mem_cons, ← shows_counts_iff, ← shows_fill_iff, fillCounts, List.mapM_cons]
    simp only [Play.exists_ok_bind, Play.exists_ok_pure, List.forall_mem_cons]
    constructor
    · rintro ⟨d, hd, rest, hrest, hw, hw'⟩
      exact ⟨⟨d, hd, hw⟩, rest, hrest, hw'⟩
    · rintro ⟨⟨d, hd, hw⟩, rest, hrest, hw'⟩
      exact ⟨d, hd, rest, hrest, hw, hw'⟩

/-- **A session can be shown** when its lesson can. -/
theorem Session.shows_iff (hfw : fw.Documented) {s : Session} :
    (∃ ms, s.picture fw = .ok ms ∧ (Datum.object ms).isWritable = true) ↔ s.lesson.Shown fw := by
  simp only [Session.picture, Play.exists_ok_bind, Play.exists_ok_pure, Datum.isWritable_object,
    List.forall_mem_append, List.forall_mem_cons, Datum.isWritable_list, bodyVersion]
  constructor
  · rintro ⟨hand, hhand, buffs, hbuffs, drinks, hdrinks, counts, hcounts, ⟨⟨-, hcountsw⟩, hhandw,
      hdeckw, hdiscardw, hexcludedw, hbuffsw, hdrinksw, -, -⟩, -⟩
    have hcards : ∀ x ∈ s.lesson.hand, x.card.Labelled ∧ x.card.Told s.lesson.buffs :=
      fun x hx => (Card.shows_iff hfw).1 (shows_each_iff.1 ⟨hand, hhand, hhandw⟩ x hx)
    exact {
      labelled.hand := fun x hx => (hcards x hx).1
      labelled.drinks := fun slot hs =>
        (DrinkSlot.shows_iff hfw).1 (shows_each_iff.1 ⟨drinks, hdrinks, hdrinksw⟩ slot hs)
      told.costs := fun x hx => (hcards x hx).2
      told.buffs := fun b hb => Buff.shows_iff.1 (shows_each_iff.1 ⟨buffs, hbuffs, hbuffsw⟩ b hb)
      told.counts := shows_counts_iff.1 ⟨counts, hcounts, hcountsw⟩
      told.sizes := List.forall_mem_cons.2 ⟨hdeckw, List.forall_mem_cons.2
        ⟨hdiscardw, List.forall_mem_singleton.2 hexcludedw⟩⟩ }
  · rintro ⟨⟨hhand, hdrinks⟩, hcosts, hbuffs, hcounts, hsizes⟩
    obtain ⟨hand, hhand, hhandw⟩ :=
      shows_each_iff.2 fun x hx => (Card.shows_iff hfw).2 ⟨hhand x hx, hcosts x hx⟩
    obtain ⟨buffs, hbuffs, hbuffsw⟩ := shows_each_iff.2 fun b hb => Buff.shows_iff.2 (hbuffs b hb)
    obtain ⟨drinks, hdrinks, hdrinksw⟩ :=
      shows_each_iff.2 fun slot hs => (DrinkSlot.shows_iff hfw).2 (hdrinks slot hs)
    obtain ⟨counts, hcounts, hcountsw⟩ := shows_counts_iff.2 hcounts
    obtain ⟨hdeckw, hsizes⟩ := List.forall_mem_cons.1 hsizes
    obtain ⟨hdiscardw, hsizes⟩ := List.forall_mem_cons.1 hsizes
    exact ⟨hand, hhand, buffs, hbuffs, drinks, hdrinks, counts, hcounts,
      ⟨⟨⟨rfl, rfl, rfl, rfl, nofun⟩, hcountsw⟩, hhandw, hdeckw, hdiscardw,
        hsizes _ List.mem_cons_self, hbuffsw, hdrinksw, texts_writable _, nofun⟩,
      rfl, nofun⟩

/-! ### Requests for moves -/

namespace Endpoint

/-- The session that a request may make a move in. -/
def acting : Endpoint → Option String
  | .play id => some id
  | .endTurn id => some id
  | .drink id => some id
  | _ => none

/-- The deed that a request asks for, when its body says what with. -/
def deed? (fw : Framework) (body : Option Datum) : Endpoint → Option Host.Deed
  | .play _ => (fw.card body).toOption.map fun card => .play (.text card)
  | .endTurn _ => some .endTurn
  | .drink _ => (fw.drink body).toOption.map fun drink => .drink (.text drink)
  | _ => none

/-- What becomes of the move that a request asks for in a session, when its body says what with. -/
def outcome? (fw : Framework) (body : Option Datum) (s : Session) (named : Nat) (e : Endpoint) :
    Option (Except Fault (Option Lesson)) :=
  (e.deed? fw body).map fun deed => ((deed.move s).make s.lesson ⟨s.source, named⟩).1

end Endpoint

namespace Service

variable {e : Endpoint} {id : String} {body : Option Datum} {host host' : Host} {s : Session}
  {r : Request} {deed : Host.Deed}

/-- A request for a move makes it, unless its body does not say what with. -/
theorem serve_acting (hfw : fw.Documented) (h : e.acting = some id) (body : Option Datum) :
    (e.deed? fw body = none ∧ ∃ reply, 400 ≤ reply.status ∧ serve fw body e = return reply) ∨
      ∃ deed, e.deed? fw body = some deed ∧ serve fw body e = showMove fw id (deed.make id) := by
  cases e with
  | play session =>
    obtain rfl := Option.some.inj h
    unfold serve Endpoint.deed? withBody
    cases htaken : fw.card body with
    | ok card => exact .inr ⟨.play (.text card), rfl, rfl⟩
    | error reply => exact .inl ⟨rfl, reply, hfw.card_refused htaken, rfl⟩
  | endTurn session =>
    obtain rfl := Option.some.inj h
    exact .inr ⟨.endTurn, rfl, rfl⟩
  | drink session =>
    obtain rfl := Option.some.inj h
    unfold serve Endpoint.deed? withBody
    cases htaken : fw.drink body with
    | ok drink => exact .inr ⟨.drink (.text drink), rfl, rfl⟩
    | error reply => exact .inl ⟨rfl, reply, hfw.drink_refused htaken, rfl⟩
  | _ => cases h

theorem serve_of_deed (hfw : fw.Documented) (h : e.acting = some id)
    (hasks : e.deed? fw body = some deed) : serve fw body e = showMove fw id (deed.make id) := by
  obtain ⟨hnone, -⟩ | ⟨deed', hdeed', hserve⟩ := serve_acting hfw h body
  · rw [hasks] at hnone
    cases hnone
  · obtain rfl := Option.some.inj (hasks.symm.trans hdeed')
    exact hserve

theorem answer_ok {reply : Reply} (hgoes : fw.route r.method r.target = .ok e)
    (h : serve fw r.body e host = (.ok reply, host')) :
    answerBy fw r host = (send fw reply, host') := by
  simp only [answerBy, hgoes, h]

theorem answer_error {f : Fault} (hgoes : fw.route r.method r.target = .ok e)
    (h : serve fw r.body e host = (.error f, host')) :
    answerBy fw r host = (.ofFault f, host') := by
  simp only [answerBy, hgoes, h]

/-- The session after a deed is there, and the reply is put together from it. -/
theorem showMove_eq (hfind : host.find? id = some s) (deed : Host.Deed) :
    ∃ host', host'.find? id = some (deed.after host.named s) ∧
      showMove fw id (deed.make id) host = (do
        let next ← ((deed.move s).make s.lesson ⟨s.source, host.named⟩).1
        let state ← (deed.after host.named s).picture fw
        return .ok ([("session_id", .text s.id), ("accepted", .truth next.isSome),
          ("game_state", .object state)] ++ bodyVersion), host') := by
  obtain ⟨named, hdeed⟩ := Host.deed_of_found hfind deed
  have hfind' : { host with named }.find? id = some s := hfind
  have hafter := Host.find?_replace_self (t := deed.after host.named s) hfind' rfl
  refine ⟨_, hafter, ?_⟩
  unfold showMove
  rw [Hosting.bind_apply, hdeed]
  cases ((deed.move s).make s.lesson ⟨s.source, host.named⟩).1 with
  | error f => rfl
  | ok next =>
    show (Host.session id >>= _) _ = _
    rw [Hosting.bind_apply, Host.session_of_found hafter]
    show ((liftM ((deed.after host.named s).picture fw) : Hosting Members) >>= _) _ = _
    rw [Hosting.except_bind]
    cases (deed.after host.named s).picture fw <;> rfl

/-- What is sent is an error when the reply was one. -/
theorem send_error {reply : Reply} (h : 400 ≤ reply.status) : 400 ≤ (send fw reply).status := by
  unfold send
  split
  · exact h
  · exact Reply.ofFault_status _

/-- A reply with a lesson is no error when the lesson can be written. -/
theorem send_status (hfw : fw.Documented) {state : Members} {id : String} {accepted : Bool} :
    (send fw (Reply.ok ([("session_id", .text id), ("accepted", .truth accepted),
      ("game_state", .object state)] ++ bodyVersion))).status < 400 ↔
        (Datum.object state).isWritable = true := by
  have hbody : (Reply.ok ([("session_id", .text id), ("accepted", .truth accepted),
      ("game_state", .object state)] ++ bodyVersion)).body.isWritable = true ↔
      (Datum.object state).isWritable = true := by
    simp only [Reply.ok, @Datum.isWritable_object (_ ++ _), List.forall_mem_append,
      List.forall_mem_cons, bodyVersion]
    exact ⟨fun h => h.1.2.2.1, fun h => ⟨⟨rfl, rfl, h, nofun⟩, rfl, nofun⟩⟩
  rw [← hbody, ← hfw.write_iff]
  unfold send
  split
  · next hw => exact iff_of_true (by show 200 < 400; decide) hw
  · next f hw =>
    rw [hw]
    exact iff_of_false (Nat.not_lt.2 (Reply.ofFault_status f)) nofun

/-- **A move that is asked for is made, whatever its reply.** The reply is no error just when the
move returns and the lesson after it can be shown. -/
theorem answer_move (hfw : fw.Documented) (hgoes : fw.route r.method r.target = .ok e)
    (hacts : e.acting = some id) (hfind : host.find? id = some s)
    (hasks : e.deed? fw r.body = some deed) :
    (answerBy fw r host).2.find? id = some (deed.after host.named s) ∧
      ((answerBy fw r host).1.status < 400 ↔
        (∃ next, ((deed.move s).make s.lesson ⟨s.source, host.named⟩).1 = .ok next) ∧
          (deed.after host.named s).lesson.Shown fw) := by
  have hfault (f : Fault) : ¬(Reply.ofFault f).status < 400 :=
    Nat.not_lt.2 (Reply.ofFault_status f)
  obtain ⟨host', hfind', hshow⟩ := showMove_eq hfind deed
  rw [← serve_of_deed hfw hacts hasks] at hshow
  rw [← Session.shows_iff hfw]
  cases hmake : ((deed.move s).make s.lesson ⟨s.source, host.named⟩).1 with
  | error f =>
    rw [hmake] at hshow
    rw [answer_error hgoes hshow]
    exact ⟨hfind', iff_of_false (hfault f) (by rintro ⟨⟨next, h⟩, -⟩; cases h)⟩
  | ok next =>
    cases hpicture : (deed.after host.named s).picture fw with
    | error f =>
      rw [hmake, hpicture] at hshow
      rw [answer_error hgoes hshow]
      exact ⟨hfind', iff_of_false (hfault f) (by rintro ⟨-, ms, h, -⟩; cases h)⟩
    | ok state =>
      rw [hmake, hpicture] at hshow
      rw [answer_ok hgoes hshow]
      refine ⟨hfind', (send_status hfw).trans ⟨fun hw => ⟨⟨next, rfl⟩, state, rfl, hw⟩, ?_⟩⟩
      rintro ⟨-, ms, h, hms⟩
      rwa [Except.ok.inj h]

/-- A request for a move whose body does not say what with is answered by an error, and changes
nothing. -/
theorem answer_unfit (hfw : fw.Documented) (hgoes : fw.route r.method r.target = .ok e)
    (hacts : e.acting = some id) (hasks : e.deed? fw r.body = none) (host : Host) :
    400 ≤ (answerBy fw r host).1.status ∧ (answerBy fw r host).2 = host := by
  obtain ⟨-, reply, herror, hserve⟩ | ⟨deed, hdeed, -⟩ := serve_acting hfw hacts r.body
  · have hreply : serve fw r.body e host = (.ok reply, host) := by
      rw [hserve]
      rfl
    rw [answer_ok hgoes hreply]
    exact ⟨send_error herror, rfl⟩
  · rw [hasks] at hdeed
    cases hdeed

/-- So is one that asks for a move in a session that is not there. -/
theorem answer_missing (hfw : fw.Documented) (hgoes : fw.route r.method r.target = .ok e)
    (hacts : e.acting = some id) (hfind : host.find? id = none) :
    400 ≤ (answerBy fw r host).1.status ∧ (answerBy fw r host).2 = host := by
  cases hasks : e.deed? fw r.body with
  | none => exact answer_unfit hfw hgoes hacts hasks host
  | some deed =>
    have hshow : serve fw r.body e host = (.error (.noSession id), host) := by
      rw [serve_of_deed hfw hacts hasks, showMove, Hosting.bind_apply, Host.deed_of_missing hfind]
    rw [answer_error hgoes hshow]
    exact ⟨Reply.ofFault_status _, rfl⟩

end Service

/-! ### Lessons with texts -/

/-- When the operation makes trouble under an id of its own, it is a text. -/
def Operation.namesTrouble (op : Operation) : Bool :=
  !op.troubleId.holds || op.troubleId.isText

/-- Cards have texts where replies show them, and so do those that their effects make. -/
def labelled : Trait where
  effect e := e.every Operation.namesTrouble = true
  card x := x.card.Labelled ∧ x.card.every Operation.namesTrouble = true
  buff b := b.Granted Operation.namesTrouble

theorem labelled_handedOn : labelled.HandedOn where
  ofCard h := (passing_handedOn _).ofCard h.2
  ofGate := (passing_handedOn _).ofGate
  ofBuff := (passing_handedOn _).ofBuff
  made {e} he _ hid n := by
    have hnames : (!e.operation.troubleId.holds || e.operation.troubleId.isText) = true :=
      (Effect.every_iff.1 he).1
    rw [hid] at hnames
    exact ⟨⟨rfl, hnames, .inl rfl, rfl⟩, rfl⟩
  granted := (passing_handedOn _).granted
  aged := (passing_handedOn _).aged

/-- The cards and drinks that a lesson is opened with have texts where replies show them, and so do
the cards that their effects make. -/
structure Opening.Labelled (o : Opening) : Prop where
  cards : ∀ card ∈ o.deck ++ o.catalog,
    card.Labelled ∧ card.every Operation.namesTrouble = true
  drinks : ∀ d ∈ o.drinks, d.Labelled ∧ Effect.everyOf Operation.namesTrouble d.effects = true

variable {l₀ l : Lesson}

/-- Whatever moves lead to, the drinks are those that there were. -/
theorem Led.drinks_eq {P : Move → Prop} (h : Led P l₀ l) :
    l.drinks.map (·.drink) = l₀.drinks.map (·.drink) := by
  induction h with
  | refl => rfl
  | @made l _ _ _ next _ _ hmade ih =>
    cases next with
    | none => exact ih
    | some l' =>
      rcases make_drinks hmade with ⟨id, -, htaken⟩ | ⟨-, heq⟩
      · exact htaken.drinks_eq.trans ih
      · rw [← ih, ← heq]
        rfl

/-- **A lesson that is opened with texts has them all along.** -/
theorem Opening.Labelled.led {o : Opening} {c c' : Chance} (h : o.Labelled)
    (hopen : o.lesson c = (.ok l₀, c')) (hled : Led (fun _ => True) l₀ l) : l.Labelled := by
  obtain ⟨catalog, hopened, hcards⟩ := Opening.lesson_ok hopen
  have hbears : l₀.Bears labelled := hopened.bears
    (fun x hx => h.cards x.card (List.mem_append.2 (hcards x hx)))
    fun d hd => Effect.everyOf_iff.1 (h.drinks d hd).2
  refine ⟨fun x hx => ((hled.bears labelled_handedOn hbears).zones x (mem_zones_of_mem_hand hx)).1,
    fun slot hslot => ?_⟩
  have hdrink : slot.drink ∈ l.drinks.map (·.drink) := List.mem_map_of_mem hslot
  rw [hled.drinks_eq, hopened.drinks_eq, List.map_map] at hdrink
  obtain ⟨d, hd, heq⟩ := List.mem_map.1 hdrink
  rw [← heq]
  exact (h.drinks d hd).1

/-! ### Errors -/

variable {c c' : Chance} {move : Move} {outcome : Except Fault (Option Lesson)}

/-- Only an accepted move leads elsewhere, and it always does. -/
theorem settled_ne_iff (h : move.make l c = (outcome, c')) :
    Host.settled l outcome ≠ l ↔ ∃ l', outcome = .ok (some l') := by
  rcases outcome with f | _ | l'
  · exact iff_of_false (fun hne => hne rfl) (fun ⟨l', heq⟩ => by cases heq)
  · exact iff_of_false (fun hne => hne rfl) (fun ⟨l', heq⟩ => by cases heq)
  · exact iff_of_true (likeness_eq.not_of_logsOn (make_some_logs h)) ⟨l', rfl⟩

theorem Led.settled {P : Move → Prop} (hled : Led P l₀ l) (hmove : P move)
    (h : move.make l c = (outcome, c')) : Led P l₀ (Host.settled l outcome) := by
  rcases outcome with f | _ | l'
  · exact hled
  · exact hled
  · exact .made hled hmove h

/-- **An error keeps the lesson**, unless a move was made whose lesson no reply can show. That is so
in every framework that keeps to what is documented.

A request for a move is answered by an error and changes nothing when its session is not there.
Otherwise the session is there after it, with the lesson that the move settles on, or the one it had
when the body does not say what to move with. The reply is no error just when the move returns and
its lesson can be shown. So it is an error with another lesson just when the move was accepted and
no reply can show where it leads. In a lesson that was opened with texts that comes down to numbers
that cannot be told. -/
theorem error_keeps_lesson_iff {fw : Framework} (hfw : fw.Documented) {r : Request} {e : Endpoint}
    {id : String} (hgoes : fw.route r.method r.target = .ok e) (hacts : e.acting = some id)
    (host : Host) :
    (host.find? id = none → 400 ≤ (Service.answerBy fw r host).1.status ∧
      (Service.answerBy fw r host).2 = host) ∧
    ∀ s, host.find? id = some s → ∃ s', (Service.answerBy fw r host).2.find? id = some s' ∧
      s'.lesson = (e.outcome? fw r.body s host.named).elim s.lesson (Host.settled s.lesson) ∧
      ((Service.answerBy fw r host).1.status < 400 ↔
        (∃ next, e.outcome? fw r.body s host.named = some (.ok next)) ∧ s'.lesson.Shown fw) ∧
      (400 ≤ (Service.answerBy fw r host).1.status ∧ s'.lesson ≠ s.lesson ↔
        ∃ l, e.outcome? fw r.body s host.named = some (.ok (some l)) ∧ ¬l.Shown fw) ∧
      ∀ (o : Opening) l₀ c c', o.Labelled → o.lesson c = (.ok l₀, c') →
        Led (fun _ => True) l₀ s.lesson → (s'.lesson.Shown fw ↔ s'.lesson.Told fw) := by
  refine ⟨Service.answer_missing hfw hgoes hacts, fun s hfind => ?_⟩
  have htexts {o : Opening} {l₀ l : Lesson} {c c' : Chance} (ho : o.Labelled)
      (hopen : o.lesson c = (.ok l₀, c')) (hled : Led (fun _ => True) l₀ l) :
      l.Shown fw ↔ l.Told fw :=
    ⟨fun h => h.told, fun h => ⟨ho.led hopen hled, h⟩⟩
  cases hasks : e.deed? fw r.body with
  | none =>
    obtain ⟨herror, hsame⟩ := Service.answer_unfit hfw hgoes hacts hasks host
    have hnone : e.outcome? fw r.body s host.named = none := by rw [Endpoint.outcome?, hasks]; rfl
    rw [hnone]
    refine ⟨s, by rwa [hsame], rfl, iff_of_false (Nat.not_lt.2 herror) ?_,
      iff_of_false (fun h => h.2 rfl) ?_, fun o l₀ c c' ho hopen hled => htexts ho hopen hled⟩
    · rintro ⟨⟨next, h⟩, -⟩
      cases h
    · rintro ⟨l, h, -⟩
      cases h
  | some deed =>
    obtain ⟨hafter, hstatus⟩ := Service.answer_move hfw hgoes hacts hfind hasks
    have hsome : e.outcome? fw r.body s host.named =
        some ((deed.move s).make s.lesson ⟨s.source, host.named⟩).1 := by
      rw [Endpoint.outcome?, hasks]
      rfl
    rcases hmove : (deed.move s).make s.lesson ⟨s.source, host.named⟩ with ⟨outcome, chance⟩
    have hlesson : (deed.after host.named s).lesson = Host.settled s.lesson outcome := by
      rw [Host.Deed.after, hmove]
    rw [hmove, hlesson] at hstatus
    rw [hmove] at hsome
    refine ⟨_, hafter, ?_⟩
    rw [hlesson, hsome]
    refine ⟨rfl, hstatus.trans (by simp only [Option.some_inj]), ?_, fun o l₀ c c' ho hopen hled =>
      htexts ho hopen (hled.settled trivial hmove)⟩
    rw [settled_ne_iff hmove]
    constructor
    · rintro ⟨herror, l, rfl⟩
      refine ⟨l, rfl, fun hshown => ?_⟩
      exact absurd (hstatus.2 ⟨⟨some l, rfl⟩, hshown⟩) (Nat.not_lt.2 herror)
    · rintro ⟨l, heq, hhidden⟩
      obtain rfl := Option.some.inj heq
      exact ⟨Nat.not_lt.1 fun hfine => hhidden (hstatus.1 hfine).2, l, rfl⟩

/-- A request to play the first card of the lesson below. -/
def playRequest : Request where
  method := "POST"
  target := "/api/v1/sessions/session-1/play"
  body := some (.object [("card_id", .text "a")])

theorem playRequest_goes : Framework.usual.route playRequest.method playRequest.target =
    .ok (.play "session-1") := by
  have hfind : Endpoint.find playRequest.method playRequest.target = .ok (.play "session-1") := by
    decide +kernel
  exact congrArg (Except.mapError Reply.ofMiss) hfind

/-- A lesson with a card of five points and another card. -/
def pairOpening : Opening where
  deck := [
    { id := .text "a", name := .text "A", startInHand := true
      effects := [.of { kind := .known .scoreFixed, value := .whole 5 }] },
    { id := .text "b", name := .text "B", startInHand := true }]
  seed := some 0

theorem pairOpening_labelled : pairOpening.Labelled where
  cards card hcard := by
    rcases List.mem_cons.1 hcard with rfl | hcard
    · exact ⟨⟨rfl, rfl, .inl rfl, rfl⟩, rfl⟩
    · rw [List.mem_singleton.1 hcard]
      exact ⟨⟨rfl, rfl, .inl rfl, rfl⟩, rfl⟩
  drinks _ hd := absurd hd List.not_mem_nil

/-- Both cards have texts, so an error after the first play could only come from a number. -/
theorem error_keeps_lesson_iff_play : ∃ s host s',
    Host.start pairOpening (.new .zero) = (.ok s, host) ∧
      (Service.answer playRequest host).2.find? "session-1" = some s' ∧
      (400 ≤ (Service.answer playRequest host).1.status ∧ s'.lesson ≠ s.lesson ↔
        ∃ l, (Endpoint.play "session-1").outcome? .usual playRequest.body s host.named =
          some (.ok (some l)) ∧ ¬l.Shown .usual) ∧
      (s'.lesson.Shown .usual ↔ s'.lesson.Told .usual) := by
  have hok : (Host.start pairOpening (.new .zero)).1.toOption.any (fun _ => true) = true := by
    decide +kernel
  rcases hstart : Host.start pairOpening (.new .zero) with ⟨f | s, host⟩ <;> rw [hstart] at hok
  · cases hok
  obtain ⟨c, c', hlesson⟩ := Host.start_lesson hstart
  have hfind : host.find? "session-1" = some s := by
    rcases Host.start_cases pairOpening (.new .zero) with ⟨f, hnone⟩ | ⟨s₁, named, hid, -, hsome⟩
    · rw [hstart] at hnone
      cases hnone
    · rw [hstart] at hsome
      cases hsome
      have hfirst : (s.id == "session-1") = true := by
        rw [hid]
        decide
      exact List.find?_cons_of_pos hfirst
  obtain ⟨s', hfind', -, -, herror, htexts⟩ :=
    (error_keeps_lesson_iff Framework.usual_documented playRequest_goes rfl host).2 s hfind
  exact ⟨s, host, s', rfl, hfind', herror,
    htexts pairOpening _ c c' pairOpening_labelled hlesson .refl⟩

/-- A request to open a lesson with a card of five points and one whose id is a number. -/
def numberedRequest : Request where
  method := "POST"
  target := "/api/v1/sessions"
  body := some (.object [
    ("cards", .list [
      .object [("id", .text "a"), ("name", .text "A"), ("startInHand", .truth true),
        ("effects", .list [.object [("type", .text "score_fixed"), ("value", .whole 5)]])],
      .object [("id", .whole 7), ("name", .text "Seven"), ("startInHand", .truth true)]]),
    ("random_seed", .whole 0)])

/-- **An error after a move.** The lesson is opened, though one of its cards has an id that is no
text; the play of the other one scores, and is answered by an error. -/
theorem error_after_a_move : ∃ opened host reply host' s s',
    Service.answer numberedRequest (.new .zero) = (opened, host) ∧ opened.status = 200 ∧
      Service.answer playRequest host = (reply, host') ∧ 400 ≤ reply.status ∧
      host.find? "session-1" = some s ∧ host'.find? "session-1" = some s' ∧
      s'.lesson ≠ s.lesson := by
  have hbefore : ((Service.answer numberedRequest (.new .zero)).2.find? "session-1").any
      (fun s => s.lesson.score.same 0) = true := by decide +kernel
  have hafter : ((Service.answer playRequest
      (Service.answer numberedRequest (.new .zero)).2).2.find? "session-1").any
      (fun s => !s.lesson.score.same 0) = true := by decide +kernel
  obtain ⟨s, hfind, hzero⟩ := (Option.any_eq_true _ _).1 hbefore
  obtain ⟨s', hfind', hscored⟩ := (Option.any_eq_true _ _).1 hafter
  refine ⟨_, _, _, _, s, s', rfl, by decide +kernel, rfl, by decide +kernel, hfind, hfind',
    fun hsame => ?_⟩
  rw [hsame, hzero] at hscored
  cases hscored

end CardLesson
