/-
# Where the cards of a lesson come from

The deck of an ordered lesson is checked when the order is read; its catalog is read and not
checked. Whatever is done in the lesson, each card in its zones was in the deck, is a trouble card
that was made on the way, or comes from the catalog. The first two pass the check of a card, so with
a catalog of cards that pass it all do; a card of the catalog that does not pass can come into the
hand.

Of several copies in a deck only the first is checked, and the others are compared with it. That a
card passes depends on nothing in which equal cards differ, though the lines of the report do.

Key definitions: `Report.Passed`, `Card.Passes`, `fromCatalog`.
Key theorems: `checkOperation_passed`, `checkEffect_passed`, `checkCard_passed`, `Card.passes_same`,
`checkRoster_passes`, `madeTrouble_passes`, `LessonOrder.opening_ok`, `Opening.lesson_ok`,
`Opening.lesson_bears`, `ordered_cards_pass`, `unchecked_card_is_drawn_in`.
-/
import CardLesson.Proofs.Checked
import CardLesson.Proofs.Course
import CardLesson.Proofs.Opening
import CardLesson.Service.Order

namespace CardLesson

/-! ### Checks that let a thing through -/

/-- A check returns, and finds nothing wrong. -/
def Report.Passed (check : Except Fault Report) : Prop := ∃ r, check = .ok r ∧ r.valid = true

namespace Report

theorem valid_append_iff {r s : Report} :
    (r ++ s).valid = true ↔ r.valid = true ∧ s.valid = true := by
  rw [valid_append, Bool.and_eq_true]

theorem valid_errorIf {wrong : Bool} {line : String} :
    (errorIf wrong line).valid = true ↔ wrong = false := by
  cases wrong <;> simp [errorIf, error, valid]

end Report

open Report

/-- A condition is worth a warning at most. -/
theorem checkCondition_valid (place : String) (c : Condition) :
    (checkCondition place c).valid = true := by
  unfold checkCondition
  split <;> rfl

theorem checkConditions_valid (place : String) :
    ∀ cs : List Condition, (join (cs.map (checkCondition place))).valid = true
  | [] => rfl
  | c :: cs => valid_append_iff.2 ⟨checkCondition_valid place c, checkConditions_valid place cs⟩

theorem notBelow_iff {d : Datum} {bound : Int} :
    d.notBelow bound = true ↔ isBelow d bound = .ok false := by
  unfold Datum.notBelow
  cases isBelow d bound with
  | error f => exact iff_of_false nofun nofun
  | ok below => cases below <;> simp

theorem checkOperation_passed {place : String} {op : Operation} {k : EffectKind}
    {gate bare : Bool} : Passed (checkOperation place op k gate bare) ↔
      (k == .conditionGate && gate) = false ∧ (k.isReactive && bare) = false ∧
        op.duration.notBelow (-1) = true ∧ op.count.notBelow 0 = true := by
  simp only [Passed, checkOperation, Play.exists_ok_bind, Play.exists_ok_pure, valid_append_iff,
    valid_errorIf]
  constructor
  · rintro ⟨short, hshort, few, hfew, ⟨⟨⟨⟨hgate, hreactive⟩, rfl⟩, rfl⟩, -⟩, -⟩
    exact ⟨hgate, hreactive, notBelow_iff.2 hshort, notBelow_iff.2 hfew⟩
  · rintro ⟨hgate, hreactive, hduration, hcount⟩
    refine ⟨false, notBelow_iff.1 hduration, false, notBelow_iff.1 hcount,
      ⟨⟨⟨⟨hgate, hreactive⟩, rfl⟩, rfl⟩, checkConditions_valid place _⟩, ?_⟩
    split
    · exact checkCondition_valid place _
    · rfl

theorem checkEffect_passed {place : String} {op : Operation} {subs : List Effect}
    {triggered : Option Effect} {k : EffectKind} (hk : op.kind = .known k) :
    Passed (checkEffect place ⟨op, subs, triggered⟩) ↔
      Passed (checkOperation place op k subs.isEmpty triggered.isNone) ∧
        Passed (checkEffects place subs) ∧ Passed (checkTriggered place triggered) := by
  simp only [Passed, checkEffect, hk, Play.exists_ok_bind, Play.exists_ok_pure, valid_append_iff]
  constructor
  · rintro ⟨own, hown, inside, hinside, fired, hfired, ⟨hvalid, hvalid'⟩, hvalid''⟩
    exact ⟨⟨own, hown, hvalid⟩, ⟨inside, hinside, hvalid'⟩, fired, hfired, hvalid''⟩
  · rintro ⟨⟨own, hown, hvalid⟩, ⟨inside, hinside, hvalid'⟩, fired, hfired, hvalid''⟩
    exact ⟨own, hown, inside, hinside, fired, hfired, ⟨hvalid, hvalid'⟩, hvalid''⟩

theorem checkEffects_passed {place : String} {e : Effect} {es : List Effect} :
    Passed (checkEffects place (e :: es)) ↔
      Passed (checkEffect place e) ∧ Passed (checkEffects place es) := by
  simp only [Passed, checkEffects, Play.exists_ok_bind, Play.exists_ok_pure, valid_append_iff]
  constructor
  · rintro ⟨first, hfirst, rest, hrest, hvalid, hvalid'⟩
    exact ⟨⟨first, hfirst, hvalid⟩, rest, hrest, hvalid'⟩
  · rintro ⟨⟨first, hfirst, hvalid⟩, rest, hrest, hvalid'⟩
    exact ⟨first, hfirst, rest, hrest, hvalid, hvalid'⟩

/-- The check of a card returns and finds nothing wrong. -/
def Card.Passes (c : Card) : Prop := Passed (checkCard c)

/-- **A card passes** when it has an id and a name, no negative cost, and effects that pass. -/
theorem checkCard_passed {c : Card} : c.Passes ↔ c.id.holds = true ∧ c.name.holds = true ∧
    0 ≤ c.cost ∧ Passed (checkEffects s!"Card '{c.id.shown}'" c.effects) := by
  simp only [Card.Passes, Passed, checkCard, Play.exists_ok_bind, Play.exists_ok_pure,
    valid_append_iff, valid_errorIf, Bool.not_eq_false', decide_eq_false_iff_not, not_lt]
  constructor
  · rintro ⟨effects, heffects, ⟨⟨⟨⟨hid, hname⟩, hcost⟩, hvalid⟩, -⟩, -⟩
    exact ⟨hid, hname, hcost, effects, heffects, hvalid⟩
  · rintro ⟨hid, hname, hcost, effects, heffects, hvalid⟩
    refine ⟨effects, heffects, ⟨⟨⟨⟨hid, hname⟩, hcost⟩, hvalid⟩, checkConditions_valid _ _⟩, ?_⟩
    split <;> rfl

/-! ### Equal cards pass alike -/

theorem Datum.holds_congr {d d' : Datum} (h : d.same d' = true) : d.holds = d'.holds := by
  have numbers {p q : Quantity} (h : p.same q = true) : (!p.same 0) = !q.same 0 := by
    rw [Quantity.same_congr h]
  have truth (b : Bool) :
      (Datum.truth b).holds = !(Quantity.whole (if b then 1 else 0)).same 0 := by
    cases b <;> rfl
  cases d <;> cases d' <;> first
    | rfl
    | cases h
    | exact numbers h
    | exact (truth _).trans (numbers h)
    | exact (numbers h).trans (truth _).symm
    | exact (truth _).trans ((numbers h).trans (truth _).symm)
    | skip
  case text.text s t => rw [eq_of_beq h]
  case list.list items others =>
    cases items <;> cases others <;> first
      | rfl
      | cases h
  case object.object members others =>
    have hlength : members.length = others.length := eq_of_beq (Bool.and_eq_true_iff.1 h).1
    cases members <;> cases others <;> first
      | rfl
      | cases hlength

theorem isEmpty_of_sameAll {es es' : List Effect} (h : Effect.sameAll es es' = true) :
    es.isEmpty = es'.isEmpty := by
  cases es <;> cases es' <;> first
    | rfl
    | cases h

theorem isNone_of_sameOption {o o' : Option Effect} (h : Effect.sameOption o o' = true) :
    o.isNone = o'.isNone := by
  cases o <;> cases o' <;> first
    | rfl
    | cases h

mutual

/-- An effect passes wherever an equal one does. -/
theorem checkEffect_same {place place' : String} : ∀ e e' : Effect, e.same e' = true →
    Passed (checkEffect place e) → Passed (checkEffect place' e')
  | ⟨op, subs, triggered⟩, ⟨op', subs', triggered'⟩, h, he => by
    rw [Effect.same, Bool.and_eq_true, Bool.and_eq_true] at h
    obtain ⟨⟨hop, hsubs⟩, htriggered⟩ := h
    obtain ⟨hkind, hduration, hcount⟩ := Operation.parts_of_same hop
    cases hk : op'.kind with
    | unknown raw =>
      rw [checkEffect, hk]
      exact ⟨_, rfl, rfl⟩
    | known k =>
      rw [checkEffect_passed (Tag.known_of_same hkind hk), checkOperation_passed] at he
      obtain ⟨⟨hgate, hreactive, hshort, hfew⟩, hinside, hfired⟩ := he
      rw [checkEffect_passed hk, checkOperation_passed]
      rw [isEmpty_of_sameAll hsubs] at hgate
      rw [isNone_of_sameOption htriggered] at hreactive
      exact ⟨⟨hgate, hreactive, Datum.notBelow_congr hduration _ ▸ hshort,
        Datum.notBelow_congr hcount _ ▸ hfew⟩, checkEffects_same subs subs' hsubs hinside,
        checkTriggered_same triggered triggered' htriggered hfired⟩
termination_by structural e => e

theorem checkEffects_same {place place' : String} : ∀ es es' : List Effect,
    Effect.sameAll es es' = true → Passed (checkEffects place es) → Passed (checkEffects place' es')
  | [], [], _, _ => ⟨{}, rfl, rfl⟩
  | [], _ :: _, h, _ => by cases h
  | _ :: _, [], h, _ => by cases h
  | e :: es, e' :: es', h, he => by
    rw [Effect.sameAll, Bool.and_eq_true] at h
    rw [checkEffects_passed] at he ⊢
    exact ⟨checkEffect_same e e' h.1 he.1, checkEffects_same es es' h.2 he.2⟩
termination_by structural es => es

theorem checkTriggered_same {place place' : String} : ∀ o o' : Option Effect,
    Effect.sameOption o o' = true → Passed (checkTriggered place o) →
      Passed (checkTriggered place' o')
  | none, none, _, _ => ⟨{}, rfl, rfl⟩
  | none, some _, h, _ => by cases h
  | some _, none, h, _ => by cases h
  | some e, some e', h, he => checkEffect_same e e' h he
termination_by structural o => o

end

/-- **A card passes when an equal one does**, whatever it is written like. -/
theorem Card.passes_same {c c' : Card} (h : c.same c' = true) (hc : c.Passes) : c'.Passes := by
  simp only [Card.same, Bool.and_eq_true] at h
  obtain ⟨⟨⟨⟨⟨⟨⟨⟨⟨⟨⟨⟨hid, hname⟩, -⟩, -⟩, hcost⟩, -⟩, heffects⟩, -⟩, -⟩, -⟩, -⟩, -⟩, -⟩ := h
  obtain ⟨hholds, hholds', hpositive, hpassed⟩ := checkCard_passed.1 hc
  refine checkCard_passed.2 ⟨Datum.holds_congr hid ▸ hholds, Datum.holds_congr hname ▸ hholds',
    eq_of_beq hcost ▸ hpositive, checkEffects_same _ _ heffects hpassed⟩

/-- In a deck that a check lets through every card passes. -/
theorem checkRoster_passes {cards : List Card} {r : Report} (h : checkRoster cards true = .ok r)
    (hvalid : r.valid = true) : ∀ c ∈ cards, c.Passes :=
  checkRoster_all (fun hcheck hvalid => ⟨_, hcheck, hvalid⟩) Card.passes_same h hvalid

/-- A trouble card that no catalog knows passes. -/
theorem madeTrouble_passes {id : Datum} (h : id.holds = true) (number : Nat) :
    (madeTrouble number id).card.Passes := by
  refine checkCard_passed.2 ⟨?_, h, le_rfl, {}, rfl, rfl⟩
  simp [madeTrouble, Datum.holds]

/-! ### What a lesson is opened with -/

/-- The card passes the check of a card, or it is in a catalog. -/
def fromCatalog (catalog : List Card) : Trait where
  effect _ := True
  card x := x.card.Passes ∨ x.card ∈ catalog
  buff _ := True

theorem fromCatalog_handedOn (catalog : List Card) : (fromCatalog catalog).HandedOn where
  ofCard _ _ _ := trivial
  ofGate _ _ _ _ := trivial
  ofBuff _ _ _ := trivial
  made _ _ hid n := .inl (madeTrouble_passes hid n)
  granted _ _ _ _ := trivial
  aged _ _ := trivial

/-- The deck of an order that is read was let through. -/
theorem LessonOrder.opening_ok {stack : Stack} {o : LessonOrder} {opening : Opening}
    (h : o.opening stack = .ok opening) :
    ∃ r, checkRoster opening.deck true = .ok r ∧ r.valid = true := by
  obtain ⟨deck, -, h⟩ := Play.except_bind_ok.1 h
  obtain ⟨catalog, -, h⟩ := Play.except_bind_ok.1 h
  obtain ⟨drinks, -, h⟩ := Play.except_bind_ok.1 h
  obtain ⟨r, hcheck, h⟩ := Play.except_bind_ok.1 h
  obtain ⟨r', hvalid, h⟩ := Play.except_bind_ok.1 h
  obtain rfl := Play.except_pure_ok.1 h
  refine ⟨r, hcheck, ?_⟩
  unfold Report.orFault at hvalid
  split at hvalid
  · assumption
  · cases hvalid

/-- A lesson is opened with the cards that are dealt from the deck and the catalog. -/
theorem Opening.lesson_ok {o : Opening} {l : Lesson} {c c' : Chance}
    (h : o.lesson c = (.ok l, c')) : ∃ catalog,
      Opened o.status (Copy.deal 0 o.deck) o.drinks o.length catalog l ∧
        ∀ x ∈ Copy.deal 0 o.deck ++ catalog.map (·.2), x.card ∈ o.deck ∨ x.card ∈ o.catalog := by
  obtain ⟨catalog, c₁, hx, h⟩ := Play.bind_ok.1 h
  obtain ⟨hcatalog, rfl⟩ := Play.except_ok.1 hx
  have dealt {first : Nat} {cards : List Card} {x : Copy} (hx : x ∈ Copy.deal first cards) :
      x.card ∈ cards := by
    rw [← Copy.deal_cards first cards]
    exact List.mem_map_of_mem hx
  refine ⟨catalog, (openLesson_ok h).1, fun x hx => ?_⟩
  rcases List.mem_append.1 hx with hx | hx
  · exact .inl (dealt hx)
  · rcases mem_ofCopies hcatalog hx with hx | hx
    · exact .inr (dealt hx)
    · exact absurd hx List.not_mem_nil

/-- A lesson that is opened with a deck of cards that pass holds such cards and cards of the
catalog. -/
theorem Opening.lesson_bears {o : Opening} {l : Lesson} {c c' : Chance}
    (hdeck : ∀ card ∈ o.deck, card.Passes) (h : o.lesson c = (.ok l, c')) :
    l.Bears (fromCatalog o.catalog) := by
  obtain ⟨catalog, hopened, hcards⟩ := Opening.lesson_ok h
  exact hopened.bears (fun x hx => (hcards x hx).imp_left (hdeck x.card)) fun _ _ _ _ => trivial

/-- A session that is opened starts with the lesson of its opening. -/
theorem Host.start_lesson {o : Opening} {host host' : Host} {s : Session}
    (h : Host.start o host = (.ok s, host')) : ∃ c c', o.lesson c = (.ok s.lesson, c') := by
  unfold Host.start at h
  rcases hlesson : o.lesson ⟨.ofSeed (o.seed.getD 0), host.named⟩ with ⟨f | lesson, chance⟩ <;>
    rw [hlesson] at h <;> cases h
  exact ⟨_, _, hlesson⟩

/-! ### Lessons that are ordered -/

/-- **The cards of an ordered lesson pass the check of a card, or come from the catalog**, whatever
moves lead to and whatever they draw. With a catalog of cards that pass all of them do. -/
theorem ordered_cards_pass {stack : Stack} {o : LessonOrder} {opening : Opening}
    {host host' : Host} {s : Session} (hread : o.opening stack = .ok opening)
    (hstart : Host.start opening host = (.ok s, host')) :
    (∀ l, Led (fun _ => True) s.lesson l →
      ∀ x ∈ l.zones, x.card.Passes ∨ x.card ∈ opening.catalog) ∧
    ((∀ card ∈ opening.catalog, card.Passes) → ∀ l, Led (fun _ => True) s.lesson l →
      ∀ x ∈ l.zones, x.card.Passes) := by
  obtain ⟨r, hcheck, hvalid⟩ := LessonOrder.opening_ok hread
  obtain ⟨c, c', hlesson⟩ := Host.start_lesson hstart
  have hopened : s.lesson.Bears (fromCatalog opening.catalog) :=
    Opening.lesson_bears (checkRoster_passes hcheck hvalid) hlesson
  have hzones {l : Lesson} (hl : Led (fun _ => True) s.lesson l) {x : Copy} (hx : x ∈ l.zones) :
      x.card.Passes ∨ x.card ∈ opening.catalog :=
    (hl.bears (fromCatalog_handedOn _) hopened).zones x hx
  exact ⟨fun l hl x hx => hzones hl hx,
    fun hcatalog l hl x hx => (hzones hl hx).elim id (hcatalog x.card)⟩

/-- An order of a lesson with a card that upgrades the hand and one to be upgraded, whose upgrade is
in the catalog at some cost. -/
def upgradeOrder (cost : Int) : LessonOrder where
  cards := [
    .object [("id", .text "a"), ("name", .text "A"), ("startInHand", .truth true),
      ("effects", .list [.object [("type", .text "upgrade_hand")]])],
    .object [("id", .text "b"), ("name", .text "B"), ("startInHand", .truth true)]]
  status := {}
  schedule := []
  drinks := []
  maxTurns := none
  catalog := [.object [("id", .text "b+"), ("name", .text "B+"), ("cost", .whole cost)]]
  seed := some 0

/-- The upgrade. -/
def upgradeCard (cost : Int) : Card := { id := .text "b+", name := .text "B+", cost }

/-- What the order is read as. -/
def upgradeOpening (cost : Int) : Opening where
  deck := [
    { id := .text "a", name := .text "A", startInHand := true
      effects := [.of { kind := .known .upgradeHand }] },
    { id := .text "b", name := .text "B", startInHand := true }]
  catalog := [upgradeCard cost]
  seed := some 0

/-- The upgrade costs something, so all cards pass. -/
theorem ordered_cards_pass_upgrade : ∃ opening s host',
    (upgradeOrder 3).opening .endless = .ok opening ∧ Host.start opening {} = (.ok s, host') ∧
      ∀ l, Led (fun _ => True) s.lesson l → ∀ x ∈ l.zones, x.card.Passes := by
  have hread : (upgradeOrder 3).opening .endless = .ok (upgradeOpening 3) := by rfl
  have hok : (Host.start (upgradeOpening 3) {}).1.toOption.any (fun _ => true) = true := by
    decide +kernel
  rcases hstart : Host.start (upgradeOpening 3) {} with ⟨f | s, host'⟩
  · rw [hstart] at hok
    cases hok
  refine ⟨upgradeOpening 3, s, host', hread, hstart, (ordered_cards_pass hread hstart).2 ?_⟩
  intro card hcard
  rw [List.mem_singleton.1 hcard]
  exact checkCard_passed.2 ⟨by decide, by decide, by decide, {}, rfl, rfl⟩

/-- **A card that no check has seen comes into the hand.** The order is let through; the first play
upgrades the hand, and the upgrade, which has a negative cost, does not pass. -/
theorem unchecked_card_is_drawn_in : ∃ opening s host' l c,
    (upgradeOrder (-3)).opening .endless = .ok opening ∧ Host.start opening {} = (.ok s, host') ∧
      s.lesson.play (.text "a") ⟨s.source, host'.named⟩ = (.ok (some l), c) ∧
        ∃ x ∈ l.zones, ¬x.card.Passes := by
  have hread : (upgradeOrder (-3)).opening .endless = .ok (upgradeOpening (-3)) := by rfl
  have hdrawn : ((Host.start (upgradeOpening (-3)) {}).1.toOption.any fun s =>
      (s.lesson.play (.text "a")
        ⟨s.source, (Host.start (upgradeOpening (-3)) {}).2.named⟩).1.toOption.any fun next =>
          next.any fun l => l.zones.any fun x => decide (x.card.cost < 0)) = true := by
    decide +kernel
  rcases hstart : Host.start (upgradeOpening (-3)) {} with ⟨f | s, host'⟩ <;> rw [hstart] at hdrawn
  · cases hdrawn
  obtain ⟨next, c, hplay, hnext⟩ := Play.ok_of_any hdrawn
  obtain ⟨l, rfl, hl⟩ := (Option.any_eq_true _ _).1 hnext
  obtain ⟨x, hx, hcost⟩ := List.any_eq_true.1 hl
  refine ⟨_, s, host', l, c, hread, hstart, hplay, x, hx, fun hpasses => ?_⟩
  exact absurd (of_decide_eq_true hcost) (not_lt.2 (checkCard_passed.1 hpasses).2.2.1)

end CardLesson
