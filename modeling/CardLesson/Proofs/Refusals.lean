/-
# Records that no card can be read from

Whatever the members of a record are, its card is read or the record is refused as faulty card
data, with three exceptions. The cost is cut to a whole number, and an infinity, which a number in a
text becomes that is past all doubles, has no whole part: that is an overflow. What is wrong with a
record is put into words, and words cannot hold a number of too many figures. And a stack may give
out on a record that is nested deep. None of these is told as faulty card data, so an order of a
lesson that brings such a record is answered as if the service had failed.

All faults of a reader are faults of the data that it was given (`spoils`): a datum of the wrong
kind, a member that is not there, a value that is not allowed. This goes by recursion over the data,
one lemma for each reader; only the cost can add a fault of its own.

Key definitions: `Datum.Endless`, `Card.Boundless`, `Card.Unspeakable`, `Card.Escapes`,
`LessonOrder.StopsAt`.
Key theorems: `Effect.read_spoils`, `Card.readBody_faults`, `Card.readRecord_faults`,
`Card.readOn_faults`, `LessonOrder.opening_refused`, `Service.answer_refused`,
`records_are_refused`.
-/
import CardLesson.Proofs.CardFiles
import CardLesson.Proofs.Failing
import CardLesson.Proofs.Replies

namespace CardLesson

open Play (except_bind_error)

/-! ### Readers of effects and conditions -/

/-- The reader fails with faults of the data only. -/
abbrev Spoils {α : Type} (x : Except Fault α) : Prop := FailsOnly (fun f => spoils f = true) x

namespace Spoils

variable {α : Type} {members : Members}

theorem require {key : String} : Spoils (require members key) := by
  unfold CardLesson.require
  split
  · exact .ok
  · exact .error rfl

theorem notARecord : ∀ d : Datum, spoils (notARecord d) = true
  | .null | .truth _ | .number _ | .text _ | .list _ | .object _ => rfl

theorem readItems {readItem : Datum → Except Fault α} (h : ∀ d, Spoils (readItem d)) :
    ∀ d : Datum, Spoils (readItems readItem d)
  | .list _ => .mapM fun d _ => h d
  | .text _ => .mapM fun _ _ => h _
  | .object _ => .mapM fun _ _ => h _
  | .null | .truth _ | .number _ => .error rfl

/-- What is read under one key, or else under another. -/
theorem either {a b : Option (Except Fault α)} {x : α} (ha : ∀ r, a = some r → Spoils r)
    (hb : ∀ r, b = some r → Spoils r) : Spoils ((a <|> b).getD (.ok x)) := by
  cases a with
  | some r => exact ha r rfl
  | none =>
    cases b with
    | some r => exact hb r rfl
    | none => exact .ok

end Spoils

theorem Condition.readComparison_spoils {members : Members} :
    Spoils (Condition.readComparison members) := by
  unfold Condition.readComparison
  split
  · exact .ok
  · split
    · exact .ok
    · exact .error rfl

theorem Condition.read_spoils : ∀ d : Datum, Spoils (Condition.read d)
  | .object _ =>
    Condition.readComparison_spoils.bind fun _ _ => Spoils.require.bind fun _ _ => .pure
  | .null | .truth _ | .number _ | .text _ | .list _ => .error (Spoils.notARecord _)

theorem readOptionalCondition_spoils {d : Datum} : Spoils (readOptionalCondition d) :=
  .ite (fun _ => (Condition.read_spoils d).map) fun _ => .ok

namespace Operation

theorem read_spoils {members : Members} : Spoils (Operation.read members) := by
  refine Spoils.require.bind fun _ _ => ?_
  split
  · exact (Spoils.readItems Condition.read_spoils _).bind fun _ _ => .pure
  · exact .pure

theorem readTrigger_spoils {members : Members} {op : Operation} : Spoils (op.readTrigger members) :=
  readOptionalCondition_spoils.bind fun _ _ => .pure

end Operation

namespace Effect

mutual

/-- **An effect is read, or the data are faulty**, at any depth. -/
theorem read_spoils : ∀ d : Datum, Spoils (read d)
  | .object members => by
    rw [read]
    refine Operation.read_spoils.bind fun _ _ => ?_
    refine FailsOnly.bind (Spoils.either (listUnder_spoils members _) (listUnder_spoils members _))
      fun _ _ => ?_
    refine FailsOnly.bind (Spoils.either (under_spoils members _) (under_spoils members _))
      fun _ _ => ?_
    exact Operation.readTrigger_spoils.bind fun _ _ => .pure
  | .null | .truth _ | .number _ | .text _ | .list _ => .error (Spoils.notARecord _)
termination_by structural d => d

theorem readSequence_spoils : ∀ d : Datum, Spoils (readSequence d)
  | .list items => readAll_spoils items
  | .text _ => .ite (fun _ => .ok) fun _ => .error rfl
  | .object _ => .ite (fun _ => .ok) fun _ => .error rfl
  | .null | .truth _ | .number _ => .error rfl
termination_by structural d => d

theorem readAll_spoils : ∀ ds : List Datum, Spoils (readAll ds)
  | [] => .ok
  | d :: ds => (read_spoils d).bind fun _ _ => (readAll_spoils ds).bind fun _ _ => .pure
termination_by structural ds => ds

theorem listUnder_spoils : ∀ (ms : List (String × Datum)) (key : String) (r),
    listUnder key ms = some r → Spoils r
  | (k, d) :: ms, key, r, h => by
    rw [listUnder] at h
    split at h
    · split at h
      · cases h
      · exact Option.some.inj h ▸ readSequence_spoils d
    · exact listUnder_spoils ms key r h
termination_by structural ms => ms

theorem under_spoils : ∀ (ms : List (String × Datum)) (key : String) (r),
    under key ms = some r → Spoils r
  | (k, d) :: ms, key, r, h => by
    rw [under] at h
    split at h
    · split at h
      · cases h
      · split at h
        · exact Option.some.inj h ▸ (read_spoils d).map
        · exact Option.some.inj h ▸ .ok
    · exact under_spoils ms key r h
termination_by structural ms => ms

end

end Effect

theorem readEffects_spoils {members : Members} : Spoils (readEffects members) :=
  .ite (fun _ => Effect.readSequence_spoils _) fun _ => .ok

/-! ### The cost of a card -/

theorem readWhole_spoils {s : String} : Spoils (readWhole s) := by
  unfold readWhole
  dsimp only
  split
  · exact .error rfl
  · exact .ite (fun _ => .error rfl) fun _ => .ite (fun _ => .ok) fun _ => .error rfl

namespace Datum

/-- The datum is an infinity. -/
def Endless (d : Datum) : Prop := ∃ negative, d = .number (.real (.infinite negative))

theorem Endless.orElse {d other : Datum} (h : d.Endless) : d.orElse other = d := by
  obtain ⟨negative, rfl⟩ := h
  cases negative <;> rfl

theorem Endless.of_orElse_zero {d : Datum} (h : (d.orElse (.whole 0)).Endless) : d.Endless := by
  unfold Datum.orElse at h
  split at h
  · exact h
  · obtain ⟨negative, h⟩ := h
    cases h

/-- Making a whole number of a datum that is no infinity fails for faults of the datum only. -/
theorem toWhole_spoils {d : Datum} (h : ¬d.Endless) : Spoils d.toWhole := by
  cases d with
  | number q =>
    cases q with
    | whole n => exact .ok
    | real x =>
      cases x with
      | finite negative m e => exact .ok
      | infinite negative => exact absurd ⟨negative, rfl⟩ h
      | notANumber => exact .error rfl
  | text s => exact readWhole_spoils
  | truth b => exact .ok
  | null | list items | object members => exact .error rfl

theorem Endless.toWhole {d : Datum} (h : d.Endless) : d.toWhole = .error .tooLarge := by
  obtain ⟨negative, rfl⟩ := h
  rfl

end Datum

/-! ### Reading a card -/

namespace Card

variable {members : Members}

/-- The record is that of a card but for its cost, which is infinite: id and name are there, and
effects and conditions can be read. -/
structure Boundless (members : Members) : Prop where
  id : (Datum.member? "id" members).isSome = true
  name : (Datum.member? "name" members).isSome = true
  effects : ∃ es, readEffects members = .ok es
  conditions : ∃ cs, readConditions members = .ok cs
  cost : (lookup members ["cost"] .null).Endless

theorem readConditions_spoils : Spoils (readConditions members) :=
  .ite (fun _ => Spoils.readItems Condition.read_spoils _) fun _ => .pure

/-- Effects, conditions and cost of a card are read, or the data are faulty, or the first two are
read and the cost is infinite, which is an overflow. -/
theorem readBody_faults {f : Fault} (h : readBody members = .error f) :
    spoils f = true ∨ f = .tooLarge ∧ (∃ es, readEffects members = .ok es) ∧
      (∃ cs, readConditions members = .ok cs) ∧ (lookup members ["cost"] .null).Endless := by
  rw [readBody_eq] at h
  rcases except_bind_error.1 h with h | ⟨es, hes, h⟩
  · exact .inl (readEffects_spoils f h)
  rcases except_bind_error.1 h with h | ⟨cs, hcs, h⟩
  · exact .inl (readConditions_spoils f h)
  rcases except_bind_error.1 h with h | ⟨cost, -, h⟩
  · by_cases hend : ((lookup members ["cost"] .null).orElse (.whole 0)).Endless
    · rw [hend.toWhole] at h
      exact .inr ⟨(Except.error.inj h).symm, ⟨es, hes⟩, ⟨cs, hcs⟩, hend.of_orElse_zero⟩
    · exact .inl (Datum.toWhole_spoils hend f h)
  · cases h

theorem readWord_isCardData {α : Type} [Named α] {id : Datum} {field : String} {raw : Datum} :
    FailsOnly (fun f => f.isCardData = true) (readWord α id field raw) := by
  unfold readWord
  split
  · exact .ok
  · exact .error rfl

/-- What is wrong with the record cannot be put into words: they would show a number that has too
many figures. -/
def Unspeakable (members : Members) : Prop :=
  ∃ f, readRecord (.object members) = .error f ∧ ∃ d ∈ f.shownData, d.isPrintable = false

section Read

variable {id name : Datum}

/-- What is wrong with the body of a card is faulty card data when it is a fault of the data. -/
theorem read_body_fails {f : Fault} (hid : Datum.member? "id" members = some id)
    (hname : Datum.member? "name" members = some name) (hbody : readBody members = .error f) :
    readRecord (.object members) = .error (if spoils f then .cardEffects id f else f) := by
  simp only [readRecord, hid, hname, hbody]

/-- A card whose body is read fails for its words only. -/
theorem read_of_readBody {body : List Effect × List Condition × Int}
    (hid : Datum.member? "id" members = some id) (hname : Datum.member? "name" members = some name)
    (hbody : readBody members = .ok body) :
    FailsOnly (fun f => f.isCardData = true) (readRecord (.object members)) := by
  simp only [readRecord, hid, hname, hbody]
  refine readWord_isCardData.bind fun type _ => readWord_isCardData.bind fun costType _ => ?_
  by_cases husage : (lookup members ["usageLimit", "usage_limit"] .null).holds = true
  · rw [if_pos husage]
    exact readWord_isCardData.map.bind fun _ _ => .pure
  · rw [if_neg husage]
    exact FailsOnly.pure.bind fun _ _ => .pure

end Read

/-- **Reading a card fails for faulty card data, or for an overflow**, and it overflows exactly
when all that is read of the record is in order but the cost. -/
theorem readRecord_faults {f : Fault} (h : readRecord (.object members) = .error f) :
    f.isCardData = true ∨ f = .tooLarge ∧ Boundless members := by
  cases hid : Datum.member? "id" members with
  | none =>
    simp only [readRecord, hid] at h
    exact .inl (Except.error.inj h ▸ rfl)
  | some id =>
    cases hname : Datum.member? "name" members with
    | none =>
      simp only [readRecord, hid, hname] at h
      exact .inl (Except.error.inj h ▸ rfl)
    | some name =>
      cases hbody : readBody members with
      | ok body => exact .inl (read_of_readBody hid hname hbody f h)
      | error g =>
        rw [read_body_fails hid hname hbody] at h
        obtain rfl := Except.error.inj h
        rcases readBody_faults hbody with hspoils | ⟨rfl, hes, hcs, hcost⟩
        · rw [if_pos hspoils]
          exact .inl rfl
        · exact .inr ⟨rfl, by rw [hid]; rfl, by rw [hname]; rfl, hes, hcs, hcost⟩

theorem Boundless.readRecord (h : Boundless members) :
    readRecord (.object members) = .error .tooLarge := by
  obtain ⟨id, hid⟩ := Option.isSome_iff_exists.1 h.id
  obtain ⟨name, hname⟩ := Option.isSome_iff_exists.1 h.name
  obtain ⟨es, hes⟩ := h.effects
  obtain ⟨cs, hcs⟩ := h.conditions
  have hbody : readBody members = .error .tooLarge := by
    rw [readBody_eq, hes, hcs, h.cost.orElse, h.cost.toWhole]
    rfl
  exact read_body_fails hid hname hbody

/-! ### What is raised for a record -/

/-- A fault is raised as it is, or it cannot be put into words. -/
theorem raised_cases (f : Fault) :
    f.raised = f ∧ (∀ d ∈ f.shownData, d.isPrintable = true) ∨
      f.raised = .badValue .unprintable ∧ ∃ d ∈ f.shownData, d.isPrintable = false := by
  unfold Fault.raised
  by_cases hall : f.shownData.all Datum.isPrintable = true
  · exact .inl ⟨if_pos hall, List.all_eq_true.1 hall⟩
  · obtain ⟨d, hd, hprint⟩ := List.all_eq_false.1 (Bool.eq_false_iff.2 hall)
    exact .inr ⟨if_neg hall, d, hd, Bool.eq_false_iff.2 hprint⟩

theorem read_tooLarge_iff : read (.object members) = .error .tooLarge ↔ Boundless members := by
  rw [read_eq_error]
  constructor
  · rintro ⟨g, hread, hraised⟩
    rcases readRecord_faults hread with hdata | ⟨-, hboundless⟩
    · rcases raised_cases g with ⟨heq, -⟩ | ⟨heq, -⟩
      · rw [← heq, hraised] at hdata
        cases hdata
      · cases hraised.symm.trans heq
    · exact hboundless
  · intro h
    exact ⟨_, h.readRecord, rfl⟩

theorem read_unprintable_iff :
    read (.object members) = .error (.badValue .unprintable) ↔ Unspeakable members := by
  rw [read_eq_error]
  constructor
  · rintro ⟨g, hread, hraised⟩
    rcases raised_cases g with ⟨heq, -⟩ | ⟨-, hshown⟩
    · -- no reader leaves a bad value as it is
      rw [← heq, hraised] at hread
      rcases readRecord_faults hread with hdata | ⟨hlarge, -⟩
      · cases hdata
      · cases hlarge
    · exact ⟨g, hread, hshown⟩
  · rintro ⟨g, hread, d, hd, hprint⟩
    refine ⟨g, hread, ?_⟩
    rcases raised_cases g with ⟨-, hall⟩ | ⟨heq, -⟩
    · rw [hall d hd] at hprint
      cases hprint
    · exact heq

/-- **What is raised for a record** is a fault in card data, unless its cost is infinite or it
cannot be put into words. -/
theorem read_faults {f : Fault} (h : read (.object members) = .error f) :
    f.isCardData = true ∧ ¬Boundless members ∧ ¬Unspeakable members ∨
      f = .tooLarge ∧ Boundless members ∨ f = .badValue .unprintable ∧ Unspeakable members := by
  have hlarge : f = .tooLarge ↔ Boundless members := by
    rw [← read_tooLarge_iff, h, Except.error.injEq]
  have hplain : f = .badValue .unprintable ↔ Unspeakable members := by
    rw [← read_unprintable_iff, h, Except.error.injEq]
  obtain ⟨g, hread, rfl⟩ := read_eq_error.1 h
  rcases raised_cases g with ⟨heq, -⟩ | ⟨heq, -⟩
  · rcases readRecord_faults hread with hdata | ⟨rfl, hboundless⟩
    · rw [heq] at hlarge hplain ⊢
      refine .inl ⟨hdata, fun hb => ?_, fun hu => ?_⟩
      · rw [hlarge.2 hb] at hdata
        cases hdata
      · rw [hplain.2 hu] at hdata
        cases hdata
    · exact .inr (.inl ⟨rfl, hboundless⟩)
  · exact .inr (.inr ⟨heq, hplain.1 heq⟩)

/-- Reading the record on a stack ends otherwise than with a card or with faulty card data. -/
def Escapes (stack : Stack) (members : Members) : Prop :=
  stack.holds (.object members) = false ∨ Boundless members ∨ Unspeakable members

/-- **What is raised on a stack** is a fault in card data, unless the record escapes. -/
theorem readOn_faults {stack : Stack} {f : Fault}
    (h : stack.readOn read (.object members) = .error f) :
    f.isCardData = true ∧ ¬Escapes stack members ∨
      f = .tooLarge ∧ stack.holds (.object members) = true ∧ Boundless members ∨
      f = .badValue .unprintable ∧ stack.holds (.object members) = true ∧ Unspeakable members ∨
      f = .tooDeep ∧ stack.holds (.object members) = false := by
  unfold Stack.readOn at h
  split at h
  · next hholds =>
    rcases read_faults h with ⟨hdata, hbounded, hspoken⟩ | ⟨hlarge, hboundless⟩ |
      ⟨hplain, hunspeakable⟩
    · refine .inl ⟨hdata, ?_⟩
      rintro (hgone | hboundless | hunspeakable)
      · rw [hholds] at hgone
        cases hgone
      · exact hbounded hboundless
      · exact hspoken hunspeakable
    · exact .inr (.inl ⟨hlarge, hholds, hboundless⟩)
    · exact .inr (.inr (.inl ⟨hplain, hholds, hunspeakable⟩))
  · next hgone =>
    exact .inr (.inr (.inr ⟨(Except.error.inj h).symm, Bool.eq_false_iff.2 hgone⟩))

end Card

/-- What a stack does not hold is nested deeper than the levels it has. -/
theorem Stack.levels_lt {stack : Stack} {d : Datum} (h : stack.holds d = false) :
    stack.levels < d.depth := by
  by_contra hshallow
  rw [stack.holds_shallow d (Nat.not_lt.1 hshallow)] at h
  cases h

/-! ### Orders with records that are refused -/

namespace LessonOrder

variable {o : LessonOrder} {d : Datum} {f : Fault}

/-- The record is the first of the order, the deck before the catalog, that no card can be read
from. -/
inductive StopsAt (stack : Stack) (o : LessonOrder) (d : Datum) : Prop
  | deck {before after : List Datum} {read : List Card} (split : o.cards = before ++ d :: after)
      (start : before.mapM (stack.readOn Card.read) = .ok read)
      (refused : ∀ c, stack.readOn Card.read d ≠ .ok c)
  | catalog {before after : List Datum} {deck read : List Card}
      (cards : o.cards.mapM (stack.readOn Card.read) = .ok deck)
      (split : o.catalog = before ++ d :: after)
      (start : readCatalog stack [] before = .ok read)
      (refused : ∀ c, stack.readOn Card.read d ≠ .ok c)

variable {stack : Stack}

theorem StopsAt.fault (h : o.StopsAt stack d) : ∃ f, stack.readOn Card.read d = .error f := by
  have hrefused : ∀ c, stack.readOn Card.read d ≠ .ok c := by cases h <;> assumption
  cases hread : stack.readOn Card.read d with
  | error f => exact ⟨f, rfl⟩
  | ok c => exact absurd hread (hrefused c)

theorem readCatalog_append : ∀ (before after : List Datum) (done : List Card),
    readCatalog stack done (before ++ after) = (do
      readCatalog stack (← readCatalog stack done before) after)
  | [], _, _ => rfl
  | b :: before, after, done => by
    rw [List.cons_append, readCatalog, readCatalog]
    simp only [bind_assoc, readCatalog_append before after]

/-- **An order fails with the fault of the first record that no card can be read from.** -/
theorem opening_refused (h : o.StopsAt stack d) (hd : stack.readOn Card.read d = .error f) :
    o.opening stack = .error f := by
  unfold opening
  cases h with
  | deck hsplit hstart _ =>
    rw [hsplit, List.mapM_append, hstart, List.mapM_cons, hd]
    rfl
  | catalog hcards hsplit hstart _ =>
    rw [hcards, hsplit, readCatalog_append, hstart]
    show (readCatalog _ _ (d :: _) >>= _) = _
    rw [readCatalog, hd]
    rfl

end LessonOrder

/-- A request for a lesson is answered with the fault of the first record that no card can be read
from, and changes nothing. -/
theorem Service.answer_refused {fw : Framework} {host : Host} {r : Request} {o : LessonOrder}
    {d : Datum} {f : Fault} (hgoes : fw.route r.method r.target = .ok .openSession)
    (holds : fw.lesson r.body = .ok o) (hstops : o.StopsAt fw.stack d)
    (hd : fw.stack.readOn Card.read d = .error f) : answerBy fw r host = (.ofFault f, host) := by
  refine answer_error hgoes ?_
  unfold serve withBody
  rw [holds]
  show ((liftM (o.opening fw.stack) : Hosting Opening) >>= _) host = _
  rw [Hosting.except_bind, LessonOrder.opening_refused hstops hd]

theorem Reply.ofFault_isCardData {f : Fault} (h : f.isCardData = true) :
    ofFault f = error .invalidCardData f.message := by
  cases f <;> first | rfl | cases h

/-- **A record is read as a card or refused as faulty card data**, whatever is in it, but for three
escapes: all that is read of it is in order but an infinite cost; what is wrong with it would show a
number of too many figures; or the stack does not hold it, as it does hold what is nested in few
levels. So in any framework a request for a lesson that comes to a record which is refused changes
nothing, and is told that the card data are faulty; only the escapes are told as a failure of the
service. -/
theorem records_are_refused (stack : Stack) (members : Members) :
    (∀ f, stack.readOn Card.read (.object members) = .error f → f.isCardData = true ∨
      f = .tooLarge ∨ f = .badValue .unprintable ∨
        f = .tooDeep ∧ stack.levels < (Datum.object members).depth) ∧
    (stack.readOn Card.read (.object members) = .error .tooLarge ↔
      stack.holds (.object members) = true ∧ Card.Boundless members) ∧
    (stack.readOn Card.read (.object members) = .error (.badValue .unprintable) ↔
      stack.holds (.object members) = true ∧ Card.Unspeakable members) ∧
    (stack.readOn Card.read (.object members) = .error .tooDeep ↔
      stack.holds (.object members) = false) ∧
    ∀ (fw : Framework) (host : Host) (r : Request) (o : LessonOrder), fw.stack = stack →
      fw.route r.method r.target = .ok .openSession → fw.lesson r.body = .ok o →
      o.StopsAt stack (.object members) →
        (Service.answerBy fw r host).2 = host ∧
        ((Service.answerBy fw r host).1.status = 400 ∧ ¬Card.Escapes stack members ∨
          (Service.answerBy fw r host).1.status = 500 ∧ Card.Escapes stack members) := by
  have hheld (hholds : stack.holds (.object members) = true) :
      stack.readOn Card.read (.object members) = Card.read (.object members) := if_pos hholds
  refine ⟨fun f h => ?_, ⟨fun h => ?_, fun ⟨hholds, hboundless⟩ => ?_⟩,
    ⟨fun h => ?_, fun ⟨hholds, hunspeakable⟩ => ?_⟩, ⟨fun h => ?_, fun hgone => ?_⟩, ?_⟩
  · rcases Card.readOn_faults h with ⟨hdata, -⟩ | ⟨hlarge, -⟩ | ⟨hplain, -⟩ | ⟨hdeep, hgone⟩
    · exact .inl hdata
    · exact .inr (.inl hlarge)
    · exact .inr (.inr (.inl hplain))
    · exact .inr (.inr (.inr ⟨hdeep, Stack.levels_lt hgone⟩))
  · rcases Card.readOn_faults h with ⟨hdata, -⟩ | ⟨-, hlarge⟩ | ⟨hplain, -⟩ | ⟨hdeep, -⟩
    · cases hdata
    · exact hlarge
    · cases hplain
    · cases hdeep
  · rw [hheld hholds]
    exact Card.read_tooLarge_iff.2 hboundless
  · rcases Card.readOn_faults h with ⟨hdata, -⟩ | ⟨hlarge, -⟩ | ⟨-, hplain⟩ | ⟨hdeep, -⟩
    · cases hdata
    · cases hlarge
    · exact hplain
    · cases hdeep
  · rw [hheld hholds]
    exact Card.read_unprintable_iff.2 hunspeakable
  · rcases Card.readOn_faults h with ⟨hdata, -⟩ | ⟨hlarge, -⟩ | ⟨hplain, -⟩ | ⟨-, hgone⟩
    · cases hdata
    · cases hlarge
    · cases hplain
    · exact hgone
  · exact if_neg (Bool.eq_false_iff.1 hgone)
  · rintro fw host r o rfl hgoes holds hstops
    obtain ⟨f, hf⟩ := hstops.fault
    rw [Service.answer_refused hgoes holds hstops hf]
    refine ⟨rfl, ?_⟩
    rcases Card.readOn_faults hf with ⟨hdata, hcaught⟩ | ⟨rfl, -, hboundless⟩ |
      ⟨rfl, -, hunspeakable⟩ | ⟨rfl, hgone⟩
    · refine .inl ⟨?_, hcaught⟩
      rw [Reply.ofFault_isCardData hdata]
      rfl
    · exact .inr ⟨rfl, .inr (.inl hboundless)⟩
    · exact .inr ⟨rfl, .inr (.inr hunspeakable)⟩
    · exact .inr ⟨rfl, .inl hgone⟩

/-- A record of a card of a type that there is none of. -/
def mistypedRecord : Members :=
  [("id", .text "b"), ("name", .text "B"), ("type", .list [.text "active"])]

/-- A request for a lesson that brings such a card in its catalog, after one that can be read. -/
def mistypedRequest : Request where
  method := "POST"
  target := "/api/v1/sessions"
  body := some (.object
    [("cards", .list [.object [("id", .text "a"), ("name", .text "A")]]),
      ("catalog", .list [.object [("id", .text "a+"), ("name", .text "A+")],
        .object mistypedRecord])])

theorem mistyped_record_is_refused : (Service.answer mistypedRequest {}).1.status = 400 := by
  obtain ⟨-, -, -, -, hanswer⟩ := records_are_refused .endless mistypedRecord
  have hfind : Endpoint.find mistypedRequest.method mistypedRequest.target = .ok .openSession := by
    decide +kernel
  obtain ⟨o, holds, hstops⟩ : ∃ o, Framework.usual.lesson mistypedRequest.body = .ok o ∧
      o.StopsAt .endless (.object mistypedRecord) :=
    ⟨_, rfl, @LessonOrder.StopsAt.catalog _ _ _ [.object [("id", .text "a+"), ("name", .text "A+")]]
      [] _ _ rfl rfl rfl nofun⟩
  obtain ⟨-, h | ⟨-, hescapes⟩⟩ := hanswer .usual {} mistypedRequest o rfl
    (congrArg (Except.mapError Reply.ofMiss) hfind) holds hstops
  · exact h.1
  · rcases hescapes with hgone | hboundless | ⟨f, hread, d, hd, hprint⟩
    · cases hgone
    · obtain ⟨negative, hcost⟩ := hboundless.cost
      cases hcost
    · cases hread
      rcases List.mem_cons.1 hd with rfl | hd
      · cases hprint
      · obtain rfl := List.mem_singleton.1 hd
        cases hprint

/-- A record of a card with a cost past all doubles. -/
def overpricedRecord : Members :=
  [("id", .text "x"), ("name", .text "X"), ("cost", .number (.real (.infinite false)))]

/-- A list of that card alone, as a text. -/
def overpricedFile : String := "[\x7b\"id\": \"x\", \"name\": \"X\", \"cost\": 1e400\x7d]"

/-- A request for a lesson with that card alone. -/
def overpricedRequest : Request where
  method := "POST"
  target := "/api/v1/sessions"
  body := some (.object [("cards", .list [.object overpricedRecord])])

/-- A text writes the record with a number of a few figures. No card is read from it, but the fault
is none of card data, and the request is answered as if the service had failed. -/
theorem infinite_cost_fails_the_service :
    (∃ f, CardFile.read "cards.json" overpricedFile = .error f ∧ f.className = "OverflowError" ∧
      f.isCardData = false) ∧
    (∃ f, Card.read (.object overpricedRecord) = .error f ∧ f.isCardData = false) ∧
    (Service.answer overpricedRequest {}).1.status = 500 := by
  have hboundless : Card.Boundless overpricedRecord :=
    ⟨rfl, rfl, ⟨[], rfl⟩, ⟨[], rfl⟩, ⟨false, rfl⟩⟩
  have hfile : (match CardFile.read "cards.json" overpricedFile with
      | .error f => decide (f.className = "OverflowError") && !f.isCardData
      | .ok _ => false) = true := by decide +kernel
  refine ⟨?_, ⟨.tooLarge, Card.read_tooLarge_iff.2 hboundless, rfl⟩, by decide +kernel⟩
  cases hread : CardFile.read "cards.json" overpricedFile with
  | ok cards =>
    rw [hread] at hfile
    cases hfile
  | error f =>
    simp only [hread, Bool.and_eq_true, decide_eq_true_eq, Bool.not_eq_true'] at hfile
    exact ⟨f, rfl, hfile⟩

end CardLesson
