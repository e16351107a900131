/-
# Card files are read as they were written

A list of cards that was read from a file is written to a file that reads as the same list, but for
one field: a rarity that holds nothing (an empty text, a zero) is left out when the card is written,
and so it is missing afterwards (`Card.settled`). All other fields that can be empty come back as
they were, because an empty field and a missing one are read alike. So the lists are equal exactly
when each rarity is missing or holds something.

Key definitions: `Card.fields`, `Card.settled`, `Card.Carries`, `Card.AllSame`.
Key theorems: `Card.read_write`, `Card.write_storable`, `Card.same_settled_iff`,
`card_files_are_restored`.
-/
import Mathlib.Data.List.Forall2
import CardLesson.Card.Collection
import CardLesson.Proofs.Stored

namespace CardLesson

open Play (except_bind_ok except_mem_mapM)

/-! ### Fields of cards -/

/-- A field, if it holds something. -/
def heldField (key : String) (d : Datum) : Members := if d.holds then [(key, d)] else []

@[simp] theorem Datum.member?_heldField (key k : String) (d : Datum) :
    member? key (heldField k d) = if k = key ∧ d.holds = true then some d else none := by
  unfold heldField
  split <;> simp_all

theorem StoredFields.heldField (key : String) {d : Datum} (hd : d.every Datum.isStorable = true) :
    StoredFields [key] (heldField key d) := by
  unfold CardLesson.heldField
  split
  · exact nil.cons key hd
  · exact nil.skip

section Lookup

variable {members : Members} {key : String} {keys : List String} {d default : Datum}

theorem lookup_of_some (h : Datum.member? key members = some d) :
    lookup members (key :: keys) default = d := by
  rw [lookup, List.findSome?_cons, h]
  rfl

theorem lookup_of_none (h : ∀ k ∈ keys, Datum.member? k members = none) :
    lookup members keys default = default := by
  rw [lookup, List.findSome?_eq_none_iff.2 h]
  rfl

/-- A field that is there or not is looked up as what it is, or as the default. -/
theorem lookup_of_option {o : Option Datum} (h : Datum.member? key members = o)
    (hkeys : ∀ k ∈ keys, Datum.member? k members = none) :
    lookup members (key :: keys) default = o.getD default := by
  cases o with
  | some d => exact lookup_of_some h
  | none => exact lookup_of_none (List.forall_mem_cons.2 ⟨h, hkeys⟩)

end Lookup

namespace Card

/-- The fields of a written card. -/
def fields (c : Card) : Members :=
  ("id", c.id) :: ("name", c.name) :: ("type", .text c.type.name) :: ("plan", c.plan) ::
    ("cost", .whole c.cost) :: ("costType", .text c.costType.name) ::
    ("effects", .list (c.effects.map Effect.write)) ::
    (Effect.listField "conditions" (c.conditions.map Condition.write) ++
      Effect.flag "unique" c.unique ++
      Effect.recordField "usageLimit" (c.usageLimit.map fun u => .text u.name) ++
      Effect.flag "startInHand" c.startInHand ++ heldField "rarity" c.rarity ++
      heldField "description" c.description)

theorem write_eq (c : Card) : c.write = .object c.fields := by
  unfold write fields
  cases c.usageLimit <;> rfl

theorem readWord_text {α : Type} [Named α] {a : α} {s : String} {id : Datum} {field : String}
    (h : Named.ofName? s = some a) : readWord α id field (.text s) = .ok a := by
  have hword : (Named.ofDatum? (.text s) : Option α) = some a := h
  rw [readWord, hword]

/-- The card without a rarity that holds nothing. -/
def settled (c : Card) : Card := { c with rarity := if c.rarity.holds then c.rarity else .null }

/-! ### Cards that are written and read -/

section Fields

variable (c : Card)

theorem readConditions_fields (h : ∀ x ∈ c.conditions, x.Restorable) :
    readConditions c.fields = .ok c.conditions := by
  cases hc : c.conditions with
  | nil =>
    have hlookup : lookup c.fields ["conditions"] .null = .null :=
      lookup_of_none (by simp [fields, hc])
    rw [readConditions, hlookup]
    rfl
  | cons x xs =>
    have hlookup : lookup c.fields ["conditions"] .null =
        .list (c.conditions.map Condition.write) := lookup_of_some (by simp [fields, hc])
    rw [readConditions, hlookup, ← hc]
    have hholds : (Datum.list (c.conditions.map Condition.write)).holds = true := by
      rw [hc]
      rfl
    rw [if_pos hholds]
    exact readItems_write h

theorem readBody_fields (hes : ∀ e ∈ c.effects, e.Throughout fun n => n.operation.Restorable)
    (hcs : ∀ x ∈ c.conditions, x.Restorable) :
    readBody c.fields = .ok (c.effects, c.conditions, c.cost) := by
  have heffects : readEffects c.fields = .ok c.effects := readEffects_write hes rfl
  have hcost : ((lookup c.fields ["cost"] .null).orElse (.whole 0)).toWhole = .ok c.cost := by
    have hlookup : lookup c.fields ["cost"] .null = .whole c.cost := rfl
    rw [hlookup, Datum.orElse]
    by_cases hzero : c.cost = 0
    · rw [hzero]
      rfl
    · have hholds : (Datum.whole c.cost).holds = true := by simp [Datum.holds, hzero]
      rw [if_pos hholds, Datum.toWhole_whole]
  rw [readBody_eq, heffects, readConditions_fields c hcs, hcost]
  rfl

end Fields

/-- **A card that is written is restored**, but for a rarity that holds nothing. -/
theorem read_write {c : Card} (hes : ∀ e ∈ c.effects, e.Throughout fun n => n.operation.Restorable)
    (hcs : ∀ x ∈ c.conditions, x.Restorable)
    (hdescription : c.description.orElse (.text "") = c.description) :
    read c.write = .ok c.settled := by
  have hbody := readBody_fields c hes hcs
  have hid : Datum.member? "id" c.fields = some c.id := rfl
  have hname : Datum.member? "name" c.fields = some c.name := rfl
  have htype : readWord CardType c.id "type" (lookup c.fields ["type"] (.text "active")) =
      .ok c.type := readWord_text (CardType.ofName?_name c.type)
  have hcostType : readWord CostType c.id "costType"
      (lookup c.fields ["costType", "cost_type"] (.text "normal")) = .ok c.costType :=
    readWord_text (CostType.ofName?_name c.costType)
  have hplan : lookup c.fields ["plan"] (.text "free") = c.plan := rfl
  have husage : lookup c.fields ["usageLimit", "usage_limit"] .null =
      (c.usageLimit.map fun u => Datum.text u.name).getD .null :=
    lookup_of_option (by simp [fields]) (by simp [fields])
  have hunique : (lookup c.fields ["unique"] .null).holds = c.unique := by
    rw [lookup_of_option (o := if c.unique then some (.truth true) else none) (by simp [fields])
      (by simp [fields])]
    cases c.unique <;> rfl
  have hstart : (lookup c.fields ["startInHand", "start_in_hand"] .null).holds = c.startInHand := by
    rw [lookup_of_option (o := if c.startInHand then some (.truth true) else none)
      (by simp [fields]) (by simp [fields])]
    cases c.startInHand <;> rfl
  have hrarity : lookup c.fields ["rarity"] .null =
      if c.rarity.holds then c.rarity else .null := by
    rw [lookup_of_option (o := if c.rarity.holds then some c.rarity else none) (by simp [fields])
      (by simp [fields])]
    split <;> rfl
  have hdescription' : (lookup c.fields ["description", "effect"] .null).orElse (.text "") =
      c.description := by
    rw [lookup_of_option (o := if c.description.holds then some c.description else none)
      (by simp [fields]) (by simp [fields])]
    unfold Datum.orElse at hdescription ⊢
    split <;> simp_all [Datum.holds]
  rw [write_eq, read_eq_ok, readRecord, hid, hname]
  dsimp only
  rw [hbody]
  dsimp only
  rw [htype, hcostType, husage, hplan, hunique, hstart, hrarity, hdescription']
  unfold settled
  cases hlimit : c.usageLimit with
  | none => rfl
  | some u =>
    cases u
    rfl

/-! ### Cards that are read -/

section Read

variable {d : Datum} {c : Card} {p : Datum → Bool}

theorem every_orElse {other : Datum} (hd : d.every p = true) (hother : other.every p = true) :
    (d.orElse other).every p = true := by
  unfold Datum.orElse
  split
  · exact hd
  · exact hother

/-- The data that a card holds pass a test, at any depth. -/
structure Carries (p : Datum → Bool) (c : Card) : Prop where
  id : c.id.every p = true
  name : c.name.every p = true
  plan : c.plan.every p = true
  rarity : c.rarity.every p = true
  description : c.description.every p = true

/-- A card that is read holds data of its record, and texts where a field is missing. -/
theorem Of.carries {members : Members} (h : Of members c)
    (hmembers : Datum.everyMember p members = true) (hnull : Datum.null.every p = true)
    (htext : ∀ s, (Datum.text s).every p = true) : c.Carries p where
  id := Datum.every_of_member? hmembers h.id
  name := Datum.every_of_member? hmembers h.name
  plan := h.plan ▸ every_lookup hmembers (htext _) _
  rarity := h.rarity ▸ every_lookup hmembers hnull _
  description := h.description ▸ every_orElse (every_lookup hmembers hnull _) (htext _)

/-- The conditions of a card are read from data inside its record. -/
theorem of_readConditions {members : Members} {conditions : List Condition}
    (hmembers : Datum.everyMember p members = true) (hnull : Datum.null.every p = true)
    (h : readConditions members = .ok conditions) :
    ∀ c ∈ conditions, ∃ d : Datum, d.every p = true ∧ Condition.read d = .ok c := by
  unfold readConditions at h
  split at h
  · exact read_of_readItems (every_lookup hmembers hnull _) h
  · cases h
    exact List.forall_mem_nil _

/-- **A card that is read from a record with texts for its words is restored.** -/
theorem restored_of_read (hd : d.every Datum.isWorded = true) (h : read d = .ok c) :
    read c.write = .ok c.settled := by
  obtain ⟨members, rfl, hof⟩ := of_read h
  have hmembers := (Datum.every_object.1 hd).2
  refine read_write ?_ (fun x hx => ?_) ?_
  · exact effects_throughout Operation.restorable_of_read rfl hmembers hof.effects
  · obtain ⟨d, hd, hread⟩ := of_readConditions hmembers rfl hof.conditions x hx
    exact Condition.restorable_of_read (Datum.every_self hd) hread
  · rw [hof.description, Datum.orElse_orElse]

/-- **A card that is read from a record a text can hold is written as one.** -/
theorem write_storable (hd : d.every Datum.isStorable = true) (h : read d = .ok c) :
    c.write.every Datum.isStorable = true := by
  obtain ⟨members, rfl, hof⟩ := of_read h
  have hmembers := (Datum.every_object.1 hd).2
  have heffects : ∀ d ∈ c.effects.map Effect.write, d.every Datum.isStorable = true := by
    rw [← Effect.writeAll_eq_map]
    exact Effect.writeAll_storable c.effects
      (effects_throughout (Operation.carries_of_read rfl (by decide)) rfl hmembers hof.effects)
  have hconditions : ∀ d ∈ c.conditions.map Condition.write, d.every Datum.isStorable = true := by
    rintro _ hd
    obtain ⟨x, hx, rfl⟩ := List.mem_map.1 hd
    obtain ⟨d, hd, hread⟩ := of_readConditions hmembers rfl hof.conditions x hx
    exact Condition.write_storable (Condition.carries_of_read rfl (by decide) hd hread)
  have husage : ∀ d, (c.usageLimit.map fun u => Datum.text u.name) = some d →
      d.every Datum.isStorable = true := by
    intro d hd
    obtain ⟨u, -, rfl⟩ := Option.map_eq_some_iff.1 hd
    rfl
  have hcost : (Datum.whole c.cost).every Datum.isStorable = true := by
    refine Datum.toWhole_storable (Datum.every_self ?_) hof.cost
    exact every_orElse (every_lookup hmembers rfl _) (by decide)
  have hcarried := hof.carries hmembers rfl fun _ => rfl
  have hoptional := (((((StoredFields.listField "conditions" hconditions).append
    (.flag "unique" c.unique)).append (.recordField "usageLimit" husage)).append
    (.flag "startInHand" c.startInHand)).append (.heldField "rarity" hcarried.rarity)).append
    (.heldField "description" hcarried.description)
  have hfields := ((((((hoptional.cons "effects" (Datum.every_list.2 ⟨rfl,
    Datum.everyItem_iff.2 heffects⟩)).cons "costType" (d := .text c.costType.name) rfl).cons "cost"
    hcost).cons "plan" hcarried.plan).cons "type" (d := .text c.type.name) rfl).cons "name"
    hcarried.name).cons "id" hcarried.id
  rw [write_eq]
  exact hfields.object (by decide)

/-- **A card that is read equals what it is after it was written**, by meaning, exactly when its
rarity is missing or holds something. -/
theorem same_settled_iff (hd : d.every Datum.isOrderly = true) (h : read d = .ok c) :
    c.same c.settled = true ↔ c.rarity.isNull = true ∨ c.rarity.holds = true := by
  obtain ⟨members, rfl, hof⟩ := of_read h
  have hmembers := (Datum.every_object.1 hd).2
  have hcarried := hof.carries hmembers rfl fun _ => rfl
  have hid := Datum.same_self _ hcarried.id
  have hname := Datum.same_self _ hcarried.name
  have hplan := Datum.same_self _ hcarried.plan
  have hrarity := Datum.same_self _ hcarried.rarity
  have hdescription := Datum.same_self _ hcarried.description
  have heffects := Effect.sameAll_self c.effects
    (effects_throughout Operation.same_self_of_read rfl hmembers hof.effects)
  have hconditions : Condition.sameAll c.conditions c.conditions = true := by
    refine Condition.sameAll_self fun x hx => ?_
    obtain ⟨d, hd, hread⟩ := of_readConditions hmembers rfl hof.conditions x hx
    exact Condition.same_self_of_read hd hread
  simp only [same, settled, hid, hname, hplan, hdescription, heffects, hconditions,
    beq_self_eq_true, Bool.true_and, Bool.and_true]
  split
  · next hholds => simp [hrarity, hholds]
  · next hholds =>
    rw [or_iff_left hholds]
    cases c.rarity <;> simp [Datum.same, Datum.isNull, Datum.number?]

end Read

end Card

/-! ### Card files -/

/-- A list whose items are read as something else is read as that. -/
theorem mapM_map_eq {α β : Type} {write : α → β} {read : β → Except Fault α} {f : α → α} :
    ∀ {as : List α}, (∀ a ∈ as, read (write a) = .ok (f a)) →
    (as.map write).mapM read = .ok (as.map f)
  | [], _ => rfl
  | a :: as, h => by
    rw [List.forall_mem_cons] at h
    rw [List.map_cons, List.mapM_cons, h.1, mapM_map_eq h.2]
    rfl

namespace CardFile

variable {path text : String} {d : Datum} {cards : List Card} {p : Datum → Bool}

theorem datum_eq_ok : datum text = .ok d ↔ Json.read text.toList = .ok d := by
  unfold datum
  split <;> simp_all

/-- The cards of a file are read from data inside its datum. -/
theorem of_read (hd : datum text = .ok d) (hp : d.every p = true)
    (hnone : (Datum.list []).every p = true) (h : read path text = .ok cards) :
    ∀ c ∈ cards, ∃ d : Datum, d.every p = true ∧ Card.read d = .ok c := by
  obtain ⟨d', hd', h⟩ := except_bind_ok.1 h
  obtain rfl : d' = d := Except.ok.inj (hd'.symm.trans hd)
  obtain ⟨items, hitems, h⟩ := except_bind_ok.1 h
  have hevery : ∀ i ∈ items, i.every p = true := by
    cases d' with
    | list items' =>
      obtain rfl := Except.ok.inj hitems
      exact Datum.everyItem_iff.1 (Datum.every_list.1 hp).2
    | object members =>
      have hcards := every_lookup (Datum.every_object.1 hp).2 hnone ["cards"]
      rw [records] at hitems
      split at hitems
      · next hlookup =>
        obtain rfl := Except.ok.inj hitems
        rw [hlookup] at hcards
        exact Datum.everyItem_iff.1 (Datum.every_list.1 hcards).2
      · cases hitems
    | null | truth b | number q | text s => cases hitems
  intro c hc
  obtain ⟨i, hi, hread⟩ := except_mem_mapM h c hc
  exact ⟨i, hevery i hi, hread⟩

theorem datum_spread (h : d.every Datum.isStorable = true) : datum (Json.spread d) = .ok d :=
  datum_eq_ok.2 (Json.read_spread h)

theorem read_spread (path : String) (h : d.every Datum.isStorable = true) :
    read path (Json.spread d) = records path d >>= fun items => items.mapM Card.read := by
  rw [read, datum_spread h]
  rfl

/-- Records that a text can hold are saved as a file that is read as them. -/
theorem read_save (path : String) (hstorable : ∀ c ∈ cards, c.write.every Datum.isStorable = true)
    {f : Card → Card} (h : ∀ c ∈ cards, Card.read c.write = .ok (f c)) :
    ∃ saved, save cards = .ok saved ∧ read path saved = .ok (cards.map f) := by
  have hlist : (Datum.list (cards.map Card.write)).every Datum.isStorable = true := by
    refine Datum.every_list.2 ⟨rfl, Datum.everyItem_iff.2 fun d hd => ?_⟩
    obtain ⟨c, hc, rfl⟩ := List.mem_map.1 hd
    exact hstorable c hc
  refine ⟨write cards, if_pos (Datum.isPrintable_of_storable hlist), ?_⟩
  rw [write, read_spread path hlist]
  exact mapM_map_eq h

end CardFile

/-- Whether two lists of cards are equal by meaning. -/
def Card.AllSame (as bs : List Card) : Prop := List.Forall₂ (fun a b => a.same b = true) as bs

/-- **Cards that are saved to a file are read again.** The cards of a file whose words are texts and
whose numbers are finite, at any depth, can be saved, and come back from their records and from the
file as they were, but that a rarity that holds nothing is missing. So the lists are equal by
meaning exactly when each rarity is missing or holds something.

Texts are of characters. A file in which a surrogate stands on its own is not among those that are
read here: it holds no characters that could be saved. -/
theorem card_files_are_restored {path text : String} {d : Datum} {cards : List Card}
    (hd : CardFile.datum text = .ok d) (hworded : d.every Datum.isWorded = true)
    (hfinite : d.every Datum.isFinite = true) (h : CardFile.read path text = .ok cards)
    (path' : String) :
    (∃ saved, CardFile.save cards = .ok saved ∧
        CardFile.read path' saved = .ok (cards.map Card.settled)) ∧
      (Card.AllSame cards (cards.map Card.settled) ↔
        ∀ c ∈ cards, c.rarity.isNull = true ∨ c.rarity.holds = true) ∧
      ∀ c ∈ cards, Card.read c.write = .ok c.settled ∧
        (c.same c.settled = true ↔ c.rarity.isNull = true ∨ c.rarity.holds = true) := by
  have hstorable := Json.storable_of_read (CardFile.datum_eq_ok.1 hd) hfinite
  have horderly := Datum.orderly_of_storable hstorable
  have hrestored : ∀ c ∈ cards, Card.read c.write = .ok c.settled := fun c hc => by
    obtain ⟨d, hd, hread⟩ := CardFile.of_read hd hworded rfl h c hc
    exact Card.restored_of_read hd hread
  have hsame : ∀ c ∈ cards,
      (c.same c.settled = true ↔ c.rarity.isNull = true ∨ c.rarity.holds = true) := fun c hc => by
    obtain ⟨d, hd, hread⟩ := CardFile.of_read hd horderly rfl h c hc
    exact Card.same_settled_iff hd hread
  refine ⟨CardFile.read_save path' (fun c hc => ?_) hrestored, ?_,
    fun c hc => ⟨hrestored c hc, hsame c hc⟩⟩
  · obtain ⟨d, hd, hread⟩ := CardFile.of_read hd hstorable rfl h c hc
    exact Card.write_storable hd hread
  · rw [Card.AllSame, List.forall₂_map_right_iff, List.forall₂_same]
    exact forall₂_congr hsame

/-- A card with fields that are empty, `null`, zero or under their older names, and a card with a
rarity. -/
def mixedCards : Datum :=
  .list [.object [("id", .whole 7), ("name", .text ""), ("plan", .null), ("cost", .text "3"),
      ("cost_type", .text "hp"), ("conditions", .object []), ("unique", .whole 0),
      ("effects", .list [.object [("type", .text "score_fixed"),
        ("value", .number (.real (.finite false 7205759403792794 (-56))))]]),
      ("usage_limit", .text "once_per_lesson"), ("start_in_hand", .truth true), ("rarity", .null),
      ("effect", .text "")],
    .object [("id", .text "b"), ("name", .text "B"), ("rarity", .text "R")]]

theorem card_files_are_restored_mixed : ∃ cards saved,
    CardFile.read "cards.json" (Json.spread mixedCards) = .ok cards ∧ cards.length = 2 ∧
      CardFile.save cards = .ok saved ∧
      CardFile.read "cards.json" saved = .ok (cards.map Card.settled) ∧
      Card.AllSame cards (cards.map Card.settled) := by
  have hstorable : mixedCards.every Datum.isStorable = true := by decide
  have hworded : mixedCards.every Datum.isWorded = true := by decide
  have hfinite : mixedCards.every Datum.isFinite = true := by decide
  obtain ⟨cards, hcards, hlength, hrarity⟩ : ∃ cards,
      (CardFile.records "cards.json" mixedCards >>= fun items => items.mapM Card.read) = .ok cards ∧
        cards.length = 2 ∧ ∀ c ∈ cards, c.rarity.isNull = true ∨ c.rarity.holds = true :=
    ⟨_, rfl, rfl, by decide⟩
  rw [← CardFile.read_spread _ hstorable] at hcards
  obtain ⟨⟨saved, hsave, hread⟩, hsame, -⟩ := card_files_are_restored
    (CardFile.datum_spread hstorable) hworded hfinite hcards "cards.json"
  exact ⟨cards, saved, hcards, hlength, hsave, hread, hsame.2 hrarity⟩

/-- A card with an empty text for its rarity. -/
def emptyRarityCard : Card := { id := .text "a", name := .text "A", rarity := .text "" }

def emptyRarity : Datum :=
  .list [.object [("id", .text "a"), ("name", .text "A"), ("rarity", .text "")]]

/-- The rarity is missing after the card was written, and a missing rarity is no empty text. -/
theorem empty_rarity_is_lost :
    CardFile.datum (Json.spread emptyRarity) = .ok emptyRarity ∧
      emptyRarity.every Datum.isWorded = true ∧ emptyRarity.every Datum.isFinite = true ∧
      ∃ cards saved again, CardFile.read "cards.json" (Json.spread emptyRarity) = .ok cards ∧
        CardFile.save cards = .ok saved ∧ CardFile.read "cards.json" saved = .ok again ∧
        ¬Card.AllSame cards again := by
  have hstorable : emptyRarity.every Datum.isStorable = true := by decide
  have hread : CardFile.read "cards.json" (Json.spread emptyRarity) = .ok [emptyRarityCard] := by
    rw [CardFile.read_spread _ hstorable]
    rfl
  have hwritten : ∀ c ∈ [emptyRarityCard], c.write.every Datum.isStorable = true :=
    List.forall_mem_singleton.2 (by decide)
  have hsettled : ∀ c ∈ [emptyRarityCard], Card.read c.write = .ok c.settled :=
    List.forall_mem_singleton.2 rfl
  obtain ⟨saved, hsave, hagain⟩ := CardFile.read_save "cards.json" hwritten hsettled
  refine ⟨CardFile.datum_spread hstorable, by decide, by decide, [emptyRarityCard], saved, _, hread,
    hsave, hagain, ?_⟩
  rw [Card.AllSame, List.map_singleton, List.forall₂_cons]
  exact fun h => absurd h.1 (by decide)

end CardLesson
