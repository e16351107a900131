/-
# Records are restored

What a reader makes of a record is restored when it is written and read again: the words of what is
read stand for texts when those of the record do (`Datum.isWorded`), at any depth. It also equals
itself by meaning, unless a number in the record is the not-a-number or an object has two members
under one key (`Datum.isOrderly`).

Key definitions: `Datum.isWorded`, `Datum.isOrderly`.
Key theorems: `Datum.same_self`, `Condition.restorable_of_read`, `Condition.same_self_of_read`,
`Effect.read_throughout`, `records_are_restored`.
-/
import CardLesson.Proofs.Restoring
import CardLesson.Proofs.Fitness

namespace CardLesson

open Play (except_bind_ok except_pure_ok except_mem_mapM)

theorem map_eq_ok {α β : Type} {x : Except Fault α} {f : α → β} {b : β} :
    x.map f = .ok b ↔ ∃ a, x = .ok a ∧ f a = b := by
  cases x <;> simp [Except.map]

/-! ### Data inside data -/

namespace Datum

variable {p : Datum → Bool}

theorem every_list {items : List Datum} :
    (list items).every p = true ↔ p (.list items) = true ∧ everyItem p items = true := by
  rw [every, Bool.and_eq_true]

theorem every_object {members : Members} : (object members).every p = true ↔
    p (.object members) = true ∧ everyMember p members = true := by
  rw [every, Bool.and_eq_true]

theorem every_self {d : Datum} (h : d.every p = true) : p d = true := by
  cases d with
  | list items => exact (every_list.1 h).1
  | object members => exact (every_object.1 h).1
  | null | truth b | number q | text s => exact h

theorem everyItem_iff {ds : List Datum} :
    everyItem p ds = true ↔ ∀ d ∈ ds, d.every p = true := by
  induction ds with
  | nil => simp [everyItem]
  | cons d ds ih => rw [everyItem, Bool.and_eq_true, ih, List.forall_mem_cons]

theorem everyMember_iff {ms : Members} :
    everyMember p ms = true ↔ ∀ m ∈ ms, m.2.every p = true := by
  induction ms with
  | nil => simp [everyMember]
  | cons m ms ih =>
    obtain ⟨k, d⟩ := m
    rw [everyMember, Bool.and_eq_true, ih, List.forall_mem_cons]

theorem every_of_member? {key : String} {d : Datum} : ∀ {members : Members},
    everyMember p members = true → member? key members = some d → d.every p = true
  | (k, d') :: members, h, hd => by
    obtain ⟨hd', hrest⟩ := Bool.and_eq_true_iff.1 h
    rw [member?_cons] at hd
    split at hd
    · exact Option.some.inj hd ▸ hd'
    · exact every_of_member? hrest hd

/-- Whether the words of a record are texts: its type, and the kind of buff if it names one. -/
def isWorded : Datum → Bool
  | .object members => (member? "type" members).all isText &&
      ["buffType", "buff_type"].all fun key =>
        (member? key members).all fun d => d.isNull || d.isText
  | _ => true

/-- Whether no number is the not-a-number and no two members of an object have one key. -/
def isOrderly : Datum → Bool
  | .number q => q ≠ .real .notANumber
  | .object members => (members.map Prod.fst).Nodup
  | _ => true

end Datum

/-! ### Equality with itself -/

theorem Quantity.same_self {q : Quantity} (h : q ≠ .real .notANumber) : q.same q = true := by
  have hunrounded : q.unrounded ≠ .notANumber := by
    cases q with
    | whole n => exact nofun
    | real x => exact fun hx => h (congrArg _ hx)
  rw [same, compare?, Double.compare?_self, if_neg hunrounded]
  rfl

namespace Datum

theorem sameMembers_iff {members others : Members} : sameMembers members others = true ↔
    ∀ m ∈ members, ∃ d, member? m.1 others = some d ∧ m.2.same d = true := by
  induction members with
  | nil => simp [sameMembers]
  | cons m members ih =>
    obtain ⟨k, a⟩ := m
    rw [sameMembers, Bool.and_eq_true, ih, List.forall_mem_cons]
    cases member? k others <;> simp

theorem member?_of_mem {m : String × Datum} : ∀ {members : Members},
    (members.map Prod.fst).Nodup → m ∈ members → member? m.1 members = some m.2
  | (k, d) :: members, hkeys, hm => by
    rw [List.map_cons, List.nodup_cons] at hkeys
    rw [member?_cons]
    rcases List.mem_cons.1 hm with rfl | hm
    · exact if_pos rfl
    · have hne : k ≠ m.1 := fun hk => hkeys.1 (List.mem_map.2 ⟨m, hm, hk.symm⟩)
      rw [if_neg hne]
      exact member?_of_mem hkeys.2 hm

mutual

/-- **An orderly datum equals itself by meaning.** -/
theorem same_self : ∀ d : Datum, d.every isOrderly = true → d.same d = true
  | .null, _ => rfl
  | .truth b, _ => by cases b <;> rfl
  | .number q, h => Quantity.same_self (of_decide_eq_true h)
  | .text s, _ => by rw [same_text, beq_self_eq_true]
  | .list items, h => sameAll_self items (every_list.1 h).2
  | .object members, h => by
    obtain ⟨hkeys, hmembers⟩ := every_object.1 h
    rw [same, beq_self_eq_true, Bool.true_and, sameMembers_iff]
    exact fun m hm =>
      ⟨m.2, member?_of_mem (of_decide_eq_true hkeys) hm, same_member members hmembers m hm⟩
termination_by structural d => d

theorem sameAll_self : ∀ ds : List Datum, everyItem isOrderly ds = true → sameAll ds ds = true
  | [], _ => rfl
  | d :: ds, h => by
    obtain ⟨hd, hds⟩ := Bool.and_eq_true_iff.1 h
    rw [sameAll, same_self d hd, sameAll_self ds hds]
    rfl
termination_by structural ds => ds

theorem same_member : ∀ ms : List (String × Datum), everyMember isOrderly ms = true →
    ∀ m ∈ ms, m.2.same m.2 = true
  | [], _ => fun _ hm => absurd hm List.not_mem_nil
  | (k, d) :: ms, h => by
    obtain ⟨hd, hms⟩ := Bool.and_eq_true_iff.1 h
    exact List.forall_mem_cons.2 ⟨same_self d hd, same_member ms hms⟩
termination_by structural ms => ms

end

end Datum

/-! ### Fields that are picked -/

section Fields

variable {p : Datum → Bool} {members : Members}

theorem every_of_pick? {d : Datum} (h : Datum.everyMember p members = true) :
    ∀ {keys : List String}, pick? members keys = some d → d.every p = true
  | key :: keys, hd => by
    rw [pick?] at hd
    split at hd
    · next d' hd' =>
      split at hd
      · exact every_of_pick? h hd
      · exact Option.some.inj hd ▸ Datum.every_of_member? h hd'
    · exact every_of_pick? h hd

theorem every_pick (h : Datum.everyMember p members = true) (hnull : p .null = true)
    (keys : List String) : (pick members keys).every p = true := by
  unfold pick
  cases hd : pick? members keys with
  | none => exact hnull
  | some d => exact every_of_pick? h hd

theorem every_lookup {default : Datum} (h : Datum.everyMember p members = true)
    (hdefault : default.every p = true) (keys : List String) :
    (lookup members keys default).every p = true := by
  unfold lookup
  cases hd : keys.findSome? fun key => Datum.member? key members with
  | none => exact hdefault
  | some d =>
    obtain ⟨key, -, hkey⟩ := List.exists_of_findSome?_eq_some hd
    exact Datum.every_of_member? h hkey

theorem every_of_require {key : String} {d : Datum} (h : Datum.everyMember p members = true)
    (hd : require members key = .ok d) : d.every p = true := by
  unfold require at hd
  split at hd
  · next d' hd' => exact Except.ok.inj hd ▸ Datum.every_of_member? h hd'
  · cases hd

theorem not_null_of_pick? {d : Datum} : ∀ {keys : List String},
    pick? members keys = some d → d.isNull = false
  | key :: keys, hd => by
    rw [pick?] at hd
    split at hd
    · split at hd
      · exact not_null_of_pick? hd
      · next hnull => exact Option.some.inj hd ▸ Bool.eq_false_iff.2 hnull
    · exact not_null_of_pick? hd

theorem Tag.OfText.of_require {α : Type} [Named α] {key : String} {d : Datum}
    (hword : (Datum.member? key members).all Datum.isText = true)
    (hd : require members key = .ok d) : (Tag.read d : Tag α).OfText := by
  unfold require at hd
  split at hd
  · next d' hd' =>
    obtain rfl := Except.ok.inj hd
    rw [hd', Option.all_some] at hword
    cases d' <;> cases hword
    exact ⟨_, rfl⟩
  · cases hd

/-- What is picked under keys that hold texts or nothing is nothing or a text. -/
theorem pick_word : ∀ {keys : List String},
    (keys.all fun key => (Datum.member? key members).all fun d => d.isNull || d.isText) = true →
    pick members keys = .null ∨ ∃ s, pick members keys = .text s
  | [], _ => .inl rfl
  | key :: keys, h => by
    rw [List.all_cons, Bool.and_eq_true] at h
    have ih := pick_word h.2
    unfold pick at ih ⊢
    rw [pick?]
    split
    · next d hd =>
      have hkey := h.1
      rw [hd, Option.all_some] at hkey
      split
      · exact ih
      · next hnull =>
        rw [Bool.or_eq_true, or_iff_right hnull] at hkey
        cases d <;> cases hkey
        exact .inr ⟨_, rfl⟩
    · exact ih

/-- The conditions that are read from an item list are read from data inside it. -/
theorem read_of_readItems {d : Datum} {conditions : List Condition} (hd : d.every p = true)
    (h : readItems Condition.read d = .ok conditions) :
    ∀ c ∈ conditions, ∃ d' : Datum, d'.every p = true ∧ Condition.read d' = .ok c := by
  intro c hc
  cases d with
  | list items =>
    obtain ⟨d', hd', hread⟩ := except_mem_mapM h c hc
    exact ⟨d', Datum.everyItem_iff.1 (Datum.every_list.1 hd).2 d' hd', hread⟩
  | text s =>
    obtain ⟨ch, -, hread⟩ := except_mem_mapM h c hc
    cases hread
  | object members =>
    obtain ⟨m, -, hread⟩ := except_mem_mapM h c hc
    cases hread
  | null | truth b | number q => cases h

end Fields

/-! ### What conditions give -/

namespace Tag

variable {α : Type} [Named α] [DecidableEq α]

theorem same_self_read {raw : Datum} (h : raw.same raw = true) :
    (read raw : Tag α).same (read raw) = true := by
  unfold read
  split
  · exact beq_self_eq_true _
  · exact h

end Tag

namespace Condition

variable {d : Datum} {c : Condition}

/-- The condition of a kind with a comparison and the fields of a record. -/
def ofMembers (members : Members) (kind : Datum) (compare : Comparison) : Condition where
  kind := .read kind
  value := (pick? members ["value"]).getD (.whole 0)
  compare
  buffKind := if (pick members ["buffType", "buff_type"]).holds then
    some (.read (pick members ["buffType", "buff_type"])) else none
  cardType := pick members ["cardType", "card_type"]
  scope := pick members ["scope"]
  targetRarity := pick members ["targetRarity", "target_rarity"]

/-- A condition is read from an object with a type. -/
theorem of_read (h : read d = .ok c) : ∃ members kind compare, d = .object members ∧
    require members "type" = .ok kind ∧ c = ofMembers members kind compare := by
  cases d with
  | object members =>
    obtain ⟨compare, -, h⟩ := except_bind_ok.1 h
    obtain ⟨kind, hkind, h⟩ := except_bind_ok.1 h
    exact ⟨members, kind, compare, rfl, hkind, (except_pure_ok.1 h).symm⟩
  | null | truth b | number q | text s | list items => cases h

/-- **What is read from a record with texts for its words is restorable.** -/
theorem restorable_of_read (hd : d.isWorded = true) (h : read d = .ok c) : c.Restorable := by
  obtain ⟨members, kind, compare, rfl, hkind, rfl⟩ := of_read h
  obtain ⟨htype, hbuff⟩ := Bool.and_eq_true_iff.1 hd
  refine ⟨?_, ?_, fun k hk => ?_⟩
  · exact Tag.OfText.of_require htype hkind
  · show ((pick? members ["value"]).getD (.whole 0)).isNull = false
    cases hvalue : pick? members ["value"] with
    | none => rfl
    | some v => exact not_null_of_pick? hvalue
  · have hk : (if (pick members ["buffType", "buff_type"]).holds then
      some (.read (pick members ["buffType", "buff_type"])) else none) = some k := hk
    rcases pick_word hbuff with hpick | ⟨s, hpick⟩
    · rw [hpick] at hk
      cases hk
    · rw [hpick] at hk
      split at hk
      · next hs =>
        obtain rfl := Option.some.inj hk
        exact ⟨⟨s, rfl⟩, by simpa [Datum.holds] using hs⟩
      · cases hk

theorem sameAll_self : ∀ {cs : List Condition}, (∀ c ∈ cs, c.same c = true) →
    sameAll cs cs = true
  | [], _ => rfl
  | c :: cs, h => by
    rw [List.forall_mem_cons] at h
    rw [sameAll, h.1, sameAll_self h.2]
    rfl

/-- What is read from an orderly record equals itself by meaning. -/
theorem same_self_of_read (hd : d.every Datum.isOrderly = true) (h : read d = .ok c) :
    c.same c = true := by
  obtain ⟨members, kind, compare, rfl, hkind, rfl⟩ := of_read h
  have hmembers := (Datum.every_object.1 hd).2
  have hpick : ∀ keys, (pick members keys).same (pick members keys) = true := fun keys =>
    Datum.same_self _ (every_pick hmembers rfl keys)
  have hvalue : ((pick? members ["value"]).getD (.whole 0)).same
      ((pick? members ["value"]).getD (.whole 0)) = true := by
    cases hv : pick? members ["value"] with
    | none => rfl
    | some v => exact Datum.same_self v (every_of_pick? hmembers hv)
  have hkind := Tag.same_self_read (α := ConditionKind)
    (Datum.same_self kind (every_of_require hmembers hkind))
  have hbuff : (Tag.read (pick members ["buffType", "buff_type"]) : Tag EffectKind).same
      (Tag.read (pick members ["buffType", "buff_type"])) = true := Tag.same_self_read (hpick _)
  simp only [same, ofMembers, hkind, hvalue, hpick, beq_self_eq_true, Bool.and_true]
  split <;> simp_all

end Condition

/-! ### What effects give -/

namespace Operation

variable {members : Members} {op op' : Operation} {p : Datum → Bool}

/-- An operation is read from the fields of a record, its conditions from data inside the record. -/
theorem of_read (hmembers : Datum.everyMember p members = true) (hnull : p .null = true)
    (h : Operation.read members = .ok op) (h' : op.readTrigger members = .ok op') :
    ∃ kind conditions trigger, require members "type" = .ok kind ∧
      op' = { ofMembers members kind conditions with triggerCondition := trigger } ∧
      (∀ c ∈ conditions, ∃ d : Datum, d.every p = true ∧ Condition.read d = .ok c) ∧
      ∀ c, trigger = some c → ∃ d : Datum, d.every p = true ∧ Condition.read d = .ok c := by
  rw [Operation.read_eq] at h
  obtain ⟨kind, hkind, h⟩ := except_bind_ok.1 h
  obtain ⟨conditions, hconditions, h⟩ := except_bind_ok.1 h
  obtain rfl := except_pure_ok.1 h
  obtain ⟨trigger, htrigger, h'⟩ := except_bind_ok.1 h'
  obtain rfl := except_pure_ok.1 h'
  refine ⟨kind, conditions, trigger, hkind, rfl, ?_, ?_⟩
  · unfold readConditions at hconditions
    split at hconditions
    · next d hd => exact read_of_readItems (every_of_pick? hmembers hd) hconditions
    · cases hconditions
      exact List.forall_mem_nil _
  · rintro c rfl
    unfold readOptionalCondition at htrigger
    split at htrigger
    · obtain ⟨c', hread, hc⟩ := map_eq_ok.1 htrigger
      exact ⟨_, every_pick hmembers hnull _, Option.some.inj hc ▸ hread⟩
    · cases htrigger

/-- **What is read from a record with texts for its words is restorable.** -/
theorem restorable_of_read (hd : (Datum.object members).every Datum.isWorded = true)
    (h : Operation.read members = .ok op) (h' : op.readTrigger members = .ok op') :
    op'.Restorable := by
  obtain ⟨hself, hmembers⟩ := Datum.every_object.1 hd
  obtain ⟨kind, conditions, trigger, hkind, rfl, hconditions, htrigger⟩ :=
    of_read hmembers rfl h h'
  refine ⟨Tag.OfText.of_require (Bool.and_eq_true_iff.1 hself).1 hkind, fun c hc => ?_,
    fun c hc => ?_⟩
  · obtain ⟨d, hd, hread⟩ := hconditions c hc
    exact Condition.restorable_of_read (Datum.every_self hd) hread
  · obtain ⟨d, hd, hread⟩ := htrigger c hc
    exact Condition.restorable_of_read (Datum.every_self hd) hread

/-- What is read from an orderly record equals itself by meaning. -/
theorem same_self_of_read (hd : (Datum.object members).every Datum.isOrderly = true)
    (h : Operation.read members = .ok op) (h' : op.readTrigger members = .ok op') :
    op'.same op' = true := by
  have hmembers := (Datum.every_object.1 hd).2
  obtain ⟨kind, conditions, trigger, hkind, rfl, hconditions, htrigger⟩ :=
    of_read hmembers rfl h h'
  have hpick : ∀ keys, (pick members keys).same (pick members keys) = true := fun keys =>
    Datum.same_self _ (every_pick hmembers rfl keys)
  have hkind := Tag.same_self_read (α := EffectKind)
    (Datum.same_self kind (every_of_require hmembers hkind))
  have hall : Condition.sameAll conditions conditions = true := by
    refine Condition.sameAll_self fun c hc => ?_
    obtain ⟨d, hd, hread⟩ := hconditions c hc
    exact Condition.same_self_of_read hd hread
  have hoption : Condition.sameOption trigger trigger = true := by
    cases trigger with
    | none => rfl
    | some c =>
      obtain ⟨d, hd, hread⟩ := htrigger c rfl
      exact Condition.same_self_of_read hd hread
  simp only [same, ofMembers, hkind, hpick, hall, hoption, beq_self_eq_true, Bool.and_true]

end Operation

namespace Effect

/-- What is read under one key, or else under another. -/
theorem either_of_getD {α : Type} {a b : Option (Except Fault α)} {x y : α}
    (h : (a <|> b).getD (.ok x) = .ok y) : a = some (.ok y) ∨ b = some (.ok y) ∨ y = x := by
  cases a with
  | some r => exact .inl (congrArg some h)
  | none =>
    cases b with
    | some r => exact .inr (.inl (congrArg some h))
    | none => exact .inr (.inr (Except.ok.inj h).symm)

variable {p : Datum → Bool} {P : Operation → Prop}

/-- Records that pass a test give operations with a property. -/
def Gives (p : Datum → Bool) (P : Operation → Prop) : Prop :=
  ∀ {members : Members} {op op' : Operation}, (Datum.object members).every p = true →
    Operation.read members = .ok op → op.readTrigger members = .ok op' → P op'

mutual

/-- What the operations of records have, the effects that are read have throughout. -/
theorem read_throughout (hop : Gives p P) : ∀ (d : Datum) (e : Effect), d.every p = true →
    read d = .ok e → e.Throughout fun n => P n.operation
  | .object members, e, hd, h => by
    have hmembers := (Datum.every_object.1 hd).2
    obtain ⟨op, hread, h⟩ := except_bind_ok.1 h
    obtain ⟨subs, hsubs, h⟩ := except_bind_ok.1 h
    obtain ⟨triggered, htriggered, h⟩ := except_bind_ok.1 h
    obtain ⟨op', hread', h⟩ := except_bind_ok.1 h
    obtain rfl := except_pure_ok.1 h
    refine throughout_iff.2 ⟨hop hd hread hread', fun s hs => ?_, fun t ht => ?_⟩
    · rcases either_of_getD hsubs with hsubs | hsubs | rfl
      · exact listUnder_throughout hop members _ subs hmembers hsubs s hs
      · exact listUnder_throughout hop members _ subs hmembers hsubs s hs
      · cases hs
    · rcases either_of_getD htriggered with htriggered | htriggered | rfl
      · exact under_throughout hop members _ triggered hmembers htriggered t ht
      · exact under_throughout hop members _ triggered hmembers htriggered t ht
      · cases ht
termination_by structural d => d

theorem readSequence_throughout (hop : Gives p P) : ∀ (d : Datum) (es : List Effect),
    d.every p = true → readSequence d = .ok es →
    ∀ e ∈ es, e.Throughout fun n => P n.operation
  | .list items, es, hd, h => readAll_throughout hop items es (Datum.every_list.1 hd).2 h
  | .text s, es, _, h => by
    rw [readSequence] at h
    split at h <;> cases h
    exact List.forall_mem_nil _
  | .object members, es, _, h => by
    rw [readSequence] at h
    split at h <;> cases h
    exact List.forall_mem_nil _
termination_by structural d => d

theorem readAll_throughout (hop : Gives p P) : ∀ (ds : List Datum) (es : List Effect),
    Datum.everyItem p ds = true → readAll ds = .ok es →
    ∀ e ∈ es, e.Throughout fun n => P n.operation
  | [], es, _, h => by
    cases h
    exact List.forall_mem_nil _
  | d :: ds, es, hds, h => by
    obtain ⟨hd, hrest⟩ := Bool.and_eq_true_iff.1 hds
    obtain ⟨e, he, h⟩ := except_bind_ok.1 h
    obtain ⟨es', hes', h⟩ := except_bind_ok.1 h
    obtain rfl := except_pure_ok.1 h
    exact List.forall_mem_cons.2
      ⟨read_throughout hop d e hd he, readAll_throughout hop ds es' hrest hes'⟩
termination_by structural ds => ds

theorem listUnder_throughout (hop : Gives p P) :
    ∀ (ms : List (String × Datum)) (key : String) (es : List Effect),
    Datum.everyMember p ms = true → listUnder key ms = some (.ok es) →
    ∀ e ∈ es, e.Throughout fun n => P n.operation
  | (k, d) :: ms, key, es, hms, h => by
    obtain ⟨hd, hrest⟩ := Bool.and_eq_true_iff.1 hms
    rw [listUnder] at h
    split at h
    · split at h
      · cases h
      · exact readSequence_throughout hop d es hd (Option.some.inj h)
    · exact listUnder_throughout hop ms key es hrest h
termination_by structural ms => ms

theorem under_throughout (hop : Gives p P) :
    ∀ (ms : List (String × Datum)) (key : String) (o : Option Effect),
    Datum.everyMember p ms = true → under key ms = some (.ok o) →
    ∀ e, o = some e → e.Throughout fun n => P n.operation
  | (k, d) :: ms, key, o, hms, h => by
    obtain ⟨hd, hrest⟩ := Bool.and_eq_true_iff.1 hms
    rw [under] at h
    split at h
    · split at h
      · cases h
      · split at h
        · obtain ⟨e, hread, rfl⟩ := map_eq_ok.1 (Option.some.inj h)
          rintro _ ⟨⟩
          exact read_throughout hop d e hd hread
        · cases h
          exact nofun
    · exact under_throughout hop ms key o hrest h
termination_by structural ms => ms

end

mutual

/-- An effect whose operations equal themselves by meaning does too. -/
theorem same_self : ∀ e : Effect, (e.Throughout fun n => n.operation.same n.operation = true) →
    e.same e = true
  | ⟨op, subs, triggered⟩, h => by
    obtain ⟨hop, hsubs, htriggered⟩ := throughout_iff.1 h
    rw [same, hop, sameAll_self subs hsubs, sameOption_self triggered htriggered]
    rfl
termination_by structural e => e

theorem sameAll_self : ∀ es : List Effect,
    (∀ e ∈ es, e.Throughout fun n => n.operation.same n.operation = true) →
    sameAll es es = true
  | [], _ => rfl
  | e :: es, h => by
    rw [List.forall_mem_cons] at h
    rw [sameAll, same_self e h.1, sameAll_self es h.2]
    rfl
termination_by structural es => es

theorem sameOption_self : ∀ o : Option Effect,
    (∀ e, o = some e → e.Throughout fun n => n.operation.same n.operation = true) →
    sameOption o o = true
  | none, _ => rfl
  | some e, h => same_self e (h e rfl)
termination_by structural o => o

end

end Effect

/-! ### Effects of cards and drinks -/

section Effects

variable {members : Members} {es : List Effect}

theorem effects_throughout {p : Datum → Bool} {P : Operation → Prop} (hop : Effect.Gives p P)
    (hnull : Datum.null.every p = true) (hmembers : Datum.everyMember p members = true)
    (h : readEffects members = .ok es) : ∀ e ∈ es, e.Throughout fun n => P n.operation := by
  unfold readEffects at h
  dsimp only at h
  split at h
  · exact Effect.readSequence_throughout hop _ es (every_lookup hmembers hnull _) h
  · cases h
    exact List.forall_mem_nil _

theorem readEffects_write (hes : ∀ e ∈ es, e.Throughout fun n => n.operation.Restorable)
    (h : Datum.member? "effects" members = some (.list (es.map Effect.write))) :
    readEffects members = .ok es := by
  have hlookup : lookup members ["effects"] .null = .list (es.map Effect.write) := by
    rw [lookup, List.findSome?_cons, h]
    rfl
  unfold readEffects
  rw [hlookup]
  cases es with
  | nil => rfl
  | cons e es =>
    rw [← Effect.writeAll_eq_map]
    exact Effect.readAll_writeAll (e :: es) hes

end Effects

/-! ### Drinks -/

namespace Datum

/-- The second default never counts. -/
theorem orElse_orElse (d other : Datum) : (d.orElse other).orElse other = d.orElse other := by
  unfold orElse
  split <;> simp_all

end Datum

namespace Drink

theorem of_read {d : Datum} {x : Drink} (h : read d = .ok x) : ∃ members, d = .object members ∧
    readEffects members = .ok x.effects ∧
    require members "id" = .ok x.id ∧ require members "name" = .ok x.name ∧
    x.plan = lookup members ["plan"] (.text "free") ∧
    x.description = (lookup members ["description", "effect"] .null).orElse (.text "") := by
  unfold read at h
  split at h
  · cases h
  · next hfields =>
    obtain rfl := Except.ok.inj h
    cases d with
    | object members =>
      obtain ⟨id, hid, h⟩ := except_bind_ok.1 hfields
      obtain ⟨name, hname, h⟩ := except_bind_ok.1 h
      obtain ⟨effects, heffects, h⟩ := except_bind_ok.1 h
      obtain rfl := except_pure_ok.1 h
      exact ⟨members, rfl, heffects, hid, hname, rfl, rfl⟩
    | null | truth b | number q | text s | list items => cases hfields

/-- **A drink that is written is restored.** -/
theorem read_write {x : Drink} (hes : ∀ e ∈ x.effects, e.Throughout fun n => n.operation.Restorable)
    (hdescription : x.description.orElse (.text "") = x.description) : read x.write = .ok x := by
  have heffects : readEffects [("id", x.id), ("name", x.name), ("plan", x.plan),
      ("description", x.description), ("effects", .list (x.effects.map Effect.write))] =
        .ok x.effects := readEffects_write hes rfl
  have hfields : readFields x.write =
      .ok { x with description := x.description.orElse (.text "") } := by
    unfold readFields write
    show readEffects _ >>= _ = _
    rw [heffects]
    rfl
  rw [read, hfields, hdescription]

end Drink

/-! ### Records -/

/-- **Records are restored.** Whatever condition, effect or drink is read from a record whose words
are texts, at any depth, is read again from what it writes; and when the record is orderly, it
equals itself by meaning. -/
theorem records_are_restored {d : Datum} (hworded : d.every Datum.isWorded = true)
    (horderly : d.every Datum.isOrderly = true) :
    (∀ c, Condition.read d = .ok c → Condition.read c.write = .ok c ∧ c.same c = true) ∧
      (∀ e, Effect.read d = .ok e → Effect.read e.write = .ok e ∧ e.same e = true) ∧
      ∀ x, Drink.read d = .ok x → Drink.read x.write = .ok x ∧ x.same x = true := by
  refine ⟨fun c h => ⟨?_, ?_⟩, fun e h => ⟨?_, ?_⟩, fun x h => ?_⟩
  · exact Condition.read_write (Condition.restorable_of_read (Datum.every_self hworded) h)
  · exact Condition.same_self_of_read horderly h
  · exact e.read_write (Effect.read_throughout Operation.restorable_of_read d e hworded h)
  · exact e.same_self (Effect.read_throughout Operation.same_self_of_read d e horderly h)
  · obtain ⟨members, rfl, heffects, hid, hname, hplan, hdescription⟩ := Drink.of_read h
    have hmembers := (Datum.every_object.1 hworded).2
    have hmembers' := (Datum.every_object.1 horderly).2
    refine ⟨Drink.read_write ?_ ?_, ?_⟩
    · exact effects_throughout Operation.restorable_of_read rfl hmembers heffects
    · rw [hdescription, Datum.orElse_orElse]
    · have hself : ∀ d : Datum, d.every Datum.isOrderly = true → d.same d = true := Datum.same_self
      have hall := Effect.sameAll_self x.effects
        (effects_throughout Operation.same_self_of_read rfl hmembers' heffects)
      have hdescription' : x.description.same x.description = true := by
        rw [hdescription]
        unfold Datum.orElse
        split
        · exact hself _ (every_lookup hmembers' rfl _)
        · rfl
      rw [Drink.same, hself _ (every_of_require hmembers' hid),
        hself _ (every_of_require hmembers' hname), hplan,
        hself _ (every_lookup hmembers' rfl _), hdescription', hall]
      rfl

/-- A gate with a reactive buff inside, in both spellings of the keys, with unknown kinds, fields
that are missing, empty or `null`, and flags that are not set. -/
def nestedRecord : Datum :=
  .object [("type", .text "condition_gate"), ("value", .null), ("ratio", .whole 0),
    ("condition", .list [.object [("type", .text "moon"), ("buff_type", .text "buff_new"),
      ("compare", .text "<"), ("value", .null)]]),
    ("sub_effects", .list [.object [("type", .text "buff_turn_start"), ("sub_effects", .list []),
      ("subEffects", .null), ("ignore_cost", .truth false), ("double_motivation", .whole 1),
      ("triggered_effect", .object [("type", .text "new_kind"), ("troubleId", .text "")]),
      ("trigger_condition", .object [("type", .text "buff"), ("buffType", .null)])]])]

theorem records_are_restored_nested :
    ∃ e, Effect.read nestedRecord = .ok e ∧ Effect.read e.write = .ok e ∧ e.same e = true := by
  obtain ⟨e, he⟩ : ∃ e, Effect.read nestedRecord = .ok e := ⟨_, rfl⟩
  have hworded : nestedRecord.every Datum.isWorded = true := by decide
  have horderly : nestedRecord.every Datum.isOrderly = true := by decide
  exact ⟨e, he, (records_are_restored hworded horderly).2.1 e he⟩

end CardLesson
