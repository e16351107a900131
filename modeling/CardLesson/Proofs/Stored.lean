/-
# Written records can be stored

The record that a condition, an effect or a card is written as holds the data that were read for it,
texts, flags and lists, each under a key of its own. So when a text can hold the record that was
read, it can hold the one that is written. The cost is the one number that is not read as it stands:
it is the whole part of a double or the number a text writes, both short enough.

Key definitions: `Condition.Carries`, `Operation.Carries`, `StoredFields`.
Key theorems: `Operation.carries_of_read`, `Effect.write_storable`, `Datum.toWhole_storable`,
`Card.of_read`, `Card.write_storable`.
-/
import CardLesson.Proofs.Storable

namespace CardLesson

open Play (except_bind_ok except_pure_ok)

/-! ### What is read for conditions and effects -/

/-- The data of a condition pass a test. -/
structure Condition.Carries (p : Datum → Bool) (c : Condition) : Prop where
  value : c.value.every p = true
  cardType : c.cardType.every p = true
  scope : c.scope.every p = true
  targetRarity : c.targetRarity.every p = true

/-- The data of an operation pass a test. -/
structure Operation.Carries (p : Datum → Bool) (op : Operation) : Prop where
  value : op.value.every p = true
  ratio : op.ratio.every p = true
  multiplier : op.multiplier.every p = true
  duration : op.duration.every p = true
  count : op.count.every p = true
  troubleId : op.troubleId.every p = true
  targetRarity : op.targetRarity.every p = true
  param : op.param.every p = true
  conditions : ∀ c ∈ op.conditions, c.Carries p
  triggerCondition : ∀ c, op.triggerCondition = some c → c.Carries p

section Carries

variable {p : Datum → Bool}

theorem Condition.carries_of_read {d : Datum} {c : Condition} (hnull : p .null = true)
    (hzero : p (.whole 0) = true) (hd : d.every p = true) (h : read d = .ok c) : c.Carries p := by
  obtain ⟨members, kind, compare, rfl, -, rfl⟩ := of_read h
  have hmembers := (Datum.every_object.1 hd).2
  refine ⟨?_, every_pick hmembers hnull _, every_pick hmembers hnull _, every_pick hmembers hnull _⟩
  show ((pick? members ["value"]).getD (.whole 0)).every p = true
  cases hvalue : pick? members ["value"] with
  | none => exact hzero
  | some v => exact every_of_pick? hmembers hvalue

/-- **An operation carries what its record says.** -/
theorem Operation.carries_of_read (hnull : p .null = true) (hzero : p (.whole 0) = true) :
    Effect.Gives p (Operation.Carries p) := by
  intro members op op' hd h h'
  have hmembers := (Datum.every_object.1 hd).2
  have hpick : ∀ keys, (pick members keys).every p = true := every_pick hmembers hnull
  obtain ⟨kind, conditions, trigger, -, rfl, hconditions, htrigger⟩ := of_read hmembers hnull h h'
  refine ⟨hpick _, hpick _, hpick _, hpick _, hpick _, hpick _, hpick _, hpick _, fun c hc => ?_,
    fun c hc => ?_⟩
  · obtain ⟨d, hd, hread⟩ := hconditions c hc
    exact Condition.carries_of_read hnull hzero hd hread
  · obtain ⟨d, hd, hread⟩ := htrigger c hc
    exact Condition.carries_of_read hnull hzero hd hread

end Carries

/-! ### Fields -/

/-- Members that a text can hold, under some of the keys and in their order. -/
structure StoredFields (keys : List String) (members : Members) : Prop where
  keys : (members.map Prod.fst).Sublist keys
  data : Datum.everyMember Datum.isStorable members = true

namespace StoredFields

variable {key : String} {keys keys' : List String} {members members' : Members} {d : Datum}

theorem nil : StoredFields [] [] := ⟨.slnil, rfl⟩

theorem cons (key : String) (hd : d.every Datum.isStorable = true) (h : StoredFields keys members) :
    StoredFields (key :: keys) ((key, d) :: members) :=
  ⟨h.keys.cons_cons key, Bool.and_eq_true_iff.2 ⟨hd, h.data⟩⟩

theorem skip (h : StoredFields keys members) : StoredFields (key :: keys) members :=
  ⟨h.keys.cons key, h.data⟩

theorem append (h : StoredFields keys members) (h' : StoredFields keys' members') :
    StoredFields (keys ++ keys') (members ++ members') := by
  refine ⟨?_, ?_⟩
  · rw [List.map_append]
    exact h.keys.append h'.keys
  · have hdata := h.data
    have hdata' := h'.data
    rw [Datum.everyMember_iff] at hdata hdata' ⊢
    exact List.forall_mem_append.2 ⟨hdata, hdata'⟩

theorem field (key : String) (hd : d.every Datum.isStorable = true) :
    StoredFields [key] (Condition.field key d) := by
  unfold Condition.field
  split
  · exact nil.skip
  · exact nil.cons key hd

theorem listField (key : String) {ds : List Datum} (h : ∀ d ∈ ds, d.every Datum.isStorable = true) :
    StoredFields [key] (Effect.listField key ds) := by
  unfold Effect.listField
  split
  · exact nil.skip
  · exact nil.cons key (Datum.every_list.2 ⟨rfl, Datum.everyItem_iff.2 h⟩)

theorem recordField (key : String) {o : Option Datum}
    (h : ∀ d, o = some d → d.every Datum.isStorable = true) :
    StoredFields [key] (Effect.recordField key o) := by
  cases o with
  | none => exact nil.skip
  | some d => exact nil.cons key (h d rfl)

theorem flag (key : String) (b : Bool) : StoredFields [key] (Effect.flag key b) := by
  cases b with
  | false => exact nil.skip
  | true => exact nil.cons key rfl

/-- A record whose keys are distinct can be stored. -/
theorem object (h : StoredFields keys members) (hkeys : keys.Nodup) :
    (Datum.object members).every Datum.isStorable = true :=
  Datum.every_object.2 ⟨decide_eq_true (h.keys.nodup hkeys), h.data⟩

end StoredFields

/-! ### Written conditions and effects -/

theorem Condition.write_storable {c : Condition} (h : c.Carries Datum.isStorable) :
    c.write.every Datum.isStorable = true := by
  have hbuff : ∀ d, (c.buffKind.map fun k => Datum.text k.shown) = some d →
      d.every Datum.isStorable = true := by
    intro d hd
    obtain ⟨k, -, rfl⟩ := Option.map_eq_some_iff.1 hd
    rfl
  have hoptional := (((StoredFields.recordField "buffType" hbuff).append
    (.field "cardType" h.cardType)).append (.field "scope" h.scope)).append
    (.field "targetRarity" h.targetRarity)
  have hfields := ((hoptional.cons "compare" (d := .text c.compare.name) rfl).cons "value"
    h.value).cons "type" (d := .text c.kind.shown) rfl
  rw [write_eq]
  exact hfields.object (by decide)

namespace Effect

theorem fields_storable {op : Operation} {subs : List Datum} {triggered : Option Datum}
    (h : op.Carries Datum.isStorable) (hsubs : ∀ d ∈ subs, d.every Datum.isStorable = true)
    (htriggered : ∀ d, triggered = some d → d.every Datum.isStorable = true) :
    (Datum.object (fields op subs triggered)).every Datum.isStorable = true := by
  have hconditions : ∀ d ∈ op.conditions.map Condition.write,
      d.every Datum.isStorable = true := by
    intro d hd
    obtain ⟨c, hc, rfl⟩ := List.mem_map.1 hd
    exact Condition.write_storable (h.conditions c hc)
  have htrigger : ∀ d, op.triggerCondition.map Condition.write = some d →
      d.every Datum.isStorable = true := by
    intro d hd
    obtain ⟨c, hc, rfl⟩ := Option.map_eq_some_iff.1 hd
    exact Condition.write_storable (h.triggerCondition c hc)
  have hnumbers := (((StoredFields.field "value" h.value).append (.field "ratio" h.ratio)).append
    (.field "multiplier" h.multiplier)).append (.field "duration" h.duration)
  have hwords := (((hnumbers.append (.field "count" h.count)).append
    (.field "troubleId" h.troubleId)).append (.field "targetRarity" h.targetRarity)).append
    (.field "param" h.param)
  have hrecords := (((hwords.append (.listField "condition" hconditions)).append
    (.listField "subEffects" hsubs)).append (.recordField "triggeredEffect" htriggered)).append
    (.recordField "triggerCondition" htrigger)
  have hfields := ((hrecords.append (.flag "ignoreCost" op.ignoreCost)).append
    (.flag "doubleMotivation" op.doubleMotivation)).cons "type" (d := .text op.kind.shown) rfl
  exact hfields.object (by decide)

mutual

/-- **A written effect can be stored** if what it carries can. -/
theorem write_storable : ∀ e : Effect,
    (e.Throughout fun n => n.operation.Carries Datum.isStorable) →
    e.write.every Datum.isStorable = true
  | ⟨op, subs, triggered⟩, h => by
    obtain ⟨hop, hsubs, htriggered⟩ := throughout_iff.1 h
    rw [write, writeWith_eq]
    exact fields_storable hop (writeAll_storable subs hsubs)
      (writeOption_storable triggered htriggered)
termination_by structural e => e

theorem writeAll_storable : ∀ es : List Effect,
    (∀ e ∈ es, e.Throughout fun n => n.operation.Carries Datum.isStorable) →
    ∀ d ∈ writeAll es, d.every Datum.isStorable = true
  | [], _ => List.forall_mem_nil _
  | e :: es, h => by
    rw [List.forall_mem_cons] at h
    exact List.forall_mem_cons.2 ⟨write_storable e h.1, writeAll_storable es h.2⟩
termination_by structural es => es

theorem writeOption_storable : ∀ o : Option Effect,
    (∀ e, o = some e → e.Throughout fun n => n.operation.Carries Datum.isStorable) →
    ∀ d, writeOption o = some d → d.every Datum.isStorable = true
  | none, _ => nofun
  | some e, h => by
    rintro _ ⟨⟩
    exact write_storable e (h e rfl)
termination_by structural o => o

end

end Effect

/-! ### Costs -/

theorem natAbs_tdiv_signed (s : Bool) (k d : ℕ) :
    ((Double.signed s k).tdiv d).natAbs ≤ k := by
  have habs : (Double.signed s k).natAbs = k := by cases s <;> simp [Double.signed]
  rw [Int.natAbs_tdiv, habs]
  exact Nat.div_le_self k _

theorem mantissa_lt {m k : ℕ} (hm : m < 2 ^ 53) (hk : k ≤ 971) :
    m * 2 ^ k < 10 ^ figureLimit := by
  have hlimit : 53 + k ≤ figureLimit := by
    rw [figureLimit]
    omega
  calc m * 2 ^ k < 2 ^ 53 * 2 ^ k := Nat.mul_lt_mul_of_pos_right hm (Nat.two_pow_pos k)
    _ = 2 ^ (53 + k) := (pow_add 2 53 k).symm
    _ ≤ 10 ^ (53 + k) := Nat.pow_le_pow_left (by norm_num) _
    _ ≤ 10 ^ figureLimit := Nat.pow_le_pow_right (by norm_num) hlimit

/-- The whole part of a double has few enough figures. -/
theorem Quantity.truncate_storable {q : Quantity} {n : ℤ} (hq : q.isStorable = true)
    (h : q.truncate = .ok n) : (Quantity.whole n).isStorable = true := by
  match q with
  | .whole k =>
    obtain rfl := Except.ok.inj h
    exact hq
  | .real (.finite s m e) =>
    obtain rfl : (Double.signed s (m * Nat.pow 2 e.toNat)).tdiv (Nat.pow 2 (-e).toNat) = n :=
      Except.ok.inj h
    have hsmall : m < 2 ^ 53 ∧ e.toNat ≤ 971 := by
      rcases of_decide_eq_true hq with ⟨rfl, rfl⟩ | hstandard
      · exact ⟨Nat.two_pow_pos 53, Nat.zero_le 971⟩
      · exact ⟨hstandard.lt, by have := hstandard.greatest; omega⟩
    have hle := natAbs_tdiv_signed s (m * Nat.pow 2 e.toNat) (Nat.pow 2 (-e).toNat)
    exact Json.isPrintable_of_lt (lt_of_le_of_lt hle (mantissa_lt hsmall.1 hsmall.2))

theorem readWhole_storable {s : String} {n : ℤ} (h : readWhole s = .ok n) :
    (Quantity.whole n).isStorable = true := by
  unfold readWhole at h
  dsimp only at h
  split at h
  · cases h
  · next ds _ =>
    split at h
    · cases h
    · next hlimit =>
      split at h
      · obtain rfl := Except.ok.inj h
        refine Json.isPrintable_of_lt ?_
        calc _ = Text.digitsValue ds := by cases (splitSign _).1 <;> simp [withSign]
          _ < 10 ^ ds.length := Text.digitsValue_lt ds
          _ ≤ 10 ^ figureLimit := Nat.pow_le_pow_right (by norm_num) (not_lt.1 hlimit)
      · cases h

/-- **A cost that is read can be stored.** -/
theorem Datum.toWhole_storable {d : Datum} {n : ℤ} (hd : d.isStorable = true)
    (h : d.toWhole = .ok n) : (Quantity.whole n).isStorable = true := by
  match d with
  | .text s => exact readWhole_storable h
  | .number q => exact Quantity.truncate_storable hd h
  | .truth true =>
    obtain rfl := Except.ok.inj h
    decide
  | .truth false =>
    obtain rfl := Except.ok.inj h
    decide

/-! ### Cards -/

namespace Card

/-- The conditions of a card. A field that holds nothing is no conditions. -/
def readConditions (members : Members) : Except Fault (List Condition) :=
  if (lookup members ["conditions"] .null).holds then
    readItems Condition.read (lookup members ["conditions"] .null)
  else .ok []

theorem readBody_eq (members : Members) : readBody members = (do
    let effects ← readEffects members
    let conditions ← readConditions members
    let cost ← ((lookup members ["cost"] .null).orElse (.whole 0)).toWhole
    return (effects, conditions, cost)) := by
  unfold readBody readConditions
  dsimp only
  split <;> rfl

theorem readBody_ok {members : Members} {effects : List Effect} {conditions : List Condition}
    {cost : ℤ} (h : readBody members = .ok (effects, conditions, cost)) :
    readEffects members = .ok effects ∧ readConditions members = .ok conditions ∧
      ((lookup members ["cost"] .null).orElse (.whole 0)).toWhole = .ok cost := by
  rw [readBody_eq] at h
  obtain ⟨es, hes, h⟩ := except_bind_ok.1 h
  obtain ⟨cs, hcs, h⟩ := except_bind_ok.1 h
  obtain ⟨n, hn, h⟩ := except_bind_ok.1 h
  obtain ⟨rfl, hrest⟩ := Prod.mk.inj (except_pure_ok.1 h)
  obtain ⟨rfl, rfl⟩ := Prod.mk.inj hrest
  exact ⟨hes, hcs, hn⟩

/-- What the fields of a record say about the card that is read from it. -/
structure Of (members : Members) (c : Card) : Prop where
  id : Datum.member? "id" members = some c.id
  name : Datum.member? "name" members = some c.name
  effects : readEffects members = .ok c.effects
  conditions : readConditions members = .ok c.conditions
  cost : ((lookup members ["cost"] .null).orElse (.whole 0)).toWhole = .ok c.cost
  plan : c.plan = lookup members ["plan"] (.text "free")
  rarity : c.rarity = lookup members ["rarity"] .null
  description : c.description = (lookup members ["description", "effect"] .null).orElse (.text "")

/-- A card is read from the fields of an object. -/
theorem of_read {d : Datum} {c : Card} (h : read d = .ok c) :
    ∃ members, d = .object members ∧ Of members c := by
  cases d with
  | null | truth b | number q | text s | list items => cases h
  | object members =>
    rw [read_eq_ok, readRecord] at h
    split at h
    · cases h
    · cases h
    · next id name hid hname =>
      split at h
      · cases h
      · next effects conditions cost hbody =>
        obtain ⟨heffects, hconditions, hcost⟩ := readBody_ok hbody
        obtain ⟨type, -, h⟩ := except_bind_ok.1 h
        obtain ⟨costType, -, h⟩ := except_bind_ok.1 h
        dsimp only at h
        split at h
        · obtain ⟨limit, -, h⟩ := except_bind_ok.1 h
          obtain rfl := except_pure_ok.1 h
          exact ⟨members, rfl, hid, hname, heffects, hconditions, hcost, rfl, rfl, rfl⟩
        · obtain ⟨limit, -, h⟩ := except_bind_ok.1 h
          obtain rfl := except_pure_ok.1 h
          exact ⟨members, rfl, hid, hname, heffects, hconditions, hcost, rfl, rfl, rfl⟩

end Card
end CardLesson
