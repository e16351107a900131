/-
# Written effects are restored

A writer leaves out what is missing, empty or not set, and a reader takes a field that is not there
for just that. So a condition or an effect that is written and read again is what it was, if its
words stand for texts: another datum in place of a word comes back as the text that shows it
(`Operation.Restorable`).

Key definitions: `Tag.OfText`, `Condition.Restorable`, `Operation.Restorable`, `Condition.fields`,
`Effect.fields`.
Key theorems: `pick_given`, `Condition.read_write`, `Effect.read_write`.
-/
import CardLesson.Card.Record
import CardLesson.Proofs.Stock

namespace CardLesson

open Play (except_bind_ok)

/-! ### Fields of records -/

namespace Datum

variable (key : String)

@[simp] theorem member?_nil : member? key [] = none := rfl

@[simp] theorem member?_cons (k : String) (d : Datum) (members : Members) :
    member? key ((k, d) :: members) = if k = key then some d else member? key members := rfl

@[simp] theorem member?_append (a b : Members) :
    member? key (a ++ b) = (member? key a).or (member? key b) := by
  induction a with
  | nil => rfl
  | cons m a ih =>
    obtain ⟨k, d⟩ := m
    rw [List.cons_append, member?_cons, member?_cons]
    split
    · rfl
    · exact ih

/-- The datum, unless it is missing. -/
def given? (d : Datum) : Option Datum := if d.isNull then none else some d

@[simp] theorem member?_field (k : String) (d : Datum) :
    member? key (Condition.field k d) = if k = key then d.given? else none := by
  unfold Condition.field given?
  split <;> simp

@[simp] theorem member?_listField (k : String) (ds : List Datum) :
    member? key (Effect.listField k ds) =
      if k = key ∧ ds.isEmpty = false then some (.list ds) else none := by
  unfold Effect.listField
  cases ds <;> simp

@[simp] theorem member?_recordField (k : String) (o : Option Datum) :
    member? key (Effect.recordField k o) = if k = key then o else none := by
  cases o <;> simp [Effect.recordField]

@[simp] theorem member?_flag (k : String) (b : Bool) :
    member? key (Effect.flag k b) = if k = key ∧ b = true then some (.truth true) else none := by
  cases b <;> simp [Effect.flag]

end Datum

section Pick

variable {members : Members} {key : String} {others : List String}

theorem pick?_of_none (h : ∀ k ∈ others, Datum.member? k members = none) :
    pick? members others = none := by
  induction others with
  | nil => rfl
  | cons k others ih =>
    rw [pick?, h k List.mem_cons_self]
    exact ih fun k' hk' => h k' (List.mem_cons_of_mem k hk')

theorem pick?_of_some {d : Datum} (h : Datum.member? key members = some d)
    (hnull : d.isNull = false) : pick? members (key :: others) = some d := by
  simp [pick?, h, hnull]

/-- A written field is picked as it was. -/
theorem pick_given {d : Datum} (h : Datum.member? key members = d.given?)
    (hothers : ∀ k ∈ others, Datum.member? k members = none) :
    pick members (key :: others) = d := by
  unfold Datum.given? at h
  cases hnull : d.isNull with
  | false =>
    rw [hnull, if_neg Bool.false_ne_true] at h
    rw [pick, pick?_of_some h hnull]
    rfl
  | true =>
    rw [hnull, if_pos rfl] at h
    rw [pick, pick?, h]
    dsimp only
    rw [pick?_of_none hothers]
    cases d <;> cases hnull
    rfl

/-- A written flag is picked as it was. -/
theorem pick_flag {b : Bool}
    (h : Datum.member? key members = if b = true then some (.truth true) else none)
    (hothers : ∀ k ∈ others, Datum.member? k members = none) :
    (pick members (key :: others)).holds = b := by
  rw [pick, pick?, h]
  cases b with
  | true => rfl
  | false =>
    rw [if_neg Bool.false_ne_true]
    dsimp only
    rw [pick?_of_none hothers]
    rfl

end Pick

/-! ### Words -/

/-- The tag stands for a text. -/
def Tag.OfText {α : Type} [Named α] (t : Tag α) : Prop := ∃ s, t = .read (.text s)

namespace Tag

variable {α : Type} [Named α]

@[simp] theorem shown_read_text (s : String) : (read (.text s) : Tag α).shown = s := by
  unfold read
  split
  · next a h => exact Named.name_of_ofName? h
  · rfl

theorem OfText.read_shown {t : Tag α} (h : t.OfText) : read (.text t.shown) = t := by
  obtain ⟨s, rfl⟩ := h
  rw [shown_read_text]

end Tag

/-! ### Conditions -/

/-- Nothing of the condition is lost when it is written. -/
structure Condition.Restorable (c : Condition) : Prop where
  kind : c.kind.OfText
  value : c.value.isNull = false
  buffKind : ∀ k, c.buffKind = some k → k.OfText ∧ k.shown ≠ ""

namespace Condition

/-- The fields of a written condition. -/
def fields (c : Condition) : Members :=
  ("type", .text c.kind.shown) :: ("value", c.value) :: ("compare", .text c.compare.name) ::
    (Effect.recordField "buffType" (c.buffKind.map fun k => .text k.shown) ++
      field "cardType" c.cardType ++ field "scope" c.scope ++ field "targetRarity" c.targetRarity)

theorem write_eq (c : Condition) : c.write = .object c.fields := by
  unfold write fields
  cases c.buffKind <;> rfl

theorem readComparison_fields (c : Condition) : readComparison c.fields = .ok c.compare := by
  have hmember : Datum.member? "compare" c.fields = some (.text c.compare.name) := by simp [fields]
  have hname : (Named.ofDatum? (.text c.compare.name) : Option Comparison) = some c.compare :=
    Comparison.ofName?_name c.compare
  rw [readComparison, pick?_of_some hmember rfl]
  dsimp only
  rw [hname]

/-- **A condition that is written is restored.** -/
theorem read_write {c : Condition} (h : c.Restorable) : read c.write = .ok c := by
  have htype : require c.fields "type" = .ok (.text c.kind.shown) := rfl
  have hvalue : pick? c.fields ["value"] = some c.value :=
    pick?_of_some (by simp [fields]) h.value
  have hbuffKind : pick c.fields ["buffType", "buff_type"] =
      (c.buffKind.map fun k => .text k.shown).getD .null := by
    refine pick_given ?_ (by simp [fields])
    cases hk : c.buffKind <;> simp [fields, hk, Datum.given?, Datum.isNull]
  have hcard : pick c.fields ["cardType", "card_type"] = c.cardType :=
    pick_given (by simp [fields]) (by simp [fields])
  have hscope : pick c.fields ["scope"] = c.scope := pick_given (by simp [fields]) (by simp)
  have hrarity : pick c.fields ["targetRarity", "target_rarity"] = c.targetRarity :=
    pick_given (by simp [fields]) (by simp [fields])
  have hbuff : (if ((c.buffKind.map fun k => Datum.text k.shown).getD .null).holds then
      some (Tag.read ((c.buffKind.map fun k => Datum.text k.shown).getD .null)) else none) =
        c.buffKind := by
    cases hk : c.buffKind with
    | none => rfl
    | some k =>
      obtain ⟨htext, hne⟩ := h.buffKind k hk
      have hholds : (Datum.text k.shown).holds = true := by simpa [Datum.holds] using hne
      rw [Option.map_some, Option.getD_some, if_pos hholds, htext.read_shown]
  rw [write_eq, read, readComparison_fields, htype]
  show Except.ok _ = _
  rw [hvalue, hbuffKind, hcard, hscope, hrarity, hbuff, h.kind.read_shown]
  rfl

/-- A written condition is no empty record. -/
theorem write_holds (c : Condition) : c.write.holds = true := by
  rw [write_eq]
  rfl

end Condition

/-- A list whose items are restored one by one is restored. -/
theorem mapM_map_ok {α β : Type} {write : α → β} {read : β → Except Fault α} :
    ∀ {as : List α}, (∀ a ∈ as, read (write a) = .ok a) → (as.map write).mapM read = .ok as
  | [], _ => rfl
  | a :: as, h => by
    rw [List.map_cons, List.mapM_cons, h a List.mem_cons_self,
      mapM_map_ok fun b hb => h b (List.mem_cons_of_mem a hb)]
    rfl

theorem readItems_write {conditions : List Condition} (h : ∀ c ∈ conditions, c.Restorable) :
    readItems Condition.read (.list (conditions.map Condition.write)) = .ok conditions :=
  mapM_map_ok fun c hc => Condition.read_write (h c hc)

/-! ### Effects -/

/-- Nothing of the operation is lost when it is written. -/
structure Operation.Restorable (op : Operation) : Prop where
  kind : op.kind.OfText
  conditions : ∀ c ∈ op.conditions, c.Restorable
  triggerCondition : ∀ c, op.triggerCondition = some c → c.Restorable

namespace Operation

/-- The conditions of an operation. -/
def readConditions (members : Members) : Except Fault (List Condition) :=
  match pick? members ["condition"] with
  | some d => readItems Condition.read d
  | none => pure []

/-- The operation of a kind with given conditions and the fields of a record. -/
def ofMembers (members : Members) (kind : Datum) (conditions : List Condition) : Operation where
  kind := .read kind
  value := pick members ["value"]
  ratio := pick members ["ratio"]
  multiplier := pick members ["multiplier"]
  duration := pick members ["duration"]
  count := pick members ["count"]
  conditions
  troubleId := pick members ["troubleId", "trouble_id"]
  targetRarity := pick members ["targetRarity", "target_rarity"]
  ignoreCost := (pick members ["ignoreCost", "ignore_cost"]).holds
  param := pick members ["param"]
  doubleMotivation := (pick members ["doubleMotivation", "double_motivation"]).holds

theorem read_eq (members : Members) : Operation.read members = (do
    let kind ← require members "type"
    let conditions ← readConditions members
    return ofMembers members kind conditions) := by
  unfold Operation.read readConditions
  cases require members "type" with
  | error f => rfl
  | ok kind => cases pick? members ["condition"] <;> rfl

end Operation

namespace Effect

/-- The fields of a written effect. -/
def fields (op : Operation) (subs : List Datum) (triggered : Option Datum) : Members :=
  ("type", .text op.kind.shown) ::
    (Condition.field "value" op.value ++ Condition.field "ratio" op.ratio ++
      Condition.field "multiplier" op.multiplier ++ Condition.field "duration" op.duration ++
      Condition.field "count" op.count ++ Condition.field "troubleId" op.troubleId ++
      Condition.field "targetRarity" op.targetRarity ++ Condition.field "param" op.param ++
      listField "condition" (op.conditions.map Condition.write) ++ listField "subEffects" subs ++
      recordField "triggeredEffect" triggered ++
      recordField "triggerCondition" (op.triggerCondition.map Condition.write) ++
      flag "ignoreCost" op.ignoreCost ++ flag "doubleMotivation" op.doubleMotivation)

theorem writeWith_eq (op : Operation) (subs : List Datum) (triggered : Option Datum) :
    writeWith op subs triggered = .object (fields op subs triggered) := rfl

variable {op : Operation} {subs : List Datum} {triggered : Option Datum}

theorem readConditions_fields (h : ∀ c ∈ op.conditions, c.Restorable) :
    Operation.readConditions (fields op subs triggered) = .ok op.conditions := by
  cases hconditions : op.conditions with
  | nil =>
    have hnone : pick? (fields op subs triggered) ["condition"] = none :=
      pick?_of_none (by simp [fields, hconditions])
    rw [Operation.readConditions, hnone]
    rfl
  | cons c cs =>
    have hsome : pick? (fields op subs triggered) ["condition"] =
        some (.list (op.conditions.map Condition.write)) :=
      pick?_of_some (by simp [fields, hconditions]) rfl
    rw [Operation.readConditions, hsome, ← hconditions]
    exact readItems_write h

/-- The operation of a written effect is restored, apart from the trigger condition. -/
theorem readOperation_fields (h : op.Restorable) :
    Operation.read (fields op subs triggered) = .ok { op with triggerCondition := none } := by
  have htype : require (fields op subs triggered) "type" = .ok (.text op.kind.shown) := rfl
  have hignore : (pick (fields op subs triggered) ["ignoreCost", "ignore_cost"]).holds =
      op.ignoreCost := pick_flag (by simp [fields]) (by simp [fields])
  have hdouble : (pick (fields op subs triggered) ["doubleMotivation", "double_motivation"]).holds =
      op.doubleMotivation := pick_flag (by simp [fields]) (by simp [fields])
  rw [Operation.read_eq, htype, readConditions_fields h.conditions]
  show Except.ok (Operation.ofMembers _ _ _) = _
  rw [Operation.ofMembers, h.kind.read_shown, hignore, hdouble,
    pick_given (d := op.value) (by simp [fields]) (by simp),
    pick_given (d := op.ratio) (by simp [fields]) (by simp),
    pick_given (d := op.multiplier) (by simp [fields]) (by simp),
    pick_given (d := op.duration) (by simp [fields]) (by simp),
    pick_given (d := op.count) (by simp [fields]) (by simp),
    pick_given (d := op.troubleId) (by simp [fields]) (by simp [fields]),
    pick_given (d := op.targetRarity) (by simp [fields]) (by simp [fields]),
    pick_given (d := op.param) (by simp [fields]) (by simp)]

theorem readTrigger_fields (h : op.Restorable) :
    Operation.readTrigger (fields op subs triggered) { op with triggerCondition := none } =
      .ok op := by
  have hpick : pick (fields op subs triggered) ["triggerCondition", "trigger_condition"] =
      (op.triggerCondition.map Condition.write).getD .null := by
    refine pick_given ?_ (by simp [fields])
    cases hc : op.triggerCondition with
    | none => simp [fields, hc, Datum.given?, Datum.isNull]
    | some c => simp [fields, hc, Datum.given?, Condition.write_eq, Datum.isNull]
  have hread : readOptionalCondition ((op.triggerCondition.map Condition.write).getD .null) =
      .ok op.triggerCondition := by
    cases hc : op.triggerCondition with
    | none => rfl
    | some c =>
      rw [Option.map_some, Option.getD_some, readOptionalCondition, if_pos c.write_holds,
        Condition.read_write (h.triggerCondition c hc)]
      rfl
  rw [Operation.readTrigger, hpick, hread]
  rfl

theorem listUnder_eq (key : String) : ∀ members : Members, listUnder key members =
    (Datum.member? key members).bind fun d => if d.isNull then none else some (readSequence d)
  | [] => rfl
  | (k, d) :: members => by
    rw [listUnder, Datum.member?_cons]
    split
    · rfl
    · exact listUnder_eq key members

theorem under_eq (key : String) : ∀ members : Members, under key members =
    (Datum.member? key members).bind fun d =>
      if d.isNull then none
      else if d.holds then some ((read d).map some)
      else some (.ok none)
  | [] => rfl
  | (k, d) :: members => by
    rw [under, Datum.member?_cons]
    split
    · rfl
    · exact under_eq key members

/-- A written effect is no empty record. -/
theorem write_object (e : Effect) : ∃ m members, e.write = .object (m :: members) := by
  obtain ⟨op, subs, triggered⟩ := e
  exact ⟨_, _, rfl⟩

theorem subEffects_fields {es : List Effect} (h : readAll (writeAll es) = .ok es) :
    (listUnder "subEffects" (fields op (writeAll es) triggered) <|>
      listUnder "sub_effects" (fields op (writeAll es) triggered)).getD (.ok []) = .ok es := by
  have hother : listUnder "sub_effects" (fields op (writeAll es) triggered) = none := by
    rw [listUnder_eq]
    simp [fields]
  cases es with
  | nil =>
    have hnone : listUnder "subEffects" (fields op (writeAll []) triggered) = none := by
      rw [listUnder_eq]
      simp [fields, writeAll]
    rw [hnone, hother]
    rfl
  | cons e es =>
    have hsome : Datum.member? "subEffects" (fields op (writeAll (e :: es)) triggered) =
        some (.list (writeAll (e :: es))) := by
      simp [fields, writeAll]
    rw [listUnder_eq, hsome]
    exact h

theorem triggered_fields {o : Option Effect} (h : ∀ e, o = some e → read e.write = .ok e) :
    (under "triggeredEffect" (fields op subs (writeOption o)) <|>
      under "triggered_effect" (fields op subs (writeOption o))).getD (.ok none) = .ok o := by
  have hother : under "triggered_effect" (fields op subs (writeOption o)) = none := by
    rw [under_eq]
    simp [fields]
  have hmember : Datum.member? "triggeredEffect" (fields op subs (writeOption o)) =
      writeOption o := by
    simp [fields]
  cases o with
  | none =>
    rw [hother, under_eq, hmember]
    rfl
  | some e =>
    have hread := h e rfl
    obtain ⟨m, members, hwrite⟩ := e.write_object
    have hnull : e.write.isNull = false := by rw [hwrite]; rfl
    have hholds : e.write.holds = true := by rw [hwrite]; rfl
    rw [under_eq, hmember, writeOption, Option.bind_some, hnull, hholds, hread]
    rfl

mutual

/-- **An effect that is written is restored**, with all effects inside it. -/
theorem read_write : ∀ e : Effect, (e.Throughout fun n => n.operation.Restorable) →
    read e.write = .ok e
  | ⟨op, subs, triggered⟩, h => by
    obtain ⟨hop, hsubs, htriggered⟩ := throughout_iff.1 h
    have hread := readAll_writeAll subs hsubs
    have hfired := read_writeOption triggered htriggered
    rw [write, writeWith_eq, read]
    exact except_bind_ok.2 ⟨_, readOperation_fields hop, except_bind_ok.2 ⟨subs,
      subEffects_fields hread, except_bind_ok.2 ⟨triggered, triggered_fields hfired,
        except_bind_ok.2 ⟨op, readTrigger_fields hop, rfl⟩⟩⟩⟩
termination_by structural e => e

theorem readAll_writeAll : ∀ es : List Effect,
    (∀ e ∈ es, e.Throughout fun n => n.operation.Restorable) → readAll (writeAll es) = .ok es
  | [], _ => rfl
  | e :: es, h => by
    rw [writeAll, readAll, read_write e (h e List.mem_cons_self),
      readAll_writeAll es fun e' he' => h e' (List.mem_cons_of_mem e he')]
    rfl
termination_by structural es => es

theorem read_writeOption : ∀ o : Option Effect,
    (∀ e, o = some e → e.Throughout fun n => n.operation.Restorable) →
    ∀ e, o = some e → read e.write = .ok e
  | none, _ => nofun
  | some e, h => by
    rintro _ ⟨⟩
    exact read_write e (h e rfl)
termination_by structural o => o

end

end Effect

end CardLesson
