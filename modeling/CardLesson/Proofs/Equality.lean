/-
# Equality by meaning is an equivalence

Equality by meaning is transitive, and symmetric as far as no two members of an object have one key:
an object is compared member by member with what the other one has under the same keys, so two
objects with as many members must have the same keys to be equal. Conditions, operations, effects
and cards are compared field by field, and it is the same with them.

Key definitions: `Datum.isKeyed`, `Card.isKeyed`.
Key theorems: `Datum.same_swap`, `Datum.same_trans`, `Effect.same_swap`, `Effect.same_trans`,
`Card.same_swap`, `Card.same_trans`.
-/
import CardLesson.Proofs.Sameness
import CardLesson.Proofs.Records
import Mathlib.Data.List.Perm.Subperm

namespace CardLesson

/-! ### Data -/

namespace Datum

/-- Whether no two members of an object have one key. -/
def isKeyed : Datum → Bool
  | .object members => (members.map Prod.fst).Nodup
  | _ => true

variable {a b c : Datum} {p : Quantity}

theorem same_null_iff : null.same b = true ↔ b = null := by
  cases b <;> simp [same, number?]

theorem same_text_iff {s : String} : (text s).same b = true ↔ b = text s := by
  cases b with
  | text t => rw [same_text, beq_iff_eq, text.injEq, eq_comm]
  | _ => simp [same, number?]

theorem same_list_iff {items : List Datum} :
    (list items).same b = true ↔ ∃ others, b = list others ∧ sameAll items others = true := by
  cases b <;> simp [same, number?]

theorem same_object_iff {members : Members} : (object members).same b = true ↔
    ∃ others, b = object others ∧ members.length = others.length ∧
      sameMembers members others = true := by
  cases b <;> simp [same, number?]

theorem same_number_iff (ha : a.number? = some p) :
    a.same b = true ↔ ∃ q, b.number? = some q ∧ p.same q = true := by
  cases a <;> cases ha <;> cases b <;> simp [same, number?]

/-- What equals a number equals the same numbers. -/
theorem same_swap_number (ha : a.number? = some p) (h : a.same b = true) : b.same a = true := by
  obtain ⟨q, hb, hq⟩ := (same_number_iff ha).1 h
  exact (same_number_iff hb).2 ⟨p, ha, Quantity.same_comm p q ▸ hq⟩

theorem same_trans_number (ha : a.number? = some p) (h : a.same b = true)
    (h' : b.same c = true) : a.same c = true := by
  obtain ⟨q, hb, hpq⟩ := (same_number_iff ha).1 h
  obtain ⟨r, hc, hqr⟩ := (same_number_iff hb).1 h'
  exact (same_number_iff ha).2 ⟨r, hc, Quantity.same_congr hpq r ▸ hqr⟩

theorem mem_of_member? {key : String} {d : Datum} : ∀ {members : Members},
    member? key members = some d → (key, d) ∈ members
  | (k, d') :: members, h => by
    rw [member?_cons] at h
    split at h
    · next hk =>
      rw [← hk, ← Option.some.inj h]
      exact List.mem_cons_self
    · exact List.mem_cons_of_mem _ (mem_of_member? h)

/-- Two objects with as many members, the keys of the one distinct and among those of the other,
have the same keys. -/
theorem keys_perm {members others : Members} (hkeys : (members.map Prod.fst).Nodup)
    (hlength : members.length = others.length)
    (h : ∀ m ∈ members, ∃ d, member? m.1 others = some d) :
    (members.map Prod.fst).Perm (others.map Prod.fst) := by
  have hsubset : members.map Prod.fst ⊆ others.map Prod.fst := by
    intro key hkey
    obtain ⟨m, hm, rfl⟩ := List.mem_map.1 hkey
    obtain ⟨d, hd⟩ := h m hm
    exact List.mem_map.2 ⟨(m.1, d), mem_of_member? hd, rfl⟩
  refine (List.subperm_of_subset hkeys hsubset).perm_of_length_le ?_
  rw [List.length_map, List.length_map]
  exact Nat.le_of_eq hlength.symm

mutual

/-- **Equality by meaning is symmetric** for data whose objects have distinct keys. -/
theorem same_symm : ∀ a b : Datum, a.every isKeyed = true → b.every isKeyed = true →
    a.same b = true → b.same a = true
  | .null, b, _, _, h => by
    obtain rfl := same_null_iff.1 h
    exact h
  | .truth t, b, _, _, h => same_swap_number rfl h
  | .number p, b, _, _, h => same_swap_number rfl h
  | .text s, b, _, _, h => by
    obtain rfl := same_text_iff.1 h
    exact h
  | .list items, b, ha, hb, h => by
    obtain ⟨others, rfl, h⟩ := same_list_iff.1 h
    exact same_list_iff.2
      ⟨items, rfl, sameAll_symm items others (every_list.1 ha).2 (every_list.1 hb).2 h⟩
  | .object members, b, ha, hb, h => by
    obtain ⟨others, rfl, hlength, h⟩ := same_object_iff.1 h
    obtain ⟨hkeys, hmembers⟩ := every_object.1 ha
    obtain ⟨hkeys', hothers⟩ := every_object.1 hb
    have hkeys := of_decide_eq_true hkeys
    have hkeys' := of_decide_eq_true hkeys'
    have hfound := sameMembers_iff.1 h
    refine same_object_iff.2 ⟨members, rfl, hlength.symm, sameMembers_iff.2 fun n hn => ?_⟩
    have hperm := keys_perm hkeys hlength fun m hm => (hfound m hm).imp fun _ => And.left
    obtain ⟨m, hm, hmn⟩ := List.mem_map.1 (hperm.mem_iff.2 (List.mem_map_of_mem hn))
    obtain ⟨d, hd, hsame⟩ := hfound m hm
    -- The keys of the others are distinct, so what stands under the key is the member itself.
    have hself := member?_of_mem hkeys' hn
    obtain rfl := Option.some.inj ((hmn ▸ hd).symm.trans hself)
    exact ⟨m.2, hmn ▸ member?_of_mem hkeys hm,
      same_symm_member members hmembers m hm n.2 (every_of_member? hothers hself) hsame⟩
termination_by structural a => a

theorem sameAll_symm : ∀ as bs : List Datum, everyItem isKeyed as = true →
    everyItem isKeyed bs = true → sameAll as bs = true → sameAll bs as = true
  | [], [], _, _, _ => rfl
  | [], _ :: _, _, _, h | _ :: _, [], _, _, h => by cases h
  | a :: as, b :: bs, ha, hb, h => by
    rw [everyItem, Bool.and_eq_true] at ha hb
    rw [sameAll, Bool.and_eq_true] at h ⊢
    exact ⟨same_symm a b ha.1 hb.1 h.1, sameAll_symm as bs ha.2 hb.2 h.2⟩
termination_by structural as => as

theorem same_symm_member : ∀ ms : List (String × Datum), everyMember isKeyed ms = true →
    ∀ m ∈ ms, ∀ d : Datum, d.every isKeyed = true → m.2.same d = true → d.same m.2 = true
  | [], _ => fun _ hm => absurd hm List.not_mem_nil
  | (k, d) :: ms, h => by
    obtain ⟨hd, hms⟩ := Bool.and_eq_true_iff.1 h
    exact List.forall_mem_cons.2 ⟨fun d' hd' => same_symm d d' hd hd', same_symm_member ms hms⟩
termination_by structural ms => ms

end

/-- Which of two data comes first does not matter. -/
theorem same_swap (ha : a.every isKeyed = true) (hb : b.every isKeyed = true) :
    a.same b = b.same a :=
  Bool.eq_iff_iff.2 ⟨same_symm a b ha hb, same_symm b a hb ha⟩

mutual

/-- **Equality by meaning is transitive.** -/
theorem same_trans : ∀ {a b c : Datum}, a.same b = true → b.same c = true → a.same c = true
  | .null, b, c, h, h' => by
    obtain rfl := same_null_iff.1 h
    exact h'
  | .truth t, b, c, h, h' => same_trans_number rfl h h'
  | .number p, b, c, h, h' => same_trans_number rfl h h'
  | .text s, b, c, h, h' => by
    obtain rfl := same_text_iff.1 h
    exact h'
  | .list items, b, c, h, h' => by
    obtain ⟨others, rfl, h⟩ := same_list_iff.1 h
    obtain ⟨more, rfl, h'⟩ := same_list_iff.1 h'
    exact same_list_iff.2 ⟨more, rfl, sameAll_trans h h'⟩
  | .object members, b, c, h, h' => by
    obtain ⟨others, rfl, hlength, h⟩ := same_object_iff.1 h
    obtain ⟨more, rfl, hlength', h'⟩ := same_object_iff.1 h'
    exact same_object_iff.2 ⟨more, rfl, hlength.trans hlength', sameMembers_trans h h'⟩
termination_by structural a => a

theorem sameAll_trans : ∀ {as bs cs : List Datum}, sameAll as bs = true → sameAll bs cs = true →
    sameAll as cs = true
  | [], [], _, _, h' => h'
  | [], _ :: _, _, h, _ | _ :: _, [], _, h, _ => by cases h
  | _ :: _, _ :: _, [], _, h' => by cases h'
  | a :: as, b :: bs, c :: cs, h, h' => by
    rw [sameAll, Bool.and_eq_true] at h h' ⊢
    exact ⟨same_trans h.1 h'.1, sameAll_trans h.2 h'.2⟩
termination_by structural as => as

theorem sameMembers_trans : ∀ {ms ns os : List (String × Datum)}, sameMembers ms ns = true →
    sameMembers ns os = true → sameMembers ms os = true
  | [], _, _, _, _ => rfl
  | (k, d) :: ms, ns, os, h, h' => by
    rw [sameMembers, Bool.and_eq_true] at h ⊢
    refine ⟨?_, sameMembers_trans h.2 h'⟩
    cases hk : member? k ns with
    | none => simp [hk] at h
    | some e =>
      rw [hk] at h
      obtain ⟨e', he', hsame⟩ := sameMembers_iff.1 h' (k, e) (mem_of_member? hk)
      rw [he']
      exact same_trans h.1 hsame
termination_by structural ms => ms

end

end Datum

/-! ### Conditions -/

/-- Whether the word that is not known is keyed, if there is one. -/
def Tag.isKeyed {α : Type} : Tag α → Bool
  | .known _ => true
  | .unknown d => d.every Datum.isKeyed

section Tags

variable {α : Type} [DecidableEq α] {s t u : Tag α}

theorem Tag.same_swap (hs : s.isKeyed = true) (ht : t.isKeyed = true) : s.same t = t.same s := by
  cases s <;> cases t <;> first
    | rfl
    | exact BEq.comm
    | exact Datum.same_swap hs ht

theorem Tag.same_trans (h : s.same t = true) (h' : t.same u = true) : s.same u = true := by
  cases s <;> cases t <;> first
    | cases h
    | skip
  case known.known a b => exact eq_of_beq h ▸ h'
  case unknown.unknown d e =>
    cases u with
    | known => cases h'
    | unknown f => exact Datum.same_trans h h'

end Tags

namespace Condition

variable {a b c : Condition}

/-- Whether the data of a condition are keyed. -/
def isKeyed (c : Condition) : Bool :=
  c.kind.isKeyed && c.value.every Datum.isKeyed && c.buffKind.all Tag.isKeyed &&
    c.cardType.every Datum.isKeyed && c.scope.every Datum.isKeyed &&
    c.targetRarity.every Datum.isKeyed

theorem same_swap (ha : a.isKeyed = true) (hb : b.isKeyed = true) : a.same b = b.same a := by
  obtain ⟨kind, value, compare, buff, type, scope, rarity⟩ := a
  obtain ⟨kind', value', compare', buff', type', scope', rarity'⟩ := b
  simp only [isKeyed, Bool.and_eq_true] at ha hb
  obtain ⟨⟨⟨⟨⟨hkind, hvalue⟩, hbuff⟩, htype⟩, hscope⟩, hrarity⟩ := ha
  obtain ⟨⟨⟨⟨⟨hkind', hvalue'⟩, hbuff'⟩, htype'⟩, hscope'⟩, hrarity'⟩ := hb
  have hbuffs {t t' : Tag EffectKind} (h : buff = some t) (h' : buff' = some t') :
      t.same t' = t'.same t := by
    subst h h'
    exact Tag.same_swap hbuff hbuff'
  simp only [same, Tag.same_swap hkind hkind', Datum.same_swap hvalue hvalue',
    BEq.comm (a := compare), Datum.same_swap htype htype', Datum.same_swap hscope hscope',
    Datum.same_swap hrarity hrarity']
  cases buff <;> cases buff' <;> first
    | rfl
    | simp only [hbuffs rfl rfl]

theorem same_trans (h : a.same b = true) (h' : b.same c = true) : a.same c = true := by
  simp only [same, Bool.and_eq_true, beq_iff_eq] at h h' ⊢
  obtain ⟨⟨⟨⟨⟨⟨hkind, hvalue⟩, hcompare⟩, hbuff⟩, htype⟩, hscope⟩, hrarity⟩ := h
  obtain ⟨⟨⟨⟨⟨⟨hkind', hvalue'⟩, hcompare'⟩, hbuff'⟩, htype'⟩, hscope'⟩, hrarity'⟩ := h'
  refine ⟨⟨⟨⟨⟨⟨Tag.same_trans hkind hkind', Datum.same_trans hvalue hvalue'⟩,
    hcompare.trans hcompare'⟩, ?_⟩, Datum.same_trans htype htype'⟩,
    Datum.same_trans hscope hscope'⟩, Datum.same_trans hrarity hrarity'⟩
  revert hbuff hbuff'
  cases a.buffKind <;> cases b.buffKind <;> cases c.buffKind <;> first
    | exact fun h _ => h
    | exact fun _ h => h
    | exact fun h _ => absurd h Bool.false_ne_true
    | exact Tag.same_trans

theorem sameAll_swap : ∀ {as bs : List Condition}, as.all isKeyed = true →
    bs.all isKeyed = true → sameAll as bs = sameAll bs as
  | [], [], _, _ | [], _ :: _, _, _ | _ :: _, [], _, _ => rfl
  | a :: as, b :: bs, ha, hb => by
    rw [List.all_cons, Bool.and_eq_true] at ha hb
    rw [sameAll, sameAll, same_swap ha.1 hb.1, sameAll_swap ha.2 hb.2]

theorem sameAll_trans : ∀ {as bs cs : List Condition}, sameAll as bs = true →
    sameAll bs cs = true → sameAll as cs = true
  | [], [], _, _, h' => h'
  | [], _ :: _, _, h, _ | _ :: _, [], _, h, _ => by cases h
  | _ :: _, _ :: _, [], _, h' => by cases h'
  | a :: as, b :: bs, c :: cs, h, h' => by
    rw [sameAll, Bool.and_eq_true] at h h' ⊢
    exact ⟨same_trans h.1 h'.1, sameAll_trans h.2 h'.2⟩

theorem sameOption_swap {o o' : Option Condition} (h : o.all isKeyed = true)
    (h' : o'.all isKeyed = true) : sameOption o o' = sameOption o' o := by
  cases o <;> cases o' <;> first
    | rfl
    | exact same_swap h h'

theorem sameOption_trans {o o' o'' : Option Condition} (h : sameOption o o' = true)
    (h' : sameOption o' o'' = true) : sameOption o o'' = true := by
  cases o <;> cases o' <;> cases o'' <;> first
    | exact h'
    | cases h
    | exact same_trans h h'

end Condition

/-! ### Effects and cards -/

namespace Operation

variable {a b c : Operation}

/-- Whether the data of an operation are keyed. -/
def isKeyed (op : Operation) : Bool :=
  op.kind.isKeyed && [op.value, op.ratio, op.multiplier, op.duration, op.count, op.troubleId,
    op.targetRarity, op.param].all (Datum.every Datum.isKeyed) &&
    op.conditions.all Condition.isKeyed && op.triggerCondition.all Condition.isKeyed

theorem same_swap (ha : a.isKeyed = true) (hb : b.isKeyed = true) : a.same b = b.same a := by
  simp only [isKeyed, Bool.and_eq_true, List.all_cons, List.all_nil] at ha hb
  obtain ⟨⟨⟨hkind, hvalue, hratio, hmult, hturns, hcount, htrouble, hrarity, hparam, -⟩, hconds⟩,
    htrigger⟩ := ha
  obtain ⟨⟨⟨hkind', hvalue', hratio', hmult', hturns', hcount', htrouble', hrarity', hparam', -⟩,
    hconds'⟩, htrigger'⟩ := hb
  simp only [same, Tag.same_swap hkind hkind', Datum.same_swap hvalue hvalue',
    Datum.same_swap hratio hratio', Datum.same_swap hmult hmult', Datum.same_swap hturns hturns',
    Datum.same_swap hcount hcount', Condition.sameAll_swap hconds hconds',
    Condition.sameOption_swap htrigger htrigger', Datum.same_swap htrouble htrouble',
    Datum.same_swap hrarity hrarity', Datum.same_swap hparam hparam',
    BEq.comm (a := a.ignoreCost), BEq.comm (a := a.doubleMotivation)]

theorem same_trans (h : a.same b = true) (h' : b.same c = true) : a.same c = true := by
  simp only [same, Bool.and_eq_true, beq_iff_eq] at h h' ⊢
  obtain ⟨⟨⟨⟨⟨⟨⟨⟨⟨⟨⟨⟨hkind, hvalue⟩, hratio⟩, hmult⟩, hturns⟩, hcount⟩, hconds⟩, htrigger⟩,
    htrouble⟩, hrarity⟩, hignore⟩, hparam⟩, hdouble⟩ := h
  obtain ⟨⟨⟨⟨⟨⟨⟨⟨⟨⟨⟨⟨hkind', hvalue'⟩, hratio'⟩, hmult'⟩, hturns'⟩, hcount'⟩, hconds'⟩,
    htrigger'⟩, htrouble'⟩, hrarity'⟩, hignore'⟩, hparam'⟩, hdouble'⟩ := h'
  exact ⟨⟨⟨⟨⟨⟨⟨⟨⟨⟨⟨⟨Tag.same_trans hkind hkind', Datum.same_trans hvalue hvalue'⟩,
    Datum.same_trans hratio hratio'⟩, Datum.same_trans hmult hmult'⟩,
    Datum.same_trans hturns hturns'⟩, Datum.same_trans hcount hcount'⟩,
    Condition.sameAll_trans hconds hconds'⟩, Condition.sameOption_trans htrigger htrigger'⟩,
    Datum.same_trans htrouble htrouble'⟩, Datum.same_trans hrarity hrarity'⟩,
    hignore.trans hignore'⟩, Datum.same_trans hparam hparam'⟩, hdouble.trans hdouble'⟩

end Operation

namespace Effect

mutual

/-- Which of two effects comes first does not matter. -/
theorem same_swap : ∀ {a b : Effect}, a.every Operation.isKeyed = true →
    b.every Operation.isKeyed = true → a.same b = b.same a
  | ⟨op, subs, triggered⟩, ⟨op', subs', triggered'⟩, ha, hb => by
    rw [every, Bool.and_eq_true, Bool.and_eq_true] at ha hb
    rw [same, same, Operation.same_swap ha.1.1 hb.1.1, sameAll_swap ha.1.2 hb.1.2,
      sameOption_swap ha.2 hb.2]
termination_by structural a => a

theorem sameAll_swap : ∀ {as bs : List Effect}, everyOf Operation.isKeyed as = true →
    everyOf Operation.isKeyed bs = true → sameAll as bs = sameAll bs as
  | [], [], _, _ | [], _ :: _, _, _ | _ :: _, [], _, _ => rfl
  | a :: as, b :: bs, ha, hb => by
    rw [everyOf, Bool.and_eq_true] at ha hb
    rw [sameAll, sameAll, same_swap ha.1 hb.1, sameAll_swap ha.2 hb.2]
termination_by structural as => as

theorem sameOption_swap : ∀ {o o' : Option Effect}, everyIn Operation.isKeyed o = true →
    everyIn Operation.isKeyed o' = true → sameOption o o' = sameOption o' o
  | none, none, _, _ | none, some _, _, _ | some _, none, _, _ => rfl
  | some _, some _, ha, hb => same_swap ha hb
termination_by structural o => o

end

mutual

/-- Equality of effects is transitive. -/
theorem same_trans : ∀ {a b c : Effect}, a.same b = true → b.same c = true → a.same c = true
  | ⟨op, subs, triggered⟩, ⟨op', subs', triggered'⟩, ⟨op'', subs'', triggered''⟩, h, h' => by
    rw [same, Bool.and_eq_true, Bool.and_eq_true] at h h' ⊢
    exact ⟨⟨Operation.same_trans h.1.1 h'.1.1, sameAll_trans h.1.2 h'.1.2⟩,
      sameOption_trans h.2 h'.2⟩
termination_by structural a => a

theorem sameAll_trans : ∀ {as bs cs : List Effect}, sameAll as bs = true → sameAll bs cs = true →
    sameAll as cs = true
  | [], [], _, _, h' => h'
  | [], _ :: _, _, h, _ | _ :: _, [], _, h, _ => by cases h
  | _ :: _, _ :: _, [], _, h' => by cases h'
  | a :: as, b :: bs, c :: cs, h, h' => by
    rw [sameAll, Bool.and_eq_true] at h h' ⊢
    exact ⟨same_trans h.1 h'.1, sameAll_trans h.2 h'.2⟩
termination_by structural as => as

theorem sameOption_trans : ∀ {o o' o'' : Option Effect}, sameOption o o' = true →
    sameOption o' o'' = true → sameOption o o'' = true
  | none, none, _, _, h' => h'
  | none, some _, _, h, _ | some _, none, _, h, _ => by cases h
  | some _, some _, none, _, h' => by cases h'
  | some _, some _, some _, h, h' => same_trans h h'
termination_by structural o => o

end

end Effect

namespace Card

variable {a b c : Card}

/-- Whether the data of a card are keyed. -/
def isKeyed (c : Card) : Bool :=
  [c.id, c.name, c.plan, c.rarity, c.description].all (Datum.every Datum.isKeyed) &&
    c.every Operation.isKeyed && c.conditions.all Condition.isKeyed

/-- **Which of two cards comes first does not matter**, as long as their data are keyed. -/
theorem same_swap (ha : a.isKeyed = true) (hb : b.isKeyed = true) : a.same b = b.same a := by
  simp only [isKeyed, Bool.and_eq_true, List.all_cons, List.all_nil] at ha hb
  obtain ⟨⟨⟨hid, hname, hplan, hrarity, htext, -⟩, heffects⟩, hconds⟩ := ha
  obtain ⟨⟨⟨hid', hname', hplan', hrarity', htext', -⟩, heffects'⟩, hconds'⟩ := hb
  simp only [same, Datum.same_swap hid hid', Datum.same_swap hname hname', BEq.comm (a := a.type),
    Datum.same_swap hplan hplan', BEq.comm (a := a.cost), BEq.comm (a := a.costType),
    Effect.sameAll_swap heffects heffects', Condition.sameAll_swap hconds hconds',
    BEq.comm (a := a.unique), BEq.comm (a := a.usageLimit), BEq.comm (a := a.startInHand),
    Datum.same_swap hrarity hrarity', Datum.same_swap htext htext']

/-- **Equality of cards is transitive.** -/
theorem same_trans (h : a.same b = true) (h' : b.same c = true) : a.same c = true := by
  simp only [same, Bool.and_eq_true, beq_iff_eq] at h h' ⊢
  obtain ⟨⟨⟨⟨⟨⟨⟨⟨⟨⟨⟨⟨hid, hname⟩, htype⟩, hplan⟩, hcost⟩, hpays⟩, heffects⟩, hconds⟩, hunique⟩,
    hlimit⟩, hstart⟩, hrarity⟩, htext⟩ := h
  obtain ⟨⟨⟨⟨⟨⟨⟨⟨⟨⟨⟨⟨hid', hname'⟩, htype'⟩, hplan'⟩, hcost'⟩, hpays'⟩, heffects'⟩, hconds'⟩,
    hunique'⟩, hlimit'⟩, hstart'⟩, hrarity'⟩, htext'⟩ := h'
  exact ⟨⟨⟨⟨⟨⟨⟨⟨⟨⟨⟨⟨Datum.same_trans hid hid', Datum.same_trans hname hname'⟩,
    htype.trans htype'⟩, Datum.same_trans hplan hplan'⟩, hcost.trans hcost'⟩,
    hpays.trans hpays'⟩, Effect.sameAll_trans heffects heffects'⟩,
    Condition.sameAll_trans hconds hconds'⟩, hunique.trans hunique'⟩, hlimit.trans hlimit'⟩,
    hstart.trans hstart'⟩, Datum.same_trans hrarity hrarity'⟩, Datum.same_trans htext htext'⟩

end Card
end CardLesson
