/-
# The turns of buffs

Minus one stands for the rest of the lesson, and minus one is also what is left when a turn is taken
off a buff that has none. The end of a turn takes turns off without looking where that leads, so
everything else has to see to it that a buff that is not new has turns left: a buff may be granted
for no turns at all, but then it is new and goes when the turn ends; an immunity that spends its
last turn goes at once; and an extension, which may make a new buff of no turns a little longer,
makes no buff shorter. The one way from a number of turns to the rest of the lesson is a further ban
on genki for the rest of the lesson.

The uses that effects count play no part in this, and may be whatever they like.

Key definitions: `Operation.isTimely`, `Buff.Timed`, `BuffsInOrder`, `Buff.Left`, `Regrouped`.
Key theorems: `BuffsInOrder.left`, `Extended.left`, `tickBuffs_left`, `perform_regrouped`,
`Regrouped.inOrder`.
-/
import CardLesson.Proofs.Trace

namespace CardLesson

variable {l l' : Lesson} {c c' : Chance} {b b' : Buff} {bs bs' : List Buff} {op : Operation}

/-! ### Turns that can be granted -/

/-- Whether a datum is a whole number that is not below a bound. -/
def Datum.isWholeFrom (low : Int) (x : Datum) : Bool :=
  match x.number? with
  | some (.whole n) => decide (low ≤ n)
  | _ => false

theorem Datum.isWholeFrom_iff {low : Int} {x : Datum} :
    x.isWholeFrom low = true ↔ ∃ n, x.quantity = .ok (.whole n) ∧ low ≤ n := by
  unfold isWholeFrom quantity
  rcases x.number? with _ | _ | _ <;> simp

/-- Whether an operation names no turns, or a whole number of them, or the rest of the lesson. -/
def Operation.isTimely (op : Operation) : Bool :=
  op.duration.isNull || op.duration.isWholeFrom Balance.indefiniteDuration

/-- A timely operation extends a buff by a whole number of turns or, only if it says so itself, for
the rest of the lesson. -/
theorem Operation.extra_of_isTimely (h : op.isTimely = true) : ∃ n,
    (op.duration.given (.whole Balance.defaultBuffDuration)).quantity = .ok (.whole n) ∧ -1 ≤ n ∧
      (n = -1 → op.duration.quantity = .ok (.whole (-1))) := by
  unfold Datum.given
  cases hnull : op.duration.isNull with
  | true => exact ⟨1, rfl, by decide, fun h => absurd h (by decide)⟩
  | false =>
    rw [isTimely, hnull, Bool.false_or, Datum.isWholeFrom_iff] at h
    obtain ⟨n, hn, hle⟩ := h
    refine ⟨n, hn, hle, ?_⟩
    rintro rfl
    exact hn

/-- A timely operation grants a buff for a whole number of turns, or for the rest of the lesson. -/
theorem grantedDuration_of_isTimely (h : op.isTimely = true) :
    ∃ n, (grantedDuration op).quantity = .ok (.whole n) ∧ -1 ≤ n := by
  unfold grantedDuration
  cases hnull : op.duration.isNull with
  | true =>
    cases op.count.isNull with
    | true => exact ⟨1, rfl, by decide⟩
    | false => exact ⟨-1, rfl, by decide⟩
  | false =>
    rw [Operation.isTimely, hnull, Bool.false_or, Datum.isWholeFrom_iff] at h
    exact h

/-! ### The order of buffs -/

/-- The turns that a buff has left are a whole number. A buff that is not new has one at least, or
it is there for the rest of the lesson; a new one may have none. -/
def Buff.Timed (b : Buff) : Prop :=
  ∃ d : Int, b.duration.quantity = .ok (.whole d) ∧ (b.isNew = false → d = -1 ∨ 1 ≤ d) ∧
    (b.isNew = true → -1 ≤ d)

/-- Buffs whose turns are in order, that are told apart by their ids, and of which one at most is a
ban on genki. -/
structure BuffsInOrder (bs : List Buff) : Prop where
  timed : ∀ b ∈ bs, b.Timed
  oneBan : bs.countP (·.is .noGenkiGain) ≤ 1
  apart : (bs.map (·.id)).Nodup

/-- What is left of a buff: it is the same one, its turns are in order, and when it is there for the
rest of the lesson now and was not before, there is a reason for it. -/
structure Buff.Left (reason : Buff → Prop) (b' b : Buff) : Prop where
  id : b'.id = b.id
  kind : b'.kind = b.kind
  timed : b'.Timed
  renewed : b.indefinite = false → b'.indefinite = true → reason b

theorem Buff.Left.refl {reason : Buff → Prop} (h : b.Timed) : b.Left reason b where
  id := rfl
  kind := rfl
  timed := h
  renewed hfinite hendless := absurd (hfinite.symm.trans hendless) Bool.false_ne_true

/-- All buffs are left as they are. -/
theorem left_refl {reason : Buff → Prop} (h : ∀ b ∈ bs, b.Timed) :
    bs.SublistForall₂ (Buff.Left reason) bs :=
  List.sublistForall₂_iff.2
    ⟨bs, List.forall₂_same.2 fun b hb => .refl (h b hb), List.Sublist.refl bs⟩

theorem exists_left {reason : Buff → Prop} (h : bs'.SublistForall₂ (Buff.Left reason) bs) :
    ∀ b' ∈ bs', ∃ b ∈ bs, b'.Left reason b := by
  induction h with
  | nil => exact fun b' hb' => absurd hb' List.not_mem_nil
  | @cons b' b bs' bs hleft _ ih =>
    intro x hx
    rcases List.mem_cons.1 hx with rfl | hx
    · exact ⟨b, List.mem_cons_self, hleft⟩
    · obtain ⟨x₀, hx₀, hxleft⟩ := ih x hx
      exact ⟨x₀, List.mem_cons_of_mem b hx₀, hxleft⟩
  | @cons_right b bs' bs _ ih =>
    intro x hx
    obtain ⟨x₀, hx₀, hxleft⟩ := ih x hx
    exact ⟨x₀, List.mem_cons_of_mem b hx₀, hxleft⟩

/-- What all that is left has from what it is left of, it has in the same order. -/
theorem left_map_sublist {α : Type} {f : Buff → α} {reason : Buff → Prop}
    (hf : ∀ b' b : Buff, b'.Left reason b → f b' = f b)
    (h : bs'.SublistForall₂ (Buff.Left reason) bs) : (bs'.map f).Sublist (bs.map f) := by
  induction h with
  | nil => exact List.nil_sublist _
  | cons hleft _ ih =>
    rw [List.map_cons, List.map_cons, hf _ _ hleft]
    exact ih.cons_cons _
  | cons_right _ ih => exact ih.cons _

namespace BuffsInOrder

/-- The buffs under one id are one. -/
theorem eq_of_id (h : BuffsInOrder bs) (hb : b ∈ bs) (hb' : b' ∈ bs) (hid : b.id = b'.id) :
    b = b' :=
  List.inj_on_of_nodup_map h.apart hb hb' hid

/-- **What is left of buffs in order is in order.** -/
theorem left {reason : Buff → Prop} (h : BuffsInOrder bs)
    (hleft : bs'.SublistForall₂ (Buff.Left reason) bs) : BuffsInOrder bs' where
  timed b' hb' := by
    obtain ⟨b, -, hb⟩ := exists_left hleft b' hb'
    exact hb.timed
  oneBan := by
    have hbans (xs : List Buff) : xs.countP (·.is .noGenkiGain) =
        (xs.map (·.kind)).countP (·.is .noGenkiGain) := by
      rw [List.countP_map]
      rfl
    have hkinds := left_map_sublist (fun _ _ hb => hb.kind) hleft
    calc bs'.countP (·.is .noGenkiGain)
        = (bs'.map (·.kind)).countP (·.is .noGenkiGain) := hbans bs'
      _ ≤ (bs.map (·.kind)).countP (·.is .noGenkiGain) := hkinds.countP_le
      _ = bs.countP (·.is .noGenkiGain) := (hbans bs).symm
      _ ≤ 1 := h.oneBan
  apart := h.apart.sublist (left_map_sublist (fun _ _ hb => hb.id) hleft)

/-- Buffs in order stay so when another one is granted, under an id that none of them has; a ban on
genki, when there is none yet. -/
theorem append (h : BuffsInOrder bs) (hb : b.Timed) (hid : ∀ x ∈ bs, x.id ≠ b.id)
    (hban : b.is .noGenkiGain = true → ∀ x ∈ bs, x.is .noGenkiGain = false) :
    BuffsInOrder (bs ++ [b]) where
  timed x hx := by
    rcases List.mem_append.1 hx with hx | hx
    · exact h.timed x hx
    · rw [List.mem_singleton.1 hx]
      exact hb
  oneBan := by
    rw [List.countP_append]
    cases hkind : b.is .noGenkiGain with
    | false => simpa [hkind] using h.oneBan
    | true =>
      have hnone : bs.countP (·.is .noGenkiGain) = 0 :=
        List.countP_eq_zero.2 fun x hx => by simp [hban hkind x hx]
      simp [hnone, hkind]
  apart := by
    rw [List.map_append, List.nodup_append]
    refine ⟨h.apart, List.nodup_singleton b.id, fun i hi j hj => ?_⟩
    obtain ⟨x, hx, rfl⟩ := List.mem_map.1 hi
    rw [List.mem_singleton.1 hj]
    exact hid x hx

end BuffsInOrder

/-! ### What works on a buff -/

variable {reason : Buff → Prop} {k : EffectKind} {rule : Buff → Option Buff → Prop}

/-- Where a rule leaves a buff when it works on one, it leaves the buffs. -/
theorem OneTurns.left (h : OneTurns k rule bs bs') (ht : ∀ b ∈ bs, b.Timed)
    (hrule : ∀ b b', b.Timed → b.is k = true → rule b (some b') → b'.Left reason b) :
    bs'.SublistForall₂ (Buff.Left reason) bs := by
  induction h with
  | @here b o bs hb h =>
    have hrest : bs.SublistForall₂ (Buff.Left reason) bs :=
      left_refl fun x hx => ht x (List.mem_cons_of_mem b hx)
    cases o with
    | none => exact .cons_right hrest
    | some b' => exact .cons (hrule b b' (ht b List.mem_cons_self) hb h) hrest
  | @later b bs bs' _ ih =>
    have hb : b.Left reason b := .refl (ht b List.mem_cons_self)
    exact .cons hb (ih fun x hx => ht x (List.mem_cons_of_mem b hx))

theorem SpentUse.left (h : SpentUse b (some b')) (hb : b.Timed) : b'.Left reason b := by
  cases h with
  | less _ => exact ⟨rfl, rfl, hb, (Buff.Left.refl hb).renewed⟩

/-- A buff that spends one of several turns has one left at least. -/
theorem SpentTurn.left (h : SpentTurn b (some b')) (hb : b.Timed) : b'.Left reason b := by
  obtain ⟨d, hd, -, -⟩ := hb
  cases h with
  | less hleft hmore hless =>
    rw [lessOne_of_quantity hd] at hless
    rw [Datum.lt_of_quantity rfl hd] at hleft
    rw [Datum.same_of_quantity hd] at hmore
    obtain rfl := Except.ok.inj hless
    have hpos : 0 < d := of_decide_eq_true (Except.ok.inj hleft)
    have hne : d ≠ 1 := of_decide_eq_false hmore
    refine ⟨rfl, rfl, ⟨d - 1, rfl, fun _ => ?_, fun _ => ?_⟩, fun _ hendless => ?_⟩
    · omega
    · omega
    · rw [Buff.indefinite_eq rfl, decide_eq_true_iff] at hendless
      omega

/-- An extension by turns makes no buff shorter; only one for the rest of the lesson makes a buff
stay as long. -/
theorem Extended.left {extra : Datum} {n : Int} (hextra : extra.quantity = .ok (.whole n))
    (h : Extended extra b (some b')) (hb : b.Timed) (hreason : n < 0 → reason b) :
    b'.Left reason b := by
  obtain ⟨d, hd, hold, hnew⟩ := hb
  have hlt : extra.lt (.whole 0) = .ok (decide (n < 0)) := Datum.lt_of_quantity hextra rfl
  cases h with
  | endless h =>
    refine ⟨rfl, rfl, ⟨-1, rfl, fun _ => .inl rfl, fun _ => Int.le_refl _⟩, fun hfinite _ => ?_⟩
    rcases h with hendless | hforGood
    · exact absurd (hfinite.symm.trans hendless) Bool.false_ne_true
    · rw [hlt] at hforGood
      exact hreason (of_decide_eq_true (Except.ok.inj hforGood))
  | @longer turns more sum hfinite hsome hturns hmore hsum =>
    cases hd.symm.trans hturns
    cases hextra.symm.trans hmore
    rw [Quantity.add_whole] at hsum
    obtain rfl := Except.ok.inj hsum
    rw [Buff.indefinite_eq hd] at hfinite
    rw [hlt] at hsome
    have hd' : d ≠ -1 := of_decide_eq_false hfinite
    have hn : ¬n < 0 := of_decide_eq_false (Except.ok.inj hsome)
    have hnonneg : 0 ≤ d := by
      cases hisNew : b.isNew with
      | false =>
        have := hold hisNew
        omega
      | true =>
        have := hnew hisNew
        omega
    refine ⟨rfl, rfl, ⟨d + n, rfl, fun hisNew => ?_, fun _ => ?_⟩, fun _ hendless => ?_⟩
    · have := hold hisNew
      omega
    · omega
    · rw [Buff.indefinite_eq rfl, decide_eq_true_iff] at hendless
      omega

/-! ### The end of a turn -/

/-- A buff that is aged, and has turns left then, was not stepped past its last turn. -/
theorem tickBuff_left (h : tickBuff b = .ok b') (hb : b.Timed)
    (hsome : b'.duration.same (.whole 0) = false) : b'.Left reason b := by
  have htimed := hb
  obtain ⟨d, hd, hold, hnew⟩ := hb
  have hindefinite := Buff.indefinite_eq hd
  unfold tickBuff at h
  split at h
  · cases h
    exact .refl htimed
  · next hfinite =>
    rw [hindefinite, decide_eq_true_iff] at hfinite
    split at h
    · next hisNew =>
      cases h
      have hle := hnew hisNew
      rw [Datum.same_of_quantity hd, decide_eq_false_iff_not] at hsome
      refine ⟨rfl, rfl, ⟨d, hd, fun _ => ?_, nofun⟩, (Buff.Left.refl htimed).renewed⟩
      omega
    · next hisNew =>
      have hturns := hold (Bool.eq_false_iff.2 hisNew)
      obtain ⟨duration, hless, h⟩ := Play.except_bind_ok.1 h
      obtain rfl := Play.except_pure_ok.1 h
      rw [lessOne_of_quantity hd] at hless
      obtain rfl := Except.ok.inj hless
      rw [Datum.same_of_quantity rfl, decide_eq_false_iff_not] at hsome
      refine ⟨rfl, rfl, ⟨d - 1, rfl, fun _ => ?_, fun h => absurd h hisNew⟩, fun _ hendless => ?_⟩
      · omega
      · rw [Buff.indefinite_eq rfl, decide_eq_true_iff] at hendless
        omega

/-- **The end of a turn steps no buff past its last turn**, when the buffs are in order. -/
theorem tickBuffs_left : ∀ {bs bs' : List Buff}, tickBuffs bs = .ok bs' → (∀ b ∈ bs, b.Timed) →
    bs'.SublistForall₂ (Buff.Left reason) bs
  | [], _, h, _ => by
    cases h
    exact .nil
  | b :: bs, bs', h, ht => by
    obtain ⟨b', rest, hb', hrest, rfl⟩ := tickBuffs_cons.1 h
    have hleft := tickBuffs_left hrest fun x hx => ht x (List.mem_cons_of_mem b hx)
    split
    · exact .cons_right hleft
    · next hsome =>
      exact .cons (tickBuff_left hb' (ht b List.mem_cons_self) (Bool.eq_false_iff.2 hsome)) hleft

/-! ### What a task does to the buffs -/

theorem drawForEffect_buffs {r : Resolution} (h : drawForEffect l op c = (.ok r, c')) :
    r.lesson.buffs = l.buffs := by
  unfold drawForEffect at h
  obtain ⟨requested, c₁, -, h⟩ := Play.bind_ok.1 h
  split at h
  · obtain ⟨rfl, rfl⟩ := Play.pure_ok.1 h
    rfl
  · obtain ⟨d, c₂, -, h⟩ := Play.bind_ok.1 h
    obtain ⟨rfl, rfl⟩ := Play.pure_ok.1 h
    rfl

theorem generateTrouble_buffs {r : Resolution} (h : generateTrouble l op c = (.ok r, c')) :
    r.lesson.buffs = l.buffs := by
  unfold generateTrouble at h
  dsimp only at h
  split at h
  · obtain ⟨rfl, rfl⟩ := Play.pure_ok.1 h
    rfl
  · obtain ⟨id, c₁, -, h⟩ := Play.bind_ok.1 h
    cases found : l.catalog.find? id with
    | some copy =>
      rw [found] at h
      obtain ⟨copy, c₂, -, h⟩ := Play.bind_ok.1 h
      obtain ⟨place, c₃, -, h⟩ := Play.bind_ok.1 h
      obtain ⟨_, -, h⟩ := Play.lift_bind_ok.1 h
      obtain ⟨rfl, rfl⟩ := Play.pure_ok.1 h
      rfl
    | none =>
      rw [found] at h
      obtain ⟨_, -, h⟩ := Play.lift_bind_ok.1 h
      obtain ⟨number, c₂, -, h⟩ := Play.bind_ok.1 h
      obtain ⟨copy, c₃, -, h⟩ := Play.bind_ok.1 h
      obtain ⟨place, c₄, -, h⟩ := Play.bind_ok.1 h
      obtain ⟨_, -, h⟩ := Play.lift_bind_ok.1 h
      obtain ⟨rfl, rfl⟩ := Play.pure_ok.1 h
      rfl

/-- A rule leaves the buffs alone, or it grants one. -/
theorem carryOut_buffs {tr : Option Effect} {r : Resolution} (hgate : k ≠ .conditionGate)
    (htrigger : k ≠ .triggerRandomHandCard)
    (h : carryOut idleResolver l op tr k c = (.ok r, c')) :
    r.lesson.buffs = l.buffs ∨ grantBuff l op k (k.buffName?.getD k.name) tr c = (.ok r, c') := by
  by_cases hpool : k.isPool = true
  · left
    rw [(carryOut_pools hpool h).1]
    rfl
  · cases k <;> first
      | exact absurd rfl hpool
      | exact absurd rfl hgate
      | exact absurd rfl htrigger
      | skip
    case drawCard => exact .inl (drawForEffect_buffs h)
    case swapHand =>
      obtain ⟨d, c₁, -, h⟩ := Play.bind_ok.1 h
      obtain ⟨rfl, rfl⟩ := Play.pure_ok.1 h
      exact .inl rfl
    case upgradeHand =>
      obtain ⟨hup, rfl⟩ := Play.except_ok.1 h
      obtain ⟨held, -, hup⟩ := Play.except_bind_ok.1 hup
      obtain ⟨hand, -, hup⟩ := Play.except_bind_ok.1 hup
      obtain rfl := Play.except_pure_ok.1 hup
      exact .inl rfl
    case generateTrouble => exact .inl (generateTrouble_buffs h)
    case delayedEffect =>
      obtain ⟨rfl, rfl⟩ := Play.pure_ok.1 h
      exact .inl rfl
    all_goals exact .inr h

/-- The moment carries out a ban on genki for the rest of the lesson. -/
def Moment.BansForGood (m : Moment) : Prop :=
  m.carriesOut .noGenkiGain = true ∧
    ∃ e, m.task = .effect e ∧ e.operation.duration.quantity = .ok (.whole (-1))

/-- What a moment makes of the buffs: what is left of them, where a ban on genki may be there for
the rest of the lesson now if the moment says so, or all of them and another one. -/
inductive Regrouped (m : Moment) : List Buff → Nat → Prop
  | left {bs : List Buff} {named : Nat} (hn : m.chance.named ≤ named)
      (h : bs.SublistForall₂ (Buff.Left fun b => b.is .noGenkiGain = true ∧ m.BansForGood)
        m.lesson.buffs) : Regrouped m bs named
  | granted {b : Buff} (hid : b.id = buffId (m.chance.named + 1)) (ht : b.Timed)
      (hban : b.is .noGenkiGain = true → ∀ x ∈ m.lesson.buffs, x.is .noGenkiGain = false) :
      Regrouped m (m.lesson.buffs ++ [b]) (m.chance.named + 1)

theorem grantedBuff_timed (h : op.isTimely = true) (number : Nat) (k : EffectKind) (name : String)
    (tr : Option Effect) : (grantedBuff number op k name tr).Timed := by
  obtain ⟨n, hn, hle⟩ := grantedDuration_of_isTimely h
  exact ⟨n, hn, nofun, fun _ => hle⟩

/-- **What a task does to buffs whose turns are in order.** -/
theorem perform_regrouped {t : Task} {new : List Task} (h : perform l t c = (.ok (new, l'), c'))
    (htimely : t.every Operation.isTimely = true) (hl : ∀ b ∈ l.buffs, b.Timed) :
    Regrouped ⟨t, l, c⟩ l'.buffs c'.named := by
  have hn := (perform_spec h).named_le
  have kept : Regrouped ⟨t, l, c⟩ l.buffs c'.named := .left hn (left_refl hl)
  cases t with
  | card copy =>
    obtain ⟨heq, rfl⟩ := Play.pure_ok.1 h
    cases heq
    exact kept
  | effect e =>
    have hop : e.operation.isTimely = true := (Effect.every_iff.1 htimely).1
    cases perform_handled h with
    | done hadm =>
      rcases admission_done_cases hadm with ⟨rfl, -⟩ | ⟨habsorb, -⟩
      · exact kept
      · obtain ⟨bs, hr, rfl | hspent | hspent⟩ := absorb_cases habsorb
        · rw [hr]
          exact kept
        · rw [hr]
          exact .left hn ((spendCount_turns hspent).left hl fun _ _ hb _ h => h.left hb)
        · rw [hr]
          exact .left hn ((spendDuration_turns hspent).left hl fun _ _ hb _ h => h.left hb)
    | gate _ => exact kept
    | chose _ _ => exact kept
    | @rule k r _ hp hgate htrigger hr =>
      rcases carryOut_buffs hgate htrigger hr with heq | hgrant
      · rw [heq]
        exact kept
      · rcases grantBuff_cases hgrant with ⟨bs, heq, -, hextend, hs⟩ | ⟨heq, hnamed, hnone⟩
        · obtain rfl : k = .noGenkiGain := beq_iff_eq.1 hextend
          obtain ⟨n, hextra, hle, hforGood⟩ := Operation.extra_of_isTimely hop
          rw [heq]
          refine .left hn ((extendFirst_turns hs).left hl fun b b' hb hban h => ?_)
          refine h.left hextra hb fun hneg => ⟨hban, hp, e, rfl, hforGood ?_⟩
          omega
        · rw [heq, hnamed]
          refine .granted rfl (grantedBuff_timed hop _ k _ _) fun hban => ?_
          obtain rfl : k = .noGenkiGain := beq_iff_eq.1 hban
          exact hnone rfl

theorem Regrouped.inOrder {m : Moment} {named : Nat} (h : Regrouped m bs named)
    (hl : BuffsInOrder m.lesson.buffs) (hn : m.lesson.Numbered m.chance) : BuffsInOrder bs := by
  cases h with
  | left _ h => exact hl.left h
  | @granted b hid ht hban =>
    refine hl.append ht (fun x hx hsame => ?_) hban
    obtain ⟨n, hle, hnum⟩ := hn x hx
    have heq := buffId_injective (hnum.symm.trans (hsame.trans hid))
    omega

end CardLesson
