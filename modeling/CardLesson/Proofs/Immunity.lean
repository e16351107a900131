/-
# Immunity to debuffs is a budget

Any list of debuffs meets the immunities as one budget, the uses and the turns that they have left:
as many of the first debuffs are absorbed as there is in the budget, and the others follow the rules
of their kinds.

The two searches for an immunity to spend are one search over a supply (`Supply.spend_step`), so
absorbing a debuff is taking one from the budget. The list of debuffs is then cut where the budget
ends. Up to there the induction takes one and then the rest; after it no debuff brings an immunity
back, since the rules of debuffs leave the immunities as they are.

Key definitions: `absorbedLine`, `Effect.isDebuff`, `suffer`, `sufferEach`.
Key theorems: `Supply.spend_eq`, `absorb_of_budget`, `absorb_of_no_budget`, `resolveOne_debuff`,
`suffer_immunities`, `resolveEach_absorbed`, `resolveEach_suffered`, `immunity_is_a_budget`.
-/
import CardLesson.Proofs.Supplies
import CardLesson.Proofs.Worklist

namespace CardLesson

/-! ### Absorbing a debuff -/

section Spend

variable {bs : List Buff}

theorem Supply.drain_one_cons (s : Supply) {b : Buff} (h : s.of b ≠ 0) (bs : List Buff) :
    s.drain 1 (b :: bs) = if s.of b = 1 then bs else s.left b (s.of b - 1) :: bs := by
  have hkeep : ¬(s.of b = 0 ∨ 1 = 0) := by simp [h]
  rw [Supply.drain, if_neg hkeep]
  by_cases hone : s.of b = 1
  · rw [if_pos (by omega), if_pos hone, hone, Nat.sub_self, Supply.drain_zero]
  · rw [if_neg (by omega), if_neg hone]

/-- Whether a whole number has something left to take. -/
theorem Datum.lt_left {d : Datum} {n : Int} (hd : d.quantity = .ok (.whole n)) :
    Datum.lt (.whole 0) d = .ok (decide (d.left ≠ 0)) := by
  rw [lt_of_quantity rfl hd, left_of_quantity hd]
  congr 1
  rw [decide_eq_decide]
  omega

theorem Datum.same_one {d : Datum} {n : Int} (hd : d.quantity = .ok (.whole n)) :
    d.same (.whole 1) = decide (d.left = 1) := by
  rw [left_of_quantity hd, same_of_quantity hd, decide_eq_decide]
  omega

theorem Datum.lessOne_of_left {d : Datum} {n : Int} (hd : d.quantity = .ok (.whole n))
    (hleft : d.left ≠ 0) : lessOne d = .ok (.whole (d.left - 1 : Nat)) := by
  rw [left_of_quantity hd] at hleft ⊢
  rw [lessOne_of_quantity hd]
  congr 2
  omega

/-- A search that comes to an immunity takes one from it, or goes on when nothing is left of the
number that counts. -/
theorem Supply.spend_step (s : Supply) (set : Datum → Buff) {b : Buff} {counts : Bool} {d : Datum}
    {bs : List Buff} {later : Except Fault (Option (List Buff))}
    (hof : s.of b = if counts then d.left else 0) (hset : ∀ n : Nat, set (.whole n) = s.left b n)
    (hd : counts = true → ∃ n, d.quantity = .ok (.whole n)) :
    (do
      let usable ← if counts then Datum.lt (.whole 0) d else pure false
      if usable then
        if d.same (.whole 1) then return some bs
        else return some (set (← lessOne d) :: bs)
      else later) = if s.of b = 0 then later else .ok (some (s.drain 1 (b :: bs))) := by
  by_cases hcounts : counts = true
  · obtain ⟨n, hn⟩ := hd hcounts
    rw [if_pos hcounts] at hof ⊢
    rw [Datum.lt_left hn, ← hof]
    by_cases hzero : s.of b = 0
    · rw [if_pos hzero, hzero]
      rfl
    · rw [if_neg hzero, decide_eq_true hzero, s.drain_one_cons hzero, Datum.same_one hn,
        Datum.lessOne_of_left hn (hof ▸ hzero), ← hof]
      by_cases hone : s.of b = 1
      · rw [if_pos hone, decide_eq_true hone]
        rfl
      · rw [if_neg hone, decide_eq_false hone, ← hset]
        rfl
  · rw [if_neg hcounts] at hof ⊢
    rw [if_pos hof]
    rfl

/-- A search that takes one from the first immunity with something left takes one from the
supply. -/
theorem Supply.spend_eq (s : Supply) {spend : List Buff → Except Fault (Option (List Buff))}
    (hnil : spend [] = .ok none)
    (hcons : ∀ (b : Buff) (bs : List Buff), (b.is .noDebuff = true → b.Counted) →
      spend (b :: bs) = if s.of b = 0 then (do return (← spend bs).map (b :: ·))
        else .ok (some (s.drain 1 (b :: bs)))) :
    ∀ {bs : List Buff}, ImmunitiesCounted bs →
      spend bs = .ok (if s.total bs = 0 then none else some (s.drain 1 bs))
  | [], _ => hnil
  | b :: bs, h => by
    obtain ⟨hb, hbs⟩ := List.forall_mem_cons.1 h
    rw [hcons b bs hb, total_cons]
    by_cases hzero : s.of b = 0
    · rw [if_pos hzero, spend_eq s hnil hcons hbs, hzero, Nat.zero_add,
        drain_cons_of_empty s hzero]
      by_cases hrest : s.total bs = 0
      · rw [if_pos hrest, if_pos hrest]
        rfl
      · rw [if_neg hrest, if_neg hrest]
        rfl
    · have htotal : s.of b + s.total bs ≠ 0 := by omega
      rw [if_neg hzero, if_neg htotal]

theorem spendCount_eq (h : ImmunitiesCounted bs) : spendCount bs =
    .ok (if Supply.uses.total bs = 0 then none else some (Supply.uses.drain 1 bs)) := by
  refine Supply.uses.spend_eq rfl (fun b bs hb => ?_) h
  refine Supply.uses.spend_step (fun count => { b with count }) rfl (fun _ => rfl) ?_
  intro hcounts
  obtain ⟨hkind, hnull⟩ := Bool.and_eq_true_iff.1 hcounts
  exact (hb hkind).count (by simpa using hnull)

theorem spendDuration_eq (h : ImmunitiesCounted bs) : spendDuration bs =
    .ok (if Supply.turns.total bs = 0 then none else some (Supply.turns.drain 1 bs)) := by
  refine Supply.turns.spend_eq rfl (fun b bs hb => ?_) h
  refine Supply.turns.spend_step (fun duration => { b with duration }) rfl (fun _ => rfl) ?_
  intro hcounts
  exact (hb (Bool.and_eq_true_iff.1 hcounts).1).duration

end Spend

/-- The lesson after a number of debuffs are absorbed. -/
def Lesson.drained (n : Nat) (l : Lesson) : Lesson :=
  { l with buffs := CardLesson.drained n l.buffs }

theorem Lesson.drained_drained (m n : Nat) (l : Lesson) :
    (l.drained m).drained n = l.drained (m + n) := by
  unfold Lesson.drained
  rw [CardLesson.drained_drained]

theorem Lesson.drained_zero (l : Lesson) : l.drained 0 = l := by
  unfold Lesson.drained
  rw [CardLesson.drained_zero]

/-- The line that an absorbed debuff writes. -/
def absorbedLine (op : Operation) : String := s!"Debuff {op.kind.shown} nullified"

section Absorb

variable {l : Lesson} {op : Operation}

/-- As long as there is something in the budget one is taken from it. -/
theorem absorb_of_budget (hl : ImmunitiesCounted l.buffs) (hbudget : budget l.buffs ≠ 0) :
    ∃ touched, absorb l op = .ok (some ⟨l.drained 1, [absorbedLine op], touched⟩) := by
  unfold Lesson.drained
  by_cases huses : Supply.uses.total l.buffs = 0
  · have hdrained : drained 1 l.buffs = Supply.turns.drain 1 l.buffs := by
      rw [drained, huses, Supply.drain_of_total_zero _ 1 huses]
    by_cases hturns : Supply.turns.total l.buffs = 0
    · have hshield : shielded l.buffs = true := by
        by_contra hnot
        refine hbudget (budget_eq_zero_iff.2 ⟨eq_false_of_ne_true hnot, ?_⟩)
        rw [charges, huses, hturns]
      have hany : (l.buffs.any fun b => b.is .noDebuff && b.count.isNull && b.indefinite) = true :=
        hshield
      refine ⟨false, ?_⟩
      rw [hdrained, Supply.drain_of_total_zero _ 1 hturns]
      unfold absorb
      rw [spendCount_eq hl, if_pos huses, spendDuration_eq hl, if_pos hturns, hany]
      rfl
    · refine ⟨true, ?_⟩
      unfold absorb
      rw [hdrained, spendCount_eq hl, if_pos huses, spendDuration_eq hl, if_neg hturns]
      rfl
  · have hdrained : drained 1 l.buffs = Supply.uses.drain 1 l.buffs := by
      have hzero : 1 - Supply.uses.total l.buffs = 0 := by omega
      rw [drained, hzero, Supply.drain_zero]
    refine ⟨true, ?_⟩
    unfold absorb
    rw [hdrained, spendCount_eq hl, if_neg huses]
    rfl

/-- Once it is used up no debuff is absorbed. -/
theorem absorb_of_no_budget (hl : ImmunitiesCounted l.buffs) (hbudget : budget l.buffs = 0) :
    absorb l op = .ok none := by
  obtain ⟨hshield, hcharges⟩ := budget_eq_zero_iff.1 hbudget
  have huses : Supply.uses.total l.buffs = 0 := by
    unfold charges at hcharges
    omega
  have hturns : Supply.turns.total l.buffs = 0 := by
    unfold charges at hcharges
    omega
  have hany : (l.buffs.any fun b => b.is .noDebuff && b.count.isNull && b.indefinite) = false :=
    hshield
  unfold absorb
  rw [spendCount_eq hl, if_pos huses, spendDuration_eq hl, if_pos hturns, hany]
  rfl

end Absorb

/-! ### Resolving debuffs -/

/-- Whether the effect is of a kind that immunities absorb. -/
def Effect.isDebuff (e : Effect) : Bool :=
  match e.operation.kind with
  | .known k => k.isDebuff
  | .unknown _ => false

/-- Carries out an effect by the rule of its kind, whatever its conditions and the immunities. -/
def suffer (l : Lesson) (e : Effect) : Play Resolution :=
  match e.operation.kind with
  | .known k => carryOut idleResolver l e.operation e.triggered k
  | .unknown _ => return .untouched l

/-- Carries out the effects of a list by their rules. -/
def sufferEach : Lesson → List Effect → Play Resolution
  | l, [] => return .untouched l
  | l, e :: rest => do
    let r ← suffer l e
    return r.andThen (← sufferEach r.lesson rest)

section Resolve

variable {inner : Resolver} {l : Lesson} {e : Effect} {es : List Effect}

theorem Effect.kind_of_isDebuff (h : e.isDebuff = true) :
    ∃ k, e.operation.kind = .known k ∧ k.isDebuff = true := by
  unfold Effect.isDebuff at h
  split at h
  · next k hk => exact ⟨k, hk, h⟩
  · cases h

theorem admissionOf_debuff {op : Operation} {k : EffectKind} (hfree : op.conditions = [])
    (hk : op.kind = .known k) (hkind : k.isDebuff = true) :
    admissionOf l op = (absorb l op).map fun absorbed => match absorbed with
      | some r => .done r
      | none => .rule k := by
  unfold admissionOf
  rw [hfree, hk]
  show (if k.isDebuff = true then _ else _) = _
  rw [if_pos hkind]
  rcases absorb l op with f | _ | r <;> rfl

/-- No rule of a debuff carries out effects of cards. -/
theorem carryOut_debuff {op : Operation} {triggered : Option Effect} {k : EffectKind}
    (hkind : k.isDebuff = true) :
    carryOut inner l op triggered k = carryOut idleResolver l op triggered k := by
  cases k with
  | noGenkiGain | doubleCost | costIncrease | halfGenki | setGenki => rfl
  | _ => cases hkind

/-- A debuff without conditions is absorbed or follows its rule. -/
theorem resolveOne_debuff (hfree : e.operation.conditions = []) (hdebuff : e.isDebuff = true) :
    resolveOne inner l e = (do
      match ← (absorb l e.operation : Except Fault (Option Resolution)) with
      | some r => return r
      | none => suffer l e) := by
  obtain ⟨k, hk, hkind⟩ := Effect.kind_of_isDebuff hdebuff
  have hgate : k ≠ .conditionGate := by
    rintro rfl
    cases hkind
  have hsuffer : suffer l e = carryOut inner l e.operation e.triggered k := by
    rw [suffer, hk, carryOut_debuff hkind]
  rw [resolveOne_eq, admissionOf_debuff hfree hk hkind, hsuffer]
  funext c
  rcases absorb l e.operation with f | _ | r
  · rfl
  · show (if k = .conditionGate then _ else _ : Play Resolution) c = _
    rw [if_neg hgate]
    rfl
  · rfl

theorem Buff.not_is_of_is {b : Buff} {k k' : EffectKind} (hne : k ≠ k') (h : b.is k = true) :
    b.is k' = false := by
  unfold Buff.is Tag.is at h ⊢
  split at h
  · rw [beq_iff_eq.1 h]
    exact beq_false_of_ne hne
  · cases h

/-- Working on a buff of one kind leaves those of another kind as they are. -/
theorem Reworked.filter_other {k k' : EffectKind} {bs bs' : List Buff} (hne : k ≠ k')
    (h : Reworked k bs bs') : bs'.filter (·.is k') = bs.filter (·.is k') := by
  induction h with
  | gone hb =>
    rw [List.filter_cons_of_neg (by simp [Buff.not_is_of_is hne hb])]
  | @changed b bs duration count hb _ _ =>
    have hbefore : ¬b.is k' = true := by simp [Buff.not_is_of_is hne hb]
    have hafter : ¬({ b with duration, count } : Buff).is k' = true := hbefore
    rw [List.filter_cons, List.filter_cons, if_neg hafter, if_neg hbefore]
  | later _ ih => rw [List.filter_cons, List.filter_cons, ih]

/-- Debuffs leave the immunities as they are. -/
theorem suffer_immunities {c c' : Chance} {r : Resolution} (hdebuff : e.isDebuff = true)
    (h : suffer l e c = (.ok r, c')) :
    r.lesson.buffs.filter (·.is .noDebuff) = l.buffs.filter (·.is .noDebuff) := by
  obtain ⟨k, hk, hkind⟩ := Effect.kind_of_isDebuff hdebuff
  have hne : k ≠ .noDebuff := by
    rintro rfl
    cases hkind
  have hgrant {name : String} (h : grantBuff l e.operation k name e.triggered c = (.ok r, c')) :
      r.lesson.buffs.filter (·.is .noDebuff) = l.buffs.filter (·.is .noDebuff) := by
    rcases grantBuff_cases h with ⟨bs, hr, -, -, hextend⟩ | ⟨hr, -, -⟩
    · rw [hr]
      exact (extendFirst_reworked hextend).filter_other hne
    · have hnew :
          (grantedBuff (c.named + 1) e.operation k name e.triggered).is .noDebuff = false := by
        simp [Buff.is, grantedBuff, Tag.is, hne]
      rw [hr]
      simp [hnew]
  rw [suffer, hk] at h
  cases k with
  | noGenkiGain => exact hgrant h
  | doubleCost => exact hgrant h
  | costIncrease => exact hgrant h
  | halfGenki =>
    obtain ⟨product, -, h⟩ := Play.except_bind_ok.1 (Play.except_ok.1 h).1
    obtain ⟨left, -, h⟩ := Play.except_bind_ok.1 h
    obtain ⟨line, -, h⟩ := Play.except_bind_ok.1 h
    rw [← Play.except_pure_ok.1 h]
    rfl
  | setGenki =>
    obtain ⟨amount, -, h⟩ := Play.except_bind_ok.1 (Play.except_ok.1 h).1
    obtain ⟨line, -, h⟩ := Play.except_bind_ok.1 h
    rw [← Play.except_pure_ok.1 h]
    rfl
  | _ => cases hkind

/-- As many debuffs as there are in the budget are absorbed, one after the other. -/
theorem resolveEach_absorbed (hl : ImmunitiesCounted l.buffs)
    (hfree : ∀ e ∈ es, e.operation.conditions = []) (hdebuff : ∀ e ∈ es, e.isDebuff = true)
    (hbudget : (es.length : ℕ∞) ≤ budget l.buffs) :
    ∃ touched, resolveEach inner l es =
      pure ⟨l.drained es.length, es.map fun e => absorbedLine e.operation, touched⟩ := by
  induction es generalizing l with
  | nil =>
    refine ⟨false, ?_⟩
    rw [resolveEach_nil, List.length_nil, Lesson.drained_zero]
    rfl
  | cons e es ih =>
    rw [List.forall_mem_cons] at hfree hdebuff
    have hlength : (es.length : ℕ∞) + 1 ≤ budget l.buffs := hbudget
    have hone : budget l.buffs ≠ 0 := by
      intro hzero
      rw [hzero] at hlength
      simp at hlength
    have hrest : (es.length : ℕ∞) ≤ budget (drained 1 l.buffs) := by
      rw [budget_drained]
      exact ENat.le_sub_of_add_le_right (ENat.natCast_ne_top 1) hlength
    obtain ⟨first, habsorb⟩ := @absorb_of_budget l e.operation hl hone
    obtain ⟨later, hes⟩ := @ih (l.drained 1) (hl.drained 1) hfree.2 hdebuff.2 hrest
    refine ⟨first || later, ?_⟩
    rw [resolveEach, resolveOne_debuff hfree.1 hdebuff.1, habsorb]
    calc (resolveEach inner (l.drained 1) es >>= fun r =>
          pure (Resolution.andThen ⟨l.drained 1, [absorbedLine e.operation], first⟩ r) :
            Play Resolution)
        = pure ⟨(l.drained 1).drained es.length,
            absorbedLine e.operation :: es.map (fun e => absorbedLine e.operation),
            first || later⟩ := by
          rw [hes, pure_bind]
          rfl
      _ = _ := by
          rw [Lesson.drained_drained, Nat.add_comm, List.length_cons, List.map_cons]

/-- With nothing in the budget all debuffs follow their rules. -/
theorem resolveEach_suffered (hl : ImmunitiesCounted l.buffs)
    (hfree : ∀ e ∈ es, e.operation.conditions = []) (hdebuff : ∀ e ∈ es, e.isDebuff = true)
    (hbudget : budget l.buffs = 0) : resolveEach inner l es = sufferEach l es := by
  induction es generalizing l with
  | nil => exact resolveEach_nil inner l
  | cons e es ih =>
    rw [List.forall_mem_cons] at hfree hdebuff
    rw [resolveEach, sufferEach, resolveOne_debuff hfree.1 hdebuff.1,
      absorb_of_no_budget hl hbudget]
    show (suffer l e >>= _) = _
    funext c
    refine Play.bind_congr fun r c₁ hr => ?_
    have hsame := suffer_immunities hdebuff.1 hr
    rw [ih (hl.congr hsame) hfree.2 hdebuff.2 (by rw [budget_congr hsame, hbudget])]

theorem Resolution.andThen_assoc (r s t : Resolution) :
    (r.andThen s).andThen t = r.andThen (s.andThen t) := by
  simp [Resolution.andThen, List.append_assoc, Bool.or_assoc]

/-- Two lists of effects one after the other. -/
theorem resolveEach_append (es es' : List Effect) : resolveEach inner l (es ++ es') = (do
    let r ← resolveEach inner l es
    return r.andThen (← resolveEach inner r.lesson es')) := by
  induction es generalizing l with
  | nil =>
    rw [List.nil_append, resolveEach_nil, pure_bind]
    show _ = (resolveEach inner l es' >>= fun r => pure r)
    rw [bind_pure]
  | cons e es ih =>
    rw [List.cons_append, resolveEach, resolveEach]
    simp only [ih, bind_assoc, pure_bind, Resolution.andThen_assoc, Resolution.lesson_andThen]

end Resolve

/-- **Immunity to debuffs is a budget.** It is without an end when an immunity counts no uses and
stays for the rest of the lesson, and otherwise the uses of the immunities that count them and the
turns of the others together. Of any list of debuffs without conditions as many of the first ones
are absorbed as there are in the budget. They write a line each and change nothing but the
immunities: uses go before turns, each from the front of the list, and an immunity goes with its
last one. If that is not all of them, nothing is left in the budget, and the others follow the rules
of their kinds. -/
theorem immunity_is_a_budget {l : Lesson} {es : List Effect} (hl : ImmunitiesCounted l.buffs)
    (hfree : ∀ e ∈ es, e.operation.conditions = []) (hdebuff : ∀ e ∈ es, e.isDebuff = true) :
    ∃ (n : ℕ) (r : Resolution), (n : ℕ∞) = min (es.length : ℕ∞) (budget l.buffs) ∧
      resolve (es.take n) l = pure r ∧
      r.lesson = { l with buffs := drained n l.buffs } ∧
      r.lesson.buffs.filter (!·.is .noDebuff) = l.buffs.filter (!·.is .noDebuff) ∧
      r.lines = (es.take n).map (fun e => s!"Debuff {e.operation.kind.shown} nullified") ∧
      (n < es.length → budget r.lesson.buffs = 0) ∧
      resolve es l = do return r.andThen (← sufferEach r.lesson (es.drop n)) := by
  obtain ⟨n, hn⟩ : ∃ n : ℕ, (n : ℕ∞) = min (es.length : ℕ∞) (budget l.buffs) :=
    ENat.ne_top_iff_exists.1 (ne_top_of_le_ne_top (ENat.natCast_ne_top es.length) (min_le_left _ _))
  have hle : n ≤ es.length := by
    rw [← ENat.natCast_le_natCast, hn]
    exact min_le_left _ _
  have hlength : (es.take n).length = n := by
    rw [List.length_take, Nat.min_eq_left hle]
  have hbudget : ((es.take n).length : ℕ∞) ≤ budget l.buffs := by
    rw [hlength, hn]
    exact min_le_right _ _
  have hspent (hlt : n < es.length) : budget (drained n l.buffs) = 0 := by
    have hall : budget l.buffs = n := by
      rcases min_choice (es.length : ℕ∞) (budget l.buffs) with h | h
      · rw [h, ENat.natCast_inj] at hn
        omega
      · rw [hn, h]
    rw [budget_drained, hall, tsub_self]
  -- which resolver cards are triggered with makes no difference to debuffs
  obtain ⟨inner, hinner⟩ : ∃ inner, ∀ es, resolve es l = resolveEach inner l es :=
    ⟨resolveWithin (nestingLimit - 1), fun _ => rfl⟩
  obtain ⟨touched, habsorbed⟩ := @resolveEach_absorbed inner l (es.take n) hl
    (fun e he => hfree e (List.mem_of_mem_take he))
    (fun e he => hdebuff e (List.mem_of_mem_take he)) hbudget
  rw [hlength] at habsorbed
  refine ⟨n, ⟨l.drained n, _, touched⟩, hn, (hinner _).trans habsorbed, rfl, filter_drained n, rfl,
    hspent, ?_⟩
  have hrest : resolveEach inner (l.drained n) (es.drop n) =
      sufferEach (l.drained n) (es.drop n) := by
    rcases Nat.lt_or_ge n es.length with hlt | hge
    · exact resolveEach_suffered (hl.drained n) (fun e he => hfree e (List.mem_of_mem_drop he))
        (fun e he => hdebuff e (List.mem_of_mem_drop he)) (hspent hlt)
    · rw [List.drop_eq_nil_of_le hge, resolveEach_nil]
      rfl
  calc resolve es l = resolveEach inner l (es.take n ++ es.drop n) := by
        rw [List.take_append_drop, hinner]
    _ = _ := by
        rw [resolveEach_append, habsorbed, pure_bind]
        dsimp only
        rw [hrest]

/-- An immunity to debuffs. -/
def immunity (id : String) (duration : Int) (count : Datum) : Buff :=
  { id, kind := .known .noDebuff, duration := .whole duration, name := "Debuff Immunity", count }

/-- A bonus, and immunities: one for a turn, one with no uses left, one with two uses. -/
def immuneLesson : Lesson where
  buffs := [{ id := "bonus", kind := .known .scoreBonus, duration := .whole 3, name := "Bonus" },
    immunity "turn" 1 .null, immunity "spent" (-1) (.whole 0), immunity "uses" (-1) (.whole 2)]

/-- Four debuffs. -/
def fourDebuffs : List Effect :=
  [.of { kind := .known .halfGenki }, .grant (.known .doubleCost) (.whole 2) .null .null,
    .of { kind := .known .setGenki }, .grant (.known .noGenkiGain) (.whole 1) .null .null]

/-- Three of the four debuffs are absorbed, and the immunity with no uses left is left. -/
theorem immunity_absorbs_three : ∃ r, resolve (fourDebuffs.take 3) immuneLesson = pure r ∧
    r.lesson.buffs.map (·.id) = ["bonus", "spent"] ∧ r.lines.length = 3 ∧
    resolve fourDebuffs immuneLesson = do
      return r.andThen (← sufferEach r.lesson (fourDebuffs.drop 3)) := by
  have hcounted : ImmunitiesCounted immuneLesson.buffs := by
    intro b hb hkind
    simp only [immuneLesson, List.mem_cons, List.not_mem_nil, or_false] at hb
    rcases hb with rfl | rfl | rfl | rfl
    · cases hkind
    · exact ⟨⟨1, rfl⟩, nofun⟩
    · exact ⟨⟨-1, rfl⟩, fun _ => ⟨0, rfl⟩⟩
    · exact ⟨⟨-1, rfl⟩, fun _ => ⟨2, rfl⟩⟩
  obtain ⟨n, r, hn, htaken, hlesson, -, hlines, -, hall⟩ :=
    @immunity_is_a_budget immuneLesson fourDebuffs hcounted (by decide) (by decide)
  have hbudget : budget immuneLesson.buffs = (3 : ℕ) := by
    have hshield : shielded immuneLesson.buffs = false := by decide
    have hcharges : charges immuneLesson.buffs = 3 := by decide
    rw [budget, if_neg (by simp [hshield]), hcharges]
  have hthree : n = 3 := by
    have hlength : (3 : ℕ) ≤ fourDebuffs.length := by decide
    rw [hbudget, min_eq_right (ENat.natCast_le_natCast.2 hlength), ENat.natCast_inj] at hn
    exact hn
  subst hthree
  refine ⟨r, htaken, ?_, ?_, hall⟩
  · rw [hlesson]
    decide
  · rw [hlines, List.length_map]
    decide

end CardLesson
