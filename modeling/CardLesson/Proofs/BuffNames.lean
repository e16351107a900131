/-
# What the names of buffs are for

A buff has an id and a name for those who look on; no rule reads them. Two lists of the same buffs
under other ids and names have the same sums and durations, absorb the same debuffs, are extended
and aged alike, and stay the same buffs by it.

Key definitions: `SameBuffs`.
Key theorems: `SameBuffs.actualCost_eq`, `SameBuffs.extendFirst`, `SameBuffs.spendCount`,
`SameBuffs.tickBuffs`.
-/
import CardLesson.Lesson.Cost
import CardLesson.Lesson.Gains
import CardLesson.Lesson.Turn
import CardLesson.Proofs.Lockstep

namespace CardLesson

/-- The same buffs in the same order, but for their ids and names. -/
inductive SameBuffs : List Buff → List Buff → Prop
  | nil : SameBuffs [] []
  | cons (b : Buff) (id name : String) {bs bs' : List Buff} (rest : SameBuffs bs bs') :
      SameBuffs (b :: bs) ({ b with id, name } :: bs')

namespace SameBuffs

variable {bs bs' cs cs' : List Buff} {β : Type}

theorem refl : ∀ bs : List Buff, SameBuffs bs bs
  | [] => .nil
  | b :: bs => .cons b b.id b.name (refl bs)

theorem append (h : SameBuffs bs bs') (h' : SameBuffs cs cs') :
    SameBuffs (bs ++ cs) (bs' ++ cs') := by
  induction h with
  | nil => exact h'
  | cons b id name _ ih => exact .cons b id name ih

theorem reverse (h : SameBuffs bs bs') : SameBuffs bs.reverse bs'.reverse := by
  induction h with
  | nil => exact .nil
  | cons b id name _ ih =>
    rw [List.reverse_cons, List.reverse_cons]
    exact ih.append (.cons b id name .nil)

/-! ### What is read of buffs -/

/-- What looks at the other fields of a buff only sees the same in both lists. -/
theorem any (h : SameBuffs bs bs') {f : Buff → Bool}
    (hf : ∀ (b : Buff) id name, f { b with id, name } = f b) : bs'.any f = bs.any f := by
  induction h with
  | nil => rfl
  | cons b id name _ ih => rw [List.any_cons, List.any_cons, hf b id name, ih]

theorem filter (h : SameBuffs bs bs') {f : Buff → Bool}
    (hf : ∀ (b : Buff) id name, f { b with id, name } = f b) :
    SameBuffs (bs.filter f) (bs'.filter f) := by
  induction h with
  | nil => exact .nil
  | cons b id name _ ih =>
    rw [List.filter_cons, List.filter_cons, hf b id name]
    split
    · exact .cons b id name ih
    · exact ih

theorem map (h : SameBuffs bs bs') {f : Buff → β}
    (hf : ∀ (b : Buff) id name, f { b with id, name } = f b) : bs'.map f = bs.map f := by
  induction h with
  | nil => rfl
  | cons b id name _ ih => rw [List.map_cons, List.map_cons, hf b id name, ih]

theorem filterMap (h : SameBuffs bs bs') {f : Buff → Option β}
    (hf : ∀ (b : Buff) id name, f { b with id, name } = f b) :
    bs'.filterMap f = bs.filterMap f := by
  induction h with
  | nil => rfl
  | cons b id name _ ih => rw [List.filterMap_cons, List.filterMap_cons, hf b id name, ih]

theorem sumValues (h : SameBuffs bs bs') : Lesson.sumValues bs' = Lesson.sumValues bs := by
  unfold Lesson.sumValues
  generalize (0 : Quantity) = total
  induction h generalizing total with
  | nil => rfl
  | cons b id name _ ih =>
    rw [List.foldlM_cons, List.foldlM_cons]
    simp only [ih]

/-- The cost of a card is the same under both. -/
theorem actualCost_eq (h : SameBuffs bs bs') (card : Card) :
    actualCost card bs' = actualCost card bs := by
  unfold actualCost
  rw [(h.filter fun _ _ _ => rfl).sumValues, (h.filter fun _ _ _ => rfl).sumValues,
    h.any fun _ _ _ => rfl, h.any fun _ _ _ => rfl]

/-! ### What is done to buffs -/

/-- A filter that may fail picks the same buffs. -/
theorem filterM (h : SameBuffs bs bs') {p p' : Buff → Except Fault Bool}
    (hp : ∀ (b : Buff) id name, p' { b with id, name } = p b) :
    Together SameBuffs (bs.filterM p) (bs'.filterM p') := by
  have aux : ∀ {bs bs' acc acc' : List Buff}, SameBuffs bs bs' → SameBuffs acc acc' →
      Together SameBuffs (bs.filterAuxM p acc) (bs'.filterAuxM p' acc') := by
    intro bs bs' acc acc' h
    induction h generalizing acc acc' with
    | nil => exact fun hacc => .returned hacc
    | cons b id name _ ih =>
      intro hacc
      rw [List.filterAuxM, List.filterAuxM, hp b id name]
      refine .bindSame fun picked => ih ?_
      cases picked with
      | true => exact .cons b id name hacc
      | false => exact hacc
  exact (aux h .nil).bind fun xs ys hxy => .returned hxy.reverse

/-- What is found in the rest of a list, with the buff before it. -/
theorem consRest {b : Buff} {id name : String} {x y : Except Fault (Option (List Buff))}
    (h : Together (Option.Rel SameBuffs) x y) :
    Together (Option.Rel SameBuffs) (do return (← x).map (b :: ·))
      (do return (← y).map ({ b with id, name } :: ·)) :=
  h.bind fun o o' ho => by
    cases ho with
    | none => exact .returned .none
    | some hrest => exact .returned (.some (.cons b id name hrest))

theorem extendFirst (h : SameBuffs bs bs') (k : EffectKind) (extra : Datum) :
    Together (Option.Rel SameBuffs) (extendFirst k extra bs) (extendFirst k extra bs') := by
  induction h with
  | nil => exact .returned .none
  | cons b id name rest ih =>
    rw [CardLesson.extendFirst, CardLesson.extendFirst]
    have lasting (duration : Datum) :
        Option.Rel SameBuffs (some ({ b with duration } :: _))
          (some ({ b with duration, id, name } :: _)) :=
      .some (.cons { b with duration } id name rest)
    refine .ite (fun _ => .branchSame fun endless => .ite (fun _ => ?_) fun _ => ?_) fun _ => ?_
    · exact .bindSame fun duration => .returned (lasting duration)
    · exact .bindSame fun _ => .bindSame fun _ => .bindSame fun _ => .bindSame fun duration =>
        .returned (lasting duration)
    · exact consRest ih

theorem spendCount (h : SameBuffs bs bs') :
    Together (Option.Rel SameBuffs) (spendCount bs) (spendCount bs') := by
  induction h with
  | nil => exact .returned .none
  | cons b id name rest ih =>
    rw [CardLesson.spendCount, CardLesson.spendCount]
    refine .branchSame fun usable => .ite (fun _ => .ite (fun _ => ?_) fun _ => ?_) fun _ => ?_
    · exact .returned (.some rest)
    · exact .bindSame fun count => .returned (.some (.cons { b with count } id name rest))
    · exact consRest ih

theorem spendDuration (h : SameBuffs bs bs') :
    Together (Option.Rel SameBuffs) (spendDuration bs) (spendDuration bs') := by
  induction h with
  | nil => exact .returned .none
  | cons b id name rest ih =>
    rw [CardLesson.spendDuration, CardLesson.spendDuration]
    refine .branchSame fun usable => .ite (fun _ => .ite (fun _ => ?_) fun _ => ?_) fun _ => ?_
    · exact .returned (.some rest)
    · exact .bindSame fun duration => .returned (.some (.cons { b with duration } id name rest))
    · exact consRest ih

/-- A buff ages alike under any id and name. -/
theorem tickBuff_renamed (b : Buff) (id name : String) :
    tickBuff { b with id, name } = (tickBuff b).map fun aged => { aged with id, name } := by
  unfold tickBuff
  show (if b.indefinite = true then _ else if b.isNew = true then _ else _) = _
  split
  · rfl
  · split
    · rfl
    · cases lessOne b.duration <;> rfl

theorem tickBuffs (h : SameBuffs bs bs') : Together SameBuffs (tickBuffs bs) (tickBuffs bs') := by
  have aged : Together SameBuffs (bs.mapM tickBuff) (bs'.mapM tickBuff) := by
    induction h with
    | nil => exact .returned .nil
    | cons b id name _ ih =>
      rw [List.mapM_cons, List.mapM_cons, tickBuff_renamed b id name]
      cases tickBuff b with
      | error f => exact .failed f
      | ok old => exact ih.bind fun _ _ hrest => .returned (.cons old id name hrest)
  exact aged.bind fun _ _ hall => .returned (hall.filter fun _ _ _ => rfl)

end SameBuffs

end CardLesson
