/-
# With which faults computations fail

`FailsOnly P` says that a computation fails with no other faults than those of `P`. Where numbers
are calculated with there is always one more way to fail, since a whole number can be too large for
a double and a double can have no whole part. All other faults are the fault of what a computation
is given: `Reliable given` says that, as long as `given` holds, a computation fails with an overflow
only, and never with a fault that no rule has, which are a nesting that is too deep and a schedule
that names no stat. So each rule has one lemma, for data that it can work with and for any data at
all.

Key definitions: `FailsOnly`, `PlayFailsOnly`, `Fault.isOverflow`, `Fault.Foreign`, `Excused`,
`Reliable`.
Key theorems: `FailsOnly.bind`, `PlayFailsOnly.bind`, `Reliable.mul`, `Reliable.order`.
-/
import CardLesson.Proofs.Fitness

namespace CardLesson

/-! ### Failing with some faults only -/

/-- The computation fails with no other faults. -/
def FailsOnly {α : Type} (P : Fault → Prop) (x : Except Fault α) : Prop := ∀ f, x = .error f → P f

namespace FailsOnly

variable {α β : Type} {P Q : Fault → Prop}

theorem ok {a : α} : FailsOnly P (.ok a) := nofun

theorem pure {a : α} : FailsOnly P (Pure.pure a) := nofun

theorem error {f : Fault} (h : P f) : FailsOnly P (.error f : Except Fault α) := by
  rintro _ ⟨⟩
  exact h

theorem mono {x : Except Fault α} (hx : FailsOnly P x) (h : ∀ f, P f → Q f) : FailsOnly Q x :=
  fun f hf => h f (hx f hf)

theorem bind {x : Except Fault α} {f : α → Except Fault β} (hx : FailsOnly P x)
    (hf : ∀ a, x = .ok a → FailsOnly P (f a)) : FailsOnly P (x >>= f) := by
  intro e h
  rcases Play.except_bind_error.1 h with h | ⟨a, ha, h⟩
  · exact hx e h
  · exact hf a ha e h

theorem ite {p : Prop} [Decidable p] {x y : Except Fault α} (hx : p → FailsOnly P x)
    (hy : ¬p → FailsOnly P y) : FailsOnly P (if p then x else y) := by
  split
  · next h => exact hx h
  · next h => exact hy h

theorem map {x : Except Fault α} {f : α → β} (hx : FailsOnly P x) : FailsOnly P (x.map f) := by
  rcases x with e | a
  · intro f h
    cases h
    exact hx e rfl
  · exact ok

theorem mapM {f : α → Except Fault β} : ∀ {xs : List α}, (∀ x ∈ xs, FailsOnly P (f x)) →
    FailsOnly P (xs.mapM f)
  | [], _ => pure
  | x :: xs, hf => by
    rw [List.mapM_cons]
    exact (hf x List.mem_cons_self).bind fun _ _ =>
      (mapM fun y hy => hf y (List.mem_cons_of_mem x hy)).bind fun _ _ => pure

theorem foldlM {f : β → α → Except Fault β} : ∀ {xs : List α} {b : β},
    (∀ b, ∀ x ∈ xs, FailsOnly P (f b x)) → FailsOnly P (xs.foldlM f b)
  | [], _, _ => pure
  | x :: xs, b, hf => by
    rw [List.foldlM_cons]
    exact (hf b x List.mem_cons_self).bind fun _ _ =>
      foldlM fun b y hy => hf b y (List.mem_cons_of_mem x hy)

theorem filterAuxM {p : α → Except Fault Bool} : ∀ {xs acc : List α},
    (∀ x ∈ xs, FailsOnly P (p x)) → FailsOnly P (xs.filterAuxM p acc)
  | [], _, _ => pure
  | x :: _, _, hp => (hp x List.mem_cons_self).bind fun _ _ =>
    filterAuxM fun y hy => hp y (List.mem_cons_of_mem x hy)

theorem filterM {p : α → Except Fault Bool} {xs : List α} (hp : ∀ x ∈ xs, FailsOnly P (p x)) :
    FailsOnly P (xs.filterM p) := (filterAuxM hp).bind fun _ _ => pure

theorem key {d : Datum} (h : d.isKey = true) : FailsOnly P d.key := by
  rw [Datum.key, if_pos h]
  exact ok

theorem quantity {d : Datum} (h : d.isNumber = true) : FailsOnly P d.quantity := by
  unfold Datum.quantity
  obtain ⟨q, hq⟩ := Option.isSome_iff_exists.1 h
  rw [hq]
  exact ok

end FailsOnly

/-- The computation of play fails with no other faults. -/
def PlayFailsOnly {α : Type} (P : Fault → Prop) (x : Play α) : Prop :=
  ∀ c f c', x c = (.error f, c') → P f

namespace PlayFailsOnly

variable {α β : Type} {P : Fault → Prop}

theorem pure {a : α} : PlayFailsOnly P (Pure.pure a) := fun _ _ _ h => (Play.pure_error h).elim

theorem luck {x : Luck α} : PlayFailsOnly P (liftM x) := fun _ _ _ h => (Play.luck_error h).elim

theorem except {x : Except Fault α} (hx : FailsOnly P x) : PlayFailsOnly P (liftM x) :=
  fun _ f _ h => hx f (Play.except_error.1 h).1

theorem bind {x : Play α} {f : α → Play β} (hx : PlayFailsOnly P x)
    (hf : ∀ a c c', x c = (.ok a, c') → PlayFailsOnly P (f a)) : PlayFailsOnly P (x >>= f) := by
  intro c e c' h
  rcases Play.bind_error.1 h with h | ⟨a, c₁, ha, h⟩
  · exact hx c e c' h
  · exact hf a c c₁ ha c₁ e c' h

/-- A computation that draws nothing comes first. -/
theorem except_bind {x : Except Fault α} {f : α → Play β} (hx : FailsOnly P x)
    (hf : ∀ a, x = .ok a → PlayFailsOnly P (f a)) : PlayFailsOnly P (liftM x >>= f) :=
  (except hx).bind fun a _ _ ha => hf a (Play.except_ok.1 ha).1

theorem ite {p : Prop} [Decidable p] {x y : Play α} (hx : p → PlayFailsOnly P x)
    (hy : ¬p → PlayFailsOnly P y) : PlayFailsOnly P (if p then x else y) := by
  split
  · next h => exact hx h
  · next h => exact hy h

/-- Two branches that go on in the same way, the first one in two steps. -/
theorem ite_bind_bind {γ : Type} {p : Prop} [Decidable p] {x : Play γ} {g : γ → Play α}
    {z : Play α} {f : α → Play β} (hx : p → PlayFailsOnly P (x >>= g))
    (hz : ¬p → PlayFailsOnly P z) (hf : ∀ a, PlayFailsOnly P (f a)) :
    PlayFailsOnly P (if p then x >>= fun q => g q >>= f else z >>= f) := by
  rw [← bind_assoc]
  exact ite (fun h => (hx h).bind fun a _ _ _ => hf a) fun h => (hz h).bind fun a _ _ _ => hf a

/-- A computation that can fail with no fault returns. -/
theorem returns {x : Play α} (h : PlayFailsOnly (fun _ => False) x) (c : Chance) :
    ∃ a c', x c = (.ok a, c') := by
  rcases hx : x c with ⟨f | a, c'⟩
  · exact (h c f c' hx).elim
  · exact ⟨a, c', rfl⟩

end PlayFailsOnly

/-! ### Faults that are excused -/

/-- Whether a number grew too large: too large for a double, too large to have a whole part, or too
long for a text. -/
def Fault.isOverflow : Fault → Bool
  | .tooLarge | .badValue .noWholePart | .badValue .unprintable => true
  | _ => false

/-- The faults that no rule has, whatever it is given. -/
inductive Fault.Foreign : Fault → Prop
  | tooDeep : Foreign .tooDeep
  | notAnAttribute (raw : Datum) : Foreign (.badValue (.notAnAttribute raw))

/-- An overflow is always excused. All other faults are when `given` does not hold, but for those
that no rule has. -/
def Excused (given : Prop) (f : Fault) : Prop := f.isOverflow = true ∨ ¬given ∧ ¬f.Foreign

theorem Excused.not_foreign {given : Prop} {f : Fault} (h : Excused given f) : ¬f.Foreign := by
  rcases h with h | ⟨-, h⟩
  · rintro (_ | raw) <;> cases h
  · exact h

theorem Excused.isOverflow {given : Prop} {f : Fault} (h : Excused given f) (hg : given) :
    f.isOverflow = true := h.resolve_right fun h => h.1 hg

/-- As long as `given` holds, the computation fails with an overflow only. -/
abbrev Reliable {α : Type} (given : Prop) (x : Except Fault α) : Prop := FailsOnly (Excused given) x

/-- As long as `given` holds, the computation of play fails with an overflow only. -/
abbrev ReliablePlay {α : Type} (given : Prop) (x : Play α) : Prop := PlayFailsOnly (Excused given) x

namespace Reliable

variable {α : Type} {given : Prop}

/-- A fault that comes from what the computation was given. -/
theorem blamed {f : Fault} (h : ¬given) (hf : ¬f.Foreign) :
    Reliable given (.error f : Except Fault α) := .error (.inr ⟨h, hf⟩)

theorem tooLarge : Reliable given (.error .tooLarge : Except Fault α) := .error (.inl rfl)

/-! Numbers. -/

theorem toDouble : ∀ {q : Quantity}, Reliable given q.toDouble
  | .real _ => .ok
  | .whole n => by
    unfold Quantity.toDouble
    dsimp only
    cases Double.ofInt n with
    | infinite _ => exact tooLarge
    | _ => exact .ok

theorem combine {f : Int → Int → Int} {g : Double → Double → Double} :
    ∀ {a b : Quantity}, Reliable given (Quantity.combine f g a b)
  | .whole _, .whole _ => .ok
  | .real _, _ => toDouble.bind fun _ _ => toDouble.bind fun _ _ => .pure
  | .whole _, .real _ => toDouble.bind fun _ _ => toDouble.bind fun _ _ => .pure

theorem add {a b : Quantity} : Reliable given (a.add b) := combine

theorem sub {a b : Quantity} : Reliable given (a.sub b) := combine

theorem mul {a b : Quantity} : Reliable given (a.mul b) := combine

theorem ratio : ∀ {a b : Quantity}, Reliable given (a.ratio b)
  | .whole m, .whole n => by
    unfold Quantity.ratio
    dsimp only
    cases Double.ofRatio (decide (m < 0) != decide (n < 0)) m.natAbs n.natAbs with
    | infinite _ => exact tooLarge
    | _ => exact .ok
  | .real _, _ => toDouble.bind fun _ _ => toDouble.bind fun _ _ => .pure
  | .whole _, .real _ => toDouble.bind fun _ _ => toDouble.bind fun _ _ => .pure

theorem wholeOf {part : Double → Option Int} {x : Double} :
    Reliable given (Quantity.wholeOf part x) := by
  unfold Quantity.wholeOf
  split
  · exact .ok
  · exact .error (.inl rfl)
  · exact tooLarge

theorem floor : ∀ {q : Quantity}, Reliable given q.floor
  | .whole _ => .ok
  | .real _ => wholeOf

theorem truncate : ∀ {q : Quantity}, Reliable given q.truncate
  | .whole _ => .ok
  | .real _ => wholeOf

theorem nearestWhole : ∀ {q : Quantity}, Reliable given q.nearestWhole
  | .whole _ => .ok
  | .real _ => wholeOf

theorem printed {q : Quantity} : Reliable given q.printed :=
  .ite (fun _ => .ok) fun _ => .error (.inl rfl)

theorem printWhole {n : Int} : Reliable given (printWhole n) := printed

/-! Data. -/

theorem printedDatum {d : Datum} : Reliable given d.printed :=
  .ite (fun _ => .ok) fun _ => .error (.inl rfl)

theorem quantity {d : Datum} (h : given → d.isNumber = true) : Reliable given d.quantity := by
  unfold Datum.quantity
  split
  · exact .ok
  · next hnone =>
    refine blamed (fun hg => ?_) nofun
    have hsome := h hg
    rw [Datum.isNumber, hnone] at hsome
    cases hsome

theorem readWhole {s : String} (h : ¬given) : Reliable given (readWhole s) := by
  unfold CardLesson.readWhole
  dsimp only
  split
  · exact blamed h nofun
  · refine .ite (fun _ => blamed h nofun) fun _ => .ite (fun _ => .ok) fun _ => blamed h nofun

theorem toWhole {d : Datum} (h : given → d.isNumber = true) : Reliable given d.toWhole := by
  unfold Datum.toWhole
  split
  · exact readWhole fun hg => Bool.false_ne_true (h hg)
  · split
    · exact truncate
    · next hnone =>
      refine blamed (fun hg => ?_) nofun
      have hsome := h hg
      rw [Datum.isNumber, hnone] at hsome
      cases hsome

theorem order {a b : Datum} (ha : given → a.isNumber = true) (hb : given → b.isNumber = true) :
    Reliable given (a.order b) := by
  unfold Datum.order
  split
  · exact .ok
  · exact (quantity ha).bind fun _ _ => (quantity hb).bind fun _ _ => .pure

theorem lt {a b : Datum} (ha : given → a.isNumber = true) (hb : given → b.isNumber = true) :
    Reliable given (a.lt b) := (order ha hb).bind fun _ _ => .pure

theorem key {d : Datum} (h : given → d.isKey = true) : Reliable given d.key := by
  unfold Datum.key
  refine .ite (fun _ => .ok) fun hnot => blamed (fun hg => hnot (h hg)) nofun

theorem asText : ∀ {d : Datum}, (given → d.isText = true) → Reliable given d.asText
  | .text _, _ => .ok
  | .null, h | .truth _, h | .number _, h | .list _, h | .object _, h =>
    blamed (fun hg => Bool.false_ne_true (h hg)) nofun

end Reliable
end CardLesson
