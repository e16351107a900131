/-
# Legible numbers

A rule makes numbers of the parts that its phrase has kept, and that is all it can fail at. A whole
number is legible when it has no more figures than `figureLimit`; a decimal number, when it has one
point at most and a figure. Beyond that, a score cannot be repeated more than `listLimit` times, and
the hundredth of a percentage must fit a double.

`Hinges P x` says that a computation returns when `P` holds and otherwise fails over a number. So
each rule has one lemma, which says what its numbers must be like, and what is made of rules hinges
on all of them together.

Key definitions: `Fault.isOfNumber`, `Hinges`, `Found.Legible`, `Rule.Needs`,
`Found.Repeatable`, `Found.Scalable`.
Key theorems: `Hinges.bind`, `readDecimal_hinges`, `Rule.first?_hinges`, `plainRules_need`,
`scaledRules_need`.
-/
import Mathlib.Data.List.TakeWhile
import CardLesson.Proofs.Announcements
import CardLesson.Proofs.Failing

namespace CardLesson

/-! ### Computations that fail over numbers only -/

/-- Whether the fault is a number that cannot be read or is out of reach. -/
def Fault.isOfNumber : Fault → Bool
  | .tooLarge | .outOfMemory | .badValue (.tooManyFigures _) | .badValue (.notDecimal _)
  | .badValue (.notWhole _) => true
  | _ => false

/-- The computation returns when a condition holds, and otherwise fails over a number. -/
structure Hinges {α : Type} (P : Prop) (x : Except Fault α) : Prop where
  returns : (∃ a, x = .ok a) ↔ P
  fails : FailsOnly (fun f => f.isOfNumber = true) x

namespace Hinges

variable {α β : Type} {P Q : Prop}

theorem ok {a : α} : Hinges True (.ok a : Except Fault α) := ⟨iff_of_true ⟨a, rfl⟩ trivial, .ok⟩

theorem error {f : Fault} (hf : f.isOfNumber = true) : Hinges False (.error f : Except Fault α) :=
  ⟨iff_of_false nofun id, .error hf⟩

/-- A test that comes before a number. -/
theorem ite {p : Prop} [Decidable p] {a : α} {f : Fault} (hf : f.isOfNumber = true) :
    Hinges p (if p then .ok a else .error f) := by
  split
  · next h => exact ⟨iff_of_true ⟨a, rfl⟩ h, .ok⟩
  · next h => exact ⟨iff_of_false nofun h, .error hf⟩

theorem congr {x : Except Fault α} (hx : Hinges P x) (h : P ↔ Q) : Hinges Q x :=
  ⟨hx.returns.trans h, hx.fails⟩

/-- A value hinges on whatever holds. -/
theorem given {a : α} (h : P) : Hinges P (.ok a : Except Fault α) :=
  ok.congr (iff_of_true trivial h)

/-- What comes second hinges on what comes first. -/
theorem bind {x : Except Fault α} {f : α → Except Fault β} {R : α → Prop} (hx : Hinges P x)
    (hf : ∀ a, x = .ok a → Hinges (R a) (f a)) : Hinges (P ∧ ∀ a, x = .ok a → R a) (x >>= f) where
  returns := by
    rw [← hx.returns]
    constructor
    · rintro ⟨b, h⟩
      obtain ⟨a, ha, hb⟩ := Play.except_bind_ok.1 h
      refine ⟨⟨a, ha⟩, fun a' ha' => ?_⟩
      obtain rfl := Except.ok.inj (ha.symm.trans ha')
      exact (hf a ha).returns.1 ⟨b, hb⟩
    · rintro ⟨⟨a, ha⟩, h⟩
      obtain ⟨b, hb⟩ := (hf a ha).returns.2 (h a ha)
      exact ⟨b, Play.except_bind_ok.2 ⟨a, ha, hb⟩⟩
  fails := hx.fails.bind fun a ha => (hf a ha).fails

/-- Both parts return, or one fails. -/
theorem both {x : Except Fault α} {f : α → Except Fault β} (hx : Hinges P x)
    (hf : ∀ a, x = .ok a → Hinges Q (f a)) : Hinges (P ∧ Q) (x >>= f) :=
  (hx.bind hf).congr ⟨fun h => ⟨h.1, by
    obtain ⟨a, ha⟩ := hx.returns.2 h.1
    exact h.2 a ha⟩, fun h => ⟨h.1, fun _ _ => h.2⟩⟩

/-- What comes second returns. -/
theorem before {x : Except Fault α} {f : α → Except Fault β} (hx : Hinges P x)
    (hf : ∀ a, x = .ok a → Hinges True (f a)) : Hinges P (x >>= f) :=
  (hx.both hf).congr (and_iff_left trivial)

theorem andThen {x : Except Fault α} {g : α → β} (hx : Hinges P x) :
    Hinges P (x >>= fun a => pure (g a)) := hx.before fun _ _ => ok

/-- What comes first returns. -/
theorem after {x : Except Fault α} {a : α} {f : α → Except Fault β} (hx : x = .ok a)
    (hf : Hinges P (f a)) : Hinges P (x >>= f) := by
  rw [hx]
  exact hf

theorem map {x : Except Fault α} {g : α → β} (hx : Hinges P x) : Hinges P (x.map g) where
  returns := by
    rw [← hx.returns]
    cases x <;> simp [Except.map]
  fails := hx.fails.map

theorem mapM {f : α → Except Fault β} {R : α → Prop} : ∀ {xs : List α},
    (∀ x ∈ xs, Hinges (R x) (f x)) → Hinges (∀ x ∈ xs, R x) (xs.mapM f)
  | [], _ => given (List.forall_mem_nil _)
  | x :: xs, hf => by
    rw [List.mapM_cons, List.forall_mem_cons]
    exact (hf x List.mem_cons_self).both fun _ _ =>
      (mapM fun y hy => hf y (List.mem_cons_of_mem x hy)).andThen

theorem mapOption {f : α → Except Fault β} {R : α → Prop} : ∀ {o : Option α},
    (∀ a, o = some a → Hinges (R a) (f a)) → Hinges (∀ a, o = some a → R a) (o.mapM f)
  | none, _ => given fun _ h => (Option.some_ne_none _ h.symm).elim
  | some a, hf =>
    (hf a rfl).andThen.congr ⟨fun h _ ha => Option.some.inj ha ▸ h, fun h => h a rfl⟩

end Hinges

/-! ### Numbers -/

theorem readCount_hinges (ds : List Char) : Hinges (ds.length ≤ figureLimit) (readCount ds) := by
  rw [readCount, ← ite_not]
  exact (Hinges.ite rfl).congr Nat.not_lt

/-- Whether figures and points write a decimal number: one point at most, and a figure. -/
def isDecimal (cs : List Char) : Bool :=
  cs.all (fun c => Text.isDigit c || c == '.') && decide (cs.count '.' ≤ 1) && cs.any Text.isDigit

theorem isDigit_point : Text.isDigit '.' = false := by decide

theorem count_point {cs : List Char} (h : ∀ c ∈ cs, Text.isDigit c = true) : cs.count '.' = 0 := by
  refine List.count_eq_zero.2 fun hmem => ?_
  have hpoint := h '.' hmem
  rw [isDigit_point] at hpoint
  cases hpoint

/-- Figures alone write a decimal number, unless there are none. -/
theorem isDecimal_figures {cs : List Char} (h : ∀ c ∈ cs, Text.isDigit c = true) :
    isDecimal cs = true ↔ cs ≠ [] := by
  have hall : cs.all (fun c => Text.isDigit c || c == '.') = true :=
    List.all_eq_true.2 fun c hc => by rw [h c hc, Bool.true_or]
  rw [isDecimal, hall, count_point h]
  cases cs with
  | nil => decide
  | cons c cs => simp [h c List.mem_cons_self]

/-- A point among figures is followed by figures, and there is a figure on one of its sides. -/
theorem isDecimal_point {whole fraction : List Char} (h : ∀ c ∈ whole, Text.isDigit c = true) :
    isDecimal (whole ++ '.' :: fraction) = true ↔
      fraction.all Text.isDigit = true ∧ (whole ≠ [] ∨ fraction ≠ []) := by
  have hpoints : (whole ++ '.' :: fraction).count '.' ≤ 1 ↔ fraction.count '.' = 0 := by
    rw [List.count_append, count_point h, List.count_cons_self]
    omega
  simp only [isDecimal, Bool.and_eq_true, decide_eq_true_eq, hpoints, List.all_eq_true,
    List.any_eq_true]
  constructor
  · rintro ⟨⟨hall, hnone⟩, c, hc, hdigit⟩
    refine ⟨fun c' hc' => ?_, ?_⟩
    · have hne : c' ≠ '.' := fun heq => List.count_eq_zero.1 hnone (heq ▸ hc')
      simpa [hne] using hall c' (by simp [hc'])
    · by_contra hnone
      obtain ⟨rfl, rfl⟩ : whole = [] ∧ fraction = [] := by simpa using hnone
      rw [List.mem_singleton.1 hc, isDigit_point] at hdigit
      cases hdigit
  · rintro ⟨hall, hsome⟩
    refine ⟨⟨fun c hc => ?_, count_point hall⟩, ?_⟩
    · rcases List.mem_append.1 hc with hc | hc
      · rw [h c hc, Bool.true_or]
      · rcases List.mem_cons.1 hc with rfl | hc
        · rfl
        · rw [hall c hc, Bool.true_or]
    · cases whole with
      | cons c whole => exact ⟨c, by simp, h c List.mem_cons_self⟩
      | nil =>
        obtain ⟨c, rest, rfl⟩ := List.exists_cons_of_ne_nil (hsome.resolve_left fun h => h rfl)
        exact ⟨c, by simp, hall c List.mem_cons_self⟩

theorem isDecimal_other {c : Char} {cs : List Char} (hmem : c ∈ cs)
    (h : (Text.isDigit c || c == '.') = false) : isDecimal cs = false := by
  have hall : cs.all (fun c => Text.isDigit c || c == '.') = false :=
    List.all_eq_false.2 ⟨c, hmem, by rw [h]; exact Bool.false_ne_true⟩
  rw [isDecimal, hall, Bool.false_and, Bool.false_and]

theorem readDecimal_hinges (cs : List Char) : Hinges (isDecimal cs = true) (readDecimal cs) := by
  have hwhole : ∀ c ∈ cs.takeWhile Text.isDigit, Text.isDigit c = true := fun c hc =>
    List.mem_takeWhile_imp hc
  have hcs := List.takeWhile_append_dropWhile (p := Text.isDigit) (l := cs)
  have hhead : ∀ c rest, cs.dropWhile Text.isDigit = c :: rest → Text.isDigit c = false := by
    intro c rest h
    have hhead := List.head_dropWhile_not Text.isDigit (l := cs) (by simp [h])
    simpa [h] using hhead
  refine (Hinges.ite rfl).congr ?_
  generalize cs.takeWhile Text.isDigit = whole at *
  generalize cs.dropWhile Text.isDigit = rest at *
  subst hcs
  match rest with
  | [] =>
    rw [List.append_nil, isDecimal_figures hwhole]
    simp
  | c :: fraction =>
    by_cases hc : c = '.'
    · subst hc
      rw [isDecimal_point hwhole]
      simp
    · have hother : (Text.isDigit c || c == '.') = false := by simp [hhead c fraction rfl, hc]
      rw [isDecimal_other (by simp) hother]
      simp [hc]

theorem hundredth_hinges (n : Nat) : Hinges
    (∀ negative, Double.ofRatio false n 100 ≠ .infinite negative)
    (Quantity.ratio (.whole n) (.whole 100)) := by
  have hsign : (decide ((n : Int) < 0) != decide ((100 : Int) < 0)) = false := by simp
  have hhundred : (100 : Int).natAbs = 100 := rfl
  unfold Quantity.ratio
  dsimp only
  rw [hsign, Int.natAbs_natCast, hhundred]
  cases Double.ofRatio false n 100 with
  | infinite negative => exact (Hinges.error rfl).congr (iff_of_false id fun h => h negative rfl)
  | finite _ _ _ =>
    refine Hinges.given fun _ h => ?_
    cases h
  | notANumber =>
    refine Hinges.given fun _ h => ?_
    cases h

namespace Wording

theorem repeated_hinges (times : Nat) (e : Effect) :
    Hinges (times ≤ listLimit) (repeated times e) := by
  have hlimits : listLimit ≤ countLimit := Nat.div_le_self _ _
  unfold repeated
  split
  · next h =>
    exact (Hinges.error rfl).congr (iff_of_false id fun hle => absurd h (by omega))
  · rw [← ite_not]
    exact (Hinges.ite rfl).congr Nat.not_lt

/-! ### What a phrase has kept -/

/-- Whether a part says a whole number. -/
def Slot.isWhole : Slot → Bool
  | .amount | .times | .turns => true
  | .factor | .content => false

/-- Whether the text of a part can be read as what the part says. -/
def Slot.legible : Slot → List Char → Bool
  | .content, _ => true
  | .factor, cs => isDecimal cs
  | .amount, ds | .times, ds | .turns, ds => decide (ds.length ≤ figureLimit)

theorem Slot.legible_whole {slot : Slot} (h : slot.isWhole = true) (ds : List Char) :
    slot.legible ds = true ↔ ds.length ≤ figureLimit := by
  cases slot <;> first
    | exact decide_eq_true_iff
    | cases h

namespace Found

/-- The part can be read, if the phrase has it. -/
def LegibleAt (f : Found) (slot : Slot) : Prop :=
  ∀ text, f.text? slot = some text → slot.legible text = true

/-- Every part of the phrase can be read. -/
def Legible (f : Found) : Prop := ∀ slot, f.LegibleAt slot

variable {f : Found}

/-- Parts that the phrase does not have can be read. -/
theorem legible_iff {slots : List Slot} (h : ∀ s ∈ f, s.1 ∈ slots) :
    f.Legible ↔ ∀ slot ∈ slots, f.LegibleAt slot := by
  refine ⟨fun hf slot _ => hf slot, fun hf slot text htext => ?_⟩
  have hsome : (List.lookup slot f).isSome = true := Option.isSome_iff_exists.2 ⟨text, htext⟩
  obtain ⟨s, hs, hslot⟩ := List.lookup_isSome_iff.1 hsome
  obtain rfl := beq_iff_eq.1 hslot
  exact hf s.1 (h s hs) text htext

theorem legibleAt_of_none {slot : Slot} (h : f.text? slot = none) : f.LegibleAt slot :=
  fun text htext => by
    rw [h] at htext
    cases htext

theorem legibleAt_of_some {slot : Slot} {text : List Char} (h : f.text? slot = some text) :
    f.LegibleAt slot ↔ slot.legible text = true := by
  refine ⟨fun hf => hf text h, fun hf text' h' => ?_⟩
  obtain rfl := Option.some.inj (h.symm.trans h')
  exact hf

theorem legibleAt_content : f.LegibleAt .content := fun _ _ => rfl

theorem count_hinges {slot : Slot} (hslot : slot.isWhole = true) :
    Hinges (f.LegibleAt slot) (f.count slot) := by
  rw [count, text]
  refine (readCount_hinges _).congr ?_
  cases h : f.text? slot with
  | none => exact iff_of_true (Nat.zero_le _) (legibleAt_of_none h)
  | some ds => rw [legibleAt_of_some h, Slot.legible_whole hslot, Option.getD_some]

theorem count?_hinges {slot : Slot} (hslot : slot.isWhole = true) :
    Hinges (f.LegibleAt slot) (f.count? slot) := by
  unfold count?
  cases h : f.text? slot with
  | none => exact Hinges.given (legibleAt_of_none h)
  | some ds =>
    rw [legibleAt_of_some h, Slot.legible_whole hslot]
    exact (readCount_hinges ds).map

/-- A legible part says the number that its figures write. -/
theorem count_eq {slot : Slot} (hslot : slot.isWhole = true) (h : f.LegibleAt slot) :
    f.count slot = .ok (Text.digitsValue (f.text slot)) := by
  rw [count, text]
  cases htext : f.text? slot with
  | none => rfl
  | some ds => exact readCount_eq_ok ((Slot.legible_whole hslot ds).1 (h ds htext))

theorem count?_eq {slot : Slot} (hslot : slot.isWhole = true) (h : f.LegibleAt slot) :
    f.count? slot = .ok ((f.text? slot).map Text.digitsValue) := by
  unfold count?
  cases htext : f.text? slot with
  | none => rfl
  | some ds =>
    dsimp only
    rw [readCount_eq_ok ((Slot.legible_whole hslot ds).1 (h ds htext))]
    rfl

theorem decimal?_hinges : Hinges (f.LegibleAt .factor) (f.decimal? .factor) := by
  unfold decimal?
  cases h : f.text? .factor with
  | none => exact Hinges.given (legibleAt_of_none h)
  | some cs =>
    rw [legibleAt_of_some h]
    exact (readDecimal_hinges cs).map

end Found

namespace Pattern

/-- The parts that a phrase keeps. -/
def slots : Pattern → List Slot
  | word _ | oneOf _ | run _ | upTo _ => []
  | maybe p => p.slots
  | seq p q => p.slots ++ q.slots
  | named slot p => slot :: p.slots

/-- A phrase keeps no other parts. -/
theorem mem_slots {p : Pattern} : ∀ {cs rest : List Char} {found : Found},
    p.read cs = some (found, rest) → ∀ s ∈ found, s.1 ∈ p.slots := by
  induction p with
  | word s =>
    intro cs rest found h
    simp only [read, Option.map_eq_some_iff, Prod.mk.injEq] at h
    obtain ⟨_, _, rfl, _⟩ := h
    exact List.forall_mem_nil _
  | oneOf words =>
    intro cs rest found h
    simp only [read, Option.map_eq_some_iff, Prod.mk.injEq] at h
    obtain ⟨_, _, rfl, _⟩ := h
    exact List.forall_mem_nil _
  | run p =>
    intro cs rest found h
    simp only [read] at h
    split at h
    · cases h
    · obtain ⟨rfl, _⟩ := Prod.mk.inj (Option.some.inj h)
      exact List.forall_mem_nil _
  | upTo s =>
    intro cs rest found h
    simp only [read] at h
    split at h
    · split at h
      · cases h
      · obtain ⟨rfl, _⟩ := Prod.mk.inj (Option.some.inj h)
        exact List.forall_mem_nil _
    · cases h
  | maybe p ih =>
    intro cs rest found h
    simp only [read, Option.some.injEq] at h
    cases hread : read p cs with
    | none =>
      rw [hread] at h
      obtain ⟨rfl, _⟩ := Prod.mk.inj h
      exact List.forall_mem_nil _
    | some r =>
      rw [hread, Option.getD_some] at h
      exact ih (h ▸ hread)
  | seq p q ihp ihq =>
    intro cs rest found h
    change read (p ++ q) cs = _ at h
    simp only [read_append, Option.bind_eq_some_iff, Option.map_eq_some_iff, Prod.mk.injEq] at h
    obtain ⟨⟨first, mid⟩, hfirst, ⟨second, _⟩, hsecond, rfl, _⟩ := h
    intro s hs
    rcases List.mem_append.1 hs with hs | hs
    · exact List.mem_append_left _ (ihp hfirst s hs)
    · exact List.mem_append_right _ (ihq hsecond s hs)
  | named slot p ih =>
    intro cs rest found h
    obtain ⟨text, inner, hinner, rfl, _⟩ := read_named h
    exact List.forall_mem_cons.2 ⟨List.mem_cons_self, fun s hs =>
      List.mem_cons_of_mem slot (ih hinner s hs)⟩

end Pattern

/-! ### Rules -/

namespace Rule

variable {α : Type}

/-- Whether the rule can be applied hinges on a need of what its phrase has kept. -/
def Needs (r : Rule α) (need : Found → Prop) : Prop :=
  ∀ f, (∀ s ∈ f, s.1 ∈ r.pattern.slots) → Hinges (need f) (r.meaning f)

/-- What the phrase of the first rule that covers a text has kept. -/
def found? (rules : List (Rule α)) (cs : List Char) : Option Found :=
  rules.findSome? fun r => r.pattern.covers? cs

theorem slots_of_covers? {r : Rule α} {cs : List Char} {f : Found}
    (h : r.pattern.covers? cs = some f) : ∀ s ∈ f, s.1 ∈ r.pattern.slots := by
  obtain ⟨_, hread, _⟩ := Pattern.read_of_covers? h
  exact Pattern.mem_slots hread

/-- The first rule that covers a text hinges on what its phrase has kept. -/
theorem first?_hinges {need : Found → Prop} (cs : List Char) : ∀ {rules : List (Rule α)},
    (∀ r ∈ rules, r.Needs need) →
    match first? rules cs with
    | none => found? rules cs = none
    | some meaning => ∃ f, found? rules cs = some f ∧ Hinges (need f) meaning
  | [], _ => rfl
  | r :: rules, h => by
    unfold first? found?
    rw [List.findSome?_cons, List.findSome?_cons]
    cases hcovers : r.pattern.covers? cs with
    | none => exact first?_hinges cs fun r' hr' => h r' (List.mem_cons_of_mem r hr')
    | some f => exact ⟨f, rfl, h r List.mem_cons_self f (slots_of_covers? hcovers)⟩

end Rule

theorem single_hinges {pattern : Pattern} {meaning : Found → Except Fault Operation} {f : Found}
    {P : Prop} (h : Hinges P (meaning f)) : Hinges P ((single pattern meaning).meaning f) :=
  h.andThen

theorem constant_needs {pattern : Pattern} {op : Operation} (h : pattern.slots = []) :
    (constant pattern op).Needs Found.Legible := by
  intro f hf
  have hlegible : f.Legible := (Found.legible_iff (h ▸ hf)).2 fun _ hslot =>
    absurd hslot List.not_mem_nil
  exact single_hinges (Hinges.given hlegible)

/-- A rule that reads an amount and nothing else. -/
theorem amount_needs {pattern : Pattern} {op : Nat → Operation} (h : pattern.slots = [.amount]) :
    (single pattern fun f => do return op (← f.count .amount)).Needs Found.Legible := by
  intro f hf
  rw [Found.legible_iff (h ▸ hf), List.forall_mem_singleton]
  exact single_hinges (Found.count_hinges rfl).andThen

theorem lastingRule_needs {pattern : Pattern} {kind : EffectKind} {lasting : Option Nat → Datum}
    (h : pattern.slots = [.amount]) : (lastingRule pattern kind lasting).Needs Found.Legible := by
  intro f hf
  have hslots : (pattern ++ turnsNote).slots = [.amount, .turns] := by
    show pattern.slots ++ turnsNote.slots = _
    rw [h]
    rfl
  rw [Found.legible_iff (hslots ▸ hf), List.forall_mem_cons, List.forall_mem_singleton]
  exact single_hinges ((Found.count_hinges rfl).both fun _ _ => (Found.count?_hinges rfl).andThen)

theorem poolRules_need : ∀ r ∈ poolRules, r.Needs Found.Legible := by
  have hfactor : multiplyImpressionRule.Needs Found.Legible := by
    intro f hf
    have hslots : multiplyImpressionRule.pattern.slots = [.factor] := rfl
    rw [Found.legible_iff (hslots ▸ hf), List.forall_mem_singleton]
    exact single_hinges Found.decimal?_hinges.andThen
  simp only [poolRules, List.forall_mem_cons]
  exact ⟨amount_needs rfl, amount_needs rfl, amount_needs rfl, amount_needs rfl, hfactor,
    constant_needs rfl, amount_needs rfl, amount_needs rfl, amount_needs rfl, amount_needs rfl,
    List.forall_mem_nil _⟩

theorem buffRules_need : ∀ r ∈ buffRules, r.Needs Found.Legible := by
  have himmunity : immunityRule.Needs Found.Legible := by
    intro f hf
    have hslots : immunityRule.pattern.slots = [.times] := rfl
    rw [Found.legible_iff (hslots ▸ hf), List.forall_mem_singleton]
    exact single_hinges (Found.count?_hinges rfl).andThen
  simp only [buffRules, List.cons_append, List.nil_append, basePools, List.map_cons, List.map_nil,
    List.forall_mem_cons]
  exact ⟨amount_needs rfl, amount_needs rfl, amount_needs rfl, amount_needs rfl, amount_needs rfl,
    lastingRule_needs rfl, amount_needs rfl, himmunity, lastingRule_needs rfl,
    lastingRule_needs rfl, amount_needs rfl, amount_needs rfl, amount_needs rfl,
    List.forall_mem_nil _⟩

theorem cardRules_need : ∀ r ∈ cardRules, r.Needs Found.Legible := by
  have hfree : freeUseRule.Needs Found.Legible := by
    intro f hf
    have hslots : freeUseRule.pattern.slots = [.content, .amount] := rfl
    rw [Found.legible_iff (hslots ▸ hf), List.forall_mem_cons, List.forall_mem_singleton,
      and_iff_right Found.legibleAt_content]
    exact single_hinges (Found.count_hinges rfl).andThen
  have hdraw : drawRule.Needs Found.Legible := by
    intro f hf
    have hslots : drawRule.pattern.slots = [.amount] := rfl
    rw [Found.legible_iff (hslots ▸ hf), List.forall_mem_singleton]
    exact single_hinges (Found.count?_hinges rfl).andThen
  have htrouble : troubleRule.Needs Found.Legible := by
    intro f hf
    have hslots : troubleRule.pattern.slots = [.content] := rfl
    rw [Found.legible_iff (hslots ▸ hf), List.forall_mem_singleton]
    exact single_hinges (Hinges.given Found.legibleAt_content)
  simp only [cardRules, List.forall_mem_cons]
  exact ⟨amount_needs rfl, hdraw, constant_needs rfl, constant_needs rfl, hfree, htrouble,
    List.forall_mem_nil _⟩

theorem courseRules_need : ∀ r ∈ courseRules, r.Needs Found.Legible := by
  simp only [courseRules, List.forall_mem_cons]
  exact ⟨amount_needs rfl, constant_needs rfl, List.forall_mem_nil _⟩

/-- The score is not repeated more often than a list has items. -/
def Found.Repeatable (f : Found) : Prop :=
  ∀ ds, f.text? .times = some ds → Text.digitsValue ds ≤ listLimit

theorem Found.repeatable_iff {f : Found} :
    ((f.text? .times).map Text.digitsValue).getD 1 ≤ listLimit ↔ f.Repeatable := by
  unfold Repeatable
  cases f.text? .times with
  | none => exact iff_of_true (by decide) fun _ h => (Option.some_ne_none _ h.symm).elim
  | some ds => simp

theorem fixedScoreRule_needs : fixedScoreRule.Needs fun f => f.Legible ∧ f.Repeatable := by
  intro f hf
  have hslots : fixedScoreRule.pattern.slots = [.amount, .factor, .times] := rfl
  refine (Found.decimal?_hinges.both fun _ _ => (Found.count?_hinges rfl).bind fun times _ =>
    (Found.count_hinges rfl).both fun _ _ => repeated_hinges (times.getD 1) _).congr ?_
  change _ ↔ f.Legible ∧ f.Repeatable
  rw [Found.legible_iff (hslots ▸ hf), List.forall_mem_cons, List.forall_mem_cons,
    List.forall_mem_singleton, ← Found.repeatable_iff]
  constructor
  · rintro ⟨hfactor, htimes, h⟩
    obtain ⟨hamount, hfew⟩ := h _ (Found.count?_eq rfl htimes)
    exact ⟨⟨hamount, hfactor, htimes⟩, hfew⟩
  · rintro ⟨⟨hamount, hfactor, htimes⟩, hfew⟩
    refine ⟨hfactor, htimes, fun times h => ⟨hamount, ?_⟩⟩
    obtain rfl := Except.ok.inj ((Found.count?_eq rfl htimes).symm.trans h)
    exact hfew

/-- The percentages that clauses scale a score by. -/
def scaledRules : List (Rule (List Effect)) :=
  scalePools.map fun (pool, kind) => scaledScoreRule pool kind

/-- A double holds the hundredth of the percentage. -/
def Found.Scalable (f : Found) : Prop :=
  ∀ negative, Double.ofRatio false (Text.digitsValue (f.text .amount)) 100 ≠ .infinite negative

theorem scaledRule_needs (pool : String) (kind : EffectKind) :
    (scaledScoreRule pool kind).Needs fun f => f.Legible ∧ f.Scalable := by
  intro f hf
  have hslots : (scaledScoreRule pool kind).pattern.slots = [.amount] := rfl
  refine (single_hinges ((Found.count_hinges rfl).bind fun n _ =>
    (hundredth_hinges n).andThen)).congr ?_
  change _ ↔ f.Legible ∧ f.Scalable
  rw [Found.legible_iff (hslots ▸ hf), List.forall_mem_singleton]
  refine and_congr_right fun hamount => ?_
  rw [Found.count_eq rfl hamount]
  constructor
  · intro h
    exact h _ rfl
  · rintro h _ ⟨⟩
    exact h

theorem scaledRules_need : ∀ r ∈ scaledRules, r.Needs fun f => f.Legible ∧ f.Scalable := by
  intro r hr
  obtain ⟨⟨pool, kind⟩, _, rfl⟩ := List.mem_map.1 hr
  exact scaledRule_needs pool kind

/-- The rules of all other clauses. -/
def plainRules : List (Rule (List Effect)) := poolRules ++ buffRules ++ cardRules ++ courseRules

theorem effectRules_eq : effectRules = fixedScoreRule :: (scaledRules ++ plainRules) := rfl

theorem plainRules_need : ∀ r ∈ plainRules, r.Needs Found.Legible := by
  simp only [plainRules, List.forall_mem_append]
  exact ⟨⟨⟨poolRules_need, buffRules_need⟩, cardRules_need⟩, courseRules_need⟩

theorem condition_needs {pattern : Pattern} {condition : Nat → Condition}
    (h : pattern.slots = [.amount]) :
    Rule.Needs ⟨pattern, fun f => do return condition (← f.count .amount)⟩ Found.Legible := by
  intro f hf
  rw [Found.legible_iff (h ▸ hf), List.forall_mem_singleton]
  exact (Found.count_hinges rfl).andThen

theorem usageRules_need : ∀ r ∈ usageRules, r.Needs Found.Legible := by
  intro r hr
  obtain ⟨_, _, rfl⟩ := List.mem_map.1 hr
  exact condition_needs rfl

theorem gateRules_need : ∀ r ∈ gateRules, r.Needs Found.Legible := by
  have hstates : ∀ r ∈ stateGates, r.Needs Found.Legible := by
    intro r hr f hf
    obtain ⟨_, _, rfl⟩ := List.mem_map.1 hr
    have hlegible : f.Legible := (Found.legible_iff hf).2 fun _ hslot =>
      absurd hslot List.not_mem_nil
    exact Hinges.given hlegible
  have hrarities : ∀ r ∈ rarityGates, r.Needs Found.Legible := by
    intro r hr f hf
    obtain ⟨rarity, _, rfl⟩ := List.mem_map.1 hr
    have hslots : ∀ s ∈ f, s.1 ∈ [Slot.amount] := hf
    rw [Found.legible_iff hslots, List.forall_mem_singleton]
    exact (Found.count_hinges rfl).andThen.andThen
  simp only [gateRules, List.forall_mem_append]
  refine ⟨⟨⟨fun r hr => ?_, ?_⟩, hrarities⟩, hstates⟩
  · obtain ⟨_, _, rfl⟩ := List.mem_map.1 hr
    exact condition_needs rfl
  · simp only [List.forall_mem_cons]
    exact ⟨condition_needs rfl, condition_needs rfl, List.forall_mem_nil _⟩

end Wording
end CardLesson
