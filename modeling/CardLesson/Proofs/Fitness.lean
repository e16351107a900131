/-
# What rules can work with

The rules of a lesson work with numbers, texts and keys, but a field of a card may hold any datum. A
check of a roster looks at durations and counts of effects that it knows. `Card.fit` is about all
else that a rule may ask for: ids and names that are texts, amounts that are numbers from zero on,
kinds that can be looked up, values that conditions can compare. What passes both is usable, and
whatever a lesson makes of usable cards is usable again.

Effects inside an effect of an unknown kind are never carried out, and a check does not look at
them; so neither does `Effect.live`.

Key definitions: `Datum.isNumber`, `Datum.notBelow`, `Effect.live`, `Operation.inRange`,
`Operation.fit`, `Card.fit`, `usable`.
Key theorems: `Effect.live_iff`, `Effect.live_of`, `usable_handedOn`.
-/
import CardLesson.Proofs.Amounts
import CardLesson.Roster

namespace CardLesson

/-! ### Data that rules can work with -/

namespace Datum

/-- Whether the datum is a number to calculate with. -/
def isNumber (d : Datum) : Bool := d.number?.isSome

/-- Whether the datum is a double. -/
def isReal (d : Datum) : Bool :=
  match d.number? with
  | some (.real _) => true
  | _ => false

/-- Whether a check finds the datum missing, or a number that is not below a bound. -/
def notBelow (d : Datum) (bound : Int) : Bool :=
  match isBelow d bound with
  | .ok below => !below
  | .error _ => false

variable {d default : Datum} {bound : Int}

theorem isKey_of_isText (h : d.isText = true) : d.isKey = true := by
  cases d <;> first
    | rfl
    | cases h

theorem isNumber_of_isAmount (h : d.isAmount = true) : d.isNull = true ∨ d.isNumber = true := by
  unfold isAmount at h
  unfold isNumber
  cases hn : d.number? with
  | none =>
    rw [hn] at h
    exact .inl h
  | some q => exact .inr rfl

/-- What is given and not below a bound is a number. -/
theorem isNumber_of_notBelow (h : d.notBelow bound = true) :
    d.isNull = true ∨ d.isNumber = true := by
  cases hnull : d.isNull with
  | true => exact .inl rfl
  | false =>
    right
    unfold notBelow isBelow at h
    rw [hnull, if_neg Bool.false_ne_true] at h
    cases d with
    | number q => rfl
    | truth b => rfl
    | null => cases hnull
    | text s => cases h
    | list items => cases h
    | object members => cases h

theorem not_lt_of_notBelow {q : Quantity} (h : d.notBelow bound = true) (hq : d.number? = some q) :
    q.lt (.whole bound) = false := by
  cases d with
  | number p =>
    cases hq
    exact Bool.not_eq_true' _ ▸ h
  | truth b =>
    cases hq
    exact Bool.not_eq_true' _ ▸ h
  | null => cases hq
  | text s => cases hq
  | list items => cases hq
  | object members => cases hq

theorem given_isNumber (hd : d.isNull = true ∨ d.isNumber = true)
    (hdefault : default.isNumber = true) : (d.given default).isNumber = true := by
  unfold given
  split
  · exact hdefault
  · next hnull => exact hd.resolve_left hnull

theorem orElse_isNumber (hd : d.isNull = true ∨ d.isNumber = true)
    (hdefault : default.isNumber = true) : (d.orElse default).isNumber = true := by
  unfold orElse
  split
  · next hholds =>
    refine hd.resolve_left fun hnull => ?_
    cases d with
    | null => cases hholds
    | _ => cases hnull
  · exact hdefault

end Datum

/-! ### Effects that can be carried out -/

namespace Effect

mutual

/-- Whether the operations of an effect and of all effects inside it that can be carried out pass a
test; inside an effect of an unknown kind none can. -/
def live (p : Operation → Bool) : Effect → Bool
  | ⟨op, subs, triggered⟩ =>
    p op && match op.kind with
      | .known _ => liveAll p subs && liveIn p triggered
      | .unknown _ => true
termination_by structural e => e

def liveAll (p : Operation → Bool) : List Effect → Bool
  | [] => true
  | e :: es => e.live p && liveAll p es
termination_by structural es => es

def liveIn (p : Operation → Bool) : Option Effect → Bool
  | none => true
  | some e => e.live p
termination_by structural e => e

end

variable {p q r : Operation → Bool}

theorem liveAll_iff {es : List Effect} : liveAll p es = true ↔ ∀ e ∈ es, e.live p = true := by
  induction es with
  | nil => simp [liveAll]
  | cons e es ih => simp [liveAll, ih]

theorem liveIn_iff : ∀ {o : Option Effect}, liveIn p o = true ↔ ∀ e, o = some e → e.live p = true
  | none => by simp [liveIn]
  | some e => by simp [liveIn]

theorem live_iff {e : Effect} : e.live p = true ↔ p e.operation = true ∧
    ∀ k, e.operation.kind = .known k →
      (∀ s ∈ e.subEffects, s.live p = true) ∧ ∀ t, e.triggered = some t → t.live p = true := by
  obtain ⟨op, subs, triggered⟩ := e
  rw [live, Bool.and_eq_true]
  cases hk : op.kind with
  | known k => simp [liveAll_iff, liveIn_iff]
  | unknown raw => simp

mutual

/-- What all operations pass and what those that can be carried out pass, taken together. -/
theorem live_of (hr : ∀ op, p op = true → q op = true → r op = true) : ∀ e : Effect,
    e.every p = true → e.live q = true → e.live r = true
  | ⟨op, subs, triggered⟩, hp, hq => by
    rw [every, Bool.and_eq_true, Bool.and_eq_true] at hp
    rw [live, Bool.and_eq_true] at hq ⊢
    refine ⟨hr op hp.1.1 hq.1, ?_⟩
    have hinside := hq.2
    cases hk : op.kind with
    | unknown raw => rfl
    | known k =>
      rw [hk] at hinside
      have hinside := Bool.and_eq_true_iff.1 hinside
      exact Bool.and_eq_true_iff.2
        ⟨liveAll_of hr subs hp.1.2 hinside.1, liveIn_of hr triggered hp.2 hinside.2⟩
termination_by structural e => e

theorem liveAll_of (hr : ∀ op, p op = true → q op = true → r op = true) : ∀ es : List Effect,
    everyOf p es = true → liveAll q es = true → liveAll r es = true
  | [], _, _ => rfl
  | e :: es, hp, hq => by
    rw [everyOf, Bool.and_eq_true] at hp
    rw [liveAll, Bool.and_eq_true] at hq ⊢
    exact ⟨live_of hr e hp.1 hq.1, liveAll_of hr es hp.2 hq.2⟩
termination_by structural es => es

theorem liveIn_of (hr : ∀ op, p op = true → q op = true → r op = true) : ∀ o : Option Effect,
    everyIn p o = true → liveIn q o = true → liveIn r o = true
  | none, _, _ => rfl
  | some e, hp, hq => live_of hr e hp hq
termination_by structural o => o

end

end Effect

/-! ### Usable cards -/

/-- Whether a kind can be looked up. -/
def Tag.isKey {α : Type} : Tag α → Bool
  | .known _ => true
  | .unknown raw => raw.isKey

/-- Whether a condition can be looked at: its kind can be looked up and, unless it asks for
equality, its value is a number. A condition of an unknown kind compares nothing. -/
def Condition.fit (c : Condition) : Bool :=
  match c.kind with
  | .known _ => c.compare == .equal || c.value.isNumber
  | .unknown raw => raw.isKey

namespace Operation

/-- Whether the turns and the uses of an operation are such as a check lets through; a check does
not look at operations of unknown kinds. -/
def inRange (op : Operation) : Bool :=
  match op.kind with
  | .known _ => op.duration.notBelow (-1) && op.count.notBelow 0
  | .unknown _ => true

/-- Whether all else about an operation is such as rules can work with: amounts are not below zero,
kinds can be looked up, conditions can be looked at, a trouble card is named by a text, and cards
are not triggered by fractions. -/
def fit (op : Operation) : Bool :=
  generous op && op.kind.isKey && op.conditions.all Condition.fit &&
    op.triggerCondition.all Condition.fit && (!op.troubleId.holds || op.troubleId.isText) &&
    !(op.kind.is .triggerRandomHandCard && op.count.isReal)

/-- What the rules ask of an operation that is fit. -/
structure Fit (op : Operation) : Prop where
  generous : generous op = true
  kind : op.kind.isKey = true
  conditions : ∀ c ∈ op.conditions, c.fit = true
  triggerCondition : ∀ c, op.triggerCondition = some c → c.fit = true
  troubleId : op.troubleId.holds = true → op.troubleId.isText = true
  count : op.kind = .known .triggerRandomHandCard → op.count.isReal = false

theorem fit_iff {op : Operation} : op.fit = true ↔ op.Fit := by
  simp only [fit, Bool.and_eq_true, Bool.or_eq_true, Bool.not_eq_true', List.all_eq_true,
    Option.all_eq_true, Bool.and_eq_false_imp]
  constructor
  · rintro ⟨⟨⟨⟨⟨hamounts, hkind⟩, hconditions⟩, htrigger⟩, hid⟩, hcount⟩
    refine ⟨hamounts, hkind, hconditions, htrigger, fun hholds => ?_, fun hk => ?_⟩
    · refine hid.resolve_left fun hnot => ?_
      rw [hholds] at hnot
      cases hnot
    · refine hcount ?_
      rw [hk]
      rfl
  · intro h
    refine ⟨⟨⟨⟨⟨h.generous, h.kind⟩, h.conditions⟩, h.triggerCondition⟩, ?_⟩, fun hk => ?_⟩
    · cases hholds : op.troubleId.holds with
      | false => exact .inl rfl
      | true => exact .inr (h.troubleId hholds)
    · refine h.count ?_
      unfold Tag.is at hk
      split at hk
      · next k hkind =>
        rw [hkind, beq_iff_eq.1 hk]
      · cases hk

/-- Whether rules can work with an operation. -/
def usable (op : Operation) : Bool := op.fit && op.inRange

variable {op : Operation} {default : Datum}

theorem Fit.value (h : op.Fit) (hdefault : default.isNumber = true) :
    (op.value.given default).isNumber = true :=
  Datum.given_isNumber (Datum.isNumber_of_isAmount (generous_iff.1 h.generous).1) hdefault

theorem Fit.ratio (h : op.Fit) (hdefault : default.isNumber = true) :
    (op.ratio.given default).isNumber = true :=
  Datum.given_isNumber (Datum.isNumber_of_isAmount (generous_iff.1 h.generous).2.1) hdefault

theorem Fit.multiplier (h : op.Fit) (hdefault : default.isNumber = true) :
    (op.multiplier.given default).isNumber = true :=
  Datum.given_isNumber (Datum.isNumber_of_isAmount (generous_iff.1 h.generous).2.2) hdefault

theorem usable_iff {k : EffectKind} (hk : op.kind = .known k) : op.usable = true ↔
    op.Fit ∧ op.duration.notBelow (-1) = true ∧ op.count.notBelow 0 = true := by
  rw [usable, inRange, hk, Bool.and_eq_true, Bool.and_eq_true, fit_iff]

/-- How long a buff lasts that a usable operation grants is a number. -/
theorem grantedDuration_isNumber (h : op.duration.notBelow (-1) = true) :
    (grantedDuration op).isNumber = true := by
  have hnumber := Datum.isNumber_of_notBelow h
  unfold grantedDuration
  cases hnull : op.duration.isNull with
  | false =>
    rw [hnull] at hnumber
    simpa using hnumber
  | true =>
    rw [Bool.not_true, if_neg Bool.false_ne_true]
    split <;> rfl

end Operation

/-- Whether a card is such as rules can work with, apart from what a check looks at. -/
def Card.fit (c : Card) : Bool := c.id.isText && c.name.isText && c.every Operation.fit

/-- Rules can work with a card. -/
structure Copy.Usable (x : Copy) : Prop where
  id : x.card.id.isText = true
  name : x.card.name.isText = true
  effects : ∀ e ∈ x.card.effects, e.live Operation.usable = true

/-- Rules can work with a buff. -/
structure Buff.Usable (b : Buff) : Prop where
  value : b.value.isNull = true ∨ b.value.isNumber = true
  duration : b.duration.isNumber = true
  count : b.count.isNull = true ∨ b.count.isNumber = true
  triggerCondition : ∀ c, b.triggerCondition = some c → c.fit = true
  triggered : ∀ e, b.triggered = some e → e.live Operation.usable = true

/-- Rules can work with everything. -/
def usable : Trait where
  effect e := e.live Operation.usable = true
  card := Copy.Usable
  buff := Buff.Usable

/-- An effect that can be carried out, and the effects inside it. -/
theorem live_usable {e : Effect} {k : EffectKind} (h : e.live Operation.usable = true)
    (hk : e.operation.kind = .known k) : e.operation.usable = true ∧
      (∀ s ∈ e.subEffects, s.live Operation.usable = true) ∧
      ∀ t, e.triggered = some t → t.live Operation.usable = true := by
  obtain ⟨hop, hinside⟩ := Effect.live_iff.1 h
  exact ⟨hop, hinside k hk⟩

theorem grantedBuff_usable {e : Effect} {k : EffectKind} (h : e.live Operation.usable = true)
    (hk : e.operation.kind = .known k) (n : Nat) (name : String) :
    (grantedBuff n e.operation k name e.triggered).Usable := by
  obtain ⟨hop, -, htriggered⟩ := live_usable h hk
  obtain ⟨hfit, hduration, hcount⟩ := (Operation.usable_iff hk).1 hop
  exact {
    value := Datum.isNumber_of_isAmount (generous_iff.1 hfit.generous).1
    duration := Operation.grantedDuration_isNumber hduration
    count := Datum.isNumber_of_notBelow hcount
    triggerCondition := hfit.triggerCondition
    triggered := htriggered }

theorem Buff.ComesOf.usable {b b₀ : Buff} (hof : b.ComesOf b₀) (h : b₀.Usable) : b.Usable := by
  obtain ⟨hframe, hduration, hcount⟩ := hof
  refine ⟨?_, ?_, ?_, ?_, ?_⟩
  · rw [hframe]
    exact h.value
  · rcases hduration with heq | ⟨q, heq⟩
    · rw [heq]
      exact h.duration
    · rw [heq]
      rfl
  · rcases hcount with heq | ⟨q, heq⟩
    · rw [heq]
      exact h.count
    · rw [heq]
      exact .inr rfl
  · rw [hframe]
    exact h.triggerCondition
  · rw [hframe]
    exact h.triggered

/-- **Whatever a lesson makes of what is usable is usable.** -/
theorem usable_handedOn : usable.HandedOn where
  ofCard h := h.effects
  ofGate h hk := (live_usable h hk).2.1
  ofBuff h := h.triggered
  made h hk hid _ :=
    have hfit := ((Operation.usable_iff hk).1 (live_usable h hk).1).1
    ⟨rfl, hfit.troubleId hid, fun _ he => absurd he List.not_mem_nil⟩
  granted := grantedBuff_usable
  aged h hof := hof.usable h

end CardLesson
