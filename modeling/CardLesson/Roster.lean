/-
# Checking a roster

A roster is checked before it is used. Errors are what the rules of a lesson cannot do with:
missing names, negative costs, gates without a body, reactive buffs without an effect, durations
and counts out of range, and two cards under one id. Kinds that are not known are only worth a
warning, since a lesson passes over them.

A deck may hold several copies of a card; then only different cards under one id are an error. The
first card under an id is checked, and the others are compared with it.

Key definitions: `Report`, `Report.valid`, `checkEffect`, `checkCard`, `checkRoster`.
Key theorems: `Report.valid_append`.
-/
import CardLesson.Card.Basic
import CardLesson.Number.Arithmetic

namespace CardLesson

/-- Errors and warnings in the order of their discovery. -/
structure Report where
  errors : List String := []
  warnings : List String := []
  deriving DecidableEq, Repr

namespace Report

def valid (r : Report) : Bool := r.errors.isEmpty

def append (r s : Report) : Report := ⟨r.errors ++ s.errors, r.warnings ++ s.warnings⟩

instance : Append Report := ⟨append⟩

def error (line : String) : Report := ⟨[line], []⟩

def warning (line : String) : Report := ⟨[], [line]⟩

/-- A line when something is wrong. -/
def errorIf (wrong : Bool) (line : String) : Report := if wrong then error line else {}

/-- Joins the reports of a list. -/
def join (rs : List Report) : Report := rs.foldr append {}

theorem valid_append (r s : Report) : (r ++ s).valid = (r.valid && s.valid) := by
  show (r.errors ++ s.errors).isEmpty = _
  cases h : r.errors <;> simp [valid, h]

end Report

/-- A condition of an unknown kind always fails. -/
def checkCondition (place : String) (c : Condition) : Report :=
  match c.kind with
  | .known _ => {}
  | .unknown raw =>
    .warning s!"{place}: unknown condition type '{raw.shown}' (always fails)"

/-- Whether a number is given and below a bound. -/
def isBelow (d : Datum) (bound : Int) : Except Fault Bool :=
  if d.isNull then .ok false else Datum.lt d (.whole bound)

/-- The lines about an operation of a known kind. -/
def checkOperation (place : String) (op : Operation) (kind : EffectKind)
    (isEmptyGate lacksEffect : Bool) : Except Fault Report := do
  let gate := Report.errorIf (kind == .conditionGate && isEmptyGate)
    s!"{place}: condition_gate has no sub_effects"
  let reactive := Report.errorIf (kind.isReactive && lacksEffect)
    s!"{place}: {kind.name} has no triggered_effect"
  let duration := Report.errorIf (← isBelow op.duration (-1))
    s!"{place}: {kind.name} has invalid duration {op.duration.shown}"
  let count := Report.errorIf (← isBelow op.count 0)
    s!"{place}: {kind.name} has negative count {op.count.shown}"
  let conditions := Report.join (op.conditions.map (checkCondition place))
  let trigger := match op.triggerCondition with
    | some c => checkCondition place c
    | none => {}
  return gate ++ reactive ++ duration ++ count ++ conditions ++ trigger

mutual

/-- Checks an effect and the effects inside it; inside an effect of an unknown kind nothing is
checked. -/
def checkEffect (place : String) : Effect → Except Fault Report
  | ⟨op, subs, triggered⟩ =>
    match op.kind with
    | .unknown raw =>
      .ok (.warning s!"{place}: unknown effect type '{raw.shown}' (ignored at runtime)")
    | .known kind => do
      let own ← checkOperation place op kind subs.isEmpty triggered.isNone
      let inside ← checkEffects place subs
      let fired ← checkTriggered place triggered
      return own ++ inside ++ fired
termination_by structural e => e

def checkEffects (place : String) : List Effect → Except Fault Report
  | [] => .ok {}
  | e :: rest => do
    let r ← checkEffect place e
    let s ← checkEffects place rest
    return r ++ s
termination_by structural es => es

def checkTriggered (place : String) : Option Effect → Except Fault Report
  | none => .ok {}
  | some e => checkEffect place e
termination_by structural e => e

end

/-- Checks one card. -/
def checkCard (c : Card) : Except Fault Report := do
  let place := s!"Card '{c.id.shown}'"
  let effects ← checkEffects place c.effects
  return Report.errorIf (!c.id.holds) "Card has empty ID" ++
    Report.errorIf (!c.name.holds) s!"{place} has empty name" ++
    Report.errorIf (decide (c.cost < 0)) s!"{place} has negative cost {c.cost}" ++
    effects ++ Report.join (c.conditions.map (checkCondition place)) ++
    (if c.effects.isEmpty && !c.isTrouble then .warning s!"{place} has no effects" else {})

/-- The card with an id among those seen before. -/
def findCard (id : Datum) (seen : List Card) : Option Card := seen.find? fun c => c.id.same id

/-- Checks the rest of a roster after the cards seen before. -/
def checkAfter (allowCopies : Bool) (seen : List Card) : List Card → Except Fault Report
  | [] => .ok {}
  | c :: rest => do
    let id ← c.id.key
    match findCard id seen with
    | some first =>
      let own := if !allowCopies then Report.error s!"Duplicate card id '{id.shown}'"
        else Report.errorIf (!first.same c) s!"Conflicting definitions for card id '{id.shown}'"
      return own ++ (← checkAfter allowCopies seen rest)
    | none =>
      let own ← checkCard c
      return own ++ (← checkAfter allowCopies (seen ++ [c]) rest)

/-- Checks a roster. -/
def checkRoster (cards : List Card) (allowCopies : Bool) : Except Fault Report := do
  let r ← checkAfter allowCopies [] cards
  return if cards.isEmpty then r ++ .warning "No cards defined" else r

/-- A report that is valid, or else its errors as a fault. -/
def Report.orFault (r : Report) : Except Fault Report :=
  if r.valid then .ok r else .error (.invalidRoster r.errors)

end CardLesson
