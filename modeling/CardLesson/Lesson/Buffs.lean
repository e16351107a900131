/-
# Buffs

Granting, absorbing and aging of buffs. A granted buff lasts for a number of turns or uses; the
turn in which it was granted does not count. A debuff is absorbed by an immunity: by one that
counts uses, then by one that counts turns, and last by one that does neither.

Key definitions: `grantBuff`, `spendCount`, `spendDuration`, `absorb`, `tickBuff`, `tickBuffs`.
Key theorems: `tickBuff_indefinite`, `tickBuff_new`.
-/
import CardLesson.Chance.Basic
import CardLesson.Lesson.Resolution
import CardLesson.Lesson.Pile

namespace CardLesson

/-- A number with at least eight figures. -/
def eightFigures (n : Nat) : String :=
  let ds := Nat.toDigits 10 n
  String.ofList (List.replicate (8 - ds.length) '0' ++ ds)

/-- A datum less one. -/
def lessOne (d : Datum) : Except Fault Datum := do
  return .number (← (← d.quantity).sub 1)

/-- Extends the first buff of a kind, and gives the turns it was extended by; none without one. -/
def extendFirst (k : EffectKind) (extra : Datum) : List Buff → Except Fault (Option (List Buff))
  | [] => .ok none
  | b :: rest =>
    if b.is k then do
      let endless ← if b.indefinite then pure true else extra.lt (.whole 0)
      let duration ← if endless then pure (Datum.whole Balance.indefiniteDuration)
        else do pure (Datum.number (← (← b.duration.quantity).add (← extra.quantity)))
      return some ({ b with duration } :: rest)
    else do return (← extendFirst k extra rest).map (b :: ·)

/-- How long a buff lasts that an operation grants: as it says or, when only uses are counted, for
the rest of the lesson. -/
def grantedDuration (op : Operation) : Datum :=
  if !op.duration.isNull then op.duration
  else if !op.count.isNull then .whole Balance.indefiniteDuration
  else .whole Balance.defaultBuffDuration

/-- How long a granted buff lasts, in words. -/
def durationNote (op : Operation) : Except Fault String :=
  let duration := grantedDuration op
  if !op.count.isNull then do
    let uses ← op.count.printed
    return s!"({uses}回)"
  else if duration.same (.whole Balance.indefiniteDuration) then .ok "(rest of lesson)"
  else do
    let turns ← duration.printed
    return s!"({turns}ターン)"

/-- The buff that an effect grants. -/
def grantedBuff (number : Nat) (op : Operation) (k : EffectKind) (name : String)
    (triggered : Option Effect) : Buff :=
  { id := "buff_" ++ eightFigures number
    kind := .known k
    duration := grantedDuration op
    name
    count := op.count
    value := op.value
    ratio := op.ratio
    isNew := true
    triggered
    triggerCondition := op.triggerCondition
    param := op.param
    doubleMotivation := op.doubleMotivation }

/-- Grants a buff, or extends one that only one of is kept. -/
def grantBuff (l : Lesson) (op : Operation) (k : EffectKind) (name : String)
    (triggered : Option Effect) : Play Resolution := do
  let extra := op.duration.given (.whole Balance.defaultBuffDuration)
  let extended ← if k.isExtendable then extendFirst k extra l.buffs else pure none
  match extended with
  | some buffs =>
    let turns ← extra.printed
    return .changed { l with buffs } s!"{name} extended (+{turns} turns)"
  | none =>
    let number ← (Luck.freshNumber : Luck Nat)
    let buff := grantedBuff number op k name triggered
    let note ← durationNote op
    return .changed { l with buffs := l.buffs ++ [buff] } s!"{name} {note}"

/-- Spends one use of the first immunity that has uses left; one without a use left goes. -/
def spendCount : List Buff → Except Fault (Option (List Buff))
  | [] => .ok none
  | b :: rest => do
    let usable ←
      if b.is .noDebuff && !b.count.isNull then Datum.lt (.whole 0) b.count else pure false
    if usable then
      if b.count.same (.whole 1) then return some rest
      else return some ({ b with count := ← lessOne b.count } :: rest)
    else return (← spendCount rest).map (b :: ·)

/-- Spends one turn of the first immunity that counts turns and has some left. -/
def spendDuration : List Buff → Except Fault (Option (List Buff))
  | [] => .ok none
  | b :: rest => do
    let usable ←
      if b.is .noDebuff && b.count.isNull then Datum.lt (.whole 0) b.duration else pure false
    if usable then
      if b.duration.same (.whole 1) then return some rest
      else return some ({ b with duration := ← lessOne b.duration } :: rest)
    else return (← spendDuration rest).map (b :: ·)

/-- Absorbs a debuff, when some immunity does. -/
def absorb (l : Lesson) (op : Operation) : Except Fault (Option Resolution) := do
  let line := s!"Debuff {op.kind.shown} nullified"
  match ← spendCount l.buffs with
  | some buffs => return some (.changed { l with buffs } line)
  | none =>
    match ← spendDuration l.buffs with
    | some buffs => return some (.changed { l with buffs } line)
    | none =>
      if l.buffs.any fun b => b.is .noDebuff && b.count.isNull && b.indefinite then
        return some (.untouched l [line])
      else return none

/-- A buff after a turn: an indefinite one stays, a new one is new no more, and all others have one
turn less. -/
def tickBuff (b : Buff) : Except Fault Buff :=
  if b.indefinite then .ok b
  else if b.isNew then .ok { b with isNew := false }
  else do return { b with duration := ← lessOne b.duration }

/-- The buffs after a turn, without those that have no turns left. -/
def tickBuffs (bs : List Buff) : Except Fault (List Buff) := do
  return (← bs.mapM tickBuff).filter fun b => !b.duration.same (.whole 0)

theorem tickBuff_indefinite {b : Buff} (h : b.indefinite = true) : tickBuff b = .ok b := by
  simp [tickBuff, h]

theorem tickBuff_new {b : Buff} (h : b.indefinite = false) (hn : b.isNew = true) :
    tickBuff b = .ok { b with isNew := false } := by
  simp [tickBuff, h, hn]

end CardLesson
