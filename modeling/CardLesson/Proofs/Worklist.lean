/-
# Effects as a list of tasks

Carrying out effects is working through a list of tasks. A task is an effect, or a card that was
chosen from the hand to be triggered; performing it may put new tasks before the others: a gate
those of its effects, a trigger its cards, and a card its effects. The list knows no nesting, so it
has no limit on it, and a run of it can be looked at in the middle: `Reaches` says which tasks were
performed, with the lesson and the chance that each of them met.

Key definitions: `Task`, `admissionOf`, `perform`, `Stage`, `Moment`, `Reaches`, `draws`.
Key theorems: `resolveOne_eq`, `Reaches.trans`, `Reaches.before`, `Reaches.prefix_of_stuck`.
-/
import CardLesson.Lesson.Resolve
import CardLesson.Proofs.Piles

namespace CardLesson

/-! ### Tasks -/

/-- What is left to do: an effect to carry out, or a card of the hand to trigger. -/
inductive Task where
  | effect (e : Effect)
  | card (copy : Copy)

namespace Lesson

/-- The lesson after a card left the hand to be triggered. -/
def discardFromHand (l : Lesson) (copy : Copy) : Lesson :=
  { l with hand := removeCopy l.hand copy, discard := l.discard ++ [copy] }

/-- Whether an effect of a kind gets past its conditions. -/
def passes (l : Lesson) (k : EffectKind) (e : Effect) : Bool :=
  e.is k && match l.meetsAll e.operation.conditions with
    | .ok met => met
    | .error _ => false

end Lesson

/-- The cards of the hand that an operation triggers. -/
def chooseFromHand (l : Lesson) (op : Operation) : Play (List Copy) := do
  let candidates := l.hand.filter (Lesson.hasRarity op.targetRarity)
  let count ← triggerCount op candidates.length
  if count.same (.whole 0) then return []
  let chosen ← (Luck.sample candidates (← pickCount count candidates.length) : Luck (List Copy))
  let _ ← namesOf chosen
  return chosen

/-- The resolver that carries nothing out. -/
def idleResolver : Resolver := fun _ l => return .untouched l

/-- What becomes of an effect: it is done with, or it is carried out by the rule of its kind. -/
inductive Admission where
  | done (r : Resolution)
  | rule (k : EffectKind)

/-- Looks at the conditions of an operation and at its kind, and lets an immunity absorb it. -/
def admissionOf (l : Lesson) (op : Operation) : Except Fault Admission := do
  if ← l.meetsAll op.conditions then
    op.kind.key
    match op.kind with
    | .unknown _ => return .done (.untouched l)
    | .known k =>
      match ← if k.isDebuff then absorb l op else pure none with
      | some r => return .done r
      | none => return .rule k
  else return .done (.untouched l)

/-- Carrying out an effect is to decide on it and then to follow its rule. -/
theorem resolveOne_eq (inner : Resolver) (l : Lesson) (e : Effect) :
    resolveOne inner l e = (do
      match ← (admissionOf l e.operation : Except Fault Admission) with
      | .done r => return r
      | .rule k =>
        if k = .conditionGate then resolveEach inner l e.subEffects
        else carryOut inner l e.operation e.triggered k) := by
  obtain ⟨op, subs, triggered⟩ := e
  funext c
  rw [resolveOne]
  unfold admissionOf
  rcases l.meetsAll op.conditions with f | met
  · rfl
  cases met with
  | false => rfl
  | true =>
    cases op.kind with
    | unknown raw =>
      show ((liftM (Tag.key (α := EffectKind) (.unknown raw)) >>= _ : Play Resolution) c) = _
      cases Tag.key (α := EffectKind) (.unknown raw) <;> rfl
    | known k =>
      -- whether a kind is a debuff is plain only once the kind is
      cases k <;> first
        | rfl
        | rcases absorb l op with f | _ | r <;> rfl

/-- Performs a task: the tasks that come first now, and the lesson after it. -/
def perform (l : Lesson) : Task → Play (List Task × Lesson)
  | .card copy => return (copy.card.effects.map .effect, l.discardFromHand copy)
  | .effect e => do
    match ← (admissionOf l e.operation : Except Fault Admission) with
    | .done r => return ([], r.lesson)
    | .rule k =>
      if k = .conditionGate then return (e.subEffects.map .effect, l)
      else if k = .triggerRandomHandCard then
        return ((← chooseFromHand l e.operation).map .card, l)
      else return ([], (← carryOut idleResolver l e.operation e.triggered k).lesson)

/-! ### Runs -/

/-- How far the work has come. -/
structure Stage where
  todo : List Task
  lesson : Lesson
  chance : Chance

/-- A task when it is performed, with the lesson and the chance that it meets. -/
structure Moment where
  task : Task
  lesson : Lesson
  chance : Chance

/-- The moments that lead from one stage of the work to another. -/
inductive Reaches : Stage → List Moment → Stage → Prop
  | refl (s : Stage) : Reaches s [] s
  | step {t : Task} {rest new : List Task} {l l' : Lesson} {c c' : Chance} {ms : List Moment}
      {s : Stage} (now : perform l t c = (.ok (new, l'), c'))
      (later : Reaches ⟨new ++ rest, l', c'⟩ ms s) :
      Reaches ⟨t :: rest, l, c⟩ (⟨t, l, c⟩ :: ms) s

/-- The next task fails. -/
def Stage.FailsWith (s : Stage) (f : Fault) : Prop :=
  ∃ t rest c', s.todo = t :: rest ∧ perform s.lesson t s.chance = (.error f, c')

namespace Moment

/-- Whether the moment carries out an effect of a kind. -/
def carriesOut (k : EffectKind) (m : Moment) : Bool :=
  match m.task with
  | .effect e => m.lesson.passes k e
  | .card _ => false

end Moment

/-- How many draws the moments carry out. -/
def draws (ms : List Moment) : Nat := ms.countP (·.carriesOut .drawCard)

theorem draws_append (ms ms' : List Moment) : draws (ms ++ ms') = draws ms + draws ms' := by
  simp [draws]

namespace Reaches

variable {s s' s'' : Stage} {ms ms' : List Moment}

theorem trans (h : Reaches s ms s') (h' : Reaches s' ms' s'') : Reaches s (ms ++ ms') s'' := by
  induction h with
  | refl => exact h'
  | step now _ ih => exact .step now (ih h')

/-- Tasks that come later do not change what comes before them. -/
theorem before (h : Reaches s ms s') (rest : List Task) :
    Reaches { s with todo := s.todo ++ rest } ms { s' with todo := s'.todo ++ rest } := by
  induction h with
  | refl => exact .refl _
  | @step t others new l l' c c' ms s now _ ih =>
    refine .step now ?_
    simpa using ih

/-- Of two runs from one stage one goes on where the other ends. -/
theorem comparable (h : Reaches s ms s') (h' : Reaches s ms' s'') :
    (∃ more, ms' = ms ++ more ∧ Reaches s' more s'') ∨
      ∃ more, ms = ms' ++ more ∧ Reaches s'' more s' := by
  induction h generalizing ms' with
  | refl => exact .inl ⟨ms', rfl, h'⟩
  | @step t rest new l l' c c' ms s now later ih =>
    cases h' with
    | refl => exact .inr ⟨_, rfl, .step now later⟩
    | step now' later' =>
      rw [now] at now'
      cases now'
      rcases ih later' with ⟨more, rfl, hm⟩ | ⟨more, rfl, hm⟩
      · exact .inl ⟨more, rfl, hm⟩
      · exact .inr ⟨more, rfl, hm⟩

/-- No run leads on from a stage with nothing to do. -/
theorem nil_of_done {l : Lesson} {c : Chance} (h : Reaches ⟨[], l, c⟩ ms s) : ms = [] := by
  cases h
  rfl

/-- No run leads on from a stage that fails. -/
theorem nil_of_fails {f : Fault} (hs : s.FailsWith f) (h : Reaches s ms s') : ms = [] := by
  obtain ⟨t, rest, c', htodo, hfail⟩ := hs
  cases h with
  | refl => rfl
  | step now _ =>
    cases htodo
    rw [now] at hfail
    cases hfail

/-- A run that can go no further has all moments of every run from its start. -/
theorem prefix_of_stuck (h : Reaches s ms s') (hend : ∀ {more s''}, Reaches s' more s'' → more = [])
    (h' : Reaches s ms' s'') : ms' <+: ms := by
  rcases h.comparable h' with ⟨more, rfl, hm⟩ | ⟨more, rfl, -⟩
  · have hnil : more = [] := hend hm
    simp [hnil]
  · exact List.prefix_append ms' more

end Reaches

end CardLesson
