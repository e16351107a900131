/-
# What a lesson carries

The effects that can ever be carried out in a lesson are those of its cards, drinks and buffs, with
the effects inside them. A trait that these hand on to one another is an invariant of runs
(`Lesson.Bears`). `Lesson.Carries p` says that every operation among them passes the test `p`; so a
test of the cards before a lesson is a test of all that happens in it.

Key definitions: `Effect.every`, `Effect.nodes`, `Effect.Throughout`, `Card.every`, `Lesson.zones`,
`Trait`, `Lesson.Bears`, `Lesson.Carries`, `avoids`.
Key theorems: `Effect.every_iff`, `Effect.throughout_iff`, `Performed.origin`, `Performed.bears`,
`Reaches.bears`, `Reaches.carries`.
-/
import CardLesson.Proofs.Steps
import Mathlib.Tactic.Tauto

namespace CardLesson

/-! ### Effects inside effects -/

namespace Effect

mutual

/-- Whether the operations of an effect and of all effects inside it pass a test. -/
def every (p : Operation → Bool) : Effect → Bool
  | ⟨op, subs, triggered⟩ => p op && everyOf p subs && everyIn p triggered
termination_by structural e => e

def everyOf (p : Operation → Bool) : List Effect → Bool
  | [] => true
  | e :: es => e.every p && everyOf p es
termination_by structural es => es

def everyIn (p : Operation → Bool) : Option Effect → Bool
  | none => true
  | some e => e.every p
termination_by structural e => e

end

variable {p : Operation → Bool}

theorem everyOf_iff {es : List Effect} : everyOf p es = true ↔ ∀ e ∈ es, e.every p = true := by
  induction es with
  | nil => simp [everyOf]
  | cons e es ih => simp [everyOf, ih]

theorem everyIn_iff : ∀ {o : Option Effect}, everyIn p o = true ↔ ∀ e, o = some e → e.every p = true
  | none => by simp [everyIn]
  | some e => by simp [everyIn]

theorem every_iff {e : Effect} : e.every p = true ↔ p e.operation = true ∧
    (∀ s ∈ e.subEffects, s.every p = true) ∧ ∀ t, e.triggered = some t → t.every p = true := by
  obtain ⟨op, subs, triggered⟩ := e
  rw [every, Bool.and_eq_true, Bool.and_eq_true, everyOf_iff, everyIn_iff, and_assoc]

variable {q : Operation → Bool}

mutual

theorem every_mono (h : ∀ op, p op = true → q op = true) : ∀ e : Effect,
    e.every p = true → e.every q = true
  | ⟨op, subs, triggered⟩, he => by
    rw [every, Bool.and_eq_true, Bool.and_eq_true] at he ⊢
    exact ⟨⟨h op he.1.1, everyOf_mono h subs he.1.2⟩, everyIn_mono h triggered he.2⟩
termination_by structural e => e

theorem everyOf_mono (h : ∀ op, p op = true → q op = true) : ∀ es : List Effect,
    everyOf p es = true → everyOf q es = true
  | [], _ => rfl
  | e :: es, he => by
    rw [everyOf, Bool.and_eq_true] at he ⊢
    exact ⟨every_mono h e he.1, everyOf_mono h es he.2⟩
termination_by structural es => es

theorem everyIn_mono (h : ∀ op, p op = true → q op = true) : ∀ o : Option Effect,
    everyIn p o = true → everyIn q o = true
  | none, _ => rfl
  | some e, he => every_mono h e he
termination_by structural o => o

end

mutual

/-- An effect and all effects inside it. -/
def nodes : Effect → List Effect
  | ⟨op, subs, triggered⟩ => ⟨op, subs, triggered⟩ :: (nodesOf subs ++ nodesIn triggered)
termination_by structural e => e

def nodesOf : List Effect → List Effect
  | [] => []
  | e :: es => e.nodes ++ nodesOf es
termination_by structural es => es

def nodesIn : Option Effect → List Effect
  | none => []
  | some e => e.nodes
termination_by structural e => e

end

/-- An effect and all effects inside it have a property. -/
def Throughout (P : Effect → Prop) (e : Effect) : Prop := ∀ n ∈ e.nodes, P n

variable {P : Effect → Prop}

theorem mem_nodesOf {n : Effect} {es : List Effect} : n ∈ nodesOf es ↔ ∃ e ∈ es, n ∈ e.nodes := by
  induction es with
  | nil => simp [nodesOf]
  | cons e es ih => simp [nodesOf, ih]

theorem mem_nodesIn {n : Effect} : ∀ {o : Option Effect},
    n ∈ nodesIn o ↔ ∃ e, o = some e ∧ n ∈ e.nodes
  | none => by simp [nodesIn]
  | some e => by simp [nodesIn]

theorem throughout_iff {e : Effect} : e.Throughout P ↔ P e ∧
    (∀ s ∈ e.subEffects, s.Throughout P) ∧ ∀ t, e.triggered = some t → t.Throughout P := by
  obtain ⟨op, subs, triggered⟩ := e
  simp only [Throughout, nodes, List.forall_mem_cons, List.forall_mem_append, mem_nodesOf,
    mem_nodesIn]
  refine and_congr_right fun _ => and_congr ?_ ?_
  · exact ⟨fun h s hs n hn => h n ⟨s, hs, hn⟩, fun h n ⟨s, hs, hn⟩ => h s hs n hn⟩
  · exact ⟨fun h t ht n hn => h n ⟨t, ht, hn⟩, fun h n ⟨t, ht, hn⟩ => h t ht n hn⟩

mutual

/-- A test of operations is passed throughout. -/
theorem every_iff_throughout : ∀ e : Effect,
    e.every p = true ↔ e.Throughout fun n => p n.operation = true
  | ⟨op, subs, triggered⟩ => by
    rw [every, Bool.and_eq_true, Bool.and_eq_true, and_assoc, throughout_iff,
      everyOf_iff_throughout subs, everyIn_iff_throughout triggered]
termination_by structural e => e

theorem everyOf_iff_throughout : ∀ es : List Effect,
    everyOf p es = true ↔ ∀ e ∈ es, e.Throughout fun n => p n.operation = true
  | [] => by simp [everyOf]
  | e :: es => by
    rw [everyOf, Bool.and_eq_true, List.forall_mem_cons, every_iff_throughout e,
      everyOf_iff_throughout es]
termination_by structural es => es

theorem everyIn_iff_throughout (o : Option Effect) :
    everyIn p o = true ↔ ∀ e, o = some e → e.Throughout fun n => p n.operation = true := by
  cases o with
  | none => simp [everyIn]
  | some e =>
    rw [everyIn, every_iff_throughout e]
    simp
termination_by structural o

end

end Effect

/-- Whether the operations of a card's effects pass a test. -/
def Card.every (p : Operation → Bool) (card : Card) : Bool := Effect.everyOf p card.effects

/-- Whether the operations of a task pass a test. -/
def Task.every (p : Operation → Bool) : Task → Bool
  | .effect e => e.every p
  | .card copy => copy.card.every p

/-! ### Where cards and buffs come from -/

/-- The copies in the five zones. -/
def Lesson.zones (l : Lesson) : List Copy := l.deck ++ l.hand ++ l.discard ++ l.onHold ++ l.excluded

theorem mem_zones {l : Lesson} {x : Copy} : x ∈ l.zones ↔
    x ∈ l.deck ∨ x ∈ l.hand ∨ x ∈ l.discard ∨ x ∈ l.onHold ∨ x ∈ l.excluded := by
  simp [Lesson.zones]

theorem mem_zones_of_mem_hand {l : Lesson} {x : Copy} (h : x ∈ l.hand) : x ∈ l.zones :=
  mem_zones.2 (.inr (.inl h))

variable {l l' : Lesson} {c c' : Chance} {t : Task} {new : List Task} {p : Operation → Bool}

/-- A card in a zone after a task was in one before it, or it is the card that was triggered, or it
comes out of the catalog, or it is a new trouble card with a new number. -/
theorem Performed.origin (h : Performed l c t new l' c') {x : Copy} (hx : x ∈ l'.zones) :
    x ∈ l.zones ∨ t = .card x ∨ x ∈ l.catalog.map (·.2) ∨
      ∃ e, t = .effect e ∧ e.operation.kind = .known .generateTrouble ∧
        e.operation.troubleId.holds = true ∧
        x = madeTrouble (c.named + 1) e.operation.troubleId ∧ c'.named = c.named + 1 := by
  cases h with
  | card copy =>
    rcases mem_zones.1 hx with hx | hx | hx | hx | hx
    · exact .inl (mem_zones.2 (.inl hx))
    · exact .inl (mem_zones_of_mem_hand ((removeCopy_sublist l.hand copy).mem hx))
    · rcases List.mem_append.1 hx with hx | hx
      · exact .inl (mem_zones.2 (.inr (.inr (.inl hx))))
      · exact .inr (.inl (by rw [List.mem_singleton.1 hx]))
    · exact .inl (mem_zones.2 (.inr (.inr (.inr (.inl hx)))))
    · exact .inl (mem_zones.2 (.inr (.inr (.inr (.inr hx)))))
  | pools hk _ hr =>
    rw [(carryOut_pools hk hr).1] at hx
    exact .inl hx
  | @drew e d c' _ hd _ _ =>
    have hmem := hd.mem_iff (a := x)
    simp only [List.mem_append] at hmem
    refine .inl ?_
    simp only [mem_zones, Lesson.drawnTo, List.mem_append] at hx ⊢
    tauto
  | @swapped e d c' _ hd _ _ =>
    have hmem := hd.mem_iff (a := x)
    simp only [List.mem_append] at hmem
    refine .inl ?_
    simp only [mem_zones, Lesson.drawnTo] at hx ⊢
    tauto
  | upgraded _ _ hm =>
    have hmem := hm x
    simp only [mem_zones] at hx ⊢
    tauto
  | @troubled e place c' hp ht _ hnew =>
    rcases mem_zones.1 hx with hx | hx
    · rcases List.mem_append.1 hx with hx | hx
      · exact .inl (mem_zones.2 (.inl (List.mem_of_mem_take hx)))
      · rcases List.mem_cons.1 hx with rfl | hx
        · refine .inr (.inr ?_)
          unfold troubleCopy
          cases hf : l.catalog.find? e.operation.troubleId with
          | some copy => exact .inl (mem_of_find? hf)
          | none => exact .inr ⟨e, rfl, (passes_iff.1 hp).1, ht, rfl, hnew hf⟩
        · exact .inl (mem_zones.2 (.inl (List.mem_of_mem_drop hx)))
    · exact .inl (mem_zones.2 (.inr hx))
  | _ => exact .inl hx

/-- Names are only ever handed out. -/
theorem Performed.named_le (h : Performed l c t new l' c') : c.named ≤ c'.named := by
  cases h with
  | chose _ _ hn => exact Nat.le_of_eq hn.symm
  | buffs _ hb => exact hb.named_le
  | drew _ _ _ hn => exact Nat.le_of_eq hn.symm
  | swapped _ _ _ hn => exact Nat.le_of_eq hn.symm
  | troubled _ _ hn _ => exact hn
  | _ => exact Nat.le_refl _

/-- No task changes the catalog. -/
theorem Performed.catalog_eq (h : Performed l c t new l' c') : l'.catalog = l.catalog := by
  rw [h.frame]
  rfl

/-- No task changes the drinks. -/
theorem Performed.drinks_eq (h : Performed l c t new l' c') : l'.drinks = l.drinks := by
  rw [h.frame]
  rfl

/-- A buff after a task comes of one before it, or the task's effect grants it. -/
theorem Performed.buffs_granted (h : Performed l c t new l' c') : ∀ b ∈ l'.buffs,
    (∃ b₀ ∈ l.buffs, b.ComesOf b₀) ∨ ∃ e k n name, t = .effect e ∧ e.operation.kind = .known k ∧
      b = grantedBuff n e.operation k name e.triggered := by
  intro b hb
  cases h with
  | pools hk _ hr =>
    rw [(carryOut_pools hk hr).1] at hb
    exact .inl ⟨b, hb, .refl b⟩
  | buffs _ hg =>
    refine (hg.stem b hb).imp_right ?_
    rintro ⟨k, n, name, hk, heq⟩
    exact ⟨_, k, n, name, rfl, hk, heq⟩
  | _ => exact .inl ⟨b, hb, .refl b⟩

/-! ### What is handed on -/

/-- A property of the effects, the cards and the buffs of a lesson. -/
structure Trait where
  effect : Effect → Prop
  card : Copy → Prop
  buff : Buff → Prop

namespace Trait

/-- A task has the trait of its effect or its card. -/
def task (T : Trait) : Task → Prop
  | .effect e => T.effect e
  | .card copy => T.card copy

/-- The trait is handed on: cards, gates and buffs hand it on to the effects they carry out, and
effects to the cards and the buffs they make. -/
structure HandedOn (T : Trait) : Prop where
  ofCard : ∀ {x}, T.card x → ∀ e ∈ x.card.effects, T.effect e
  ofGate : ∀ {e}, T.effect e → e.operation.kind = .known .conditionGate →
    ∀ s ∈ e.subEffects, T.effect s
  ofBuff : ∀ {b}, T.buff b → ∀ e, b.triggered = some e → T.effect e
  made : ∀ {e}, T.effect e → e.operation.kind = .known .generateTrouble →
    e.operation.troubleId.holds = true → ∀ n, T.card (madeTrouble n e.operation.troubleId)
  granted : ∀ {e k}, T.effect e → e.operation.kind = .known k →
    ∀ n name, T.buff (grantedBuff n e.operation k name e.triggered)
  aged : ∀ {b b₀ : Buff}, T.buff b₀ → b.ComesOf b₀ → T.buff b

end Trait

/-- All that a lesson holds has a trait. -/
structure Lesson.Bears (T : Trait) (l : Lesson) : Prop where
  zones : ∀ x ∈ l.zones, T.card x
  catalog : ∀ x ∈ l.catalog.map (·.2), T.card x
  buffs : ∀ b ∈ l.buffs, T.buff b
  drinks : ∀ slot ∈ l.drinks, ∀ e ∈ slot.drink.effects, T.effect e

variable {T : Trait}

/-- A task that has the trait leaves a lesson that bears it, and tasks that have it. -/
theorem Performed.bears (h : Performed l c t new l' c') (hT : T.HandedOn) (hl : l.Bears T)
    (ht : T.task t) : l'.Bears T ∧ ∀ t' ∈ new, T.task t' := by
  refine ⟨⟨fun x hx => ?_, ?_, fun b hb => ?_, ?_⟩, ?_⟩
  · rcases h.origin hx with hx | rfl | hx | ⟨e, rfl, hk, hid, rfl, -⟩
    · exact hl.zones x hx
    · exact ht
    · exact hl.catalog x hx
    · exact hT.made ht hk hid _
  · rw [h.catalog_eq]
    exact hl.catalog
  · rcases h.buffs_granted b hb with ⟨b₀, hb₀, hof⟩ | ⟨e, k, n, name, rfl, hk, rfl⟩
    · exact hT.aged (hl.buffs b₀ hb₀) hof
    · exact hT.granted ht hk n name
  · rw [h.drinks_eq]
    exact hl.drinks
  · cases h with
    | card copy =>
      intro t' ht'
      obtain ⟨e, he, rfl⟩ := List.mem_map.1 ht'
      exact hT.ofCard ht e he
    | @gate e hp =>
      intro t' ht'
      obtain ⟨s, hs, rfl⟩ := List.mem_map.1 ht'
      exact hT.ofGate ht (passes_iff.1 hp).1 s hs
    | chose _ hc _ =>
      intro t' ht'
      obtain ⟨x, hx, rfl⟩ := List.mem_map.1 ht'
      exact hl.zones x (mem_zones_of_mem_hand (hc x hx))
    | _ => exact fun t' ht' => absurd ht' List.not_mem_nil

/-- A run from a lesson and tasks of a trait never meets ones without it. -/
theorem Reaches.bears {s s' : Stage} {ms : List Moment} (h : Reaches s ms s') (hT : T.HandedOn)
    (hl : s.lesson.Bears T) (ht : ∀ t ∈ s.todo, T.task t) :
    s'.lesson.Bears T ∧ (∀ t ∈ s'.todo, T.task t) ∧
      ∀ m ∈ ms, m.lesson.Bears T ∧ T.task m.task := by
  induction h with
  | refl => exact ⟨hl, ht, fun m hm => absurd hm List.not_mem_nil⟩
  | @step t rest new l l' c c' ms s now _ ih =>
    have htask := ht t List.mem_cons_self
    obtain ⟨hl', hnew⟩ := (perform_spec now).bears hT hl htask
    obtain ⟨hend, htodo, hms⟩ := ih hl' fun t' ht' => by
      rcases List.mem_append.1 ht' with ht' | ht'
      · exact hnew t' ht'
      · exact ht t' (List.mem_cons_of_mem t ht')
    refine ⟨hend, htodo, fun m hm => ?_⟩
    rcases List.mem_cons.1 hm with rfl | hm
    · exact ⟨hl, htask⟩
    · exact hms m hm

/-! ### What the test passes for -/

/-- A buff as an operation that passes a test grants it. -/
structure Buff.Granted (p : Operation → Bool) (b : Buff) : Prop where
  value : ∃ op, p op = true ∧ b.value = op.value
  triggered : ∀ e, b.triggered = some e → e.every p = true

/-- All operations that a lesson carries pass a test. -/
structure Lesson.Carries (p : Operation → Bool) (l : Lesson) : Prop where
  zones : ∀ x ∈ l.zones, x.card.every p = true
  catalog : ∀ x ∈ l.catalog.map (·.2), x.card.every p = true
  buffs : ∀ b ∈ l.buffs, b.Granted p
  drinks : ∀ slot ∈ l.drinks, Effect.everyOf p slot.drink.effects = true

/-- The operations pass a test. -/
def passing (p : Operation → Bool) : Trait where
  effect e := e.every p = true
  card x := x.card.every p = true
  buff b := b.Granted p

theorem passing_task : (passing p).task t ↔ t.every p = true := by
  cases t <;> rfl

theorem passing_handedOn (p : Operation → Bool) : (passing p).HandedOn where
  ofCard hx := Effect.everyOf_iff.1 hx
  ofGate he _ := (Effect.every_iff.1 he).2.1
  ofBuff hb := hb.triggered
  made _ _ _ _ := rfl
  granted he _ _ _ := ⟨⟨_, (Effect.every_iff.1 he).1, rfl⟩, (Effect.every_iff.1 he).2.2⟩
  aged hb hof := by
    rw [hof.frame]
    exact ⟨hb.value, hb.triggered⟩

theorem carries_iff : l.Carries p ↔ l.Bears (passing p) := by
  constructor
  · exact fun h =>
      ⟨h.zones, h.catalog, h.buffs, fun slot hs => Effect.everyOf_iff.1 (h.drinks slot hs)⟩
  · exact fun h =>
      ⟨h.zones, h.catalog, h.buffs, fun slot hs => Effect.everyOf_iff.2 (h.drinks slot hs)⟩

/-- A task that passes the test leaves a lesson that does, and tasks that do. -/
theorem Performed.carries (h : Performed l c t new l' c') (hl : l.Carries p)
    (ht : t.every p = true) : l'.Carries p ∧ ∀ t' ∈ new, t'.every p = true := by
  simp only [carries_iff, ← passing_task] at hl ht ⊢
  exact h.bears (passing_handedOn p) hl ht

/-- A run from a lesson and tasks that pass the test never meets ones that do not. -/
theorem Reaches.carries {s s' : Stage} {ms : List Moment} (h : Reaches s ms s')
    (hl : s.lesson.Carries p) (ht : ∀ t ∈ s.todo, t.every p = true) :
    s'.lesson.Carries p ∧ (∀ t ∈ s'.todo, t.every p = true) ∧
      ∀ m ∈ ms, m.lesson.Carries p ∧ m.task.every p = true := by
  simp only [carries_iff, ← passing_task] at hl ht ⊢
  exact h.bears (passing_handedOn p) hl ht

/-! ### Kinds that do not occur -/

/-- The operation is of none of some kinds. -/
def avoids (kinds : List EffectKind) (op : Operation) : Bool := kinds.all fun k => !op.kind.is k

/-- A task that avoids a kind does not carry out an effect of it. -/
theorem carriesOut_of_avoids {kinds : List EffectKind} {k : EffectKind} (hk : k ∈ kinds)
    {m : Moment} (hm : m.task.every (avoids kinds) = true) : m.carriesOut k = false := by
  obtain ⟨t, l, c⟩ := m
  cases t with
  | card copy => rfl
  | effect e =>
    have havoid := List.all_eq_true.1 (Effect.every_iff.1 hm).1 k hk
    have his : e.is k = false := by simpa [Effect.is, Effect.kind] using havoid
    simp [Moment.carriesOut, Lesson.passes, his]

end CardLesson
