/-
# Copies under other serials

A serial tells one copy from another, and nothing else is read of it. So the copies of a lesson can
be given other serials, different ones to different copies: what is drawn, picked, taken out of a
zone and upgraded then is the same, under the other serials. A copy that is made in a lesson has the
number of the name that it is given, and such numbers stay as they are when they are still to come.

Key definitions: `Renaming`, `Copy.renamed`, `Catalog.renamed`, `Drawn.renamed`, `Lesson.renamed`.
Key theorems: `Luck.sample_map`, `Luck.shuffle_map`, `removeCopy_renamed`, `drawCards_renamed`,
`upgradeFrom_renamed`.
-/
import Mathlib.Logic.Function.Basic
import CardLesson.Lesson.Resolve
import CardLesson.Proofs.Lockstep

namespace CardLesson

/-! ### Drawing from lists of other items -/

namespace Luck

variable {α β : Type} (f : α → β)

/-- A sample of other items is the sample of the items, made into the others. -/
theorem samplePool_map : ∀ (k : Nat) (pool : Array α) (c : Chance),
    samplePool k (pool.map f) c = ((samplePool k pool c).1.map f, (samplePool k pool c).2)
  | 0, _, _ => rfl
  | k + 1, pool, c => by
    rw [samplePool, samplePool, Play.luck_bind, Play.luck_bind, Array.size_map, Array.getElem?_map,
      Array.back?_map]
    generalize below pool.size c = drawn
    cases pool[drawn.1]? with
    | none => rfl
    | some x =>
      cases pool.back? with
      | none => rfl
      | some last =>
        have hpool : ((pool.map f).setIfInBounds drawn.1 (f last)).pop =
            (pool.setIfInBounds drawn.1 last).pop.map f := by simp
        dsimp only [Option.map_some]
        rw [Play.luck_bind, Play.luck_bind, hpool, samplePool_map k]
        rfl

theorem samplePlaces_map (xs : Array α) : ∀ (k : Nat) (taken : List Nat) (c : Chance),
    samplePlaces (xs.map f) k taken c =
      ((samplePlaces xs k taken c).1.map f, (samplePlaces xs k taken c).2)
  | 0, _, _ => rfl
  | k + 1, taken, c => by
    simp only [samplePlaces, Play.luck_bind, Play.luck_pure, Array.size_map, Array.getElem?_map,
      samplePlaces_map xs k]
    cases xs[(freshPlace xs.size taken tries c).1]? <;> rfl

theorem sample_map (xs : List α) (k : Nat) (c : Chance) :
    sample (xs.map f) k c = ((sample xs k c).1.map f, (sample xs k c).2) := by
  unfold sample
  rw [List.length_map, ← List.map_toArray]
  split
  · exact samplePool_map f k _ c
  · exact samplePlaces_map f _ k _ c

theorem swap_map (xs : Array α) (i j : Nat) :
    (xs.map f).swapIfInBounds i j = (xs.swapIfInBounds i j).map f := by
  unfold Array.swapIfInBounds
  simp only [Array.size_map]
  split
  · split
    · simp [Array.swap_def, Array.map_set]
    · rfl
  · rfl

theorem shuffleFrom_map : ∀ (i : Nat) (xs : Array α) (c : Chance),
    shuffleFrom i (xs.map f) c = ((shuffleFrom i xs c).1.map f, (shuffleFrom i xs c).2)
  | 0, _, _ => rfl
  | i + 1, xs, c => by
    rw [shuffleFrom, shuffleFrom, Play.luck_bind, Play.luck_bind, swap_map, shuffleFrom_map i]

/-- Other items are shuffled as the items are. -/
theorem shuffle_map (xs : List α) (c : Chance) :
    shuffle (xs.map f) c = ((shuffle xs c).1.map f, (shuffle xs c).2) := by
  unfold shuffle
  rw [Play.luck_bind, Play.luck_bind, List.length_map, ← List.map_toArray, shuffleFrom_map]
  exact congrArg (·, _) Array.toList_map

end Luck

/-! ### Other serials -/

/-- Other serials, different ones for different copies, once so many names have been handed out.
What is made later has the same serial as before. -/
structure Renaming (named : Nat) where
  serial : Serial → Serial
  injective : serial.Injective
  fresh : ∀ n, named < n → serial (.made n) = .made n

instance {named : Nat} : CoeFun (Renaming named) fun _ => Serial → Serial := ⟨Renaming.serial⟩

/-- The copy under another serial. -/
def Copy.renamed (ρ : Serial → Serial) (c : Copy) : Copy := { c with serial := ρ c.serial }

/-- The catalog with its copies under other serials. -/
def Catalog.renamed (ρ : Serial → Serial) (catalog : Catalog) : Catalog :=
  catalog.map fun e => (e.1, e.2.renamed ρ)

/-- What was drawn, under other serials. -/
def Drawn.renamed (ρ : Serial → Serial) (d : Drawn) : Drawn where
  deck := d.deck.map (Copy.renamed ρ)
  discard := d.discard.map (Copy.renamed ρ)
  hand := d.hand.map (Copy.renamed ρ)

/-- The lesson with the copies of its zones and its catalog under other serials. -/
def Lesson.renamed (ρ : Serial → Serial) (l : Lesson) : Lesson :=
  { l with
    deck := l.deck.map (Copy.renamed ρ)
    hand := l.hand.map (Copy.renamed ρ)
    discard := l.discard.map (Copy.renamed ρ)
    onHold := l.onHold.map (Copy.renamed ρ)
    excluded := l.excluded.map (Copy.renamed ρ)
    catalog := l.catalog.renamed ρ }

variable {named : Nat} {ρ : Serial → Serial}

/-- A trouble card that is made later keeps its serial. -/
theorem Renaming.madeTrouble (ρ : Renaming named) {n : Nat} (h : named < n) (id : Datum) :
    (madeTrouble n id).renamed ρ = CardLesson.madeTrouble n id :=
  congrArg (Copy.mk · _) (ρ.fresh n h)

/-! ### Zones -/

theorem removeFirst_map {p : Copy → Bool} (f : Copy → Copy) (zone : List Copy) :
    removeFirst p (zone.map f) = (removeFirst (fun c => p (f c)) zone).map f := by
  induction zone with
  | nil => rfl
  | cons c zone ih =>
    rw [List.map_cons, removeFirst, removeFirst, ih]
    split <;> rfl

/-- A test that looks at cards counts the same under other serials. -/
theorem countP_renamed {p : Copy → Bool} (hp : ∀ c : Copy, p (c.renamed ρ) = p c)
    (zone : List Copy) : (zone.map (Copy.renamed ρ)).countP p = zone.countP p := by
  rw [List.countP_map]
  exact List.countP_congr fun c _ => by rw [Function.comp_apply, hp]

/-- The same copy is taken out of a zone under other serials. -/
theorem removeCopy_renamed (h : ρ.Injective) (zone : List Copy) (copy : Copy) :
    removeCopy (zone.map (Copy.renamed ρ)) (copy.renamed ρ) =
      (removeCopy zone copy).map (Copy.renamed ρ) := by
  have hsame (c : Copy) : ((c.renamed ρ).serial == (copy.renamed ρ).serial) =
      (c.serial == copy.serial) := h.beq_eq
  unfold removeCopy
  rw [List.any_map, removeFirst_map, removeFirst_map]
  simp only [Function.comp_def, hsame]
  split <;> rfl

/-- An empty deck takes in the same shuffled pile. -/
theorem refill_renamed (deck discard : List Copy) :
    Lockstep named (fun p p' => p' = (p.1.map (Copy.renamed ρ), p.2.map (Copy.renamed ρ)))
      (liftM (refill deck discard) : Play (List Copy × List Copy))
      (liftM (refill (deck.map (Copy.renamed ρ)) (discard.map (Copy.renamed ρ)))) := by
  refine .draw (refill_named deck discard) fun c => ?_
  unfold refill
  rw [List.isEmpty_map]
  split
  · rw [Play.luck_bind, Play.luck_bind, Luck.shuffle_map]
    exact congrArg (fun cs => ((cs, []), _)) List.map_reverse.symm
  · rfl

theorem drawLoop_renamed : ∀ (attempts want : Nat) (deck discard : List Copy) (held : List Datum)
    (drawn : List Copy), Lockstep named (fun d d' => d' = Drawn.renamed ρ d)
      (drawLoop attempts want deck discard held drawn)
      (drawLoop attempts want (deck.map (Copy.renamed ρ)) (discard.map (Copy.renamed ρ)) held
        (drawn.map (Copy.renamed ρ)))
  | 0, want, deck, discard, held, drawn => by
    rw [drawLoop, drawLoop]
    · exact .pure (by simp [Drawn.renamed])
    all_goals simp
  | attempts + 1, 0, deck, discard, held, drawn => by
    rw [drawLoop, drawLoop]
    · exact .pure (by simp [Drawn.renamed])
    all_goals simp
  | attempts + 1, want + 1, deck, discard, held, drawn => by
    rw [drawLoop, drawLoop]
    refine .bind (refill_renamed deck discard) fun p p' hp => ?_
    obtain ⟨deck, discard⟩ := p
    subst hp
    cases deck with
    | nil => exact .pure (by simp [Drawn.renamed])
    | cons c deck =>
      refine .bindSame fun id => ?_
      have hdiverted := drawLoop_renamed attempts (want + 1) deck (discard ++ [c]) held drawn
      have htaken := drawLoop_renamed attempts want deck discard (id :: held) (c :: drawn)
      rw [List.map_append] at hdiverted
      exact .ite (fun _ => hdiverted) fun _ => htaken

/-- The same copies are drawn under other serials. -/
theorem drawCards_renamed (deck discard : List Copy) (count : Nat) (hand : List Copy) :
    Lockstep named (fun d d' => d' = Drawn.renamed ρ d) (drawCards deck discard count hand)
      (drawCards (deck.map (Copy.renamed ρ)) (discard.map (Copy.renamed ρ)) count
        (hand.map (Copy.renamed ρ))) := by
  unfold drawCards
  rw [List.mapM_map, ← List.map_reverse]
  exact .bindSame fun held => drawLoop_renamed _ count deck.reverse discard held []

/-! ### Catalogs -/

theorem Catalog.find?_renamed (id : Datum) : ∀ catalog : Catalog,
    (catalog.renamed ρ).find? id = (catalog.find? id).map (Copy.renamed ρ)
  | [] => rfl
  | (k, c) :: rest => by
    have ih := find?_renamed id rest
    show find? id ((k, c.renamed ρ) :: renamed ρ rest) = _
    rw [find?, find?, ih]
    split <;> rfl

theorem upgradeOf_renamed (catalog : Catalog) (c : Copy) :
    Together (fun o o' => o' = Option.map (Copy.renamed ρ) o) (upgradeOf catalog c)
      (upgradeOf (catalog.renamed ρ) (c.renamed ρ)) := by
  unfold upgradeOf
  refine .bindSame fun id => .pure ?_
  rw [Catalog.find?_renamed]
  split <;> rfl

/-- The same copies are upgraded under other serials. -/
theorem upgradeFrom_renamed (catalog : Catalog) : ∀ (copies : List Copy) (held : List Datum),
    Together (fun cs cs' => cs' = List.map (Copy.renamed ρ) cs) (upgradeFrom catalog held copies)
      (upgradeFrom (catalog.renamed ρ) held (copies.map (Copy.renamed ρ)))
  | [], _ => .returned rfl
  | c :: copies, held => by
    have kept : Together (fun cs cs' => cs' = List.map (Copy.renamed ρ) cs)
        (do return c :: (← upgradeFrom catalog held copies))
        (do return c.renamed ρ :: (← upgradeFrom (catalog.renamed ρ) held
          (copies.map (Copy.renamed ρ)))) :=
      (upgradeFrom_renamed catalog copies held).bind fun cs cs' hcs => .pure (by rw [hcs]; rfl)
    rw [List.map_cons, upgradeFrom, upgradeFrom]
    refine (upgradeOf_renamed catalog c).bind fun o o' ho => ?_
    subst ho
    cases o with
    | none => exact kept
    | some better =>
      refine .bindSame fun id => .ite (fun _ => kept) fun _ => ?_
      refine (upgradeFrom_renamed catalog copies (id :: held)).bind fun cs cs' hcs => .pure ?_
      rw [hcs]
      rfl

end CardLesson
