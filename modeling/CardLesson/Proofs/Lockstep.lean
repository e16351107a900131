/-
# Two runs in step

Two computations go together when both fail with the same fault or both return, with results that
are related; two computations of play go in step when, besides, they draw the same from every chance
that has handed out so many names. They hand out more and take none back, so the names that follow
are new to both. A step that both make alike is passed over, so two runs of one program are compared
only where they read what differs.

Key definitions: `Together`, `InStep`, `Lockstep`.
Key theorems: `Together.bind`, `Lockstep.bind`, `Lockstep.lift`, `Lockstep.freshSame`.
-/
import CardLesson.Proofs.Piles

namespace CardLesson

variable {named : Nat} {α β γ δ : Type} {R : α → β → Prop} {S : γ → δ → Prop}

/-- Both fail with one fault, or both return and the results are related. -/
inductive Together (R : α → β → Prop) : Except Fault α → Except Fault β → Prop
  | failed (f : Fault) : Together R (.error f) (.error f)
  | returned {a : α} {b : β} (h : R a b) : Together R (.ok a) (.ok b)

/-- Both outcomes are one fault or related results, and one chance is left, which has handed out the
names before. -/
inductive InStep (named : Nat) (R : α → β → Prop) :
    Except Fault α × Chance → Except Fault β × Chance → Prop
  | failed (f : Fault) (c : Chance) : InStep named R (.error f, c) (.error f, c)
  | returned {a : α} {b : β} (h : R a b) {c : Chance} (hc : named ≤ c.named) :
      InStep named R (.ok a, c) (.ok b, c)

/-- From every chance that has handed out these names both come to outcomes that are in step. -/
def Lockstep (named : Nat) (R : α → β → Prop) (x : Play α) (y : Play β) : Prop :=
  ∀ c, named ≤ c.named → InStep named R (x c) (y c)

namespace Together

theorem pure {a : α} {b : β} (h : R a b) : Together R (Pure.pure a) (Pure.pure b) := .returned h

theorem bind {x : Except Fault α} {y : Except Fault β} {f : α → Except Fault γ}
    {g : β → Except Fault δ} (hxy : Together R x y)
    (hfg : ∀ a b, R a b → Together S (f a) (g b)) : Together S (x >>= f) (y >>= g) := by
  cases hxy with
  | failed e => exact .failed e
  | returned h => exact hfg _ _ h

theorem self (x : Except Fault α) : Together Eq x x := by
  cases x with
  | error e => exact .failed e
  | ok a => exact .returned rfl

/-- A step that both make alike. -/
theorem bindSame {x : Except Fault α} {f : α → Except Fault γ} {g : α → Except Fault δ}
    (h : ∀ a, Together S (f a) (g a)) : Together S (x >>= f) (x >>= g) :=
  (self x).bind fun a _ hab => hab ▸ h a

theorem ite {p : Prop} [Decidable p] {x x' : Except Fault α} {y y' : Except Fault β}
    (hx : p → Together R x y) (hy : ¬p → Together R x' y') :
    Together R (if p then x else x') (if p then y else y') := by
  split
  · next hp => exact hx hp
  · next hp => exact hy hp

/-- A step that both make alike, in the same branch. -/
theorem branchSame {p : Prop} [Decidable p] {x x' : Except Fault α} {f : α → Except Fault γ}
    {g : α → Except Fault δ} (h : ∀ a, Together S (f a) (g a)) :
    Together S (if p then x >>= f else x' >>= f) (if p then x >>= g else x' >>= g) :=
  .ite (fun _ => .bindSame h) fun _ => .bindSame h

end Together

namespace Lockstep

theorem pure {a : α} {b : β} (h : R a b) : Lockstep named R (Pure.pure a) (Pure.pure b) :=
  fun _ hc => .returned h hc

theorem fail (f : Fault) : Lockstep named R (throw f) (throw f) := fun c _ => .failed f c

theorem bind {x : Play α} {y : Play β} {f : α → Play γ} {g : β → Play δ}
    (hxy : Lockstep named R x y) (hfg : ∀ a b, R a b → Lockstep named S (f a) (g b)) :
    Lockstep named S (x >>= f) (y >>= g) := by
  intro c hc
  have hfirst := hxy c hc
  rw [Play.bind_apply, Play.bind_apply]
  generalize x c = out at hfirst ⊢
  generalize y c = out' at hfirst ⊢
  cases hfirst with
  | failed e c₁ => exact .failed e c₁
  | returned h hc₁ => exact hfg _ _ h _ hc₁

/-- Computations that draw nothing are in step when they go together. -/
theorem lift {x : Except Fault α} {y : Except Fault β} (h : Together R x y) :
    Lockstep named R (liftM x : Play α) (liftM y : Play β) := by
  intro c hc
  rw [Play.except_apply, Play.except_apply]
  cases h with
  | failed e => exact .failed e c
  | returned h => exact .returned h hc

/-- Draws are in step when one yields what is made of the other's. -/
theorem draw {x : Luck α} {y : Luck β} {g : α → β} (hx : x.KeepsNames)
    (h : ∀ c, y c = (g (x c).1, (x c).2)) :
    Lockstep named (fun a b => b = g a) (liftM x : Play α) (liftM y : Play β) := by
  intro c hc
  rw [Play.luck_apply, Play.luck_apply, h]
  exact .returned (R := fun a b => b = g a) rfl (Nat.le_trans hc (Nat.le_of_eq (hx c).symm))

/-- A step without a draw that both make alike. -/
theorem bindSame {x : Except Fault α} {f : α → Play γ} {g : α → Play δ}
    (h : ∀ a, Lockstep named S (f a) (g a)) :
    Lockstep named S ((liftM x : Play α) >>= f) ((liftM x : Play α) >>= g) :=
  (lift (.self x)).bind fun a _ hab => hab ▸ h a

/-- A draw that both make alike. -/
theorem drawSame {x : Luck α} (hx : x.KeepsNames) {f : α → Play γ} {g : α → Play δ}
    (h : ∀ a, Lockstep named S (f a) (g a)) :
    Lockstep named S ((liftM x : Play α) >>= f) ((liftM x : Play α) >>= g) :=
  (draw (g := id) hx fun _ => rfl).bind fun a _ hab => hab ▸ h a

/-- A name that both are handed was not handed out before. -/
theorem freshSame {f : Nat → Play γ} {g : Nat → Play δ}
    (h : ∀ n, named < n → Lockstep named S (f n) (g n)) :
    Lockstep named S ((liftM Luck.freshNumber : Play Nat) >>= f)
      ((liftM Luck.freshNumber : Play Nat) >>= g) := by
  intro c hc
  rw [Play.bind_apply, Play.bind_apply, Play.luck_apply]
  exact h (c.named + 1) (Nat.lt_succ_of_le hc) _ (Nat.le_succ_of_le hc)

theorem ite {p : Prop} [Decidable p] {x x' : Play α} {y y' : Play β}
    (hx : p → Lockstep named R x y) (hy : ¬p → Lockstep named R x' y') :
    Lockstep named R (if p then x else x') (if p then y else y') := by
  split
  · next hp => exact hx hp
  · next hp => exact hy hp

end Lockstep

end CardLesson
