/-
# When a computation of play returns

A computation of play returns exactly when each of its parts does, and it fails exactly when one of
its parts is the first to fail. The lemmas here take a run of a `do` block apart at its binds, so
that no later proof opens the monad.

Key theorems: `Play.bind_ok`, `Play.bind_error`, `Play.except_bind_ok`, `Play.except_bind_error`,
`Play.exists_ok_bind`.
-/
import CardLesson.Lesson.Pile

namespace CardLesson
namespace Play

variable {α β : Type}

theorem bind_apply (x : Play α) (f : α → Play β) (c : Chance) :
    (x >>= f) c = match x c with
      | (.ok a, c₁) => f a c₁
      | (.error e, c₁) => (.error e, c₁) := by
  show (ExceptT.bind x f : Play β) c = _
  unfold ExceptT.bind ExceptT.mk
  show (StateT.bind x (ExceptT.bindCont f)) c = _
  unfold StateT.bind
  show (match x c with | (a, s) => ExceptT.bindCont f a s) = _
  rcases x c with ⟨a | a, c₁⟩ <;> rfl

theorem pure_apply (a : α) (c : Chance) : (pure a : Play α) c = (.ok a, c) := rfl

theorem except_apply (x : Except Fault α) (c : Chance) : (liftM x : Play α) c = (x, c) := rfl

theorem luck_apply (x : Luck α) (c : Chance) : (liftM x : Play α) c = (.ok (x c).1, (x c).2) := rfl

theorem luck_bind (x : Luck α) (f : α → Luck β) (c : Chance) :
    (x >>= f) c = f (x c).1 (x c).2 := rfl

theorem luck_pure (a : α) (c : Chance) : (pure a : Luck α) c = (a, c) := rfl

/-! ### Computations of play -/

/-- When a test of what a computation returns holds, it returns something that passes the test. -/
theorem ok_of_any {x : Play α} {p : α → Bool} {c : Chance}
    (h : (x c).1.toOption.any p = true) : ∃ a c', x c = (.ok a, c') ∧ p a = true := by
  rcases hx : x c with ⟨f | a, c'⟩
  · rw [hx] at h
    cases h
  · rw [hx] at h
    exact ⟨a, c', rfl, h⟩

/-- A bind returns when both of its parts do. -/
theorem bind_ok {x : Play α} {f : α → Play β} {b : β} {c c' : Chance} :
    (x >>= f) c = (.ok b, c') ↔ ∃ a c₁, x c = (.ok a, c₁) ∧ f a c₁ = (.ok b, c') := by
  rw [bind_apply]
  rcases x c with ⟨e | a, c₁⟩
  · constructor
    · intro h
      cases h
    · rintro ⟨a, c₂, h, _⟩
      cases h
  · constructor
    · intro h
      exact ⟨a, c₁, rfl, h⟩
    · rintro ⟨a', c₂, h, h'⟩
      cases h
      exact h'

/-- A bind fails when its first part does, or when its second part does after the first. -/
theorem bind_error {x : Play α} {f : α → Play β} {e : Fault} {c c' : Chance} :
    (x >>= f) c = (.error e, c') ↔
      x c = (.error e, c') ∨ ∃ a c₁, x c = (.ok a, c₁) ∧ f a c₁ = (.error e, c') := by
  rw [bind_apply]
  rcases x c with ⟨e' | a, c₁⟩
  · constructor
    · intro h
      cases h
      exact .inl rfl
    · rintro (h | ⟨a, c₂, h, _⟩) <;> cases h
      rfl
  · constructor
    · intro h
      exact .inr ⟨a, c₁, rfl, h⟩
    · rintro (h | ⟨a', c₂, h, h'⟩) <;> cases h
      exact h'

/-- Two ways to go on that agree on what comes before them. -/
theorem bind_congr {x : Play α} {f g : α → Play β} {c : Chance}
    (h : ∀ a c₁, x c = (.ok a, c₁) → f a c₁ = g a c₁) : (x >>= f) c = (x >>= g) c := by
  rw [bind_apply, bind_apply]
  rcases hx : x c with ⟨e | a, c₁⟩
  · rfl
  · exact h a c₁ hx

/-- Two branches that go on in the same way. -/
theorem ite_bind_ok {p : Prop} [Decidable p] {x y : Play α} {f : α → Play β} {b : β}
    {c c' : Chance} :
    (if p then x >>= f else y >>= f) c = (.ok b, c') ↔
      ∃ a c₁, (if p then x else y) c = (.ok a, c₁) ∧ f a c₁ = (.ok b, c') := by
  split <;> exact bind_ok

/-- Two branches that go on in the same way, the first one in two steps. -/
theorem ite_bind_bind_ok {γ : Type} {p : Prop} [Decidable p] {x : Play γ} {g : γ → Play α}
    {z : Play α} {f : α → Play β} {b : β} {c c' : Chance} :
    (if p then x >>= fun q => g q >>= f else z >>= f) c = (.ok b, c') ↔
      ∃ a c₁, (if p then x >>= g else z) c = (.ok a, c₁) ∧ f a c₁ = (.ok b, c') := by
  rw [← bind_assoc]
  exact ite_bind_ok

theorem pure_ok {a b : α} {c c' : Chance} : (pure a : Play α) c = (.ok b, c') ↔ a = b ∧ c = c' := by
  show ((.ok a, c) : Except Fault α × Chance) = _ ↔ _
  simp

theorem pure_error {a : α} {e : Fault} {c c' : Chance} :
    ¬(pure a : Play α) c = (.error e, c') := by
  show ¬((.ok a, c) : Except Fault α × Chance) = _
  simp

theorem luck_ok {x : Luck α} {a : α} {c c' : Chance} :
    (liftM x : Play α) c = (.ok a, c') ↔ x c = (a, c') := by
  show ((.ok (x c).1, (x c).2) : Except Fault α × Chance) = _ ↔ _
  rcases x c with ⟨b, c₁⟩
  constructor <;> intro h <;> cases h <;> rfl

/-- A draw never fails. -/
theorem luck_error {x : Luck α} {e : Fault} {c c' : Chance} :
    ¬(liftM x : Play α) c = (.error e, c') := by
  show ¬((.ok (x c).1, (x c).2) : Except Fault α × Chance) = _
  simp

theorem except_ok {x : Except Fault α} {a : α} {c c' : Chance} :
    (liftM x : Play α) c = (.ok a, c') ↔ x = .ok a ∧ c = c' := by
  show ((x, c) : Except Fault α × Chance) = _ ↔ _
  simp

theorem except_error {x : Except Fault α} {e : Fault} {c c' : Chance} :
    (liftM x : Play α) c = (.error e, c') ↔ x = .error e ∧ c = c' := by
  show ((x, c) : Except Fault α × Chance) = _ ↔ _
  simp

/-- A bind whose first part draws nothing. -/
theorem lift_bind_ok {x : Except Fault α} {f : α → Play β} {b : β} {c c' : Chance} :
    ((liftM x : Play α) >>= f) c = (.ok b, c') ↔ ∃ a, x = .ok a ∧ f a c = (.ok b, c') := by
  rw [bind_ok]
  constructor
  · rintro ⟨a, c₁, hx, h⟩
    obtain ⟨hret, rfl⟩ := except_ok.1 hx
    exact ⟨a, hret, h⟩
  · rintro ⟨a, hx, h⟩
    exact ⟨a, c, except_ok.2 ⟨hx, rfl⟩, h⟩

/-! ### Computations that draw nothing -/

theorem except_bind_ok {x : Except Fault α} {f : α → Except Fault β} {b : β} :
    (x >>= f) = .ok b ↔ ∃ a, x = .ok a ∧ f a = .ok b := by
  cases x <;> simp [bind, Except.bind]

theorem except_bind_error {x : Except Fault α} {f : α → Except Fault β} {e : Fault} :
    (x >>= f) = .error e ↔ x = .error e ∨ ∃ a, x = .ok a ∧ f a = .error e := by
  cases x <;> simp [bind, Except.bind]

/-- Two branches that go on in the same way. -/
theorem except_ite_bind_ok {p : Prop} [Decidable p] {x y : Except Fault α}
    {f : α → Except Fault β} {b : β} :
    (if p then x >>= f else y >>= f) = .ok b ↔ ∃ a, (if p then x else y) = .ok a ∧ f a = .ok b := by
  split <;> exact except_bind_ok

/-- Two branches that go on in the same way, the first one in two steps. -/
theorem except_ite_bind_bind_ok {γ : Type} {p : Prop} [Decidable p] {x : Except Fault γ}
    {g : γ → Except Fault α} {z : Except Fault α} {f : α → Except Fault β} {b : β} :
    (if p then x >>= fun q => g q >>= f else z >>= f) = .ok b ↔
      ∃ a, (if p then x >>= g else z) = .ok a ∧ f a = .ok b := by
  rw [← bind_assoc]
  exact except_ite_bind_ok

theorem except_pure_ok {a b : α} : (pure a : Except Fault α) = .ok b ↔ a = b := by
  simp [pure, Except.pure]

/-- What comes out has a property when what its parts come to gives it. -/
theorem exists_ok_bind {x : Except Fault α} {f : α → Except Fault β} {P : β → Prop} :
    (∃ b, (x >>= f) = .ok b ∧ P b) ↔ ∃ a, x = .ok a ∧ ∃ b, f a = .ok b ∧ P b := by
  constructor
  · rintro ⟨b, h, hb⟩
    obtain ⟨a, hx, hf⟩ := except_bind_ok.1 h
    exact ⟨a, hx, b, hf, hb⟩
  · rintro ⟨a, hx, b, hf, hb⟩
    exact ⟨b, except_bind_ok.2 ⟨a, hx, hf⟩, hb⟩

theorem exists_ok_pure {a : α} {P : α → Prop} :
    (∃ b, (pure a : Except Fault α) = .ok b ∧ P b) ↔ P a := by
  constructor
  · rintro ⟨b, h, hb⟩
    rwa [except_pure_ok.1 h]
  · exact fun ha => ⟨a, rfl, ha⟩

/-- What comes out of a list that is gone through comes from an item of it. -/
theorem except_mem_mapM {f : α → Except Fault β} : ∀ {xs : List α} {ys : List β},
    xs.mapM f = .ok ys → ∀ y ∈ ys, ∃ x ∈ xs, f x = .ok y
  | [], ys, h, y, hy => by
    cases h
    exact absurd hy List.not_mem_nil
  | x :: xs, ys, h, y, hy => by
    rw [List.mapM_cons] at h
    obtain ⟨z, hz, h⟩ := except_bind_ok.1 h
    obtain ⟨zs, hzs, h⟩ := except_bind_ok.1 h
    obtain rfl := except_pure_ok.1 h
    rcases List.mem_cons.1 hy with rfl | hy
    · exact ⟨x, List.mem_cons_self, hz⟩
    · obtain ⟨x', hx', hfx⟩ := except_mem_mapM hzs y hy
      exact ⟨x', List.mem_cons_of_mem x hx', hfx⟩

/-- Each item of a list that is gone through yields what comes out for it. -/
theorem except_mapM_mem {f : α → Except Fault β} : ∀ {xs : List α} {ys : List β},
    xs.mapM f = .ok ys → ∀ x ∈ xs, ∃ y ∈ ys, f x = .ok y
  | [], _, _, x, hx => absurd hx List.not_mem_nil
  | x :: xs, ys, h, x', hx' => by
    rw [List.mapM_cons] at h
    obtain ⟨z, hz, h⟩ := except_bind_ok.1 h
    obtain ⟨zs, hzs, h⟩ := except_bind_ok.1 h
    obtain rfl := except_pure_ok.1 h
    rcases List.mem_cons.1 hx' with rfl | hx'
    · exact ⟨z, List.mem_cons_self, hz⟩
    · obtain ⟨y, hy, hfx⟩ := except_mapM_mem hzs x' hx'
      exact ⟨y, List.mem_cons_of_mem z hy, hfx⟩

end Play

/-- A generator whose words are all zero. -/
def stillChance : Chance := ⟨⟨#[], 0⟩, 0⟩

end CardLesson
