/-
# What immunities have left

An immunity to debuffs has a supply of uses or, when it counts no uses, of turns; one without a
count that is there for the rest of the lesson needs none. Absorbing a debuff takes one from the
supplies, uses before turns and from the front of the list, and an immunity with nothing left goes.

What is left of the buffs is said at once for any number of debuffs: `Supply.drain` takes so many
from one supply, and `drained` takes them from the uses as long as there are any and the rest from
the turns. Taking some and then some more is taking both together, and what is taken is missing
afterwards.

Key definitions: `Buff.uses`, `Buff.turns`, `Supply`, `Supply.drain`, `charges`, `budget`,
`drained`.
Key theorems: `Supply.total_drain`, `Supply.drain_drain`, `drained_drained`, `filter_drained`,
`budget_drained`, `budget_congr`.
-/
import CardLesson.Proofs.Buffs
import CardLesson.Proofs.Sameness
import Mathlib.Data.ENat.Lattice

namespace CardLesson

/-! ### What immunities have left -/

/-- How often one can be taken from a whole number before it is zero. -/
def Datum.left (d : Datum) : Nat :=
  match d.quantity with
  | .ok (.whole n) => n.toNat
  | _ => 0

theorem Datum.left_of_quantity {d : Datum} {n : Int} (h : d.quantity = .ok (.whole n)) :
    d.left = n.toNat := by
  rw [Datum.left, h]

@[simp] theorem Datum.left_whole (n : Int) : (Datum.whole n).left = n.toNat := rfl

namespace Buff

/-- The uses that an immunity has left, when it counts uses. -/
def uses (b : Buff) : Nat := if b.is .noDebuff && !b.count.isNull then b.count.left else 0

/-- The turns that an immunity has left, when it counts no uses. -/
def turns (b : Buff) : Nat := if b.is .noDebuff && b.count.isNull then b.duration.left else 0

/-- An immunity that nothing is taken from: it counts no uses and stays for the rest of the
lesson. -/
def shields (b : Buff) : Bool := b.is .noDebuff && b.count.isNull && b.indefinite

/-- The turns of the buff are a whole number, and so are its uses when it counts them. -/
structure Counted (b : Buff) : Prop where
  duration : ∃ n, b.duration.quantity = .ok (.whole n)
  count : b.count.isNull = false → ∃ n, b.count.quantity = .ok (.whole n)

variable {b : Buff}

theorem uses_ne_zero (h : b.uses ≠ 0) :
    b.is .noDebuff = true ∧ b.count.isNull = false ∧ b.uses = b.count.left := by
  unfold uses at h ⊢
  by_cases hcond : (b.is .noDebuff && !b.count.isNull) = true
  · rw [if_pos hcond]
    simpa using hcond
  · rw [if_neg hcond] at h
    exact absurd rfl h

theorem turns_ne_zero (h : b.turns ≠ 0) :
    b.is .noDebuff = true ∧ b.count.isNull = true ∧ b.turns = b.duration.left := by
  unfold turns at h ⊢
  by_cases hcond : (b.is .noDebuff && b.count.isNull) = true
  · rw [if_pos hcond]
    simpa using hcond
  · rw [if_neg hcond] at h
    exact absurd rfl h

/-- What has turns left is not there for the rest of the lesson. -/
theorem indefinite_of_left (h : b.duration.left ≠ 0) : b.indefinite = false := by
  unfold Datum.left at h
  split at h
  · next n hn =>
    rw [indefinite_eq hn, decide_eq_false_iff_not]
    omega
  · exact absurd rfl h

end Buff

/-! ### Supplies -/

/-- A supply of immunities: what is left of it in each one, and the one with so much left. -/
structure Supply where
  of : Buff → Nat
  left : Buff → Nat → Buff
  of_left : ∀ {b : Buff} (n : Nat), of b ≠ 0 → of (left b n) = n
  left_left : ∀ (b : Buff) (m n : Nat), left (left b m) n = left b n
  kind_left : ∀ (b : Buff) (n : Nat), (left b n).kind = b.kind
  immune : ∀ {b : Buff}, of b ≠ 0 → b.is .noDebuff = true
  shields : ∀ {b : Buff}, of b ≠ 0 → b.shields = false ∧ ∀ n, (left b n).shields = false
  counted : ∀ {b : Buff} (n : Nat), b.Counted → (left b n).Counted

namespace Supply

/-- The uses of immunities. -/
def uses : Supply where
  of := Buff.uses
  left b n := { b with count := .whole n }
  of_left {b} n h := by
    have hb : ({ b with count := .whole n } : Buff).is .noDebuff = true := (Buff.uses_ne_zero h).1
    simp [Buff.uses, hb, Datum.isNull]
  left_left _ _ _ := rfl
  kind_left _ _ := rfl
  immune h := (Buff.uses_ne_zero h).1
  shields {b} h := by
    obtain ⟨-, hnull, -⟩ := Buff.uses_ne_zero h
    have hcounts (n : Nat) : (Datum.whole n).isNull = false := rfl
    simp [Buff.shields, hnull, hcounts]
  counted n h := ⟨h.duration, fun _ => ⟨n, rfl⟩⟩

/-- The turns of immunities that count no uses. -/
def turns : Supply where
  of := Buff.turns
  left b n := { b with duration := .whole n }
  of_left {b} n h := by
    obtain ⟨hkind, hnull, -⟩ := Buff.turns_ne_zero h
    have hb : ({ b with duration := .whole n } : Buff).is .noDebuff = true := hkind
    simp [Buff.turns, hb, hnull]
  left_left _ _ _ := rfl
  kind_left _ _ := rfl
  immune h := (Buff.turns_ne_zero h).1
  shields {b} h := by
    obtain ⟨-, -, hleft⟩ := Buff.turns_ne_zero h
    have hfinite : b.indefinite = false := Buff.indefinite_of_left (hleft ▸ h)
    have hshorter (n : Nat) : ({ b with duration := .whole n } : Buff).indefinite = false := by
      rw [Buff.indefinite_eq (n := n) rfl, decide_eq_false_iff_not]
      omega
    simp [Buff.shields, hfinite, hshorter]
  counted n h := ⟨⟨n, rfl⟩, h.count⟩

variable (s : Supply)

/-- All that is left of the supply. -/
def total (bs : List Buff) : Nat := (bs.map s.of).sum

/-- Takes so much from the supply, from the front of the list. An immunity with nothing left of it
goes. -/
def drain : Nat → List Buff → List Buff
  | _, [] => []
  | n, b :: bs =>
    if s.of b = 0 ∨ n = 0 then b :: drain n bs
    else if s.of b ≤ n then drain (n - s.of b) bs
    else s.left b (s.of b - n) :: bs

@[simp] theorem total_cons (b : Buff) (bs : List Buff) :
    s.total (b :: bs) = s.of b + s.total bs := by
  simp [total]

@[simp] theorem drain_zero : ∀ bs : List Buff, s.drain 0 bs = bs
  | [] => rfl
  | b :: bs => by simp [drain, drain_zero bs]

theorem drain_cons_of_empty {b : Buff} (h : s.of b = 0) (n : Nat) (bs : List Buff) :
    s.drain n (b :: bs) = b :: s.drain n bs := by
  simp [drain, h]

/-- Nothing is taken from a supply with nothing left. -/
theorem drain_of_total_zero (n : Nat) : ∀ {bs : List Buff}, s.total bs = 0 → s.drain n bs = bs
  | [], _ => rfl
  | b :: bs, h => by
    rw [total_cons] at h
    have hb : s.of b = 0 := by omega
    have hbs : s.total bs = 0 := by omega
    rw [drain_cons_of_empty s hb, drain_of_total_zero n hbs]

/-- What is taken is missing afterwards. -/
theorem total_drain (n : Nat) (bs : List Buff) : s.total (s.drain n bs) = s.total bs - n := by
  induction bs generalizing n with
  | nil => simp [drain, total]
  | cons b bs ih =>
    rw [drain]
    by_cases hkeep : s.of b = 0 ∨ n = 0
    · rw [if_pos hkeep, total_cons, total_cons, ih]
      omega
    · rw [if_neg hkeep]
      by_cases hall : s.of b ≤ n
      · rw [if_pos hall, ih, total_cons]
        omega
      · have hb : s.of b ≠ 0 := fun h => hkeep (.inl h)
        rw [if_neg hall, total_cons, total_cons, s.of_left _ hb]
        omega

/-- Taking some and then some more is taking both together. -/
theorem drain_drain (m n : Nat) (bs : List Buff) :
    s.drain n (s.drain m bs) = s.drain (m + n) bs := by
  induction bs generalizing m n with
  | nil => rfl
  | cons b bs ih =>
    by_cases hb : s.of b = 0
    · simp only [drain_cons_of_empty s hb, ih]
    by_cases hm : m = 0
    · rw [hm, drain_zero, Nat.zero_add]
    by_cases hn : n = 0
    · rw [hn, drain_zero, Nat.add_zero]
    have hkeep {k : Nat} (hk : k ≠ 0) : ¬(s.of b = 0 ∨ k = 0) := by simp [hb, hk]
    rw [drain, drain, if_neg (hkeep hm), if_neg (hkeep (k := m + n) (by omega))]
    by_cases hall : s.of b ≤ m
    · rw [if_pos hall, if_pos (by omega), ih]
      congr 1
      omega
    · have hof : s.of (s.left b (s.of b - m)) = s.of b - m := s.of_left _ hb
      have hrest : ¬(s.of b - m = 0 ∨ n = 0) := by omega
      rw [if_neg hall, drain, hof, if_neg hrest]
      by_cases hboth : s.of b ≤ m + n
      · rw [if_pos hboth, if_pos (by omega)]
        congr 1
        omega
      · rw [if_neg hboth, if_neg (by omega), s.left_left]
        congr 2
        omega

/-- Buffs that a supply has nothing to do with stay as they are and in their order. -/
theorem filter_drain {p : Buff → Bool}
    (hp : ∀ {b : Buff}, s.of b ≠ 0 → p b = false ∧ ∀ n, p (s.left b n) = false) (n : Nat)
    (bs : List Buff) : (s.drain n bs).filter p = bs.filter p := by
  induction bs generalizing n with
  | nil => rfl
  | cons b bs ih =>
    rw [drain]
    by_cases hkeep : s.of b = 0 ∨ n = 0
    · rw [if_pos hkeep, List.filter_cons, List.filter_cons, ih]
    · obtain ⟨hb, hleft⟩ := hp fun h => hkeep (.inl h)
      rw [if_neg hkeep, List.filter_cons_of_neg (by simp [hb])]
      by_cases hall : s.of b ≤ n
      · rw [if_pos hall, ih]
      · rw [if_neg hall, List.filter_cons_of_neg (by simp [hleft])]

/-- A supply is in the buffs that have some of it. -/
theorem total_filter {p : Buff → Bool} (hp : ∀ {b : Buff}, s.of b ≠ 0 → p b = true) :
    ∀ bs : List Buff, s.total (bs.filter p) = s.total bs
  | [] => rfl
  | b :: bs => by
    rw [List.filter_cons]
    by_cases hb : p b = true
    · rw [if_pos hb, total_cons, total_cons, total_filter hp bs]
    · have hzero : s.of b = 0 := by
        by_contra hne
        exact hb (hp hne)
      rw [if_neg hb, total_cons, hzero, Nat.zero_add, total_filter hp bs]

/-- Each buff afterwards was there before, or it is one of them with less left. -/
theorem mem_drain {n : Nat} {bs : List Buff} {b' : Buff} (h : b' ∈ s.drain n bs) :
    b' ∈ bs ∨ ∃ b ∈ bs, ∃ k, b' = s.left b k := by
  induction bs generalizing n with
  | nil => cases h
  | cons b bs ih =>
    rw [drain] at h
    by_cases hkeep : s.of b = 0 ∨ n = 0
    · rw [if_pos hkeep] at h
      rcases List.mem_cons.1 h with rfl | h
      · exact .inl List.mem_cons_self
      · rcases ih h with hmem | ⟨b₀, hb₀, hof⟩
        · exact .inl (List.mem_cons_of_mem b hmem)
        · exact .inr ⟨b₀, List.mem_cons_of_mem b hb₀, hof⟩
    · rw [if_neg hkeep] at h
      by_cases hall : s.of b ≤ n
      · rw [if_pos hall] at h
        rcases ih h with hmem | ⟨b₀, hb₀, hof⟩
        · exact .inl (List.mem_cons_of_mem b hmem)
        · exact .inr ⟨b₀, List.mem_cons_of_mem b hb₀, hof⟩
      · rw [if_neg hall] at h
        rcases List.mem_cons.1 h with rfl | h
        · exact .inr ⟨b, List.mem_cons_self, _, rfl⟩
        · exact .inl (List.mem_cons_of_mem b h)

end Supply

/-! ### The budget -/

/-- All that immunities have left. -/
def charges (bs : List Buff) : Nat := Supply.uses.total bs + Supply.turns.total bs

/-- Whether some immunity absorbs debuffs without an end. -/
def shielded (bs : List Buff) : Bool := bs.any Buff.shields

/-- How many debuffs the buffs absorb. -/
def budget (bs : List Buff) : ℕ∞ := if shielded bs then ⊤ else charges bs

/-- The buffs after a number of debuffs: uses are taken as long as there are any, then turns. -/
def drained (n : Nat) (bs : List Buff) : List Buff :=
  Supply.turns.drain (n - Supply.uses.total bs) (Supply.uses.drain n bs)

/-- The turns and uses of the immunities among the buffs are whole numbers. -/
def ImmunitiesCounted (bs : List Buff) : Prop := ∀ b ∈ bs, b.is .noDebuff = true → b.Counted

section Budget

variable {bs bs' : List Buff}

theorem shielded_filter {p : Buff → Bool} (hp : ∀ {b : Buff}, b.shields = true → p b = true) :
    shielded (bs.filter p) = shielded bs := by
  unfold shielded
  rw [List.any_filter]
  congr 1
  funext b
  cases hb : b.shields with
  | false => simp
  | true => simp [hp hb]

theorem shielded_drain (s : Supply) (n : Nat) : shielded (s.drain n bs) = shielded bs := by
  rw [← shielded_filter (p := Buff.shields) id, s.filter_drain s.shields, shielded_filter id]

/-- Taking turns takes no uses. -/
theorem uses_drain_turns (n : Nat) :
    Supply.uses.total (Supply.turns.drain n bs) = Supply.uses.total bs := by
  have hp {b : Buff} (h : Supply.turns.of b ≠ 0) : decide (Supply.uses.of b ≠ 0) = false ∧
      ∀ n, decide (Supply.uses.of (Supply.turns.left b n) ≠ 0) = false := by
    obtain ⟨-, hnull, -⟩ := Buff.turns_ne_zero h
    simp [Supply.uses, Supply.turns, Buff.uses, hnull]
  rw [← Supply.uses.total_filter decide_eq_true, Supply.turns.filter_drain hp,
    Supply.uses.total_filter decide_eq_true]

/-- Taking uses takes no turns. -/
theorem turns_drain_uses (n : Nat) :
    Supply.turns.total (Supply.uses.drain n bs) = Supply.turns.total bs := by
  have hcounts (n : Nat) : (Datum.whole n).isNull = false := rfl
  have hp {b : Buff} (h : Supply.uses.of b ≠ 0) : decide (Supply.turns.of b ≠ 0) = false ∧
      ∀ n, decide (Supply.turns.of (Supply.uses.left b n) ≠ 0) = false := by
    obtain ⟨-, hnull, -⟩ := Buff.uses_ne_zero h
    simp [Supply.uses, Supply.turns, Buff.turns, hnull, hcounts]
  rw [← Supply.turns.total_filter decide_eq_true, Supply.uses.filter_drain hp,
    Supply.turns.total_filter decide_eq_true]

theorem shielded_drained (n : Nat) : shielded (drained n bs) = shielded bs := by
  rw [drained, shielded_drain, shielded_drain]

theorem charges_drained (n : Nat) : charges (drained n bs) = charges bs - n := by
  unfold charges drained
  rw [uses_drain_turns, Supply.total_drain, Supply.total_drain, turns_drain_uses]
  omega

theorem drained_zero : drained 0 bs = bs := by
  simp [drained]

/-- Absorbing some debuffs and then some more is absorbing all of them. -/
theorem drained_drained (m n : Nat) : drained n (drained m bs) = drained (m + n) bs := by
  have huses : Supply.uses.total (drained m bs) = Supply.uses.total bs - m := by
    rw [drained, uses_drain_turns, Supply.total_drain]
  by_cases hm : m ≤ Supply.uses.total bs
  · have hfirst : drained m bs = Supply.uses.drain m bs := by
      rw [drained, Nat.sub_eq_zero_of_le hm, Supply.drain_zero]
    rw [drained, huses, hfirst, Supply.drain_drain, drained]
    congr 1
    omega
  · -- the uses are gone, so more of them is nothing more
    have hnone : Supply.uses.total (drained m bs) = 0 := by omega
    have hgone : Supply.uses.total (Supply.uses.drain m bs) = 0 := by
      rw [Supply.total_drain]
      omega
    have hall : Supply.uses.drain (m + n) bs = Supply.uses.drain m bs := by
      rw [← Supply.drain_drain, Supply.drain_of_total_zero _ n hgone]
    rw [drained, hnone, Supply.drain_of_total_zero _ n hnone, drained, Supply.drain_drain, drained,
      hall]
    congr 1
    omega

/-- Buffs that are no immunities stay as they are and in their order. -/
theorem filter_drained (n : Nat) :
    (drained n bs).filter (!·.is .noDebuff) = bs.filter (!·.is .noDebuff) := by
  have hp (s : Supply) {b : Buff} (h : s.of b ≠ 0) : (!b.is .noDebuff) = false ∧
      ∀ n, (!(s.left b n).is .noDebuff) = false := by
    have hb := s.immune h
    have hleft (n : Nat) : (s.left b n).is .noDebuff = true := by
      rw [Buff.is, s.kind_left]
      exact hb
    simp [hb, hleft]
  rw [drained, Supply.filter_drain _ (hp _), Supply.filter_drain _ (hp _)]

theorem ImmunitiesCounted.drain (h : ImmunitiesCounted bs) (s : Supply) (n : Nat) :
    ImmunitiesCounted (s.drain n bs) := by
  intro b' hb' hkind
  rcases s.mem_drain hb' with hmem | ⟨b, hb, k, rfl⟩
  · exact h b' hmem hkind
  · rw [Buff.is, s.kind_left] at hkind
    exact s.counted k (h b hb hkind)

theorem ImmunitiesCounted.drained (h : ImmunitiesCounted bs) (n : Nat) :
    ImmunitiesCounted (drained n bs) := (h.drain _ _).drain _ _

/-- Only the immunities matter. -/
theorem ImmunitiesCounted.congr (h : ImmunitiesCounted bs)
    (hsame : bs'.filter (·.is .noDebuff) = bs.filter (·.is .noDebuff)) : ImmunitiesCounted bs' := by
  intro b hb hkind
  have hmem : b ∈ bs.filter (·.is .noDebuff) := hsame ▸ List.mem_filter.2 ⟨hb, hkind⟩
  exact h b (List.mem_filter.1 hmem).1 hkind

theorem budget_congr (hsame : bs'.filter (·.is .noDebuff) = bs.filter (·.is .noDebuff)) :
    budget bs' = budget bs := by
  have hshields {b : Buff} (h : b.shields = true) : b.is .noDebuff = true := by
    simp only [Buff.shields, Bool.and_eq_true] at h
    exact h.1.1
  unfold budget charges
  rw [← shielded_filter hshields, ← Supply.uses.total_filter Supply.uses.immune,
    ← Supply.turns.total_filter Supply.turns.immune, hsame, shielded_filter hshields,
    Supply.uses.total_filter Supply.uses.immune, Supply.turns.total_filter Supply.turns.immune]

theorem budget_eq_zero_iff : budget bs = 0 ↔ shielded bs = false ∧ charges bs = 0 := by
  unfold budget
  by_cases h : shielded bs = true
  · simp [h]
  · simp [h]

/-- What is absorbed is missing in the budget, unless it is without an end. -/
theorem budget_drained (n : ℕ) : budget (drained n bs) = budget bs - n := by
  unfold budget
  rw [shielded_drained, charges_drained]
  by_cases h : shielded bs = true
  · rw [if_pos h, if_pos h, ENat.top_sub_natCast]
  · rw [if_neg h, if_neg h, ENat.natCast_sub]

end Budget

end CardLesson
