/-
# What is read from a text can be stored

A text gives no more than a text can hold, apart from numbers that are not finite: its whole numbers
have few enough figures, its decimals are rounded, and the keys of an object are distinct, because a
member with a key that was there before takes its place. So a datum that is read and whose numbers
are finite is read again from its own text.

Key definitions: `Datum.isFinite`.
Key theorems: `Json.figuresValue_lt`, `Json.readUnsigned_storable`, `Json.storable_of_read`.
-/
import CardLesson.Proofs.JsonText

namespace CardLesson

/-! ### Data -/

namespace Datum

/-- Whether the datum is no number, or a finite one. -/
def isFinite : Datum → Bool
  | .number (.real x) => x.isFinite
  | _ => true

/-- Whether the datum is finite only if a text can hold it. -/
def isHeld (d : Datum) : Bool := !d.isFinite || d.isStorable

section Every

variable {p q r : Datum → Bool}

mutual

/-- What follows from two tests everywhere holds everywhere. -/
theorem every_of_and (h : ∀ d, p d = true → q d = true → r d = true) :
    ∀ d : Datum, d.every p = true → d.every q = true → d.every r = true
  | .null, hp, hq => h _ hp hq
  | .truth _, hp, hq => h _ hp hq
  | .number _, hp, hq => h _ hp hq
  | .text _, hp, hq => h _ hp hq
  | .list items, hp, hq => by
    rw [every_list] at hp hq ⊢
    exact ⟨h _ hp.1 hq.1, everyItem_of_and h items hp.2 hq.2⟩
  | .object members, hp, hq => by
    rw [every_object] at hp hq ⊢
    exact ⟨h _ hp.1 hq.1, everyMember_of_and h members hp.2 hq.2⟩
termination_by structural d => d

theorem everyItem_of_and (h : ∀ d, p d = true → q d = true → r d = true) :
    ∀ ds : List Datum, everyItem p ds = true → everyItem q ds = true → everyItem r ds = true
  | [], _, _ => rfl
  | d :: ds, hp, hq => by
    obtain ⟨hpd, hpds⟩ := Bool.and_eq_true_iff.1 hp
    obtain ⟨hqd, hqds⟩ := Bool.and_eq_true_iff.1 hq
    exact Bool.and_eq_true_iff.2 ⟨every_of_and h d hpd hqd, everyItem_of_and h ds hpds hqds⟩
termination_by structural ds => ds

theorem everyMember_of_and (h : ∀ d, p d = true → q d = true → r d = true) :
    ∀ ms : List (String × Datum), everyMember p ms = true → everyMember q ms = true →
      everyMember r ms = true
  | [], _, _ => rfl
  | (_, d) :: ms, hp, hq => by
    obtain ⟨hpd, hpms⟩ := Bool.and_eq_true_iff.1 hp
    obtain ⟨hqd, hqms⟩ := Bool.and_eq_true_iff.1 hq
    exact Bool.and_eq_true_iff.2 ⟨every_of_and h d hpd hqd, everyMember_of_and h ms hpms hqms⟩
termination_by structural ms => ms

end

end Every

/-- Storable data are orderly. -/
theorem orderly_of_storable {d : Datum} (h : d.every isStorable = true) :
    d.every isOrderly = true := by
  refine every_of_and (fun d hd _ => ?_) d h h
  match d with
  | .number (.real (.finite ..)) => rfl
  | .number (.whole _) => rfl
  | .object _ => exact hd
  | .null | .truth _ | .text _ | .list _ => rfl

/-- Storable data have no number with too many figures. -/
theorem isPrintable_of_storable {d : Datum} (h : d.every isStorable = true) :
    d.isPrintable = true := by
  refine every_of_and (fun d hd _ => ?_) d h h
  match d with
  | .number (.whole _) => exact hd
  | .number (.real _) => rfl
  | .null | .truth _ | .text _ | .list _ | .object _ => rfl

end Datum

namespace Json

/-! ### Numbers -/

theorem figuresValue_lt : ∀ {ds : List Char}, (∀ c ∈ ds, c.isDigit = true) →
    figuresValue ds < 10 ^ ds.length
  | [], _ => by decide
  | c :: ds, h => by
    obtain ⟨hc, hds⟩ := List.forall_mem_cons.1 h
    have ih := figuresValue_lt hds
    have hsplit := figuresValue_append [c] ds
    have hdigit : figuresValue [c] ≤ 9 := by
      have hle : c.toNat ≤ 57 := (Char.isDigit_iff_toNat.1 hc).2
      rw [figuresValue, List.foldl_cons, List.foldl_nil]
      omega
    have hle := Nat.mul_le_mul_right (10 ^ ds.length) hdigit
    rw [List.singleton_append] at hsplit
    rw [hsplit, List.length_cons, Nat.pow_succ]
    omega

theorem length_toDigits_figuresValue {ds : List Char} (hne : ds ≠ [])
    (hds : ∀ c ∈ ds, c.isDigit = true) :
    (Nat.toDigits 10 (figuresValue ds)).length ≤ ds.length :=
  (Nat.length_toDigits_le_iff (by norm_num) (List.length_pos_iff.2 hne)).2 (figuresValue_lt hds)

section Numbers

variable {negative : Bool} {cs rest ws : List Char} {q : Quantity}

theorem isWhole_of_readWhole (h : readWhole cs = some (ws, rest)) :
    ws ≠ [] ∧ ∀ c ∈ ws, c.isDigit = true := by
  unfold readWhole at h
  split at h
  · cases h
    exact ⟨by simp, by simp [Char.isDigit]⟩
  · split at h
    · cases h
    · next hfigures =>
      cases h
      exact ⟨by simpa using hfigures, fun c => isDigit_of_mem_figures⟩

/-- **A number that is read can be stored if it is finite.** -/
theorem readUnsigned_storable (h : readUnsigned negative cs = .ok (q, rest))
    (hfinite : (Datum.number q).isFinite = true) : q.isStorable = true := by
  unfold readUnsigned at h
  split at h
  · cases h
  · next ws rest' hws =>
    obtain ⟨hne, hdigits⟩ := isWhole_of_readWhole hws
    have hlength := length_toDigits_figuresValue hne hdigits
    dsimp only at h
    split at h
    · split at h
      · cases h
      · next hlimit =>
        obtain ⟨rfl, -⟩ := Prod.mk.inj (Except.ok.inj h)
        have habs : (if negative then -(figuresValue ws : ℤ) else figuresValue ws).natAbs =
            figuresValue ws := by
          cases negative <;> simp
        refine decide_eq_true ?_
        rw [habs]
        omega
    · obtain ⟨rfl, -⟩ := Prod.mk.inj (Except.ok.inj h)
      rw [Double.ofDecimal_eq] at hfinite ⊢
      have hnonneg : ∀ (n : ℕ) (e : ℤ), (0 : ℚ) ≤ n * 10 ^ e := fun n e => by positivity
      rcases Double.rounded_standard (s := negative) (hnonneg _ _) with hrounded | hrounded
      · rw [hrounded] at hfinite
        cases hfinite
      · exact hrounded

end Numbers

/-! ### Members -/

section Members

variable {members : Members} {key : String} {d : Datum}

theorem hasMember_iff : hasMember key members = true ↔ key ∈ members.map Prod.fst := by
  rw [hasMember, List.any_eq_true, List.mem_map]
  exact exists_congr fun m => and_congr_right fun _ => beq_iff_eq

theorem mem_putMember : ∀ {members : Members}, ∀ m ∈ putMember key d members,
    m = (key, d) ∨ m ∈ members
  | [], m, hm => .inl (List.mem_singleton.1 hm)
  | (k, e) :: members, m, hm => by
    rw [putMember] at hm
    split at hm
    · next hkey =>
      subst hkey
      rcases List.mem_cons.1 hm with rfl | hm
      · exact .inl rfl
      · exact .inr (List.mem_cons_of_mem _ hm)
    · rcases List.mem_cons.1 hm with rfl | hm
      · exact .inr List.mem_cons_self
      · exact (mem_putMember m hm).imp_right (List.mem_cons_of_mem _)

/-- A member with a key that was there before takes its place. -/
theorem map_putMember : ∀ {members : Members}, hasMember key members = true →
    (putMember key d members).map Prod.fst = members.map Prod.fst
  | (k, e) :: members, h => by
    rw [putMember]
    split
    · rfl
    · next hkey =>
      have hrest : hasMember key members = true := by
        rw [hasMember_iff, List.map_cons, List.mem_cons] at h
        exact hasMember_iff.2 (h.resolve_left (Ne.symm hkey))
      rw [List.map_cons, List.map_cons, map_putMember hrest]

/-- The members of an object with one more. -/
def withMember (key : String) (d : Datum) (members : Members) : Members :=
  if hasMember key members then putMember key d members else (key, d) :: members

theorem withMember_nodup (h : (members.map Prod.fst).Nodup) :
    ((withMember key d members).map Prod.fst).Nodup := by
  unfold withMember
  split
  · next hkey => rwa [map_putMember hkey]
  · next hkey => exact List.nodup_cons.2 ⟨mt hasMember_iff.2 hkey, h⟩

theorem withMember_every {p : Datum → Bool} (hd : d.every p = true)
    (h : Datum.everyMember p members = true) :
    Datum.everyMember p (withMember key d members) = true := by
  rw [Datum.everyMember_iff] at h ⊢
  intro m hm
  have hm : m = (key, d) ∨ m ∈ members := by
    unfold withMember at hm
    split at hm
    · exact mem_putMember m hm
    · exact List.mem_cons.1 hm
  rcases hm with rfl | hm
  · exact hd
  · exact h m hm

end Members

/-! ### Readers -/

theorem readWord_held {cs rest : List Char} {d : Datum} (h : readWord cs = some (d, rest)) :
    d.every Datum.isHeld = true := by
  have hwords : (words.all fun w => w.2.every Datum.isHeld) = true := by decide
  obtain ⟨w, hw, hafter⟩ := List.exists_of_findSome?_eq_some h
  obtain ⟨rest', -, heq⟩ := Option.map_eq_some_iff.1 hafter
  obtain ⟨rfl, -⟩ := Prod.mk.inj heq
  exact List.all_eq_true.1 hwords w hw

theorem readNumber_held {cs rest : List Char} {d : Datum} (h : readNumber cs = .ok (d, rest)) :
    d.every Datum.isHeld = true := by
  have hunsigned : ∀ {negative : Bool} {cs : List Char}, ((readUnsigned negative cs).map
      fun r => (Datum.number r.1, r.2)) = .ok (d, rest) → d.every Datum.isHeld = true := by
    intro negative cs h
    cases hread : readUnsigned negative cs with
    | error flaw =>
      rw [hread] at h
      cases h
    | ok r =>
      rw [hread] at h
      obtain ⟨rfl, -⟩ := Prod.mk.inj (Except.ok.inj h)
      show (!(Datum.number r.1).isFinite || r.1.isStorable) = true
      cases hfinite : (Datum.number r.1).isFinite with
      | false => rfl
      | true => exact readUnsigned_storable hread hfinite
  unfold readNumber at h
  split at h
  exact hunsigned h

theorem object_held {members : Members} (hkeys : (members.map Prod.fst).Nodup)
    (h : Datum.everyMember Datum.isHeld members = true) :
    (Datum.object members.reverse).every Datum.isHeld = true := by
  refine Datum.every_object.2 ⟨?_, ?_⟩
  · have hnodup : (members.reverse.map Prod.fst).Nodup := by
      rwa [List.map_reverse, List.nodup_reverse]
    exact decide_eq_true hnodup
  · rw [Datum.everyMember_iff] at h ⊢
    exact fun m hm => h m (List.mem_reverse.1 hm)

mutual

/-- **What a text gives is finite only if a text can hold it.** -/
theorem readValue_held : ∀ (steps : ℕ) {cs rest : List Char} {d : Datum},
    readValue steps cs = .ok (d, rest) → d.every Datum.isHeld = true
  | 0, _, _, _, h => nomatch h
  | steps + 1, cs, rest, d, h => by
    rw [readValue] at h
    split at h
    · split at h
      · cases h
        rfl
      · cases h
    · split at h
      · cases h
        rfl
      · exact readItems_held steps rfl h
    · split at h
      · cases h
        rfl
      · have hkeys : (([] : Members).map Prod.fst).Nodup := List.nodup_nil
        exact readMembers_held steps rfl hkeys h
    · split at h
      · next hword =>
        cases h
        exact readWord_held hword
      · exact readNumber_held h

theorem readItems_held : ∀ (steps : ℕ) {done : List Datum} {cs rest : List Char} {d : Datum},
    Datum.everyItem Datum.isHeld done = true → readItems steps done cs = .ok (d, rest) →
    d.every Datum.isHeld = true
  | 0, _, _, _, _, _, h => nomatch h
  | steps + 1, done, cs, rest, d, hdone, h => by
    rw [readItems] at h
    split at h
    · cases h
    · next d' rest' hread =>
      have hdone' : Datum.everyItem Datum.isHeld (d' :: done) = true :=
        Bool.and_eq_true_iff.2 ⟨readValue_held steps hread, hdone⟩
      split at h
      · cases h
        refine Datum.every_list.2 ⟨rfl, ?_⟩
        rw [Datum.everyItem_iff] at hdone' ⊢
        exact fun e he => hdone' e (List.mem_reverse.1 he)
      · exact readItems_held steps hdone' h
      · cases h

theorem readMembers_held : ∀ (steps : ℕ) {done : Members} {cs rest : List Char} {d : Datum},
    Datum.everyMember Datum.isHeld done = true → (done.map Prod.fst).Nodup →
    readMembers steps done cs = .ok (d, rest) → d.every Datum.isHeld = true
  | 0, _, _, _, _, _, _, h => nomatch h
  | steps + 1, done, cs, rest, d, hdone, hkeys, h => by
    rw [readMembers] at h
    split at h
    · split at h
      · cases h
      · split at h
        · split at h
          · cases h
          · next d' rest' hread =>
            have hd' := readValue_held steps hread
            dsimp only at h
            split at h
            · cases h
              exact object_held (withMember_nodup hkeys) (withMember_every hd' hdone)
            · exact readMembers_held steps (withMember_every hd' hdone) (withMember_nodup hkeys) h
            · cases h
        · cases h
    · cases h

end

/-- **What is read from a text can be stored if its numbers are finite.** -/
theorem storable_of_read {cs : List Char} {d : Datum} (h : read cs = .ok d)
    (hfinite : d.every Datum.isFinite = true) : d.every Datum.isStorable = true := by
  unfold read at h
  split at h
  · cases h
  · next d' rest hread =>
    split at h
    · cases h
      refine Datum.every_of_and (fun d hheld hfinite => ?_) d (readValue_held _ hread) hfinite
      rw [Datum.isHeld, hfinite] at hheld
      exact hheld
    · cases h

end Json
end CardLesson
