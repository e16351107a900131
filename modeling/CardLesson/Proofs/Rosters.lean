/-
# Which rosters a check lets through

A check of a roster looks at the first card under each id only, and compares the others with it. It
lets through just the rosters whose cards are all sound and in which the cards under one id are one
card: the same card in a deck, and a single one elsewhere. Equality by meaning is symmetric and
transitive, so it does not matter which of the cards under an id comes first, and the order of a
roster does not count.

In an effect of a known kind everything is looked at; an effect of an unknown kind is passed over
with all that is inside it, since a lesson never carries it out (`Effect.Meets`).

Key definitions: `Effect.Meets`, `Effect.IsSound`, `Card.IsSound`, `Card.IsTyped`, `DistinctIds`,
`AgreeingIds`.
Key theorems: `checkEffect_sound`, `Card.passes_iff_sound`, `checkAfter_passed`,
`checkRoster_valid_iff`.
-/
import CardLesson.Proofs.Equality
import CardLesson.Proofs.Ordered
import CardLesson.Proofs.Provenance
import CardLesson.Proofs.Stated

namespace CardLesson

open Report

/-! ### Bounds of numbers -/

namespace Datum

variable {d : Datum} {bound : Int}

/-- Whether the datum is missing or a number, which the not-a-number is not. -/
def isLimit (d : Datum) : Bool := d.isNull || d.number?.any fun q => q ≠ .real .notANumber

/-- The datum is a number from a bound on. -/
def IsAtLeast (d : Datum) (bound : Int) : Prop :=
  ∃ q, d.number? = some q ∧ (Quantity.whole bound).le q = true

theorem isBelow_of_number {q : Quantity} (h : d.number? = some q) :
    isBelow d bound = .ok (q.lt (.whole bound)) := by
  cases d <;> cases h <;> rfl

theorem isLimit_cases (h : d.isLimit = true) :
    d = .null ∨ ∃ q, d.number? = some q ∧ q ≠ .real .notANumber := by
  rw [isLimit, Bool.or_eq_true, Option.any_eq_true] at h
  rcases h with h | ⟨q, hq, hne⟩
  · cases d <;> first
      | exact .inl rfl
      | cases h
  · exact .inr ⟨q, hq, of_decide_eq_true hne⟩

theorem notBelow_iff_isAtLeast (h : d.isLimit = true) :
    d.notBelow bound = true ↔ d.isNull = true ∨ d.IsAtLeast bound := by
  rcases isLimit_cases h with rfl | ⟨q, hq, hne⟩
  · exact iff_of_true rfl (.inl rfl)
  · have hnull : d.isNull = false := by cases d <;> first | rfl | cases hq
    have hbound : Quantity.whole bound ≠ .real .notANumber := nofun
    rw [notBelow_iff, isBelow_of_number hq, Quantity.lt_eq_not_le hne hbound, hnull]
    simp [IsAtLeast, hq]

end Datum

/-! ### Effects that are sound -/

namespace Effect

/-- What a check asks of an effect of a known kind. -/
structure IsSound (e : Effect) : Prop where
  gate : e.kind = .known .conditionGate → e.subEffects ≠ []
  reactive : ∀ k : EffectKind, e.kind = .known k → k.isReactive = true → e.triggered ≠ none
  duration : e.operation.duration.isNull = true ∨ e.operation.duration.IsAtLeast (-1)
  count : e.operation.count.isNull = true ∨ e.operation.count.IsAtLeast 0

/-- One effect is the other or is inside it, and no effect on the way is of an unknown kind, neither
of the two included. -/
inductive Meets : Effect → Effect → Prop
  | self {e : Effect} {k : EffectKind} : e.kind = .known k → Meets e e
  | sub {e s n : Effect} {k : EffectKind} :
    e.kind = .known k → s ∈ e.subEffects → Meets s n → Meets e n
  | triggered {e t n : Effect} {k : EffectKind} :
    e.kind = .known k → e.triggered = some t → Meets t n → Meets e n

variable {e n : Effect} {k : EffectKind} {P : Effect → Prop}

theorem not_meets {raw : Datum} (hk : e.kind = .unknown raw) : ¬e.Meets n := by
  rintro (h | ⟨h, -, -⟩ | ⟨h, -, -⟩) <;> cases h.symm.trans hk

/-- What all effects have that are met is what the effect itself has, and those that are met in the
effects inside it. -/
theorem forall_meets (hk : e.kind = .known k) : (∀ n, e.Meets n → P n) ↔ P e ∧
    (∀ s ∈ e.subEffects, ∀ n, s.Meets n → P n) ∧
      ∀ t, e.triggered = some t → ∀ n, t.Meets n → P n := by
  constructor
  · exact fun h => ⟨h e (.self hk), fun s hs n hn => h n (.sub hk hs hn),
      fun t ht n hn => h n (.triggered hk ht hn)⟩
  · rintro ⟨hself, hsubs, htriggered⟩ n (h | ⟨-, hs, hn⟩ | ⟨-, ht, hn⟩)
    · exact hself
    · exact hsubs _ hs n hn
    · exact htriggered _ ht n hn

end Effect

/-- Whether the turns and the uses of an operation are missing or numbers. -/
def Operation.hasLimits (op : Operation) : Bool := op.duration.isLimit && op.count.isLimit

theorem Operation.isTimed_of_hasLimits {op : Operation} (h : op.hasLimits = true) :
    op.isTimed = true := by
  have hnumber {d : Datum} (h : d.isLimit = true) : (d.isNull || d.isNumber) = true := by
    rcases Datum.isLimit_cases h with rfl | ⟨q, hq, -⟩
    · rfl
    · rw [Datum.isNumber, hq, Option.isSome_some, Bool.or_true]
  obtain ⟨hduration, hcount⟩ := Bool.and_eq_true_iff.1 h
  rw [isTimed, hnumber hduration, hnumber hcount]
  rfl

theorem checkOperation_sound {place : String} {op : Operation} {subs : List Effect}
    {triggered : Option Effect} {k : EffectKind} (hk : op.kind = .known k)
    (h : op.hasLimits = true) :
    Passed (checkOperation place op k subs.isEmpty triggered.isNone) ↔
      Effect.IsSound ⟨op, subs, triggered⟩ := by
  obtain ⟨hduration, hcount⟩ := Bool.and_eq_true_iff.1 h
  rw [checkOperation_passed, Datum.notBelow_iff_isAtLeast hduration,
    Datum.notBelow_iff_isAtLeast hcount, Bool.and_eq_false_imp, Bool.and_eq_false_imp, beq_iff_eq,
    List.isEmpty_eq_false_iff, Option.isNone_eq_false_iff, Option.isSome_iff_ne_none]
  constructor
  · rintro ⟨hgate, hreactive, hturns, huses⟩
    refine ⟨fun h => hgate (Tag.known.inj (hk.symm.trans h)), fun k' h => ?_, hturns, huses⟩
    rw [← Tag.known.inj (hk.symm.trans h)]
    exact hreactive
  · rintro ⟨hgate, hreactive, hturns, huses⟩
    exact ⟨fun h => hgate (h ▸ hk), hreactive k hk, hturns, huses⟩

mutual

/-- **An effect passes when every effect that is met in it is sound.** -/
theorem checkEffect_sound {place : String} : ∀ e : Effect, e.every Operation.hasLimits = true →
    (Passed (checkEffect place e) ↔ ∀ n, e.Meets n → n.IsSound)
  | ⟨op, subs, triggered⟩, h => by
    rw [Effect.every, Bool.and_eq_true, Bool.and_eq_true] at h
    obtain ⟨⟨hop, hsubs⟩, htriggered⟩ := h
    cases hk : op.kind with
    | unknown raw =>
      refine iff_of_true ?_ fun n hn => absurd hn (Effect.not_meets hk)
      rw [checkEffect, hk]
      exact ⟨_, rfl, rfl⟩
    | known k =>
      rw [checkEffect_passed hk, Effect.forall_meets (e := ⟨op, subs, triggered⟩) hk,
        checkOperation_sound hk hop, checkEffects_sound subs hsubs,
        checkTriggered_sound triggered htriggered]
termination_by structural e => e

theorem checkEffects_sound {place : String} : ∀ es : List Effect,
    Effect.everyOf Operation.hasLimits es = true →
      (Passed (checkEffects place es) ↔ ∀ e ∈ es, ∀ n, e.Meets n → n.IsSound)
  | [], _ => iff_of_true ⟨{}, rfl, rfl⟩ fun _ he => absurd he List.not_mem_nil
  | e :: es, h => by
    obtain ⟨he, hes⟩ := Bool.and_eq_true_iff.1 h
    rw [checkEffects_passed, List.forall_mem_cons, checkEffect_sound e he,
      checkEffects_sound es hes]
termination_by structural es => es

theorem checkTriggered_sound {place : String} : ∀ o : Option Effect,
    Effect.everyIn Operation.hasLimits o = true →
      (Passed (checkTriggered place o) ↔ ∀ e, o = some e → ∀ n, e.Meets n → n.IsSound)
  | none, _ => iff_of_true ⟨{}, rfl, rfl⟩ nofun
  | some e, h => by
    rw [checkTriggered, checkEffect_sound e h]
    simp
termination_by structural o => o

end

/-! ### Cards that are sound -/

namespace Card

/-- The card has an id and a name, costs nothing less than nothing, and each effect that is met in
its effects is sound. -/
structure IsSound (c : Card) : Prop where
  id : c.id ≠ .text ""
  name : c.name ≠ .text ""
  cost : 0 ≤ c.cost
  effects : ∀ e ∈ c.effects, ∀ n, e.Meets n → n.IsSound

/-- Id and name of the card are texts, the turns and uses of all its effects are missing or numbers,
and no object in it has two members under one key. -/
structure IsTyped (c : Card) : Prop where
  id : c.id.isText = true
  name : c.name.isText = true
  limits : c.every Operation.hasLimits = true
  keyed : c.isKeyed = true

variable {c : Card}

theorem holds_iff_of_isText {d : Datum} (h : d.isText = true) :
    d.holds = true ↔ d ≠ .text "" := by
  cases d <;> cases h
  simp [Datum.holds]

/-- **A card passes when it is sound.** -/
theorem passes_iff_sound (h : c.IsTyped) : c.Passes ↔ c.IsSound := by
  rw [checkCard_passed, holds_iff_of_isText h.id, holds_iff_of_isText h.name,
    checkEffects_sound c.effects h.limits]
  exact ⟨fun ⟨hid, hname, hcost, heffects⟩ => ⟨hid, hname, hcost, heffects⟩,
    fun ⟨hid, hname, hcost, heffects⟩ => ⟨hid, hname, hcost, heffects⟩⟩

theorem check_returns (h : c.IsTyped) : ∃ r, checkCard c = .ok r :=
  checkCard_returns
    (Effect.everyOf_mono (fun _ => Operation.isTimed_of_hasLimits) c.effects h.limits)

end Card

/-! ### Cards under one id -/

/-- Two cards may stand in one roster: under one id only in a deck, and then they are equal. -/
def Card.Agrees (allowCopies : Bool) (c d : Card) : Prop :=
  c.id = d.id → allowCopies = true ∧ c.same d = true

section Rosters

variable {allowCopies : Bool} {c first : Card} {cards seen rest : List Card}

theorem Card.agrees_symm {d : Card} (hc : c.isKeyed = true) (hd : d.isKeyed = true)
    (h : c.Agrees allowCopies d) : d.Agrees allowCopies c := fun hid =>
  (h hid.symm).imp_right (Card.same_swap hd hc ▸ ·)

theorem Datum.same_iff_eq {d id : Datum} (hid : id.isText = true) : d.same id = true ↔ d = id := by
  cases id <;> cases hid
  cases d <;> simp [same, number?]

theorem findCard_some {id : Datum} (hid : id.isText = true) (h : findCard id seen = some first) :
    first ∈ seen ∧ first.id = id := by
  refine ⟨List.mem_of_find?_eq_some h, (Datum.same_iff_eq hid).1 ?_⟩
  exact List.find?_some (p := fun c : Card => c.id.same id) h

theorem findCard_append {id : Datum} : findCard id (seen ++ [c]) =
    (findCard id seen).or (if c.id.same id then some c else none) := by
  rw [findCard, List.find?_append, List.find?_singleton, findCard]

/-- A card under an id that has been seen is compared with the first card under it. -/
theorem checkAfter_seen (hid : c.id.isText = true) (h : findCard c.id seen = some first) :
    Passed (checkAfter allowCopies seen (c :: rest)) ↔
      (allowCopies = true ∧ first.same c = true) ∧ Passed (checkAfter allowCopies seen rest) := by
  have hkey : c.id.key = .ok c.id := if_pos (Datum.isKey_of_isText hid)
  simp only [Passed, checkAfter, hkey, h, Play.exists_ok_bind, Play.exists_ok_pure,
    valid_append_iff, Except.ok.injEq, exists_eq_left']
  cases allowCopies <;> cases first.same c <;> simp [errorIf, error, valid]

/-- The first card under an id is checked. -/
theorem checkAfter_new (hid : c.id.isText = true) (h : findCard c.id seen = none) :
    Passed (checkAfter allowCopies seen (c :: rest)) ↔
      c.Passes ∧ Passed (checkAfter allowCopies (seen ++ [c]) rest) := by
  have hkey : c.id.key = .ok c.id := if_pos (Datum.isKey_of_isText hid)
  simp only [Passed, checkAfter, hkey, h, Play.exists_ok_bind, Play.exists_ok_pure,
    valid_append_iff, Except.ok.injEq, exists_eq_left', Card.Passes]
  constructor
  · rintro ⟨own, hown, after, hafter, hvalid, hvalid'⟩
    exact ⟨⟨own, hown, hvalid⟩, after, hafter, hvalid'⟩
  · rintro ⟨⟨own, hown, hvalid⟩, after, hafter, hvalid'⟩
    exact ⟨own, hown, after, hafter, hvalid, hvalid'⟩

/-- **What is left of a roster is let through** when each card agrees with the first one seen under
its id, no two of the cards left disagree, and each card passes under whose id none has been
seen. -/
theorem checkAfter_passed : ∀ {cards seen : List Card}, (∀ c ∈ cards, c.IsTyped) →
    (∀ c ∈ seen, c.IsTyped) → (Passed (checkAfter allowCopies seen cards) ↔
      (∀ c ∈ cards, ∀ first, findCard c.id seen = some first →
        allowCopies = true ∧ first.same c = true) ∧
      cards.Pairwise (Card.Agrees allowCopies) ∧
      ∀ c ∈ cards, findCard c.id seen = none → c.Passes)
  | [], _, _, _ => by
    refine iff_of_true ⟨{}, rfl, rfl⟩ ⟨?_, .nil, ?_⟩ <;>
      exact fun _ hc => absurd hc List.not_mem_nil
  | c :: rest, seen, hcards, hseen => by
    obtain ⟨hc, hrest⟩ := List.forall_mem_cons.1 hcards
    simp only [List.forall_mem_cons, List.pairwise_cons]
    cases hfind : findCard c.id seen with
    | some first =>
      rw [checkAfter_seen hc.id hfind, checkAfter_passed hrest hseen]
      have hfirst := hseen first (findCard_some hc.id hfind).1
      constructor
      · rintro ⟨hsame, hknown, hagree, hpass⟩
        refine ⟨⟨fun first' h => Option.some.inj h ▸ hsame, hknown⟩, ⟨fun d hd hid => ?_, hagree⟩,
          nofun, hpass⟩
        -- Both equal the first card under their id.
        obtain ⟨-, hd'⟩ := hknown d hd first (hid ▸ hfind)
        exact ⟨hsame.1, Card.same_trans (Card.same_swap hc.keyed hfirst.keyed ▸ hsame.2) hd'⟩
      · rintro ⟨⟨hsame, hknown⟩, ⟨-, hagree⟩, -, hpass⟩
        exact ⟨hsame first rfl, hknown, hagree, hpass⟩
    | none =>
      have hseen' : ∀ d ∈ seen ++ [c], d.IsTyped := by
        intro d hd
        rcases List.mem_append.1 hd with hd | hd
        · exact hseen d hd
        · exact List.mem_singleton.1 hd ▸ hc
      rw [checkAfter_new hc.id hfind, checkAfter_passed hrest hseen']
      simp only [findCard_append]
      constructor
      · rintro ⟨hpasses, hknown, hagree, hpass⟩
        refine ⟨⟨nofun, fun d hd first h => hknown d hd first (by rw [h]; rfl)⟩,
          ⟨fun d hd hid => hknown d hd c ?_, hagree⟩, fun _ => hpasses, fun d hd h => ?_⟩
        · rw [← hid, hfind, if_pos ((Datum.same_iff_eq hc.id).2 rfl)]
          rfl
        · -- The card passes by its own check, or because it equals this one.
          cases hid : c.id.same d.id with
          | false => exact hpass d hd (by simp [h, hid])
          | true => exact Card.passes_same (hknown d hd c (by simp [h, hid])).2 hpasses
      · rintro ⟨⟨-, hknown⟩, ⟨hagrees, hagree⟩, hpasses, hpass⟩
        refine ⟨hpasses trivial, fun d hd first h => ?_, hagree, fun d hd h => ?_⟩
        · cases hd' : findCard d.id seen with
          | some first' =>
            rw [hd'] at h
            exact hknown d hd first (hd'.trans h)
          | none =>
            rw [hd', Option.none_or, Option.ite_none_right_eq_some] at h
            obtain ⟨hid, h⟩ := h
            obtain rfl := Option.some.inj h
            exact hagrees d hd ((Datum.same_iff_eq (hrest d hd).id).1 hid)
        · exact hpass d hd (Option.or_eq_none_iff.1 h).1

theorem checkAfter_returns : ∀ {cards : List Card} (seen : List Card), (∀ c ∈ cards, c.IsTyped) →
    ∃ r, checkAfter allowCopies seen cards = .ok r
  | [], _, _ => ⟨{}, rfl⟩
  | c :: rest, seen, hcards => by
    obtain ⟨hc, hrest⟩ := List.forall_mem_cons.1 hcards
    have hkey : c.id.key = .ok c.id := if_pos (Datum.isKey_of_isText hc.id)
    simp only [checkAfter, Play.except_bind_ok, hkey, Except.ok.injEq, exists_eq_left']
    cases hfind : findCard c.id seen with
    | some first =>
      obtain ⟨r, hr⟩ := checkAfter_returns seen hrest
      exact ⟨_, Play.except_bind_ok.2 ⟨r, hr, rfl⟩⟩
    | none =>
      obtain ⟨own, hown⟩ := Card.check_returns hc
      obtain ⟨r, hr⟩ := checkAfter_returns (seen ++ [c]) hrest
      exact ⟨_, Play.except_bind_ok.2 ⟨own, hown, Play.except_bind_ok.2 ⟨r, hr, rfl⟩⟩⟩

/-! ### Rosters -/

/-- No two positions of a roster hold cards under one id. -/
def DistinctIds (cards : List Card) : Prop :=
  ∀ i j (hi : i < cards.length) (hj : j < cards.length), i ≠ j → cards[i].id ≠ cards[j].id

/-- Any two positions that hold cards under one id hold equal cards. -/
def AgreeingIds (cards : List Card) : Prop :=
  ∀ i j (hi : i < cards.length) (hj : j < cards.length), i ≠ j → cards[i].id = cards[j].id →
    cards[i].same cards[j] = true

theorem pairwise_iff_positions {R : Card → Card → Prop}
    (hR : ∀ c ∈ cards, ∀ d ∈ cards, R c d → R d c) : cards.Pairwise R ↔
      ∀ i j (hi : i < cards.length) (hj : j < cards.length), i ≠ j → R cards[i] cards[j] := by
  rw [List.pairwise_iff_getElem]
  refine ⟨fun h i j hi hj hne => ?_, fun h i j hi hj hlt => h i j hi hj hlt.ne⟩
  rcases Nat.lt_or_gt_of_ne hne with hlt | hlt
  · exact h i j hi hj hlt
  · exact hR _ (List.getElem_mem hj) _ (List.getElem_mem hi) (h j i hj hi hlt)

theorem pairwise_agrees_iff (h : ∀ c ∈ cards, c.IsTyped) :
    cards.Pairwise (Card.Agrees allowCopies) ↔
      (allowCopies = false → DistinctIds cards) ∧ (allowCopies = true → AgreeingIds cards) := by
  rw [pairwise_iff_positions fun c hc d hd => Card.agrees_symm (h c hc).keyed (h d hd).keyed]
  cases allowCopies <;> simp [Card.Agrees, DistinctIds, AgreeingIds]

theorem checkRoster_passed : Passed (checkRoster cards allowCopies) ↔
    Passed (checkAfter allowCopies [] cards) := by
  simp only [Passed, checkRoster, Play.exists_ok_bind, Play.exists_ok_pure]
  refine exists_congr fun r => and_congr_right fun _ => ?_
  split
  · exact valid_append_iff.trans (and_iff_left rfl)
  · exact Iff.rfl

theorem checkRoster_returns (h : ∀ c ∈ cards, c.IsTyped) :
    ∃ r, checkRoster cards allowCopies = .ok r := by
  obtain ⟨r, hr⟩ := checkAfter_returns [] h
  exact ⟨_, Play.except_bind_ok.2 ⟨r, hr, rfl⟩⟩

theorem checkRoster_sound (h : ∀ c ∈ cards, c.IsTyped) : Passed (checkRoster cards allowCopies) ↔
    cards.Pairwise (Card.Agrees allowCopies) ∧ ∀ c ∈ cards, c.IsSound := by
  rw [checkRoster_passed, checkAfter_passed h fun _ hc => absurd hc List.not_mem_nil]
  refine (and_iff_right fun _ _ _ => nofun).trans (and_congr_right fun _ => ?_)
  exact forall₂_congr fun c hc => (forall_prop_of_true rfl).trans (Card.passes_iff_sound (h c hc))

theorem pairwise_of_perm {R : Card → Card → Prop} {cards' : List Card}
    (hR : ∀ c ∈ cards, ∀ d ∈ cards, R c d → R d c) (hperm : cards.Perm cards')
    (h : cards.Pairwise R) : cards'.Pairwise R := by
  have hboth : cards.Pairwise fun c d => R c d ∧ R d c :=
    h.imp_of_mem fun hc hd hr => ⟨hr, hR _ hc _ hd hr⟩
  exact (hperm.pairwise hboth And.symm).imp And.left

/-- A roster in another order is let through as well. -/
theorem checkRoster_of_perm {cards' : List Card} (h : ∀ c ∈ cards, c.IsTyped)
    (hperm : cards.Perm cards') (hpassed : Passed (checkRoster cards allowCopies)) :
    Passed (checkRoster cards' allowCopies) := by
  obtain ⟨hagree, hsound⟩ := (checkRoster_sound h).1 hpassed
  refine (checkRoster_sound fun c hc => h c (hperm.mem_iff.2 hc)).2 ⟨?_, fun c hc => ?_⟩
  · exact pairwise_of_perm
      (fun c hc d hd => Card.agrees_symm (h c hc).keyed (h d hd).keyed) hperm hagree
  · exact hsound c (hperm.mem_iff.2 hc)

/-- **A check of a roster lets it through just when it is well formed**, and whether it does is not
a matter of the order of the cards. -/
theorem checkRoster_valid_iff (allowCopies : Bool) (h : ∀ c ∈ cards, c.IsTyped) :
    (∃ r, checkRoster cards allowCopies = .ok r ∧ (r.valid = true ↔
      ((allowCopies = false → DistinctIds cards) ∧ (allowCopies = true → AgreeingIds cards)) ∧
        ∀ c ∈ cards, c.IsSound)) ∧
    ∀ cards' : List Card, cards'.Perm cards → ∃ r r', checkRoster cards allowCopies = .ok r ∧
      checkRoster cards' allowCopies = .ok r' ∧ r'.valid = r.valid := by
  have passed_iff {cards : List Card} {r : Report} (hr : checkRoster cards allowCopies = .ok r) :
      Passed (checkRoster cards allowCopies) ↔ r.valid = true := by
    simp [Passed, hr]
  obtain ⟨r, hr⟩ := checkRoster_returns h
  refine ⟨⟨r, hr, ?_⟩, fun cards' hperm => ?_⟩
  · rw [← passed_iff hr, checkRoster_sound h, pairwise_agrees_iff h]
  · have h' : ∀ c ∈ cards', c.IsTyped := fun c hc => h c (hperm.mem_iff.1 hc)
    obtain ⟨r', hr'⟩ := checkRoster_returns h'
    refine ⟨r, r', hr, hr', Bool.eq_iff_iff.2 ?_⟩
    rw [← passed_iff hr, ← passed_iff hr']
    exact ⟨checkRoster_of_perm h' hperm, checkRoster_of_perm h hperm.symm⟩

end Rosters

/-- A card with a gate around an effect, and around one of an unknown kind that is not looked at. -/
def gatedCard : Card where
  id := .text "a"
  name := .text "A"
  effects := [.gate [] [.grant (.known .perfectCondition) (.whole (-1)) .null .null,
    .grant (.unknown (.text "?")) (.whole (-5)) .null .null]]
  rarity := .object [("of", .text "SSR")]

/-- A deck with two copies of the card is let through, so all in it is sound. -/
theorem checkRoster_valid_copies : (∀ c ∈ [gatedCard, .plain "B", gatedCard], c.IsTyped) ∧
    ∃ r, checkRoster [gatedCard, .plain "B", gatedCard] true = .ok r ∧
      AgreeingIds [gatedCard, .plain "B", gatedCard] ∧ gatedCard.IsSound := by
  have htyped : ∀ c ∈ [gatedCard, .plain "B", gatedCard], c.IsTyped := by
    have hgated : gatedCard.IsTyped := ⟨rfl, rfl, by decide, by decide⟩
    have hplain : (Card.plain "B").IsTyped := ⟨rfl, rfl, by decide, by decide⟩
    simp [hgated, hplain]
  obtain ⟨⟨r, hr, hvalid⟩, -⟩ := checkRoster_valid_iff true htyped
  have hok : (checkRoster [gatedCard, .plain "B", gatedCard] true).toOption.any Report.valid := by
    decide +kernel
  rw [hr] at hok
  obtain ⟨⟨-, hagree⟩, hsound⟩ := hvalid.1 hok
  exact ⟨htyped, r, hr, hagree rfl, hsound gatedCard List.mem_cons_self⟩

end CardLesson
