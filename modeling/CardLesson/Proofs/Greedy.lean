/-
# What the greedy policy decides

The greedy policy tries every card that may be played and names the best: it gains no less than any
other, and more than those before it in the hand. The cards are tried in the order in which their
ids come first in the hand, each id once, and the best so far gives way to a better one only; so of
several that gain the most the first is named.

A play adds whole numbers to the score, so from a finite score all gains are numbers, and can be
compared.

Key definitions: `Lesson.place`, `Lesson.Listed`, `EarliestBest`.
Key theorems: `gainOf_isNumber`, `playableIds_listed`, `bestAfter_earliest`,
`greedy_names_earliest_best`.
-/
import CardLesson.Proofs.Equality
import CardLesson.Proofs.Legality
import CardLesson.Proofs.Ordered

namespace CardLesson

variable {l l' : Lesson} {c c' : Chance} {id : Datum}

/-! ### Scores stay numbers -/

/-- The score is as it was, or a whole number was added to it. -/
def Scored (l l' : Lesson) : Prop :=
  l'.score = l.score ∨ ∃ amount : Int, l.score.add (.whole amount) = .ok l'.score

/-- An effect on pools adds a whole number to the score at most. -/
theorem carryOut_scored {inner : Resolver} {op : Operation} {tr : Option Effect} {k : EffectKind}
    {r : Resolution} (hk : k.isPool = true) (h : carryOut inner l op tr k c = (.ok r, c')) :
    Scored l r.lesson := by
  obtain ⟨hsets, -⟩ := carryOut_sets hk h
  cases k <;> try cases hk
  case scoreFixed | scoreScaleGenki | scoreScaleImpression | scoreScaleMotivation =>
    obtain ⟨amount, score, hscore, hset⟩ := hsets
    rw [hset]
    exact .inr ⟨amount, hscore⟩
  case endLesson =>
    rw [hsets]
    exact .inl rfl
  all_goals
    obtain ⟨_, hset⟩ := hsets
    rw [hset]
    exact .inl rfl

theorem Performed.scored {t : Task} {new : List Task} (h : Performed l c t new l' c') :
    Scored l l' := by
  cases h with
  | pools hk _ hr => exact carryOut_scored hk hr
  | _ => exact .inl rfl

/-- The score is a number. -/
def Lesson.HasScore (l : Lesson) : Prop := l.score ≠ .real .notANumber

theorem Scored.hasScore (h : Scored l l') (hl : l.HasScore) : l'.HasScore := by
  rcases h with h | ⟨amount, h⟩
  · rwa [Lesson.HasScore, h]
  · exact Quantity.add_whole_isNumber h hl

theorem Reaches.hasScore {s s' : Stage} {ms : List Moment} (h : Reaches s ms s')
    (hs : s.lesson.HasScore) : s'.lesson.HasScore := by
  induction h with
  | refl => exact hs
  | step now _ ih => exact ih ((perform_spec now).scored.hasScore hs)

theorem Worked.hasScore {es : List Effect} {ms : List Moment} (h : Worked es l c ms l' c')
    (hl : l.HasScore) : l'.HasScore := by
  obtain ⟨l₁, lines, hrun, rfl⟩ := h
  exact hrun.hasScore hl

/-- **After a play the score is still a number.** -/
theorem play_hasScore {next : Option Lesson} (h : l.play id c = (.ok next, c'))
    (hl : l.HasScore) : (next.getD l).HasScore := by
  obtain ⟨ms, hmade⟩ := play_ok h
  generalize next.getD l = after at hmade
  cases hmade with
  | rejected => exact hl
  | played _ _ _ _ _ _ _ main reacting _ firing =>
    have hfired := firing.hasScore (reacting.hasScore (main.hasScore hl))
    unfold Lesson.putAway
    split <;> exact hfired

/-- From a finite score every gain is a number. -/
theorem gainOf_isNumber {seed : Int} {named : Nat} {g : Quantity}
    (h : gainOf l seed named id = .ok g) (hl : l.score.unrounded.isFinite = true) :
    g ≠ .real .notANumber := by
  have hscore : l.HasScore := fun hnan => by
    rw [hnan] at hl
    cases hl
  obtain ⟨next, hnext, h⟩ := Play.except_bind_ok.1 h
  have hplay : l.play id ⟨.ofSeed seed, named⟩ = (.ok next, (l.play id ⟨.ofSeed seed, named⟩).2) :=
    Prod.ext hnext rfl
  exact Quantity.sub_isNumber h (play_hasScore hplay hscore) hl

/-! ### What is listed as playable -/

namespace Lesson

/-- Where in the hand the first card with an id is. -/
def place (l : Lesson) (id : Datum) : Nat := l.hand.findIdx fun x => x.id.same id

/-- No object among the ids of the hand has two members under one key. -/
def HasKeyedIds (l : Lesson) : Prop := ∀ x ∈ l.hand, x.id.every Datum.isKeyed = true

/-- What the cards of a hand up to some place give to the list of the playable ones: the id of each
that may be played, once, in the order of their first places. -/
structure Listed (l : Lesson) (copies : List Copy) (ids : List Datum) : Prop where
  sound : ∀ id ∈ ids, l.isPlayable id = .ok true ∧ ∃ x, l.findInHand id = some x ∧ x.id = id
  complete : ∀ x ∈ copies, l.isPlayable x.id = .ok true → ∃ id ∈ ids, id.same x.id = true
  once : ids.Pairwise fun a b => a.same b = false
  inOrder : ids.Pairwise fun a b => l.place a < l.place b
  placed : ∀ id ∈ ids, l.place id < copies.length

end Lesson

/-- The same id finds the same card. -/
theorem findInHand_congr {id' : Datum} (hid : id.every Datum.isKeyed = true)
    (hid' : id'.every Datum.isKeyed = true) (h : id.same id' = true) :
    l.findInHand id = l.findInHand id' := by
  have hsame (x : Copy) : x.id.same id = x.id.same id' := Bool.eq_iff_iff.2
    ⟨fun hx => Datum.same_trans hx h,
      fun hx => Datum.same_trans hx (Datum.same_symm id id' hid hid' h)⟩
  unfold Lesson.findInHand
  exact congrArg (l.hand.find? ·) (funext hsame)

theorem isPlayable_congr {id' : Datum} (hid : id.every Datum.isKeyed = true)
    (hid' : id'.every Datum.isKeyed = true) (h : id.same id' = true) :
    l.isPlayable id = l.isPlayable id' := by
  rw [Lesson.isPlayable, Lesson.isPlayable, findInHand_congr hid hid' h]

/-- A playable id of a card is the same as itself. -/
theorem same_self_of_isPlayable {x : Copy} (hkeyed : l.HasKeyedIds) (hx : x ∈ l.hand)
    (h : l.isPlayable x.id = .ok true) : x.id.same x.id = true := by
  obtain ⟨y, hy, -⟩ := (isPlayable_iff.1 h).2
  have hsame : y.id.same x.id = true := List.find?_some (p := fun y : Copy => y.id.same x.id) hy
  have hy := List.mem_of_find?_eq_some hy
  exact Datum.same_trans (Datum.same_symm _ _ (hkeyed y hy) (hkeyed x hx) hsame) hsame

/-- No card before it has the id of a card that may be played, if none that may has it. -/
theorem not_same_before {x : Copy} {before after : List Copy} {found : List Datum}
    (hkeyed : l.HasKeyedIds) (hhand : l.hand = before ++ x :: after) (h : l.Listed before found)
    (hnew : found.any (·.same x.id) = false) (hplayable : l.isPlayable x.id = .ok true) :
    ∀ y ∈ before, y.id.same x.id = false := by
  intro y hy
  have hmem (z : Copy) (hz : z ∈ before ++ x :: after) : z.id.every Datum.isKeyed = true :=
    hkeyed z (hhand ▸ hz)
  have hy' := hmem y (List.mem_append_left _ hy)
  have hx := hmem x (List.mem_append_right _ List.mem_cons_self)
  by_contra hsame
  have hsame := Bool.not_eq_false _ ▸ hsame
  obtain ⟨id, hid, hidy⟩ := h.complete y hy ((isPlayable_congr hy' hx hsame).trans hplayable)
  exact absurd (Datum.same_trans hidy hsame) (List.any_eq_false.1 hnew id hid)

/-- A playable card whose id is not listed yet comes last. -/
theorem Lesson.Listed.snoc {x : Copy} {before after : List Copy} {found : List Datum}
    (hkeyed : l.HasKeyedIds) (hhand : l.hand = before ++ x :: after) (h : l.Listed before found)
    (hnew : found.any (·.same x.id) = false) (hplayable : l.isPlayable x.id = .ok true) :
    l.Listed (before ++ [x]) (found ++ [x.id]) := by
  have hx : x ∈ l.hand := hhand ▸ List.mem_append_right _ List.mem_cons_self
  have hself := same_self_of_isPlayable hkeyed hx hplayable
  have hbefore := not_same_before hkeyed hhand h hnew hplayable
  have hplace : l.place x.id = before.length := by
    have hnone : before.findIdx (fun y => y.id.same x.id) = before.length :=
      List.findIdx_eq_length.2 hbefore
    rw [Lesson.place, hhand, List.findIdx_append, hnone, if_neg (Nat.lt_irrefl _),
      List.findIdx_cons, hself, cond_true, Nat.zero_add]
  have hfind : l.findInHand x.id = some x := by
    have hnone : before.find? (fun y => y.id.same x.id) = none :=
      List.find?_eq_none.2 fun y hy => Bool.not_eq_true _ ▸ hbefore y hy
    rw [Lesson.findInHand, hhand, List.find?_append, hnone, Option.none_or,
      List.find?_cons, hself]
  refine ⟨?_, ?_, ?_, ?_, ?_⟩
  · exact List.forall_mem_append.2 ⟨h.sound, List.forall_mem_singleton.2 ⟨hplayable, x, hfind, rfl⟩⟩
  · refine List.forall_mem_append.2 ⟨fun y hy hplays => ?_, List.forall_mem_singleton.2 fun _ => ?_⟩
    · obtain ⟨id, hid, hsame⟩ := h.complete y hy hplays
      exact ⟨id, List.mem_append_left _ hid, hsame⟩
    · exact ⟨x.id, List.mem_append_right _ List.mem_cons_self, hself⟩
  · refine List.pairwise_append.2 ⟨h.once, List.pairwise_singleton _ _, fun id hid => ?_⟩
    exact List.forall_mem_singleton.2 (Bool.not_eq_true _ ▸ List.any_eq_false.1 hnew id hid)
  · refine List.pairwise_append.2 ⟨h.inOrder, List.pairwise_singleton _ _, fun id hid => ?_⟩
    exact List.forall_mem_singleton.2 (hplace ▸ h.placed id hid)
  · rw [List.length_append, List.length_singleton]
    refine List.forall_mem_append.2 ⟨fun id hid => Nat.lt_succ_of_lt (h.placed id hid), ?_⟩
    exact List.forall_mem_singleton.2 (hplace ▸ Nat.lt_succ_self _)

/-- **What is listed as playable**: the id of each card of the hand that may be played, once, in the
order in which the ids come first in the hand. -/
theorem playableAfter_listed (hkeyed : l.HasKeyedIds) : ∀ {copies before : List Copy}
    {found ids : List Datum}, l.hand = before ++ copies → l.Listed before found →
    l.playableAfter found copies = .ok ids → l.Listed l.hand ids
  | [], before, found, ids, hhand, hfound, h => by
    cases h
    rwa [hhand, List.append_nil]
  | x :: copies, before, found, ids, hhand, hfound, h => by
    have hhand' : l.hand = before ++ [x] ++ copies := by simpa using hhand
    have skip (hx : l.isPlayable x.id = .ok true → ∃ id ∈ found, id.same x.id = true) :
        l.Listed (before ++ [x]) found :=
      { hfound with
        complete := List.forall_mem_append.2 ⟨hfound.complete, List.forall_mem_singleton.2 hx⟩
        placed := fun id hid => by simpa using Nat.lt_succ_of_lt (hfound.placed id hid) }
    rw [Lesson.playableAfter] at h
    split at h
    · next hany => exact playableAfter_listed hkeyed hhand' (skip fun _ => by simpa using hany) h
    · next hany =>
      have hnew := Bool.not_eq_true _ ▸ hany
      obtain ⟨playable, hplayable, h⟩ := Play.except_bind_ok.1 h
      cases playable with
      | false =>
        refine playableAfter_listed hkeyed hhand' (skip fun hx => ?_) h
        cases hx.symm.trans hplayable
      | true =>
        exact playableAfter_listed hkeyed hhand' (hfound.snoc hkeyed hhand hnew hplayable) h

/-- The list of the playable ids is what the hand gives to it. -/
theorem playableIds_listed {ids : List Datum} (hkeyed : l.HasKeyedIds)
    (h : l.playableIds = .ok ids) : l.Listed l.hand ids :=
  playableAfter_listed hkeyed (List.nil_append l.hand).symm
    { sound := List.forall_mem_nil _, complete := List.forall_mem_nil _
      once := .nil, inOrder := .nil, placed := List.forall_mem_nil _ } h

/-! ### The best so far -/

section Best

variable {gain : Datum → Except Fault Quantity} {ids tried : List Datum}
  {best : Option (Datum × Quantity)} {g : Quantity}

/-- The best of some plays with its gain: each play before it gains less, none after it more. There
is none among no plays. -/
def EarliestBest (gain : Datum → Except Fault Quantity) (ids : List Datum) :
    Option (Datum × Quantity) → Prop
  | none => ids = []
  | some (id, g) => gain id = .ok g ∧ ∃ before after, ids = before ++ id :: after ∧
      (∀ other ∈ before, ∃ h, gain other = .ok h ∧ h.lt g = true) ∧
      ∀ other ∈ after, ∃ h, gain other = .ok h ∧ h.le g = true

/-- The gains are numbers. -/
def HasGains (gain : Datum → Except Fault Quantity) (ids : List Datum) : Prop :=
  ∀ id ∈ ids, ∃ g, gain id = .ok g ∧ g ≠ .real .notANumber

theorem HasGains.number (h : HasGains gain ids) (hid : id ∈ ids) (hg : gain id = .ok g) :
    g ≠ .real .notANumber := by
  obtain ⟨q, hq, hne⟩ := h id hid
  exact Except.ok.inj (hg.symm.trans hq) ▸ hne

namespace EarliestBest

variable {q : Quantity} {top other : Datum}

theorem mem (h : EarliestBest gain ids (some (top, q))) : top ∈ ids := by
  obtain ⟨-, before, after, rfl, -⟩ := h
  exact List.mem_append_right _ List.mem_cons_self

/-- No play gains more than the best. -/
theorem bound (hgains : HasGains gain ids) (h : EarliestBest gain ids (some (top, q)))
    (hother : other ∈ ids) : ∃ r, gain other = .ok r ∧ r.le q = true := by
  have hnumber := hgains.number h.mem h.1
  obtain ⟨hq, before, after, rfl, hbefore, hafter⟩ := h
  rcases List.mem_append.1 hother with hbef | hother
  · obtain ⟨r, hr, hlt⟩ := hbefore other hbef
    exact ⟨r, hr, Bool.or_eq_true_iff.2 (.inl hlt)⟩
  · rcases List.mem_cons.1 hother with rfl | hother
    · exact ⟨q, hq, (Quantity.le_iff_rank hnumber hnumber).2 le_rfl⟩
    · exact hafter other hother

/-- A play that comes before the best, in an order that the list is in, gains less. -/
theorem ahead {place : Datum → Nat} (h : EarliestBest gain ids (some (top, q)))
    (horder : ids.Pairwise fun a b => place a < place b) (hother : other ∈ ids)
    (hplace : place other < place top) : ∃ r, gain other = .ok r ∧ r.lt q = true := by
  obtain ⟨-, before, after, rfl, hbefore, -⟩ := h
  have hafter := (List.pairwise_cons.1 (List.pairwise_append.1 horder).2.1).1
  rcases List.mem_append.1 hother with hother | hother
  · exact hbefore other hother
  · rcases List.mem_cons.1 hother with rfl | hother
    · exact absurd hplace (Nat.lt_irrefl _)
    · exact absurd hplace (Nat.lt_asymm (hafter other hother))

/-- A play that gains more than the best so far gains more than all before it. -/
theorem beaten (hgains : HasGains gain (tried ++ [id]))
    (h : EarliestBest gain tried (some (top, q))) (hg : gain id = .ok g) (hlt : q.lt g = true) :
    EarliestBest gain (tried ++ [id]) (some (id, g)) := by
  have htried : HasGains gain tried := fun other hother =>
    hgains other (List.mem_append_left _ hother)
  have hgnumber := hgains.number (List.mem_append_right _ List.mem_cons_self) hg
  have hqnumber := htried.number h.mem h.1
  refine ⟨hg, tried, [], rfl, fun other hother => ?_, List.forall_mem_nil _⟩
  obtain ⟨r, hr, hle⟩ := h.bound htried hother
  have hrnumber := htried.number hother hr
  refine ⟨r, hr, (Quantity.lt_iff_rank hrnumber hgnumber).2 ?_⟩
  calc r.rank ≤ q.rank := (Quantity.le_iff_rank hrnumber hqnumber).1 hle
    _ < g.rank := (Quantity.lt_iff_rank hqnumber hgnumber).1 hlt

/-- A play that does not is behind the best. -/
theorem kept (hgains : HasGains gain (tried ++ [id]))
    (h : EarliestBest gain tried (some (top, q))) (hg : gain id = .ok g)
    (hworse : ¬q.lt g = true) : EarliestBest gain (tried ++ [id]) (some (top, q)) := by
  have hgnumber := hgains.number (List.mem_append_right _ List.mem_cons_self) hg
  have hqnumber := hgains.number (List.mem_append_left _ h.mem) h.1
  rw [Quantity.lt_eq_not_le hqnumber hgnumber, Bool.not_eq_true', Bool.not_eq_false] at hworse
  obtain ⟨hq, before, after, rfl, hbefore, hafter⟩ := h
  refine ⟨hq, before, after ++ [id], by simp, hbefore, ?_⟩
  exact List.forall_mem_append.2 ⟨hafter, List.forall_mem_singleton.2 ⟨g, hg, hworse⟩⟩

/-- A play takes the place of the best so far when it is better. -/
theorem step (hgains : HasGains gain (tried ++ [id])) (h : EarliestBest gain tried best)
    (hg : gain id = .ok g) : EarliestBest gain (tried ++ [id])
      (if (match best with
        | none => true
        | some (_, h) => h.lt g) then some (id, g) else best) := by
  cases best with
  | none =>
    obtain rfl : tried = [] := h
    exact ⟨hg, [], [], rfl, List.forall_mem_nil _, List.forall_mem_nil _⟩
  | some pair =>
    dsimp only
    split
    · next hbetter => exact h.beaten hgains hg hbetter
    · next hworse => exact h.kept hgains hg hworse

end EarliestBest

/-- **The best of all plays is the best so far at the end**, and it is found when all gains are. -/
theorem bestAfter_earliest : ∀ {ids tried : List Datum} {best : Option (Datum × Quantity)},
    HasGains gain (tried ++ ids) → EarliestBest gain tried best →
    ∃ result, bestAfter gain best ids = .ok result ∧ EarliestBest gain (tried ++ ids) result
  | [], tried, best, _, h => ⟨best, rfl, by rwa [List.append_nil]⟩
  | id :: ids, tried, best, hgains, h => by
    obtain ⟨g, hg, -⟩ := hgains id (by simp)
    have hassoc : tried ++ id :: ids = tried ++ [id] ++ ids := by simp
    rw [hassoc] at hgains ⊢
    have hstep := h.step (fun other hother => hgains other (List.mem_append_left _ hother)) hg
    obtain ⟨result, hresult, hbest⟩ := bestAfter_earliest hgains hstep
    exact ⟨result, Play.except_bind_ok.2 ⟨g, hg, hresult⟩, hbest⟩

end Best

/-! ### The decision -/

/-- The greedy policy decides for the best of all plays. -/
theorem select_greedy {seed : Int} {named : Nat} {ids : List Datum}
    {best : Option (Datum × Quantity)} (hids : l.playableIds = .ok ids)
    (hbest : bestAfter (gainOf l seed named) none ids = .ok best) :
    Policy.select (.greedy seed) named l = .ok (best.elim .nothing fun (id, g) =>
      .play id s!"Best immediate score gain (+{g.text})" g, .greedy seed) := by
  refine Play.except_bind_ok.2 ⟨ids, hids, Play.except_bind_ok.2 ⟨best, hbest, ?_⟩⟩
  cases best <;> rfl

/-- **The greedy policy names the earliest best play.** When the cards that may be played are listed
and all of them can be tried, it decides: for none just when none is listed, and else for one that
gains what the decision says, no less than any other, and more than those whose id comes earlier in
the hand. -/
theorem greedy_names_earliest_best {seed : Int} {named : Nat} {ids : List Datum}
    (hscore : l.score.unrounded.isFinite = true)
    (hids : ∀ x ∈ l.hand, x.id.isNull = false ∧ x.id.every Datum.isKeyed = true)
    (hplayable : l.playableIds = .ok ids)
    (hgains : ∀ id ∈ ids, ∃ g, gainOf l seed named id = .ok g) :
    l.Listed l.hand ids ∧ ∃ d, Policy.select (.greedy seed) named l = .ok (d, .greedy seed) ∧
      (d.card = none ↔ ids = []) ∧
      ∀ id, d.card = some id → id ∈ ids ∧ gainOf l seed named id = .ok d.expected ∧
        ∀ other ∈ ids, ∃ g, gainOf l seed named other = .ok g ∧ g.le d.expected = true ∧
          (l.place other < l.place id → g.lt d.expected = true) := by
  have hlisted := playableIds_listed (fun x hx => (hids x hx).2) hplayable
  have hnumbers : HasGains (gainOf l seed named) ids := fun id hid =>
    (hgains id hid).imp fun g hg => ⟨hg, gainOf_isNumber hg hscore⟩
  have hnothing : EarliestBest (gainOf l seed named) [] none := rfl
  obtain ⟨best, hresult, hbest⟩ := bestAfter_earliest hnumbers hnothing
  rw [List.nil_append] at hbest
  refine ⟨hlisted, _, select_greedy hplayable hresult, ?_⟩
  cases best with
  | none =>
    obtain rfl : ids = [] := hbest
    exact ⟨iff_of_true rfl rfl, nofun⟩
  | some pair =>
    obtain ⟨top, g⟩ := pair
    have hnull : top.isNull = false := by
      obtain ⟨x, hx, rfl⟩ := (hlisted.sound top hbest.mem).2
      exact (hids x (List.mem_of_find?_eq_some hx)).1
    have hcard : (Decision.play top s!"Best immediate score gain (+{g.text})" g).card =
        some top := by
      rw [Decision.play, hnull]
      rfl
    refine ⟨iff_of_false (fun h => ?_) (List.ne_nil_of_mem hbest.mem), fun id hid => ?_⟩
    · cases hcard.symm.trans h
    · obtain rfl := Option.some.inj (hcard.symm.trans hid)
      refine ⟨hbest.mem, hbest.1, fun other hother => ?_⟩
      obtain ⟨r, hr, hle⟩ := hbest.bound hnumbers hother
      refine ⟨r, hr, hle, fun hplace => ?_⟩
      obtain ⟨r', hr', hlt⟩ := hbest.ahead hlisted.inOrder hother hplace
      exact Except.ok.inj (hr'.symm.trans hr) ▸ hlt

/-- A card that adds to the score. -/
def scoringCard (id : String) (amount : Int) : Card :=
  { id := .text id, name := .text id
    effects := [.of { kind := .known .scoreFixed, value := .whole amount }] }

/-- A hand with two cards that gain the most, and two copies of one that gains less. -/
def tiedLesson : Lesson :=
  { hand := [⟨.dealt 0, scoringCard "a" 7⟩, ⟨.dealt 1, scoringCard "b" 9⟩,
      ⟨.dealt 2, scoringCard "a" 7⟩, ⟨.dealt 3, scoringCard "c" 9⟩] }

/-- The first of the two is named. -/
theorem greedy_names_first_of_ties : ∃ d, Policy.select (.greedy 0) 0 tiedLesson =
    .ok (d, .greedy 0) ∧ d.card = some (.text "b") ∧ d.expected = .whole 9 := by
  have gains {id : String} {n : Int} (h : (gainOf tiedLesson 0 0 (.text id)).toOption.any
      (fun g => g = .whole n) = true) : gainOf tiedLesson 0 0 (.text id) = .ok (.whole n) := by
    cases hg : gainOf tiedLesson 0 0 (.text id) with
    | error f => simp [hg, Except.toOption] at h
    | ok g =>
      rw [hg] at h
      exact congrArg _ (of_decide_eq_true h)
  have ha : gainOf tiedLesson 0 0 (.text "a") = .ok (.whole 7) := gains (by decide +kernel)
  have hb : gainOf tiedLesson 0 0 (.text "b") = .ok (.whole 9) := gains (by decide +kernel)
  have hc : gainOf tiedLesson 0 0 (.text "c") = .ok (.whole 9) := gains (by decide +kernel)
  have hplayable : tiedLesson.playableIds = .ok [.text "a", .text "b", .text "c"] := by rfl
  obtain ⟨-, d, hselect, hnone, hbest⟩ := greedy_names_earliest_best (l := tiedLesson) rfl
    (by simp [tiedLesson, Copy.id, scoringCard, Datum.isNull, Datum.every, Datum.isKeyed])
    hplayable (by
      simp only [List.forall_mem_cons]
      exact ⟨⟨_, ha⟩, ⟨_, hb⟩, ⟨_, hc⟩, List.forall_mem_nil _⟩)
  obtain ⟨id, hid⟩ := Option.ne_none_iff_exists'.1 fun h => List.cons_ne_nil _ _ (hnone.1 h)
  obtain ⟨hmem, hgain, hmost⟩ := hbest id hid
  obtain ⟨g, hg, hle, hlt⟩ := hmost (.text "b") (by simp)
  obtain rfl := Except.ok.inj (hb.symm.trans hg)
  refine ⟨d, hselect, ?_⟩
  simp only [List.mem_cons, List.not_mem_nil, or_false] at hmem
  rcases hmem with rfl | rfl | rfl
  · rw [← Except.ok.inj (ha.symm.trans hgain)] at hle
    cases hle
  · exact ⟨hid, (Except.ok.inj (hb.symm.trans hgain)).symm⟩
  · have hlt := hlt (by decide)
    rw [← Except.ok.inj (hc.symm.trans hgain)] at hlt
    cases hlt

end CardLesson
