/-
# What plays consume

A card may ask for motivation or for good impression by effects that consume them. Whether it can be
paid for is decided by the first such effect alone, but each of them takes its share when it is
carried out, and takes what is there when that is less. So a play that is accepted takes all that
the card declares just when that was there; a play is rejected for certain only when the first share
was not.

Key definitions: `Store`, `Store.kinds`, `Moment.worksOn`, `Card.declared`, `Card.declaredPoints`,
`Card.firstPoints`, `Effect.Consumes`.
Key theorems: `carryOut_sparesStore`, `perform_consumes`, `Reaches.store_eq`, `Reaches.performs`,
`requiredAmount_eq`, `Made.store_eq`, `first_consumption_is_covered`.
-/
import CardLesson.Proofs.Costs
import CardLesson.Proofs.Legality

namespace CardLesson

/-! ### Stores -/

/-- A pool that cards consume. -/
inductive Store where
  | motivation
  | goodImpression
  deriving DecidableEq, Repr

namespace Store

def of : Store → Lesson → Quantity
  | .motivation, l => l.motivation
  | .goodImpression, l => l.goodImpression

/-- The kind of the effects that consume the store. -/
def consumption : Store → EffectKind
  | .motivation => .consumeMotivation
  | .goodImpression => .consumeImpression

/-- The kinds of the effects that work on the store. -/
def kinds : Store → List EffectKind
  | .motivation => [.motivation, .consumeMotivation]
  | .goodImpression => [.impression, .consumeImpression, .multiplyImpression]

/-- Why a card is rejected that the store does not cover. -/
def obstacle : Store → Lesson.Obstacle
  | .motivation => .motivation
  | .goodImpression => .goodImpression

theorem consumption_mem_kinds (s : Store) : s.consumption ∈ s.kinds := by
  cases s <;> decide

theorem of_congr (s : Store) {l l' : Lesson} (hmotivation : l'.motivation = l.motivation)
    (himpression : l'.goodImpression = l.goodImpression) : s.of l' = s.of l := by
  cases s with
  | motivation => exact hmotivation
  | goodImpression => exact himpression

end Store

/-- Whether the moment carries out an effect that works on a store. -/
def Moment.worksOn (s : Store) (m : Moment) : Bool := s.kinds.any fun k => m.carriesOut k

variable {s : Store} {l l' : Lesson} {c c' : Chance} {n : ℤ}

/-! ### What one task does to a store -/

/-- An effect on pools of another kind leaves the store as it is. -/
theorem carryOut_sparesStore {inner : Resolver} {op : Operation} {tr : Option Effect}
    {k : EffectKind} {r : Resolution} (hpool : k.isPool = true) (hk : k ∉ s.kinds)
    (h : carryOut inner l op tr k c = (.ok r, c')) : s.of r.lesson = s.of l := by
  obtain ⟨hsets, -⟩ := carryOut_sets hpool h
  cases k <;> try cases hpool
  case scoreFixed | scoreScaleGenki | scoreScaleImpression | scoreScaleMotivation =>
    obtain ⟨_, _, -, hset⟩ := hsets
    rw [hset]
    exact s.of_congr rfl rfl
  case impression | multiplyImpression | consumeImpression =>
    obtain ⟨_, hset⟩ := hsets
    cases s with
    | motivation => rw [hset]; rfl
    | goodImpression => exact absurd (by decide) hk
  case motivation | consumeMotivation =>
    obtain ⟨_, hset⟩ := hsets
    cases s with
    | motivation => exact absurd (by decide) hk
    | goodImpression => rw [hset]; rfl
  case endLesson =>
    rw [hsets]
    exact s.of_congr rfl rfl
  all_goals
    obtain ⟨_, hset⟩ := hsets
    rw [hset]
    exact s.of_congr rfl rfl

variable {t : Task} {new : List Task} {e : Effect}

/-- A task that does not work on the store leaves it as it is. -/
theorem perform_sparesStore (h : perform l t c = (.ok (new, l'), c'))
    (hidle : Moment.worksOn s ⟨t, l, c⟩ = false) : s.of l' = s.of l := by
  cases perform_spec h with
  | @pools e k r hpool hpass hrule =>
    exact carryOut_sparesStore hpool (fun hk => List.any_eq_false.1 hidle k hk hpass) hrule
  | _ => exact s.of_congr rfl rfl

/-- What consuming takes from the store. -/
theorem carryOut_consumption {inner : Resolver} {op : Operation} {tr : Option Effect}
    {r : Resolution} (h : carryOut inner l op tr s.consumption c = (.ok r, c')) :
    ∃ amount, op.wholeValue = .ok amount ∧ consume (s.of l) amount = .ok (s.of r.lesson) := by
  cases s with
  | motivation =>
    obtain ⟨amount, hamount, h⟩ := Play.except_bind_ok.1 (Play.except_ok.1 h).1
    obtain ⟨left, hleft, h⟩ := Play.except_bind_ok.1 h
    obtain ⟨line, -, h⟩ := Play.except_bind_ok.1 h
    obtain rfl := Play.except_pure_ok.1 h
    exact ⟨amount, hamount, hleft⟩
  | goodImpression =>
    obtain ⟨amount, hamount, h⟩ := Play.except_bind_ok.1 (Play.except_ok.1 h).1
    obtain ⟨left, hleft, h⟩ := Play.except_bind_ok.1 h
    obtain ⟨line, -, h⟩ := Play.except_bind_ok.1 h
    obtain rfl := Play.except_pure_ok.1 h
    exact ⟨amount, hamount, hleft⟩

namespace Effect

/-- An effect consumes the store, under no conditions and by a whole number from zero on. -/
structure Consumes (e : Effect) (s : Store) : Prop where
  kind : e.is s.consumption = true
  free : e.operation.conditions = []
  value : ∃ v : ℕ, e.operation.value = .whole v

/-- The share that an effect takes. -/
def points (e : Effect) : ℤ := e.operation.value.points

theorem Consumes.points_nonneg (h : e.Consumes s) : 0 ≤ e.points := by
  obtain ⟨v, hv⟩ := h.value
  rw [points, hv]
  exact Int.natCast_nonneg v

theorem Consumes.passes (h : e.Consumes s) (l : Lesson) : l.passes s.consumption e = true := by
  rw [Lesson.passes, h.kind, h.free]
  rfl

theorem Consumes.wholeValue (h : e.Consumes s) : e.operation.wholeValue = .ok e.points := by
  obtain ⟨v, hv⟩ := h.value
  rw [Operation.wholeValue, points, hv]
  rfl

end Effect

/-- **An effect that consumes the store takes its share**, or what is there. -/
theorem perform_consumes (he : e.Consumes s) (hstore : s.of l = .whole n)
    (h : perform l (.effect e) c = (.ok (new, l'), c')) :
    s.of l' = .whole (max 0 (n - e.points)) := by
  have hadmission := admission_of_passes (he.passes l) (by cases s <;> rfl)
  have hgate : s.consumption ≠ .conditionGate := by cases s <;> decide
  have htrigger : s.consumption ≠ .triggerRandomHandCard := by cases s <;> decide
  obtain ⟨admission, c₁, hfirst, h⟩ := Play.bind_ok.1 h
  obtain ⟨hadmitted, rfl⟩ := Play.except_ok.1 hfirst
  obtain rfl := Except.ok.inj (hadmission.symm.trans hadmitted)
  dsimp only at h
  rw [if_neg hgate, if_neg htrigger] at h
  obtain ⟨r, c₂, hrule, h⟩ := Play.bind_ok.1 h
  obtain ⟨hr, -⟩ := Play.pure_ok.1 h
  obtain ⟨amount, hamount, hconsumed⟩ := carryOut_consumption hrule
  obtain rfl := Except.ok.inj (he.wholeValue.symm.trans hamount)
  rw [hstore] at hconsumed
  cases hr
  exact consume_whole hconsumed

/-! ### What a run does to a store -/

/-- The share that a task takes. -/
def Task.points : Task → ℤ
  | .effect e => e.points
  | .card _ => 0

/-- What is left of a store after some shares were taken from it. -/
def leftOf (n : ℤ) (shares : List ℤ) : ℤ := shares.foldl (fun n v => max 0 (n - v)) n

theorem leftOf_append (n : ℤ) (shares shares' : List ℤ) :
    leftOf n (shares ++ shares') = leftOf (leftOf n shares) shares' := List.foldl_append

/-- Cutting off at zero each time is cutting off once. -/
theorem leftOf_eq : ∀ {shares : List ℤ} {n : ℤ}, 0 ≤ n → (∀ v ∈ shares, 0 ≤ v) →
    leftOf n shares = max 0 (n - shares.sum)
  | [], n, hn, _ => by
    rw [leftOf, List.foldl_nil, List.sum_nil]
    omega
  | v :: shares, n, hn, h => by
    rw [List.forall_mem_cons] at h
    have hsum : 0 ≤ shares.sum := List.sum_nonneg h.2
    have hrest : leftOf (max 0 (n - v)) shares = max 0 (max 0 (n - v) - shares.sum) :=
      leftOf_eq (le_max_left 0 _) h.2
    rw [List.sum_cons]
    refine hrest.trans ?_
    omega

/-- The moments of a run that work on a store. -/
def working (s : Store) (ms : List Moment) : List Moment := ms.filter (·.worksOn s)

/-- The shares that are taken where only effects that consume the store work on it. -/
def sharesOf (s : Store) (ms : List Moment) : List ℤ :=
  ((working s ms).map (·.task)).map Task.points

variable {ms : List Moment} {st st' : Stage}

/-- **What a run leaves of a store**, where only effects that consume it work on it. -/
theorem Reaches.store_eq (h : Reaches st ms st') (hstore : s.of st.lesson = .whole n)
    (hms : ∀ m ∈ working s ms, ∃ e : Effect, m.task = .effect e ∧ e.Consumes s) :
    s.of st'.lesson = .whole (leftOf n (sharesOf s ms)) := by
  induction h generalizing n with
  | refl => exact hstore
  | @step t rest new l l' c c' ms st now _ ih =>
    cases hworks : Moment.worksOn s ⟨t, l, c⟩ with
    | false =>
      have hrest : working s (⟨t, l, c⟩ :: ms) = working s ms := by
        rw [working, List.filter_cons, hworks]
        rfl
      rw [sharesOf, hrest]
      rw [hrest] at hms
      exact ih ((perform_sparesStore now hworks).trans hstore) hms
    | true =>
      have hrest : working s (⟨t, l, c⟩ :: ms) = ⟨t, l, c⟩ :: working s ms := by
        rw [working, List.filter_cons, hworks]
        rfl
      rw [sharesOf, hrest]
      rw [hrest, List.forall_mem_cons] at hms
      obtain ⟨⟨e, rfl, he⟩, hms⟩ := hms
      exact ih (perform_consumes he hstore now) hms

/-- What is to do is done in a run to the end, in its order. -/
theorem Reaches.performs (h : Reaches st ms st') (hdone : st'.todo = []) :
    st.todo.Sublist (ms.map (·.task)) := by
  induction h with
  | refl st => rw [hdone]; exact List.nil_sublist _
  | step now _ ih => exact ((List.sublist_append_right _ _).trans (ih hdone)).cons_cons _

/-! ### What a card declares -/

namespace Card

/-- The effects of a card, not those inside of them, that consume a store. -/
def declared (card : Card) (s : Store) : List Effect := card.effects.filter (·.is s.consumption)

/-- What these effects ask for together. -/
def declaredPoints (card : Card) (s : Store) : ℤ := ((card.declared s).map (·.points)).sum

/-- What the first of them asks for. -/
def firstPoints (card : Card) (s : Store) : ℤ := ((card.declared s).head?.map (·.points)).getD 0

end Card

section Card

variable {card : Card}

theorem firstPoints_nonneg (hplain : ∀ e ∈ card.declared s, e.Consumes s) :
    0 ≤ card.firstPoints s := by
  rw [Card.firstPoints]
  cases hfirst : (card.declared s).head? with
  | none => exact le_rfl
  | some e => exact (hplain e (List.mem_of_mem_head? hfirst)).points_nonneg

/-- **A card is asked for its first share.** -/
theorem requiredAmount_eq (hplain : ∀ e ∈ card.declared s, e.Consumes s) :
    requiredAmount card s.consumption = .whole (card.firstPoints s) := by
  have hhead : (card.declared s).head? = card.effects.find? (·.is s.consumption) :=
    List.head?_filter
  rw [requiredAmount, Card.firstPoints, ← hhead]
  cases hfirst : (card.declared s).head? with
  | none => rfl
  | some e =>
    obtain ⟨v, hv⟩ := (hplain e (List.mem_of_mem_head? hfirst)).value
    show e.operation.value.orElse (.whole 0) = .whole e.operation.value.points
    rw [hv]
    by_cases hzero : v = 0
    · subst hzero
      rfl
    · have hholds : (Datum.whole v).holds = true := by simp [Datum.holds, hzero]
      rw [Datum.orElse, if_pos hholds]
      rfl

/-- Why a card cannot be paid for tells how the stores compare with what is asked of them. -/
theorem obstacle_spec {cost : ℤ} {o : Option Lesson.Obstacle} (h : l.obstacle card cost = .ok o)
    (s : Store) :
    (o = none → Datum.lt (.number (s.of l)) (requiredAmount card s.consumption) = .ok false) ∧
      (o = some s.obstacle →
        Datum.lt (.number (s.of l)) (requiredAmount card s.consumption) = .ok true) := by
  unfold Lesson.obstacle at h
  obtain ⟨poor, hmotivation, h⟩ := Play.except_bind_ok.1 h
  cases poor with
  | true =>
    obtain rfl := Play.except_pure_ok.1 h
    cases s with
    | motivation => exact ⟨nofun, fun _ => hmotivation⟩
    | goodImpression => exact ⟨nofun, nofun⟩
  | false =>
    obtain ⟨poor, himpression, h⟩ := Play.except_bind_ok.1 h
    cases poor with
    | true =>
      obtain rfl := Play.except_pure_ok.1 h
      cases s with
      | motivation => exact ⟨nofun, nofun⟩
      | goodImpression => exact ⟨nofun, fun _ => himpression⟩
    | false =>
      have hhp : o ≠ some s.obstacle := by
        have other {available : Quantity} (h : Lesson.hpObstacle available cost = .ok o) :
            o ≠ some s.obstacle := by
          rw [hpObstacle_ok h]
          split
          · cases s <;> decide
          · exact nofun
        rw [if_neg Bool.false_ne_true] at h
        split at h
        · exact other h
        · obtain ⟨_, -, h⟩ := Play.except_bind_ok.1 h
          exact other h
      cases s with
      | motivation => exact ⟨fun _ => hmotivation, fun ho => absurd ho hhp⟩
      | goodImpression => exact ⟨fun _ => himpression, fun ho => absurd ho hhp⟩

theorem lt_requiredAmount (hplain : ∀ e ∈ card.declared s, e.Consumes s)
    (hstore : s.of l = .whole n) :
    Datum.lt (.number (s.of l)) (requiredAmount card s.consumption) =
      .ok (decide (n < card.firstPoints s)) := by
  rw [requiredAmount_eq hplain, hstore]
  exact Datum.lt_of_quantity rfl rfl

/-- What is there covers the first share of a card that can be paid for. -/
theorem firstPoints_le_of_obstacle_none {cost : ℤ} (hplain : ∀ e ∈ card.declared s, e.Consumes s)
    (hstore : s.of l = .whole n) (h : l.obstacle card cost = .ok none) :
    card.firstPoints s ≤ n := by
  have hcovered := (obstacle_spec h s).1 rfl
  rw [lt_requiredAmount hplain hstore, Except.ok.injEq, decide_eq_false_iff_not] at hcovered
  omega

/-- A card is rejected for a store only when its first share is not covered. -/
theorem lt_firstPoints_of_obstacle {cost : ℤ} (hplain : ∀ e ∈ card.declared s, e.Consumes s)
    (hstore : s.of l = .whole n) (h : l.obstacle card cost = .ok (some s.obstacle)) :
    n < card.firstPoints s := by
  have hshort := (obstacle_spec h s).2 rfl
  rw [lt_requiredAmount hplain hstore, Except.ok.injEq, decide_eq_true_iff] at hshort
  exact hshort

end Card

/-! ### Cards without nested effects -/

variable {id : Datum} {copy : Copy}

/-- A task that puts no others before those that follow it. -/
def Task.isLeaf : Task → Bool
  | .effect e => !e.is .conditionGate && !e.is .triggerRandomHandCard
  | .card _ => false

/-- A run over leaves does them and nothing else. -/
theorem Reaches.tasks_eq (h : Reaches st ms st') (hdone : st'.todo = [])
    (hleaves : ∀ t ∈ st.todo, t.isLeaf = true) : ms.map (·.task) = st.todo := by
  induction h with
  | refl st => exact hdone.symm
  | @step t rest new l l' c c' ms st now _ ih =>
    rw [List.forall_mem_cons] at hleaves
    have hnone : new = [] := by
      have hleaf := hleaves.1
      cases perform_spec now with
      | card => cases hleaf
      | gate hgate =>
        rw [Task.isLeaf, (Bool.and_eq_true_iff.1 hgate).1] at hleaf
        cases hleaf
      | chose htrigger =>
        have hkind := (Bool.and_eq_true_iff.1 htrigger).1
        rw [Task.isLeaf, hkind, Bool.not_true, Bool.and_false] at hleaf
        cases hleaf
      | _ => rfl
    subst hnone
    rw [List.map_cons, ih hdone hleaves.2]
    rfl

theorem Worked.tasks_eq {es : List Effect} (h : Worked es l c ms l' c')
    (hleaves : ∀ e ∈ es, (Task.effect e).isLeaf = true) : ms.map (·.task) = es.map .effect := by
  obtain ⟨l₁, lines, hrun, rfl⟩ := h
  exact hrun.tasks_eq rfl (List.forall_mem_map.2 hleaves)

/-- Without buffs a card whose effects are leaves does these and nothing else. -/
theorem Made.tasks_eq (h : Made l c (.play id) ms l' c') (found : l.findInHand id = some copy)
    (hbuffs : l.buffs = []) (hleaves : ∀ e ∈ copy.card.effects, (Task.effect e).isLeaf = true) :
    ms = [] ∨ ms.map (·.task) = copy.card.effects.map .effect := by
  have hnone (b : Buff) : b ∉ l.buffs := by
    rw [hbuffs]
    exact List.not_mem_nil
  cases h with
  | rejected => exact .inl rfl
  | @played _ copy' cost pay _ _ fired _ _ _ _ _ _ ms₁ ms₂ ms₃ _ _ found' _ _ _ _ _ main reacting
      fires firing =>
    obtain rfl := Option.some.inj (found.symm.trans found')
    have hreactions : l.costReactions pay = [] := List.eq_nil_iff_forall_not_mem.2 fun e he => by
      obtain ⟨b, hb, -⟩ := mem_costReactions he
      exact hnone b hb
    have hfired : fired = [] := List.eq_nil_iff_forall_not_mem.2 fun e he => by
      obtain ⟨b, hb, -⟩ := mem_fired fires he
      exact hnone b hb
    rw [hreactions] at reacting
    rw [hfired] at firing
    have hms₂ := reacting.tasks_eq fun e he => absurd he List.not_mem_nil
    have hms₃ := firing.tasks_eq fun e he => absurd he List.not_mem_nil
    rw [List.map_append, List.map_append, main.tasks_eq hleaves, hms₂, hms₃]
    exact .inr (by simp)

/-! ### What a play takes -/

/-- The tasks that consume a store under no conditions. -/
def Task.takes (s : Store) : Task → Bool
  | .effect e => e.is s.consumption && e.operation.conditions.isEmpty
  | .card _ => false

theorem worksOn_of_takes {m : Moment} (h : m.task.takes s = true) : m.worksOn s = true := by
  obtain ⟨t, l, c⟩ := m
  cases t with
  | card copy => cases h
  | effect e =>
    obtain ⟨hkind, hfree⟩ := Bool.and_eq_true_iff.1 h
    refine List.any_eq_true.2 ⟨s.consumption, s.consumption_mem_kinds, ?_⟩
    show l.passes s.consumption e = true
    rw [Lesson.passes, hkind, List.isEmpty_iff.1 hfree]
    rfl

/-- What a card declares is done in a run of its effects. -/
theorem declared_sublist {card : Card} (hplain : ∀ e ∈ card.declared s, e.Consumes s)
    (h : (card.effects.map Task.effect).Sublist (ms.map (·.task))) :
    ((card.declared s).map Task.effect).Sublist ((working s ms).map (·.task)) := by
  have hdeclared : (card.declared s).map Task.effect =
      (card.effects.map Task.effect).filter (Task.takes s) := by
    rw [List.filter_map, Card.declared]
    refine congrArg _ (List.filter_congr fun e he => ?_)
    show e.is s.consumption = (e.is s.consumption && e.operation.conditions.isEmpty)
    cases hkind : e.is s.consumption with
    | false => rfl
    | true => rw [(hplain e (List.mem_filter.2 ⟨he, hkind⟩)).free]; rfl
  have htaking : (ms.map (·.task)).filter (Task.takes s) =
      (ms.filter fun m => m.task.takes s).map (·.task) := List.filter_map
  rw [hdeclared]
  refine (h.filter _).trans ?_
  rw [htaking]
  exact (List.monotone_filter_right ms fun m hm => worksOn_of_takes hm).map _

theorem working_append (s : Store) (ms ms' : List Moment) :
    working s (ms ++ ms') = working s ms ++ working s ms' := List.filter_append _ _

theorem sharesOf_append (s : Store) (ms ms' : List Moment) :
    sharesOf s (ms ++ ms') = sharesOf s ms ++ sharesOf s ms' := by
  rw [sharesOf, working_append, List.map_append, List.map_append]
  rfl

theorem Worked.performs {es : List Effect} (h : Worked es l c ms l' c') :
    (es.map Task.effect).Sublist (ms.map (·.task)) := by
  obtain ⟨l₁, lines, hrun, rfl⟩ := h
  exact hrun.performs rfl

theorem Worked.store_eq {es : List Effect} (h : Worked es l c ms l' c') (hstore : s.of l = .whole n)
    (hms : ∀ m ∈ working s ms, ∃ e : Effect, m.task = .effect e ∧ e.Consumes s) :
    s.of l' = .whole (leftOf n (sharesOf s ms)) := by
  obtain ⟨l₁, lines, hrun, rfl⟩ := h
  have hlines : s.of (l₁.withLines lines) = s.of l₁ := s.of_congr rfl rfl
  rw [hlines]
  exact hrun.store_eq hstore hms

/-- What an accepted play takes from a store, where only effects that consume it work on it. -/
theorem Made.store_eq (h : Made l c (.play id) ms l' c') (hstore : s.of l = .whole n)
    (hms : ∀ m ∈ working s ms, ∃ e : Effect, m.task = .effect e ∧ e.Consumes s) :
    s.of l' = .whole (leftOf n (sharesOf s ms)) := by
  cases h with
  | rejected => exact hstore
  | @played id copy cost pay hp plays fired l₁ l₂ l₃ c₁ c₂ c₃ ms₁ ms₂ ms₃ lines _ _ _ _ _ _ _ main
      reacting _ firing =>
    simp only [working_append, List.mem_append, or_imp, forall_and] at hms
    obtain ⟨⟨hms₁, hms₂⟩, hms₃⟩ := hms
    have hpaid : s.of (l.paying copy pay hp plays) = s.of l := s.of_congr rfl rfl
    rw [hstore] at hpaid
    have hfired := firing.store_eq (reacting.store_eq (main.store_eq hpaid hms₁) hms₂) hms₃
    have hput : s.of ((l₃.putAway copy).withLines lines) = s.of l₃ := by
      unfold Lesson.putAway
      split <;> exact s.of_congr rfl rfl
    rw [hput, hfired, sharesOf_append, sharesOf_append, leftOf_append, leftOf_append]

/-- An accepted play can be paid for, and does what its card says. -/
theorem play_performs (found : l.findInHand id = some copy)
    (h : l.play id c = (.ok (some l'), c')) : ∃ cost ms, l.obstacle copy.card cost = .ok none ∧
      Made l c (.play id) ms l' c' ∧
      (copy.card.effects.map Task.effect).Sublist (ms.map (·.task)) := by
  obtain ⟨ms, hmade⟩ := play_ok h
  rw [Option.getD_some] at hmade
  have hplay := hmade
  cases hmade with
  | rejected hnone => cases h.symm.trans hnone
  | @played _ copy' cost _ _ _ _ _ _ _ _ _ _ ms₁ ms₂ ms₃ _ _ found' _ payable _ _ _ main =>
    obtain rfl := Option.some.inj (found.symm.trans found')
    refine ⟨cost, _, payable, hplay, main.performs.trans ?_⟩
    rw [List.append_assoc, List.map_append]
    exact List.sublist_append_left _ _

/-- **The first share is covered, the others are taken as far as they can be.** A play is rejected
when the store does not cover what the first effect asks for. An accepted play carries out all that
the card declares; and when nothing else works on the store, it takes the shares of all of them, or
what is there: exactly the declared points just when these were there. -/
theorem first_consumption_is_covered (found : l.findInHand id = some copy)
    (hstore : s.of l = .whole n) (hplain : ∀ e ∈ copy.card.declared s, e.Consumes s) :
    (n < copy.card.firstPoints s →
      (∀ c l' c', l.play id c ≠ (.ok (some l'), c')) ∧
      ∀ cost o, actualCost copy.card l.buffs = .ok cost → l.obstacle copy.card cost = .ok o →
        ∀ c, l.play id c = (.ok none, c)) ∧
    (∀ cost, l.obstacle copy.card cost = .ok (some s.obstacle) → n < copy.card.firstPoints s) ∧
    ∀ c l' c', l.play id c = (.ok (some l'), c') → copy.card.firstPoints s ≤ n ∧
      ∃ ms, Made l c (.play id) ms l' c' ∧
        ((copy.card.declared s).map Task.effect).Sublist ((working s ms).map (·.task)) ∧
        ((working s ms).length = (copy.card.declared s).length →
          s.of l' = .whole (max 0 (n - copy.card.declaredPoints s)) ∧
          (s.of l' = .whole (n - copy.card.declaredPoints s) ↔
            copy.card.declaredPoints s ≤ n)) := by
  refine ⟨fun hshort => ?_, fun cost => lt_firstPoints_of_obstacle hplain hstore,
    fun c l' c' h => ?_⟩
  · refine ⟨fun c l' c' h => ?_, fun cost o costs hobstacle c => ?_⟩
    · obtain ⟨cost, ms, payable, -⟩ := play_performs found h
      exact absurd (firstPoints_le_of_obstacle_none hplain hstore payable) (by omega)
    · refine play_none_iff.2 ⟨?_, rfl⟩
      cases left : l.isPlayedOut with
      | true => exact .inl left
      | false =>
        refine (rejected_play_iff left found).2 ?_
        cases o with
        | none => exact absurd (firstPoints_le_of_obstacle_none hplain hstore hobstacle) (by omega)
        | some o => exact ⟨cost, o, costs, hobstacle⟩
  · obtain ⟨cost, ms, payable, hmade, hperforms⟩ := play_performs found h
    have hcovered := firstPoints_le_of_obstacle_none hplain hstore payable
    have hdeclared := declared_sublist hplain hperforms
    refine ⟨hcovered, ms, hmade, hdeclared, fun hcount => ?_⟩
    -- As many tasks work on the store as are declared, so they are the declared ones.
    have htasks : (copy.card.declared s).map Task.effect = (working s ms).map (·.task) :=
      hdeclared.eq_of_length (by rw [List.length_map, List.length_map, hcount])
    have hconsumes : ∀ m ∈ working s ms, ∃ e : Effect, m.task = .effect e ∧ e.Consumes s := by
      intro m hm
      have hmem : m.task ∈ (copy.card.declared s).map Task.effect := by
        rw [htasks]
        exact List.mem_map_of_mem hm
      obtain ⟨e, he, htask⟩ := List.mem_map.1 hmem
      exact ⟨e, htask.symm, hplain e he⟩
    have hshares : sharesOf s ms = (copy.card.declared s).map (·.points) := by
      rw [sharesOf, ← htasks, List.map_map]
      rfl
    have hleft : s.of l' = .whole (max 0 (n - copy.card.declaredPoints s)) := by
      rw [hmade.store_eq hstore hconsumes, hshares, leftOf_eq]
      · rfl
      · exact (firstPoints_nonneg hplain).trans hcovered
      · intro v hv
        obtain ⟨e, he, rfl⟩ := List.mem_map.1 hv
        exact (hplain e he).points_nonneg
    refine ⟨hleft, ?_⟩
    rw [hleft, Quantity.whole.injEq]
    omega

/-- A lesson with some motivation, and a card in the hand that consumes motivation twice. -/
def twiceConsuming (motivation first second : ℕ) : Lesson :=
  { motivation := .whole motivation
    hand := [⟨.dealt 0, {
      id := .text "c", name := .text "C"
      effects := [.gain (.known .consumeMotivation) (.whole first),
        .gain (.known .consumeMotivation) (.whole second)] }⟩] }

theorem both_shares_are_covered : ∃ l' c',
    (twiceConsuming 5 2 3).play (.text "c") stillChance = (.ok (some l'), c') ∧
      l'.motivation = 0 := by
  have hreturns : ((twiceConsuming 5 2 3).play (.text "c") stillChance).1.toOption.any
      (·.isSome) = true := by decide +kernel
  obtain ⟨next, c', hplay, hsome⟩ := Play.ok_of_any hreturns
  obtain ⟨l', rfl⟩ := Option.isSome_iff_exists.1 hsome
  have hplain : ∀ e ∈ [Effect.gain (.known .consumeMotivation) (.whole (2 : ℕ)),
      .gain (.known .consumeMotivation) (.whole (3 : ℕ))], e.Consumes .motivation :=
    List.forall_mem_cons.2 ⟨⟨rfl, rfl, 2, rfl⟩, List.forall_mem_singleton.2 ⟨rfl, rfl, 3, rfl⟩⟩
  have found : (twiceConsuming 5 2 3).findInHand (.text "c") = some _ := rfl
  obtain ⟨-, -, hplays⟩ := first_consumption_is_covered (s := .motivation) (n := 5) found rfl hplain
  obtain ⟨-, ms, hmade, hdeclared, htaken⟩ := hplays _ l' c' hplay
  -- Nothing nests and nothing waits, so the two tasks are all there are.
  have hmost : ms.length ≤ 2 := by
    rcases hmade.tasks_eq rfl rfl (by decide) with rfl | htasks
    · exact Nat.zero_le 2
    · have hlength := congrArg List.length htasks
      rw [List.length_map] at hlength
      exact hlength.le
  have hcount : (working .motivation ms).length = 2 := by
    have hleast := hdeclared.length_le
    rw [List.length_map, List.length_map] at hleast
    exact le_antisymm ((List.length_filter_le _ _).trans hmost) hleast
  exact ⟨l', c', hplay, (htaken hcount).1⟩

/-- With four points of motivation a card is accepted that asks for three of them twice; it takes
the four. -/
theorem second_share_is_not_covered : ∃ copy l' c',
    (twiceConsuming 4 3 3).findInHand (.text "c") = some copy ∧
      (∀ e ∈ copy.card.effects, e.Consumes .motivation) ∧
      4 < copy.card.declaredPoints .motivation ∧
      (twiceConsuming 4 3 3).play (.text "c") stillChance = (.ok (some l'), c') ∧
      l'.motivation = 0 := by
  have hreturns : ((twiceConsuming 4 3 3).play (.text "c") stillChance).1.toOption.any
      (fun next => next.any fun l' => l'.motivation = 0) = true := by decide +kernel
  obtain ⟨next, c', hplay, hzero⟩ := Play.ok_of_any hreturns
  obtain ⟨l', rfl, hzero⟩ := (Option.any_eq_true _ _).1 hzero
  exact ⟨_, l', c', rfl, List.forall_mem_cons.2 ⟨⟨rfl, rfl, 3, rfl⟩,
    List.forall_mem_singleton.2 ⟨rfl, rfl, 3, rfl⟩⟩, by decide, hplay, of_decide_eq_true hzero⟩

end CardLesson
