/-
# Tasks are reliable

Each lemma says of one computation that it fails with an overflow only, as long as what it works on
is usable, and never with a nesting that is too deep: from conditions and buffs up to the rules of
the kinds of effects. So a nesting is too deep only when the limit on nesting is reached.

Key theorems: `perform_reliable`, `perform_not_foreign`, `perform_shallow`.
-/
import CardLesson.Proofs.Failing
import CardLesson.Proofs.Faithful
import CardLesson.Proofs.Sameness

namespace CardLesson

variable {given : Prop} {l : Lesson} {op : Operation}

/-! ### What a lesson that bears usable things holds -/

theorem Lesson.Bears.id_isKey (hl : l.Bears usable) {x : Copy} (hx : x ∈ l.zones) :
    x.id.isKey = true := Datum.isKey_of_isText (hl.zones x hx).id

namespace Reliable

/-! ### Conditions -/

theorem tagKey {α : Type} : ∀ {t : Tag α}, (given → t.isKey = true) → Reliable given t.key
  | .known _, _ => .ok
  | .unknown _, h => (key h).map

theorem largest : ∀ {best : Datum} {ds : List Datum}, (given → best.isNumber = true) →
    (given → ∀ d ∈ ds, d.isNumber = true) → Reliable given (largest best ds)
  | _, [], _, _ => .ok
  | _, d :: ds, hbest, hds => by
    have hd : given → d.isNumber = true := fun hg => hds hg d List.mem_cons_self
    have hrest : given → ∀ d ∈ ds, d.isNumber = true :=
      fun hg d' h => hds hg d' (List.mem_cons_of_mem d h)
    exact (lt hbest hd).bind fun _ _ =>
      .ite (fun _ => largest hd hrest) fun _ => largest hbest hrest

theorem largest_mem : ∀ {best d : Datum} {ds : List Datum},
    CardLesson.largest best ds = .ok d → d ∈ best :: ds
  | _, _, [], h => by
    cases h
    exact List.mem_cons_self
  | best, d, d' :: ds, h => by
    obtain ⟨larger, -, h⟩ := Play.except_bind_ok.1 h
    split at h
    · exact List.mem_cons_of_mem best (largest_mem h)
    · rcases List.mem_cons.1 (largest_mem h) with rfl | hmem
      · exact List.mem_cons_self
      · exact List.mem_cons_of_mem best (List.mem_cons_of_mem d' hmem)

theorem holds {c : Comparison} {target value : Datum} (htarget : given → target.isNumber = true)
    (hvalue : given → c = .equal ∨ value.isNumber = true) :
    Reliable given (c.holds target value) := by
  unfold Comparison.holds
  split
  · exact .ok
  · next c hne =>
    exact (order htarget fun hg => (hvalue hg).resolve_left hne).bind fun _ _ => .pure

theorem hpRatio : Reliable given l.hpRatio := .ite (fun _ => ratio) fun _ => .ok

/-- The durations that a condition compares are numbers. -/
theorem durations_isNumber (hl : l.Bears usable) (c : Condition) : ∀ d ∈ (l.buffs.filter
      fun b => c.buffKind.any fun k => b.kind.same k).map
        fun b => if b.indefinite then .whole Balance.indefiniteSentinel else b.duration,
    d.isNumber = true := by
  intro d hd
  obtain ⟨b, hb, rfl⟩ := List.mem_map.1 hd
  split
  · rfl
  · exact (hl.buffs b (List.mem_filter.1 hb).1).duration

theorem buffDuration {c : Condition} (hl : given → l.Bears usable) :
    Reliable given (l.buffDuration c) := by
  unfold Lesson.buffDuration
  dsimp only
  split
  · exact .ok
  · next d ds hds =>
    have hall : given → ∀ d' ∈ d :: ds, d'.isNumber = true := fun hg => by
      rw [← hds]
      exact durations_isNumber (hl hg) c
    exact largest (fun hg => hall hg d List.mem_cons_self) fun hg d' hd' =>
      hall hg d' (List.mem_cons_of_mem d hd')

theorem measure {c : Condition} {k : ConditionKind} (hl : given → l.Bears usable) :
    Reliable given (l.measure c k) := by
  cases k with
  | hpRatio => exact hpRatio.bind fun _ _ => .pure
  | hpPercent => exact hpRatio.bind fun _ _ => .pure
  | buff => exact buffDuration hl
  | _ => exact .ok

/-- What a condition compares is a number. -/
theorem measure_isNumber {c : Condition} {k : ConditionKind} {d : Datum} (hl : l.Bears usable)
    (h : l.measure c k = .ok d) : d.isNumber = true := by
  cases k with
  | hpRatio | hpPercent =>
    obtain ⟨share, -, h⟩ := Play.except_bind_ok.1 h
    obtain rfl := Play.except_pure_ok.1 h
    rfl
  | buff =>
    have h : l.buffDuration c = .ok d := h
    unfold Lesson.buffDuration at h
    dsimp only at h
    split at h
    · cases h
      rfl
    · next first rest hds =>
      have hmem := largest_mem h
      rw [← hds] at hmem
      exact durations_isNumber hl c d hmem
  | _ =>
    cases h
    rfl

theorem meets {c : Condition} (hl : given → l.Bears usable) (hc : given → c.fit = true) :
    Reliable given (l.meets c) := by
  have hkey : given → c.kind.isKey = true := fun hg => by
    have hfit := hc hg
    unfold Condition.fit at hfit
    cases hk : c.kind with
    | known k => rfl
    | unknown raw =>
      rw [hk] at hfit
      exact hfit
  refine (tagKey hkey).bind fun _ _ => ?_
  split
  · exact .pure
  · next k hk =>
    refine (measure hl).bind fun target htarget => holds (fun hg => ?_) fun hg => ?_
    · exact measure_isNumber (hl hg) htarget
    · have hfit := hc hg
      rw [Condition.fit, hk, Bool.or_eq_true, beq_iff_eq] at hfit
      exact hfit

theorem meetsAll : ∀ {cs : List Condition}, (given → l.Bears usable) →
    (given → ∀ c ∈ cs, c.fit = true) → Reliable given (l.meetsAll cs)
  | [], _, _ => .ok
  | c :: _, hl, hcs => (meets hl fun hg => hcs hg c List.mem_cons_self).bind fun _ _ =>
    .ite (fun _ => meetsAll hl fun hg c' hc' => hcs hg c' (List.mem_cons_of_mem c hc'))
      fun _ => .pure

/-! ### Buffs -/

theorem sumValues {bs : List Buff} (hbs : given → ∀ b ∈ bs, b.Usable) :
    Reliable given (Lesson.sumValues bs) := by
  refine .foldlM fun total b hb => (quantity fun hg => ?_).bind fun _ _ => add
  exact Datum.orElse_isNumber (hbs hg b hb).value rfl

theorem sumBuffs {k : EffectKind} {param : Option Datum} (hl : given → l.Bears usable) :
    Reliable given (l.sumBuffs k param) :=
  sumValues fun hg b hb => (hl hg).buffs b (List.mem_filter.1 hb).1

theorem lessOne {d : Datum} (h : given → d.isNumber = true) : Reliable given (lessOne d) :=
  (quantity h).bind fun _ _ => sub.bind fun _ _ => .pure

theorem extendFirst {k : EffectKind} {extra : Datum} (hextra : given → extra.isNumber = true) :
    ∀ {bs : List Buff}, (given → ∀ b ∈ bs, b.Usable) → Reliable given (extendFirst k extra bs)
  | [], _ => .ok
  | b :: bs, hbs => by
    have hb : given → b.duration.isNumber = true := fun hg => (hbs hg b List.mem_cons_self).duration
    have hrest : given → ∀ b ∈ bs, b.Usable := fun hg b' h => hbs hg b' (List.mem_cons_of_mem b h)
    unfold CardLesson.extendFirst
    refine .ite (fun _ => ?_) fun _ => (extendFirst hextra hrest).bind fun _ _ => .pure
    have last (duration : Datum) :
        Reliable given (Pure.pure (some ({ b with duration } :: bs)) : Except Fault _) := .pure
    have both (endless : Bool) := FailsOnly.ite (p := endless = true) (P := Excused given)
      (fun _ => FailsOnly.bind (.pure (a := Datum.whole Balance.indefiniteDuration))
        fun d _ => last d)
      (fun _ => (quantity hb).bind fun q _ => (quantity hextra).bind fun r _ =>
        (add (a := q) (b := r)).bind fun s _ =>
          FailsOnly.bind (.pure (a := Datum.number s)) fun d _ => last d)
    exact .ite (fun _ => FailsOnly.bind (.pure (a := true)) fun e _ => both e)
      fun _ => (lt hextra fun _ => rfl).bind fun e _ => both e

theorem spendCount : ∀ {bs : List Buff}, (given → ∀ b ∈ bs, b.Usable) →
    Reliable given (spendCount bs)
  | [], _ => .ok
  | b :: bs, hbs => by
    have hb : given → b.Usable := fun hg => hbs hg b List.mem_cons_self
    have hrest : given → ∀ b ∈ bs, b.Usable := fun hg b' h => hbs hg b' (List.mem_cons_of_mem b h)
    unfold CardLesson.spendCount
    by_cases hcounted : (b.is .noDebuff && !b.count.isNull) = true
    · have hcount : given → b.count.isNumber = true := fun hg =>
        (hb hg).count.resolve_left fun hnull => by simp [hnull] at hcounted
      rw [if_pos hcounted]
      refine (lt (fun _ => rfl) hcount).bind fun usable _ => ?_
      exact .ite (fun _ => .ite (fun _ => .pure) fun _ => (lessOne hcount).bind fun _ _ => .pure)
        fun _ => (spendCount hrest).bind fun _ _ => .pure
    · rw [if_neg hcounted]
      exact (spendCount hrest).bind fun _ _ => .pure

theorem spendDuration : ∀ {bs : List Buff}, (given → ∀ b ∈ bs, b.Usable) →
    Reliable given (spendDuration bs)
  | [], _ => .ok
  | b :: bs, hbs => by
    have hb : given → b.duration.isNumber = true := fun hg => (hbs hg b List.mem_cons_self).duration
    have hrest : given → ∀ b ∈ bs, b.Usable := fun hg b' h => hbs hg b' (List.mem_cons_of_mem b h)
    unfold CardLesson.spendDuration
    have use (usable : Bool) := FailsOnly.ite (p := usable = true) (P := Excused given)
      (fun _ => .ite (p := b.duration.same (.whole 1) = true) (fun _ => .pure (a := some bs))
        fun _ => (lessOne hb).bind fun duration _ => .pure (a := some ({ b with duration } :: bs)))
      fun _ => (spendDuration hrest).bind fun rest _ => .pure (a := rest.map (b :: ·))
    exact .ite (fun _ => (lt (fun _ => rfl) hb).bind fun usable _ => use usable)
      fun _ => FailsOnly.bind (.pure (a := false)) fun usable _ => use usable

theorem absorb (hl : given → l.Bears usable) : Reliable given (absorb l op) := by
  have hbs : given → ∀ b ∈ l.buffs, b.Usable := fun hg => (hl hg).buffs
  refine (spendCount hbs).bind fun counted _ => ?_
  cases counted with
  | some bs => exact .pure
  | none =>
    refine (spendDuration hbs).bind fun timed _ => ?_
    cases timed with
    | some bs => exact .pure
    | none => exact .ite (fun _ => .pure) fun _ => .pure

theorem admissionOf (hl : given → l.Bears usable) (hop : given → op.Fit) :
    Reliable given (admissionOf l op) := by
  refine (meetsAll hl fun hg => (hop hg).conditions).bind fun met _ =>
    .ite (fun _ => (tagKey fun hg => (hop hg).kind).bind fun _ _ => ?_) fun _ => .pure
  split
  · exact .pure
  · refine .ite (fun _ => (absorb hl).bind fun absorbed _ => ?_)
      fun _ => FailsOnly.bind .pure fun absorbed _ => ?_
    all_goals
      cases absorbed
      · exact .pure
      · exact .pure

/-! ### Scores and pools -/

theorem onePlusPercent {q : Quantity} : Reliable given (onePlusPercent q) :=
  toDouble.bind fun _ _ => .pure

theorem scoreMultiplier (hl : given → l.Bears usable) : Reliable given l.scoreMultiplier :=
  onePlusPercent.bind fun _ _ => (sumBuffs hl).bind fun _ _ => onePlusPercent.bind fun _ _ => .pure

theorem value {default : Datum} (hop : given → op.Fit) (hdefault : default.isNumber = true) :
    Reliable given (op.value.given default).quantity := quantity fun hg => (hop hg).value hdefault

theorem adjustedValue {k : EffectKind} (hl : given → l.Bears usable) (hop : given → op.Fit) :
    Reliable given (l.adjustedValue op k) := by
  refine (value hop rfl).bind fun _ _ => ?_
  split
  · exact (sumBuffs hl).bind fun _ _ => add.bind fun _ _ => truncate
  · exact truncate

theorem addScore {amount : Int} : Reliable given (l.addScore amount) := add.bind fun _ _ => .pure

/-! The lines on them. -/

theorem amountLine {label : String} {amount : Int} : Reliable given (amountLine label amount) :=
  printWhole.bind fun _ _ => .pure

theorem changeLine {label : String} {before : Quantity} {after : Int} :
    Reliable given (changeLine label before after) :=
  printed.bind fun _ _ => printWhole.bind fun _ _ => .pure

theorem shareLine {amount : Int} {ratio pool : Quantity} {label : String} :
    Reliable given (shareLine amount ratio label pool) :=
  printWhole.bind fun _ _ => mul.bind fun _ _ => nearestWhole.bind fun _ _ =>
    printWhole.bind fun _ _ => printed.bind fun _ _ => .pure

theorem genkiLine {flat : Int} {bonus : Quantity} : Reliable given (genkiLine op flat bonus) :=
  amountLine.bind fun _ _ => .ite (fun _ => printed.bind fun _ _ => .pure) fun _ => .pure

theorem impressionLine {amount : Int} {factor : Double} :
    Reliable given (impressionLine amount factor) :=
  amountLine.bind fun _ _ =>
    .ite (fun _ => nearestWhole.bind fun _ _ => printWhole.bind fun _ _ => .pure) fun _ => .pure

theorem turnsLine {amount : Int} {maxTurns : Quantity} :
    Reliable given (turnsLine amount maxTurns) :=
  amountLine.bind fun _ _ => printed.bind fun _ _ => .pure

theorem durationNote : Reliable given (durationNote op) :=
  .ite (fun _ => printedDatum.bind fun _ _ => .pure) fun _ =>
    .ite (fun _ => .ok) fun _ => printedDatum.bind fun _ _ => .pure

/-! The rules. -/

theorem scoreFixed (hl : given → l.Bears usable) (hop : given → op.Fit) :
    Reliable given (scoreFixed l op) :=
  mul.bind fun _ _ => (quantity fun hg => (hop hg).multiplier rfl).bind fun _ _ =>
    mul.bind fun _ _ => (value hop rfl).bind fun _ _ => floor.bind fun _ _ => add.bind fun _ _ =>
    (scoreMultiplier hl).bind fun _ _ => mul.bind fun _ _ => floor.bind fun _ _ =>
    addScore.bind fun _ _ => amountLine.bind fun _ _ => .pure

theorem scoreScaled {pool : Quantity} {label : String} (hl : given → l.Bears usable)
    (hop : given → op.Fit) : Reliable given (scoreScaled l op pool label) :=
  (quantity fun hg => (hop hg).ratio rfl).bind fun _ _ => mul.bind fun _ _ =>
    (scoreMultiplier hl).bind fun _ _ => mul.bind fun _ _ => floor.bind fun _ _ =>
    shareLine.bind fun _ _ => addScore.bind fun _ _ => .pure

theorem gainGenki (hl : given → l.Bears usable) (hop : given → op.Fit) :
    Reliable given (gainGenki l op) :=
  .ite (fun _ => .pure) fun _ => (adjustedValue hl hop).bind fun _ _ => mul.bind fun _ _ =>
    mul.bind fun _ _ => genkiLine.bind fun _ _ => add.bind fun _ _ => add.bind fun _ _ => .pure

theorem gainImpression (hl : given → l.Bears usable) (hop : given → op.Fit) :
    Reliable given (gainImpression l op) :=
  (sumBuffs hl).bind fun _ _ => onePlusPercent.bind fun _ _ =>
    (adjustedValue hl hop).bind fun _ _ => mul.bind fun _ _ => floor.bind fun _ _ =>
    impressionLine.bind fun _ _ => add.bind fun _ _ => .pure

theorem gainMotivation (hl : given → l.Bears usable) (hop : given → op.Fit) :
    Reliable given (gainMotivation l op) :=
  (adjustedValue hl hop).bind fun _ _ => add.bind fun _ _ => amountLine.bind fun _ _ => .pure

theorem wholeValue (hop : given → op.Fit) : Reliable given op.wholeValue :=
  toWhole fun hg => (hop hg).value rfl

theorem consume {pool : Quantity} {amount : Int} : Reliable given (consume pool amount) :=
  sub.bind fun _ _ => .pure

/-! ### Cards -/

theorem keys {zone : List Copy} (h : given → ∀ x ∈ zone, x.id.isKey = true) :
    Reliable given (zone.mapM fun c => c.id.key) :=
  .mapM fun x hx => key fun hg => h hg x hx

theorem upgradeOf {catalog : Catalog} {c : Copy} (h : given → c.id.isText = true) :
    Reliable given (upgradeOf catalog c) := (asText h).bind fun _ _ => .pure

theorem upgradeFrom {catalog : Catalog} (hcatalog : given → ∀ x ∈ catalog.map (·.2), x.Usable) :
    ∀ {held : List Datum} {hand : List Copy}, (given → ∀ x ∈ hand, x.Usable) →
      Reliable given (upgradeFrom catalog held hand)
  | _, [], _ => .ok
  | held, c :: hand, hhand => by
    have hc : given → c.id.isText = true := fun hg => (hhand hg c List.mem_cons_self).id
    have hrest : given → ∀ x ∈ hand, x.Usable :=
      fun hg x hx => hhand hg x (List.mem_cons_of_mem c hx)
    refine (upgradeOf hc).bind fun better hbetter => ?_
    cases better with
    | none => exact (upgradeFrom hcatalog hrest).bind fun _ _ => .pure
    | some better =>
      have hkey : given → better.id.isKey = true := fun hg =>
        Datum.isKey_of_isText (hcatalog hg better (upgradeOf_mem hbetter)).id
      exact (key hkey).bind fun id _ =>
        .ite (fun _ => (upgradeFrom hcatalog hrest).bind fun _ _ => .pure)
          fun _ => (upgradeFrom hcatalog hrest).bind fun _ _ => .pure

theorem upgradeHand (hl : given → l.Bears usable) : Reliable given (upgradeHand l) := by
  have hhand : given → ∀ x ∈ l.hand, x.Usable :=
    fun hg x hx => (hl hg).zones x (mem_zones_of_mem_hand hx)
  have hkeys : given → ∀ x ∈ l.hand, x.id.isKey = true :=
    fun hg x hx => Datum.isKey_of_isText (hhand hg x hx).id
  exact (keys hkeys).bind fun _ _ => (upgradeFrom (fun hg => (hl hg).catalog) hhand).bind
    fun _ _ => .pure

/-! ### Choosing cards of the hand -/

/-- How many cards an operation asks for. -/
theorem wanted_whole (hop : op.Fit) (hk : op.kind = .known .triggerRandomHandCard)
    (hcount : op.count.notBelow 0 = true) :
    ∃ n : Nat, (op.count.orElse (.whole 1)).number? = some (.whole n) := by
  unfold Datum.orElse
  split
  · next hholds =>
    have hreal := hop.count hk
    have hnumber : op.count.isNumber = true := by
      refine (Datum.isNumber_of_notBelow hcount).resolve_left fun hnull => ?_
      cases hc : op.count with
      | null =>
        rw [hc] at hholds
        cases hholds
      | _ =>
        rw [hc] at hnull
        cases hnull
    obtain ⟨q, hq⟩ := Option.isSome_iff_exists.1 hnumber
    have hlow := Datum.not_lt_of_notBelow hcount hq
    cases q with
    | real x =>
      rw [Datum.isReal, hq] at hreal
      cases hreal
    | whole n =>
      rw [Quantity.lt_whole, decide_eq_false_iff_not, Int.not_lt] at hlow
      exact ⟨n.toNat, by rw [hq, Int.toNat_of_nonneg hlow]⟩
  · exact ⟨1, rfl⟩

theorem lt_of_number? {a n : Int} {d : Datum} (h : d.number? = some (.whole n)) :
    Datum.lt (.whole a) d = .ok (decide (a < n)) :=
  Datum.lt_of_quantity rfl (by rw [Datum.quantity, h])

/-- A usable operation triggers a whole number of cards that are there. -/
theorem triggerCount_spec {available : Nat} (hop : op.Fit)
    (hk : op.kind = .known .triggerRandomHandCard) (hcount : op.count.notBelow 0 = true) :
    ∃ d, ∃ n ≤ available, triggerCount op available = .ok d ∧ pickCount d available = .ok n := by
  obtain ⟨n, hn⟩ := wanted_whole hop hk hcount
  have pick {d : Datum} {m : Nat} (hd : d.number? = some (.whole m)) (hm : m ≤ available) :
      pickCount d available = .ok m := by
    have hq : d.quantity = .ok (.whole m) := by rw [Datum.quantity, hd]
    have hlow : (Quantity.whole (m : Int)).lt 0 = false := by simp
    have hhigh : (Quantity.whole (m : Int)).le (.whole available) = true := by simpa using hm
    unfold pickCount
    rw [hq]
    simp only [bind, Except.bind, hlow, hhigh, Bool.not_true, Bool.or_false, Bool.false_eq_true,
      ↓reduceIte]
    rfl
  unfold triggerCount
  simp only [lt_of_number? hn, bind, Except.bind]
  by_cases hlt : (available : Int) < n
  · rw [decide_eq_true hlt]
    exact ⟨_, available, Nat.le_refl _, rfl, pick rfl (Nat.le_refl _)⟩
  · rw [decide_eq_false hlt]
    exact ⟨_, n, by omega, rfl, pick hn (by omega)⟩

theorem triggerCount (hcount : given → op.count.notBelow 0 = true) {available : Nat} :
    Reliable given (triggerCount op available) := by
  refine (lt (fun _ => rfl) fun hg => ?_).bind fun _ _ => .pure
  exact Datum.orElse_isNumber (Datum.isNumber_of_notBelow (hcount hg)) rfl

theorem pickCount {d : Datum} {available : Nat}
    (h : given → ∃ n, CardLesson.pickCount d available = .ok n) :
    Reliable given (pickCount d available) := by
  by_cases hg : given
  · obtain ⟨n, hn⟩ := h hg
    rw [hn]
    exact .ok
  · unfold CardLesson.pickCount
    refine (quantity fun h => absurd h hg).bind fun q _ => ?_
    dsimp only
    split
    · exact blamed hg nofun
    · cases q with
      | whole n => exact .pure
      | real x => exact blamed hg nofun

theorem namesOf {copies : List Copy} (h : given → ∀ x ∈ copies, x.card.name.isText = true) :
    Reliable given (namesOf copies) := by
  refine FailsOnly.bind (.mapM fun x hx => ?_) fun _ _ => .pure
  split
  · exact .ok
  · next hne =>
    refine blamed (fun hg => ?_) nofun
    cases hname : x.card.name with
    | text s => exact hne s hname
    | _ =>
      have htext := h hg x hx
      rw [hname] at htext
      cases htext

end Reliable

/-! ### Tasks -/

namespace PlayFailsOnly

variable {P : Fault → Prop}

/-- A draw fails only when some card of the piles has an id that is no key. -/
theorem drawLoop (attempts : Nat) : ∀ (want : Nat) (deck discard : List Copy) (held : List Datum)
    (drawn : List Copy), (∀ x ∈ deck ++ discard, FailsOnly P x.id.key) →
      PlayFailsOnly P (drawLoop attempts want deck discard held drawn) := by
  induction attempts with
  | zero =>
    intro want deck discard held drawn _
    rw [CardLesson.drawLoop]
    · exact pure
    · intro _ _ h
      cases h
  | succ attempts ih =>
    intro want deck discard held drawn hkeys
    cases want with
    | zero =>
      rw [CardLesson.drawLoop]
      · exact pure
      · intro _ _ _ h
        cases h
    | succ want =>
      rw [CardLesson.drawLoop]
      refine luck.bind fun piles c c' hpiles => ?_
      have hsame := refill_perm deck discard c
      rw [Play.luck_ok.1 hpiles] at hsame
      obtain ⟨deck, discard⟩ := piles
      have hkeys : ∀ x ∈ deck ++ discard, FailsOnly P x.id.key :=
        fun x hx => hkeys x (hsame.mem_iff.1 hx)
      cases deck with
      | nil => exact pure
      | cons c deck =>
        refine except_bind (hkeys c List.mem_cons_self) fun id _ => ite (fun _ => ?_) fun _ => ?_
        · refine ih _ _ _ _ _ fun x hx => hkeys x ?_
          simp only [List.mem_append, List.mem_cons, List.not_mem_nil, or_false] at hx ⊢
          tauto
        · exact ih _ _ _ _ _ fun x hx => hkeys x (List.mem_cons_of_mem c hx)

theorem drawCards {deck discard hand : List Copy} {count : Nat}
    (hkeys : ∀ x ∈ deck ++ discard ++ hand, FailsOnly P x.id.key) :
    PlayFailsOnly P (drawCards deck discard count hand) := by
  refine except_bind (.mapM fun x hx => hkeys x (List.mem_append_right _ hx)) fun _ _ => ?_
  refine drawLoop _ _ _ _ _ _ fun x hx => hkeys x (List.mem_append_left _ ?_)
  simpa using hx

theorem key_of_mem (hl : given → l.Bears usable) {x : Copy} (hx : x ∈ l.zones) :
    Reliable given x.id.key := Reliable.key fun hg => (hl hg).id_isKey hx

theorem drawForEffect (hl : given → l.Bears usable) (hop : given → op.Fit) :
    ReliablePlay given (drawForEffect l op) := by
  refine except_bind (Reliable.toWhole fun hg => (hop hg).value rfl) fun _ _ =>
    ite (fun _ => pure) fun _ =>
      (drawCards fun x hx => key_of_mem hl ?_).bind fun _ _ _ _ => pure
  simp only [mem_zones, List.mem_append] at hx ⊢
  tauto

theorem swapHand (hl : given → l.Bears usable) : ReliablePlay given (swapHand l) := by
  refine (drawCards fun x hx => key_of_mem hl ?_).bind fun _ _ _ _ => pure
  simp only [mem_zones, List.mem_append, List.not_mem_nil, or_false] at hx ⊢
  tauto

theorem generateTrouble (hop : given → op.Fit) : ReliablePlay given (generateTrouble l op) := by
  refine ite (fun _ => pure) fun hholds => except_bind (Reliable.key fun hg => ?_) fun id _ => ?_
  · exact Datum.isKey_of_isText ((hop hg).troubleId (by simpa using hholds))
  · split
    · exact pure.bind fun _ _ _ _ => luck.bind fun _ _ _ _ =>
        except_bind Reliable.printedDatum fun _ _ => pure
    · exact except_bind Reliable.printedDatum fun _ _ => luck.bind fun _ _ _ _ =>
        pure.bind fun _ _ _ _ => luck.bind fun _ _ _ _ =>
        except_bind Reliable.printedDatum fun _ _ => pure

theorem grantBuff {k : EffectKind} {name : String} {tr : Option Effect}
    (hl : given → l.Bears usable) (hduration : given → op.duration.notBelow (-1) = true) :
    ReliablePlay given (grantBuff l op k name tr) := by
  have hextra : given → (op.duration.given (.whole Balance.defaultBuffDuration)).isNumber = true :=
    fun hg => Datum.given_isNumber (Datum.isNumber_of_notBelow (hduration hg)) rfl
  have hbuffs : given → ∀ b ∈ l.buffs, b.Usable := fun hg => (hl hg).buffs
  refine ite (fun _ => except_bind (Reliable.extendFirst hextra hbuffs) fun extended _ => ?_)
    fun _ => pure.bind fun extended _ _ _ => ?_
  all_goals
    cases extended with
    | none => exact luck.bind fun _ _ _ _ => except_bind Reliable.durationNote fun _ _ => pure
    | some bs => exact except_bind Reliable.printedDatum fun _ _ => pure

theorem chooseFromHand (hl : given → l.Bears usable) (hop : given → op.Fit)
    (hk : op.kind = .known .triggerRandomHandCard) (hcount : given → op.count.notBelow 0 = true) :
    ReliablePlay given (chooseFromHand l op) := by
  refine except_bind (Reliable.triggerCount hcount) fun d hd => ite (fun _ => pure) fun _ => ?_
  refine except_bind (Reliable.pickCount fun hg => ?_) fun n _ => luck.bind fun chosen c c' hs => ?_
  · obtain ⟨d', m, -, hd', hm⟩ := Reliable.triggerCount_spec (hop hg) hk (hcount hg)
    rw [hd] at hd'
    cases hd'
    exact ⟨m, hm⟩
  · refine except_bind (Reliable.namesOf fun hg x hx => ?_) fun _ _ => pure
    have hs := Play.luck_ok.1 hs
    have hx : x ∈ (Luck.sample (l.hand.filter (Lesson.hasRarity op.targetRarity)) n c).1 := by
      rw [hs]
      exact hx
    have hhand := (List.mem_filter.1 (Luck.mem_of_mem_sample hx)).1
    exact ((hl hg).zones x (mem_zones_of_mem_hand hhand)).name

theorem carryOut {tr : Option Effect} {k : EffectKind} (hl : given → l.Bears usable)
    (hop : given → op.usable = true) (hkind : op.kind = .known k)
    (hk : k ≠ .triggerRandomHandCard) : ReliablePlay given (carryOut idleResolver l op tr k) := by
  have hrange := fun hg => (Operation.usable_iff hkind).1 (hop hg)
  have hop := fun hg => (hrange hg).1
  cases k with
  | triggerRandomHandCard => exact absurd rfl hk
  | scoreFixed => exact except (Reliable.scoreFixed hl hop)
  | scoreScaleGenki => exact except (Reliable.scoreScaled hl hop)
  | scoreScaleImpression => exact except (Reliable.scoreScaled hl hop)
  | scoreScaleMotivation => exact except (Reliable.scoreScaled hl hop)
  | genki => exact except (Reliable.gainGenki hl hop)
  | impression => exact except (Reliable.gainImpression hl hop)
  | motivation => exact except (Reliable.gainMotivation hl hop)
  | drawCard => exact drawForEffect hl hop
  | swapHand => exact swapHand hl
  | upgradeHand => exact except (Reliable.upgradeHand hl)
  | generateTrouble => exact generateTrouble hop
  | endLesson => exact pure
  | conditionGate | delayedEffect => exact pure
  | halfGenki =>
    exact except (Reliable.mul.bind fun _ _ => Reliable.floor.bind fun _ _ =>
      Reliable.changeLine.bind fun _ _ => .pure)
  | multiplyImpression =>
    exact except ((Reliable.value hop rfl).bind fun _ _ => Reliable.mul.bind fun _ _ =>
      Reliable.floor.bind fun _ _ => Reliable.printedDatum.bind fun _ _ =>
      Reliable.changeLine.bind fun _ _ => .pure)
  | setGenki =>
    exact except
      ((Reliable.wholeValue hop).bind fun _ _ => Reliable.amountLine.bind fun _ _ => .pure)
  | concentration | shield =>
    exact except ((Reliable.wholeValue hop).bind fun _ _ => Reliable.add.bind fun _ _ =>
      Reliable.amountLine.bind fun _ _ => .pure)
  | addTurn =>
    exact except ((Reliable.wholeValue hop).bind fun _ _ => Reliable.add.bind fun _ _ =>
      Reliable.turnsLine.bind fun _ _ => .pure)
  | consumeHp | consumeMotivation | consumeImpression | addCardPlayCount =>
    exact except ((Reliable.wholeValue hop).bind fun _ _ => Reliable.consume.bind fun _ _ =>
      Reliable.amountLine.bind fun _ _ => .pure)
  | _ =>
    unfold CardLesson.carryOut
    exact grantBuff hl fun hg => (hrange hg).2.1

end PlayFailsOnly

/-- **A task fails with an overflow only**, as long as the lesson and the task are usable. -/
theorem perform_reliable (hl : given → l.Bears usable) : ∀ {t : Task}, (given → usable.task t) →
    ReliablePlay given (perform l t)
  | .card _, _ => .pure
  | .effect e, ht => by
    have hop : given → e.operation.Fit := fun hg =>
      Operation.fit_iff.1 (Bool.and_eq_true_iff.1 (Effect.live_iff.1 (ht hg)).1).1
    refine PlayFailsOnly.except_bind (Reliable.admissionOf hl hop) fun admission hadmission => ?_
    cases admission with
    | done r => exact .pure
    | rule k =>
      have hkind := (passes_iff.1 (admission_rule hadmission)).1
      have huse : given → e.operation.usable = true := fun hg => (live_usable (ht hg) hkind).1
      refine .ite (fun _ => .pure) fun _ => ?_
      split
      · next htrigger =>
        subst htrigger
        have hcount := fun hg => ((Operation.usable_iff hkind).1 (huse hg)).2.2
        exact (PlayFailsOnly.chooseFromHand hl hop hkind hcount).bind fun _ _ _ _ => .pure
      · next htrigger =>
        exact (PlayFailsOnly.carryOut hl huse hkind htrigger).bind fun _ _ _ _ => .pure

/-- **No task fails with a fault that no rule has**, whatever the lesson and the task are. -/
theorem perform_not_foreign {f : Fault} (hf : f.Foreign) (l : Lesson) (t : Task) (c c' : Chance) :
    perform l t c ≠ (.error f, c') := by
  have hreliable : ReliablePlay False (perform l t) := perform_reliable False.elim False.elim
  exact fun h => (hreliable c _ c' h).not_foreign hf

/-- **No task nests too deep**, whatever the lesson and the task are. -/
theorem perform_shallow (l : Lesson) (t : Task) (c c' : Chance) :
    perform l t c ≠ (.error .tooDeep, c') := perform_not_foreign .tooDeep l t c c'

end CardLesson
