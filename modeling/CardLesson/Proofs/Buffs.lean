/-
# What effects do to buffs

An effect leaves the buffs alone, works on one of the few that immunities and further grants work
on, or grants another one under an id that no buff had before. All that ever changes in a buff is
how many turns and uses it has left, and that it is new.

Key definitions: `Buff.ComesOf`, `Reworked`, `OneTurns`, `Rebuffed`, `Buff.isWorn`.
Key theorems: `eightFigures_injective`, `extendFirst_turns`, `Rebuffed.stem`, `Rebuffed.filter_id`,
`absorb_cases`, `grantBuff_cases`, `tickBuff_spec`.
-/
import CardLesson.Lesson.Buffs
import CardLesson.Proofs.Play
import CardLesson.Proofs.Sameness

namespace CardLesson

/-! ### Ids -/

/-- Different numbers are written differently. -/
theorem eightFigures_injective {m n : Nat} (h : eightFigures m = eightFigures n) : m = n := by
  have value (n : Nat) : Nat.ofDigitChars 10 (eightFigures n).toList 0 = n := by
    unfold eightFigures
    simp [Nat.ofDigitChars_append, Nat.ofDigitChars_ten_toDigits]
  rw [← value m, ← value n, h]

/-- The id of a buff. -/
def buffId (number : Nat) : String := "buff_" ++ eightFigures number

theorem buffId_injective {m n : Nat} (h : buffId m = buffId n) : m = n :=
  eightFigures_injective ((String.append_right_inj _).1 h)

/-! ### What one buff can become -/

/-- A buff comes of another one: only its turns and uses and whether it is new may differ, and turns
and uses that differ are numbers. -/
structure Buff.ComesOf (b b₀ : Buff) : Prop where
  frame : b = { b₀ with duration := b.duration, count := b.count, isNew := b.isNew }
  duration : b.duration = b₀.duration ∨ ∃ q, b.duration = .number q
  count : b.count = b₀.count ∨ ∃ q, b.count = .number q

theorem Buff.ComesOf.refl (b : Buff) : b.ComesOf b := ⟨rfl, .inl rfl, .inl rfl⟩

/-- Every buff of a list comes of one of another list. -/
def StemFrom (bs bs₀ : List Buff) : Prop := ∀ b ∈ bs, ∃ b₀ ∈ bs₀, b.ComesOf b₀

namespace StemFrom

variable {b b' : Buff} {bs bs' : List Buff}

theorem refl (bs : List Buff) : StemFrom bs bs := fun b hb => ⟨b, hb, .refl b⟩

theorem tail (b : Buff) (bs : List Buff) : StemFrom bs (b :: bs) :=
  fun x hx => ⟨x, List.mem_cons_of_mem b hx, .refl x⟩

theorem cons (hb : b'.ComesOf b) (h : StemFrom bs' bs) : StemFrom (b' :: bs') (b :: bs) := by
  intro x hx
  rcases List.mem_cons.1 hx with rfl | hx
  · exact ⟨b, List.mem_cons_self, hb⟩
  · obtain ⟨b₀, hb₀, hx⟩ := h x hx
    exact ⟨b₀, List.mem_cons_of_mem b hb₀, hx⟩

/-- Buffs that come of others have their ids. -/
theorem id_mem (h : StemFrom bs' bs) : ∀ b ∈ bs', ∃ b₀ ∈ bs, b.id = b₀.id := by
  intro b hb
  obtain ⟨b₀, hb₀, hof⟩ := h b hb
  exact ⟨b₀, hb₀, by rw [hof.frame]⟩

end StemFrom

/-- One buff of a kind is gone, or it has other turns or uses left. -/
inductive Reworked (k : EffectKind) : List Buff → List Buff → Prop
  | gone {b : Buff} {bs : List Buff} (hb : b.is k = true) : Reworked k (b :: bs) bs
  | changed {b : Buff} {bs : List Buff} {duration count : Datum} (hb : b.is k = true)
      (hd : duration = b.duration ∨ ∃ q, duration = .number q)
      (hc : count = b.count ∨ ∃ q, count = .number q) :
      Reworked k (b :: bs) ({ b with duration, count } :: bs)
  | later {b : Buff} {bs bs' : List Buff} (h : Reworked k bs bs') : Reworked k (b :: bs) (b :: bs')

theorem Reworked.stem {k : EffectKind} {bs bs' : List Buff} (h : Reworked k bs bs') :
    StemFrom bs' bs := by
  induction h with
  | gone _ => exact .tail _ _
  | changed _ hd hc => exact .cons ⟨rfl, hd, hc⟩ (.refl _)
  | later _ ih => exact .cons (.refl _) ih

theorem Reworked.length_le {k : EffectKind} {bs bs' : List Buff} (h : Reworked k bs bs') :
    bs'.length ≤ bs.length := by
  induction h with
  | gone _ => exact Nat.le_succ _
  | changed _ _ _ => exact Nat.le_refl _
  | later _ ih => exact Nat.succ_le_succ ih

/-- The buffs under an id stay as they are when they are of other kinds. -/
theorem Reworked.filter_id {k : EffectKind} {bs bs' : List Buff} (h : Reworked k bs bs')
    {i : String} (hkind : ∀ b ∈ bs, b.id = i → b.is k = false) :
    bs'.filter (·.id == i) = bs.filter (·.id == i) := by
  induction h with
  | @gone b bs hb =>
    have hne : b.id ≠ i := fun hid => by
      rw [hkind b List.mem_cons_self hid] at hb
      cases hb
    rw [List.filter_cons_of_neg (by simpa using hne)]
  | @changed b bs duration count hb _ _ =>
    have hne : b.id ≠ i := fun hid => by
      rw [hkind b List.mem_cons_self hid] at hb
      cases hb
    rw [List.filter_cons_of_neg (by simpa using hne), List.filter_cons_of_neg (by simpa using hne)]
  | @later b bs bs' _ ih =>
    have hrest := ih fun x hx => hkind x (List.mem_cons_of_mem b hx)
    simp only [List.filter_cons, hrest]

/-! ### Turns that are whole numbers -/

theorem lessOne_of_quantity {x : Datum} {n : Int} (h : x.quantity = .ok (.whole n)) :
    lessOne x = .ok (.whole (n - 1)) := by
  unfold lessOne
  rw [h]
  rfl

theorem Buff.indefinite_eq {b : Buff} {n : Int} (h : b.duration.quantity = .ok (.whole n)) :
    b.indefinite = decide (n = -1) := Datum.same_of_quantity h (-1)

/-! ### Working on one buff -/

/-- One buff of a kind goes, or another one takes its place, as a rule says. -/
inductive OneTurns (k : EffectKind) (rule : Buff → Option Buff → Prop) :
    List Buff → List Buff → Prop
  | here {b : Buff} {o : Option Buff} {bs : List Buff} (hb : b.is k = true) (h : rule b o) :
      OneTurns k rule (b :: bs) (o.toList ++ bs)
  | later {b : Buff} {bs bs' : List Buff} (h : OneTurns k rule bs bs') :
      OneTurns k rule (b :: bs) (b :: bs')

/-- A use is spent: the buff goes with its last one. -/
inductive SpentUse (b : Buff) : Option Buff → Prop
  | last : SpentUse b none
  | less {count : Datum} (h : lessOne b.count = .ok count) : SpentUse b (some { b with count })

/-- A turn is spent: the buff goes with its last one. -/
inductive SpentTurn (b : Buff) : Option Buff → Prop
  | last : SpentTurn b none
  | less {duration : Datum} (hleft : Datum.lt (.whole 0) b.duration = .ok true)
      (hmore : b.duration.same (.whole 1) = false) (h : lessOne b.duration = .ok duration) :
      SpentTurn b (some { b with duration })

/-- A buff is extended: for the rest of the lesson, when it is there as long or the extension is, or
else by as many turns. -/
inductive Extended (extra : Datum) (b : Buff) : Option Buff → Prop
  | endless (h : b.indefinite = true ∨ extra.lt (.whole 0) = .ok true) :
      Extended extra b (some { b with duration := .whole Balance.indefiniteDuration })
  | longer {turns more sum : Quantity} (hb : b.indefinite = false)
      (hx : extra.lt (.whole 0) = .ok false) (hturns : b.duration.quantity = .ok turns)
      (hmore : extra.quantity = .ok more) (hsum : turns.add more = .ok sum) :
      Extended extra b (some { b with duration := .number sum })

theorem spendCount_turns : ∀ {bs bs' : List Buff},
    spendCount bs = .ok (some bs') → OneTurns .noDebuff SpentUse bs bs'
  | [], _, h => by cases h
  | b :: bs, bs', h => by
    rw [spendCount] at h
    obtain ⟨usable, husable, h⟩ := Play.except_ite_bind_ok.1 h
    dsimp only at h
    cases usable with
    | true =>
      rw [if_pos rfl] at h
      have hb : b.is .noDebuff = true := by
        split at husable
        · next hcounted => exact (Bool.and_eq_true_iff.1 hcounted).1
        · cases husable
      split at h
      · obtain rfl := Option.some.inj (Play.except_pure_ok.1 h)
        exact .here hb SpentUse.last
      · obtain ⟨count, hless, h⟩ := Play.except_bind_ok.1 h
        obtain rfl := Option.some.inj (Play.except_pure_ok.1 h)
        exact .here hb (SpentUse.less hless)
    | false =>
      rw [if_neg Bool.false_ne_true] at h
      obtain ⟨rest, hrest, h⟩ := Play.except_bind_ok.1 h
      obtain ⟨rest, rfl, rfl⟩ := Option.map_eq_some_iff.1 (Play.except_pure_ok.1 h)
      exact .later (spendCount_turns hrest)

theorem spendDuration_turns : ∀ {bs bs' : List Buff},
    spendDuration bs = .ok (some bs') → OneTurns .noDebuff SpentTurn bs bs'
  | [], _, h => by cases h
  | b :: bs, bs', h => by
    rw [spendDuration] at h
    obtain ⟨usable, husable, h⟩ := Play.except_ite_bind_ok.1 h
    dsimp only at h
    cases usable with
    | true =>
      rw [if_pos rfl] at h
      have hb : b.is .noDebuff = true ∧ Datum.lt (.whole 0) b.duration = .ok true := by
        split at husable
        · next htimed => exact ⟨(Bool.and_eq_true_iff.1 htimed).1, husable⟩
        · cases husable
      split at h
      · obtain rfl := Option.some.inj (Play.except_pure_ok.1 h)
        exact .here hb.1 SpentTurn.last
      · next hmore =>
        obtain ⟨duration, hless, h⟩ := Play.except_bind_ok.1 h
        obtain rfl := Option.some.inj (Play.except_pure_ok.1 h)
        exact .here hb.1 (SpentTurn.less hb.2 (Bool.eq_false_iff.2 hmore) hless)
    | false =>
      rw [if_neg Bool.false_ne_true] at h
      obtain ⟨rest, hrest, h⟩ := Play.except_bind_ok.1 h
      obtain ⟨rest, rfl, rfl⟩ := Option.map_eq_some_iff.1 (Play.except_pure_ok.1 h)
      exact .later (spendDuration_turns hrest)

theorem extendFirst_turns {k : EffectKind} {extra : Datum} : ∀ {bs bs' : List Buff},
    extendFirst k extra bs = .ok (some bs') → OneTurns k (Extended extra) bs bs'
  | [], _, h => by cases h
  | b :: bs, bs', h => by
    rw [extendFirst] at h
    split at h
    · next hb =>
      obtain ⟨endless, hendless, h⟩ := Play.except_ite_bind_ok.1 h
      dsimp only at h
      split at h
      · next hstays =>
        obtain ⟨duration, hduration, h⟩ := Play.except_bind_ok.1 h
        obtain rfl := Except.ok.inj hduration
        obtain rfl := Option.some.inj (Play.except_pure_ok.1 h)
        refine .here hb (Extended.endless ?_)
        split at hendless
        · next hindefinite => exact .inl hindefinite
        · rw [hstays] at hendless
          exact .inr hendless
      · next hends =>
        obtain ⟨turns, hturns, h⟩ := Play.except_bind_ok.1 h
        obtain ⟨more, hmore, h⟩ := Play.except_bind_ok.1 h
        obtain ⟨sum, hsum, h⟩ := Play.except_bind_ok.1 h
        obtain ⟨duration, hduration, h⟩ := Play.except_bind_ok.1 h
        obtain rfl := Except.ok.inj hduration
        obtain rfl := Option.some.inj (Play.except_pure_ok.1 h)
        split at hendless
        · exact absurd (Except.ok.inj hendless).symm hends
        · next hfinite =>
          rw [Bool.eq_false_iff.2 hends] at hendless
          exact .here hb (Extended.longer (Bool.eq_false_iff.2 hfinite) hendless hturns hmore hsum)
    · obtain ⟨rest, hrest, h⟩ := Play.except_bind_ok.1 h
      obtain ⟨rest, rfl, rfl⟩ := Option.map_eq_some_iff.1 (Play.except_pure_ok.1 h)
      exact .later (extendFirst_turns hrest)

/-- When nothing is extended, there is no buff of the kind. -/
theorem extendFirst_none {k : EffectKind} {extra : Datum} : ∀ {bs : List Buff},
    extendFirst k extra bs = .ok none → ∀ b ∈ bs, b.is k = false
  | [], _, b, hb => absurd hb List.not_mem_nil
  | b :: bs, h, x, hx => by
    rw [extendFirst] at h
    split at h
    · obtain ⟨endless, -, h⟩ := Play.except_ite_bind_ok.1 h
      dsimp only at h
      split at h
      · obtain ⟨duration, -, h⟩ := Play.except_bind_ok.1 h
        cases Play.except_pure_ok.1 h
      · obtain ⟨turns, -, h⟩ := Play.except_bind_ok.1 h
        obtain ⟨more, -, h⟩ := Play.except_bind_ok.1 h
        obtain ⟨sum, -, h⟩ := Play.except_bind_ok.1 h
        obtain ⟨duration, -, h⟩ := Play.except_bind_ok.1 h
        cases Play.except_pure_ok.1 h
    · next hb =>
      obtain ⟨rest, hrest, h⟩ := Play.except_bind_ok.1 h
      obtain rfl := Option.map_eq_none_iff.1 (Play.except_pure_ok.1 h)
      rcases List.mem_cons.1 hx with rfl | hx
      · exact Bool.eq_false_iff.2 hb
      · exact extendFirst_none hrest x hx

theorem lessOne_ok {d d' : Datum} (h : lessOne d = .ok d') : ∃ q, d' = .number q := by
  obtain ⟨q, -, h⟩ := Play.except_bind_ok.1 h
  obtain ⟨less, -, h⟩ := Play.except_bind_ok.1 h
  exact ⟨less, (Play.except_pure_ok.1 h).symm⟩

/-- Where a rule changes no more than turns and uses, and these to numbers, a buff is reworked. -/
theorem OneTurns.reworked {k : EffectKind} {rule : Buff → Option Buff → Prop} {bs bs' : List Buff}
    (h : OneTurns k rule bs bs')
    (hrule : ∀ b b', rule b (some b') → b' = { b with duration := b'.duration, count := b'.count } ∧
      (b'.duration = b.duration ∨ ∃ q, b'.duration = .number q) ∧
      (b'.count = b.count ∨ ∃ q, b'.count = .number q)) : Reworked k bs bs' := by
  induction h with
  | @here b o bs hb h =>
    cases o with
    | none => exact .gone hb
    | some b' =>
      obtain ⟨hframe, hduration, hcount⟩ := hrule b b' h
      rw [hframe]
      exact .changed hb hduration hcount
  | later _ ih => exact .later ih

theorem spendCount_reworked {bs bs' : List Buff} (h : spendCount bs = .ok (some bs')) :
    Reworked .noDebuff bs bs' := by
  refine (spendCount_turns h).reworked fun b b' hspent => ?_
  cases hspent with
  | less hless => exact ⟨rfl, .inl rfl, .inr (lessOne_ok hless)⟩

theorem spendDuration_reworked {bs bs' : List Buff} (h : spendDuration bs = .ok (some bs')) :
    Reworked .noDebuff bs bs' := by
  refine (spendDuration_turns h).reworked fun b b' hspent => ?_
  cases hspent with
  | less _ _ hless => exact ⟨rfl, .inr (lessOne_ok hless), .inl rfl⟩

theorem extendFirst_reworked {k : EffectKind} {extra : Datum} {bs bs' : List Buff}
    (h : extendFirst k extra bs = .ok (some bs')) : Reworked k bs bs' := by
  refine (extendFirst_turns h).reworked fun b b' hextended => ?_
  cases hextended with
  | endless _ => exact ⟨rfl, .inr ⟨_, rfl⟩, .inl rfl⟩
  | longer _ _ _ _ _ => exact ⟨rfl, .inr ⟨_, rfl⟩, .inl rfl⟩

/-! ### What an effect does to the buffs -/

/-- What an effect does to the buffs, given how many names were handed out, and how many are after
it: it leaves them alone, works on one of them that immunities or further grants work on, or grants
another one. -/
inductive Rebuffed (op : Operation) (triggered : Option Effect) (bs : List Buff) (named : Nat) :
    List Buff → Nat → Prop
  | kept : Rebuffed op triggered bs named bs named
  | reworked {k : EffectKind} {bs' : List Buff} (hk : k = .noDebuff ∨ k.isExtendable = true)
      (h : Reworked k bs bs') : Rebuffed op triggered bs named bs' named
  | granted {k : EffectKind} (hk : op.kind = .known k) :
      Rebuffed op triggered bs named
        (bs ++ [grantedBuff (named + 1) op k (k.buffName?.getD k.name) triggered]) (named + 1)

/-- Whether effects work on a buff after it was granted: immunities are spent, and a further grant
extends a ban on genki. -/
def Buff.isWorn (b : Buff) : Bool := b.is .noDebuff || b.is .noGenkiGain

theorem is_of_not_worn {b : Buff} {k : EffectKind} (hk : k = .noDebuff ∨ k.isExtendable = true)
    (hb : b.isWorn = false) : b.is k = false := by
  obtain ⟨himmune, hban⟩ := Bool.or_eq_false_iff.1 hb
  rcases hk with rfl | hk
  · exact himmune
  · rw [beq_iff_eq.1 hk]
    exact hban

namespace Rebuffed

variable {op : Operation} {triggered : Option Effect} {bs bs' : List Buff} {named named' : Nat}

theorem named_le (h : Rebuffed op triggered bs named bs' named') : named ≤ named' := by
  cases h with
  | granted _ => exact Nat.le_succ named
  | _ => exact Nat.le_refl named

/-- The buffs after an effect come of buffs before it, or they are what the effect grants. -/
theorem stem (h : Rebuffed op triggered bs named bs' named') : ∀ b ∈ bs',
    (∃ b₀ ∈ bs, b.ComesOf b₀) ∨ ∃ k n name, op.kind = .known k ∧
      b = grantedBuff n op k name triggered := by
  intro b hb
  cases h with
  | kept => exact .inl ⟨b, hb, .refl b⟩
  | reworked _ h => exact .inl (h.stem b hb)
  | granted hk =>
    rcases List.mem_append.1 hb with hb | hb
    · exact .inl ⟨b, hb, .refl b⟩
    · exact .inr ⟨_, _, _, hk, List.mem_singleton.1 hb⟩

/-- A buff after an effect has the id of one before it, or the next id. -/
theorem id_mem (h : Rebuffed op triggered bs named bs' named') : ∀ b ∈ bs',
    (∃ b₀ ∈ bs, b.id = b₀.id) ∨ b.id = buffId (named + 1) ∧ named' = named + 1 := by
  intro b hb
  cases h with
  | kept => exact .inl ⟨b, hb, rfl⟩
  | reworked _ h => exact .inl (h.stem.id_mem b hb)
  | granted _ =>
    rcases List.mem_append.1 hb with hb | hb
    · exact .inl ⟨b, hb, rfl⟩
    · rw [List.mem_singleton.1 hb]
      exact .inr ⟨rfl, rfl⟩

/-- The buffs under an id that was given out before stay as they are, unless effects work on
them. -/
theorem filter_id (h : Rebuffed op triggered bs named bs' named') {n : Nat} (hn : n ≤ named)
    (hworn : ∀ b ∈ bs, b.id = buffId n → b.isWorn = false) :
    bs'.filter (·.id == buffId n) = bs.filter (·.id == buffId n) := by
  cases h with
  | kept => rfl
  | reworked hk h => exact h.filter_id fun b hb hid => is_of_not_worn hk (hworn b hb hid)
  | @granted k hk =>
    have hnew : (grantedBuff (named + 1) op k (k.buffName?.getD k.name) triggered).id ≠ buffId n :=
      fun hid => absurd (buffId_injective hid) (by omega)
    rw [List.filter_append, List.filter_cons_of_neg (by simpa using hnew), List.filter_nil,
      List.append_nil]

/-- A buff that was added to the others is one that the effect grants. -/
theorem of_append {b : Buff} (h : Rebuffed op triggered bs named (bs ++ [b]) named') :
    named' = named + 1 ∧ ∃ k, op.kind = .known k ∧
      b = grantedBuff (named + 1) op k (k.buffName?.getD k.name) triggered := by
  generalize hbs : bs ++ [b] = bs₁ at h
  have hlength : bs₁.length = bs.length + 1 := by
    rw [← hbs]
    exact List.length_append
  cases h with
  | kept => omega
  | reworked _ h =>
    have hle := h.length_le
    omega
  | @granted k hk =>
    have hsingle := List.append_cancel_left hbs
    exact ⟨rfl, k, hk, by simpa using hsingle⟩

end Rebuffed

/-- How a debuff is absorbed: an immunity spends a use or a turn, or it has all of them. -/
theorem absorb_cases {l : Lesson} {op : Operation} {r : Resolution}
    (h : absorb l op = .ok (some r)) : ∃ bs, r.lesson = { l with buffs := bs } ∧
      (bs = l.buffs ∨ spendCount l.buffs = .ok (some bs) ∨
        spendDuration l.buffs = .ok (some bs)) := by
  unfold absorb at h
  obtain ⟨counted, hc, h⟩ := Play.except_bind_ok.1 h
  cases counted with
  | some bs =>
    obtain rfl := Option.some.inj (Play.except_pure_ok.1 h)
    exact ⟨bs, rfl, .inr (.inl hc)⟩
  | none =>
    obtain ⟨timed, ht, h⟩ := Play.except_bind_ok.1 h
    cases timed with
    | some bs =>
      obtain rfl := Option.some.inj (Play.except_pure_ok.1 h)
      exact ⟨bs, rfl, .inr (.inr ht)⟩
    | none =>
      dsimp only at h
      split at h
      · obtain rfl := Option.some.inj (Play.except_pure_ok.1 h)
        exact ⟨l.buffs, rfl, .inl rfl⟩
      · cases Play.except_pure_ok.1 h

/-- An absorbed debuff changes no more than the buffs. -/
theorem absorb_spec {l : Lesson} {op : Operation} {r : Resolution}
    (h : absorb l op = .ok (some r)) (tr : Option Effect) (named : Nat) :
    ∃ bs, r.lesson = { l with buffs := bs } ∧ Rebuffed op tr l.buffs named bs named := by
  obtain ⟨bs, hr, rfl | hspent | hspent⟩ := absorb_cases h
  · exact ⟨l.buffs, hr, .kept⟩
  · exact ⟨bs, hr, .reworked (.inl rfl) (spendCount_reworked hspent)⟩
  · exact ⟨bs, hr, .reworked (.inl rfl) (spendDuration_reworked hspent)⟩

/-- How a buff is granted: one is extended or, when there is none to extend, another one is added to
the others. -/
theorem grantBuff_cases {l : Lesson} {op : Operation} {k : EffectKind} {name : String}
    {tr : Option Effect} {c c' : Chance} {r : Resolution}
    (h : grantBuff l op k name tr c = (.ok r, c')) :
    (∃ bs, r.lesson = { l with buffs := bs } ∧ c' = c ∧ k.isExtendable = true ∧
        extendFirst k (op.duration.given (.whole Balance.defaultBuffDuration)) l.buffs =
          .ok (some bs)) ∨
      r.lesson = { l with buffs := l.buffs ++ [grantedBuff (c.named + 1) op k name tr] } ∧
        c'.named = c.named + 1 ∧ (k.isExtendable = true → ∀ b ∈ l.buffs, b.is k = false) := by
  unfold grantBuff at h
  obtain ⟨extended, c₁, hx, h⟩ := Play.ite_bind_ok.1 h
  cases extended with
  | some bs =>
    obtain ⟨_, -, h⟩ := Play.lift_bind_ok.1 h
    obtain ⟨rfl, rfl⟩ := Play.pure_ok.1 h
    split at hx
    · next hextend =>
      obtain ⟨hs, rfl⟩ := Play.except_ok.1 hx
      exact .inl ⟨bs, rfl, rfl, hextend, hs⟩
    · cases (Play.pure_ok.1 hx).1
  | none =>
    obtain ⟨number, c₂, hf, h⟩ := Play.bind_ok.1 h
    obtain ⟨_, -, h⟩ := Play.lift_bind_ok.1 h
    obtain ⟨rfl, rfl⟩ := Play.pure_ok.1 h
    cases Play.luck_ok.1 hf
    right
    split at hx
    · obtain ⟨hs, rfl⟩ := Play.except_ok.1 hx
      exact ⟨rfl, rfl, fun _ => extendFirst_none hs⟩
    · next hextend =>
      obtain ⟨-, rfl⟩ := Play.pure_ok.1 hx
      exact ⟨rfl, rfl, fun hk => absurd hk hextend⟩

theorem grantBuff_spec {l : Lesson} {op : Operation} {k : EffectKind} {tr : Option Effect}
    {c c' : Chance} {r : Resolution} (hk : op.kind = .known k)
    (h : grantBuff l op k (k.buffName?.getD k.name) tr c = (.ok r, c')) :
    ∃ bs, r.lesson = { l with buffs := bs } ∧ Rebuffed op tr l.buffs c.named bs c'.named := by
  rcases grantBuff_cases h with ⟨bs, hr, rfl, hextend, hs⟩ | ⟨hr, hn, -⟩
  · exact ⟨bs, hr, .reworked (.inr hextend) (extendFirst_reworked hs)⟩
  · refine ⟨_, hr, ?_⟩
    rw [hn]
    exact .granted hk

/-! ### What the end of a turn does to buffs -/

/-- The end of a turn changes the duration of a buff, and whether it is new. -/
theorem tickBuff_spec {b b' : Buff} (h : tickBuff b = .ok b') :
    b' = { b with duration := b'.duration, isNew := b'.isNew } ∧
      (b'.duration = b.duration ∨ ∃ q, b'.duration = .number q) := by
  unfold tickBuff at h
  split at h
  · cases h
    exact ⟨rfl, .inl rfl⟩
  · split at h
    · cases h
      exact ⟨rfl, .inl rfl⟩
    · obtain ⟨duration, hless, h⟩ := Play.except_bind_ok.1 h
      obtain rfl := Play.except_pure_ok.1 h
      exact ⟨rfl, .inr (lessOne_ok hless)⟩

/-- The buffs after a turn come from buffs before it. -/
theorem mem_tickBuffs {bs bs' : List Buff} (h : tickBuffs bs = .ok bs') {b : Buff} (hb : b ∈ bs') :
    ∃ b₀ ∈ bs, tickBuff b₀ = .ok b := by
  obtain ⟨ticked, ht, h⟩ := Play.except_bind_ok.1 h
  obtain rfl := Play.except_pure_ok.1 h
  exact Play.except_mem_mapM ht b (List.mem_filter.1 hb).1

theorem tickBuffs_stem {bs bs' : List Buff} (h : tickBuffs bs = .ok bs') : StemFrom bs' bs := by
  intro b hb
  obtain ⟨b₀, hb₀, htick⟩ := mem_tickBuffs h hb
  obtain ⟨hframe, hduration⟩ := tickBuff_spec htick
  have hcount : b.count = b₀.count := by rw [hframe]
  refine ⟨b₀, hb₀, ?_, hduration, .inl hcount⟩
  rw [hcount]
  exact hframe

end CardLesson
