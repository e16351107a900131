/-
# How long a buff stays

A buff of a whole number of turns is there for the rest of the turn in which it was granted and for
as many turns after that: the first end of a turn only makes it an old one, each further one takes a
turn off it, and without a turn left it goes. The buffs that wait for a turn's start are looked up
when the buffs have aged, so one of them fires in exactly those later turns in which it is there.

Effects that make immunities and bans on genki longer or shorter are left out: buffs of these two
kinds follow no such law.

Key definitions: `Buff.aged`, `Lesson.startedBy`.
Key theorems: `tickBuffs_aged`, `Accepted.tracks_aged`, `Accepted.tracks_endless`, `buff_lasts`.
-/
import CardLesson.Proofs.Trace

namespace CardLesson

variable {l l' : Lesson} {c c' : Chance} {b : Buff} {d k : Nat}

/-! ### The ages of a buff -/

/-- The buff, or none, when so many turns ended since it was granted. -/
def Buff.aged (b : Buff) (d : Nat) : Nat → List Buff
  | 0 => [b]
  | k + 1 =>
    if k < d then
      [{ b with isNew := false, duration := if k = 0 then b.duration else .whole (d - k : Nat) }]
    else []

theorem Buff.aged_succ : b.aged d (k + 1) = if k < d then
    [{ b with isNew := false, duration := if k = 0 then b.duration else .whole (d - k : Nat) }]
    else [] := rfl

theorem Buff.aged_ne_nil : b.aged d k ≠ [] ↔ k ≤ d := by
  cases k with
  | zero => simp [Buff.aged]
  | succ k =>
    unfold Buff.aged
    split <;> simp <;> omega

/-- A buff with a turn to spare after `k` of its turns has one turn less after the next one. -/
theorem tickBuffs_old {x : Buff} {n : Nat} (hx : x.isNew = false)
    (hd : x.duration.quantity = .ok (.whole (n + 1 : Nat))) :
    tickBuffs [x] = .ok (if n = 0 then [] else [{ x with duration := .whole n }]) := by
  have hdefinite : x.indefinite = false := by
    rw [Buff.indefinite_eq hd]
    exact decide_eq_false (by omega)
  have hless : lessOne x.duration = .ok (.whole n) := by
    rw [lessOne_of_quantity hd, show ((n + 1 : Nat) - 1 : Int) = n by omega]
  have htick : tickBuff x = .ok { x with duration := .whole n } := by
    unfold tickBuff
    rw [hdefinite, if_neg Bool.false_ne_true, hx, if_neg Bool.false_ne_true, hless]
    rfl
  refine tickBuffs_cons.2 ⟨_, [], htick, rfl, ?_⟩
  simp

/-- **The ages of a buff** follow one another. -/
theorem tickBuffs_aged (hnew : b.isNew = true) (hd : b.duration.quantity = .ok (.whole d)) :
    ∀ k, tickBuffs (b.aged d k) = .ok (b.aged d (k + 1))
  | 0 => by
    have hdefinite : b.indefinite = false := by
      rw [Buff.indefinite_eq hd]
      exact decide_eq_false (by omega)
    refine tickBuffs_cons.2 ⟨_, [], tickBuff_new hdefinite hnew, rfl, ?_⟩
    show (if b.duration.same (.whole 0) then _ else _) = _
    rw [Datum.same_of_quantity hd]
    rcases d.eq_zero_or_pos with rfl | hpos
    · rfl
    · have hne : d ≠ 0 := by omega
      simp [Buff.aged, hpos, hne]
  | k + 1 => by
    by_cases hk : k < d
    · have hold : ((if k = 0 then b.duration else .whole (d - k : Nat)) : Datum).quantity =
          .ok (.whole ((d - k - 1) + 1 : Nat)) := by
        rw [show d - k - 1 + 1 = d - k by omega]
        split
        · next hzero => rw [hd, hzero, Nat.sub_zero]
        · rfl
      have hage : b.aged d (k + 1) = [{ b with
          isNew := false, duration := if k = 0 then b.duration else .whole (d - k : Nat) }] := by
        simp [Buff.aged, hk]
      rw [hage, tickBuffs_old rfl hold]
      by_cases hlast : d - k - 1 = 0
      · have hgone : ¬k + 1 < d := by omega
        simp [Buff.aged, hlast, hgone]
      · have hmore : k + 1 < d := by omega
        have hrest : ¬d - (k + 1) = 0 := by omega
        simp [Buff.aged, hmore, hrest, Nat.sub_sub]
    · have hgone : ¬k + 1 < d := by omega
      simp only [Buff.aged, hk, hgone, if_false]
      rfl

/-- A buff for the rest of the lesson stays as it is. -/
theorem tickBuffs_endless (hd : b.duration.quantity = .ok (.whole (-1))) :
    tickBuffs [b] = .ok [b] := by
  have hendless : b.indefinite = true := by
    rw [Buff.indefinite_eq hd]
    rfl
  refine tickBuffs_cons.2 ⟨b, [], tickBuff_indefinite hendless, rfl, ?_⟩
  rw [Datum.same_of_quantity hd]
  rfl

/-! ### A granted buff and later turns -/

section

variable {moves : List Move}

theorem Accepted.tracks_aged (h : Accepted l c moves l' c') (htracks : l.Tracks c b.id [b])
    (hnew : b.isNew = true) (hd : b.duration.quantity = .ok (.whole d)) :
    l'.Tracks c' b.id (b.aged d (turnEnds moves)) := by
  have hstep : ∀ k bs bs', bs = b.aged d k → tickBuffs bs = .ok bs' → bs' = b.aged d (k + 1) := by
    rintro k _ bs' rfl htick
    rw [tickBuffs_aged hnew hd k] at htick
    exact (Except.ok.inj htick).symm
  obtain ⟨bs', hend, hbs⟩ := h.tracks hstep htracks (k := 0) rfl
  rwa [hbs, Nat.zero_add] at hend

theorem Accepted.tracks_endless (h : Accepted l c moves l' c') (htracks : l.Tracks c b.id [b])
    (hd : b.duration.quantity = .ok (.whole (-1))) : l'.Tracks c' b.id [b] := by
  have hstep : ∀ (_ : Nat) bs bs', bs = [b] → tickBuffs bs = .ok bs' → bs' = [b] := by
    rintro _ _ bs' rfl htick
    rw [tickBuffs_endless hd] at htick
    exact (Except.ok.inj htick).symm
  obtain ⟨bs', hend, hbs⟩ := h.tracks hstep htracks (k := 0) rfl
  rwa [hbs] at hend

end

/-- The effects that the buffs under an id add to those that a turn starts with. -/
def Lesson.startedBy (l : Lesson) (id : String) : List Effect :=
  ((l.buffsOf .turnStart).filter (·.id == id)).filterMap (·.triggered)

theorem Lesson.Tracks.startedBy {id : String} {bs : List Buff} (h : l.Tracks c id bs) :
    l.startedBy id = (bs.filter (·.is .turnStart)).filterMap (·.triggered) := by
  unfold Lesson.startedBy Lesson.buffsOf
  rw [List.filter_comm, h.there]

theorem startedBy_aged {e : Effect} (h : l.Tracks c b.id (b.aged d (k + 1)))
    (hkind : b.is .turnStart = true) (he : b.triggered = some e) :
    l.startedBy b.id = if k + 1 ≤ d then [e] else [] := by
  rw [h.startedBy, Buff.aged_succ]
  by_cases hk : k < d
  · have hle : k + 1 ≤ d := hk
    rw [if_pos hk, if_pos hle, List.filter_cons_of_pos (by exact hkind), List.filter_nil]
    simp [he]
  · have hgt : ¬k + 1 ≤ d := hk
    rw [if_neg hk, if_neg hgt]
    rfl

/-- **How long a buff stays.** A buff that is granted in turn `t` for `d` turns is there after `k`
further turns exactly when `k ≤ d`; one for the rest of the lesson always is. If it waits for a
turn's start, it fires in the turns `t + 1` to `t + d`, or in all turns after `t`, once in each. -/
theorem buff_lasts {status : Status} {schedule : Schedule} {deck : List Copy} {drinks : List Drink}
    {maxTurns : Quantity} {catalog : Catalog} {before after : List Move} {move : Move}
    {ms : List Moment} {m : Moment} {l₀ l₁ l₂ l₃ : Lesson} {c₀ c c₁ c₂ c₃ : Chance}
    (hopen : openLesson status schedule deck drinks maxTurns catalog c = (.ok l₀, c₀))
    (hbefore : Accepted l₀ c₀ before l₁ c₁) (hmove : Made l₁ c₁ move ms l₂ c₂) (hm : m ∈ ms)
    (hgrant : m.Grants b) (hworn : b.isWorn = false) (hafter : Accepted l₂ c₂ after l₃ c₃) :
    (∀ d : Nat, b.duration.quantity = .ok (.whole d) →
      ((∃ x ∈ l₃.buffs, x.id = b.id) ↔ turnEnds after ≤ d)) ∧
    (b.duration.quantity = .ok (.whole (-1)) → ∃ x ∈ l₃.buffs, x.id = b.id) ∧
    ∃ t : Nat, m.lesson.turn = .whole t ∧ l₃.turn = .whole (t + turnEnds after : Nat) ∧
      ∀ e, b.is .turnStart = true → b.triggered = some e →
        ∀ schedule l₄ c₄, l₃.endTurn schedule c₃ = (.ok (some l₄), c₄) → ∃ next c' ms',
          Worked (next.reactionsOf .turnStart) next c' ms' l₄ c₄ ∧
          next.turn = .whole (t + (turnEnds after + 1) : Nat) ∧
          (∀ d : Nat, b.duration.quantity = .ok (.whole d) →
            next.startedBy b.id = if turnEnds after + 1 ≤ d then [e] else []) ∧
          (b.duration.quantity = .ok (.whole (-1)) → next.startedBy b.id = [e]) := by
  have hopened := (openLesson_ok hopen).1
  have hnumbered := hbefore.numbered hopened.numbered
  have hnew : b.isNew = true := by
    obtain ⟨e, k, -, -, heq⟩ := hgrant.spec
    rw [heq]
    rfl
  have htracks : l₂.Tracks c₂ b.id [b] := hmove.tracks_of_grants hnumbered hm hgrant hworn
  obtain ⟨t, hmoment, hturn⟩ := hmove.turn_of_moment hm (hbefore.turn hopened.turn_one)
  have hthen := hafter.turn hturn
  refine ⟨fun d hd => ?_, fun hd => ?_, t, hmoment, hthen, ?_⟩
  · rw [(hafter.tracks_aged htracks hnew hd).exists_iff, Buff.aged_ne_nil]
  · exact (hafter.tracks_endless htracks hd).exists_iff.2 (List.cons_ne_nil b [])
  · intro e hkind he schedule l₄ c₄ hends
    obtain ⟨next, c₅, ms', hnext, hworked⟩ := endTurn_accepted hends
    refine ⟨next, c₅, ms', hworked, (nextTurn_ok hnext).1.turn_succ hthen, fun d hd => ?_,
      fun hd => ?_⟩
    · obtain ⟨bs, htick, hthere⟩ := (hafter.tracks_aged htracks hnew hd).turned hnext
      rw [tickBuffs_aged hnew hd] at htick
      obtain rfl := Except.ok.inj htick
      exact startedBy_aged hthere hkind he
    · obtain ⟨bs, htick, hthere⟩ := (hafter.tracks_endless htracks hd).turned hnext
      rw [tickBuffs_endless hd] at htick
      obtain rfl := Except.ok.inj htick
      rw [hthere.startedBy, List.filter_cons_of_pos (by exact hkind), List.filter_nil]
      simp [he]

/-- A gain of genki at the start of each of two turns. -/
def wakingEffect : Effect :=
  .reactive (.known .turnStart) (.gain (.known .genki) (.whole 1)) (.whole 2) none

def wakingCard : Card :=
  { Card.plain "w" with startInHand := true, effects := [wakingEffect] }

/-- The buff of the card, under a number. -/
def wakingBuff (number : Nat) : Buff :=
  grantedBuff number wakingEffect.operation .turnStart "Turn Start Trigger" wakingEffect.triggered

theorem wakingEffect_grants {m : Moment} (hm : m.task = .effect wakingEffect) :
    m.Grants (wakingBuff (m.chance.named + 1)) := by
  obtain ⟨t, l, c⟩ := m
  obtain rfl := hm
  exact ⟨{ l with buffs := l.buffs ++ [wakingBuff (c.named + 1)] },
    { c with named := c.named + 1 }, rfl, rfl⟩

/-- The card is played in turn one, and in turn three its buff is there. -/
theorem buff_lasts_two_turns : ∃ l₀ c₀ ms m b l₁ c₁ l₂ c₂,
    openLesson {} [] (Copy.deal 0 [wakingCard]) [] (.whole 12) [] stillChance = (.ok l₀, c₀) ∧
      Made l₀ c₀ (.play (.text "w")) ms l₁ c₁ ∧ m ∈ ms ∧ m.Grants b ∧ b.isWorn = false ∧
      b.duration = .whole 2 ∧ Accepted l₁ c₁ [.endTurn [], .endTurn []] l₂ c₂ ∧
      ∃ x ∈ l₂.buffs, x.id = b.id := by
  let run : Play (Option Lesson) := do
    let l₀ ← openLesson {} [] (Copy.deal 0 [wakingCard]) [] (.whole 12) []
    Lesson.accept [.play (.text "w"), .endTurn [], .endTurn []] l₀
  have hok : (run stillChance).1.toOption.any Option.isSome = true := by decide +kernel
  obtain ⟨o, c₂, hout, hsome⟩ := Play.ok_of_any hok
  obtain ⟨l₂, rfl⟩ := Option.isSome_iff_exists.1 hsome
  obtain ⟨l₀, c₀, hopen, hout⟩ := Play.bind_ok.1 hout
  cases accept_ok hout with
  | @cons _ _ _ l₁ _ _ c₁ _ hplay hafter =>
    have hcard : ∀ copy, l₀.findInHand (.text "w") = some copy →
        ∃ es, copy.card.effects = wakingEffect :: es := by
      intro copy found
      have hcopy := (openLesson_ok hopen).1.zones.mem_iff.1
        (mem_zones_of_mem_hand (mem_of_findInHand found))
      rw [List.mem_singleton.1 hcopy]
      exact ⟨[], rfl⟩
    obtain ⟨ms, hmade, m, hm, htask⟩ := play_accepted hplay hcard
    have hgrant := wakingEffect_grants htask
    exact ⟨l₀, c₀, ms, m, _, l₁, c₁, l₂, c₂, hopen, hmade, hm, hgrant, rfl, rfl, hafter,
      ((buff_lasts hopen (.nil l₀ c₀) hmade hm hgrant rfl hafter).1 2 rfl).2 (by decide)⟩

end CardLesson
