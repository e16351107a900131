/-
# What a check of a roster finds out

When a check of a roster lets all cards through, the turns and the uses of every effect that can be
carried out are in range. Of several copies of a card only the first is checked, and the others are
compared with it; but what is in range stays so in whatever it equals, since equal numbers compare
alike with every other number.

Key definitions: `Card.inRange`.
Key theorems: `Effect.live_same`, `checkEffect_live`, `checkRoster_all`, `checkRoster_inRange`.
-/
import CardLesson.Proofs.Fitness
import CardLesson.Proofs.Sameness

namespace CardLesson

/-! ### What equal data have in common -/

theorem Datum.isBelow_congr {d d' : Datum} (h : d.same d' = true) (bound : Int) :
    isBelow d bound = isBelow d' bound := by
  have numbers {p q : Quantity} (h : p.same q = true) :
      (.ok (p.lt (.whole bound)) : Except Fault Bool) = .ok (q.lt (.whole bound)) := by
    rw [Quantity.lt_congr h]
  cases d <;> cases d' <;> first
    | rfl
    | cases h
    | exact numbers h

theorem Datum.notBelow_congr {d d' : Datum} (h : d.same d' = true) (bound : Int) :
    d.notBelow bound = d'.notBelow bound := by
  rw [notBelow, notBelow, isBelow_congr h]

theorem Operation.parts_of_same {op op' : Operation} : op.same op' = true →
    op.kind.same op'.kind = true ∧ op.duration.same op'.duration = true ∧
      op.count.same op'.count = true := by
  simp only [Operation.same, Bool.and_eq_true]
  tauto

/-- Equal kinds are both known, or both unknown. -/
theorem Tag.known_of_same {t t' : Tag EffectKind} (h : t.same t' = true) {k : EffectKind}
    (hk : t' = .known k) : t = .known k := by
  subst hk
  cases t with
  | known k' => rw [beq_iff_eq.1 h]
  | unknown raw => cases h

theorem Operation.inRange_congr {op op' : Operation} (h : op.same op' = true) :
    op.inRange = op'.inRange := by
  obtain ⟨hkind, hduration, hcount⟩ := Operation.parts_of_same h
  unfold inRange
  rw [Datum.notBelow_congr hduration, Datum.notBelow_congr hcount]
  cases hk : op.kind <;> cases hk' : op'.kind <;> rw [hk, hk'] at hkind <;> first
    | rfl
    | cases hkind

namespace Effect

variable {p : Operation → Bool}

mutual

/-- What an effect passes, every equal effect passes, as long as the test tells no equal operations
apart. -/
theorem live_same (hp : ∀ op op', op.same op' = true → p op = p op') : ∀ e e' : Effect,
    e.same e' = true → e.live p = true → e'.live p = true
  | ⟨op, subs, triggered⟩, ⟨op', subs', triggered'⟩, h, he => by
    rw [same, Bool.and_eq_true, Bool.and_eq_true] at h
    rw [live, Bool.and_eq_true] at he ⊢
    refine ⟨hp op op' h.1.1 ▸ he.1, ?_⟩
    have hinside := he.2
    cases hk : op'.kind with
    | unknown raw => rfl
    | known k =>
      rw [Tag.known_of_same (Operation.parts_of_same h.1.1).1 hk] at hinside
      have hinside := Bool.and_eq_true_iff.1 hinside
      exact Bool.and_eq_true_iff.2 ⟨liveAll_same hp subs subs' h.1.2 hinside.1,
        liveIn_same hp triggered triggered' h.2 hinside.2⟩
termination_by structural e => e

theorem liveAll_same (hp : ∀ op op', op.same op' = true → p op = p op') : ∀ es es' : List Effect,
    sameAll es es' = true → liveAll p es = true → liveAll p es' = true
  | [], [], _, _ => rfl
  | [], _ :: _, h, _ => by cases h
  | _ :: _, [], h, _ => by cases h
  | e :: es, e' :: es', h, he => by
    rw [sameAll, Bool.and_eq_true] at h
    rw [liveAll, Bool.and_eq_true] at he ⊢
    exact ⟨live_same hp e e' h.1 he.1, liveAll_same hp es es' h.2 he.2⟩
termination_by structural es => es

theorem liveIn_same (hp : ∀ op op', op.same op' = true → p op = p op') : ∀ o o' : Option Effect,
    sameOption o o' = true → liveIn p o = true → liveIn p o' = true
  | none, none, _, _ => rfl
  | none, some _, h, _ => by cases h
  | some _, none, h, _ => by cases h
  | some e, some e', h, he => live_same hp e e' h he
termination_by structural o => o

end

end Effect

/-! ### What a check lets through -/

namespace Report

variable {r s : Report}

theorem valid_of_append (h : (r ++ s).valid = true) : r.valid = true ∧ s.valid = true := by
  rwa [valid_append, Bool.and_eq_true] at h

theorem eq_false_of_valid {wrong : Bool} {line : String} (h : (errorIf wrong line).valid = true) :
    wrong = false := by
  cases wrong with
  | false => rfl
  | true => cases h

end Report

theorem notBelow_of_isBelow {d : Datum} {bound : Int} {below : Bool} {line : String}
    (h : isBelow d bound = .ok below) (hvalid : (Report.errorIf below line).valid = true) :
    d.notBelow bound = true := by
  rw [Datum.notBelow, h, Report.eq_false_of_valid hvalid]
  rfl

theorem checkOperation_inRange {place : String} {op : Operation} {k : EffectKind} {gate bare : Bool}
    {r : Report} (hk : op.kind = .known k) (h : checkOperation place op k gate bare = .ok r)
    (hvalid : r.valid = true) : op.inRange = true := by
  obtain ⟨short, hshort, h⟩ := Play.except_bind_ok.1 h
  obtain ⟨few, hfew, h⟩ := Play.except_bind_ok.1 h
  obtain rfl := Play.except_pure_ok.1 h
  obtain ⟨hvalid, -⟩ := Report.valid_of_append hvalid
  obtain ⟨hvalid, -⟩ := Report.valid_of_append hvalid
  obtain ⟨hvalid, hcount⟩ := Report.valid_of_append hvalid
  obtain ⟨-, hduration⟩ := Report.valid_of_append hvalid
  rw [Operation.inRange, hk, Bool.and_eq_true]
  exact ⟨notBelow_of_isBelow hshort hduration, notBelow_of_isBelow hfew hcount⟩

mutual

/-- In an effect that a check lets through all is in range. -/
theorem checkEffect_live {place : String} : ∀ (e : Effect) {r : Report},
    checkEffect place e = .ok r → r.valid = true → e.live Operation.inRange = true
  | ⟨op, subs, triggered⟩, r, h, hvalid => by
    rw [checkEffect] at h
    rw [Effect.live]
    cases hk : op.kind with
    | unknown raw =>
      rw [Operation.inRange, hk]
      rfl
    | known k =>
      rw [hk] at h
      obtain ⟨own, hown, h⟩ := Play.except_bind_ok.1 h
      obtain ⟨inside, hinside, h⟩ := Play.except_bind_ok.1 h
      obtain ⟨fired, hfired, h⟩ := Play.except_bind_ok.1 h
      obtain rfl := Play.except_pure_ok.1 h
      obtain ⟨hvalid, hlast⟩ := Report.valid_of_append hvalid
      obtain ⟨hfirst, hsecond⟩ := Report.valid_of_append hvalid
      rw [checkOperation_inRange hk hown hfirst, Bool.true_and]
      exact Bool.and_eq_true_iff.2
        ⟨checkEffects_live subs hinside hsecond, checkTriggered_live triggered hfired hlast⟩
termination_by structural e => e

theorem checkEffects_live {place : String} : ∀ (es : List Effect) {r : Report},
    checkEffects place es = .ok r → r.valid = true → Effect.liveAll Operation.inRange es = true
  | [], _, _, _ => rfl
  | e :: es, r, h, hvalid => by
    obtain ⟨first, hfirst, h⟩ := Play.except_bind_ok.1 h
    obtain ⟨rest, hrest, h⟩ := Play.except_bind_ok.1 h
    obtain rfl := Play.except_pure_ok.1 h
    obtain ⟨hvalid, hvalid'⟩ := Report.valid_of_append hvalid
    rw [Effect.liveAll, Bool.and_eq_true]
    exact ⟨checkEffect_live e hfirst hvalid, checkEffects_live es hrest hvalid'⟩
termination_by structural es => es

theorem checkTriggered_live {place : String} : ∀ (o : Option Effect) {r : Report},
    checkTriggered place o = .ok r → r.valid = true → Effect.liveIn Operation.inRange o = true
  | none, _, _, _ => rfl
  | some e, _, h, hvalid => checkEffect_live e h hvalid
termination_by structural o => o

end

/-- Whether the turns and the uses of all effects of a card that can be carried out are in range. -/
def Card.inRange (c : Card) : Bool := Effect.liveAll Operation.inRange c.effects

theorem checkCard_inRange {c : Card} {r : Report} (h : checkCard c = .ok r)
    (hvalid : r.valid = true) : c.inRange = true := by
  obtain ⟨effects, heffects, h⟩ := Play.except_bind_ok.1 h
  obtain rfl := Play.except_pure_ok.1 h
  obtain ⟨hvalid, -⟩ := Report.valid_of_append hvalid
  obtain ⟨hvalid, -⟩ := Report.valid_of_append hvalid
  obtain ⟨-, hvalid⟩ := Report.valid_of_append hvalid
  exact checkEffects_live c.effects heffects hvalid

theorem Card.inRange_same {c c' : Card} (h : c.same c' = true) (hc : c.inRange = true) :
    c'.inRange = true := by
  have heffects : Effect.sameAll c.effects c'.effects = true := by
    simp only [Card.same, Bool.and_eq_true] at h
    tauto
  exact Effect.liveAll_same (fun _ _ => Operation.inRange_congr) _ _ heffects hc

/-- What a card has that is let through, and with it every card that equals it, all cards of a
roster have that is let through. -/
theorem checkAfter_all {P : Card → Prop}
    (hcheck : ∀ {c : Card} {r : Report}, checkCard c = .ok r → r.valid = true → P c)
    (hsame : ∀ {c c' : Card}, c.same c' = true → P c → P c') :
    ∀ {cards seen : List Card} {r : Report}, checkAfter true seen cards = .ok r → r.valid = true →
      (∀ c ∈ seen, P c) → ∀ c ∈ cards, P c
  | [], _, _, _, _, _, c, hc => absurd hc List.not_mem_nil
  | first :: cards, seen, r, h, hvalid, hseen, c, hc => by
    obtain ⟨id, -, h⟩ := Play.except_bind_ok.1 h
    cases hfind : findCard id seen with
    | some known =>
      rw [hfind] at h
      obtain ⟨rest, hrest, h⟩ := Play.except_bind_ok.1 h
      obtain rfl := Play.except_pure_ok.1 h
      obtain ⟨hequal, hvalid⟩ := Report.valid_of_append hvalid
      rcases List.mem_cons.1 hc with rfl | hc
      · have hequal := Report.eq_false_of_valid hequal
        exact hsame (by simpa using hequal) (hseen known (List.mem_of_find?_eq_some hfind))
      · exact checkAfter_all hcheck hsame hrest hvalid hseen c hc
    | none =>
      rw [hfind] at h
      obtain ⟨own, hown, h⟩ := Play.except_bind_ok.1 h
      obtain ⟨rest, hrest, h⟩ := Play.except_bind_ok.1 h
      obtain rfl := Play.except_pure_ok.1 h
      obtain ⟨hvalid, hvalid'⟩ := Report.valid_of_append hvalid
      have hfirst := hcheck hown hvalid
      rcases List.mem_cons.1 hc with rfl | hc
      · exact hfirst
      · refine checkAfter_all hcheck hsame hrest hvalid' (fun x hx => ?_) c hc
        rcases List.mem_append.1 hx with hx | hx
        · exact hseen x hx
        · rw [List.mem_singleton.1 hx]
          exact hfirst

/-- **What the check of a card makes sure of, the check of a deck does** for each of its cards, as
long as no two equal cards differ in it: of several copies only the first is checked. -/
theorem checkRoster_all {P : Card → Prop}
    (hcheck : ∀ {c : Card} {r : Report}, checkCard c = .ok r → r.valid = true → P c)
    (hsame : ∀ {c c' : Card}, c.same c' = true → P c → P c') {cards : List Card} {r : Report}
    (h : checkRoster cards true = .ok r) (hvalid : r.valid = true) : ∀ c ∈ cards, P c := by
  obtain ⟨after, hafter, h⟩ := Play.except_bind_ok.1 h
  obtain rfl := Play.except_pure_ok.1 h
  refine checkAfter_all hcheck hsame hafter ?_ fun c hc => absurd hc List.not_mem_nil
  split at hvalid
  · exact (Report.valid_of_append hvalid).1
  · exact hvalid

/-- **In a deck that a check lets through all is in range**, in each of the copies of a card. -/
theorem checkRoster_inRange {cards : List Card} {r : Report} (h : checkRoster cards true = .ok r)
    (hvalid : r.valid = true) : ∀ c ∈ cards, c.inRange = true :=
  checkRoster_all checkCard_inRange Card.inRange_same h hvalid

end CardLesson
