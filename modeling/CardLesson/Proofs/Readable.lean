/-
# When a description can be read

Every text is a description, and what no rule covers is reported as unknown. But the numbers that a
text says must be legible: the numbers of its usage conditions, its first span and its HP cost, and
those of every clause that a rule covers. A description, and a row with a name, can be read exactly
when they are, and when one is not, reading fails over a number (`compiling_fails_over_numbers`).

Key definitions: `LegibleEffect`, `LegibleClause`, `LegibleFragment`, `Description.Legible`,
`LegibleCost`.
Key theorems: `readClauses_hinges`, `readFragment_hinges`, `Description.read_hinges`,
`Row.compile_hinges`, `compiling_fails_over_numbers`, `double_point_is_not_read`.
-/
import CardLesson.Proofs.Legible
import CardLesson.Proofs.Stated
import CardLesson.Sheet.Compilation

namespace CardLesson.Wording

/-! ### Clauses -/

/-- The numbers of the clause can be read as the first rule that covers it needs them. -/
def LegibleEffect (c : List Char) : Prop :=
  match fixedScoreRule.pattern.covers? c with
  | some f => f.Legible ∧ f.Repeatable
  | none =>
    match Rule.found? scaledRules c with
    | some f => f.Legible ∧ f.Scalable
    | none => ∀ f, Rule.found? plainRules c = some f → f.Legible

/-- The numbers of the clause can be read. -/
def LegibleClause (c : List Char) : Prop :=
  match Rule.found? gateRules c with
  | some f => f.Legible
  | none => LegibleEffect c

theorem first?_append {α : Type} (rules others : List (Rule α)) (cs : List Char) :
    Rule.first? (rules ++ others) cs = (Rule.first? rules cs).or (Rule.first? others cs) :=
  List.findSome?_append

/-- What a clause states hinges on its numbers, and a clause that states no effect has none. -/
theorem effect_hinges (c : List Char) :
    match Rule.first? effectRules c with
    | none => LegibleEffect c
    | some meaning => Hinges (LegibleEffect c) meaning := by
  unfold LegibleEffect
  rw [effectRules_eq, Rule.first?, List.findSome?_cons]
  cases hcovers : fixedScoreRule.pattern.covers? c with
  | some f => exact fixedScoreRule_needs f (Rule.slots_of_covers? hcovers)
  | none =>
    change match Rule.first? (scaledRules ++ plainRules) c with
      | none => _
      | some meaning => Hinges _ meaning
    have hscaled := Rule.first?_hinges c scaledRules_need
    have hplain := Rule.first?_hinges c plainRules_need
    rw [first?_append]
    cases hfirst : Rule.first? scaledRules c with
    | some meaning =>
      rw [hfirst] at hscaled
      obtain ⟨f, hf, hm⟩ := hscaled
      rw [hf]
      exact hm
    | none =>
      rw [hfirst] at hscaled
      rw [hscaled, Option.none_or]
      cases hlast : Rule.first? plainRules c with
      | none =>
        rw [hlast] at hplain
        rw [hplain]
        intro f hf
        cases hf
      | some meaning =>
        rw [hlast] at hplain
        obtain ⟨f, hf, hm⟩ := hplain
        rw [hf]
        exact hm.congr ⟨fun hl _ heq => Option.some.inj heq ▸ hl, fun hl => hl f rfl⟩

theorem readClauses_hinges : ∀ (cs : List (List Char)) (waiting : List (Condition × List Char)),
    Hinges (∀ c ∈ cs, LegibleClause c) (readClauses waiting cs)
  | [], _ => Hinges.given (List.forall_mem_nil _)
  | c :: cs, waiting => by
    have hgates := Rule.first?_hinges c gateRules_need
    rw [List.forall_mem_cons, readClauses_cons]
    cases hgate : Rule.first? gateRules c with
    | some gate =>
      rw [hgate] at hgates
      obtain ⟨f, hf, hm⟩ := hgates
      have hclause : LegibleClause c ↔ f.Legible := by rw [LegibleClause, hf]
      rw [hclause]
      exact hm.both fun _ _ => readClauses_hinges cs _
    | none =>
      rw [hgate] at hgates
      have hclause : LegibleClause c ↔ LegibleEffect c := by rw [LegibleClause, hgates]
      rw [hclause]
      have heffects := effect_hinges c
      cases heffect : Rule.first? effectRules c with
      | none =>
        rw [heffect] at heffects
        rw [and_iff_right heffects]
        exact (readClauses_hinges cs waiting).andThen
      | some meaning =>
        rw [heffect] at heffects
        exact heffects.both fun _ _ => (readClauses_hinges cs []).andThen

/-! ### Fragments -/

/-- The numbers of the fragment can be read: those of what it announces, and those of its clauses
unless they wait in a buff. -/
def LegibleFragment (fragment : List Char) : Prop :=
  (∀ t content, announcement? fragment = some (t, content) →
    ∀ c ∈ clauses (bodyOf content), LegibleClause c) ∧
  (readTrigger fragment = .ok none → ∀ c ∈ clauses fragment, LegibleClause c)

theorem readTrigger_hinges (fragment : List Char) :
    Hinges (∀ t content, announcement? fragment = some (t, content) →
      ∀ c ∈ clauses (bodyOf content), LegibleClause c) (readTrigger fragment) := by
  rw [readTrigger_eq]
  cases h : announcement? fragment with
  | none =>
    refine Hinges.given fun _ _ h => ?_
    cases h
  | some a =>
    obtain ⟨t, content⟩ := a
    refine (readClauses_hinges (clauses (bodyOf content)) []).andThen.congr ?_
    constructor
    · intro hbody t' content' h
      cases h
      exact hbody
    · intro hbody
      exact hbody t content rfl

theorem readFragment_hinges (fragment : List Char) :
    Hinges (LegibleFragment fragment) (readFragment fragment) := by
  unfold readFragment Tables.readFragment
  refine ((readTrigger_hinges fragment).bind (R := fun buff => buff = none →
    ∀ c ∈ clauses fragment, LegibleClause c) fun buff _ => ?_).congr ?_
  · cases buff with
    | some e => exact Hinges.given fun h => (Option.some_ne_none _ h).elim
    | none => exact (readClauses_hinges _ _).congr ⟨fun h _ => h, fun h => h rfl⟩
  · refine and_congr_right fun _ => ?_
    constructor
    · intro h hnone
      exact h none hnone rfl
    · rintro h buff hbuff rfl
      exact h hbuff

theorem readFragments_hinges : ∀ fs : List (List Char),
    Hinges (∀ f ∈ fs, LegibleFragment f) (readFragments fs)
  | [] => Hinges.given (List.forall_mem_nil _)
  | f :: fs => by
    rw [List.forall_mem_cons]
    exact (readFragment_hinges f).both fun _ _ => (readFragments_hinges fs).andThen

/-! ### Descriptions -/

/-- What is found in a text was read somewhere in it. -/
theorem mem_sift {α : Type} {read : List Char → Option (α × List Char)} {a : α} :
    ∀ (cs : List Char) (skip : Nat), a ∈ (sift read skip cs).1 →
      ∃ text rest, read text = some (a, rest)
  | [], 0, h | [], _ + 1, h => absurd h List.not_mem_nil
  | _ :: cs, skip + 1, h => mem_sift cs skip h
  | c :: cs, 0, h => by
    rw [sift] at h
    split at h
    · next b rest hread =>
      rcases List.mem_cons.1 h with rfl | h
      · exact ⟨c :: cs, rest, hread⟩
      · exact mem_sift cs _ h
    · exact mem_sift cs 0 h

/-- A reader that makes something of what another reader finds. -/
theorem sift_map {α β : Type} {read : List Char → Option (α × List Char)} (g : α → β) :
    ∀ (cs : List Char) (skip : Nat),
      (sift (fun cs => (read cs).map fun r => (g r.1, r.2)) skip cs).1 =
        (sift read skip cs).1.map g
  | [], 0 | [], _ + 1 => rfl
  | _ :: cs, skip + 1 => sift_map g cs skip
  | c :: cs, 0 => by
    rw [sift, sift]
    cases hread : read (c :: cs) with
    | none => exact sift_map g cs 0
    | some r => exact congrArg (g r.1 :: ·) (sift_map g cs _)

namespace Description

/-- A usage condition at the start of a text, as its rule and what its phrase keeps. -/
def readUsage (cs : List Char) : Option ((Rule Condition × Found) × List Char) :=
  usageRules.findSome? fun r => (r.pattern.read cs).map fun (f, rest) => ((r, f), rest)

/-- The usage conditions of a description, as their rules and what their phrases keep. -/
def usagesFound (cs : List Char) : List (Rule Condition × Found) :=
  (sift readUsage 0 (unflagged cs)).1

theorem readFirst_usageRules : Rule.readFirst usageRules =
    fun cs => (readUsage cs).map fun r => (r.1.1.meaning r.1.2, r.2) := by
  funext cs
  rw [Rule.readFirst, readUsage, List.map_findSome?]
  congr 1
  funext r
  rw [Function.comp_apply, Option.map_map]
  rfl

theorem usages_eq (cs : List Char) : usages cs = (usagesFound cs).map fun u => u.1.meaning u.2 := by
  rw [usages, readFirst_usageRules]
  exact sift_map (fun u : Rule Condition × Found => u.1.meaning u.2) (unflagged cs) 0

theorem usage_hinges {cs : List Char} {u : Rule Condition × Found} (hu : u ∈ usagesFound cs) :
    Hinges u.2.Legible (u.1.meaning u.2) := by
  obtain ⟨_, _, husage⟩ := mem_sift _ _ hu
  obtain ⟨r, hr, hsome⟩ := List.exists_of_findSome?_eq_some husage
  obtain ⟨⟨f, _⟩, hread, heq⟩ := Option.map_eq_some_iff.1 hsome
  obtain ⟨rfl, rfl⟩ := Prod.mk.inj heq
  exact usageRules_need r hr f (Pattern.mem_slots hread)

theorem span_hinges {cs : List Char} {f : Found} (hf : (spans cs).head? = some f) :
    Hinges f.Legible (f.count .turns) := by
  obtain ⟨_, _, hread⟩ := mem_sift _ _ (List.mem_of_head? hf)
  have hslots : ∀ s ∈ f, s.1 ∈ [Slot.turns] := Pattern.mem_slots hread
  rw [Found.legible_iff hslots, List.forall_mem_singleton]
  exact Found.count_hinges rfl

theorem cost_hinges {cs : List Char} {f : Found} (hf : costPhrase? cs = some f) :
    Hinges f.Legible (f.count .amount) := by
  obtain ⟨_, _, hcovers⟩ := Option.bind_eq_some_iff.1 hf
  obtain ⟨_, hread, _⟩ := Pattern.read_of_covers? hcovers
  have hslots : ∀ s ∈ f, s.1 ∈ [Slot.amount] := Pattern.mem_slots hread
  rw [Found.legible_iff hslots, List.forall_mem_singleton]
  exact Found.count_hinges rfl

/-- The numbers of a description can be read. -/
structure Legible (cs : List Char) : Prop where
  usages : ∀ u ∈ usagesFound cs, u.2.Legible
  span : ∀ f, (spans cs).head? = some f → f.Legible
  cost : ∀ f, costPhrase? cs = some f → f.Legible
  parts : ∀ p ∈ parts cs, LegibleFragment p

/-- **A description can be read** exactly when its numbers can; it fails over a number otherwise. -/
theorem read_hinges (cs : List Char) : Hinges (Legible cs) (read cs) := by
  rw [read_eq, usages_eq, List.mapM_map]
  refine ((Hinges.mapM fun u hu => usage_hinges hu).both fun _ _ =>
    (Hinges.mapOption fun f hf => span_hinges hf).both fun _ _ =>
      (Hinges.mapOption fun f hf => cost_hinges hf).both fun _ _ =>
        (readFragments_hinges (parts cs)).andThen).congr ?_
  exact ⟨fun ⟨husages, hspan, hcost, hparts⟩ => ⟨husages, hspan, hcost, hparts⟩,
    fun h => ⟨h.usages, h.span, h.cost, h.parts⟩⟩

end Description
end CardLesson.Wording

namespace CardLesson

open Wording

/-! ### The cost column -/

/-- The first and last code points of all runs of figures. -/
def figureRanges : List (Nat × Nat) :=
  (Text.digitZeros.map fun z => (z, z + 9)) ++ Text.figureRuns

theorem exists_range_of_isFigure {c : Char} (h : Text.isFigure c = true) :
    ∃ r ∈ figureRanges, r.1 ≤ c.toNat ∧ c.toNat ≤ r.2 := by
  rcases Bool.or_eq_true_iff.1 h with h | h
  · rw [Text.isDigit, Text.digitValue?, Option.isSome_map] at h
    obtain ⟨z, hz⟩ := Option.isSome_iff_exists.1 h
    have hrange := List.find?_some hz
    rw [decide_eq_true_eq] at hrange
    refine ⟨(z, z + 9), List.mem_append_left _ (List.mem_map_of_mem (List.mem_of_find?_eq_some hz)),
      hrange.1, ?_⟩
    omega
  · obtain ⟨r, hr, hrange⟩ := List.any_eq_true.1 h
    exact ⟨r, List.mem_append_right _ hr, of_decide_eq_true hrange⟩

/-- No figure is a blank, a sign or an underscore. -/
theorem isFigure_apart {c : Char} (h : Text.isFigure c = true) :
    ∀ r ∈ Text.blankRuns ++ [(0x2b, 0x2b), (0x2d, 0x2d), (0x5f, 0x5f)],
      ¬(r.1 ≤ c.toNat ∧ c.toNat ≤ r.2) := by
  obtain ⟨r, hr, hlow, hhigh⟩ := exists_range_of_isFigure h
  have hapart : ∀ r ∈ figureRanges,
      ∀ b ∈ Text.blankRuns ++ [(0x2b, 0x2b), (0x2d, 0x2d), (0x5f, 0x5f)],
        r.2 < b.1 ∨ b.2 < r.1 := by decide
  intro b hb hrange
  rcases hapart r hr b hb with h | h <;> omega

theorem isMargin_of_isFigure {c : Char} (h : Text.isFigure c = true) : isMargin c = false := by
  have hblank : Text.isBlank c = false := by
    refine List.any_eq_false.2 fun r hr => ?_
    simpa using isFigure_apart h r (List.mem_append_left _ hr)
  rw [isMargin, hblank, Bool.false_and]

theorem isFigure_ne {c mark : Char} (h : Text.isFigure c = true)
    (hmark : (mark.toNat, mark.toNat) ∈ Text.blankRuns ++
      [(0x2b, 0x2b), (0x2d, 0x2d), (0x5f, 0x5f)]) : c ≠ mark := by
  rintro rfl
  exact isFigure_apart h _ hmark ⟨le_refl _, le_refl _⟩

theorem splitSign_figures {cs : List Char} (h : ∀ c ∈ cs, Text.isFigure c = true) :
    splitSign cs = (false, cs) := by
  unfold splitSign
  split
  · exact absurd rfl (isFigure_ne (h '-' List.mem_cons_self) (by decide))
  · exact absurd rfl (isFigure_ne (h '+' List.mem_cons_self) (by decide))
  · rfl

/-- Digits are read as they stand. -/
theorem figuresOf?_digits : ∀ {cs : List Char}, (∀ c ∈ cs, Text.isDigit c = true) → cs ≠ [] →
    figuresOf? cs = some cs
  | [], _, hne => absurd rfl hne
  | [c], h, _ => by rw [figuresOf?, if_pos (h c List.mem_cons_self)]
  | c :: c' :: cs, h, _ => by
    have hrest : ∀ d ∈ c' :: cs, Text.isDigit d = true := fun d hd =>
      h d (List.mem_cons_of_mem c hd)
    have hmark : c' ≠ '_' := by
      rintro rfl
      exact Bool.false_ne_true (hrest '_' List.mem_cons_self)
    rw [figuresOf?, if_pos (h c List.mem_cons_self), figuresOf?_digits hrest (List.cons_ne_nil _ _)]
    · rfl
    · exact List.cons_ne_nil _ _
    · exact fun rest heq => hmark (List.cons.inj heq).1

/-- Where figures stop being digits no margin begins. -/
theorem margin_of_figures {cs : List Char} (h : ∀ c ∈ cs, Text.isFigure c = true)
    (hsome : ¬∀ c ∈ cs, Text.isDigit c = true) :
    (cs.dropWhile fun c => Text.isDigit c || c == '_').all isMargin = false := by
  have hpart : cs.dropWhile (fun c => Text.isDigit c || c == '_') ≠ [] := by
    refine fun hnil => hsome fun c hc => ?_
    have hmark : c ≠ '_' := isFigure_ne (h c hc) (by decide)
    simpa [hmark] using List.dropWhile_eq_nil_iff.1 hnil c hc
  obtain ⟨c, rest, hrest⟩ := List.exists_cons_of_ne_nil hpart
  have hmem : c ∈ cs := (List.dropWhile_sublist _).mem (hrest ▸ List.mem_cons_self)
  rw [hrest, List.all_cons, isMargin_of_isFigure (h c hmem), Bool.false_and]

/-- The numbers of a cost column can be read: figures alone are digits, and not too many. -/
def LegibleCost (cs : List Char) : Prop :=
  cs ≠ [] → cs.all Text.isFigure = true → cs.all Text.isDigit = true ∧ cs.length ≤ figureLimit

/-- Figures alone are read when all of them are digits, and not too many. -/
theorem readWhole_hinges {cs : List Char} (hne : cs ≠ [])
    (h : ∀ c ∈ cs, Text.isFigure c = true) :
    Hinges (cs.all Text.isDigit = true ∧ cs.length ≤ figureLimit)
      (readWhole (String.ofList cs)) := by
  have hstart : Text.trimStart isMargin cs = cs := by
    cases cs with
    | nil => rfl
    | cons c cs => exact Text.trimStart_eq_self (isMargin_of_isFigure (h c List.mem_cons_self))
  unfold readWhole
  rw [String.toList_ofList, hstart, splitSign_figures h]
  dsimp only
  by_cases hall : ∀ c ∈ cs, Text.isDigit c = true
  · have hpart : ∀ c ∈ cs, (Text.isDigit c || c == '_') = true := fun c hc => by
      rw [hall c hc, Bool.true_or]
    rw [List.takeWhile_eq_self_iff.2 hpart, List.dropWhile_eq_nil_iff.2 hpart,
      figuresOf?_digits hall hne, and_iff_right (List.all_eq_true.2 hall)]
    dsimp only
    rw [← ite_not]
    exact (Hinges.ite rfl).congr Nat.not_lt
  · have hnot : ¬(cs.all Text.isDigit = true ∧ cs.length ≤ figureLimit) :=
      fun hd => hall (List.all_eq_true.1 hd.1)
    rw [margin_of_figures h hall]
    split
    · exact (Hinges.error rfl).congr (iff_of_false id hnot)
    · split
      · exact (Hinges.error rfl).congr (iff_of_false id hnot)
      · exact (Hinges.error rfl).congr (iff_of_false id hnot)

theorem costOfColumn_hinges (cs : List Char) : Hinges (LegibleCost cs) (costOfColumn cs) := by
  unfold costOfColumn LegibleCost
  split
  · next h =>
    rw [Bool.and_eq_true, List.all_eq_true] at h
    have hne : cs ≠ [] := by simpa using h.1
    refine (readWhole_hinges hne h.2).congr ?_
    exact ⟨fun hd _ _ => hd, fun hd => hd hne (List.all_eq_true.2 h.2)⟩
  · next h =>
    refine Hinges.given fun hne hall => absurd ?_ h
    rw [hall]
    simpa using hne

/-! ### Rows -/

/-- A row of texts; the rarity may be missing. -/
def Row.ofWords (name plan type cost description : String) (rarity : Datum) : Row :=
  { name, rarity, plan := .text plan, type := .text type, cost := .text cost
    description := .text description }

/-- The numbers of the description and of the cost column can be read. -/
def LegibleRow (cost description : String) : Prop :=
  Description.Legible description.toList ∧ LegibleCost (plain cost.toList)

variable {name plan type cost description : String} {rarity : Datum}

theorem describe_hinges (shown : List Char) : Hinges (LegibleRow cost description)
    ((Row.ofWords name plan type cost description rarity).describe shown) := by
  unfold Row.describe
  refine Hinges.after (a := description.toList) rfl ?_
  refine (Description.read_hinges description.toList).both fun _ _ => ?_
  refine Hinges.after (a := plan.toList) rfl ?_
  refine Hinges.after (a := cost.toList) rfl ?_
  exact (costOfColumn_hinges (plain cost.toList)).before fun _ _ =>
    Hinges.after (a := type.toList) rfl Hinges.ok

/-- The card that a row describes can be checked. -/
theorem describe_checked {row : Row} {shown : List Char} {card : Card} {unknown : List String}
    (h : row.describe shown = .ok (card, unknown)) : ∃ report, checkCard card = .ok report := by
  obtain ⟨_, _, h⟩ := Play.except_bind_ok.1 h
  obtain ⟨said, hsaid, h⟩ := Play.except_bind_ok.1 h
  obtain ⟨_, _, h⟩ := Play.except_bind_ok.1 h
  obtain ⟨_, _, h⟩ := Play.except_bind_ok.1 h
  obtain ⟨_, _, h⟩ := Play.except_bind_ok.1 h
  obtain ⟨_, _, h⟩ := Play.except_bind_ok.1 h
  obtain ⟨rfl, _⟩ := Prod.mk.inj (Play.except_pure_ok.1 h)
  exact checkCard_returns (Description.read_every makes_timed hsaid)

/-- **A row can be compiled** exactly when it has no name or its numbers can be read. -/
theorem compile_hinges : Hinges (plain name.toList ≠ [] → LegibleRow cost description)
    (Row.ofWords name plan type cost description rarity).compile := by
  unfold Row.compile
  change Hinges _ (if (plain name.toList).isEmpty then _ else _)
  split
  · next hname =>
    exact Hinges.given fun h => absurd (List.isEmpty_iff.1 hname) h
  · next hname =>
    have hname : plain name.toList ≠ [] := by simpa using hname
    refine Hinges.congr ?_ (forall_prop_of_true hname).symm
    refine (describe_hinges (plain name.toList)).before fun card hcard => ?_
    obtain ⟨report, hreport⟩ := describe_checked hcard
    exact Hinges.after hreport Hinges.ok

/-- **Compiling fails over numbers only**: whatever the texts, a description can be read, and a row
can be compiled, exactly when the numbers in them are legible; otherwise the fault is a number. -/
theorem compiling_fails_over_numbers (cs : List Char)
    (name plan type cost description : String) (rarity : Datum) :
    Hinges (Description.Legible cs) (Description.read cs) ∧
    Hinges (plain name.toList ≠ [] → LegibleRow cost description)
      (Row.ofWords name plan type cost description rarity).compile :=
  ⟨Description.read_hinges cs, compile_hinges⟩

/-- A score whose factor is two points cannot be read. -/
theorem double_point_is_not_read :
    Description.read "パラメータ+1(集中効果を..倍適用)".toList = .error (.badValue (.notDecimal "..")) := rfl

end CardLesson
