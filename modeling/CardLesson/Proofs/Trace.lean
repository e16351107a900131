/-
# From turn to turn

Between two ends of a turn a lesson goes from task to task, and what moves do besides leaves its
buffs and its turn alone: that is a `Trace`, which forgets where the tasks come from. The ids of
buffs are given out in order, so that a buff can be followed by its id: effects leave it as it is
unless its kind is one they work on, and the end of a turn ages it.

Key definitions: `Trace`, `Moment.Grants`, `Lesson.Numbered`, `Lesson.Tracks`, `Accepted`,
`turnEnds`.
Key theorems: `Made.trace`, `Trace.tracks`, `Trace.tracks_of_grants`, `Accepted.tracks`.
-/
import CardLesson.Proofs.Course
import CardLesson.Proofs.Opening

namespace CardLesson

variable {l l₁ l' : Lesson} {c c₁ c' : Chance} {t : Task} {new : List Task} {ms : List Moment}
  {move : Move} {bs : List Buff} {b : Buff}

/-! ### Traces -/

/-- What happens to a lesson between two ends of a turn: tasks are performed, and all else leaves
its buffs and its turn alone. -/
inductive Trace : Lesson → Chance → List Moment → Lesson → Chance → Prop
  | nil (l : Lesson) (c : Chance) : Trace l c [] l c
  | still {l l₁ l' : Lesson} {c c' : Chance} {ms : List Moment} (hbuffs : l₁.buffs = l.buffs)
      (hturn : l₁.turn = l.turn) (rest : Trace l₁ c ms l' c') : Trace l c ms l' c'
  | task {t : Task} {new : List Task} {l l₁ l' : Lesson} {c c₁ c' : Chance} {ms : List Moment}
      (now : perform l t c = (.ok (new, l₁), c₁)) (rest : Trace l₁ c₁ ms l' c') :
      Trace l c (⟨t, l, c⟩ :: ms) l' c'

namespace Trace

theorem append {ms' : List Moment} (h : Trace l c ms l₁ c₁) (h' : Trace l₁ c₁ ms' l' c') :
    Trace l c (ms ++ ms') l' c' := by
  induction h with
  | nil => exact h'
  | still hbuffs hturn _ ih => exact .still hbuffs hturn (ih h')
  | task now _ ih => exact .task now (ih h')

/-- What leaves the buffs and the turn alone may come before a trace. -/
theorem stillBefore (h : Trace l₁ c ms l' c') (hbuffs : l₁.buffs = l.buffs)
    (hturn : l₁.turn = l.turn) : Trace l c ms l' c' := .still hbuffs hturn h

/-- What leaves the buffs and the turn alone may follow a trace. -/
theorem stillAfter (h : Trace l c ms l₁ c') (hbuffs : l'.buffs = l₁.buffs)
    (hturn : l'.turn = l₁.turn) : Trace l c ms l' c' := by
  have hlast : Trace l₁ c' [] l' c' := .still hbuffs hturn (.nil l' c')
  simpa using h.append hlast

end Trace

theorem Reaches.trace {s s' : Stage} (h : Reaches s ms s') :
    Trace s.lesson s.chance ms s'.lesson s'.chance := by
  induction h with
  | refl s => exact .nil s.lesson s.chance
  | step now _ ih => exact .task now ih

theorem Worked.trace {es : List Effect} (h : Worked es l c ms l' c') : Trace l c ms l' c' := by
  obtain ⟨l₁, lines, hrun, rfl⟩ := h
  exact hrun.trace.stillAfter rfl rfl

/-- A move that ends no turn is a trace; one that does is a trace from the next turn on. -/
theorem Made.trace (h : Made l c move ms l' c') : ∃ l₁ c₁, Trace l₁ c₁ ms l' c' ∧
    (l₁ = l ∧ c₁ = c ∨
      ∃ schedule, move = .endTurn schedule ∧ l.nextTurn schedule c = (.ok l₁, c₁)) := by
  cases h with
  | rejected _ => exact ⟨l, c, .nil l c, .inl ⟨rfl, rfl⟩⟩
  | @played id copy cost pay hp plays fired l₁ l₂ l₃ c₁ c₂ c₃ ms₁ ms₂ ms₃ lines _ _ _ _ _ _ _
      main reacting _ firing =>
    have hput : ((l₃.putAway copy).withLines lines).buffs = l₃.buffs ∧
        ((l₃.putAway copy).withLines lines).turn = l₃.turn := by
      unfold Lesson.putAway
      split <;> exact ⟨rfl, rfl⟩
    have hworked := (main.trace.append reacting.trace).append firing.trace
    have hpaid : Trace (l.paying copy pay hp plays) c _ _ c' := hworked.stillAfter hput.1 hput.2
    exact ⟨l, c, hpaid.stillBefore rfl rfl, .inl ⟨rfl, rfl⟩⟩
  | @ended schedule next _ c₁ _ _ _ turns starting =>
    exact ⟨next, c₁, starting.trace, .inr ⟨schedule, rfl, turns⟩⟩
  | @drunk id drink drinks l₁ _ _ lines _ drinking =>
    have hworked : Trace { l with drinks } c ms (l₁.withLines lines) c' :=
      drinking.trace.stillAfter rfl rfl
    exact ⟨l, c, hworked.stillBefore rfl rfl, .inl ⟨rfl, rfl⟩⟩

/-! ### What a task does to buffs and turns -/

theorem Performed.turn_eq (h : Performed l c t new l' c') : l'.turn = l.turn := by
  rw [h.frame]
  rfl

/-- A task leaves the buffs alone, or its effect does to them what effects do. -/
theorem Performed.rebuffed (h : Performed l c t new l' c') :
    l'.buffs = l.buffs ∧ c.named ≤ c'.named ∨ ∃ e, t = .effect e ∧
      Rebuffed e.operation e.triggered l.buffs c.named l'.buffs c'.named := by
  have hnamed := h.named_le
  cases h with
  | pools hk _ hr =>
    rw [(carryOut_pools hk hr).1]
    exact .inl ⟨rfl, hnamed⟩
  | buffs _ hb => exact .inr ⟨_, rfl, hb⟩
  | _ => exact .inl ⟨rfl, hnamed⟩

/-- The next turn has the next number. -/
theorem Turned.turn_succ {next : Lesson} (h : Turned l next) {n : Nat} (hn : l.turn = .whole n) :
    next.turn = .whole (n + 1 : Nat) := by
  have hadd := h.turn
  rw [hn] at hadd
  exact (Except.ok.inj hadd).symm

theorem Trace.turn_eq (h : Trace l c ms l' c') :
    l'.turn = l.turn ∧ ∀ m ∈ ms, m.lesson.turn = l.turn := by
  induction h with
  | nil => exact ⟨rfl, fun m hm => absurd hm List.not_mem_nil⟩
  | still _ hturn _ ih => exact hturn ▸ ih
  | task now _ ih =>
    have hturn := (perform_spec now).turn_eq
    refine ⟨ih.1.trans hturn, fun m hm => ?_⟩
    rcases List.mem_cons.1 hm with rfl | hm
    · rfl
    · exact (ih.2 m hm).trans hturn

/-- The moments of a move are all in the turn that the move leaves the lesson in. -/
theorem Made.turn_of_moment {m : Moment} (h : Made l c move ms l' c') (hm : m ∈ ms) {n : Nat}
    (hn : l.turn = .whole n) : ∃ t : Nat, m.lesson.turn = .whole t ∧ l'.turn = .whole t := by
  obtain ⟨l₁, c₁, htrace, ⟨rfl, rfl⟩ | ⟨schedule, -, hturn⟩⟩ := h.trace
  · obtain ⟨hend, hms⟩ := htrace.turn_eq
    exact ⟨n, (hms m hm).trans hn, hend.trans hn⟩
  · obtain ⟨hend, hms⟩ := htrace.turn_eq
    have hnext := (nextTurn_ok hturn).1.turn_succ hn
    exact ⟨n + 1, (hms m hm).trans hnext, hend.trans hnext⟩

/-! ### Buffs are numbered -/

/-- Every buff has an id that was given out. -/
def Lesson.Numbered (l : Lesson) (c : Chance) : Prop :=
  ∀ b ∈ l.buffs, ∃ n ≤ c.named, b.id = buffId n

theorem Lesson.Numbered.of_ids (h : l.Numbered c) (hn : c.named ≤ c'.named)
    (hids : ∀ b ∈ l'.buffs, ∃ b₀ ∈ l.buffs, b.id = b₀.id) : l'.Numbered c' := by
  intro b hb
  obtain ⟨b₀, hb₀, hid⟩ := hids b hb
  obtain ⟨n, hle, hnum⟩ := h b₀ hb₀
  exact ⟨n, Nat.le_trans hle hn, hid.trans hnum⟩

theorem Performed.numbered (h : Performed l c t new l' c') (hl : l.Numbered c) :
    l'.Numbered c' := by
  rcases h.rebuffed with ⟨heq, hn⟩ | ⟨e, -, hb⟩
  · refine hl.of_ids hn fun b hb => ?_
    rw [heq] at hb
    exact ⟨b, hb, rfl⟩
  · intro b hb'
    rcases hb.id_mem b hb' with ⟨b₀, hb₀, hid⟩ | ⟨hid, hn⟩
    · obtain ⟨n, hle, hnum⟩ := hl b₀ hb₀
      exact ⟨n, Nat.le_trans hle hb.named_le, hid.trans hnum⟩
    · exact ⟨c.named + 1, Nat.le_of_eq hn.symm, hid⟩

theorem Trace.numbered (h : Trace l c ms l' c') (hl : l.Numbered c) :
    l'.Numbered c' ∧ ∀ m ∈ ms, m.lesson.Numbered m.chance := by
  induction h with
  | nil => exact ⟨hl, fun m hm => absurd hm List.not_mem_nil⟩
  | still hbuffs _ _ ih =>
    refine ih fun b hb => hl b ?_
    rwa [hbuffs] at hb
  | task now _ ih =>
    obtain ⟨hend, hms⟩ := ih ((perform_spec now).numbered hl)
    refine ⟨hend, fun m hm => ?_⟩
    rcases List.mem_cons.1 hm with rfl | hm
    · exact hl
    · exact hms m hm

theorem nextTurn_numbered {schedule : Schedule} {next : Lesson}
    (h : l.nextTurn schedule c = (.ok next, c')) (hl : l.Numbered c) : next.Numbered c' := by
  obtain ⟨turned, hn⟩ := nextTurn_ok h
  exact hl.of_ids (Nat.le_of_eq hn.symm) (tickBuffs_stem turned.buffs).id_mem

theorem Made.numbered (h : Made l c move ms l' c') (hl : l.Numbered c) :
    l'.Numbered c' ∧ ∀ m ∈ ms, m.lesson.Numbered m.chance := by
  obtain ⟨l₁, c₁, htrace, ⟨rfl, rfl⟩ | ⟨schedule, -, hturn⟩⟩ := h.trace
  · exact htrace.numbered hl
  · exact htrace.numbered (nextTurn_numbered hturn hl)

/-! ### Following a buff -/

/-- Some buffs are those under an id that was given out, and effects do not work on them. -/
structure Lesson.Tracks (l : Lesson) (c : Chance) (id : String) (bs : List Buff) : Prop where
  there : l.buffs.filter (·.id == id) = bs
  old : ∃ n ≤ c.named, id = buffId n
  unworn : ∀ b ∈ bs, b.isWorn = false

namespace Lesson.Tracks

variable {id : String}

theorem mem_iff (h : l.Tracks c id bs) : b ∈ bs ↔ b ∈ l.buffs ∧ b.id = id := by
  rw [← h.there, List.mem_filter, beq_iff_eq]

theorem exists_iff (h : l.Tracks c id bs) : (∃ b ∈ l.buffs, b.id = id) ↔ bs ≠ [] := by
  constructor
  · rintro ⟨b, hb⟩
    exact List.ne_nil_of_mem (h.mem_iff.2 hb)
  · intro hne
    obtain ⟨b, hb⟩ := List.exists_mem_of_ne_nil bs hne
    exact ⟨b, h.mem_iff.1 hb⟩

theorem of_buffs_eq (h : l.Tracks c id bs) (heq : l'.buffs = l.buffs) (hn : c.named ≤ c'.named) :
    l'.Tracks c' id bs := by
  obtain ⟨n, hle, hid⟩ := h.old
  exact ⟨by rw [heq, h.there], ⟨n, Nat.le_trans hle hn, hid⟩, h.unworn⟩

/-- A task leaves the buffs under an id alone. -/
theorem performed (h : l.Tracks c id bs) (hp : Performed l c t new l' c') : l'.Tracks c' id bs := by
  rcases hp.rebuffed with ⟨heq, hn⟩ | ⟨e, -, hb⟩
  · exact h.of_buffs_eq heq hn
  · obtain ⟨n, hle, rfl⟩ := h.old
    have hworn : ∀ b ∈ l.buffs, b.id = buffId n → b.isWorn = false :=
      fun b hb hid => h.unworn b (h.mem_iff.2 ⟨hb, hid⟩)
    exact ⟨by rw [hb.filter_id hle hworn, h.there], ⟨n, Nat.le_trans hle hb.named_le, rfl⟩,
      h.unworn⟩

theorem trace (h : l.Tracks c id bs) (ht : Trace l c ms l' c') : l'.Tracks c' id bs := by
  induction ht with
  | nil => exact h
  | still hbuffs _ _ ih => exact ih (h.of_buffs_eq hbuffs (Nat.le_refl _))
  | task now _ ih => exact ih (h.performed (perform_spec now))

end Lesson.Tracks

/-- The moment grants a buff: it adds the buff to those that are there. -/
def Moment.Grants (m : Moment) (b : Buff) : Prop :=
  ∃ l' c', perform m.lesson m.task m.chance = (.ok ([], l'), c') ∧ l'.buffs = m.lesson.buffs ++ [b]

/-- A buff that is granted is new, and its id is the next one. -/
theorem Moment.Grants.spec {m : Moment} (h : m.Grants b) : ∃ e k, m.task = .effect e ∧
    e.operation.kind = .known k ∧
      b = grantedBuff (m.chance.named + 1) e.operation k (k.buffName?.getD k.name) e.triggered := by
  obtain ⟨l', c', hp, hb⟩ := h
  rcases (perform_spec hp).rebuffed with ⟨heq, -⟩ | ⟨e, ht, hre⟩
  · have hlen := congrArg List.length (heq.symm.trans hb)
    rw [List.length_append, List.length_singleton] at hlen
    omega
  · rw [hb] at hre
    obtain ⟨-, k, hk, heq⟩ := hre.of_append
    exact ⟨e, k, ht, hk, heq⟩

/-- From the moment on that grants it a buff is the one under its id. -/
theorem Moment.Grants.tracks {m : Moment} (h : m.Grants b) (hl : m.lesson.Numbered m.chance)
    (hworn : b.isWorn = false) (hp : perform m.lesson m.task m.chance = (.ok (new, l'), c')) :
    l'.Tracks c' b.id [b] := by
  obtain ⟨l₁, c₁, hp₁, hb⟩ := h
  rw [hp] at hp₁
  cases hp₁
  rcases (perform_spec hp).rebuffed with ⟨heq, -⟩ | ⟨e, -, hre⟩
  · have hlen := congrArg List.length (heq.symm.trans hb)
    rw [List.length_append, List.length_singleton] at hlen
    omega
  rw [hb] at hre
  obtain ⟨hn, k, -, heq⟩ := hre.of_append
  have hid : b.id = buffId (m.chance.named + 1) := by
    rw [heq]
    rfl
  refine ⟨?_, ⟨_, Nat.le_of_eq hn.symm, hid⟩, fun x hx => ?_⟩
  · have hnone : m.lesson.buffs.filter (·.id == b.id) = [] := by
      refine List.filter_eq_nil_iff.2 fun x hx hsame => ?_
      obtain ⟨n, hle, hnum⟩ := hl x hx
      have hsame := beq_iff_eq.1 hsame
      rw [hnum, hid] at hsame
      have heq := buffId_injective hsame
      omega
    rw [hb, List.filter_append, hnone, List.nil_append]
    exact List.filter_cons_of_pos (beq_self_eq_true b.id)
  · rw [List.mem_singleton.1 hx]
    exact hworn

/-- A buff for which an effect counts uses and no turns is granted for the rest of the lesson. -/
theorem Moment.Grants.endless {m : Moment} (h : m.Grants b) {e : Effect}
    (he : m.task = .effect e) (hduration : e.operation.duration.isNull = true)
    (hcount : e.operation.count.isNull = false) : b.duration = .whole (-1) := by
  obtain ⟨e', k, ht, -, heq⟩ := h.spec
  rw [he] at ht
  cases ht
  have hgranted : b.duration = grantedDuration e.operation := by
    rw [heq]
    rfl
  rw [hgranted, grantedDuration, hduration, hcount]
  rfl

/-- A buff that is granted in a trace is the one under its id when the trace ends. -/
theorem Trace.tracks_of_grants {m : Moment} (h : Trace l c ms l' c') (hl : l.Numbered c)
    (hm : m ∈ ms) (hgrant : m.Grants b) (hworn : b.isWorn = false) : l'.Tracks c' b.id [b] := by
  induction h with
  | nil => exact absurd hm List.not_mem_nil
  | still hbuffs _ _ ih =>
    refine ih (fun x hx => hl x ?_) hm
    rwa [hbuffs] at hx
  | task now rest ih =>
    rcases List.mem_cons.1 hm with rfl | hm
    · exact (hgrant.tracks hl hworn now).trace rest
    · exact ih ((perform_spec now).numbered hl) hm

/-- A buff that a move grants is the one under its id after the move. -/
theorem Made.tracks_of_grants {m : Moment} (h : Made l c move ms l' c') (hl : l.Numbered c)
    (hm : m ∈ ms) (hgrant : m.Grants b) (hworn : b.isWorn = false) : l'.Tracks c' b.id [b] := by
  obtain ⟨l₁, c₁, htrace, ⟨rfl, rfl⟩ | ⟨schedule, -, hturn⟩⟩ := h.trace
  · exact htrace.tracks_of_grants hl hm hgrant hworn
  · exact htrace.tracks_of_grants (nextTurn_numbered hturn hl) hm hgrant hworn

/-! ### The end of a turn -/

theorem tickBuffs_cons {bs' : List Buff} : tickBuffs (b :: bs) = .ok bs' ↔ ∃ b' rest,
    tickBuff b = .ok b' ∧ tickBuffs bs = .ok rest ∧
      (if b'.duration.same (.whole 0) then rest else b' :: rest) = bs' := by
  simp only [tickBuffs, List.mapM_cons, Play.except_bind_ok, Play.except_pure_ok]
  constructor
  · rintro ⟨_, ⟨b', hb', rest, hrest, rfl⟩, rfl⟩
    refine ⟨b', _, hb', ⟨rest, hrest, rfl⟩, ?_⟩
    cases hzero : b'.duration.same (.whole 0) <;> simp [hzero]
  · rintro ⟨b', _, hb', ⟨rest, hrest, rfl⟩, rfl⟩
    refine ⟨_, ⟨b', hb', rest, hrest, rfl⟩, ?_⟩
    cases hzero : b'.duration.same (.whole 0) <;> simp [hzero]

/-- Ageing the buffs ages those under an id. -/
theorem tickBuffs_filter {id : String} {bs' : List Buff} (h : tickBuffs bs = .ok bs') :
    tickBuffs (bs.filter (·.id == id)) = .ok (bs'.filter (·.id == id)) := by
  induction bs generalizing bs' with
  | nil =>
    cases h
    rfl
  | cons b bs ih =>
    obtain ⟨b', rest, hb', hrest, rfl⟩ := tickBuffs_cons.1 h
    have hid : b'.id = b.id := by rw [(tickBuff_spec hb').1]
    have hunder := ih hrest
    cases hsame : b.id == id with
    | false =>
      have hother : (b'.id == id) = false := by rw [hid, hsame]
      have hkept : (if b'.duration.same (.whole 0) then rest else b' :: rest).filter (·.id == id) =
          rest.filter (·.id == id) := by
        split
        · rfl
        · rw [List.filter_cons_of_neg (by simp [hother])]
      rw [List.filter_cons_of_neg (by simp [hsame]), hkept, hunder]
    | true =>
      have hown : (b'.id == id) = true := by rw [hid, hsame]
      rw [List.filter_cons_of_pos (by exact hsame)]
      refine tickBuffs_cons.2 ⟨b', _, hb', hunder, ?_⟩
      split
      · rfl
      · rw [List.filter_cons_of_pos (by exact hown)]

theorem tickBuffs_unworn {bs' : List Buff} (h : tickBuffs bs = .ok bs')
    (hworn : ∀ b ∈ bs, b.isWorn = false) : ∀ b ∈ bs', b.isWorn = false := by
  intro b hb
  obtain ⟨b₀, hb₀, htick⟩ := mem_tickBuffs h hb
  rw [(tickBuff_spec htick).1]
  exact hworn b₀ hb₀

/-- The end of a turn ages the buffs under an id. -/
theorem Lesson.Tracks.turned {id : String} {schedule : Schedule} {next : Lesson}
    (h : l.Tracks c id bs) (hturn : l.nextTurn schedule c = (.ok next, c')) :
    ∃ bs', tickBuffs bs = .ok bs' ∧ next.Tracks c' id bs' := by
  obtain ⟨turned, hn⟩ := nextTurn_ok hturn
  obtain ⟨n, hle, hid⟩ := h.old
  have htick : tickBuffs (l.buffs.filter (·.id == id)) = _ := tickBuffs_filter turned.buffs
  rw [h.there] at htick
  exact ⟨_, htick, rfl, ⟨n, by omega, hid⟩, tickBuffs_unworn htick h.unworn⟩

/-! ### Accepted moves -/

/-- A sequence of moves that are all accepted. -/
inductive Accepted : Lesson → Chance → List Move → Lesson → Chance → Prop
  | nil (l : Lesson) (c : Chance) : Accepted l c [] l c
  | cons {move : Move} {moves : List Move} {l l₁ l' : Lesson} {c c₁ c' : Chance}
      (first : move.make l c = (.ok (some l₁), c₁)) (rest : Accepted l₁ c₁ moves l' c') :
      Accepted l c (move :: moves) l' c'

/-- Makes moves one after another, as long as they are accepted. -/
def Lesson.accept : List Move → Lesson → Play (Option Lesson)
  | [], l => return some l
  | move :: moves, l => do
    match ← move.make l with
    | none => return none
    | some l₁ => accept moves l₁

theorem accept_ok : ∀ {moves : List Move} {l : Lesson} {c : Chance},
    Lesson.accept moves l c = (.ok (some l'), c') → Accepted l c moves l' c'
  | [], l, c, h => by
    obtain ⟨heq, rfl⟩ := Play.pure_ok.1 h
    obtain rfl := Option.some.inj heq
    exact .nil l c
  | move :: moves, l, c, h => by
    obtain ⟨next, c₁, hmove, h⟩ := Play.bind_ok.1 h
    cases next with
    | none => cases (Play.pure_ok.1 h).1
    | some l₁ => exact .cons hmove (accept_ok h)

def Move.endsTurn : Move → Bool
  | .endTurn _ => true
  | _ => false

/-- How many turns moves end. -/
def turnEnds (moves : List Move) : Nat := moves.countP (·.endsTurn)

/-- The end of a turn, when it is accepted, carries out what waits for the next turn. -/
theorem endTurn_accepted {schedule : Schedule} (h : l.endTurn schedule c = (.ok (some l'), c')) :
    ∃ next c₁ ms, l.nextTurn schedule c = (.ok next, c₁) ∧
      Worked (next.reactionsOf .turnStart) next c₁ ms l' c' := by
  obtain ⟨ms, hmade⟩ := endTurn_ok h
  rw [Option.getD_some] at hmade
  cases hmade with
  | rejected hnone => cases h.symm.trans hnone
  | ended _ turns starting => exact ⟨_, _, ms, turns, starting⟩

/-- A play that is accepted carries out the first effect of its card. -/
theorem play_accepted {id : Datum} {e : Effect} (h : l.play id c = (.ok (some l'), c'))
    (hcard : ∀ copy, l.findInHand id = some copy → ∃ es, copy.card.effects = e :: es) :
    ∃ ms, Made l c (.play id) ms l' c' ∧ ∃ m ∈ ms, m.task = .effect e := by
  obtain ⟨ms, hmade⟩ := play_ok h
  rw [Option.getD_some] at hmade
  have hplayed := hmade
  cases hmade with
  | rejected hnone => cases h.symm.trans hnone
  | @played id copy cost pay hp plays fired l₁ l₂ l₃ c₁ c₂ c₃ ms₁ ms₂ ms₃ lines _ found _ _ _ _ _
      main _ _ _ =>
    obtain ⟨es, heffects⟩ := hcard copy found
    obtain ⟨l', lines', hrun, -⟩ := main
    rw [heffects] at hrun
    cases hrun with
    | step now later =>
      refine ⟨_, hplayed, ⟨.effect e, l.paying copy pay hp plays, c⟩, ?_, rfl⟩
      simp

/-- An accepted move that ends no turn is a trace; one that ends a turn is a trace from the next
turn on. -/
theorem trace_of_accepted (h : move.make l c = (.ok (some l'), c')) :
    ∃ l₁ c₁ ms, Trace l₁ c₁ ms l' c' ∧ (move.endsTurn = false ∧ l₁ = l ∧ c₁ = c ∨
      ∃ schedule, move = .endTurn schedule ∧ l.nextTurn schedule c = (.ok l₁, c₁)) := by
  cases hmove : move.endsTurn with
  | false =>
    obtain ⟨ms, hmade⟩ := make_ok h
    obtain ⟨l₁, c₁, htrace, ⟨rfl, rfl⟩ | ⟨schedule, rfl, -⟩⟩ := hmade.trace
    · exact ⟨l₁, c₁, ms, htrace, .inl ⟨rfl, rfl, rfl⟩⟩
    · cases hmove
  | true =>
    cases move with
    | endTurn schedule =>
      obtain ⟨next, c₁, ms, hturn, hworked⟩ := endTurn_accepted h
      exact ⟨next, c₁, ms, hworked.trace, .inr ⟨schedule, rfl, hturn⟩⟩
    | _ => cases hmove

/-- **Accepted moves age the buffs under an id**, once with each end of a turn, and do nothing else
to them. What is said about them is said for each number of ends of turns. -/
theorem Accepted.tracks {moves : List Move} {id : String} {P : Nat → List Buff → Prop}
    (hP : ∀ k bs bs', P k bs → tickBuffs bs = .ok bs' → P (k + 1) bs')
    (h : Accepted l c moves l' c') : ∀ {k : Nat} {bs : List Buff}, l.Tracks c id bs → P k bs →
      ∃ bs', l'.Tracks c' id bs' ∧ P (k + turnEnds moves) bs' := by
  induction h with
  | nil => exact fun htracks hk => ⟨_, htracks, hk⟩
  | @cons move moves l l₁ l' c c₁ c' first _ ih =>
    intro k bs htracks hk
    obtain ⟨l₂, c₂, ms, htrace, ⟨hends, rfl, rfl⟩ | ⟨schedule, rfl, hturn⟩⟩ :=
      trace_of_accepted first
    · have hcount : turnEnds (move :: moves) = turnEnds moves := by simp [turnEnds, hends]
      rw [hcount]
      exact ih (htracks.trace htrace) hk
    · have hcount : turnEnds (.endTurn schedule :: moves) = turnEnds moves + 1 := by
        simp [turnEnds, Move.endsTurn]
      obtain ⟨bs', htick, hnext⟩ := htracks.turned hturn
      obtain ⟨bs'', hend, hP'⟩ := ih (hnext.trace htrace) (hP k bs bs' hk htick)
      refine ⟨bs'', hend, ?_⟩
      rw [hcount]
      convert hP' using 1
      omega

/-- Accepted moves go on by as many turns as they end. -/
theorem Accepted.turn {moves : List Move} (h : Accepted l c moves l' c') : ∀ {t : Nat},
    l.turn = .whole t → l'.turn = .whole (t + turnEnds moves : Nat) := by
  induction h with
  | nil => exact fun ht => ht
  | @cons move moves l l₁ l' c c₁ c' first _ ih =>
    intro t ht
    obtain ⟨l₂, c₂, ms, htrace, ⟨hends, rfl, rfl⟩ | ⟨schedule, rfl, hturn⟩⟩ :=
      trace_of_accepted first
    · have hcount : turnEnds (move :: moves) = turnEnds moves := by simp [turnEnds, hends]
      rw [hcount]
      exact ih (htrace.turn_eq.1.trans ht)
    · have hcount : turnEnds (.endTurn schedule :: moves) = turnEnds moves + 1 := by
        simp [turnEnds, Move.endsTurn]
      have hnext := (nextTurn_ok hturn).1.turn_succ ht
      have hend := ih (htrace.turn_eq.1.trans hnext)
      rw [hend, hcount]
      congr 2
      omega

/-- Whatever is accepted has a history. -/
theorem Accepted.numbered {moves : List Move} (h : Accepted l c moves l' c') (hl : l.Numbered c) :
    l'.Numbered c' := by
  induction h with
  | nil => exact hl
  | cons first _ ih =>
    obtain ⟨ms, hmade⟩ := make_ok first
    exact ih (hmade.numbered hl).1

/-- A lesson opens in turn one. -/
theorem Opened.turn_one {status : Status} {deck : List Copy} {drinks : List Drink}
    {maxTurns : Quantity} {catalog : Catalog}
    (h : Opened status deck drinks maxTurns catalog l) : l.turn = .whole (1 : Nat) := by
  rw [h.frame]
  rfl

/-- No buff is there when a lesson opens. -/
theorem Opened.numbered {status : Status} {deck : List Copy} {drinks : List Drink}
    {maxTurns : Quantity} {catalog : Catalog}
    (h : Opened status deck drinks maxTurns catalog l) : l.Numbered c := by
  intro b hb
  rw [h.frame] at hb
  exact absurd hb List.not_mem_nil

end CardLesson
