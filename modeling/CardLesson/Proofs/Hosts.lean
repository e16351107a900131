/-
# What a host keeps, whatever it is asked for

A host answers calls: it opens sessions, shows them, makes moves in them, tells costs, ends and
lists them, sweeps out the old ones and moves its clock, in any order. The calls with their times
and answers are the events of a run.

From the events alone it can be told which sessions live: those that were opened and that no later
event removes, which only the end of a session and a sweep do. `Host.Tidy` is what carries this: the
sessions are in the order of their opening, no two under one id, and no age is beyond what can be
told. A move in a session is one on its own lesson with its own generator; nothing else is touched.

Key definitions: `Host.Call`, `Host.Event`, `Host.run`, `Host.Event.removes`, `Host.Lives`,
`Host.Tidy`, `Host.Call.Carried`.
Key theorems: `Host.act_of_found`, `Host.sweep_eq`, `Host.carried`, `Host.Tidy.make`,
`Host.lives_iff`, `Host.sessions_live_apart`.
-/
import CardLesson.Proofs.Course
import CardLesson.Proofs.Rejection
import Mathlib.Data.List.Induction

namespace CardLesson

/-! ### Steps of a host -/

namespace Hosting

variable {α β : Type}

theorem bind_apply (x : Hosting α) (f : α → Hosting β) (host : Host) :
    (x >>= f) host = match x host with
      | (.ok a, host₁) => f a host₁
      | (.error e, host₁) => (.error e, host₁) := by
  show (ExceptT.bind x f : Hosting β) host = _
  unfold ExceptT.bind ExceptT.mk
  show (StateT.bind x (ExceptT.bindCont f)) host = _
  unfold StateT.bind
  show (match x host with | (a, s) => ExceptT.bindCont f a s) = _
  rcases x host with ⟨a | a, host₁⟩ <;> rfl

/-- What a step returns is passed on, and so is its failure. -/
theorem map_apply (x : Hosting α) (f : α → β) (host : Host) :
    (do return f (← x) : Hosting β) host = ((x host).1.map f, (x host).2) := by
  rw [bind_apply]
  rcases x host with ⟨e | a, host₁⟩ <;> rfl

theorem get_bind (f : Host → Hosting β) (host : Host) :
    ((liftM (get : StateM Host Host) : Hosting Host) >>= f) host = f host host := rfl

theorem except_bind (x : Except Fault α) (f : α → Hosting β) (host : Host) :
    ((liftM x : Hosting α) >>= f) host = match x with
      | .ok a => f a host
      | .error e => (.error e, host) := by
  rw [bind_apply]
  cases x <;> rfl

end Hosting

namespace Host

/-! ### Calls -/

/-- What a session is asked to do in its lesson. -/
inductive Deed where
  | play (card : Datum)
  | endTurn
  | drink (drink : Datum)

/-- The move that a deed is in a session. -/
def Deed.move (s : Session) : Deed → Move
  | .play card => .play card
  | .endTurn => .endTurn s.schedule
  | .drink id => .drink id

/-- What a host is asked for. -/
inductive Call where
  | start (o : Opening)
  | look (id : String)
  | act (id : String) (deed : Deed)
  | preview (id : String) (card : Datum)
  | close (id : String)
  | active
  | sweep (oldest : Quantity)
  | advance (seconds : Quantity)

/-- What a host answers. -/
inductive Answer where
  | session (s : Session)
  | accepted (flag : Bool)
  | cost (cost : Option Int)
  | closed (flag : Bool)
  | active (ids : List String)
  | swept (count : Nat)
  | time (t : Quantity)

/-- Makes the move that a session is asked for. -/
def Deed.make (id : String) : Deed → Hosting Bool
  | .play card => Host.play id card
  | .endTurn => Host.endTurn id
  | .drink drinkId => Host.useDrink id drinkId

/-- Carries out a call. -/
def Call.make : Call → Hosting Answer
  | .start o => do return .session (← Host.start o)
  | .look id => do return .session (← Host.session id)
  | .act id deed => do return .accepted (← deed.make id)
  | .preview id card => do
      return .cost (← ((← Host.session id).lesson.previewCost card : Except Fault (Option Int)))
  | .close id => do return .closed (← Host.close id)
  | .active => do return .active (← (get : StateM Host Host)).active
  | .sweep oldest => do return .swept (← Host.sweep oldest)
  | .advance seconds => do return .time (← Host.advance seconds)

/-- A call that was made, with its time and its answer. -/
structure Event where
  call : Call
  time : Quantity
  answer : Except Fault Answer

/-- Makes calls one after another, and gives the events. -/
def run (calls : List Call) (host : Host) : List Event × Host :=
  calls.foldl (fun (events, host) call =>
    let (answer, after) := call.make host
    (events ++ [⟨call, host.clock, answer⟩], after)) ([], host)

theorem run_concat (calls : List Call) (call : Call) (host : Host) :
    run (calls ++ [call]) host =
      ((run calls host).1 ++ [⟨call, (run calls host).2.clock, (call.make (run calls host).2).1⟩],
        (call.make (run calls host).2).2) := by
  rw [run, List.foldl_append]
  rfl

/-! ### Which sessions live -/

/-- Whether a session is too old at a time. -/
def tooOld (oldest created now : Quantity) : Bool :=
  (now.sub created).toOption.any oldest.lt

namespace Event

/-- The session that was opened, if one was. -/
def started (e : Event) : Option Session :=
  match e.call, e.answer with
  | .start _, .ok (.session s) => some s
  | _, _ => none

/-- The id and the time of the session that was opened. -/
def opened? (e : Event) : Option (String × Quantity) := e.started.map fun s => (s.id, e.time)

/-- Whether the event removes a session of this id that was opened at this time. -/
def removes (id : String) (created : Quantity) (e : Event) : Bool :=
  match e.call with
  | .close id' => id' == id
  | .sweep oldest => tooOld oldest created e.time
  | _ => false

end Event

/-- The events have opened a session of this id at this time, and since then none has removed it. -/
def Lives (events : List Event) (id : String) (created : Quantity) : Prop :=
  ∃ before e after, events = before ++ e :: after ∧ e.opened? = some (id, created) ∧
    ∀ e' ∈ after, e'.removes id created = false

theorem not_lives_nil (id : String) (created : Quantity) : ¬Lives [] id created := by
  rintro ⟨before, e, after, h, -⟩
  simp at h

/-- One event more removes a session or opens one. -/
theorem lives_concat {events : List Event} {e : Event} {id : String} {created : Quantity} :
    Lives (events ++ [e]) id created ↔
      Lives events id created ∧ e.removes id created = false ∨ e.opened? = some (id, created) := by
  constructor
  · rintro ⟨before, e₁, after, heq, hopen, hkept⟩
    rcases List.eq_nil_or_concat after with rfl | ⟨after, e₂, rfl⟩
    · obtain ⟨-, hlast⟩ := List.append_inj' heq rfl
      obtain rfl := List.singleton_inj.1 hlast
      exact .inr hopen
    · rw [List.concat_eq_append, ← List.cons_append, ← List.append_assoc] at heq
      obtain ⟨rfl, hlast⟩ := List.append_inj' heq rfl
      obtain rfl := List.singleton_inj.1 hlast
      exact .inl ⟨⟨before, e₁, after, rfl, hopen, fun e' he' => hkept e' (by simp [he'])⟩,
        hkept e (by simp)⟩
  · rintro (⟨⟨before, e₁, after, rfl, hopen, hkept⟩, hlast⟩ | hopen)
    · refine ⟨before, e₁, after ++ [e], by simp, hopen, fun e' he' => ?_⟩
      rcases List.mem_append.1 he' with he' | he'
      · exact hkept e' he'
      · rw [List.mem_singleton.1 he']
        exact hlast
    · exact ⟨events, e, [], rfl, hopen, fun e' he' => absurd he' List.not_mem_nil⟩

/-! ### Hosts that are in order -/

/-- Sessions are in the order of their opening, each under the id it was given, and all times are
doubles. -/
structure Tidy (host : Host) : Prop where
  ids : (host.sessions.map (·.id)).Sublist ((List.range host.opened).map idAfter)
  clock : ∃ t, host.clock = .real t
  created : ∀ s ∈ host.sessions, ∃ t, s.createdAt = .real t

theorem idAfter_injective : Function.Injective idAfter := by
  have value (n : Nat) : Nat.ofDigitChars 10 (Nat.repr n).toList 0 = n := by
    simp [Nat.repr, Nat.ofDigitChars_ten_toDigits]
  intro m n h
  have hnum : Nat.repr (m + 1) = Nat.repr (n + 1) := (String.append_right_inj "session-").1 h
  have hsucc := value (m + 1)
  rw [hnum, value] at hsucc
  exact Nat.succ_injective hsucc.symm

theorem nodup_idsUpTo (n : Nat) : ((List.range n).map idAfter).Nodup :=
  List.nodup_range.map idAfter_injective

variable {host host' : Host} {s : Session} {id : String}

theorem mem_of_find? (h : host.find? id = some s) : s ∈ host.sessions ∧ s.id = id :=
  ⟨List.mem_of_find?_eq_some h, by simpa using List.find?_some h⟩

namespace Tidy

theorem nodup (h : host.Tidy) : (host.sessions.map (·.id)).Nodup := h.ids.nodup (nodup_idsUpTo _)

/-- A session that is kept is the one that is found under its id. -/
theorem find?_of_mem (h : host.Tidy) (hs : s ∈ host.sessions) : host.find? s.id = some s := by
  cases hfind : host.find? s.id with
  | none =>
    have hne := List.find?_eq_none.1 hfind s hs
    simp at hne
  | some s' =>
    obtain ⟨hs', hid⟩ := mem_of_find? hfind
    rw [List.inj_on_of_nodup_map h.nodup hs' hs hid]

theorem find?_iff (h : host.Tidy) : host.find? id = some s ↔ s ∈ host.sessions ∧ s.id = id := by
  refine ⟨mem_of_find?, ?_⟩
  rintro ⟨hs, rfl⟩
  exact h.find?_of_mem hs

/-- The id that is next to be given is not in use. -/
theorem fresh (h : host.Tidy) (hs : s ∈ host.sessions) : s.id ≠ idAfter host.opened := by
  intro heq
  obtain ⟨n, hn, hid⟩ := List.mem_map.1 (h.ids.mem (List.mem_map_of_mem hs))
  have := idAfter_injective (hid.trans heq)
  rw [this] at hn
  exact absurd hn List.not_mem_range_self

end Tidy

/-! ### What calls do -/

theorem session_of_found (h : host.find? id = some s) : Host.session id host = (.ok s, host) := by
  unfold Host.session
  rw [Hosting.get_bind, h]
  rfl

theorem session_of_missing (h : host.find? id = none) :
    Host.session id host = (.error (.noSession id), host) := by
  unfold Host.session
  rw [Hosting.get_bind, h]
  rfl

/-- A session is opened, under the next id and at this time, or nothing is done. -/
theorem start_cases (o : Opening) (host : Host) : (∃ f, Host.start o host = (.error f, host)) ∨
    ∃ s named, s.id = idAfter host.opened ∧ s.createdAt = host.clock ∧
      Host.start o host = (.ok s, { host with
        sessions := host.sessions ++ [s], opened := host.opened + 1, named }) := by
  unfold Host.start
  rcases o.lesson ⟨.ofSeed (o.seed.getD 0), host.named⟩ with ⟨f | lesson, chance⟩
  · exact .inl ⟨f, rfl⟩
  · exact .inr ⟨_, chance.named, rfl, rfl, rfl⟩

/-- The lesson that a move leaves, when it was rejected or failed the one before it. -/
def settled (l : Lesson) : Except Fault (Option Lesson) → Lesson
  | .ok (some l') => l'
  | _ => l

/-- A session after a deed: its lesson is the one that the move leaves, and its generator is where
the move leaves it. -/
def Deed.after (named : Nat) (s : Session) (deed : Deed) : Session :=
  let (outcome, chance) := (deed.move s).make s.lesson ⟨s.source, named⟩
  { s with source := chance.source, lesson := settled s.lesson outcome }

/-- A deed in a session that is there is a move on its lesson with its generator. -/
theorem deed_of_found (h : host.find? id = some s) (deed : Deed) :
    ∃ named, deed.make id host =
      (((deed.move s).make s.lesson ⟨s.source, host.named⟩).1.map (·.isSome),
        { host with named }.replace (deed.after host.named s)) := by
  have hmake : deed.make id = Host.move id fun s => (deed.move s).make s.lesson := by
    cases deed <;> rfl
  rw [hmake]
  unfold Host.move Deed.after
  rw [h]
  dsimp only
  rcases (deed.move s).make s.lesson ⟨s.source, host.named⟩ with ⟨f | _ | lesson, chance⟩ <;>
    exact ⟨chance.named, rfl⟩

theorem deed_of_missing (h : host.find? id = none) (deed : Deed) :
    deed.make id host = (.error (.noSession id), host) := by
  cases deed <;> simp only [Deed.make, Host.play, Host.endTurn, Host.useDrink, Host.move, h]

/-- A list that is filtered by a test that never fails. -/
theorem filterM_eq {α : Type} {p : α → Except Fault Bool} {q : α → Bool} :
    ∀ {xs : List α}, (∀ x ∈ xs, p x = .ok (q x)) → xs.filterM p = .ok (xs.filter q) := by
  have haux : ∀ (xs acc : List α), (∀ x ∈ xs, p x = .ok (q x)) →
      xs.filterAuxM p acc = .ok ((xs.filter q).reverse ++ acc) := by
    intro xs
    induction xs with
    | nil => exact fun acc _ => rfl
    | cons x xs ih =>
      intro acc h
      rw [List.filterAuxM, h x List.mem_cons_self]
      refine (ih _ fun y hy => h y (List.mem_cons_of_mem x hy)).trans ?_
      cases hx : q x <;> simp [hx]
  intro xs h
  rw [List.filterM, haux xs [] h]
  simp [bind, Except.bind, pure, Except.pure]

/-- Sessions that are ended one after another are all gone, and no others. -/
theorem foldl_without (stale : List Session) (host : Host) :
    stale.foldl (fun host s => host.without s.id) host =
      { host with sessions := host.sessions.filter fun s => s.id ∉ stale.map (·.id) } := by
  induction stale generalizing host with
  | nil => simp
  | cons s stale ih =>
    rw [List.foldl_cons, ih]
    simp only [without, List.filter_filter, List.map_cons, List.mem_cons, not_or]
    congr 1
    refine List.filter_congr fun t _ => ?_
    simp [Bool.and_comm]

/-- **A sweep removes the sessions that are too old** and counts them. -/
theorem sweep_eq (h : host.Tidy) (oldest : Quantity) : Host.sweep oldest host =
    (.ok (host.sessions.countP fun s => tooOld oldest s.createdAt host.clock),
      { host with
        sessions := host.sessions.filter fun s => !tooOld oldest s.createdAt host.clock }) := by
  have hage : ∀ s ∈ host.sessions, (do return oldest.lt (← host.age s) : Except Fault Bool) =
      .ok (tooOld oldest s.createdAt host.clock) := by
    intro s hs
    obtain ⟨now, hnow⟩ := h.clock
    obtain ⟨t, ht⟩ := h.created s hs
    rw [age, hnow, ht]
    rfl
  have hgone : (host.sessions.filter fun s =>
      s.id ∉ (host.sessions.filter fun s => tooOld oldest s.createdAt host.clock).map (·.id)) =
      host.sessions.filter fun s => !tooOld oldest s.createdAt host.clock := by
    refine List.filter_congr fun s hs => ?_
    -- another session that is too old has another id
    have hsame : (∃ t ∈ host.sessions, tooOld oldest t.createdAt host.clock = true ∧ t.id = s.id) ↔
        tooOld oldest s.createdAt host.clock = true := by
      constructor
      · rintro ⟨t, ht, hold, hid⟩
        rwa [List.inj_on_of_nodup_map h.nodup ht hs hid] at hold
      · exact fun hold => ⟨s, hs, hold, rfl⟩
    cases hold : tooOld oldest s.createdAt host.clock <;> simpa [hold] using hsame
  unfold Host.sweep
  rw [Hosting.get_bind, Hosting.except_bind, filterM_eq hage]
  show (Except.ok (List.length _), List.foldl _ host _) = _
  rw [foldl_without, hgone, List.countP_eq_length_filter]

theorem real_add {t : Double} {q r : Quantity} (h : (Quantity.real t).add q = .ok r) :
    ∃ t', r = .real t' := by
  obtain ⟨x, -, h⟩ := Play.except_bind_ok.1 h
  obtain ⟨y, -, h⟩ := Play.except_bind_ok.1 h
  exact ⟨_, (Play.except_pure_ok.1 h).symm⟩

/-- The clock is moved, and nothing else. -/
theorem advance_cases (seconds : Quantity) (host : Host) :
    ∃ clock, (Host.advance seconds host).2 = { host with clock } ∧
      ∀ t, host.clock = .real t → ∃ t', clock = .real t' := by
  unfold Host.advance
  rw [Hosting.get_bind, Hosting.except_bind]
  cases hadd : host.clock.add seconds with
  | error f => exact ⟨host.clock, rfl, fun t ht => ⟨t, ht⟩⟩
  | ok clock =>
    refine ⟨clock, rfl, fun t ht => ?_⟩
    rw [ht] at hadd
    exact real_add hadd

theorem look_of_found (h : host.find? id = some s) :
    (Call.look id).make host = (.ok (.session s), host) := by
  rw [Call.make, Hosting.map_apply, session_of_found h]
  rfl

theorem preview_of_found (h : host.find? id = some s) (card : Datum) :
    (Call.preview id card).make host = ((s.lesson.previewCost card).map .cost, host) := by
  rw [Call.make, Hosting.bind_apply, session_of_found h]
  show ((liftM (s.lesson.previewCost card) : Hosting _) >>= _) host = _
  rw [Hosting.except_bind]
  cases s.lesson.previewCost card <;> rfl

/-- What is asked of a session that is not there fails and does nothing. -/
theorem make_of_missing (h : host.find? id = none) {call : Call}
    (hcall : call = .look id ∨ (∃ deed, call = .act id deed) ∨ ∃ card, call = .preview id card) :
    call.make host = (.error (.noSession id), host) := by
  rcases hcall with rfl | ⟨deed, rfl⟩ | ⟨card, rfl⟩
  · rw [Call.make, Hosting.map_apply, session_of_missing h]
    rfl
  · rw [Call.make, Hosting.map_apply, deed_of_missing h]
    rfl
  · rw [Call.make, Hosting.bind_apply, session_of_missing h]

/-! ### What a call leaves of the sessions -/

/-- What a call leaves of a session, when it does not remove it. -/
def Call.leaves (named : Nat) : Call → Session → Session
  | .act id deed, s => if s.id = id then deed.after named s else s
  | _, s => s

/-- The event that a call is. -/
def Call.event (host : Host) (call : Call) : Event := ⟨call, host.clock, (call.make host).1⟩

/-- A session keeps its id, its schedule, its seed and its time. -/
theorem leaves_frame (named : Nat) (call : Call) (s : Session) : call.leaves named s =
    { s with lesson := (call.leaves named s).lesson, source := (call.leaves named s).source } := by
  unfold Call.leaves
  split
  · split <;> rfl
  · rfl

/-- A call that removes no session and makes no move leaves the sessions as they are. -/
theorem untouched (call : Call)
    (hremoves : ∀ s ∈ host.sessions, (call.event host).removes s.id s.createdAt = false)
    (hleaves : ∀ s ∈ host.sessions, call.leaves host.named s = s) :
    (host.sessions.filter fun s => !(call.event host).removes s.id s.createdAt).map
      (call.leaves host.named) = host.sessions := by
  have hall : (host.sessions.filter fun s => !(call.event host).removes s.id s.createdAt) =
      host.sessions := List.filter_eq_self.2 fun s hs => by rw [hremoves s hs]; rfl
  rw [hall, List.map_congr_left hleaves, List.map_id']

/-- What a call does: some sessions are removed, one may make a move, one may be opened under the
next id and at this time, and the clock stays a double. -/
structure Call.Carried (host : Host) (call : Call) : Prop where
  sessions : (call.make host).2.sessions =
    ((host.sessions.filter fun s => !(call.event host).removes s.id s.createdAt).map
      (call.leaves host.named)) ++ (call.event host).started.toList
  opened : (call.event host).started = none ∧ (call.make host).2.opened = host.opened ∨
    ∃ s, (call.event host).started = some s ∧ s.id = idAfter host.opened ∧
      s.createdAt = host.clock ∧ (call.make host).2.opened = host.opened + 1
  clock : ∃ t, (call.make host).2.clock = .real t

/-- A call that opens no session, removes none and makes no move changes the clock at most. -/
theorem Call.carried_of_idle {call : Call}
    (hremoves : ∀ s ∈ host.sessions, (call.event host).removes s.id s.createdAt = false)
    (hleaves : ∀ s ∈ host.sessions, call.leaves host.named s = s)
    (hstarted : (call.event host).started = none)
    (hafter : ∃ t, (call.make host).2 = { host with clock := .real t }) : call.Carried host := by
  obtain ⟨t, hafter⟩ := hafter
  refine ⟨?_, .inl ⟨hstarted, by rw [hafter]⟩, t, by rw [hafter]⟩
  rw [untouched call hremoves hleaves, hstarted, hafter, Option.toList_none, List.append_nil]

/-- **What each call does.** -/
theorem carried (h : host.Tidy) (call : Call) : call.Carried host := by
  obtain ⟨t, hclock⟩ := h.clock
  have hsame : host = { host with clock := .real t } := by rw [← hclock]
  cases call with
  | start o =>
    have hmake : (Call.start o).make host = _ := Hosting.map_apply _ Answer.session host
    rcases start_cases o host with ⟨f, hstart⟩ | ⟨s, named, hid, htime, hstart⟩
    · rw [hstart] at hmake
      refine Call.carried_of_idle (fun _ _ => rfl) (fun _ _ => rfl) ?_ ⟨t, ?_⟩
      · rw [Call.event, hmake]
        rfl
      · rw [hmake]
        exact hsame
    · rw [hstart] at hmake
      have hstarted : ((Call.start o).event host).started = some s := by
        rw [Call.event, hmake]
        rfl
      refine ⟨?_, .inr ⟨s, hstarted, hid, htime, by rw [hmake]⟩, t, by rw [hmake]; exact hclock⟩
      rw [untouched (.start o) (fun _ _ => rfl) fun _ _ => rfl, hstarted, hmake]
      rfl
  | look id =>
    refine Call.carried_of_idle (fun _ _ => rfl) (fun _ _ => rfl) rfl ⟨t, ?_⟩
    cases hfind : host.find? id with
    | none =>
      rw [make_of_missing hfind (.inl rfl)]
      exact hsame
    | some s =>
      rw [look_of_found hfind]
      exact hsame
  | act id deed =>
    cases hfind : host.find? id with
    | none =>
      refine Call.carried_of_idle (fun _ _ => rfl) (fun s hs => if_neg fun hid => ?_) rfl ⟨t, ?_⟩
      · rw [← hid, h.find?_of_mem hs] at hfind
        cases hfind
      · rw [make_of_missing hfind (.inr (.inl ⟨deed, rfl⟩))]
        exact hsame
    | some s =>
      have hmake : (Call.act id deed).make host = _ := Hosting.map_apply _ Answer.accepted host
      obtain ⟨named, hdeed⟩ := deed_of_found hfind deed
      obtain ⟨hs, rfl⟩ := mem_of_find? hfind
      rw [hdeed] at hmake
      refine ⟨?_, .inl ⟨rfl, by rw [hmake]; rfl⟩, t, by rw [hmake]; exact hclock⟩
      have hall : (host.sessions.filter fun t =>
          !((Call.act s.id deed).event host).removes t.id t.createdAt) = host.sessions :=
        List.filter_eq_self.2 fun _ _ => rfl
      have hnone : ((Call.act s.id deed).event host).started = none := rfl
      rw [hall, hnone, hmake, Option.toList_none, List.append_nil]
      -- the one session under this id is the one that takes its place
      refine List.map_congr_left fun t ht => ?_
      by_cases hid : t.id = s.id
      · rw [List.inj_on_of_nodup_map h.nodup ht hs hid]
        exact (if_pos rfl).trans (if_pos rfl).symm
      · exact (if_neg hid).trans (if_neg hid).symm
  | preview id card =>
    refine Call.carried_of_idle (fun _ _ => rfl) (fun _ _ => rfl) rfl ⟨t, ?_⟩
    cases hfind : host.find? id with
    | none =>
      rw [make_of_missing hfind (.inr (.inr ⟨card, rfl⟩))]
      exact hsame
    | some s =>
      rw [preview_of_found hfind]
      exact hsame
  | close id =>
    have hmake : (Call.close id).make host = _ := Hosting.map_apply _ Answer.closed host
    have hnone : ((Call.close id).event host).started = none := rfl
    refine ⟨?_, .inl ⟨rfl, by rw [hmake]; rfl⟩, t, by rw [hmake]; exact hclock⟩
    rw [hnone, Option.toList_none, List.append_nil, hmake]
    refine Eq.trans (List.filter_congr fun s _ => ?_) (List.map_id' _).symm
    by_cases hid : s.id = id
    · simp [hid, Call.event, Event.removes]
    · simp [hid, Ne.symm hid, Call.event, Event.removes]
  | active => exact Call.carried_of_idle (fun _ _ => rfl) (fun _ _ => rfl) rfl ⟨t, hsame⟩
  | sweep oldest =>
    have hmake : (Call.sweep oldest).make host = _ := Hosting.map_apply _ Answer.swept host
    have hnone : ((Call.sweep oldest).event host).started = none := rfl
    rw [sweep_eq h] at hmake
    refine ⟨?_, .inl ⟨rfl, by rw [hmake]⟩, t, by rw [hmake]; exact hclock⟩
    rw [hnone, Option.toList_none, List.append_nil, hmake]
    exact (List.map_id' _).symm
  | advance seconds =>
    have hmake : (Call.advance seconds).make host = _ := Hosting.map_apply _ Answer.time host
    obtain ⟨clock, hafter, hreal⟩ := advance_cases seconds host
    obtain ⟨t', rfl⟩ := hreal t hclock
    refine Call.carried_of_idle (fun _ _ => rfl) (fun _ _ => rfl) rfl ⟨t', ?_⟩
    rw [hmake]
    exact hafter

theorem leaves_id (named : Nat) (call : Call) (s : Session) : (call.leaves named s).id = s.id := by
  rw [leaves_frame]

theorem leaves_createdAt (named : Nat) (call : Call) (s : Session) :
    (call.leaves named s).createdAt = s.createdAt := by
  rw [leaves_frame]

/-- **A call leaves a host in order.** -/
theorem Tidy.make (h : host.Tidy) (call : Call) : (call.make host).2.Tidy := by
  obtain ⟨hsessions, hopened, hclock⟩ := carried h call
  have hids : ((host.sessions.filter fun s => !(call.event host).removes s.id s.createdAt).map
      (call.leaves host.named)).map (·.id) |>.Sublist ((List.range host.opened).map idAfter) := by
    rw [List.map_map]
    have hsame : (fun s : Session => s.id) ∘ call.leaves host.named = fun s => s.id :=
      funext (leaves_id host.named call)
    rw [hsame]
    exact (List.filter_sublist.map _).trans h.ids
  have hcreated : ∀ s ∈ (host.sessions.filter fun s =>
      !(call.event host).removes s.id s.createdAt).map (call.leaves host.named),
      ∃ t, s.createdAt = .real t := by
    intro s hs
    obtain ⟨s₀, hs₀, rfl⟩ := List.mem_map.1 hs
    rw [leaves_createdAt]
    exact h.created s₀ (List.mem_filter.1 hs₀).1
  refine ⟨?_, hclock, ?_⟩
  · rw [hsessions, List.map_append]
    rcases hopened with ⟨hnone, hn⟩ | ⟨s, hsome, hid, -, hn⟩
    · rw [hnone, hn, Option.toList_none, List.map_nil, List.append_nil]
      exact hids
    · rw [hsome, hn, Option.toList_some, List.range_succ, List.map_append, List.map_singleton,
        List.map_singleton, hid]
      exact hids.append (List.Sublist.refl _)
  · intro s hs
    rw [hsessions] at hs
    rcases List.mem_append.1 hs with hs | hs
    · exact hcreated s hs
    · rcases hopened with ⟨hnone, -⟩ | ⟨s', hsome, -, htime, -⟩
      · rw [hnone] at hs
        cases hs
      · rw [hsome] at hs
        rw [List.mem_singleton.1 hs, htime]
        exact h.clock

/-- **A call leaves each session alone**, unless it removes it or makes a move in it. -/
theorem find?_make (h : host.Tidy) (call : Call) (hs : s ∈ host.sessions) :
    (call.make host).2.find? s.id = if (call.event host).removes s.id s.createdAt then none
      else some (call.leaves host.named s) := by
  have htidy := h.make call
  obtain ⟨hsessions, hopened, -⟩ := carried h call
  split
  · next hgone =>
    refine Option.eq_none_iff_forall_ne_some.2 fun s' hfind => ?_
    obtain ⟨hs', hid⟩ := mem_of_find? hfind
    rw [hsessions] at hs'
    rcases List.mem_append.1 hs' with hs' | hs'
    · obtain ⟨s₀, hs₀, rfl⟩ := List.mem_map.1 hs'
      obtain ⟨hs₀, hkept⟩ := List.mem_filter.1 hs₀
      rw [leaves_id] at hid
      rw [List.inj_on_of_nodup_map h.nodup hs₀ hs hid, hgone] at hkept
      cases hkept
    · rcases hopened with ⟨hnone, -⟩ | ⟨s₁, hsome, hfresh, -⟩
      · rw [hnone] at hs'
        cases hs'
      · rw [hsome] at hs'
        obtain rfl := List.mem_singleton.1 hs'
        exact h.fresh hs (hid.symm.trans hfresh)
  · next hkept =>
    have hmem : call.leaves host.named s ∈ (call.make host).2.sessions := by
      rw [hsessions]
      refine List.mem_append_left _ (List.mem_map_of_mem (List.mem_filter.2 ⟨hs, ?_⟩))
      simpa using hkept
    have hfind := htidy.find?_of_mem hmem
    rwa [leaves_id] at hfind

/-- **A deed in a session is a move on its lesson with its generator**, and nothing else happens. -/
theorem act_of_found (hfind : host.find? id = some s) (deed : Deed)
    {outcome : Except Fault (Option Lesson)} {chance : Chance}
    (hmove : (deed.move s).make s.lesson ⟨s.source, host.named⟩ = (outcome, chance)) :
    ∃ host', (Call.act id deed).make host =
        (outcome.map fun next => .accepted next.isSome, host') ∧
      host'.find? id =
        some { s with lesson := settled s.lesson outcome, source := chance.source } ∧
      ∀ other, other ≠ id → host'.find? other = host.find? other := by
  obtain ⟨hs, rfl⟩ := mem_of_find? hfind
  obtain ⟨named, hdeed⟩ := deed_of_found hfind deed
  have hafter : deed.after host.named s =
      { s with lesson := settled s.lesson outcome, source := chance.source } := by
    rw [Deed.after, hmove]
  have hmake : (Call.act s.id deed).make host = _ := Hosting.map_apply _ Answer.accepted host
  rw [hdeed, hmove] at hmake
  rw [← hafter]
  have hfind' : { host with named }.find? s.id = some s := hfind
  refine ⟨{ host with named }.replace (deed.after host.named s), hmake.trans (Prod.ext ?_ rfl),
    find?_replace_self (t := deed.after host.named s) hfind' rfl, fun other hother => ?_⟩
  · cases outcome <;> rfl
  · exact find?_replace_other (s := deed.after host.named s) (Ne.symm hother) { host with named }

/-! ### Runs -/

/-- A host that has opened no session, at a time. -/
def new (t : Double) : Host := { clock := .real t }

theorem new_tidy (t : Double) : (new t).Tidy :=
  ⟨.slnil, ⟨t, rfl⟩, fun _ hs => absurd hs List.not_mem_nil⟩

theorem run_tidy (calls : List Call) (h : host.Tidy) : (run calls host).2.Tidy := by
  induction calls using List.reverseRecOn with
  | nil => exact h
  | append_singleton calls call ih =>
    rw [run_concat]
    exact ih.make call

/-- **The sessions that are kept are those that live**, under the ids they were opened with and with
the times they were opened at. -/
theorem lives_iff (t : Double) (calls : List Call) (id : String) (created : Quantity) :
    (∃ s ∈ (run calls (new t)).2.sessions, s.id = id ∧ s.createdAt = created) ↔
      Lives (run calls (new t)).1 id created := by
  induction calls using List.reverseRecOn generalizing id created with
  | nil =>
    exact iff_of_false (fun ⟨_, hs, _⟩ => absurd hs List.not_mem_nil) (not_lives_nil id created)
  | append_singleton calls call ih =>
    have htidy := run_tidy calls (new_tidy t)
    rw [run_concat, lives_concat, ← ih]
    generalize (run calls (new t)).2 = host at htidy
    obtain ⟨hsessions, hopened, -⟩ := carried htidy call
    have hevent : (⟨call, host.clock, (call.make host).1⟩ : Event) = call.event host := rfl
    rw [hevent, hsessions]
    -- a session that is opened is opened at the time of its event
    have hnew : (∃ s ∈ (call.event host).started.toList, s.id = id ∧ s.createdAt = created) ↔
        (call.event host).opened? = some (id, created) := by
      rcases hopened with ⟨hnone, -⟩ | ⟨s, hsome, -, htime, -⟩
      · simp [Event.opened?, hnone]
      · simp only [Event.opened?, hsome, Option.toList_some, List.mem_singleton,
          exists_eq_left, Option.map_some, Option.some_inj, Prod.mk.injEq, htime]
        exact Iff.rfl
    have hold : (∃ s ∈ (host.sessions.filter fun s =>
          !(call.event host).removes s.id s.createdAt).map (call.leaves host.named),
          s.id = id ∧ s.createdAt = created) ↔
        (∃ s ∈ host.sessions, s.id = id ∧ s.createdAt = created) ∧
          (call.event host).removes id created = false := by
      constructor
      · rintro ⟨_, hs, rfl, rfl⟩
        obtain ⟨s₀, hs₀, rfl⟩ := List.mem_map.1 hs
        obtain ⟨hs₀, hkept⟩ := List.mem_filter.1 hs₀
        rw [leaves_id, leaves_createdAt]
        exact ⟨⟨s₀, hs₀, rfl, rfl⟩, by simpa using hkept⟩
      · rintro ⟨⟨s, hs, rfl, rfl⟩, hkept⟩
        exact ⟨_, List.mem_map_of_mem (List.mem_filter.2 ⟨hs, by simpa using hkept⟩),
          leaves_id _ _ _, leaves_createdAt _ _ _⟩
    rw [← hnew, ← hold]
    simp only [List.mem_append, or_and_right, exists_or]

/-! ### Which lessons go on -/

/-- The ids of the sessions that were opened, in the order of their opening. -/
def openedIds (events : List Event) : List String := events.filterMap fun e => e.started.map (·.id)

theorem openedIds_run (t : Double) (calls : List Call) :
    openedIds (run calls (new t)).1 = (List.range (run calls (new t)).2.opened).map idAfter := by
  induction calls using List.reverseRecOn with
  | nil => rfl
  | append_singleton calls call ih =>
    have htidy := run_tidy calls (new_tidy t)
    rw [run_concat, openedIds, List.filterMap_append, ← openedIds, ih]
    generalize (run calls (new t)).2 = host at htidy
    obtain ⟨-, hopened, -⟩ := carried htidy call
    have hevent : (⟨call, host.clock, (call.make host).1⟩ : Event) = call.event host := rfl
    rw [hevent]
    rcases hopened with ⟨hnone, hn⟩ | ⟨s, hsome, hid, -, hn⟩
    · simp [hnone, hn]
    · simp [hsome, hn, hid, List.range_succ]

/-- A part of a list without repetitions is what is left when the list is filtered by it. -/
theorem filter_mem_of_sublist {α : Type} [DecidableEq α] {xs ys : List α} (h : xs.Sublist ys)
    (hys : ys.Nodup) : ys.filter (· ∈ xs) = xs := by
  induction h with
  | slnil => rfl
  | @cons xs ys y hsub ih =>
    obtain ⟨hy, hys⟩ := List.nodup_cons.1 hys
    rw [List.filter_cons_of_neg (by simpa using fun hmem => hy (hsub.mem hmem)), ih hys]
  | @cons_cons xs ys y hsub ih =>
    obtain ⟨hy, hys⟩ := List.nodup_cons.1 hys
    rw [List.filter_cons_of_pos (by simp)]
    refine congrArg (y :: ·) (Eq.trans (List.filter_congr fun z hz => ?_) (ih hys))
    have hne : z ≠ y := by
      rintro rfl
      exact hy hz
    simp [hne]

/-- **The listed ids are those of the live sessions whose lesson goes on**, in the order of their
opening. -/
theorem active_eq (t : Double) (calls : List Call) :
    (run calls (new t)).2.active = (openedIds (run calls (new t)).1).filter fun id =>
      ((run calls (new t)).2.find? id).any fun s => !s.lesson.isFinished := by
  have htidy := run_tidy calls (new_tidy t)
  rw [openedIds_run]
  generalize (run calls (new t)).2 = host at htidy
  have hsub : host.active.Sublist ((List.range host.opened).map idAfter) :=
    (List.filter_sublist.map _).trans htidy.ids
  rw [← filter_mem_of_sublist hsub (nodup_idsUpTo _)]
  refine List.filter_congr fun id _ => ?_
  rw [Bool.eq_iff_iff, decide_eq_true_eq, mem_active, Option.any_eq_true]
  constructor
  · rintro ⟨s, hs, hgoes, rfl⟩
    exact ⟨s, htidy.find?_of_mem hs, by simp [hgoes]⟩
  · rintro ⟨s, hfind, hgoes⟩
    obtain ⟨hs, hid⟩ := mem_of_find? hfind
    exact ⟨s, hs, by simpa using hgoes, hid⟩

/-- **Sessions live apart, whatever a host is asked for.** After any calls, a session is found just
when it was opened and nothing has removed it since; what is asked of any other fails and does
nothing. The listed ids are those of the live sessions whose lesson goes on, in the order of their
opening. A sweep removes the sessions that are too old, and counts them. A deed in a session returns
and stores what the move comes to on its own lesson with its own generator, given the names that
were handed out, and a cost is told without a change. No call does anything to a session but to
remove it, or to make the move that it was asked for. -/
theorem sessions_live_apart (t : Double) (calls : List Call) :
    let events := (run calls (new t)).1
    let host := (run calls (new t)).2
    (∀ id created,
      (∃ s, (Call.look id).make host = (.ok (.session s), host) ∧ s.createdAt = created) ↔
        Lives events id created) ∧
    (∀ id, (∀ created, ¬Lives events id created) → ∀ call : Call,
      call = .look id ∨ (∃ deed, call = .act id deed) ∨ (∃ card, call = .preview id card) →
        call.make host = (.error (.noSession id), host)) ∧
    Call.make .active host = (.ok (.active ((openedIds events).filter fun id =>
      (host.find? id).any fun s => !s.lesson.isFinished)), host) ∧
    (∀ oldest, (Call.sweep oldest).make host =
      (.ok (.swept (host.sessions.countP fun s => tooOld oldest s.createdAt host.clock)),
        { host with
          sessions := host.sessions.filter fun s => !tooOld oldest s.createdAt host.clock })) ∧
    (∀ id s, host.find? id = some s →
      (∀ deed outcome chance,
        (Deed.move s deed).make s.lesson ⟨s.source, host.named⟩ = (outcome, chance) →
          ∃ host', (Call.act id deed).make host =
              (outcome.map fun next => .accepted next.isSome, host') ∧
            host'.find? id =
              some { s with lesson := settled s.lesson outcome, source := chance.source } ∧
            ∀ other, other ≠ id → host'.find? other = host.find? other) ∧
      (∀ card, (Call.preview id card).make host = ((s.lesson.previewCost card).map .cost, host)) ∧
      ∀ call : Call, (∀ deed, call ≠ .act id deed) → (call.make host).2.find? id =
        if (call.event host).removes id s.createdAt then none else some s) := by
  intro events host
  have htidy : host.Tidy := run_tidy calls (new_tidy t)
  have hlives (id : String) (created : Quantity) :
      (∃ s, host.find? id = some s ∧ s.createdAt = created) ↔ Lives events id created := by
    rw [← lives_iff t calls id created]
    constructor
    · rintro ⟨s, hfind, htime⟩
      exact ⟨s, (mem_of_find? hfind).1, (mem_of_find? hfind).2, htime⟩
    · rintro ⟨s, hs, hid, htime⟩
      exact ⟨s, htidy.find?_iff.2 ⟨hs, hid⟩, htime⟩
  refine ⟨fun id created => ?_, fun id hdead call hcall => make_of_missing ?_ hcall, ?_,
    fun oldest => ?_, fun id s hfind => ⟨fun deed outcome chance => act_of_found hfind deed,
      preview_of_found hfind, fun call hcall => ?_⟩⟩
  · rw [← hlives]
    refine exists_congr fun s => and_congr_left fun _ => ⟨fun hlook => ?_, look_of_found⟩
    cases hfind : host.find? id with
    | none =>
      rw [make_of_missing hfind (.inl rfl)] at hlook
      cases hlook
    | some s' =>
      rw [look_of_found hfind] at hlook
      cases hlook
      rfl
  · refine Option.eq_none_iff_forall_ne_some.2 fun s hfind => ?_
    exact hdead s.createdAt ((hlives id s.createdAt).1 ⟨s, hfind, rfl⟩)
  · rw [← active_eq]
    rfl
  · have hmake : (Call.sweep oldest).make host = _ := Hosting.map_apply _ Answer.swept host
    rw [sweep_eq htidy] at hmake
    exact hmake
  · obtain ⟨hs, rfl⟩ := mem_of_find? hfind
    have hleaves : call.leaves host.named s = s := by
      unfold Call.leaves
      split
      · next id deed =>
        refine if_neg fun hid => hcall deed ?_
        rw [hid]
      · rfl
    rw [find?_make htidy call hs, hleaves]

end Host
end CardLesson
