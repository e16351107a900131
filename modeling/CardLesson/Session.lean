/-
# Sessions

A host keeps any number of lessons at a time, each in a session with a schedule and a generator of
its own. Sessions are numbered as they are opened and live until they are ended or swept out for
their age. A move in one session leaves all others alone; a move that is rejected leaves the lesson
as it is, and so does one that fails, though what it drew stays drawn.

Key definitions: `Session`, `Host`, `Hosting`, `Opening`, `Host.start`, `Host.find?`, `Host.move`,
`Host.close`, `Host.active`, `Host.sweep`, `Host.advance`.
Key theorems: `Host.find?_replace_other`, `Host.mem_active`.
-/
import CardLesson.Lesson.Turn

namespace CardLesson

/-- A lesson that a host keeps. -/
structure Session where
  id : String
  lesson : Lesson
  schedule : Schedule
  source : Twister
  /-- The time of the host's clock when it was opened, in seconds. -/
  createdAt : Quantity
  seed : Option Int

/-- The live sessions in the order of their opening, and what all of them share. -/
structure Host where
  sessions : List Session := []
  /-- How many sessions were ever opened. -/
  opened : Nat := 0
  /-- How many names were handed out in all sessions together. -/
  named : Nat := 0
  /-- The time in seconds. -/
  clock : Quantity := .real .zero

/-- A step of a host, which may fail; what it changed before a failure stays changed. -/
abbrev Hosting := ExceptT Fault (StateM Host)

/-- What a session is opened with. -/
structure Opening where
  deck : List Card
  status : Status := {}
  schedule : Schedule := []
  drinks : List Drink := []
  maxTurns : Option Quantity := none
  catalog : List Card := []
  seed : Option Int := none

namespace Opening

/-- The length of the lesson: what is asked for, or else the length of the schedule, if there is
one. -/
def length (o : Opening) : Quantity :=
  match o.maxTurns, o.schedule.length with
  | some n, _ => n
  | none, 0 => .whole Balance.maxTurns
  | none, n + 1 => .whole (n + 1 : Nat)

/-- The first state of the lesson. -/
def lesson (o : Opening) : Play Lesson := do
  let catalog ← Catalog.ofCopies [] (Copy.deal o.deck.length o.catalog)
  openLesson o.status o.schedule (Copy.deal 0 o.deck) o.drinks o.length catalog

end Opening

namespace Host

/-- The live session with an id. -/
def find? (id : String) (host : Host) : Option Session := host.sessions.find? (·.id == id)

/-- The host with a session in the place of the one with its id. -/
def replace (s : Session) (host : Host) : Host :=
  { host with sessions := host.sessions.map fun t => if t.id = s.id then s else t }

/-- The host without the session with an id. -/
def without (id : String) (host : Host) : Host :=
  { host with sessions := host.sessions.filter (·.id ≠ id) }

/-- Another session is found as before. -/
theorem find?_replace_other {s : Session} {id : String} (h : s.id ≠ id) (host : Host) :
    (host.replace s).find? id = host.find? id := by
  simp only [find?, replace]
  induction host.sessions with
  | nil => rfl
  | cons t rest ih =>
    rw [List.map_cons, List.find?_cons, List.find?_cons, ih]
    by_cases hs : t.id = s.id
    · have hs' : (s.id == id) = false := by simpa using h
      simp [hs, hs']
    · simp [hs]

/-- The id of the session opened after a number of others. -/
def idAfter (opened : Nat) : String := s!"session-{opened + 1}"

/-- Opens a session. -/
def start (o : Opening) : Hosting Session := fun host =>
  match o.lesson ⟨.ofSeed (o.seed.getD 0), host.named⟩ with
  | (.error f, _) => (.error f, host)
  | (.ok lesson, chance) =>
    let s : Session := {
      id := idAfter host.opened
      lesson
      schedule := o.schedule
      source := chance.source
      createdAt := host.clock
      seed := o.seed }
    (.ok s, { host with
      sessions := host.sessions ++ [s], opened := host.opened + 1, named := chance.named })

/-- The session with an id; there must be one. -/
def session (id : String) : Hosting Session := do
  match (← (get : StateM Host Host)).find? id with
  | some s => return s
  | none => throw (.noSession id)

/-- Makes a move in a session, and says whether it was accepted. -/
def move (id : String) (step : Session → Play (Option Lesson)) : Hosting Bool := fun host =>
  match host.find? id with
  | none => (.error (.noSession id), host)
  | some s =>
    let (outcome, chance) := step s ⟨s.source, host.named⟩
    let s := { s with source := chance.source }
    let host := { host with named := chance.named }
    match outcome with
    | .error f => (.error f, host.replace s)
    | .ok none => (.ok false, host.replace s)
    | .ok (some lesson) => (.ok true, host.replace { s with lesson })

/-- Plays a card in a session. -/
def play (id : String) (card : Datum) : Hosting Bool := move id fun s => s.lesson.play card

/-- Ends the turn in a session. -/
def endTurn (id : String) : Hosting Bool := move id fun s => s.lesson.endTurn s.schedule

/-- Uses a drink in a session. -/
def useDrink (id : String) (drink : Datum) : Hosting Bool :=
  move id fun s => s.lesson.useDrink drink

/-- Ends a session, and says whether there was one. -/
def close (id : String) : Hosting Bool := fun host =>
  (.ok (host.find? id).isSome, host.without id)

/-- The ids of the sessions whose lesson goes on. -/
def active (host : Host) : List String :=
  (host.sessions.filter fun s => !s.lesson.isFinished).map (·.id)

theorem mem_active {host : Host} {id : String} :
    id ∈ host.active ↔ ∃ s ∈ host.sessions, s.lesson.isFinished = false ∧ s.id = id := by
  simp [active, and_assoc]

/-- The age of a session. -/
def age (host : Host) (s : Session) : Except Fault Quantity := host.clock.sub s.createdAt

/-- Sweeps out the sessions that are older than so many seconds, and counts them. -/
def sweep (oldest : Quantity) : Hosting Nat := do
  let host ← (get : StateM Host Host)
  let stale ← (host.sessions.filterM fun s => do return oldest.lt (← host.age s) :
    Except Fault (List Session))
  (set (stale.foldl (fun host s => host.without s.id) host) : StateM Host Unit)
  return stale.length

/-- The age at which sessions are swept out when nothing else is said: an hour. -/
def staleAge : Quantity := .whole 3600

/-- Moves the clock, and tells the time. -/
def advance (seconds : Quantity) : Hosting Quantity := do
  let host ← (get : StateM Host Host)
  let clock ← (host.clock.add seconds : Except Fault Quantity)
  (set { host with clock } : StateM Host Unit)
  return clock

end Host
end CardLesson
