/-
# Answering requests

A service is a host that is asked by requests. A body is taken in before a session is looked up, and
a move is made before its reply is put together, so a lesson whose reply does not fit has moved all
the same.

Key definitions: `Request`, `Service.serve`, `Service.answerBy`.
-/
import CardLesson.Service.Picture

namespace CardLesson

/-- A request. -/
structure Request where
  method : String
  /-- The path, with its percent escapes. -/
  target : String
  body : Option Datum := none
  deriving Repr

namespace Service

/-- Carries on with what a body holds, or replies that it does not hold it. -/
def withBody {α : Type} (taken : Except Reply α) (go : α → Hosting Reply) : Hosting Reply :=
  match taken with
  | .ok a => go a
  | .error reply => return reply

/-- Makes a move and shows the lesson after it. -/
def showMove (fw : Framework) (id : String) (move : Hosting Bool) : Hosting Reply := do
  let accepted ← move
  let s ← Host.session id
  let state ← (s.picture fw : Except Fault Members)
  return .ok ([("session_id", .text s.id), ("accepted", .truth accepted),
    ("game_state", .object state)] ++ bodyVersion)

/-- What the service is called and which version it is. -/
def version : String := "0.1.0"

/-- Carries out a request. -/
def serve (fw : Framework) (body : Option Datum) : Endpoint → Hosting Reply
  | .welcome => return .ok [("name", .text "Lesson Simulator API"), ("version", .text version),
      ("docs", .text "/api/docs"), ("health", .text "/health")]
  | .health => return .ok [("status", .text "healthy"), ("service", .text "lessonsim"),
      ("version", .text version)]
  | .compile => withBody (fw.row body) fun order => do
      let row ← (order.row : Except Fault Row)
      return .ok (← (row.compile : Except Fault Compilation)).picture
  | .openSession => withBody (fw.lesson body) fun order => do
      let s ← Host.start (← (order.opening fw.stack : Except Fault Opening))
      return .ok (← (s.summary fw : Except Fault Members))
  | .listSessions => do
      let ids := (← (get : StateM Host Host)).active
      return .ok [("sessions", .list (ids.map .text)), ("count", .whole (ids.length : Nat))]
  | .summary id => do return .ok (← ((← Host.session id).summary fw : Except Fault Members))
  | .closeSession id => do
      return .ok [("success", .truth (← Host.close id)), ("session_id", .text id)]
  | .state id => do return .ok (← ((← Host.session id).picture fw : Except Fault Members))
  | .play id => withBody (fw.card body) fun card => showMove fw id (Host.play id (.text card))
  | .endTurn id => showMove fw id (Host.endTurn id)
  | .drink id => withBody (fw.drink body) fun drink =>
      showMove fw id (Host.useDrink id (.text drink))
  | .cost id card => do
      match ← ((← Host.session id).costPicture card : Except Fault (Option Members)) with
      | some members => return .ok members
      | none => return .error .cardNotInHand s!"Card {card} is not in hand"

/-- A reply as it is sent: one that cannot be written makes way for the fault of writing it. -/
def send (fw : Framework) (reply : Reply) : Reply :=
  match fw.write reply.body with
  | .ok () => reply
  | .error f => .ofFault f

/-- Answers a request in a framework. -/
def answerBy (fw : Framework) (r : Request) : StateM Host Reply := fun host =>
  match fw.route r.method r.target with
  | .error reply => (reply, host)
  | .ok endpoint =>
    match serve fw r.body endpoint host with
    | (.ok reply, host) => (send fw reply, host)
    | (.error f, host) => (.ofFault f, host)

end Service
end CardLesson
