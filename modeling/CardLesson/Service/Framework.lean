/-
# Frameworks

A service runs in a framework, which finds out what a request asks for, puts the fields of a reply
in shape and writes the reply. How it does so is not up to the service: what is proved of replies
is proved of every framework that keeps to what is documented of frameworks.

Key definitions: `Endpoint`, `Framework`, `Datum.isWritable`, `Framework.Documented`.
-/
import CardLesson.Service.Order
import CardLesson.Service.Reply

namespace CardLesson

/-- What a request can ask for. -/
inductive Endpoint where
  | welcome
  | health
  | compile
  | openSession
  | listSessions
  | summary (session : String)
  | closeSession (session : String)
  | state (session : String)
  | play (session : String)
  | endTurn (session : String)
  | drink (session : String)
  | cost (session card : String)
  deriving DecidableEq, Repr

/-- What a service leaves to the framework it runs in. -/
structure Framework where
  /-- Where a method and a target lead, or the reply when they lead nowhere. -/
  route : String → String → Except Reply Endpoint
  /-- The row that a body holds, or the reply when it holds none; so for the next three. -/
  row : Option Datum → Except Reply RowOrder
  lesson : Option Datum → Except Reply LessonOrder
  card : Option Datum → Except Reply String
  drink : Option Datum → Except Reply String
  /-- What a field for a text makes of a datum, if it takes it; so for the next two. -/
  textField : Datum → Option Datum
  wholeField : Datum → Option Datum
  realField : Datum → Option Datum
  /-- The fault of writing a body, if it has one. -/
  write : Datum → Except Fault Unit
  /-- The stack on which records are read. -/
  stack : Stack

/-- A number is written when it is finite and its figures are not too many. -/
def Quantity.isWritable : Quantity → Bool
  | .whole n => (Quantity.whole n).isPrintable
  | .real x => x.isFinite

/-- Whether all numbers in a datum can be written. -/
def Datum.isWritable (d : Datum) : Bool :=
  d.every fun
    | .number q => q.isWritable
    | _ => true

/-- What is documented of frameworks, as far as moves and the replies to them go. -/
structure Framework.Documented (fw : Framework) : Prop where
  /-- A body that does not hold what it should is told as an error. -/
  card_refused : ∀ {body : Option Datum} {r : Reply}, fw.card body = .error r → 400 ≤ r.status
  drink_refused : ∀ {body : Option Datum} {r : Reply}, fw.drink body = .error r → 400 ≤ r.status
  /-- A field for a text takes texts as they are, and no numbers nor anything else. -/
  textField_eq : ∀ d : Datum, fw.textField d = if d.isText then some d else none
  /-- A body can be written just when the numbers in it can. -/
  write_iff : ∀ d : Datum, fw.write d = .ok () ↔ d.isWritable = true

end CardLesson
