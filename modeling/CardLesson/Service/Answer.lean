/-
# A service in a framework of the usual kind

The service as it runs: in a framework that routes by paths and methods, takes whole numbers in
loosely, keeps texts and numbers apart, and writes finite numbers only. It is one of those that keep
to what is documented of frameworks.

Key definitions: `Framework.usual`, `Service.answer`.
Key theorems: `Framework.usual_documented`.
-/
import CardLesson.Number.Figures
import CardLesson.Service.Intake
import CardLesson.Service.Routing
import CardLesson.Service.Serve

namespace CardLesson

/-- A field for a number takes one loosely and shows it as a double. -/
def looseReal (d : Datum) : Option Double :=
  match d with
  | .text s => Double.ofText? s
  | d => d.number?.bind fun q => q.toDouble.toOption

namespace Framework

/-- A framework of the usual kind. -/
def usual : Framework where
  route method target := (Endpoint.find method target).mapError Reply.ofMiss
  row := Intake.taken RowOrder.ofBody
  lesson := Intake.taken LessonOrder.ofBody
  card := Intake.taken cardToPlay
  drink := Intake.taken drinkToUse
  textField d := if d.isText then some d else none
  wholeField d := (looseWhole d).toOption.map .whole
  realField d := (looseReal d).map fun x => .number (.real x)
  write d := if d.isWritable then .ok () else .error (.badValue .unwritable)
  stack := .endless

theorem taken_refused {α : Type} {check : Members → List String → Intake α} {body : Option Datum}
    {r : Reply} (h : Intake.taken check body = .error r) : 400 ≤ r.status := by
  unfold Intake.taken at h
  split at h
  · cases h
  · rw [← Except.error.inj h]
    show 400 ≤ 422
    decide

/-- The usual framework keeps to what is documented. -/
theorem usual_documented : usual.Documented where
  card_refused := taken_refused
  drink_refused := taken_refused
  textField_eq _ := rfl
  write_iff d := by
    unfold usual
    dsimp only
    split
    · next h => exact iff_of_true rfl h
    · next h => exact iff_of_false nofun h

end Framework

/-- Answers a request in a framework of the usual kind. -/
def Service.answer (r : Request) : StateM Host Reply := Service.answerBy .usual r

end CardLesson
