/-
# The outcome of an effect

A `Resolution` is the lesson after an effect and the log lines the effect wrote, which are not yet
part of the lesson. `touched` says whether the effect did something to the lesson, be it without a
visible difference; an effect that was blocked, or had nothing to work on, leaves the lesson
untouched.

Key definitions: `Resolution`, `Resolution.andThen`.
Key theorems: `Resolution.lines_andThen`, `Resolution.touched_andThen`.
-/
import CardLesson.Lesson.State

namespace CardLesson

/-- The lesson after an effect, with the log lines of the effect. -/
structure Resolution where
  lesson : Lesson
  lines : List String := []
  touched : Bool := false

namespace Resolution

/-- The lesson as it was. -/
def untouched (lesson : Lesson) (lines : List String := []) : Resolution := ⟨lesson, lines, false⟩

/-- A new lesson with one line. -/
def changed (lesson : Lesson) (line : String) : Resolution := ⟨lesson, [line], true⟩

/-- One resolution after another. -/
def andThen (r s : Resolution) : Resolution :=
  ⟨s.lesson, r.lines ++ s.lines, r.touched || s.touched⟩

/-- The lesson with the lines written to its log. -/
def logged (r : Resolution) : Lesson := r.lesson.withLines r.lines

@[simp] theorem lesson_andThen (r s : Resolution) : (r.andThen s).lesson = s.lesson := rfl

@[simp] theorem lines_andThen (r s : Resolution) : (r.andThen s).lines = r.lines ++ s.lines := rfl

@[simp] theorem touched_andThen (r s : Resolution) :
    (r.andThen s).touched = (r.touched || s.touched) := rfl

end Resolution

/-- The datum, or another one when it is `null`. -/
def Datum.given (d default : Datum) : Datum := if d.isNull then default else d

end CardLesson
