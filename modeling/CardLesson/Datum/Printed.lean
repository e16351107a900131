/-
# Numbers put into texts

A number is put into a text in figures. A whole number with more than `figureLimit` of them cannot
be, and so neither can a datum with such a number in it.

Key definitions: `Quantity.printed`, `printWhole`, `Datum.printed`.
-/
import CardLesson.Fault

namespace CardLesson

/-- The quantity in figures. -/
def Quantity.printed (q : Quantity) : Except Fault String :=
  if q.isPrintable then .ok q.text else .error (.badValue .unprintable)

/-- A whole number in figures. -/
def printWhole (n : Int) : Except Fault String := (Quantity.whole n).printed

/-- The datum as it is shown. -/
def Datum.printed (d : Datum) : Except Fault String :=
  if d.isPrintable then .ok d.shown else .error (.badValue .unprintable)

end CardLesson
