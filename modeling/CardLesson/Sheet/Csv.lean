/-
# Comma-separated tables

A table is written row by row, its fields separated by commas. A field that starts with a quote may
hold commas, line ends and, written twice, quotes; what follows its closing quote belongs to it as
it stands. A quote anywhere else stands for itself. A line ends with `\n`, `\r` or both. A line
with nothing on it is a row without fields, and a quoted field that is never closed ends with the
text.

Key definitions: `Csv.Place`, `Csv.readFrom`, `Csv.read`.
-/
namespace CardLesson.Csv

/-- Where in a row the reader stands. -/
inductive Place where
  | rowStart
  | fieldStart
  /-- In a field whose quotes stand for themselves. -/
  | open
  | quoted
  /-- After a quote inside a quoted field. -/
  | quoteSeen
  deriving DecidableEq, Repr

/-- The fields of one row. -/
abbrev Row := List (List Char)

/-- The row so far with the field so far at its end; both are kept backwards. -/
def closeRow (field : List Char) (row : Row) : Row := (field.reverse :: row).reverse

/-- The row that a line end closes. -/
def endLine : Place → List Char → Row → Row
  | .rowStart, _, _ => []
  | _, field, row => closeRow field row

/-- The rows that the end of the text closes. -/
def endText : Place → List Char → Row → List Row
  | .rowStart, _, _ => []
  | _, field, row => [closeRow field row]

/-- The rows from a place on, with the field and the row so far. -/
def readFrom : Place → List Char → Row → List Char → List Row
  | place, field, row, [] => endText place field row
  | .quoted, field, row, c :: cs =>
    if c = '"' then readFrom .quoteSeen field row cs else readFrom .quoted (c :: field) row cs
  | place, field, row, '\r' :: '\n' :: cs => endLine place field row :: readFrom .rowStart [] [] cs
  | place, field, row, c :: cs =>
    if c = '\n' ∨ c = '\r' then endLine place field row :: readFrom .rowStart [] [] cs
    else if c = ',' then readFrom .fieldStart [] (field.reverse :: row) cs
    else if c = '"' then
      match place with
      | .open => readFrom .open (c :: field) row cs
      | .quoteSeen => readFrom .quoted (c :: field) row cs
      | _ => readFrom .quoted field row cs
    else readFrom .open (c :: field) row cs

/-- The rows of a table. -/
def read (text : List Char) : List Row := readFrom .rowStart [] [] text

end CardLesson.Csv
