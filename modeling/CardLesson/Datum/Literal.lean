/-
# Data in messages

A message shows a datum either as a literal, where texts stand between quotes (`literal`), or as
it is, where a text is just its characters (`shown`).

Key definitions: `Datum.literal`, `Datum.shown`, `Datum.isPrintable`.
-/
import CardLesson.Datum.Basic
import CardLesson.Text.Quoted

namespace CardLesson
namespace Datum

mutual

/-- The datum as a literal. -/
def literal : Datum → String
  | .null => "None"
  | .truth true => "True"
  | .truth false => "False"
  | .number q => q.text
  | .text s => Text.quoted s
  | .list items => "[" ++ String.intercalate ", " (literals items) ++ "]"
  | .object members => "\x7b" ++ String.intercalate ", " (memberLiterals members) ++ "\x7d"
termination_by structural d => d

def literals : List Datum → List String
  | [] => []
  | d :: rest => d.literal :: literals rest
termination_by structural d => d

def memberLiterals : List (String × Datum) → List String
  | [] => []
  | (k, d) :: rest => (Text.quoted k ++ ": " ++ d.literal) :: memberLiterals rest
termination_by structural d => d

end

/-- The datum as it is shown: a text by its characters, all else as a literal. -/
def shown : Datum → String
  | .text s => s
  | d => d.literal

/-- Whether no whole number in the datum has too many figures to be shown. -/
def isPrintable (d : Datum) : Bool :=
  d.every fun
    | .number q => q.isPrintable
    | _ => true

end Datum
end CardLesson
