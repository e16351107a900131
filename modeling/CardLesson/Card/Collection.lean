/-
# Card files

A card file is a JSON list of cards, or an object with such a list under `cards`. It is written as
a list spread over lines.

Key definitions: `CardFile.read`, `CardFile.write`, `CardFile.save`.
-/
import CardLesson.Card.Record
import CardLesson.Json.Reader
import CardLesson.Json.Writer

namespace CardLesson.CardFile

/-- The datum a JSON text writes. -/
def datum (text : String) : Except Fault Datum :=
  match Json.read text.toList with
  | .ok d => .ok d
  | .error .malformed => .error .notJson
  | .error (.tooManyFigures n) => .error (.badValue (.tooManyFigures n))
  | .error .loneSurrogate => .error (.badValue .loneSurrogate)

/-- The list of card records in a datum. -/
def records (path : String) : Datum → Except Fault (List Datum)
  | .list items => .ok items
  | .object members =>
    match lookup members ["cards"] (.list []) with
    | .list items => .ok items
    | _ => .error (.noCardList path)
  | _ => .error (.noCardList path)

/-- The cards of a file; `path` stands for it in messages. -/
def read (path text : String) : Except Fault (List Card) := do
  (← records path (← datum text)).mapM Card.read

/-- The text of a card file. -/
def write (cards : List Card) : String :=
  Json.spread (.list (cards.map Card.write))

/-- Writes cards to a file, unless a number has too many figures. -/
def save (cards : List Card) : Except Fault String :=
  if (Datum.list (cards.map Card.write)).isPrintable then .ok (write cards)
  else .error (.badValue .unprintable)

end CardLesson.CardFile
