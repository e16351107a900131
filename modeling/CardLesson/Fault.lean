/-
# Faults

A fault says why something could not be done: the cause, not a text. `Fault.message` puts it into
words, and `Fault.className` names the class of faults that hosts tell apart.

Key definitions: `Misuse`, `BadValue`, `Fault`, `Fault.message`, `Fault.className`,
`Fault.isCardData`, `Fault.raised`.
-/
import CardLesson.Datum.Literal

namespace CardLesson

/-- A datum of a kind that an operation cannot take. -/
inductive Misuse where
  /-- Its items were asked for. -/
  | notIterable (kind : String)
  /-- A key was looked for in it. -/
  | notSearchable (kind : String)
  /-- A text was asked for a member. -/
  | memberOfText
  /-- A list was asked for a member. -/
  | memberOfList
  /-- Something else was asked for a member. -/
  | memberOf (kind : String)
  /-- A whole number was to be made of it. -/
  | notConvertible (kind : String)
  /-- It was used as a key. -/
  | notAKey (kind : String)
  /-- It was calculated with, compared or put into a text. -/
  | unsuitable
  deriving DecidableEq, Repr

def Misuse.message : Misuse → String
  | .notIterable kind => s!"'{kind}' object is not iterable"
  | .notSearchable kind => s!"argument of type '{kind}' is not iterable"
  | .memberOfText => "string indices must be integers, not 'str'"
  | .memberOfList => "list indices must be integers or slices, not str"
  | .memberOf kind => s!"'{kind}' object is not subscriptable"
  | .notConvertible kind =>
    s!"int() argument must be a string, a bytes-like object or a real number, not '{kind}'"
  | .notAKey kind => s!"unhashable type: '{kind}'"
  | .unsuitable => "unsupported operand"

/-- A value outside the values that are allowed. -/
inductive BadValue where
  | notAnAttribute (raw : Datum)
  | notAPhase (raw : Datum)
  | notACardType (raw : Datum)
  | notAComparison (raw : Datum)
  /-- A condition's comparison is none. -/
  | unknownComparison (raw : Datum)
  /-- A text writes no whole number. -/
  | notWhole (raw : String)
  /-- A text writes no decimal number. -/
  | notDecimal (raw : String)
  /-- A whole number is written with too many figures. -/
  | tooManyFigures (count : Nat)
  /-- A whole number has too many figures to be written. -/
  | unprintable
  /-- Half of a pair of surrogates stands for no character. -/
  | loneSurrogate
  /-- The not-a-number has no whole part. -/
  | noWholePart
  /-- More things were to be picked than there are, or fewer than none. -/
  | unpickable
  /-- A number has no place in a reply. -/
  | unwritable
  deriving Repr

/-- A literal in a message, cut after two hundred characters. -/
def cutLiteral (s : String) : String := String.ofList ((Text.quoted s).toList.take 200)

def BadValue.message : BadValue → String
  | .notAnAttribute raw => s!"{raw.literal} is not a valid LessonAttribute"
  | .notAPhase raw => s!"{raw.literal} is not a valid TurnPhase"
  | .notACardType raw => s!"{raw.literal} is not a valid CardType"
  | .notAComparison raw => s!"{raw.literal} is not a valid CompareOp"
  | .unknownComparison raw => s!"Unknown compare operator: {raw.literal}"
  | .notWhole raw => s!"invalid literal for int() with base 10: {cutLiteral raw}"
  | .notDecimal raw => s!"could not convert string to float: {Text.quoted raw}"
  | .tooManyFigures count =>
    "Exceeds the limit (4300 digits) for integer string conversion: value has " ++ toString count ++
      " digits; use sys.set_int_max_str_digits() to increase the limit"
  | .unprintable =>
    "Exceeds the limit (4300 digits) for integer string conversion; " ++
      "use sys.set_int_max_str_digits() to increase the limit"
  | .loneSurrogate => "surrogates not allowed"
  | .noWholePart => "cannot convert float NaN to integer"
  | .unpickable => "Sample larger than population or is negative"
  | .unwritable => "Out of range float values are not JSON compliant"

/-- Why something could not be done. -/
inductive Fault where
  | misuse (cause : Misuse)
  /-- A datum that should be a text is none. -/
  | notText
  /-- A number is too large for a double, or an infinity has no whole part. -/
  | tooLarge
  /-- A list would have more items than any list can refer to. -/
  | outOfMemory
  /-- Effects set off one another without end. -/
  | tooDeep
  /-- An object lacks a member. -/
  | missing (key : Datum)
  | badValue (cause : BadValue)
  /-- A text is no JSON. -/
  | notJson
  /-- Card data without an id. -/
  | cardWithoutId (record : Datum)
  | cardWithoutName (id : Datum)
  /-- A field of a card has none of its values. -/
  | cardField (id : Datum) (field : String) (raw : Datum)
  /-- Effects, conditions or cost of a card cannot be read. -/
  | cardEffects (id : Datum) (cause : Fault)
  /-- A drink cannot be read. -/
  | drinkData (cause : Fault)
  /-- A card file holds no list of cards. -/
  | noCardList (path : String)
  /-- A roster did not pass its check. -/
  | invalidRoster (errors : List String)
  | noSession (id : String)
  /-- A reply has a field of the wrong kind. -/
  | unfitReply
  deriving Repr

namespace Fault

/-- Whether the fault lies in card or drink data. -/
def isCardData : Fault → Bool
  | cardWithoutId _ | cardWithoutName _ | cardField .. | cardEffects .. | drinkData _
  | noCardList _ => true
  | _ => false

/-- Whether the fault is a datum of the wrong kind. -/
def isMisuse : Fault → Bool
  | misuse _ | notText => true
  | _ => false

/-- Whether the fault is a value outside those allowed; faulty card data and faulty JSON are. -/
def isBadValue : Fault → Bool
  | badValue _ | notJson => true
  | f => f.isCardData

def isMissing : Fault → Bool
  | missing _ | noSession _ => true
  | _ => false

/-- The fault in words. -/
def message : Fault → String
  | misuse cause => cause.message
  | notText => "not a text"
  | tooLarge => "number too large"
  | outOfMemory => ""
  | tooDeep => "maximum recursion depth exceeded"
  | missing key => key.literal
  | badValue cause => cause.message
  | notJson => "Expecting value: line 1 column 1 (char 0)"
  | cardWithoutId record => s!"Card data missing 'id': {record.literal}"
  | cardWithoutName id => s!"Card '{id.shown}' is missing 'name'"
  | cardField id field raw => s!"Card '{id.shown}': invalid {field} {raw.literal}"
  | cardEffects id cause => s!"Card '{id.shown}': malformed effect data ({cause.message})"
  | drinkData cause => s!"Malformed drink data: {cause.message}"
  | noCardList path => s!"{path}: expected a list of cards"
  | invalidRoster errors => s!"Card validation failed with {errors.length} error(s)"
  | noSession id => s!"Session {id} not found"
  | unfitReply => "response does not fit its schema"

/-- The class of the fault, as hosts know it. -/
def className : Fault → String
  | misuse _ => "TypeError"
  | notText => "AttributeError"
  | tooLarge => "OverflowError"
  | outOfMemory => "MemoryError"
  | tooDeep => "RecursionError"
  | missing _ => "KeyError"
  | badValue _ => "ValueError"
  | notJson => "JSONDecodeError"
  | cardWithoutId _ | cardWithoutName _ | cardField .. | cardEffects .. | drinkData _
  | noCardList _ =>
    "CardDataError"
  | invalidRoster _ => "SpecValidationError"
  | noSession _ => "SessionNotFoundError"
  | unfitReply => "ValidationError"

/-- The data that a fault in card data shows in its words. -/
def shownData : Fault → List Datum
  | cardWithoutId record => [record]
  | cardWithoutName id => [id]
  | cardField id _ raw => [id, raw]
  | cardEffects id _ => [id]
  | _ => []

/-- The fault that is raised for a fault in card data: where a number cannot be put into its words,
that it cannot. -/
def raised (f : Fault) : Fault :=
  if f.shownData.all Datum.isPrintable then f else badValue .unprintable

end Fault
end CardLesson
