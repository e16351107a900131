/-
# Checking what comes in

One way for a framework to take in bodies: a part of a body is checked against what it should be. A
check either yields a value or remarks on all that is wrong, each with its place; checks of several
parts put their remarks together.

Whole numbers are taken in loosely: a truth value is one or zero, a double must have no fraction,
and a text must write a whole number in plain figures.

Key definitions: `Complaint`, `Remark`, `Intake`, `looseWhole`, `Intake.required`, `Intake.given`,
`Intake.body`, `RowOrder.ofBody`, `LessonOrder.ofBody`, `Reply.ofRemarks`.
-/
import CardLesson.Service.Framework

namespace CardLesson

/-- What is wrong with a part of a body. -/
inductive Complaint where
  | missing
  | notText
  | notList
  | notObject
  | notModel
  | notNumber
  | notFinite
  /-- A text that writes no whole number. -/
  | notFigures
  | tooManyFigures
  | hasFraction
  | tooSmall
  | notAllowed
  deriving DecidableEq, Repr

def Complaint.name : Complaint → String
  | missing => "missing"
  | notText => "string_type"
  | notList => "list_type"
  | notObject => "dict_type"
  | notModel => "model_attributes_type"
  | notNumber => "int_type"
  | notFinite => "finite_number"
  | notFigures => "int_parsing"
  | tooManyFigures => "int_parsing_size"
  | hasFraction => "int_from_float"
  | tooSmall => "greater_than_equal"
  | notAllowed => "literal_error"

/-- A complaint about the part at a place. -/
structure Remark where
  place : List String
  complaint : Complaint
  deriving DecidableEq, Repr

/-- The whole number that a text writes in plain figures, blanks around it, a sign and a point with
zeros after it allowed. -/
def looseFigures (cs : List Char) : Except Complaint Int :=
  let (negative, ds) := splitSign (Text.trimBy isMargin cs)
  let whole := ds.takeWhile (· != '.')
  let zeros := (ds.dropWhile (· != '.')).drop 1
  if zeros.all (· == '0') && whole.all fun c => c.isDigit || c == '_' then
    match figuresOf? whole with
    | none => .error .notFigures
    | some fs =>
      if figureLimit < fs.length then .error .tooManyFigures
      else if negative && fs.head? == some '0' && fs.length ≠ 1 then .error .notFigures
      else .ok (withSign negative (Text.digitsValue fs))
  else .error .notFigures

/-- Doubles are taken as whole numbers up to this size. -/
def looseLimit : Int := 9223372036854775808

/-- The datum as a whole number, taken in loosely. -/
def looseWhole : Datum → Except Complaint Int
  | .number (.whole n) => .ok n
  | .truth b => .ok (if b then 1 else 0)
  | .number (.real x) =>
    match x.truncate? with
    | none => .error .notFinite
    | some n =>
      if !(Quantity.real x).same (.whole n) then .error .hasFraction
      else if looseLimit ≤ n.natAbs then .error .tooManyFigures
      else .ok n
  | .text s => looseFigures s.toList
  | _ => .error .notNumber

/-- A value, or all remarks on why there is none. -/
inductive Intake (α : Type) where
  | fits (a : α)
  | remarks (rs : List Remark)

namespace Intake

variable {α β : Type}

/-- A single remark. -/
def remark (place : List String) (c : Complaint) : Intake α := .remarks [⟨place, c⟩]

def map (f : α → β) : Intake α → Intake β
  | .fits a => .fits (f a)
  | .remarks rs => .remarks rs

/-- Puts two checks together. -/
def seq : Intake (α → β) → Intake α → Intake β
  | .fits f, .fits a => .fits (f a)
  | .fits _, .remarks rs => .remarks rs
  | .remarks rs, .fits _ => .remarks rs
  | .remarks rs, .remarks qs => .remarks (rs ++ qs)

instance : Functor Intake := ⟨map, fun a => map fun _ => a⟩

instance : Seq Intake := ⟨fun f a => seq f (a ())⟩

def text (place : List String) : Datum → Intake String
  | .text s => .fits s
  | _ => remark place .notText

/-- A whole number, not below a bound if there is one. -/
def whole (least : Option Int) (place : List String) (d : Datum) : Intake Int :=
  match looseWhole d with
  | .error c => remark place c
  | .ok n => if least.any fun m => n < m then remark place .tooSmall else .fits n

/-- A part that may be `null`. -/
def nullable (check : List String → Datum → Intake α) (place : List String) :
    Datum → Intake (Option α)
  | .null => .fits none
  | d => some <$> check place d

/-- One of some words. -/
def oneOf (words : List String) (place : List String) : Datum → Intake String
  | .text s => if words.contains s then .fits s else remark place .notAllowed
  | _ => remark place .notAllowed

/-- An object with any members. -/
def object (place : List String) : Datum → Intake Datum
  | .object members => .fits (.object members)
  | _ => remark place .notObject

/-- Checks items from an index on. -/
def items (check : List String → Datum → Intake α) (place : List String) :
    Nat → List Datum → Intake (List α)
  | _, [] => .fits []
  | i, d :: rest =>
    List.cons <$> check (place ++ [toString i]) d <*> items check place (i + 1) rest

def listOf (check : List String → Datum → Intake α) (place : List String) :
    Datum → Intake (List α)
  | .list ds => items check place 0 ds
  | _ => remark place .notList

/-- A member that must be there. -/
def required (members : Members) (place : List String) (key : String)
    (check : List String → Datum → Intake α) : Intake α :=
  match Datum.member? key members with
  | some d => check (place ++ [key]) d
  | none => remark (place ++ [key]) .missing

/-- A member with a value to take when it is not there. -/
def given (members : Members) (place : List String) (key : String) (default : α)
    (check : List String → Datum → Intake α) : Intake α :=
  match Datum.member? key members with
  | some d => check (place ++ [key]) d
  | none => .fits default

/-- A part with members of its own. -/
def model (check : Members → List String → Intake α) (place : List String) : Datum → Intake α
  | .object members => check members place
  | _ => remark place .notModel

/-- The body of a request. -/
def body (check : Members → List String → Intake α) : Option Datum → Intake α
  | none => remark ["body"] .missing
  | some .null => remark ["body"] .missing
  | some d => model check ["body"] d

end Intake

open Intake

/-- A row of a card sheet. -/
def RowOrder.ofBody (ms : Members) (place : List String) : Intake RowOrder :=
  RowOrder.mk <$> required ms place "name" text <*> required ms place "description" text
    <*> given ms place "card_type" "アクティブ" text <*> given ms place "plan" "free" text
    <*> given ms place "cost" none (nullable (whole (some 0)))
    <*> given ms place "rarity" none (nullable text)

namespace LessonOrder

/-- The stats and HP to start from; the most HP are the HP when nothing else is said. -/
def status? (ms : Members) (place : List String) : Intake Status :=
  let stat := fun key default => given ms place key default (whole (some 0))
  let status := fun (vocal dance visual hp : Int) (maxHp : Option Int) =>
    ({ vocal := .whole vocal, dance := .whole dance, visual := .whole visual, hp := .whole hp
       maxHp := .whole (maxHp.getD hp) } : Status)
  status <$> stat "vocal" 0 <*> stat "dance" 0 <*> stat "visual" 0
    <*> stat "hp" Balance.defaultHp
    <*> given ms place "max_hp" none (nullable (whole (some 0)))

def ofBody (ms : Members) (place : List String) : Intake LessonOrder :=
  LessonOrder.mk <$> required ms place "cards" (listOf object)
    <*> given ms place "status" {} (model status?)
    <*> given ms place "turn_attributes" [] (listOf (oneOf (Named.all.map Stat.name)))
    <*> given ms place "drinks" [] (listOf object)
    <*> given ms place "max_turns" none (nullable (whole (some 1)))
    <*> given ms place "catalog" [] (listOf object)
    <*> given ms place "random_seed" none (nullable (whole none))

end LessonOrder

/-- The card to play. -/
def cardToPlay (ms : Members) (place : List String) : Intake String :=
  required ms place "card_id" text

/-- The drink to use. -/
def drinkToUse (ms : Members) (place : List String) : Intake String :=
  required ms place "drink_id" text

/-- Remarks by place and then by complaint. -/
def remarkLe (a b : String × String) : Bool :=
  match compare a.1 b.1 with
  | .lt => true
  | .gt => false
  | .eq => compare a.2 b.2 != .gt

/-- The reply to a body that is not what it should be. -/
def Reply.ofRemarks (rs : List Remark) : Reply :=
  let told := rs.map fun r => (".".intercalate r.place, r.complaint.name)
  ⟨422, .list ((told.mergeSort remarkLe).map fun (place, complaint) =>
    .list [.text place, .text complaint])⟩

/-- What a body holds, or the reply to the remarks on it. -/
def Intake.taken {α : Type} (check : Members → List String → Intake α) (body : Option Datum) :
    Except Reply α :=
  match Intake.body check body with
  | .fits a => .ok a
  | .remarks rs => .error (.ofRemarks rs)

end CardLesson
