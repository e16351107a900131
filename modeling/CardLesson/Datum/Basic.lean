/-
# Data

A `Datum` is a value as data files hold it: nothing, a truth value, a number, a text, a list, or an
object whose members keep their order. Cards carry data they only hand on, so a field that no rule
reads may hold any datum.

`same` is equality by meaning: a number equals a number of the same value, whole or double, a truth
value equals one or zero, and the order of an object's members does not count. What counts as empty
(`holds` is false) is nothing, false, zero, and the empty text, list and object.

Key definitions: `Datum`, `Datum.member?`, `Datum.number?`, `Datum.holds`, `Datum.same`,
`Datum.kind`, `Datum.every`, `Datum.depth`.
Key theorems: `Datum.same_text`, `Datum.same_whole`.
-/
import CardLesson.Number.Quantity

namespace CardLesson

/-- A value of a data file. -/
inductive Datum where
  | null
  | truth (b : Bool)
  | number (q : Quantity)
  | text (s : String)
  | list (items : List Datum)
  | object (members : List (String × Datum))
  deriving Repr

namespace Datum

instance : Inhabited Datum := ⟨.null⟩

/-- A whole number. -/
abbrev whole (n : Int) : Datum := .number (.whole n)

/-- The member of an object under a key. -/
def member? (key : String) : List (String × Datum) → Option Datum
  | [] => none
  | (k, d) :: rest => if k = key then some d else member? key rest

/-- The datum as a number: truth values count as one and zero. -/
def number? : Datum → Option Quantity
  | .number q => some q
  | .truth b => some (.whole (if b then 1 else 0))
  | _ => none

/-- Whether the datum is more than nothing, false, zero or empty. -/
def holds : Datum → Bool
  | .null => false
  | .truth b => b
  | .number q => !q.same 0
  | .text s => s ≠ ""
  | .list items => !items.isEmpty
  | .object members => !members.isEmpty

def isNull : Datum → Bool
  | .null => true
  | _ => false

/-- Whether the datum can be looked up in a collection: lists and objects cannot. -/
def isKey : Datum → Bool
  | .list _ => false
  | .object _ => false
  | _ => true

def isText : Datum → Bool
  | .text _ => true
  | _ => false

/-- The name of the datum's kind in messages. -/
def kind : Datum → String
  | .null => "NoneType"
  | .truth _ => "bool"
  | .number (.whole _) => "int"
  | .number (.real _) => "float"
  | .text _ => "str"
  | .list _ => "list"
  | .object _ => "dict"

mutual

/-- Equality by meaning. -/
def same : Datum → Datum → Bool
  | .null, .null => true
  | .text s, .text t => s == t
  | .list items, .list others => sameAll items others
  | .object members, .object others =>
    members.length == others.length && sameMembers members others
  | a, b =>
    match a.number?, b.number? with
    | some p, some q => p.same q
    | _, _ => false
termination_by structural a => a

/-- Equality of lists by meaning. -/
def sameAll : List Datum → List Datum → Bool
  | [], [] => true
  | a :: as, b :: bs => a.same b && sameAll as bs
  | _, _ => false
termination_by structural a => a

/-- Whether each member is found among the others under its key. -/
def sameMembers : List (String × Datum) → List (String × Datum) → Bool
  | [], _ => true
  | (k, a) :: rest, others =>
    (match member? k others with
    | some b => a.same b
    | none => false) && sameMembers rest others
termination_by structural a => a

end

@[simp] theorem same_text (s t : String) : same (.text s) (.text t) = (s == t) := by
  simp [same]

@[simp] theorem same_whole (m n : Int) : same (whole m) (whole n) = decide (m = n) := by
  simp [same, number?]

mutual

/-- Whether a datum and all data inside it pass a test. -/
def every (p : Datum → Bool) : Datum → Bool
  | .list items => p (.list items) && everyItem p items
  | .object members => p (.object members) && everyMember p members
  | d => p d
termination_by structural d => d

def everyItem (p : Datum → Bool) : List Datum → Bool
  | [] => true
  | d :: rest => d.every p && everyItem p rest
termination_by structural ds => ds

def everyMember (p : Datum → Bool) : List (String × Datum) → Bool
  | [] => true
  | (_, d) :: rest => d.every p && everyMember p rest
termination_by structural ms => ms

end

mutual

/-- In how many levels a datum is nested. -/
def depth : Datum → Nat
  | .list items => depthOfItems items + 1
  | .object members => depthOfMembers members + 1
  | _ => 0
termination_by structural d => d

def depthOfItems : List Datum → Nat
  | [] => 0
  | d :: rest => max d.depth (depthOfItems rest)
termination_by structural ds => ds

def depthOfMembers : List (String × Datum) → Nat
  | [] => 0
  | (_, d) :: rest => max d.depth (depthOfMembers rest)
termination_by structural ms => ms

end

/-- The first datum that holds something, or the second. -/
def orElse (d other : Datum) : Datum := if d.holds then d else other

end Datum
end CardLesson
