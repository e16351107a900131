/-
# Reading JSON

`Json.read` reads a text as one datum. It is strict about the grammar, with two liberties: the
names `NaN`, `Infinity` and `-Infinity` are numbers, and of two members with one key the first
place and the last value count. A number without point and exponent is whole; one of more figures
than `figureLimit` is refused. Texts are sequences of characters, so an escape that writes half of a
pair of surrogates is refused too.

Every reader takes the text still to be read and returns what is left of it. Values nest, so the
readers of values take an allowance of steps; each step uses up a character, and `read` starts
with more steps than there are characters.

Key definitions: `Json.Flaw`, `Json.readText`, `Json.readNumber`, `Json.readValue`, `Json.read`.
Key theorems: `Json.isDigit_of_mem_figures`.
-/
import CardLesson.Datum.Basic

namespace CardLesson.Json

/-- Why a text is no JSON. -/
inductive Flaw where
  /-- It breaks the grammar. -/
  | malformed
  /-- A whole number has too many figures. -/
  | tooManyFigures (count : Nat)
  /-- Half of a pair of surrogates stands for no character. -/
  | loneSurrogate
  deriving DecidableEq, Repr

def isSpace (c : Char) : Bool := c = ' ' || c = '\n' || c = '\t' || c = '\r'

def skipSpace (cs : List Char) : List Char := cs.dropWhile isSpace

/-- The figures a text starts with. -/
def figures (cs : List Char) : List Char := cs.takeWhile Char.isDigit

def afterFigures (cs : List Char) : List Char := cs.dropWhile Char.isDigit

theorem isDigit_of_mem_figures {c : Char} {cs : List Char} (h : c ∈ figures cs) :
    c.isDigit = true := by
  induction cs with
  | nil => simp [figures] at h
  | cons d ds ih =>
    simp only [figures, List.takeWhile_cons] at h
    split at h
    · rcases List.mem_cons.1 h with rfl | h
      · assumption
      · exact ih h
    · cases h

/-- The number that figures write. -/
def figuresValue (cs : List Char) : Nat := cs.foldl (fun n c => n * 10 + (c.toNat - 48)) 0

/-- The value of four figures in base sixteen. -/
def hexValue? (cs : List Char) : Option Nat :=
  cs.foldl (fun n c => n.bind fun n =>
    if c.isDigit then some (n * 16 + (c.toNat - 48))
    else if 'a' ≤ c ∧ c ≤ 'f' then some (n * 16 + (c.toNat - 87))
    else if 'A' ≤ c ∧ c ≤ 'F' then some (n * 16 + (c.toNat - 55))
    else none) (some 0)

/-- The character that stands after a backslash for another one. -/
def escaped? : Char → Option Char
  | '"' => some '"'
  | '\\' => some '\\'
  | '/' => some '/'
  | 'b' => some '\x08'
  | 'f' => some '\x0c'
  | 'n' => some '\n'
  | 'r' => some '\r'
  | 't' => some '\t'
  | _ => none

/-- The character of a pair of surrogates. -/
def ofSurrogates (high low : Nat) : Char :=
  Char.ofNat (0x10000 + (high - 0xd800) * 0x400 + (low - 0xdc00))

/-- The rest of a text after its opening quote, up to the closing one. The characters read so far
are kept backwards. A surrogate on its own is no character, and a text with one is refused. -/
def readText (done : List Char) : List Char → Except Flaw (String × List Char)
  | [] => .error .malformed
  | '"' :: rest => .ok (String.ofList done.reverse, rest)
  | '\\' :: 'u' :: a :: b :: c :: d :: rest =>
    match hexValue? [a, b, c, d] with
    | none => .error .malformed
    | some m =>
      if 0xd800 ≤ m ∧ m < 0xe000 then
        match rest with
        | '\\' :: 'u' :: e :: f :: g :: h :: rest =>
          match hexValue? [e, f, g, h] with
          | none => .error .malformed
          | some n =>
            if m < 0xdc00 ∧ 0xdc00 ≤ n ∧ n < 0xe000 then readText (ofSurrogates m n :: done) rest
            else .error .loneSurrogate
        | _ => .error .loneSurrogate
      else readText (Char.ofNat m :: done) rest
  | '\\' :: c :: rest =>
    match escaped? c with
    | some d => readText (d :: done) rest
    | none => .error .malformed
  | c :: rest => if c.toNat < 32 then .error .malformed else readText (c :: done) rest

/-- The figures after a point, if a point with figures comes next. -/
def readFraction : List Char → List Char × List Char
  | '.' :: rest =>
    if (figures rest).isEmpty then ([], '.' :: rest) else (figures rest, afterFigures rest)
  | cs => ([], cs)

/-- The exponent, if a whole one comes next. -/
def readExponent (cs : List Char) : Option Int × List Char :=
  match cs with
  | e :: rest =>
    if e = 'e' ∨ e = 'E' then
      let (negative, ds) := match rest with
        | '-' :: ds => (true, ds)
        | '+' :: ds => (false, ds)
        | ds => (false, ds)
      if (figures ds).isEmpty then (none, cs)
      else
        let n : Int := figuresValue (figures ds)
        (some (if negative then -n else n), afterFigures ds)
    else (none, cs)
  | [] => (none, cs)

/-- The figures before the point: a zero, or figures that do not start with one. -/
def readWhole (cs : List Char) : Option (List Char × List Char) :=
  match cs with
  | '0' :: rest => some (['0'], rest)
  | _ => if (figures cs).isEmpty then none else some (figures cs, afterFigures cs)

/-- A number without its sign. -/
def readUnsigned (negative : Bool) (cs : List Char) : Except Flaw (Quantity × List Char) :=
  match readWhole cs with
  | none => .error .malformed
  | some (ws, rest) =>
    let (fs, rest) := readFraction rest
    let (exponent, rest) := readExponent rest
    if fs.isEmpty && exponent.isNone then
      if figureLimit < ws.length then .error (.tooManyFigures ws.length)
      else
        let n : Int := figuresValue ws
        .ok (.whole (if negative then -n else n), rest)
    else
      let x := Double.ofDecimal negative (figuresValue (ws ++ fs)) (exponent.getD 0 - fs.length)
      .ok (.real x, rest)

/-- What is left of a text after a word it starts with. -/
def after? (word : List Char) (cs : List Char) : Option (List Char) :=
  if word.isPrefixOf cs then some (cs.drop word.length) else none

/-- The words that are data. -/
def words : List (List Char × Datum) :=
  [("null".toList, .null), ("true".toList, .truth true), ("false".toList, .truth false),
    ("NaN".toList, .number (.real .notANumber)),
    ("Infinity".toList, .number (.real (.infinite false))),
    ("-Infinity".toList, .number (.real (.infinite true)))]

def readWord (cs : List Char) : Option (Datum × List Char) :=
  words.findSome? fun (w, d) => (after? w cs).map fun rest => (d, rest)

def readNumber (cs : List Char) : Except Flaw (Datum × List Char) :=
  let (negative, ds) := match cs with
    | '-' :: ds => (true, ds)
    | ds => (false, ds)
  (readUnsigned negative ds).map fun (q, rest) => (.number q, rest)

/-- Puts a member into an object: at the place of a member with its key, or else at the end. -/
def putMember (key : String) (d : Datum) : List (String × Datum) → List (String × Datum)
  | [] => [(key, d)]
  | (k, e) :: rest => if k = key then (k, d) :: rest else (k, e) :: putMember key d rest

/-- Whether a key stands among the members. -/
def hasMember (key : String) (members : List (String × Datum)) : Bool :=
  members.any fun m => m.1 == key

mutual

/-- The value a text starts with, blanks before it skipped. -/
def readValue : Nat → List Char → Except Flaw (Datum × List Char)
  | 0, _ => .error .malformed
  | steps + 1, cs =>
    match skipSpace cs with
    | '"' :: rest =>
      match readText [] rest with
      | .ok (s, rest) => .ok (.text s, rest)
      | .error flaw => .error flaw
    | '[' :: rest =>
      match skipSpace rest with
      | ']' :: rest => .ok (.list [], rest)
      | _ => readItems steps [] rest
    | '\x7b' :: rest =>
      match skipSpace rest with
      | '\x7d' :: rest => .ok (.object [], rest)
      | _ => readMembers steps [] rest
    | cs =>
      match readWord cs with
      | some r => .ok r
      | none => readNumber cs

/-- The items of a list from a value on; the items before it are kept backwards. -/
def readItems : Nat → List Datum → List Char → Except Flaw (Datum × List Char)
  | 0, _, _ => .error .malformed
  | steps + 1, done, cs =>
    match readValue steps cs with
    | .error flaw => .error flaw
    | .ok (d, rest) =>
      match skipSpace rest with
      | ']' :: rest => .ok (.list (d :: done).reverse, rest)
      | ',' :: rest => readItems steps (d :: done) rest
      | _ => .error .malformed

/-- The members of an object from a key on; the members before it are kept backwards. -/
def readMembers : Nat → List (String × Datum) → List Char → Except Flaw (Datum × List Char)
  | 0, _, _ => .error .malformed
  | steps + 1, done, cs =>
    match skipSpace cs with
    | '"' :: rest =>
      match readText [] rest with
      | .error flaw => .error flaw
      | .ok (key, rest) =>
        match skipSpace rest with
        | ':' :: rest =>
          match readValue steps rest with
          | .error flaw => .error flaw
          | .ok (d, rest) =>
            let members := if hasMember key done then putMember key d done else (key, d) :: done
            match skipSpace rest with
            | '\x7d' :: rest => .ok (.object members.reverse, rest)
            | ',' :: rest => readMembers steps members rest
            | _ => .error .malformed
        | _ => .error .malformed
    | _ => .error .malformed

end

/-- The datum a text writes. -/
def read (s : List Char) : Except Flaw Datum :=
  match readValue (2 * s.length + 2) s with
  | .error flaw => .error flaw
  | .ok (d, rest) => if (skipSpace rest).isEmpty then .ok d else .error .malformed

end CardLesson.Json
