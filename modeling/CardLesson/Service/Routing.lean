/-
# Where requests go

One way for a framework to find out where a request goes: a path names what is asked about, a
method what is to be done with it. A path is read without its percent escapes, and without slashes
at its end when nothing stands at it as it is; its last word may be followed by a line end.

Key definitions: `Miss`, `Endpoint.served`, `Endpoint.find`, `Reply.ofMiss`.
-/
import CardLesson.Service.Framework
import CardLesson.Text.Percent

namespace CardLesson

/-- Why a request goes nowhere. -/
inductive Miss where
  | unknownPath
  | wrongMethod
  deriving DecidableEq, Repr

namespace Endpoint

/-- Whether the last word of a path is a given one. -/
def ends (last word : String) : Bool := last == word || last == word ++ "\n"

/-- What stands at a session, by the word after its id. -/
def ofSession (session last : String) : List (String × Endpoint) :=
  if ends last "state" then [("GET", .state session)]
  else if ends last "play" then [("POST", .play session)]
  else if ends last "end-turn" then [("POST", .endTurn session)]
  else if ends last "drink" then [("POST", .drink session)]
  else []

/-- The endpoints at a path, given by its words, with their methods. -/
def served : List String → List (String × Endpoint)
  | ["", last] =>
    if ends last "" then [("GET", .welcome)]
    else if ends last "health" then [("GET", .health)]
    else []
  | ["", "api", "v1", last] =>
    if ends last "compile" then [("POST", .compile)]
    else if ends last "sessions" then [("POST", .openSession), ("GET", .listSessions)]
    else []
  | ["", "api", "v1", "sessions", session] =>
    if session = "" then [] else [("GET", .summary session), ("DELETE", .closeSession session)]
  | ["", "api", "v1", "sessions", session, last] =>
    if session = "" then [] else ofSession session last
  | ["", "api", "v1", "sessions", session, "cost", card] =>
    if session = "" || card = "" then [] else [("GET", .cost session card)]
  | _ => []

/-- The words of a path. -/
def words (path : List Char) : List String := (path.splitOnP (· == '/')).map String.ofList

/-- The path without the slashes at its end. -/
def withoutSlashes (path : List Char) : List Char := (path.reverse.dropWhile (· == '/')).reverse

/-- The path of a target, which may go on with a query or a fragment, without its escapes. -/
def pathOf (target : String) : List Char :=
  Text.Percent.decode (target.toList.takeWhile fun c => c != '?' && c != '#')

/-- The endpoint that a request goes to. -/
def find (method target : String) : Except Miss Endpoint :=
  let path := pathOf target
  let here := served (words path)
  let found :=
    if here.isEmpty && path.getLast? == some '/' then served (words (withoutSlashes path))
    else here
  if found.isEmpty then .error .unknownPath
  else
    match found.lookup method.toUpper with
    | some e => .ok e
    | none => .error .wrongMethod

end Endpoint

/-- The reply to a request that goes nowhere. -/
def Reply.ofMiss : Miss → Reply
  | .unknownPath => ⟨404, .object [("detail", .text "Not Found")]⟩
  | .wrongMethod => ⟨405, .object [("detail", .text "Method Not Allowed")]⟩

end CardLesson
