/-
# Replies

A reply is a status and a body. A fault becomes a reply by its kind: an unknown session and faulty
card data are told as they are, a deck that did not pass its check with all its errors, and
anything else by the class of the fault alone.

Key definitions: `Reply`, `ErrorCode`, `Reply.error`, `Reply.ofFault`.
Key theorems: `Reply.ofFault_status`.
-/
import CardLesson.Effect.Record

namespace CardLesson

/-- A reply to a request. -/
structure Reply where
  status : Nat
  body : Datum
  deriving Repr

/-- What went wrong, for programs. -/
inductive ErrorCode where
  | sessionNotFound
  | cardNotInHand
  | invalidCardData
  | validationError
  | internalError
  deriving DecidableEq, Repr

namespace ErrorCode

def name : ErrorCode → String
  | sessionNotFound => "SESSION_NOT_FOUND"
  | cardNotInHand => "CARD_NOT_IN_HAND"
  | invalidCardData => "INVALID_CARD_DATA"
  | validationError => "VALIDATION_ERROR"
  | internalError => "INTERNAL_ERROR"

def status : ErrorCode → Nat
  | sessionNotFound => 404
  | cardNotInHand => 404
  | invalidCardData => 400
  | validationError => 422
  | internalError => 500

end ErrorCode

/-- The version of the bodies. -/
def bodyVersion : Members := [("api_version", .text "v1")]

namespace Reply

/-- A reply to a request that was carried out. -/
def ok (members : Members) : Reply := ⟨200, .object members⟩

/-- A reply that says what went wrong. -/
def error (code : ErrorCode) (message : String) (details : Datum := .null) : Reply :=
  ⟨code.status, .object ([("error", .text message), ("error_code", .text code.name),
    ("details", details)] ++ bodyVersion)⟩

/-- The reply for a fault. -/
def ofFault (f : Fault) : Reply :=
  match f with
  | .noSession _ => error .sessionNotFound f.message
  | .invalidRoster errors =>
    error .validationError "Card data failed validation"
      (.object [("errors", .list (errors.map .text))])
  | f =>
    if f.isCardData then error .invalidCardData f.message
    else error .internalError "Internal server error" (.object [("type", .text f.className)])

/-- A fault is never told as a success. -/
theorem ofFault_status (f : Fault) : 400 ≤ (ofFault f).status := by
  unfold ofFault
  split
  · simp [error, ErrorCode.status]
  · simp [error, ErrorCode.status]
  · split <;> simp [error, ErrorCode.status]

end Reply
end CardLesson
