import Carpool.Json.Form

/-!
# Codes of failures

The short list of codes that callers see, and the HTTP status of each.
-/

namespace Carpool

inductive ErrorCode
  | invalidArgument
  | unauthenticated
  | permissionDenied
  | notFound
  | failedPrecondition
  | internal
  | deadlineExceeded
  deriving DecidableEq

namespace ErrorCode

def name : ErrorCode → String
  | .invalidArgument => "invalid_argument"
  | .unauthenticated => "unauthenticated"
  | .permissionDenied => "permission_denied"
  | .notFound => "not_found"
  | .failedPrecondition => "failed_precondition"
  | .internal => "internal"
  | .deadlineExceeded => "deadline_exceeded"

def all : List ErrorCode :=
  [.invalidArgument, .unauthenticated, .permissionDenied, .notFound,
    .failedPrecondition, .internal, .deadlineExceeded]

def ofName? (text : String) : Option ErrorCode :=
  all.find? fun code => code.name == text

/-- The HTTP status of an answer with a code. -/
def status : ErrorCode → Nat
  | .invalidArgument => 400
  | .unauthenticated => 401
  | .permissionDenied => 403
  | .notFound => 404
  | .failedPrecondition => 412
  | .internal => 500
  | .deadlineExceeded => 504

def form : Json.Form ErrorCode := .named ofName? name

end ErrorCode

end Carpool
