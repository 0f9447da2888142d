import Carpool.Api.Message
import Carpool.Failure
import Carpool.Gate
import Carpool.Login.Policy

/-!
# Failures on the wire

Every failure leaves the service as a record of a code and a message, under the
HTTP status of its code.  What fails inside the service is shown to nobody: it
leaves with one and the same message.
-/

namespace Carpool

/-- A failure as callers see it. -/
structure ApiError where
  code : ErrorCode
  message : String
  deriving DecidableEq

namespace ApiError

def internal : ApiError := ⟨.internal, "internal error"⟩

def invalidArgument (message : String) : ApiError :=
  ⟨.invalidArgument, message⟩

def unauthenticated (message : String) : ApiError :=
  ⟨.unauthenticated, message⟩

def deadlineExceeded (milliseconds : Nat) : ApiError :=
  ⟨.deadlineExceeded,
    "request exceeded its " ++ toString milliseconds ++ " ms deadline"⟩

/-- A failure of a service, as callers see it. -/
def ofFailure (failure : Failure) : ApiError :=
  match failure.code with
  | .internal => internal
  | code => ⟨code, failure.message⟩

def ofGate (error : GateError) : ApiError :=
  unauthenticated error.message

def ofLogin (error : LoginError) : ApiError :=
  if error.isRejection then
    unauthenticated ("login failed: " ++ error.message)
  else internal

def status (error : ApiError) : Nat :=
  error.code.status

def display (error : ApiError) : String :=
  error.code.name ++ ": " ++ error.message

def document (error : ApiError) : Json.Document :=
  .ofMembers
    [("code", .ofText error.code.name), ("message", .ofText error.message)]

def response (error : ApiError) : Api.Response :=
  .json error.status error.document.print

end ApiError

end Carpool
