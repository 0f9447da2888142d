import Carpool.Api.Handler

/-!
# The router

How a request is answered.  A path that belongs to no method is not found.  For
the others the gate comes first, unless the path is public; then only `POST` is
allowed.  A request that takes too long is answered by the deadline instead, and
one that breaks off is not answered at all.
-/

namespace Carpool

namespace Api

/-- The response to the outcome of a method.  There is none if the method has
broken off: the connection is closed instead. -/
def respond (outcome : Except ApiError (Option Json.Document)) :
    Option Response :=
  match outcome with
  | .ok document? => document?.map fun document => .json 200 document.print
  | .error error => some error.response

/-- What the gate decides about a request: nobody for a public path, and
otherwise the verified caller. -/
def passGate (config : ServerConfig) (request : Request) :
    Call (Except GateError (Option Identity)) :=
  if config.publicMethods.contains request.path then pure (.ok none)
  else do
    let now ← Call.clock
    pure ((Gate.identify config.secret now
      (request.headerValues "authorization")).map some)

def answerMethod (config : ServerConfig) (method : Method)
    (request : Request) : Call (Option Response) := do
  let admitted ← passGate config request
  let isPost := request.method == "POST"
  match admitted with
  | .error error =>
      let response := (ApiError.ofGate error).response
      pure (some (if isPost then response else response.allowingPost))
  | .ok caller =>
      if isPost then do
        let outcome ← (handle config method caller request).run
        pure (respond outcome)
      else pure (some (Response.empty 405).allowingPost)

/-- The response without its body, if only the head was asked for. -/
def withoutBodyForHead (request : Request) (response : Response) : Response :=
  if request.method == "HEAD" then response.headOnly else response

/-- The answer to a request, if it gets one. -/
def answer (config : ServerConfig) (request : Request) :
    Call (Option Response) :=
  match Method.ofPath? request.path with
  | none => pure (some (.empty 404))
  | some method => do
      let response? ← answerMethod config method request
      pure (response?.map (withoutBodyForHead request))

/-- The response to a request that has reached its deadline. -/
def overdue (milliseconds : Nat) (request : Request) : Response :=
  withoutBodyForHead request (ApiError.deadlineExceeded milliseconds).response

end Api

end Carpool
