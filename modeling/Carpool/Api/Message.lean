import Carpool.Octets

/-!
# Requests and responses

What of HTTP the service sees and shows.
-/

namespace Carpool

namespace Api

structure Request where
  method : String
  target : String
  headers : List (String × Octets)
  body : Octets
  deriving DecidableEq

structure Response where
  status : Nat
  contentType : Option String
  allow : Option String
  body : Octets
  deriving DecidableEq

namespace Request

/-- A header name in the form in which names are compared. -/
def normalName (name : String) : String :=
  String.ofList (name.toList.map Char.toLower)

def headerValues (request : Request) (name : String) : List Octets :=
  (request.headers.filter fun header => normalName header.1 == name).map
    Prod.snd

/-- A character that ends the authority or, but for the slash, the path of a
target. -/
def isBoundary (character : Char) : Bool :=
  character == '/' || character == '?' || character == '#'

/-- A target without the scheme and the authority that come first in an
absolute one. -/
def withoutAuthority (target : List Char) : List Char :=
  if target.head? = some '/' then target
  else
    match target.dropWhile (· != ':') with
    | ':' :: '/' :: '/' :: rest => rest.dropWhile (! isBoundary ·)
    | _ => target

def path (request : Request) : String :=
  String.ofList
    ((withoutAuthority request.target.toList).takeWhile fun character =>
      character == '/' || ! isBoundary character)

end Request

namespace Response

def empty (status : Nat) : Response :=
  ⟨status, none, none, []⟩

def json (status : Nat) (body : Octets) : Response :=
  ⟨status, some "application/json", none, body⟩

/-- The response, with a note that only `POST` is allowed. -/
def allowingPost (response : Response) : Response :=
  { response with allow := some "POST" }

/-- The response as it is given to a request for the head alone. -/
def headOnly (response : Response) : Response :=
  { response with body := [] }

end Response

end Api

end Carpool
