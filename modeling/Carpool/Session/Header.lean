import Carpool.Json.Ending
import Carpool.Json.Schema

/-!
# Token headers

The header of a session token names its type and the algorithm of its
signature; the only algorithm that is accepted is HS256.  Other standard
members may be there but must be of their standard form, down to an embedded
key.
-/

namespace Carpool

namespace Session

open Json (Document Form Read)

def oneOf (names : List String) : Form String :=
  .named (fun text => names.find? (· == text)) id

/-- The names of signature algorithms and of algorithms for keys. -/
def keyAlgorithms : List String :=
  ["HS256", "HS384", "HS512", "ES256", "ES384", "RS256", "RS384", "RS512",
    "PS256", "PS384", "PS512", "EdDSA", "RSA1_5", "RSA-OAEP", "RSA-OAEP-256"]

def curves : List String := ["P-256", "P-384", "P-521", "Ed25519"]

def membersNamed (members : List Json.Member) (key : String) :
    List Document :=
  (members.filter fun member => member.1.text? == some key).map Prod.snd

/-- A member that must be there once, of a form. -/
def hasMember {α : Type} (members : List Json.Member) (key : String)
    (form : Form α) : Bool :=
  match membersNamed members key with
  | [document] => (form.read document).isOk
  | _ => false

/-- A member that may be there once, of a form or null. -/
def mayHaveMember {α : Type} (members : List Json.Member) (key : String)
    (form : Form α) : Bool :=
  match membersNamed members key with
  | [] => true
  | [document] => (form.nullable.read document).isOk
  | _ => false

/-- Read the name of an algorithm in an embedded key.  In a record with the
name as its key an empty record may stand in the place of null. -/
def readKeyAlgorithm : Document → Read String
  | .record [(name, .record [] true)] true =>
      (oneOf keyAlgorithms).read (.text name)
  | document => (oneOf keyAlgorithms).read document

def keyAlgorithm : Form String where
  read := readKeyAlgorithm
  write := .ofText

def isKeyDescription (members : List Json.Member) : Bool :=
  mayHaveMember members "use" .text
    && mayHaveMember members "key_ops" (.list .text)
    && mayHaveMember members "alg" keyAlgorithm
    && mayHaveMember members "kid" .text
    && mayHaveMember members "x5u" .text
    && mayHaveMember members "x5c" (.list .text)
    && mayHaveMember members "x5t" .text
    && mayHaveMember members "x5t#S256" .text

/-- The parameters of a key of one of the four types. -/
def isKeyMaterial (members : List Json.Member) : Bool :=
  (hasMember members "kty" (oneOf ["EC"])
      && hasMember members "crv" (oneOf curves)
      && hasMember members "x" .text && hasMember members "y" .text)
    || (hasMember members "kty" (oneOf ["RSA"])
      && hasMember members "n" .text && hasMember members "e" .text)
    || (hasMember members "kty" (oneOf ["oct"])
      && hasMember members "k" .text)
    || (hasMember members "kty" (oneOf ["OKP"])
      && hasMember members "crv" (oneOf curves)
      && hasMember members "x" .text)

/-- The depth to which values may be nested in a header or in claims. -/
def nestingLimit : Nat := 126

/-- An embedded key. -/
def readKey (document : Document) : Read Unit :=
  match document with
  | .record members _ =>
      if Json.Ending.ofDocument nestingLimit document = .sound
          && isKeyDescription members
          && isKeyMaterial members then .ok ()
      else .error .mismatch
  | _ => .error document.wrongKind

def keyForm : Form Unit where
  read := readKey
  write _ := .null

def algorithm : String := "HS256"

/-- The form that the header of a token must have. -/
def headerForm : Form Unit :=
  .record
    (.optional "typ" .text <|
      .required "alg" (oneOf [algorithm]) <|
      .optional "cty" .text <|
      .optional "jku" .text <|
      .optional "jwk" keyForm <|
      .optional "kid" .text <|
      .optional "x5u" .text <|
      .optional "x5c" (.list .text) <|
      .optional "x5t" .text <|
      .optional "x5t#S256" .text .nil)
    (fun _ => ())
    (fun _ =>
      (some "JWT", algorithm, none, none, none, none, none, none, none, none,
        ()))

/-- The header of the tokens that are issued. -/
def issuedHeader : Document :=
  .ofMembers
    [("typ", .ofText "JWT"), ("alg", .ofText algorithm)]

end Session

end Carpool
