import Carpool.Gate

/-!
# Media types

The check that a request says its body is JSON: a valid media type of type
`application` whose subtype is `json`, alone, before the last plus sign, or
after it.
-/

namespace Carpool

namespace MediaType

def isNameOctet (octet : UInt8) : Bool :=
  (48 ≤ octet && octet ≤ 57) || (65 ≤ octet && octet ≤ 90)
    || (97 ≤ octet && octet ≤ 122)
    || [33, 35, 36, 37, 38, 39, 42, 43, 45, 46, 94, 95, 96, 124, 126].contains
      octet

/-- An octet that quoted values may consist of. -/
def isQuotable (octet : UInt8) : Bool :=
  31 < octet && octet != 127

/-- Where in the parameters a reader is.  A quoted value has at least one octet,
which may be a quotation mark itself. -/
inductive ParameterStage
  | nameStart
  | name
  | valueStart
  | value
  | quotedStart
  | quoted
  | afterQuoted
  deriving DecidableEq

def ParameterStage.step (stage : ParameterStage) (octet : UInt8) :
    Option ParameterStage :=
  match stage with
  | .nameStart =>
      if octet = 32 then some .nameStart
      else if isNameOctet octet then some .name
      else none
  | .name =>
      if isNameOctet octet then some .name
      else if octet = 61 then some .valueStart
      else none
  | .valueStart =>
      if octet = 34 then some .quotedStart
      else if isNameOctet octet then some .value
      else none
  | .value =>
      if isNameOctet octet then some .value
      else if octet = 59 then some .nameStart
      else none
  | .quotedStart =>
      if isQuotable octet then some .quoted
      else none
  | .quoted =>
      if octet = 34 then some .afterQuoted
      else if isQuotable octet then some .quoted
      else none
  | .afterQuoted =>
      if octet = 59 then some .nameStart
      else if octet = 32 then some .afterQuoted
      else none

/-- The parameters may end here. -/
def ParameterStage.mayEnd : ParameterStage → Bool
  | .name | .quotedStart | .quoted => false
  | _ => true

/-- The octets after the first semicolon are parameters. -/
def areParameters (octets : Octets) : Bool :=
  match octets.foldlM ParameterStage.step .nameStart with
  | some stage => stage.mayEnd
  | none => false

/-- The subtype before its last plus sign, and the suffix after it.  A plus sign
at the start is none. -/
def splitSuffix (subtype : Octets) : Octets × Option Octets :=
  let suffix := subtype.reverse.takeWhile (· != 43)
  match subtype.reverse.dropWhile (· != 43) with
  | [] => (subtype, none)
  | [_] => (subtype, none)
  | _ :: before => (before.reverse, some suffix.reverse)

def lowered (octets : Octets) : Octets :=
  octets.map fun octet =>
    if 65 ≤ octet ∧ octet ≤ 90 then octet + 32 else octet

def applicationName : Octets := Octets.ofText "application"

def jsonName : Octets := Octets.ofText "json"

/-- A header value that names a media type of JSON. -/
def isJson (value : Octets) : Bool :=
  let kind := value.takeWhile (· != 47)
  let rest := (value.dropWhile (· != 47)).drop 1
  let subtype := rest.takeWhile (· != 59)
  let parameters := rest.dropWhile (· != 59)
  let (base, suffix) := splitSuffix (lowered subtype)
  value.all Gate.isVisible && lowered kind == applicationName
    && subtype.all isNameOctet
    && (base == jsonName || suffix == some jsonName)
    && areParameters (parameters.drop 1)

end MediaType

end Carpool
