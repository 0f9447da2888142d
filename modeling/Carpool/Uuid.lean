import Carpool.Json.Form

/-!
# Identifiers

Universally unique identifiers: thirty-two hexadecimal digits.  They are
written in lower case with hyphens, and read in four notations: with hyphens,
without, in braces, and as a name in the `urn` space.
-/

namespace Carpool

/-- An identifier of thirty-two hexadecimal digits. -/
structure Uuid where
  digits : List (Fin 16)
  length_digits : digits.length = 32
  deriving DecidableEq

namespace Uuid

def digitChar (digit : Fin 16) : Char :=
  if digit.val < 10 then Char.ofNat (48 + digit.val)
  else Char.ofNat (87 + digit.val)

/-- The hexadecimal digit of a character, in either case. -/
def digit? (character : Char) : Option (Fin 16) :=
  let code := character.toNat
  if 48 ≤ code ∧ code ≤ 57 then some (Fin.ofNat 16 (code - 48))
  else if 97 ≤ code ∧ code ≤ 102 then some (Fin.ofNat 16 (code - 87))
  else if 65 ≤ code ∧ code ≤ 70 then some (Fin.ofNat 16 (code - 55))
  else none

/-- The characters of the hyphenated notation for given digits. -/
def hyphenate (digits : List Char) : List Char :=
  digits.take 8 ++ '-' :: ((digits.drop 8).take 4
    ++ '-' :: ((digits.drop 12).take 4
    ++ '-' :: ((digits.drop 16).take 4 ++ '-' :: digits.drop 20)))

def chars (uuid : Uuid) : List Char :=
  hyphenate (uuid.digits.map digitChar)

def text (uuid : Uuid) : String :=
  String.ofList uuid.chars

/-- The identifier with these digits, if there are thirty-two of them. -/
def ofDigits? (digits : List Char) : Option Uuid :=
  match digits.mapM digit? with
  | none => none
  | some values =>
      if h : values.length = 32 then some ⟨values, h⟩ else none

/-- Read thirty-two digits in groups of 8, 4, 4, 4 and 12 with hyphens between
the groups. -/
def ofHyphenated? (characters : List Char) : Option Uuid :=
  let digits :=
    characters.take 8 ++ ((characters.drop 9).take 4
      ++ ((characters.drop 14).take 4
      ++ ((characters.drop 19).take 4 ++ characters.drop 24)))
  if characters = hyphenate digits then ofDigits? digits else none

/-- The characters after the name of the space of identifiers, which is in any
mixture of cases. -/
def inNamespace? (characters : List Char) : Option (List Char) :=
  if (characters.take 9).map Char.toLower = "urn:uuid:".toList then
    some (characters.drop 9)
  else none

def inBraces? : List Char → Option (List Char)
  | '\x7b' :: rest =>
      if rest.getLast? = some '\x7d' then some rest.dropLast else none
  | _ => none

def ofChars? (characters : List Char) : Option Uuid :=
  if characters.length = 32 then ofDigits? characters
  else if characters.length = 36 then ofHyphenated? characters
  else if characters.length = 38 then
    (inBraces? characters).bind ofHyphenated?
  else if characters.length = 45 then
    (inNamespace? characters).bind ofHyphenated?
  else none

def ofText? (text : String) : Option Uuid :=
  ofChars? text.toList

/-- The identifier whose digits spell a number, most significant first. -/
def ofNat (value : Nat) : Uuid where
  digits := (List.range 32).reverse.map fun place =>
    Fin.ofNat 16 (value / Nat.pow 16 place)
  length_digits := by simp

def form : Json.Form Uuid :=
  .spelled ofText? text

end Uuid

end Carpool
