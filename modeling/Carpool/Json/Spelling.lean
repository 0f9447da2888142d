import Carpool.Octets

/-!
# Spelled strings

A string in a document is spelled with octets that stand for themselves and
with code units given by number.  A spelling need not have a text: its octets
may break the rules of UTF-8, and its units may be halves of a pair.  Values
that are skipped may hold such strings, values that are read may not.
-/

namespace Carpool

namespace Json

/-- A piece of a spelled string. -/
inductive Piece
  /-- An octet that stands for itself. -/
  | octet (value : UInt8)
  /-- A code unit given by its four hexadecimal digits. -/
  | unit (value : UInt16)
  deriving DecidableEq

/-- A string as a document spells it. -/
abbrev Spelling := List Piece

namespace Spelling

/-- The unit is the first half of a pair. -/
def isHighHalf (unit : UInt16) : Bool :=
  0xD800 ≤ unit.toNat && unit.toNat < 0xDC00

/-- The unit is the second half of a pair. -/
def isLowHalf (unit : UInt16) : Bool :=
  0xDC00 ≤ unit.toNat && unit.toNat < 0xE000

/-- The code point of a pair of halves. -/
def joinHalves (high low : UInt16) : Nat :=
  0x10000 + (high.toNat - 0xD800) * 0x400 + (low.toNat - 0xDC00)

/-- The octets that a spelling stands for; a lone half has none. -/
def octets? : Spelling → Option Octets
  | [] => some []
  | .octet value :: rest => (octets? rest).map (value :: ·)
  | .unit high :: rest =>
      if isHighHalf high then
        match rest with
        | .unit low :: rest =>
            if isLowHalf low then
              (octets? rest).map
                (String.utf8EncodeChar (Char.ofNat (joinHalves high low)) ++ ·)
            else none
        | _ => none
      else if isLowHalf high then none
      else
        (octets? rest).map
          (String.utf8EncodeChar (Char.ofNat high.toNat) ++ ·)

def text? (spelling : Spelling) : Option String :=
  (octets? spelling).bind Octets.text?

def ofText (text : String) : Spelling :=
  (Octets.ofText text).map .octet

def hexSymbol (digit : Nat) : UInt8 :=
  if digit < 10 then UInt8.ofNat (48 + digit) else UInt8.ofNat (87 + digit)

def unitEscape (unit : Nat) : Octets :=
  [92, 117, hexSymbol (unit / 4096 % 16), hexSymbol (unit / 256 % 16),
    hexSymbol (unit / 16 % 16), hexSymbol (unit % 16)]

/-- One piece as it stands between the quotes.  The quote, the backslash and
the controls are escaped, the common controls by letter. -/
def printPiece : Piece → Octets
  | .unit unit => unitEscape unit.toNat
  | .octet octet =>
      if octet = 34 then [92, 34]
      else if octet = 92 then [92, 92]
      else if octet = 8 then [92, 98]
      else if octet = 9 then [92, 116]
      else if octet = 10 then [92, 110]
      else if octet = 12 then [92, 102]
      else if octet = 13 then [92, 114]
      else if octet < 32 then unitEscape octet.toNat
      else [octet]

def print (spelling : Spelling) : Octets :=
  34 :: (spelling.flatMap printPiece ++ [34])

def hexDigit? (symbol : UInt8) : Option Nat :=
  let code := symbol.toNat
  if 48 ≤ code ∧ code ≤ 57 then some (code - 48)
  else if 97 ≤ code ∧ code ≤ 102 then some (code - 87)
  else if 65 ≤ code ∧ code ≤ 70 then some (code - 55)
  else none

def unit? (first second third fourth : UInt8) : Option UInt16 := do
  let first ← hexDigit? first
  let second ← hexDigit? second
  let third ← hexDigit? third
  let fourth ← hexDigit? fourth
  return UInt16.ofNat (first * 4096 + second * 256 + third * 16 + fourth)

/-- The octet for which a letter stands after a backslash. -/
def escaped? (letter : UInt8) : Option UInt8 :=
  if letter = 34 ∨ letter = 92 ∨ letter = 47 then some letter
  else if letter = 98 then some 8
  else if letter = 102 then some 12
  else if letter = 110 then some 10
  else if letter = 114 then some 13
  else if letter = 116 then some 9
  else none

/-- Read a spelling up to its closing quote.  The result holds what comes
after the quote. -/
def read? : Octets → Option (Spelling × Octets)
  | [] => none
  | first :: rest =>
      if first = 34 then some ([], rest)
      else if first = 92 then
        match rest with
        | [] => none
        | letter :: rest =>
            if letter = 117 then
              match rest with
              | first :: second :: third :: fourth :: rest => do
                  let unit ← unit? first second third fourth
                  let (spelling, rest) ← read? rest
                  return (.unit unit :: spelling, rest)
              | _ => none
            else do
              let octet ← escaped? letter
              let (spelling, rest) ← read? rest
              return (.octet octet :: spelling, rest)
      else if first < 32 then none
      else do
        let (spelling, rest) ← read? rest
        return (.octet first :: spelling, rest)

end Spelling

end Json

end Carpool
