import Carpool.Octets

/-!
# Base64 for names and addresses

Octets written with the sixty-four letters, digits, `-` and `_`, without
padding.  Reading accepts exactly what writing produces: bits that no octet
uses must be zero.
-/

namespace Carpool

namespace Base64url

def symbol (sextet : Nat) : UInt8 :=
  if sextet < 26 then UInt8.ofNat (sextet + 65)
  else if sextet < 52 then UInt8.ofNat (sextet + 71)
  else if sextet < 62 then UInt8.ofNat (sextet - 4)
  else if sextet = 62 then 45
  else 95

/-- The six bits that a symbol stands for. -/
def sextet? (symbol : UInt8) : Option Nat :=
  let code := symbol.toNat
  if 65 ≤ code ∧ code ≤ 90 then some (code - 65)
  else if 97 ≤ code ∧ code ≤ 122 then some (code - 71)
  else if 48 ≤ code ∧ code ≤ 57 then some (code + 4)
  else if code = 45 then some 62
  else if code = 95 then some 63
  else none

/-- Write octets: every three of them take four symbols. -/
def encode : Octets → Octets
  | [] => []
  | [first] =>
      [symbol (first.toNat / 4), symbol (first.toNat % 4 * 16)]
  | [first, second] =>
      [symbol (first.toNat / 4),
        symbol (first.toNat % 4 * 16 + second.toNat / 16),
        symbol (second.toNat % 16 * 4)]
  | first :: second :: third :: rest =>
      symbol (first.toNat / 4)
        :: symbol (first.toNat % 4 * 16 + second.toNat / 16)
        :: symbol (second.toNat % 16 * 4 + third.toNat / 64)
        :: symbol (third.toNat % 64)
        :: encode rest

/-- Join the sextets of four symbols, or of the last two or three, into
octets. -/
def join : List Nat → Option Octets
  | [] => some []
  | [_] => none
  | [first, second] =>
      if second % 16 = 0 then
        some [UInt8.ofNat (first * 4 + second / 16)]
      else none
  | [first, second, third] =>
      if third % 4 = 0 then
        some [UInt8.ofNat (first * 4 + second / 16),
          UInt8.ofNat (second % 16 * 16 + third / 4)]
      else none
  | first :: second :: third :: fourth :: rest =>
      (join rest).map fun octets =>
        UInt8.ofNat (first * 4 + second / 16)
          :: UInt8.ofNat (second % 16 * 16 + third / 4)
          :: UInt8.ofNat (third % 4 * 64 + fourth)
          :: octets

/-- Read octets back; anything but the written form of some octets fails. -/
def decode (symbols : Octets) : Option Octets :=
  (symbols.mapM sextet?).bind join

end Base64url

end Carpool
