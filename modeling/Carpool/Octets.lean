/-!
# Octets

Texts travel as sequences of octets, in UTF-8.  A text always has its octets;
octets need not be those of a text.
-/

namespace Carpool

abbrev Octets := List UInt8

namespace Octets

def ofText (text : String) : Octets :=
  text.toUTF8.data.toList

/-- The text that has these octets, if there is one. -/
def text? (octets : Octets) : Option String :=
  String.fromUTF8? ⟨octets.toArray⟩

/-- The octet of a character of the ASCII range. -/
def ofAscii (character : Char) : UInt8 :=
  UInt8.ofNat character.toNat

end Octets

end Carpool
