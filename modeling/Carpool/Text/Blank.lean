/-!
# White space

The characters that separate words in the texts people type, and the two uses
that the service makes of them: cutting the blank ends off a text, and cutting
a text into the words between blanks.
-/

namespace Carpool

namespace Text

def isBlank (character : Char) : Bool :=
  let code := character.toNat
  (9 ≤ code && code ≤ 13) || code == 0x20 || code == 0x85 || code == 0xA0
    || code == 0x1680 || (0x2000 ≤ code && code ≤ 0x200A)
    || code == 0x2028 || code == 0x2029 || code == 0x202F
    || code == 0x205F || code == 0x3000

/-- The characters between the first and the last that are not blank. -/
def trimBlank (characters : List Char) : List Char :=
  ((characters.dropWhile isBlank).reverse.dropWhile isBlank).reverse

def trim (text : String) : String :=
  String.ofList (trimBlank text.toList)

/-- The pieces, some of them empty, into which the blanks cut a text. -/
def cutAtBlanks : List Char → List (List Char)
  | [] => [[]]
  | character :: rest =>
      match cutAtBlanks rest with
      | [] => [[character]]
      | piece :: pieces =>
          if isBlank character then [] :: piece :: pieces
          else (character :: piece) :: pieces

/-- The words of a text: its longest runs of characters that are not blank. -/
def words (characters : List Char) : List (List Char) :=
  (cutAtBlanks characters).filter fun piece => !piece.isEmpty

end Text

end Carpool
