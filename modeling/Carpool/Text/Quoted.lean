import Carpool.Text.Lowercase
import Carpool.Text.Quoted.Table

/-!
# Quoted texts

A text between double quotes, in the form that failure messages use to show a
value they could not read: the quote and the backslash are escaped, and so is
every character that has no shape of its own.
-/

namespace Carpool

namespace Text

/-- A character is shown by its number inside quotes. -/
def isHidden (character : Char) : Bool :=
  inRanges hiddenRanges character.toNat

/-- One character as it stands between the quotes. -/
def quotedChar (character : Char) : List Char :=
  match character with
  | '"' => ['\\', '"']
  | '\\' => ['\\', '\\']
  | '\t' => ['\\', 't']
  | '\r' => ['\\', 'r']
  | '\n' => ['\\', 'n']
  | '\x00' => ['\\', '0']
  | _ =>
      if isHidden character then
        '\\' :: 'u' :: '\x7b' ::
          (Nat.toDigits 16 character.toNat ++ ['\x7d'])
      else [character]

def quoted (text : String) : String :=
  String.ofList ('"' :: (text.toList.flatMap quotedChar ++ ['"']))

end Text

end Carpool
