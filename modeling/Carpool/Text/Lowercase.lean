import Carpool.Text.Lowercase.Table

/-!
# Lower-casing

Full Unicode lower-casing.  Every character is replaced by its lower-case
partner; the capital I with a dot becomes two characters, and a capital sigma
at the end of a word becomes the final form.
-/

namespace Carpool

namespace Text

/-- A code point lies in one of the listed closed ranges. -/
def inRanges (ranges : List (Nat × Nat)) (code : Nat) : Bool :=
  ranges.any fun range => range.1 ≤ code && code ≤ range.2

/-- The code point is one of the run. -/
def CaseRun.covers (run : CaseRun) (code : Nat) : Bool :=
  run.first ≤ code && code ≤ run.last && (code - run.first) % run.stride == 0

/-- A letter with case that is not passed over. -/
def isCased (character : Char) : Bool :=
  inRanges casedRanges character.toNat

/-- A character that is passed over when neighbours are looked at. -/
def isCaseIgnorable (character : Char) : Bool :=
  inRanges caseIgnorableRanges character.toNat

/-- The lower-case form of a character on its own. -/
def lowerChar (character : Char) : List Char :=
  if character.toNat = 0x130 then ['i', '\u0307']
  else
    match caseRuns.find? fun run => run.covers character.toNat with
    | some run => [Char.ofNat (character.toNat + run.offset).toNat]
    | none => [character]

/-- Passing over what is passed over, the next character has case. -/
def nextIsCased (characters : List Char) : Bool :=
  match characters.dropWhile isCaseIgnorable with
  | [] => false
  | character :: _ => isCased character

/-- Lower-case a text whose earlier characters are `before`, nearest first.
A capital sigma is final when a letter comes before it and none after. -/
def lowerAfter (before : List Char) : List Char → List Char
  | [] => []
  | character :: rest =>
      let form :=
        if character.toNat = 0x3A3 then
          if nextIsCased before && !nextIsCased rest then ['\u03C2']
          else ['\u03C3']
        else lowerChar character
      form ++ lowerAfter (character :: before) rest

def lowerChars (characters : List Char) : List Char :=
  lowerAfter [] characters

def lower (text : String) : String :=
  String.ofList (lowerChars text.toList)

end Text

end Carpool
