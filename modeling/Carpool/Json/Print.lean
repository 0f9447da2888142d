import Carpool.Json.Document

/-!
# Printing documents

The compact JSON text of a document, without white space.
-/

namespace Carpool

namespace Json

namespace Document

mutual

def print : Document → Octets
  | .null => [110, 117, 108, 108]
  | .boolean true => [116, 114, 117, 101]
  | .boolean false => [102, 97, 108, 115, 101]
  | .number numeral => numeral.print
  | .text spelling => spelling.print
  | .list items _ => 91 :: (printItems items ++ [93])
  | .record members _ => 123 :: (printMembers members ++ [125])
  | .unreadable => []

def printItems : List Document → Octets
  | [] => []
  | item :: rest => print item ++ printLaterItems rest

/-- The items after the first, each with a comma before it. -/
def printLaterItems : List Document → Octets
  | [] => []
  | item :: rest => 44 :: (print item ++ printLaterItems rest)

def printMembers : List Member → Octets
  | [] => []
  | (key, value) :: rest =>
      key.print ++ 58 :: (print value ++ printLaterMembers rest)

/-- The members after the first, each with a comma before it. -/
def printLaterMembers : List Member → Octets
  | [] => []
  | (key, value) :: rest =>
      44 :: (key.print ++ 58 :: (print value ++ printLaterMembers rest))

end

def ofItems (items : List Document) : Document :=
  .list items true

/-- A whole record, its keys spelled plainly. -/
def ofMembers (members : List (String × Document)) : Document :=
  .record (members.map fun (key, value) => (Spelling.ofText key, value)) true

def ofText (text : String) : Document :=
  .text (Spelling.ofText text)

def ofInt (value : Int) : Document :=
  .number (Numeral.ofInt value)

end Document

end Json

end Carpool
