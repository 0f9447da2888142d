import Carpool.Json.Print

/-!
# Looking into documents

Finding the members of a record and the items of a list, and changing all
values of a document in place.
-/

namespace Carpool

namespace Json

namespace Document

/-- The text of a document that is one. -/
def textValue? : Document → Option String
  | .text spelling => spelling.text?
  | _ => none

/-- The first member of a record with a key. -/
def member? (document : Document) (key : String) : Option Document :=
  match document with
  | .record members _ =>
      (members.find? fun member => member.1.text? == some key).map Prod.snd
  | _ => none

def textAt? (document : Document) (key : String) : Option String :=
  (document.member? key).bind textValue?

def items : Document → List Document
  | .list items _ => items
  | _ => []

def members : Document → List Member
  | .record members _ => members
  | _ => []

/-- A record with more members at its end. -/
def extend (document : Document) (more : List (String × Document)) :
    Document :=
  .record (document.members
    ++ more.map fun (key, value) => (Spelling.ofText key, value)) true

mutual

/-- Change every value of a document, those inside lists and records first.  The
change is told the key of a value in its record. -/
def mapValues (change : Option String → Document → Document)
    (key : Option String) : Document → Document
  | .list items whole => change key (.list (mapItems change items) whole)
  | .record members whole =>
      change key (.record (mapMembers change members) whole)
  | document => change key document

/-- Change every value in the items of a list. -/
def mapItems (change : Option String → Document → Document) :
    List Document → List Document
  | [] => []
  | item :: rest => mapValues change none item :: mapItems change rest

/-- Change every value in the members of a record. -/
def mapMembers (change : Option String → Document → Document) :
    List Member → List Member
  | [] => []
  | (key, value) :: rest =>
      (key, mapValues change key.text? value) :: mapMembers change rest

end

end Document

end Json

end Carpool
