import Carpool.Json.Form

/-!
# Records

The form of a value that is written as a record.  A schema lists the members in
order, each with its key, its form, and what is done when it is missing.

A record is read member by member.  Members with other keys are passed over; a
key that comes twice is a fault, and so is a member that is missing at the end.
A list is read as the values of the members in order.
-/

namespace Carpool

namespace Json

/-- What is done about a member that is missing. -/
inductive Absence (α : Type)
  /-- It must be there. -/
  | required
  /-- A record may lack it, a list may not. -/
  | optional (missing : α)
  /-- A record or a list may lack it. -/
  | defaulted (missing : α)
  /-- As before; it is not even written when the test says so. -/
  | silent (missing : α) (isMissing : α → Bool)

/-- A member of a record: its key, its form, and whether it may be missing. -/
structure Field (α : Type) where
  key : String
  form : Form α
  absence : Absence α

/-- The value that stands in for a member that a record lacks. -/
def Field.missingInRecord {α : Type} (field : Field α) : Read α :=
  match field.absence with
  | .required => .error .mismatch
  | .optional missing | .defaulted missing | .silent missing _ => .ok missing

/-- The value that stands in for a member that a list lacks. -/
def Field.missingInList {α : Type} (field : Field α) : Read α :=
  match field.absence with
  | .required | .optional _ => .error .mismatch
  | .defaulted missing | .silent missing _ => .ok missing

/-- The member as it is written, if it is. -/
def Field.writeMember {α : Type} (field : Field α) (value : α) :
    List (String × Document) :=
  match field.absence with
  | .silent _ isMissing =>
      if isMissing value then [] else [(field.key, field.form.write value)]
  | _ => [(field.key, field.form.write value)]

/-- The members of a record, in order.  The first type is that of all their
values together, the second that of the values met so far. -/
inductive Schema : Type → Type → Type 1
  | nil : Schema Unit Unit
  | cons {α τ σ : Type} (field : Field α) (rest : Schema τ σ) :
      Schema (α × τ) (Option α × σ)

namespace Schema

/-- No value has been met. -/
def empty {τ σ : Type} : Schema τ σ → σ
  | .nil => ()
  | .cons _ rest => (none, rest.empty)

/-- Take a member of a record.  The result is nothing for an unknown key. -/
def take? {τ σ : Type} :
    Schema τ σ → σ → (key : String) → Document → Option (Read σ)
  | .nil, _, _, _ => none
  | .cons field rest, (slot, slots), key, document =>
      if key = field.key then
        match slot with
        | some _ => some (.error .mismatch)
        | none =>
            some ((field.form.read document).map fun value =>
              (some value, slots))
      else
        (rest.take? slots key document).map fun result =>
          result.map fun slots => (slot, slots)

/-- Take the members of a record one after the other. -/
def takeMembers {τ σ : Type} (schema : Schema τ σ) :
    σ → List Member → Read σ
  | slots, [] => .ok slots
  | slots, (key, document) :: rest =>
      match key.text? with
      | none => .error .malformed
      | some key => do
          let slots ← (schema.take? slots key document).getD (.ok slots)
          schema.takeMembers slots rest

/-- The values of all members, once the record has ended. -/
def fill {τ σ : Type} : Schema τ σ → σ → Read τ
  | .nil, _ => .ok ()
  | .cons field rest, (slot, slots) => do
      let value ←
        match slot with
        | some value => .ok value
        | none => field.missingInRecord
      let values ← rest.fill slots
      return (value, values)

/-- The values of all members, given as a list. -/
def fillFromList {τ σ : Type} (whole : Bool) :
    Schema τ σ → List Document → Read τ
  | .nil, items => if whole && items.isEmpty then .ok () else .error .malformed
  | .cons field rest, [] => do
      let value ← if whole then field.missingInList else .error .malformed
      let values ← rest.fillFromList whole []
      return (value, values)
  | .cons field rest, item :: items => do
      let value ← field.form.read item
      let values ← rest.fillFromList whole items
      return (value, values)

def read {τ σ : Type} (schema : Schema τ σ) : Document → Read τ
  | .record members whole => do
      let slots ← schema.takeMembers schema.empty members
      if whole then schema.fill slots else .error .malformed
  | .list items whole => schema.fillFromList whole items
  | document => .error document.wrongKind

/-- The members of a record with the given values. -/
def members {τ σ : Type} : Schema τ σ → τ → List (String × Document)
  | .nil, _ => []
  | .cons field rest, (value, values) =>
      field.writeMember value ++ rest.members values

end Schema

/-- The form of a value that is made of the values of a schema. -/
def Form.record {α τ σ : Type} (schema : Schema τ σ) (make : τ → α)
    (parts : α → τ) : Form α where
  read document := (schema.read document).map make
  write value := Document.ofMembers (schema.members (parts value))

/-- A member that must be there. -/
def Schema.required {α τ σ : Type} (key : String) (form : Form α)
    (rest : Schema τ σ) : Schema (α × τ) (Option α × σ) :=
  .cons ⟨key, form, .required⟩ rest

/-- A member that is null or missing when it has no value. -/
def Schema.optional {α τ σ : Type} (key : String) (form : Form α)
    (rest : Schema τ σ) :
    Schema (Option α × τ) (Option (Option α) × σ) :=
  .cons ⟨key, form.nullable, .optional none⟩ rest

/-- A member that has a value of its own when it is missing. -/
def Schema.defaulted {α τ σ : Type} (key : String) (form : Form α)
    (missing : α) (rest : Schema τ σ) :
    Schema (α × τ) (Option α × σ) :=
  .cons ⟨key, form, .defaulted missing⟩ rest

/-- A member that is left out when it has no value. -/
def Schema.silent {α τ σ : Type} (key : String) (form : Form α)
    (rest : Schema τ σ) :
    Schema (Option α × τ) (Option (Option α) × σ) :=
  .cons ⟨key, form.nullable, .silent none Option.isNone⟩ rest

end Json

end Carpool
