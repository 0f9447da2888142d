import Carpool.Json.Print
import Carpool.Number.Shortest

/-!
# Forms of values

How values are written as documents and read back.  Reading fails at the first
fault of the document: the text is malformed there, or it is well formed but
does not fit the value that is wanted.
-/

namespace Carpool

namespace Json

/-- Why a document is not the value that is wanted. -/
inductive Fault
  /-- The text is no JSON text. -/
  | malformed
  /-- The text is JSON, but not of the wanted form. -/
  | mismatch
  deriving DecidableEq

/-- The result of reading a value. -/
abbrev Read (α : Type) := Except Fault α

/-- A way of writing values as documents and reading them back. -/
structure Form (α : Type) where
  read : Document → Read α
  write : α → Document

/-- The fault of a document of another kind than the wanted one.  Strings and
numbers are read before their kind is looked at. -/
def Document.wrongKind : Document → Fault
  | .unreadable => .malformed
  | .number numeral =>
      match numeral.double? with
      | some _ => .mismatch
      | none => .malformed
  | .text spelling =>
      match spelling.text? with
      | some _ => .mismatch
      | none => .malformed
  | _ => .mismatch

/-- The text of a document that is one. -/
def Document.readText : Document → Read String
  | .text spelling =>
      match spelling.text? with
      | some value => .ok value
      | none => .error .malformed
  | document => .error document.wrongKind

def Document.readDouble : Document → Read Binary64
  | .number numeral =>
      match numeral.double? with
      | some value => .ok value
      | none => .error .malformed
  | document => .error document.wrongKind

/-- The whole number, within bounds, of a document that is one. -/
def Document.readInt (least greatest : Int) : Document → Read Int
  | .number numeral =>
      match numeral.int? with
      | some value =>
          if least ≤ value ∧ value ≤ greatest then .ok value
          else .error (Document.number numeral).wrongKind
      | none => .error (Document.number numeral).wrongKind
  | document => .error document.wrongKind

namespace Form

def text : Form String where
  read := Document.readText
  write := Document.ofText

def boolean : Form Bool where
  read
    | .boolean value => .ok value
    | document => .error document.wrongKind
  write := .boolean

/-- Doubles.  One that is not finite is written as null. -/
def double : Form Binary64 where
  read := Document.readDouble
  write value := if value.isFinite then .number value.numeral else .null

def int (least greatest : Int) : Form Int where
  read := Document.readInt least greatest
  write := Document.ofInt

def nat (greatest : Nat) : Form Nat where
  read document := (Document.readInt 0 greatest document).map Int.toNat
  write value := Document.ofInt value

def word32 : Form UInt32 where
  read document :=
    (Document.readInt 0 0xFFFFFFFF document).map fun value =>
      UInt32.ofNat value.toNat
  write value := Document.ofInt value.toNat

/-- Values that have a text. -/
def spelled {α : Type} (parse : String → Option α) (print : α → String) :
    Form α where
  read document := do
    let text ← document.readText
    match parse text with
    | some value => .ok value
    | none => .error .mismatch
  write value := Document.ofText (print value)

def readName {α : Type} (parse : String → Option α) (spelling : Spelling) :
    Read α :=
  match spelling.text? with
  | none => .error .malformed
  | some text =>
      match parse text with
      | some value => .ok value
      | none => .error .mismatch

/-- Named alternatives: a name alone, or a record with the name as its only key
and null as the value. -/
def named {α : Type} (parse : String → Option α) (print : α → String) :
    Form α where
  read
    | .text spelling => readName parse spelling
    | .record ((key, value) :: rest) whole => do
        let name ← readName parse key
        match value with
        | .null =>
            if whole && rest.isEmpty then .ok name else .error .malformed
        | _ => .error value.wrongKind
    | _ => .error .malformed
  write value := Document.ofText (print value)

def nullable {α : Type} (form : Form α) : Form (Option α) where
  read
    | .null => .ok none
    | document => (form.read document).map some
  write
    | none => .null
    | some value => form.write value

def readItems {α : Type} (form : Form α) (whole : Bool) :
    List Document → Read (List α)
  | [] => if whole then .ok [] else .error .malformed
  | item :: rest => do
      let value ← form.read item
      let values ← readItems form whole rest
      return value :: values

def list {α : Type} (form : Form α) : Form (List α) where
  read
    | .list items whole => readItems form whole items
    | document => .error document.wrongKind
  write values := Document.ofItems (values.map form.write)

/-- Read a value from a text that must hold nothing else. -/
def ofOctets {α : Type} (form : Form α) (octets : Octets) : Read α := do
  let reading := Json.read octets
  let value ← form.read reading.document
  if reading.clean then return value else .error .malformed

def toOctets {α : Type} (form : Form α) (value : α) : Octets :=
  (form.write value).print

end Form

end Json

end Carpool
