import Carpool.Json.Schema

/-!
# Members that nobody asks for

A record is read by the members whose keys its schema names.  All others are
passed over, wherever they stand and whatever they hold.
-/

namespace Carpool

namespace Json

def isNamed (keys : List String) (member : Member) : Bool :=
  member.1.text?.any keys.contains

/-- All keys of some members have a text. -/
def allSpelled (members : List Member) : Bool :=
  members.all fun member => member.1.text?.isSome

namespace Schema

variable {τ σ : Type}

def keys {τ σ : Type} : Schema τ σ → List String
  | .nil => []
  | .cons field rest => field.key :: rest.keys

theorem take?_of_unnamed (schema : Schema τ σ) (slots : σ) {key : String}
    (unnamed : key ∉ schema.keys) (document : Document) :
    schema.take? slots key document = none := by
  induction schema with
  | nil => rfl
  | cons field rest ih =>
      obtain ⟨slot, slots⟩ := slots
      obtain ⟨different, others⟩ : key ≠ field.key ∧ key ∉ rest.keys := by
        simpa [keys] using unnamed
      simp only [take?, if_neg different, ih slots others, Option.map_none]

theorem takeMembers_named (schema : Schema τ σ) (slots : σ) {members : List Member}
    (spelled : allSpelled members = true) :
    schema.takeMembers slots (members.filter (isNamed schema.keys)) =
      schema.takeMembers slots members := by
  induction members generalizing slots with
  | nil => rfl
  | cons member rest ih =>
      obtain ⟨name, document⟩ := member
      rw [allSpelled, List.all_cons, Bool.and_eq_true] at spelled
      obtain ⟨key, text⟩ := Option.isSome_iff_exists.mp spelled.1
      change name.text? = some key at text
      have ih (slots : σ) := ih slots spelled.2
      by_cases named : key ∈ schema.keys
      · have chosen : isNamed schema.keys (name, document) = true := by simp [isNamed, text, named]
        rw [List.filter_cons_of_pos chosen, takeMembers, takeMembers, text]
        simp only [ih]
      · have passed : ¬isNamed schema.keys (name, document) = true := by simp [isNamed, text, named]
        rw [List.filter_cons_of_neg passed, ih, takeMembers, text]
        simp only [schema.take?_of_unnamed slots named document]
        rfl

end Schema

variable {α τ σ : Type} {form : Form α} {keys : List String}

/-- Of a record, only the members with some keys matter to a form. -/
def Form.ReadsOnly (form : Form α) (keys : List String) : Prop :=
  ∀ members whole, allSpelled members = true →
    form.read (.record (members.filter (isNamed keys)) whole) = form.read (.record members whole)

theorem Form.record_readsOnly (schema : Schema τ σ) (make : τ → α) (parts : α → τ) :
    (Form.record schema make parts).ReadsOnly schema.keys := by
  intro members whole spelled
  change (schema.read _).map make = (schema.read _).map make
  rw [Schema.read, Schema.read, schema.takeMembers_named _ spelled]

/-- The texts of two records with the same members of some keys. -/
def SameNamed (keys : List String) (first second : Octets) : Prop :=
  ∃ members others, read first = ⟨.record members true, true⟩ ∧
    read second = ⟨.record others true, true⟩ ∧ allSpelled members = true ∧
    allSpelled others = true ∧ members.filter (isNamed keys) = others.filter (isNamed keys)

theorem SameNamed.ofOctets {first second : Octets} (same : SameNamed keys first second)
    (reads : form.ReadsOnly keys) : form.ofOctets first = form.ofOctets second := by
  obtain ⟨members, others, readFirst, readSecond, spelled, spelledToo, named⟩ := same
  have value : form.read (.record members true) = form.read (.record others true) := by
    rw [← reads members true spelled, ← reads others true spelledToo, named]
  rw [Form.ofOctets, Form.ofOctets, readFirst, readSecond]
  simp only [value]

example :
    SameNamed ["a"] (Octets.ofText "\x7b\"a\":1\x7d")
      (Octets.ofText "\x7b\"b\":[],\"a\":1\x7d") :=
  ⟨_, _, rfl, rfl, rfl, rfl, rfl⟩

end Json

end Carpool
