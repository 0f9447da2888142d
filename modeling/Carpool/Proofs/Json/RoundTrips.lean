import Carpool.Proofs.Json.Printing
import Carpool.Proofs.Json.Records

/-!
# Written values read back

A form keeps a value when the value is read back from the text that is written
for it.  Texts and whole numbers are kept, and records whose members are.
-/

namespace Carpool

namespace Json

open Session (membersNamed)

variable {α τ σ : Type}

/-- The value is read back from the document that is written for it. -/
structure Form.Keeps (form : Form α) (value : α) : Prop where
  whole : (form.write value).isWhole = true
  read : form.read (form.write value).asRead = .ok value

theorem Form.Keeps.ofOctets {form : Form α} {value : α} (keeps : form.Keeps value) :
    form.ofOctets (form.toOctets value) = .ok value := by
  rw [Form.ofOctets_eq_ok, Form.toOctets, read_print keeps.whole]
  exact ⟨rfl, keeps.read⟩

theorem Form.text_keeps (text : String) : Form.text.Keeps text where
  whole := rfl
  read := by
    refine Document.readText_eq_ok.mpr ⟨(Spelling.ofText text).asRead, rfl, ?_⟩
    rw [Spelling.text?_asRead, Spelling.text?_ofText]

theorem int?_ofInt (value : Int) : (Numeral.ofInt value).int? = some value := by
  by_cases negative : value < 0
  · have whole : value.natAbs ≠ 0 := by omega
    simp only [Numeral.int?, Numeral.ofInt, decide_eq_true negative, if_true, if_neg whole]
    congr 1
    omega
  · simp only [Numeral.int?, Numeral.ofInt, decide_eq_false negative, Bool.false_eq_true, if_false]
    congr 1
    omega

theorem Form.int_keeps {least greatest value : Int} (bounded : least ≤ value ∧ value ≤ greatest) :
    (Form.int least greatest).Keeps value where
  whole := rfl
  read := Document.readInt_eq_ok.mpr ⟨_, rfl, int?_ofInt value, bounded⟩

theorem Form.nullable_keeps_none (form : Form α) : form.nullable.Keeps none :=
  ⟨rfl, rfl⟩

theorem Form.Keeps.nullable {form : Form α} {value : α} (keeps : form.Keeps value)
    (given : (form.write value).asRead ≠ .null) : form.nullable.Keeps (some value) where
  whole := keeps.whole
  read := Form.nullable_read_eq_ok.mpr (.inr ⟨given, value, keeps.read, rfl⟩)

theorem Form.nullable_text_keeps (text : Option String) : Form.text.nullable.Keeps text := by
  cases text with
  | none => exact Form.nullable_keeps_none _
  | some text => exact (Form.text_keeps text).nullable nofun

theorem Form.word32_keeps (value : UInt32) : Form.word32.Keeps value where
  whole := rfl
  read := by
    have bound := value.toNat_lt
    have bounded : (0 : Int) ≤ value.toNat ∧ (value.toNat : Int) ≤ 0xFFFFFFFF := by omega
    have kept := (Form.int_keeps bounded).read
    have back : UInt32.ofNat (value.toNat : Int).toNat = value := by simp
    exact map_eq_ok.mpr ⟨_, kept, back⟩

theorem Form.spelled_keeps {parse : String → Option α} {print : α → String} {value : α}
    (parsed : parse (print value) = some value) : (Form.spelled parse print).Keeps value where
  whole := rfl
  read := by
    have kept : Document.readText (Document.ofText (print value)).asRead = .ok (print value) :=
      (Form.text_keeps (print value)).read
    simp only [Form.spelled, kept, bind, Except.bind, parsed]

theorem Form.named_keeps {parse : String → Option α} {print : α → String} {value : α}
    (parsed : parse (print value) = some value) : (Form.named parse print).Keeps value where
  whole := rfl
  read := Form.named_read_eq_ok.mpr ⟨(Spelling.ofText (print value)).asRead, print value, .inl rfl,
    by rw [Spelling.text?_asRead, Spelling.text?_ofText], parsed⟩

/-! ## Records -/

/-- Members as they are written and read back. -/
def readBack (members : List (String × Document)) : List Member :=
  members.map fun (key, value) => ((Spelling.ofText key).asRead, value.asRead)

theorem asRead_ofMembers (members : List (String × Document)) :
    (Document.ofMembers members).asRead = .record (readBack members) true := by
  rw [Document.ofMembers, Document.asRead]
  congr 1
  induction members with
  | nil => rfl
  | cons member rest ih =>
      rw [List.map_cons, Document.membersAsRead, ih]
      rfl

theorem isWhole_ofMembers {members : List (String × Document)}
    (whole : ∀ member ∈ members, member.2.isWhole = true) :
    (Document.ofMembers members).isWhole = true := by
  rw [Document.ofMembers, Document.isWhole, Bool.true_and]
  induction members with
  | nil => rfl
  | cons member rest ih =>
      rw [List.forall_mem_cons] at whole
      rw [List.map_cons, Document.haveWhole, whole.1, ih whole.2]
      rfl

theorem text?_ofText_asRead (key : String) : (Spelling.ofText key).asRead.text? = some key := by
  rw [Spelling.text?_asRead, Spelling.text?_ofText]

theorem allSpelled_readBack (members : List (String × Document)) :
    allSpelled (readBack members) = true := by
  rw [allSpelled, readBack, List.all_map, List.all_eq_true]
  intro member _
  exact Option.isSome_iff_exists.mpr ⟨member.1, text?_ofText_asRead member.1⟩

theorem membersNamed_readBack_cons (name : String) (document : Document)
    (rest : List (String × Document)) (key : String) :
    membersNamed (readBack ((name, document) :: rest)) key =
      (if name = key then [document.asRead] else []) ++ membersNamed (readBack rest) key := by
  simp only [membersNamed, readBack, List.map_cons]
  by_cases named : name = key
  · rw [List.filter_cons_of_pos (by simp [text?_ofText_asRead, named]), if_pos named]
    rfl
  · rw [List.filter_cons_of_neg (by simp [text?_ofText_asRead, named]), if_neg named]
    rfl

theorem Field.writeMember_eq (field : Field α) (value : α) :
    field.writeMember value = [(field.key, field.form.write value)] ∨
      field.writeMember value = [] := by
  obtain ⟨key, form, absence⟩ := field
  cases absence with
  | silent missing isMissing => cases left : isMissing value <;> simp [writeMember, left]
  | _ => exact .inl rfl

/-- A member is written and its value kept, or it is left out and stood in for. -/
def Field.Keeps (field : Field α) (value : α) : Prop :=
  field.writeMember value = [(field.key, field.form.write value)] ∧ field.form.Keeps value ∨
    field.writeMember value = [] ∧ field.missingInRecord = .ok value

theorem Field.Keeps.required {key : String} {form : Form α} {value : α}
    (keeps : form.Keeps value) : Field.Keeps ⟨key, form, .required⟩ value :=
  .inl ⟨rfl, keeps⟩

theorem Field.Keeps.optional {key : String} {form : Form α} {value : Option α}
    (keeps : form.nullable.Keeps value) :
    Field.Keeps ⟨key, form.nullable, .optional none⟩ value :=
  .inl ⟨rfl, keeps⟩

theorem Field.Keeps.silent {key : String} {form : Form α} {value : Option α}
    (keeps : form.nullable.Keeps value) :
    Field.Keeps ⟨key, form.nullable, .silent none Option.isNone⟩ value := by
  cases value with
  | none => exact .inr ⟨rfl, rfl⟩
  | some given => exact .inl ⟨rfl, keeps⟩

namespace Schema

/-- All values are kept. -/
def Keeps {τ σ : Type} : Schema τ σ → τ → Prop
  | .nil, _ => True
  | .cons field rest, (value, values) => field.Keeps value ∧ rest.Keeps values

theorem members_whole {schema : Schema τ σ} {values : τ} (keeps : schema.Keeps values) :
    ∀ member ∈ schema.members values, member.2.isWhole = true := by
  induction schema with
  | nil => simp [members]
  | cons field rest ih =>
      obtain ⟨value, values⟩ := values
      obtain ⟨first, others⟩ := keeps
      rw [members]
      rcases first with ⟨written, keeps⟩ | ⟨unwritten, -⟩
      · rw [written, List.singleton_append, List.forall_mem_cons]
        exact ⟨keeps.whole, ih others⟩
      · rw [unwritten, List.nil_append]
        exact ih others

/-- Only members with the keys of the schema are written. -/
theorem members_unnamed (schema : Schema τ σ) (values : τ) {key : String}
    (unnamed : key ∉ schema.keys) :
    membersNamed (readBack (schema.members values)) key = [] := by
  induction schema with
  | nil => rfl
  | cons field rest ih =>
      obtain ⟨value, values⟩ := values
      rw [keys, List.mem_cons, not_or] at unnamed
      rw [members]
      rcases field.writeMember_eq value with written | unwritten
      · rw [written, List.singleton_append, membersNamed_readBack_cons, ih values unnamed.2,
          if_neg (Ne.symm unnamed.1)]
        rfl
      · rw [unwritten, List.nil_append]
        exact ih values unnamed.2

theorem gives_cons_other {schema : Schema τ σ} {values : τ} {key : String} {document : Document}
    {written : List (String × Document)} (unnamed : key ∉ schema.keys)
    (gives : schema.Gives (readBack written) values) :
    schema.Gives (readBack ((key, document) :: written)) values := by
  induction schema with
  | nil => trivial
  | cons field rest ih =>
      obtain ⟨value, values⟩ := values
      obtain ⟨first, others⟩ := gives
      rw [keys, List.mem_cons, not_or] at unnamed
      refine ⟨?_, ih unnamed.2 others⟩
      simpa only [Field.Gives, Field.Holds, membersNamed_readBack_cons, if_neg unnamed.1,
        List.nil_append] using first

/-- A record that is written for some values gives them back. -/
theorem gives_members {schema : Schema τ σ} {values : τ} (distinct : schema.keys.Nodup)
    (keeps : schema.Keeps values) : schema.Gives (readBack (schema.members values)) values := by
  induction schema with
  | nil => trivial
  | cons field rest ih =>
      obtain ⟨value, values⟩ := values
      obtain ⟨first, others⟩ := keeps
      obtain ⟨new, distinct⟩ := List.nodup_cons.mp distinct
      have unnamed := rest.members_unnamed values new
      rw [members]
      rcases first with ⟨written, keeps⟩ | ⟨unwritten, missing⟩
      · rw [written, List.singleton_append]
        refine ⟨.inl ⟨_, ?_, keeps.read⟩, gives_cons_other new (ih distinct others)⟩
        rw [membersNamed_readBack_cons, if_pos rfl, unnamed]
        rfl
      · rw [unwritten, List.nil_append]
        exact ⟨.inr ⟨unnamed, missing⟩, ih distinct others⟩

end Schema

theorem Form.record_write_asRead (schema : Schema τ σ) (make : τ → α) (parts : α → τ) (value : α) :
    ((Form.record schema make parts).write value).asRead =
      .record (readBack (schema.members (parts value))) true :=
  asRead_ofMembers (schema.members (parts value))

theorem Form.record_keeps {schema : Schema τ σ} {make : τ → α} {parts : α → τ} {value : α}
    (distinct : schema.keys.Nodup) (made : make (parts value) = value)
    (keeps : schema.Keeps (parts value)) : (Form.record schema make parts).Keeps value where
  whole := isWhole_ofMembers (Schema.members_whole keeps)
  read := by
    rw [Form.record_write_asRead, Form.record_read_eq_ok distinct]
    exact ⟨allSpelled_readBack _, parts value, Schema.gives_members distinct keeps, made⟩

end Json

end Carpool
