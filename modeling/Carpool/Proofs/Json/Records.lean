import Carpool.Proofs.Json.Forms
import Carpool.Proofs.Json.Members
import Carpool.Session.Header
import Mathlib.Data.List.Induction
import Mathlib.Data.List.Nodup

/-!
# What a record gives

A record gives some values when each key of the schema comes at most once, with a
document from which the value is read, and when the values that are missing may
be.  The order of the members does not matter, nor do members with other keys.
-/

namespace Carpool

namespace Json

open Session (membersNamed)

variable {α τ σ : Type} {members : List Member} {name : Spelling} {document : Document}

theorem membersNamed_append (members others : List Member) (key : String) :
    membersNamed (members ++ others) key = membersNamed members key ++ membersNamed others key := by
  rw [membersNamed, membersNamed, membersNamed, List.filter_append, List.map_append]

theorem membersNamed_concat (members : List Member) (name : Spelling) (document : Document)
    (key : String) :
    membersNamed (members ++ [(name, document)]) key =
      membersNamed members key ++ if name.text? = some key then [document] else [] := by
  rw [membersNamed_append]
  by_cases named : name.text? = some key
  · simp [membersNamed, named]
  · simp [membersNamed, named]

/-! ## One member -/

/-- What has been met of a field among some members. -/
def Field.Holds (field : Field α) (members : List Member) : Option α → Prop
  | none => membersNamed members field.key = []
  | some value =>
      ∃ document, membersNamed members field.key = [document] ∧
        field.form.read document = .ok value

/-- The value that some members give a field. -/
def Field.Gives (field : Field α) (members : List Member) (value : α) : Prop :=
  field.Holds members (some value) ∨ field.Holds members none ∧ field.missingInRecord = .ok value

theorem Field.holds_nil {field : Field α} {slot : Option α} :
    field.Holds [] slot ↔ slot = none := by
  cases slot <;> simp [Holds, membersNamed]

theorem Field.Holds.unique {field : Field α} {slot other : Option α}
    (holds : field.Holds members slot) (holdsToo : field.Holds members other) : slot = other := by
  cases slot with
  | none => cases other <;> simp_all [Holds]
  | some value =>
      obtain ⟨document, named, read⟩ := holds
      cases other with
      | none => simp_all [Holds]
      | some value =>
          obtain ⟨again, namedToo, readToo⟩ := holdsToo
          obtain rfl : document = again := by simpa [named] using namedToo
          rw [read] at readToo
          rw [Except.ok.inj readToo]

theorem Field.holds_append_other {field : Field α} {slot : Option α}
    (other : name.text? ≠ some field.key) :
    field.Holds (members ++ [(name, document)]) slot ↔ field.Holds members slot := by
  cases slot <;> simp [Holds, membersNamed_concat, other]

/-- A field is met only if it has not been met before. -/
theorem Field.holds_append_same {field : Field α} {slot : Option α}
    (same : name.text? = some field.key) :
    field.Holds (members ++ [(name, document)]) slot ↔
      field.Holds members none ∧ ∃ value, slot = some value ∧
        field.form.read document = .ok value := by
  cases slot with
  | none => simp [Holds, membersNamed_concat, same]
  | some value => simp [Holds, membersNamed_concat, same, List.append_eq_singleton_iff]

/-- The value of a field once the record has ended. -/
def Field.valueOf (field : Field α) : Option α → Read α
  | some value => .ok value
  | none => field.missingInRecord

theorem Field.valueOf_eq_ok (field : Field α) {slot : Option α} (met : field.Holds members slot)
    {value : α} : field.valueOf slot = .ok value ↔ field.Gives members value := by
  cases slot with
  | none =>
      refine ⟨fun missing => .inr ⟨met, missing⟩, fun gives => ?_⟩
      rcases gives with given | ⟨-, missing⟩
      · cases met.unique given
      · exact missing
  | some old =>
      refine ⟨fun same => .inl (Except.ok.inj same ▸ met), fun gives => ?_⟩
      rcases gives with given | ⟨unmet, -⟩
      · rw [valueOf, Option.some.inj (met.unique given)]
      · cases met.unique unmet

/-! ## All members -/

namespace Schema

/-- What has been met of all fields among some members. -/
def Holds {τ σ : Type} : Schema τ σ → List Member → σ → Prop
  | .nil, _, _ => True
  | .cons field rest, members, (slot, slots) =>
      field.Holds members slot ∧ rest.Holds members slots

/-- The values that some members give. -/
def Gives {τ σ : Type} : Schema τ σ → List Member → τ → Prop
  | .nil, _, _ => True
  | .cons field rest, members, (value, values) =>
      field.Gives members value ∧ rest.Gives members values

theorem holds_nil (schema : Schema τ σ) {slots : σ} :
    schema.Holds [] slots ↔ slots = schema.empty := by
  induction schema with
  | nil => exact ⟨fun _ => rfl, fun _ => trivial⟩
  | cons field rest ih =>
      obtain ⟨slot, slots⟩ := slots
      rw [Holds, Field.holds_nil, ih, empty, Prod.mk.injEq]

theorem holds_append_other (schema : Schema τ σ) {slots : σ}
    (other : ∀ key ∈ schema.keys, name.text? ≠ some key) :
    schema.Holds (members ++ [(name, document)]) slots ↔ schema.Holds members slots := by
  induction schema with
  | nil => exact Iff.rfl
  | cons field rest ih =>
      obtain ⟨slot, slots⟩ := slots
      rw [keys, List.forall_mem_cons] at other
      rw [Holds, Holds, Field.holds_append_other other.1, ih other.2]

/-- The slots after one more member; one that nobody asks for changes nothing. -/
def takeMember (schema : Schema τ σ) (slots : σ) (key : String) (document : Document) : Read σ :=
  (schema.take? slots key document).getD (.ok slots)

theorem takeMember_same {field : Field α} {rest : Schema τ σ} {slot : Option α} {slots : σ} :
    (Schema.cons field rest).takeMember (slot, slots) field.key document =
      match slot with
      | some _ => .error .mismatch
      | none => (field.form.read document).map fun value => (some value, slots) := by
  simp only [takeMember, take?, if_true]
  cases slot <;> rfl

theorem takeMember_other {field : Field α} {rest : Schema τ σ} {slot : Option α} {slots : σ}
    {key : String} (other : key ≠ field.key) :
    (Schema.cons field rest).takeMember (slot, slots) key document =
      (rest.takeMember slots key document).map fun slots => (slot, slots) := by
  simp only [takeMember, take?, if_neg other]
  cases rest.take? slots key document <;> rfl

/-- What has been met once there is one more member. -/
theorem holds_append_iff (schema : Schema τ σ) (distinct : schema.keys.Nodup) {key : String}
    (text : name.text? = some key) {after : σ} :
    schema.Holds (members ++ [(name, document)]) after ↔
      ∃ slots, schema.Holds members slots ∧ schema.takeMember slots key document = .ok after := by
  induction schema with
  | nil => exact ⟨fun _ => ⟨(), trivial, rfl⟩, fun _ => trivial⟩
  | cons field rest ih =>
      obtain ⟨new, others⟩ := List.nodup_cons.mp distinct
      obtain ⟨slot, slots⟩ := after
      by_cases same : key = field.key
      · subst same
        have unnamed : ∀ key ∈ rest.keys, name.text? ≠ some key := by
          rintro other member named
          rw [text] at named
          exact new (Option.some.inj named ▸ member)
        rw [Holds, Field.holds_append_same text, rest.holds_append_other unnamed]
        constructor
        · rintro ⟨⟨unmet, value, rfl, read⟩, held⟩
          exact ⟨(none, slots), ⟨unmet, held⟩, by rw [takeMember_same, read]; rfl⟩
        · rintro ⟨⟨_ | met, before⟩, ⟨held, heldRest⟩, taken⟩
          · rw [takeMember_same] at taken
            obtain ⟨value, read, taken⟩ := map_eq_ok.mp taken
            obtain ⟨rfl, rfl⟩ := Prod.mk.inj taken
            exact ⟨⟨held, value, rfl, read⟩, heldRest⟩
          · rw [takeMember_same] at taken
            contradiction
      · have unnamed : name.text? ≠ some field.key := by
          rw [text]
          exact fun named => same (Option.some.inj named)
        rw [Holds, Field.holds_append_other unnamed, ih others]
        constructor
        · rintro ⟨held, before, heldRest, taken⟩
          exact ⟨(slot, before), ⟨held, heldRest⟩, by rw [takeMember_other same, taken]; rfl⟩
        · rintro ⟨⟨met, before⟩, ⟨held, heldRest⟩, taken⟩
          rw [takeMember_other same] at taken
          obtain ⟨later, takenRest, paired⟩ := map_eq_ok.mp taken
          obtain ⟨rfl, rfl⟩ := Prod.mk.inj paired
          exact ⟨held, before, heldRest, takenRest⟩

theorem takeMembers_concat (schema : Schema τ σ) (slots : σ) (members : List Member)
    (name : Spelling) (document : Document) :
    schema.takeMembers slots (members ++ [(name, document)]) =
      (schema.takeMembers slots members).bind fun slots =>
        match name.text? with
        | none => .error .malformed
        | some key => schema.takeMember slots key document := by
  induction members generalizing slots with
  | nil =>
      rw [List.nil_append, takeMembers, takeMembers]
      cases name.text? with
      | none => rfl
      | some key =>
          change (schema.takeMember slots key document >>= fun slots => .ok slots) = _
          cases taken : schema.takeMember slots key document <;> exact taken.symm
  | cons member rest ih =>
      obtain ⟨first, value⟩ := member
      rw [List.cons_append, takeMembers, takeMembers]
      cases first.text? with
      | none => rfl
      | some key =>
          dsimp only
          cases (schema.take? slots key value).getD (.ok slots) with
          | error fault => rfl
          | ok slots => exact ih slots

theorem takeMembers_eq_ok (schema : Schema τ σ) (distinct : schema.keys.Nodup) {slots : σ} :
    schema.takeMembers schema.empty members = .ok slots ↔
      allSpelled members = true ∧ schema.Holds members slots := by
  induction members using List.reverseRecOn generalizing slots with
  | nil =>
      rw [takeMembers, holds_nil, Except.ok.injEq, eq_comm]
      exact (and_iff_right rfl).symm
  | append_singleton members member ih =>
      obtain ⟨name, document⟩ := member
      rw [takeMembers_concat, allSpelled, List.all_append, Bool.and_eq_true]
      cases text : name.text? with
      | none =>
          have faulty : [(name, document)].all (fun member => member.1.text?.isSome) ≠ true := by
            simp [text]
          refine ⟨fun taken => ?_, fun spelled => absurd spelled.1.2 faulty⟩
          cases met : schema.takeMembers schema.empty members <;> rw [met] at taken <;> cases taken
      | some key =>
          have good : [(name, document)].all (fun member => member.1.text?.isSome) = true := by
            simp [text]
          rw [and_iff_left good, schema.holds_append_iff distinct text]
          constructor
          · intro taken
            cases met : schema.takeMembers schema.empty members with
            | error fault =>
                rw [met] at taken
                cases taken
            | ok before =>
                rw [met] at taken
                obtain ⟨spelled, held⟩ := ih.mp met
                exact ⟨spelled, before, held, taken⟩
          · rintro ⟨spelled, before, held, taken⟩
            rw [ih.mpr ⟨spelled, held⟩]
            exact taken

theorem fill_cons (field : Field α) (rest : Schema τ σ) (slot : Option α) (slots : σ) :
    (Schema.cons field rest).fill (slot, slots) =
      (field.valueOf slot).bind fun value =>
        (rest.fill slots).bind fun values => .ok (value, values) := by
  simp only [fill]
  cases slot <;> rfl

theorem fill_eq_ok (schema : Schema τ σ) {slots : σ} (held : schema.Holds members slots)
    {values : τ} : schema.fill slots = .ok values ↔ schema.Gives members values := by
  induction schema with
  | nil => exact ⟨fun _ => trivial, fun _ => rfl⟩
  | cons field rest ih =>
      obtain ⟨slot, slots⟩ := slots
      obtain ⟨value, values⟩ := values
      obtain ⟨met, metRest⟩ := held
      rw [Gives, ← field.valueOf_eq_ok met, ← ih metRest, fill_cons]
      cases field.valueOf slot with
      | error fault => simp [Except.bind]
      | ok first => cases rest.fill slots <;> simp [Except.bind]

theorem exists_holds (schema : Schema τ σ) {values : τ} (gives : schema.Gives members values) :
    ∃ slots, schema.Holds members slots := by
  induction schema with
  | nil => exact ⟨(), trivial⟩
  | cons field rest ih =>
      obtain ⟨value, values⟩ := values
      obtain ⟨first, others⟩ := gives
      obtain ⟨slots, held⟩ := ih others
      rcases first with met | ⟨unmet, -⟩
      · exact ⟨(some value, slots), met, held⟩
      · exact ⟨(none, slots), unmet, held⟩

/-- A whole record is read as the values that its members give. -/
theorem read_record_eq_ok (schema : Schema τ σ) (distinct : schema.keys.Nodup) {values : τ} :
    schema.read (.record members true) = .ok values ↔
      allSpelled members = true ∧ schema.Gives members values := by
  have opened : schema.read (.record members true) =
      (schema.takeMembers schema.empty members).bind schema.fill := rfl
  rw [opened]
  constructor
  · intro read
    cases taken : schema.takeMembers schema.empty members with
    | error fault =>
        rw [taken] at read
        cases read
    | ok slots =>
        rw [taken] at read
        obtain ⟨spelled, held⟩ := (schema.takeMembers_eq_ok distinct).mp taken
        exact ⟨spelled, (schema.fill_eq_ok held).mp read⟩
  · rintro ⟨spelled, gives⟩
    obtain ⟨slots, held⟩ := schema.exists_holds gives
    rw [(schema.takeMembers_eq_ok distinct).mpr ⟨spelled, held⟩]
    exact (schema.fill_eq_ok held).mpr gives

theorem fillFromList_unwhole (schema : Schema τ σ) {items : List Document} {values : τ} :
    schema.fillFromList false items ≠ .ok values := by
  induction schema generalizing items with
  | nil => simp [fillFromList]
  | cons field rest ih =>
      cases items with
      | nil => simp [fillFromList, bind, Except.bind]
      | cons item items =>
          simp only [fillFromList]
          cases field.form.read item with
          | error fault => simp [bind, Except.bind]
          | ok value =>
              cases read : rest.fillFromList false items with
              | error fault => simp [bind, Except.bind]
              | ok others => exact absurd read ih

/-- Values are read only from a document that does not break off. -/
theorem whole_of_read (schema : Schema τ σ) {values : τ}
    (read : schema.read document = .ok values) :
    (∃ members, document = .record members true) ∨ ∃ items, document = .list items true := by
  cases document with
  | record members whole =>
      cases whole with
      | true => exact .inl ⟨members, rfl⟩
      | false =>
          rw [Schema.read] at read
          cases taken : schema.takeMembers schema.empty members <;> rw [taken] at read <;>
            cases read
  | list items whole =>
      cases whole with
      | true => exact .inr ⟨items, rfl⟩
      | false => exact absurd read schema.fillFromList_unwhole
  | _ => cases read

end Schema

theorem Form.record_read_eq_ok {schema : Schema τ σ} {make : τ → α} {parts : α → τ}
    (distinct : schema.keys.Nodup) {value : α} :
    (Form.record schema make parts).read (.record members true) = .ok value ↔
      allSpelled members = true ∧ ∃ values, schema.Gives members values ∧ make values = value := by
  have opened : (Form.record schema make parts).read (.record members true) =
      (schema.read (.record members true)).map make := rfl
  simp only [opened, map_eq_ok, schema.read_record_eq_ok distinct, exists_and_left, and_assoc]

theorem Form.record_whole_of_read {schema : Schema τ σ} {make : τ → α} {parts : α → τ} {value : α}
    (read : (Form.record schema make parts).read document = .ok value) :
    (∃ members, document = .record members true) ∨ ∃ items, document = .list items true := by
  obtain ⟨values, read, -⟩ := map_eq_ok.mp read
  exact schema.whole_of_read read

/-! ## Members of a kind -/

/-- A key that comes once, with a document of a kind. -/
def MustHave (members : List Member) (key : String) (kind : Document → Prop) : Prop :=
  ∃ document, membersNamed members key = [document] ∧ kind document

/-- A key that comes at most once, with a document of a kind. -/
def MayHave (members : List Member) (key : String) (kind : Document → Prop) : Prop :=
  membersNamed members key = [] ∨ MustHave members key kind

namespace Schema

/-- Some values can be read from a record with these members. -/
def Fits (schema : Schema τ σ) (members : List Member) : Prop :=
  ∃ values, schema.Gives members values

/-- Some values can be read from a list of these items. -/
def FitsList (schema : Schema τ σ) (items : List Document) : Prop :=
  ∃ values, schema.fillFromList true items = .ok values

theorem record_reads {schema : Schema τ σ} {make : τ → α} {parts : α → τ}
    (distinct : schema.keys.Nodup) :
    (Form.record schema make parts).Reads (.record members true) ↔
      allSpelled members = true ∧ schema.Fits members := by
  simp only [Form.Reads, Form.record_read_eq_ok distinct, Fits]
  constructor
  · rintro ⟨_, spelled, values, gives, rfl⟩
    exact ⟨spelled, values, gives⟩
  · rintro ⟨spelled, values, gives⟩
    exact ⟨_, spelled, values, gives, rfl⟩

theorem list_reads {schema : Schema τ σ} {make : τ → α} {parts : α → τ} {items : List Document} :
    (Form.record schema make parts).Reads (.list items true) ↔ schema.FitsList items := by
  constructor
  · rintro ⟨_, read⟩
    obtain ⟨values, filled, -⟩ := map_eq_ok.mp read
    exact ⟨values, filled⟩
  · rintro ⟨values, filled⟩
    exact ⟨make values, map_eq_ok.mpr ⟨values, filled, rfl⟩⟩

theorem fits_nil : Schema.nil.Fits members ↔ True :=
  iff_true_intro ⟨(), trivial⟩

theorem fits_cons {field : Field α} {rest : Schema τ σ} :
    (Schema.cons field rest).Fits members ↔
      (∃ value, field.Gives members value) ∧ rest.Fits members := by
  constructor
  · rintro ⟨⟨value, values⟩, first, others⟩
    exact ⟨⟨value, first⟩, values, others⟩
  · rintro ⟨⟨value, first⟩, values, others⟩
    exact ⟨(value, values), first, others⟩

theorem fits_required {key : String} {form : Form α} {rest : Schema τ σ} :
    (Schema.required key form rest).Fits members ↔
      MustHave members key form.Reads ∧ rest.Fits members := by
  refine fits_cons.trans (and_congr_left fun _ => ?_)
  constructor
  · rintro ⟨value, ⟨document, named, read⟩ | ⟨-, missing⟩⟩
    · exact ⟨document, named, value, read⟩
    · cases missing
  · rintro ⟨document, named, value, read⟩
    exact ⟨value, .inl ⟨document, named, read⟩⟩

theorem fits_optional {key : String} {form : Form α} {rest : Schema τ σ} :
    (Schema.optional key form rest).Fits members ↔
      MayHave members key form.nullable.Reads ∧ rest.Fits members := by
  refine fits_cons.trans (and_congr_left fun _ => ?_)
  constructor
  · rintro ⟨value, ⟨document, named, read⟩ | ⟨unnamed, -⟩⟩
    · exact .inr ⟨document, named, value, read⟩
    · exact .inl unnamed
  · rintro (unnamed | ⟨document, named, value, read⟩)
    · exact ⟨none, .inr ⟨unnamed, rfl⟩⟩
    · exact ⟨value, .inl ⟨document, named, read⟩⟩

theorem fitsList_nil {items : List Document} : Schema.nil.FitsList items ↔ items = [] := by
  cases items <;> simp [FitsList, fillFromList]

theorem fillFromList_cons {field : Field α} {rest : Schema τ σ} {item : Document}
    {items : List Document} {value : α} {values : τ} :
    (Schema.cons field rest).fillFromList true (item :: items) = .ok (value, values) ↔
      field.form.read item = .ok value ∧ rest.fillFromList true items = .ok values := by
  simp only [fillFromList]
  cases field.form.read item with
  | error fault => simp [bind, Except.bind]
  | ok given => cases rest.fillFromList true items <;> simp [bind, Except.bind, pure, Except.pure]

/-- A list gives every value, in order. -/
theorem fitsList_cons {field : Field α} {rest : Schema τ σ} {items : List Document}
    (needed : field.missingInList = .error .mismatch) :
    (Schema.cons field rest).FitsList items ↔
      ∃ item others, field.form.Reads item ∧ rest.FitsList others ∧ items = item :: others := by
  cases items with
  | nil => simp [FitsList, fillFromList, needed, bind, Except.bind]
  | cons item others =>
      constructor
      · rintro ⟨⟨value, values⟩, read⟩
        obtain ⟨first, more⟩ := fillFromList_cons.mp read
        exact ⟨item, others, ⟨value, first⟩, ⟨values, more⟩, rfl⟩
      · rintro ⟨_, _, ⟨value, first⟩, ⟨values, more⟩, same⟩
        obtain ⟨rfl, rfl⟩ := List.cons.inj same
        exact ⟨(value, values), fillFromList_cons.mpr ⟨first, more⟩⟩

theorem fitsList_required {key : String} {form : Form α} {rest : Schema τ σ}
    {items : List Document} :
    (Schema.required key form rest).FitsList items ↔
      ∃ item others, form.Reads item ∧ rest.FitsList others ∧ items = item :: others :=
  fitsList_cons rfl

theorem fitsList_optional {key : String} {form : Form α} {rest : Schema τ σ}
    {items : List Document} :
    (Schema.optional key form rest).FitsList items ↔
      ∃ item others, form.nullable.Reads item ∧ rest.FitsList others ∧ items = item :: others :=
  fitsList_cons rfl

end Schema

end Json

end Carpool
