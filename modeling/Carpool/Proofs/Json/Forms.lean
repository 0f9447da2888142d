import Carpool.Json.Form

/-!
# What the forms read

For the forms of texts, whole numbers and lists, the documents from which each
value is read.
-/

namespace Carpool

namespace Json

variable {α : Type}

theorem map_eq_ok {β : Type} {result : Read α} {change : α → β} {value : β} :
    result.map change = .ok value ↔ ∃ old, result = .ok old ∧ change old = value := by
  cases result <;> simp [Except.map]

theorem isOk_iff {result : Read α} : result.isOk = true ↔ ∃ value, result = .ok value := by
  cases result <;> simp [Except.isOk, Except.toBool]

namespace Document

def Spells (document : Document) (text : String) : Prop :=
  ∃ spelling, document = .text spelling ∧ spelling.text? = some text

def IsText (document : Document) : Prop :=
  ∃ text, document.Spells text

def IsTexts (document : Document) : Prop :=
  ∃ items, document = .list items true ∧ ∀ item ∈ items, item.IsText

theorem readText_eq_ok {document : Document} {text : String} :
    document.readText = .ok text ↔ document.Spells text := by
  cases document with
  | text spelling => cases read : spelling.text? <;> simp [readText, Spells, read]
  | _ => simp [readText, Spells]

theorem readInt_eq_ok {document : Document} {least greatest value : Int} :
    document.readInt least greatest = .ok value ↔
      ∃ numeral, document = .number numeral ∧ numeral.int? = some value ∧
        least ≤ value ∧ value ≤ greatest := by
  cases document with
  | number numeral =>
      cases whole : numeral.int? with
      | none => simp [readInt, whole]
      | some read =>
          by_cases bounded : least ≤ read ∧ read ≤ greatest
          · have same : value = read → least ≤ value ∧ value ≤ greatest :=
              fun same => same ▸ bounded
            simp only [readInt, whole, if_pos bounded, Except.ok.injEq, Document.number.injEq,
              Option.some.injEq, exists_eq_left', eq_comm (a := read)]
            exact ⟨fun same' => ⟨same', same same'⟩, And.left⟩
          · simp only [readInt, whole, if_neg bounded, reduceCtorEq, Document.number.injEq,
              Option.some.injEq, exists_eq_left', false_iff]
            rintro ⟨rfl, inside⟩
            exact bounded inside
  | _ => simp [readInt]

end Document

namespace Form

variable {form : Form α} {document : Document}

theorem nullable_read_of_ne_null (given : document ≠ .null) :
    form.nullable.read document = (form.read document).map some := by
  cases document with
  | null => contradiction
  | _ => rfl

theorem nullable_read_eq_ok {value : Option α} :
    form.nullable.read document = .ok value ↔
      document = .null ∧ value = none ∨
        document ≠ .null ∧ ∃ given, form.read document = .ok given ∧ some given = value := by
  by_cases null : document = .null
  · subst null
    simp [nullable, eq_comm]
  · rw [nullable_read_of_ne_null null, map_eq_ok]
    simp [null]

/-- A value can be read from a document. -/
def Reads (form : Form α) (document : Document) : Prop :=
  ∃ value, form.read document = .ok value

theorem nullable_reads : form.nullable.Reads document ↔ document = .null ∨ form.Reads document := by
  by_cases null : document = .null
  · exact ⟨fun _ => .inl null, fun _ => ⟨none, nullable_read_eq_ok.mpr (.inl ⟨null, rfl⟩)⟩⟩
  · rw [or_iff_right null, Reads, Reads, nullable_read_of_ne_null null]
    cases form.read document <;> simp [Except.map]

theorem text_reads : text.Reads document ↔ document.IsText := by
  simp only [Reads, text, Document.IsText, Document.readText_eq_ok]

theorem exists_readItems {whole : Bool} {items : List Document} :
    (∃ values, readItems form whole items = .ok values) ↔
      whole = true ∧ ∀ item ∈ items, form.Reads item := by
  induction items with
  | nil => cases whole <;> simp [readItems]
  | cons item rest ih =>
      rw [List.forall_mem_cons, and_left_comm, ← ih, readItems, Reads]
      cases form.read item with
      | error fault => simp [bind, Except.bind]
      | ok value => cases readItems form whole rest <;> simp [bind, Except.bind, pure, Except.pure]

theorem texts_reads : (list text).Reads document ↔ document.IsTexts := by
  cases document with
  | list items whole =>
      refine exists_readItems.trans ?_
      simp only [text_reads, Document.IsTexts, Document.list.injEq, and_assoc, exists_eq_left']
  | _ => simp [Reads, list, Document.IsTexts]

theorem readName_eq_ok {parse : String → Option α} {spelling : Spelling} {value : α} :
    readName parse spelling = .ok value ↔
      ∃ text, spelling.text? = some text ∧ parse text = some value := by
  rw [readName]
  cases spelling.text? with
  | none => simp
  | some text => cases parsed : parse text <;> simp [parsed]

theorem named_read_record {parse : String → Option α} {print : α → String} {key : Spelling}
    {given : Document} {rest : List Member} {whole : Bool} {value : α} :
    (named parse print).read (.record ((key, given) :: rest) whole) = .ok value ↔
      readName parse key = .ok value ∧ given = .null ∧ rest = [] ∧ whole = true := by
  simp only [named, bind, Except.bind]
  cases readName parse key with
  | error fault => simp
  | ok name =>
      cases given with
      | null => cases whole <;> cases rest <;> simp
      | _ => simp

/-- A named alternative is given by its name, or by a record with null under its
name. -/
theorem named_read_eq_ok {parse : String → Option α} {print : α → String} {value : α} :
    (named parse print).read document = .ok value ↔
      ∃ spelling text, (document = .text spelling ∨ document = .record [(spelling, .null)] true) ∧
        spelling.text? = some text ∧ parse text = some value := by
  cases document with
  | text spelling =>
      refine readName_eq_ok.trans ?_
      simp
  | record members whole =>
      cases members with
      | nil => simp [named]
      | cons member rest =>
          obtain ⟨key, given⟩ := member
          rw [named_read_record, readName_eq_ok]
          constructor
          · rintro ⟨⟨text, spelled, parsed⟩, rfl, rfl, rfl⟩
            exact ⟨key, text, .inr rfl, spelled, parsed⟩
          · rintro ⟨spelling, text, same | same, spelled, parsed⟩
            · cases same
            · cases same
              exact ⟨⟨text, spelled, parsed⟩, rfl, rfl, rfl⟩
  | _ => simp [named]

theorem ofOctets_eq_ok {octets : Octets} {value : α} :
    form.ofOctets octets = .ok value ↔
      (Json.read octets).clean = true ∧ form.read (Json.read octets).document = .ok value := by
  rw [ofOctets]
  cases form.read (Json.read octets).document with
  | error fault => simp [bind, Except.bind]
  | ok given => cases (Json.read octets).clean <;> simp [bind, Except.bind, pure, Except.pure]

end Form

end Json

end Carpool
