import Carpool.Proofs.Json.Grammar
import Carpool.Proofs.Json.RoundTrips

/-!
# Rewordings

A record says the same whatever the order of its members and the white space
between its tokens, and also when members are added that nobody asks for and
members are dropped that are null.
-/

namespace Carpool

namespace Json

open Session (membersNamed)

/-! ## Texts of records -/

/-- The octets are the text of a record with the given members. -/
inductive RecordText (members : List MemberText) : Octets → Prop
  | intro {before body after : Octets} : Blank before → Blank after →
      (∀ member ∈ members, ∃ spelling, member.HasKey spelling) →
      (∀ member ∈ members, IsValue member.value) →
      Listed (members.map MemberText.text) body →
      RecordText members (before ++ (123 :: (body ++ [125]) ++ after))

/-- The members that are read from the text of a record. -/
def membersOf (members : List MemberText) : List Member :=
  (members.map MemberText.said).map memberOf

theorem RecordText.read {members : List MemberText} {octets : Octets}
    (text : RecordText members octets) :
    read octets = ⟨.record (membersOf members) true, true⟩ := by
  obtain ⟨blankBefore, blankAfter, keyed, values, listed⟩ := text
  have inner := hasText_record listed keyed fun member listed => (values member listed).hasText
  exact (inner.blank blankBefore blankAfter).read

/-- A member under a key that is none of the given ones. -/
def Foreign (keys : List String) (said : Octets × Octets) : Prop :=
  ∃ key, (memberOf said).1.text? = some key ∧ key ∉ keys

/-- The second record text has the members of the first, but for some that are
null, and members under other keys besides.  Their order is free, and so is the
white space. -/
inductive Rewording (keys : List String) (original reworded : Octets) : Prop
  | intro {given arranged : List MemberText} {kept dropped added : List (Octets × Octets)} :
      RecordText given original → RecordText arranged reworded →
      (given.map MemberText.said).Perm (kept ++ dropped) →
      (∀ said ∈ dropped, said.2 = [110, 117, 108, 108]) →
      (arranged.map MemberText.said).Perm (kept ++ added) →
      (∀ said ∈ added, Foreign keys said) → Rewording keys original reworded

/-! ## What a reworded record gives -/

variable {α τ σ : Type} {members others kept dropped added : List Member}

theorem membersNamed_perm (perm : members.Perm others) (key : String) :
    (membersNamed members key).Perm (membersNamed others key) :=
  (perm.filter _).map _

/-- Null may stand for a missing member, and for nothing else. -/
def Field.NullIsMissing (field : Field α) : Prop :=
  ∀ value, field.form.read .null = .ok value → field.missingInRecord = .ok value

theorem Field.Gives.reworded {field : Field α} {value : α} (gives : field.Gives members value)
    (before : members.Perm (kept ++ dropped)) (after : others.Perm (kept ++ added))
    (null : ∀ member ∈ dropped, member.2 = .null) (foreign : membersNamed added field.key = [])
    (lenient : field.NullIsMissing) : field.Gives others value := by
  have given := membersNamed_perm before field.key
  have left := membersNamed_perm after field.key
  rw [membersNamed_append] at given left
  rw [foreign, List.append_nil] at left
  rcases gives with ⟨document, named, read⟩ | ⟨unnamed, missing⟩
  · rw [named] at given
    rcases List.append_eq_singleton_iff.mp (List.perm_singleton.mp given.symm) with
      ⟨none, one⟩ | ⟨one, none⟩
    · rw [none] at left
      have nullNamed : document = .null := by
        have listed : document ∈ membersNamed dropped field.key := by simp [one]
        obtain ⟨member, chosen, rfl⟩ := List.mem_map.mp listed
        exact null member (List.mem_filter.mp chosen).1
      rw [nullNamed] at read
      exact .inr ⟨List.perm_nil.mp left, lenient value read⟩
    · rw [one] at left
      exact .inl ⟨document, List.perm_singleton.mp left, read⟩
  · rw [unnamed] at given
    have none := (List.append_eq_nil_iff.mp (List.perm_nil.mp given.symm)).1
    rw [none] at left
    exact .inr ⟨List.perm_nil.mp left, missing⟩

namespace Schema

/-- Null stands for nothing but a missing member. -/
def NullsAreMissing {τ σ : Type} : Schema τ σ → Prop
  | .nil => True
  | .cons field rest => field.NullIsMissing ∧ rest.NullsAreMissing

theorem Gives.reworded {schema : Schema τ σ} {values : τ} (gives : schema.Gives members values)
    (before : members.Perm (kept ++ dropped)) (after : others.Perm (kept ++ added))
    (null : ∀ member ∈ dropped, member.2 = .null)
    (foreign : ∀ key ∈ schema.keys, membersNamed added key = [])
    (lenient : schema.NullsAreMissing) : schema.Gives others values := by
  induction schema with
  | nil => trivial
  | cons field rest ih =>
      obtain ⟨value, values⟩ := values
      obtain ⟨first, more⟩ := gives
      obtain ⟨foreignFirst, foreignMore⟩ := List.forall_mem_cons.mp foreign
      obtain ⟨lenientFirst, lenientMore⟩ := lenient
      have givesFirst := first.reworded before after null foreignFirst lenientFirst
      exact ⟨givesFirst, ih more foreignMore lenientMore⟩

end Schema

theorem membersNamed_foreign {keys : List String} {said : List (Octets × Octets)}
    (foreign : ∀ entry ∈ said, Foreign keys entry) {key : String} (asked : key ∈ keys) :
    membersNamed (said.map memberOf) key = [] := by
  rw [membersNamed, List.map_eq_nil_iff, List.filter_eq_nil_iff, List.forall_mem_map]
  intro entry listed named
  obtain ⟨other, text, unasked⟩ := foreign entry listed
  have same : other = key := by simpa [text] using named
  exact unasked (same ▸ asked)

theorem allSpelled_perm (perm : members.Perm others) : allSpelled members = allSpelled others := by
  rw [Bool.eq_iff_iff, allSpelled, allSpelled, List.all_eq_true, List.all_eq_true]
  exact ⟨fun all member listed => all member (perm.mem_iff.mpr listed),
    fun all member listed => all member (perm.mem_iff.mp listed)⟩

theorem allSpelled_append (members others : List Member) :
    allSpelled (members ++ others) = (allSpelled members && allSpelled others) :=
  List.all_append

theorem allSpelled_foreign {keys : List String} {said : List (Octets × Octets)}
    (foreign : ∀ entry ∈ said, Foreign keys entry) : allSpelled (said.map memberOf) = true := by
  rw [allSpelled, List.all_map, List.all_eq_true]
  intro entry listed
  obtain ⟨key, text, -⟩ := foreign entry listed
  simp [text]

theorem null_of_said {said : List (Octets × Octets)}
    (nulls : ∀ entry ∈ said, entry.2 = [110, 117, 108, 108]) :
    ∀ member ∈ said.map memberOf, member.2 = .null := by
  rw [List.forall_mem_map]
  intro entry listed
  rw [memberOf, nulls entry listed]
  rfl

/-- Whatever a record text is read as, its rewordings are read as the same. -/
theorem Form.record_reworded {schema : Schema τ σ} {make : τ → α} {parts : α → τ}
    (distinct : schema.keys.Nodup) (lenient : schema.NullsAreMissing) {original reworded : Octets}
    (rewording : Rewording schema.keys original reworded) {value : α}
    (read : (Form.record schema make parts).ofOctets original = .ok value) :
    (Form.record schema make parts).ofOctets reworded = .ok value := by
  obtain @⟨given, arranged, kept, dropped, added, text, rearranged, before, nulls, after,
    foreign⟩ := rewording
  rw [Form.ofOctets_eq_ok, text.read, Form.record_read_eq_ok distinct] at read
  obtain ⟨-, spelled, values, gives, made⟩ := read
  rw [Form.ofOctets_eq_ok, rearranged.read, Form.record_read_eq_ok distinct]
  have before := before.map memberOf
  have after := after.map memberOf
  rw [List.map_append] at before after
  have keptSpelled : allSpelled (kept.map memberOf) = true := by
    rw [membersOf, allSpelled_perm before, allSpelled_append, Bool.and_eq_true] at spelled
    exact spelled.1
  have allKnown : allSpelled (membersOf arranged) = true := by
    rw [membersOf, allSpelled_perm after, allSpelled_append, keptSpelled,
      allSpelled_foreign foreign]
    rfl
  have unasked : ∀ key ∈ schema.keys, membersNamed (added.map memberOf) key = [] :=
    fun key asked => membersNamed_foreign foreign asked
  have same := gives.reworded before after (null_of_said nulls) unasked lenient
  exact ⟨rfl, allKnown, values, same, made⟩

/-! ## The text that is written -/

/-- Members as they are written. -/
def writtenMembers (members : List (String × Document)) : List MemberText :=
  (members.map fun (key, value) => (Spelling.ofText key, value)).map printedMember

theorem recordText_ofMembers {members : List (String × Document)}
    (whole : ∀ member ∈ members, member.2.isWhole = true) :
    RecordText (writtenMembers members) (Document.ofMembers members).print := by
  have keyed : ∀ member ∈ writtenMembers members, ∃ spelling, member.HasKey spelling := by
    rw [writtenMembers, List.forall_mem_map]
    exact fun member _ => ⟨_, printedMember_hasKey member⟩
  have values : ∀ member ∈ writtenMembers members, IsValue member.value := by
    rw [writtenMembers, List.map_map, List.forall_mem_map]
    exact fun member listed => isValue_print member.2 (whole member listed)
  have text := RecordText.intro .nil .nil keyed values (listed_printMembers _)
  rwa [List.append_nil, List.nil_append] at text

theorem keys_writtenMembers (members : List (String × Document)) :
    (membersOf (writtenMembers members)).map (fun member => member.1.text?) =
      members.map fun member => some member.1 := by
  rw [membersOf, writtenMembers, List.map_map, List.map_map, List.map_map, List.map_map]
  refine List.map_congr_left fun member _ => ?_
  have keyed := printedMember_hasKey (Spelling.ofText member.1, member.2)
  simp only [Function.comp_apply, keyed.memberOf_said, text?_ofText_asRead]

end Json

end Carpool
