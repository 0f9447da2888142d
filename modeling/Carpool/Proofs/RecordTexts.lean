import Carpool.Match
import Carpool.User
import Carpool.Identity
import Carpool.Proofs.Json.Rewording
import Carpool.Proofs.Store.Codec
import Carpool.Proofs.Time.RecordText
import Carpool.Proofs.Uuid

/-!
# Records survive their texts

Matches, requests, users and identities are read back from the texts that are
written for them, and from every rewording of these texts.
-/

namespace Carpool

namespace Json

variable {α τ σ : Type}

/-- What is written for a value has one member for each key, and it is read as the
value, and so is all that says the same. -/
structure Form.Survives (form : Form α) (keys : List String) : Prop where
  written : ∀ value, ∃ members, RecordText members (form.toOctets value) ∧
    (membersOf members).map (fun member => member.1.text?) = keys.map some
  roundTrip : ∀ value, form.ofOctets (form.toOctets value) = .ok value
  reworded : ∀ value octets, Rewording keys (form.toOctets value) octets →
    form.ofOctets octets = .ok value

theorem Form.Survives.of_record {schema : Schema τ σ} {make : τ → α} {parts : α → τ}
    {keys : List String} (distinct : keys.Nodup) (named : schema.keys = keys)
    (written : ∀ value, (schema.members (parts value)).map Prod.fst = keys)
    (lenient : schema.NullsAreMissing) (made : ∀ value, make (parts value) = value)
    (keeps : ∀ value, schema.Keeps (parts value)) :
    (Form.record schema make parts).Survives keys := by
  subst named
  have roundTrip (value : α) := (Form.record_keeps distinct (made value) (keeps value)).ofOctets
  refine ⟨fun value => ?_, roundTrip, fun value octets rewording => ?_⟩
  · have whole := Schema.members_whole (keeps value)
    refine ⟨_, recordText_ofMembers whole, ?_⟩
    rw [keys_writtenMembers, ← written value, List.map_map]
    rfl
  · exact Form.record_reworded distinct lenient rewording (roundTrip value)

/-! ## Null where it is not asked for -/

theorem Field.NullIsMissing.required {key : String} {form : Form α} {fault : Fault}
    (refused : form.read .null = .error fault) :
    Field.NullIsMissing ⟨key, form, .required⟩ := by
  intro value read
  change form.read .null = .ok value at read
  rw [refused] at read
  contradiction

theorem Field.NullIsMissing.optional {key : String} {form : Form α} :
    Field.NullIsMissing ⟨key, form.nullable, .optional none⟩ :=
  fun _ read => read

end Json

open Json

theorem Uuid.form_keeps (uuid : Uuid) : Uuid.form.Keeps uuid :=
  Form.spelled_keeps (ofText?_text uuid)

theorem Instant.form_keeps (instant : Instant) : Instant.form.Keeps instant :=
  Form.spelled_keeps (ofText?_text instant)

/-! ## The records -/

theorem match_survives : Match.form.Survives
    ["match_id", "rider_id", "driver_id", "ride_id", "status", "created_at"] := by
  apply Form.Survives.of_record (by decide) rfl
  · exact fun _ => rfl
  · exact ⟨.required rfl, .required rfl, .required rfl, .required rfl, .required rfl,
      .required rfl, trivial⟩
  · exact fun _ => rfl
  · intro record
    exact ⟨.required (Uuid.form_keeps _), .required (Uuid.form_keeps _),
      .required (Uuid.form_keeps _), .required (Uuid.form_keeps _),
      .required (Form.named_keeps (MatchStatus.ofName?_name _)),
      .required (Instant.form_keeps _), trivial⟩

theorem request_survives : RideRequest.form.Survives
    ["request_id", "user_id", "from_geo", "to_geo", "depart_at", "seats", "status"] := by
  apply Form.Survives.of_record (by decide) rfl
  · exact fun _ => rfl
  · exact ⟨.required rfl, .required rfl, .required rfl, .required rfl, .required rfl,
      .required rfl, .required rfl, trivial⟩
  · exact fun _ => rfl
  · intro request
    exact ⟨.required (Uuid.form_keeps _), .required (Uuid.form_keeps _),
      .required (Form.text_keeps _), .required (Form.text_keeps _),
      .required (Instant.form_keeps _), .required (Form.word32_keeps _),
      .required (Form.named_keeps (RequestStatus.ofName?_name _)), trivial⟩

theorem user_survives : User.form.Survives
    ["user_id", "email", "name", "photo_url", "geohash", "last_seen"] := by
  apply Form.Survives.of_record (by decide) rfl
  · exact fun _ => rfl
  · exact ⟨.required rfl, .required rfl, .required rfl, .optional, .optional, .required rfl,
      trivial⟩
  · exact fun _ => rfl
  · intro user
    exact ⟨.required (Uuid.form_keeps _), .required (Form.text_keeps _),
      .required (Form.text_keeps _), .optional (Form.nullable_text_keeps _),
      .optional (Form.nullable_text_keeps _), .required (Instant.form_keeps _), trivial⟩

theorem identity_survives : Identity.form.Survives ["subject_id", "email"] := by
  apply Form.Survives.of_record (by decide) rfl
  · exact fun _ => rfl
  · exact ⟨.required rfl, .optional, trivial⟩
  · exact fun _ => rfl
  · intro identity
    exact ⟨.required (Uuid.form_keeps _), .optional (Form.nullable_text_keeps _), trivial⟩

/-- Every record is read back from its text, and from whatever text says the same. -/
theorem records_survive_their_texts :
    Match.form.Survives
        ["match_id", "rider_id", "driver_id", "ride_id", "status", "created_at"] ∧
      RideRequest.form.Survives
        ["request_id", "user_id", "from_geo", "to_geo", "depart_at", "seats", "status"] ∧
      User.form.Survives
        ["user_id", "email", "name", "photo_url", "geohash", "last_seen"] ∧
      Identity.form.Survives ["subject_id", "email"] :=
  ⟨match_survives, request_survives, user_survives, identity_survives⟩

/-- The text of an identity without an email address, with white space, a member of
its own, and no null. -/
def strangerText : Octets :=
  Octets.ofText (" \x7b \"extra\" : [1,\n-2.5e3] , \"subject_id\": "
    ++ "\"00000000-0000-0000-0000-000000000007\"\x7d")

def strangerMembers : List MemberText :=
  [⟨(Spelling.ofText "extra").flatMap Spelling.printPiece, [32], [32],
      Octets.ofText "[1,\n-2.5e3]"⟩,
    ⟨(Spelling.ofText "subject_id").flatMap Spelling.printPiece, [], [32],
      (Uuid.form.write (Uuid.ofNat 7)).print⟩]

theorem strangerText_isRecord : RecordText strangerMembers strangerText := by
  have blank : Blank [32] := by simp [Blank]
  have newLine : Blank [10] := by simp [Blank]
  have one : IsNumeral [49] := isNumeral_print (Numeral.ofInt 1)
  have other : IsNumeral (Octets.ofText "-2.5e3") := isNumeral_print ⟨true, 2, [5], some 3⟩
  have items : ∀ item ∈ [[49], Octets.ofText "-2.5e3"], IsValue item := by
    simp only [List.forall_mem_cons]
    exact ⟨.numeral one, .numeral other, nofun⟩
  have extra : IsValue (Octets.ofText "[1,\n-2.5e3]") :=
    .list items (.next .nil .nil (.last newLine .nil))
  have subject : IsValue (Uuid.form.write (Uuid.ofNat 7)).print := isValue_print _ rfl
  have keyed : ∀ member ∈ strangerMembers, ∃ spelling, member.HasKey spelling := by
    simp only [strangerMembers, List.forall_mem_cons]
    exact ⟨⟨_, .printed _, blank, blank⟩, ⟨_, .printed _, .nil, blank⟩, nofun⟩
  have values : ∀ member ∈ strangerMembers, IsValue member.value := by
    simp only [strangerMembers, List.forall_mem_cons]
    exact ⟨extra, subject, nofun⟩
  exact .intro blank .nil keyed values (.next blank blank (.last blank .nil))

theorem strangerText_rewording : Rewording ["subject_id", "email"]
    (Identity.form.toOctets ⟨Uuid.ofNat 7, none⟩) strangerText := by
  have original : RecordText
      (writtenMembers [("subject_id", Uuid.form.write (Uuid.ofNat 7)), ("email", .null)])
      (Identity.form.toOctets ⟨Uuid.ofNat 7, none⟩) :=
    recordText_ofMembers (by simp [Uuid.form, Form.spelled, Document.ofText, Document.isWhole])
  have foreign : ∀ said ∈ [(strangerMembers[0]).said], Foreign ["subject_id", "email"] said :=
    List.forall_mem_singleton.mpr ⟨"extra", rfl, by decide⟩
  have null : ∀ said ∈ [((Spelling.ofText "email").flatMap Spelling.printPiece,
      Document.null.print)], said.2 = [110, 117, 108, 108] :=
    List.forall_mem_singleton.mpr rfl
  have arranged : (strangerMembers.map MemberText.said).Perm
      ([(strangerMembers[1]).said] ++ [(strangerMembers[0]).said]) := .swap _ _ _
  exact .intro original strangerText_isRecord (.refl _) null arranged foreign

theorem stranger_survives :
    Identity.form.ofOctets strangerText = .ok ⟨Uuid.ofNat 7, none⟩ :=
  records_survive_their_texts.2.2.2.reworded _ _ strangerText_rewording

end Carpool
