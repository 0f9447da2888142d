import Carpool.Proofs.PublishedRides
import Carpool.Proofs.Session.Parts
import Carpool.Proofs.Time.StoredOrder

/-!
# Rows that give their records back

Every record is read back from the columns in which it is stored, if its times
are as exact as those columns.  Stored times of the years 0 to 9999 are of one
length, and comparing their octets compares the times.
-/

namespace Carpool

/-! ## The octets of stored times -/

namespace Octets

variable {first second : Char}

theorem toNat_ofAscii (ascii : first.toNat < 128) : (ofAscii first).toNat = first.toNat := by
  rw [ofAscii, UInt8.toNat_ofNat']
  omega

theorem ofAscii_lt (ascii : first.toNat < 128) (alsoAscii : second.toNat < 128) :
    ofAscii first < ofAscii second ↔ first < second := by
  rw [UInt8.lt_iff_toNat_lt, toNat_ofAscii ascii, toNat_ofAscii alsoAscii]
  rfl

theorem ofAscii_inj (ascii : first.toNat < 128) (alsoAscii : second.toNat < 128) :
    ofAscii first = ofAscii second ↔ first = second := by
  rw [← UInt8.toNat_inj, toNat_ofAscii ascii, toNat_ofAscii alsoAscii]
  exact Char.toNat_inj

/-- Texts of plain characters are ordered as their octets are. -/
theorem map_ofAscii_lt {left right : List Char} (ascii : ∀ character ∈ left, character.toNat < 128)
    (alsoAscii : ∀ character ∈ right, character.toNat < 128) :
    left.map ofAscii < right.map ofAscii ↔ left < right := by
  induction left generalizing right with
  | nil => cases right <;> simp
  | cons first left ih =>
      cases right with
      | nil => simp
      | cons second right =>
          obtain ⟨firstAscii, ascii⟩ := List.forall_mem_cons.mp ascii
          obtain ⟨secondAscii, alsoAscii⟩ := List.forall_mem_cons.mp alsoAscii
          rw [List.map_cons, List.map_cons, List.cons_lt_cons_iff, List.cons_lt_cons_iff,
            ofAscii_lt firstAscii secondAscii, ofAscii_inj firstAscii secondAscii,
            ih ascii alsoAscii]

theorem ofText_ofList {characters : List Char}
    (ascii : ∀ character ∈ characters, character.toNat < 128) :
    ofText (String.ofList characters) = characters.map ofAscii := by
  have same : Session.asciiText (characters.map ofAscii) = String.ofList characters := by
    have each : ∀ character ∈ characters,
        Char.ofNat (ofAscii character).toNat = character := by
      intro character member
      rw [toNat_ofAscii (ascii character member), Char.ofNat_toNat]
    rw [Session.asciiText, List.map_map]
    exact congrArg String.ofList ((List.map_congr_left each).trans (List.map_id' characters))
  rw [← same]
  refine Session.ofText_asciiText fun octet member => ?_
  obtain ⟨character, stored, rfl⟩ := List.mem_map.mp member
  rw [toNat_ofAscii (ascii character stored)]
  exact ascii character stored

end Octets

namespace Instant

variable {first second : Instant}

theorem toNat_lt_of_isDigit {character : Char} (digit : character.isDigit = true) :
    character.toNat < 128 := by
  simp only [Char.isDigit, Bool.and_eq_true, decide_eq_true_eq] at digit
  have below : character.toNat ≤ 57 := UInt32.le_iff_toNat_le.mp digit.2
  omega

theorem ascii_of_mem_storedChars (year : first.HasFourDigitYear) :
    ∀ character ∈ first.storedChars, character.toNat < 128 := by
  have digits (width value : Nat) :
      ∀ character ∈ padded width value, character.toNat < 128 := by
    intro character member
    exact toNat_lt_of_isDigit (isDigit_padded member)
  rw [storedChars_of_year year]
  simp only [List.forall_mem_append, List.forall_mem_cons]
  refine ⟨digits 4 _, ?_, digits 2 _, ?_, digits 2 _, ?_, digits 2 _, ?_, digits 2 _, ?_,
    digits 2 _, ?_, digits 6 _, ?_, List.forall_mem_nil _⟩ <;> decide

theorem ofText_storedText (year : first.HasFourDigitYear) :
    Octets.ofText first.storedText = first.storedChars.map Octets.ofAscii :=
  Octets.ofText_ofList (ascii_of_mem_storedChars year)

theorem length_ofText_storedText (year : first.HasFourDigitYear) :
    (Octets.ofText first.storedText).length = 27 := by
  rw [ofText_storedText year, List.length_map, length_storedChars year]

theorem ofText_storedText_lt (year : first.HasFourDigitYear)
    (otherYear : second.HasFourDigitYear) :
    Octets.ofText first.storedText < Octets.ofText second.storedText ↔
      first.toMicrosecond.isBefore second.toMicrosecond = true := by
  rw [ofText_storedText year, ofText_storedText otherYear,
    Octets.map_ofAscii_lt (ascii_of_mem_storedChars year) (ascii_of_mem_storedChars otherYear)]
  exact storedChars_lt_iff year otherYear

/-- The instant can be stored as it is: its year has four digits, and it is a
whole number of microseconds. -/
def IsStorable (instant : Instant) : Prop :=
  instant.HasFourDigitYear ∧ instant.nanosecond % 1000 = 0

theorem IsStorable.toMicrosecond_eq (storable : first.IsStorable) :
    first.toMicrosecond = first := by
  simp only [toMicrosecond, truncate, storable.2, Nat.sub_zero]

theorem decodeTime_of_storable (storable : first.IsStorable) :
    Store.decodeTime first.storedText = .ok first := by
  rw [Store.decodeTime_of_year storable.1, storable.toMicrosecond_eq]

end Instant

/-! ## Records that are read back -/

namespace Store

theorem UserRow.decode_of_wholeSecond {user : User} (whole : user.lastSeen.nanosecond = 0) :
    (UserRow.ofUser user).decode = .ok user := by
  have same : user.lastSeen.wholeSecond = user.lastSeen := by
    simp only [Instant.wholeSecond, ← whole]
  rw [UserRow.decode_ofUser, same]

/-- The fare is read back as the same number; only a zero may lose its sign. -/
theorem OfferRow.decode_of_storable {offer : RideOffer} (number : offer.fare.isNaN = false)
    (storable : offer.departAt.IsStorable) :
    ∃ row fare, OfferRow.ofOffer offer = .ok row ∧ fare.sameNumber offer.fare = true ∧
      row.decode = .ok { offer with fare } := by
  have encoded := OfferRow.ofOffer_eq_ok.mpr ⟨number, rfl⟩
  refine ⟨_, _, encoded, offer.fare.sameNumber_withoutNegativeZero number, ?_⟩
  rw [OfferRow.decode_ofOffer encoded, Instant.decodeTime_of_storable storable]
  rfl

theorem RequestRow.decode_of_storable {request : RideRequest}
    (storable : request.departAt.IsStorable) :
    (RequestRow.ofRequest request).decode = .ok request := by
  rw [RequestRow.decode_ofRequest, Instant.decodeTime_of_storable storable]
  rfl

theorem MatchRow.decode_of_storable {record : Match} (storable : record.createdAt.IsStorable) :
    (MatchRow.ofMatch record).decode = .ok record := by
  rw [MatchRow.decode_ofMatch, Instant.decodeTime_of_storable storable]
  rfl

/-- Rows give their records back, and stored times are in order. -/
theorem rows_give_records_back :
    (∀ user : User, user.lastSeen.nanosecond = 0 → (UserRow.ofUser user).decode = .ok user) ∧
    (∀ offer : RideOffer, offer.fare.isNaN = false → offer.departAt.IsStorable →
      ∃ row fare, OfferRow.ofOffer offer = .ok row ∧ fare.sameNumber offer.fare = true ∧
        row.decode = .ok { offer with fare }) ∧
    (∀ request : RideRequest, request.departAt.IsStorable →
      (RequestRow.ofRequest request).decode = .ok request) ∧
    (∀ record : Match, record.createdAt.IsStorable →
      (MatchRow.ofMatch record).decode = .ok record) ∧
    ∀ first second : Instant, first.HasFourDigitYear → second.HasFourDigitYear →
      (Octets.ofText first.storedText).length = (Octets.ofText second.storedText).length ∧
      decodeTime first.storedText = .ok first.toMicrosecond ∧
      (Octets.ofText first.storedText < Octets.ofText second.storedText ↔
        first.toMicrosecond.isBefore second.toMicrosecond = true) := by
  refine ⟨fun _ => UserRow.decode_of_wholeSecond, fun _ => OfferRow.decode_of_storable,
    fun _ => RequestRow.decode_of_storable, fun _ => MatchRow.decode_of_storable, ?_⟩
  intro first second year otherYear
  have length := first.length_ofText_storedText year
  exact ⟨length.trans (second.length_ofText_storedText otherYear).symm, decodeTime_of_year year,
    Instant.ofText_storedText_lt year otherYear⟩

end Store

/-!
## Records at the ends of their columns

The last microsecond that has a text, which is in a leap second, the first one,
a leap second within the years, and a visit before 1970.
-/

namespace Sample

def lastMicrosecond : Instant :=
  ⟨253402300799, 1999999000, by decide, by decide, by decide, by decide⟩

def firstMicrosecond : Instant :=
  ⟨-62167219200, 0, by decide, by decide, Instant.epoch.nanosecond_lt, by decide⟩

/-- Half a second and seven hundred nanoseconds into the leap second at the end
of 2016. -/
def leapMoment : Instant :=
  ⟨1483228799, 1500000700, by decide, by decide, by decide, by decide⟩

/-- The start of 2017. -/
def newYear : Instant :=
  ⟨1483228800, 0, by decide, by decide, Instant.epoch.nanosecond_lt, by decide⟩

def earlyUser : User :=
  ⟨uuid 1, "rider@example", "", none, some "tdr1w",
    ⟨-1, 0, by decide, by decide, Instant.epoch.nanosecond_lt, by decide⟩⟩

/-- An offer without a driver whose fare is the negative zero. -/
def lateOffer : RideOffer :=
  ⟨uuid 4, none, "", "tdr1y", Binary64.zero.negate, lastMicrosecond, 0xFFFFFFFF, .completed⟩

def ancientRequest : RideRequest :=
  ⟨uuid 5, uuid 1, "tdr1w", "tdr1y", firstMicrosecond, 0, .matched⟩

def leapMatch : Match :=
  ⟨uuid 6, uuid 1, uuid 2, uuid 4, .rejected, leapMoment.toMicrosecond⟩

end Sample

namespace Store

theorem rows_give_extremes_back :
    (UserRow.ofUser Sample.earlyUser).decode = .ok Sample.earlyUser ∧
    (∃ row fare, OfferRow.ofOffer Sample.lateOffer = .ok row ∧
      fare.sameNumber Sample.lateOffer.fare = true ∧
      row.decode = .ok { Sample.lateOffer with fare }) ∧
    (RequestRow.ofRequest Sample.ancientRequest).decode = .ok Sample.ancientRequest ∧
    (MatchRow.ofMatch Sample.leapMatch).decode = .ok Sample.leapMatch ∧
    Sample.leapMoment.HasFourDigitYear ∧ Sample.newYear.HasFourDigitYear ∧
    Octets.ofText Sample.leapMoment.storedText < Octets.ofText Sample.newYear.storedText := by
  obtain ⟨user, offer, request, record, times⟩ := rows_give_records_back
  have leapYear : Sample.leapMoment.HasFourDigitYear := ⟨by decide +kernel, by decide +kernel⟩
  have nextYear : Sample.newYear.HasFourDigitYear := ⟨by decide +kernel, by decide +kernel⟩
  refine ⟨user _ rfl, offer _ (by decide +kernel) ⟨⟨?_, ?_⟩, ?_⟩, request _ ⟨⟨?_, ?_⟩, ?_⟩,
    record _ ⟨leapYear, ?_⟩, leapYear, nextYear, (times _ _ leapYear nextYear).2.2.mpr ?_⟩ <;>
    decide +kernel

end Store

end Carpool
