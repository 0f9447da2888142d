import Carpool.Proofs.Time.StoredText
import Carpool.Proofs.Uuid
import Carpool.Store.Row

/-!
# Reading rows back

Decoding the row of a record gives the record back, with its times to the
precision of their columns.  The only column that can fail is a stored time.
-/

namespace Carpool

/-! ## Names of statuses -/

namespace OfferStatus

theorem ofName?_name (status : OfferStatus) : ofName? status.name = some status := by
  cases status <;> decide

end OfferStatus

namespace RequestStatus

theorem ofName?_name (status : RequestStatus) : ofName? status.name = some status := by
  cases status <;> decide

theorem name_inj {first second : RequestStatus} : first.name = second.name ↔ first = second := by
  cases first <;> cases second <;> decide

end RequestStatus

namespace MatchStatus

theorem ofName?_name (status : MatchStatus) : ofName? status.name = some status := by
  cases status <;> decide

theorem name_inj {first second : MatchStatus} : first.name = second.name ↔ first = second := by
  cases first <;> cases second <;> decide

end MatchStatus

/-! ## Fares -/

namespace Binary64

variable (value : Binary64)

theorem isNaN_of_isZero (zero : value.isZero = true) : value.isNaN = false := by
  have magnitude : value.magnitude = 0 := by simpa [isZero] using zero
  simp [isNaN, magnitude]

@[simp] theorem isNaN_withoutNegativeZero :
    value.withoutNegativeZero.isNaN = value.isNaN := by
  rw [withoutNegativeZero]
  split
  · rename_i zero
    rw [isNaN_of_isZero value zero]
    rfl
  · rfl

@[simp] theorem withoutNegativeZero_withoutNegativeZero :
    value.withoutNegativeZero.withoutNegativeZero = value.withoutNegativeZero := by
  by_cases zero : value.isZero = true
  · have unsigned : value.withoutNegativeZero = .zero := if_pos zero
    rw [unsigned]
    rfl
  · have same : value.withoutNegativeZero = value := if_neg zero
    rw [same, same]

/-- Losing the sign of zero does not change a number. -/
theorem sameNumber_withoutNegativeZero (number : value.isNaN = false) :
    value.withoutNegativeZero.sameNumber value = true := by
  rw [sameNumber, isNaN_withoutNegativeZero, number, withoutNegativeZero]
  split
  · rename_i zero
    rw [zero]
    simp only [Bool.not_false, Bool.and_true, Bool.true_and, Bool.or_eq_true]
    exact .inr rfl
  · simp

end Binary64

/-! ## Seconds -/

/-- An instant without its part of the second, also within a leap second. -/
def Instant.wholeSecond (instant : Instant) : Instant where
  second := instant.second
  nanosecond := 0
  first_le := instant.first_le
  le_last := instant.le_last
  nanosecond_lt := Instant.epoch.nanosecond_lt
  leap_ends_minute leap := by simp at leap

namespace Store

theorem ok_bind {ε α β : Type} (value : α) (next : α → Except ε β) :
    (Except.ok value >>= next) = next value := rfl

theorem error_bind {ε α β : Type} (error : ε) (next : α → Except ε β) :
    (Except.error error >>= next) = .error error := rfl

theorem bind_eq_ok {ε α β : Type} {first : Except ε α} {next : α → Except ε β} {result : β} :
    (first >>= next) = .ok result ↔ ∃ value, first = .ok value ∧ next value = .ok result := by
  cases first <;> simp [ok_bind, error_bind]

theorem bind_eq_error {ε α β : Type} {first : Except ε α} {next : α → Except ε β} {error : ε} :
    (first >>= next) = .error error ↔
      first = .error error ∨ ∃ value, first = .ok value ∧ next value = .error error := by
  cases first <;> simp [ok_bind, error_bind]

theorem decodeUuid_eq_ok {text : String} {uuid : Uuid} :
    decodeUuid text = .ok uuid ↔ Uuid.ofText? text = some uuid := by
  rw [decodeUuid]
  cases Uuid.ofText? text <;> simp

theorem decodeTime_eq_ok {text : String} {instant : Instant} :
    decodeTime text = .ok instant ↔ Instant.ofStoredText? text = some instant := by
  rw [decodeTime]
  cases Instant.ofStoredText? text <;> simp

theorem decodeUuid_text (uuid : Uuid) : decodeUuid uuid.text = .ok uuid :=
  decodeUuid_eq_ok.mpr (Uuid.ofText?_text uuid)

theorem decodeSeats_toNat (seats : UInt32) : decodeSeats seats.toNat = .ok seats := by
  have bound := seats.toNat_lt
  rw [decodeSeats, if_pos (by omega)]
  simp

theorem decodeSecond_second (instant : Instant) :
    decodeSecond instant.second = .ok instant.wholeSecond := by
  have made := instant.wholeSecond.make?_self
  simp only [decodeSecond]
  rw [show Instant.make? instant.second 0 = _ from made]

/-! ## Records -/

theorem UserRow.decode_ofUser (user : User) :
    (UserRow.ofUser user).decode = .ok { user with lastSeen := user.lastSeen.wholeSecond } := by
  simp only [UserRow.decode, UserRow.ofUser, readKey, readInteger, decodeUuid_text,
    decodeSecond_second, ok_bind]
  rfl

theorem OfferRow.decode_ofOffer {offer : RideOffer} {row : OfferRow}
    (stored : OfferRow.ofOffer offer = .ok row) :
    row.decode = (decodeTime offer.departAt.storedText).map fun departAt =>
      { offer with fare := offer.fare.withoutNegativeZero, departAt } := by
  rw [OfferRow.ofOffer] at stored
  split at stored
  · contradiction
  · obtain rfl := Except.ok.inj stored
    have driver : (offer.driverId.map Uuid.text).mapM decodeUuid = .ok offer.driverId := by
      cases offer.driverId with
      | none => rfl
      | some driver =>
          rw [Option.map_some, Option.mapM_some, decodeUuid_text]
          rfl
    simp only [OfferRow.decode, readKey, readReal, readInteger, decodeUuid_text, driver,
      decodeSeats_toNat, decodeStatus, OfferStatus.ofName?_name, ok_bind]
    cases decodeTime offer.departAt.storedText with
    | error error => rfl
    | ok departAt =>
        simp only [ok_bind]
        rfl

theorem RequestRow.decode_ofRequest (request : RideRequest) :
    (RequestRow.ofRequest request).decode =
      (decodeTime request.departAt.storedText).map fun departAt => { request with departAt } := by
  simp only [RequestRow.decode, RequestRow.ofRequest, readKey, readInteger, decodeUuid_text,
    decodeSeats_toNat, decodeStatus, RequestStatus.ofName?_name, ok_bind]
  cases decodeTime request.departAt.storedText with
  | error error => rfl
  | ok departAt =>
      simp only [ok_bind]
      rfl

/-- The only column that may be unreadable is the time of departure. -/
theorem RequestRow.decode_eq_error {request : RideRequest} {error : StoreError} :
    (RequestRow.ofRequest request).decode = .error error ↔
      decodeTime request.departAt.storedText = .error error := by
  rw [RequestRow.decode_ofRequest]
  cases decodeTime request.departAt.storedText <;> simp [Except.map]

theorem MatchRow.decode_ofMatch (record : Match) :
    (MatchRow.ofMatch record).decode =
      (decodeTime record.createdAt.storedText).map fun createdAt => { record with createdAt } := by
  simp only [MatchRow.decode, MatchRow.readable, MatchRow.ofMatch, readKey, decodeUuid_text,
    decodeStatus, MatchStatus.ofName?_name, ok_bind]
  cases decodeTime record.createdAt.storedText with
  | error error => rfl
  | ok createdAt => rfl

/-! ## What has been read is what is stored -/

theorem storedText_of_decodeTime {text : String} {instant : Instant} (stored : Instant)
    (encoded : stored.storedText = text) (decoded : decodeTime text = .ok instant) :
    instant.storedText = text := by
  subst encoded
  have read := decodeTime_eq_ok.mp decoded
  rw [Instant.eq_toMicrosecond_of_read read, Instant.storedText_toMicrosecond]

theorem MatchRow.ofMatch_of_decode {record read : Match}
    (decoded : (MatchRow.ofMatch record).decode = .ok read) :
    MatchRow.ofMatch read = MatchRow.ofMatch record := by
  rw [MatchRow.decode_ofMatch] at decoded
  cases time : decodeTime record.createdAt.storedText with
  | error error => simp [time, Except.map] at decoded
  | ok createdAt =>
      rw [time] at decoded
      obtain rfl := Except.ok.inj decoded
      simp only [MatchRow.ofMatch, storedText_of_decodeTime _ rfl time]

theorem RequestRow.ofRequest_of_decode {request read : RideRequest}
    (decoded : (RequestRow.ofRequest request).decode = .ok read) :
    RequestRow.ofRequest read = RequestRow.ofRequest request := by
  rw [RequestRow.decode_ofRequest] at decoded
  cases time : decodeTime request.departAt.storedText with
  | error error => simp [time, Except.map] at decoded
  | ok departAt =>
      rw [time] at decoded
      obtain rfl := Except.ok.inj decoded
      simp only [RequestRow.ofRequest, storedText_of_decodeTime _ rfl time]

theorem OfferRow.ofOffer_of_decode {offer read : RideOffer} {row : OfferRow}
    (encoded : OfferRow.ofOffer offer = .ok row) (decoded : row.decode = .ok read) :
    OfferRow.ofOffer read = .ok row := by
  rw [OfferRow.decode_ofOffer encoded] at decoded
  cases time : decodeTime offer.departAt.storedText with
  | error error => simp [time, Except.map] at decoded
  | ok departAt =>
      rw [time] at decoded
      obtain rfl := Except.ok.inj decoded
      rw [← encoded]
      simp only [OfferRow.ofOffer, storedText_of_decodeTime _ rfl time,
        Binary64.isNaN_withoutNegativeZero, Binary64.withoutNegativeZero_withoutNegativeZero]

end Store

end Carpool
