import Carpool.Login.Policy
import Carpool.Proofs.Transcript

/-!
# Conversations with the world

A world answers every question of a call, by what has been said before.  Stores
of any contents are worlds, and so are stores that fail at any job and with any
words, at any time of the clock and with any identity provider.  In every world
a call comes to an end.

What a call makes of its answers is shown by going through the call once.  It
then holds in every world, and worlds that fail inside the service with
different words cannot be told apart.
-/

namespace Carpool

open Store

/-- The identity provider cannot be reached, or says what cannot be read. -/
inductive ProviderReply.Breaks : ProviderReply → Prop
  | unreachable (reason : String) : Breaks (.unreachable reason)
  | unreadable {status : Nat} {body : Octets} {fault : Json.Fault} (good : status / 100 = 2)
      (garbled : TokenInfo.form.ofOctets body = .error fault) : Breaks (.answered status body)

namespace Query

/-- A question with its answer. -/
def exchange : (query : Query) → query.Answer → Exchange
  | .store job, answer => .store job answer
  | .clock, now => .clock now
  | .introspect idToken, reply => .introspect idToken reply

/-- An answer that tells of a failure inside the service. -/
def Breaks : (query : Query) → query.Answer → Prop
  | .store _, answer => ∃ error, answer = .error error
  | .clock, _ => False
  | .introspect _, reply => reply.Breaks

end Query

/-- The answers to all questions, by what has been said before, the latest
first. -/
abbrev World := List Exchange → (query : Query) → query.Answer

/-- Two worlds give the same answers, but for how they fail inside the service. -/
def World.Alike (first second : World) : Prop :=
  ∀ past query, first past query = second past query ∨
    query.Breaks (first past query) ∧ query.Breaks (second past query)

namespace Call

variable {α β : Type}

/-- What has been said once a call has ended, the latest first, and its result. -/
def converse (world : World) : List Exchange → Call α → List Exchange × α
  | past, .done result => (past, result)
  | past, .ask query next =>
      (next (world past query)).converse world (query.exchange (world past query) :: past)

/-- However its questions are answered, what has been said and the result obey a
law, and an answer that tells of a failure inside the service ends the call with
a veiled result. -/
def Upholds (law : List Exchange → α → Prop) (veiled : α → Prop) : List Exchange → Call α → Prop
  | past, .done result => law past result
  | past, .ask query next =>
      ∀ answer, (next answer).Upholds law veiled (query.exchange answer :: past) ∧
        (query.Breaks answer → ∃ result, next answer = .done result ∧ veiled result)

variable {world first second : World} {law : List Exchange → α → Prop} {veiled : α → Prop}
  {past : List Exchange} {call : Call α}

theorem Upholds.converse (upholds : call.Upholds law veiled past) :
    law (call.converse world past).1 (call.converse world past).2 := by
  induction call generalizing past with
  | done result => exact upholds
  | ask query next ih => exact ih _ (upholds (world past query)).1

theorem Upholds.mono {weaker : List Exchange → α → Prop} {plainer : α → Prop}
    (upholds : call.Upholds law veiled past)
    (laws : ∀ past result, law past result → weaker past result)
    (veils : ∀ result, veiled result → plainer result) : call.Upholds weaker plainer past := by
  induction call generalizing past with
  | done result => exact laws past result upholds
  | ask query next ih =>
      intro answer
      obtain ⟨rest, breaks⟩ := upholds answer
      refine ⟨ih answer rest, fun broken => ?_⟩
      obtain ⟨result, ended, veil⟩ := breaks broken
      exact ⟨result, ended, veils result veil⟩

theorem Upholds.map {change : β → α} {call : Call β}
    (upholds : call.Upholds (fun past result => law past (change result))
      (fun result => veiled (change result)) past) :
    (call.map change).Upholds law veiled past := by
  induction call generalizing past with
  | done result => exact upholds
  | ask query next ih =>
      intro answer
      obtain ⟨rest, breaks⟩ := upholds answer
      refine ⟨ih answer rest, fun broken => ?_⟩
      obtain ⟨result, ended, veil⟩ := breaks broken
      exact ⟨change result, congrArg (Call.map change) ended, veil⟩

theorem Upholds.extend (upholds : call.Upholds law veiled past) (before : List Exchange) :
    call.Upholds
      (fun said result => ∃ own, said = own ++ past ++ before ∧
        call.Leads own.reverse (.done result) ∧ law (own ++ past) result)
      veiled (past ++ before) := by
  induction call generalizing past with
  | done result => exact ⟨[], rfl, .start, upholds⟩
  | ask query next ih =>
      intro answer
      obtain ⟨rest, breaks⟩ := upholds answer
      refine ⟨(ih answer rest).mono ?_ fun _ veil => veil, breaks⟩
      rintro said result ⟨own, rfl, leads, lawful⟩
      refine ⟨own ++ [query.exchange answer], by simp, ?_, by simpa using lawful⟩
      rw [List.reverse_append]
      cases query with
      | store job => exact .store answer leads
      | clock => exact .clock answer leads
      | introspect token => exact .introspect answer leads

/-- What a law says of a call holds of all that is said since the call began, if
something has been said before. -/
theorem Upholds.since (upholds : call.Upholds law veiled []) (before : List Exchange) :
    call.Upholds
      (fun said result => ∃ own, said = own ++ before ∧
        call.Leads own.reverse (.done result) ∧ law own result)
      veiled before := by
  simpa using upholds.extend before

/-- In worlds that are alike a call ends alike, or both ends are veiled. -/
theorem Upholds.alike (upholds : call.Upholds law veiled past) (alike : first.Alike second) :
    (call.converse first past).2 = (call.converse second past).2 ∨
      veiled (call.converse first past).2 ∧ veiled (call.converse second past).2 := by
  induction call generalizing past with
  | done result => exact .inl rfl
  | ask query next ih =>
      rw [Call.converse, Call.converse]
      obtain same | ⟨breaks, otherBreaks⟩ := alike past query
      · rw [same]
        exact ih _ (upholds _).1
      · obtain ⟨result, ended, veils⟩ := (upholds _).2 breaks
        obtain ⟨other, otherEnded, otherVeils⟩ := (upholds _).2 otherBreaks
        rw [ended, otherEnded]
        exact .inr ⟨veils, otherVeils⟩

end Call

end Carpool
