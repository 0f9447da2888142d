import Carpool.Proofs.Server.Conduct
import Carpool.Proofs.Service.Caution

/-!
# Errands write last

Of all jobs of an errand only the last can have changed anything, and an errand
that only reads changes nothing at all.  With the clock within bounds, an errand
that has changed something does not fail.
-/

namespace Carpool

open Store

/-! ## Requests -/

def Method.IsRead : Method → Prop
  | .getMatch | .listMatchesByRide | .listMatchesByRider | .listMyMatches | .getOffer
  | .getRequest | .getMe => True
  | _ => False

namespace Api

variable {config : ServerConfig} {method : Method} {caller : Option Identity} {request : Request}
  {operation : Operation}

theorem isRead_of_command (reads : method.IsRead)
    (commanded : command method caller request = .ok operation) : operation.IsRead := by
  have other : method ≠ .login := by
    rintro rfl
    exact reads
  obtain ⟨identity, -, operates⟩ := operates_of_command other commanded
  cases method with
  | getMatch | listMatchesByRide | listMatchesByRider | getOffer | getRequest =>
      obtain ⟨id, rfl⟩ := operates
      trivial
  | listMyMatches | getMe =>
      obtain rfl := operates
      trivial
  | _ => exact reads.elim

theorem attend_asks (reads : method.IsRead) :
    (attend config method caller request).Asks Job.IsLookup := by
  rw [attend]
  split
  · apply Call.Asks.map
    cases commanded : command method caller request with
    | error error => trivial
    | ok operation => exact ((isRead_of_command reads commanded).asks config.setup).map
  · trivial

theorem answer_asks (named : Method.ofPath? request.path = some method) (reads : method.IsRead) :
    (answer config request).Asks Job.IsLookup := by
  rw [answer_shape config named]
  split
  · exact attend_asks reads
  · intro now
    dsimp only
    split
    · trivial
    · exact attend_asks reads

def Response.fails (response : Response) : Bool :=
  response.status != 200

/-- Failures never go under the status of success. -/
theorem respond_fails (outcome : Except ApiError (Option Json.Document)) :
    (respond outcome).all Response.fails = fails outcome := by
  cases outcome with
  | error error =>
      have unsuccessful : error.code.status ≠ 200 := by cases error.code <;> decide
      exact bne_iff_ne.mpr unsuccessful
  | ok document? => cases document? <;> rfl

theorem attend_writesLast (strict : Prop) (config : ServerConfig) (method : Method)
    (caller : Option Identity) (request : Request) :
    (attend config method caller request).WritesLast
      (fun database => strict → database.ReadableMatches)
      (fun now => strict → config.setup.login.CanEnd now)
      (fun response? => strict → response?.all Response.fails = false) := by
  rw [attend]
  split
  · apply Call.WritesLast.map
    simp only [respond_fails]
    cases command method caller request with
    | error error => trivial
    | ok operation => exact Call.WritesLast.map (operation.writesLast strict config.setup)
  · trivial

/-- Requests write last, and succeed once they have changed something. -/
theorem answer_writesLast (strict : Prop) (config : ServerConfig) (request : Request) :
    (answer config request).WritesLast (fun database => strict → database.ReadableMatches)
      (fun now => strict → config.setup.login.CanEnd now)
      (fun response? => strict → response?.all Response.fails = false) := by
  cases named : Method.ofPath? request.path with
  | none =>
      rw [answer_of_unknown config named]
      trivial
  | some method =>
      rw [answer_shape config named]
      split
      · exact attend_writesLast strict config method none request
      · intro now
        dsimp only
        split
        · trivial
        · exact attend_writesLast strict config method _ request

end Api

/-! ## Errands -/

namespace Errand

def IsRead : Errand → Prop
  | .request message => ∃ method, Method.ofPath? message.path = some method ∧ method.IsRead
  | .operation action => action.IsRead
  | .job task => task.IsLookup

theorem IsRead.asks {errand : Errand} (reads : errand.IsRead) (config : ServerConfig) :
    (errand.call config).Asks Job.IsLookup := by
  cases errand with
  | request message =>
      obtain ⟨method, named, looks⟩ := reads
      exact Api.answer_asks named looks
  | operation action => exact Operation.IsRead.asks reads config.setup
  | job task => exact ⟨reads, fun answer => trivial⟩

/-- What an errand comes to is no success.  A request fails also where it is not
answered. -/
def fails : (errand : Errand) → errand.Reply → Bool
  | .request _, response? => Option.all Api.Response.fails response?
  | .operation action, reply => action.fails reply
  | .job task, reply => !Except.isOk (α := task.Result) reply

/-- Errands write last, and do not fail once they have changed something. -/
theorem writesLast (strict : Prop) (config : ServerConfig) (errand : Errand) :
    (errand.call config).WritesLast (fun database => strict → database.ReadableMatches)
      (fun now => strict → config.setup.login.CanEnd now)
      (fun reply => strict → errand.fails reply = false) := by
  cases errand with
  | request message => exact Api.answer_writesLast strict config message
  | operation action => exact action.writesLast strict config.setup
  | job task =>
      intro fresh patience before answer after readable ran
      refine ⟨trivial, fun changed meant => ?_⟩
      cases answer with
      | error error => exact absurd (Job.unchanged_of_error (fun _ => readable meant) ran) changed
      | ok result => rfl

end Errand

/-! ## The conduct of errands -/

namespace Server

/-- Time enough is left: what is stored is of a year of four digits, and a
session that starts when the clock is read ends at a time that can be
represented. -/
def Event.Timely (config : ServerConfig) : Event → Prop
  | .issue _ fresh => fresh.now.HasFourDigitYear
  | .tell _ now => config.setup.login.CanEnd now
  | _ => True

instance (config : ServerConfig) : DecidablePred (Event.Timely config)
  | .issue _ fresh => inferInstanceAs (Decidable (_ ≤ fresh.now.date.year ∧ _))
  | .tell _ now => inferInstanceAs (Decidable (config.setup.login.CanEnd now))
  | .arrive _ _ | .leave _ | .report _ _ | .work => inferInstanceAs (Decidable True)

def Unchanged (receipts : List Receipt) : Prop :=
  ∀ receipt ∈ receipts, receipt.after = receipt.before

theorem Unchanged.nil : Unchanged [] := by
  intro receipt member
  cases member

theorem Unchanged.concat {receipts : List Receipt} {receipt : Receipt}
    (earlier : Unchanged receipts) (last : receipt.after = receipt.before) :
    Unchanged (receipts ++ [receipt]) := by
  intro other member
  rcases List.mem_append.mp member with old | new
  · exact earlier other old
  · rw [List.mem_singleton.mp new]
    exact last

/-- A call has changed nothing yet and writes last, or it concludes. -/
def caution (strict : Prop) (config : ServerConfig) : Conduct where
  allows event := strict → event.Timely config
  good database := strict → database.ReadableMatches
  grows _ _ := True
  keeps _ errand own rest _ :=
    (errand.IsRead → rest.Asks Job.IsLookup ∧ Unchanged own) ∧
      (Unchanged own ∧
          rest.WritesLast (fun database => strict → database.ReadableMatches)
            (fun now => strict → config.setup.login.CanEnd now)
            (fun reply => strict → errand.fails reply = false) ∨
        rest.Concludes (fun now => strict → config.setup.login.CanEnd now)
          (fun reply => strict → errand.fails reply = false))
  tells _ errand own := (errand.IsRead → Unchanged own) ∧ Unchanged own.dropLast

theorem caution_lawful (strict : Prop) (config : ServerConfig) :
    (caution strict config).Lawful config where
  begins {number errand database} allowed good :=
    ⟨⟨fun reads => ⟨reads.asks config, .nil⟩, .inl ⟨.nil, errand.writesLast strict config⟩⟩,
      fun _ => .nil, .nil⟩
  carries {ticket own patience before after answer} allowed good keeps ran := by
    obtain ⟨reading, ⟨unchanged, writes⟩ | concludes⟩ := keeps
    · have readOnly (reads : ticket.errand.IsRead) : after = before :=
        Job.unchanged_of_lookup (reading reads).1.1 ran
      refine ⟨fun meant => ?_, trivial, ⟨fun reads => ?_, ?_⟩, ?_⟩
      · exact (Job.runWhile_effect ran).readableMatches (allowed meant) (good meant)
      · exact unchanged.concat (readOnly reads)
      · rw [List.dropLast_concat]
        exact unchanged
      · rintro result rfl
        obtain ⟨goesOn, ends⟩ := writes ticket.fresh patience before result after good ran
        refine ⟨fun reads => ⟨(reading reads).1.2 result, unchanged.concat (readOnly reads)⟩, ?_⟩
        -- a job that has changed nothing may be followed by others, any other was the last
        by_cases same : after = before
        · exact .inl ⟨unchanged.concat same, goesOn⟩
        · exact .inr (ends same)
    · exact concludes.elim
  told {number errand own next database now} onTime good keeps := by
    refine ⟨fun reads => ⟨(keeps.1 reads).1 now, (keeps.1 reads).2⟩, ?_⟩
    rcases keeps.2 with ⟨unchanged, writes⟩ | concludes
    · exact .inl ⟨unchanged, writes now⟩
    · exact .inr (concludes now onTime)
  reported {number errand own token next database reply} _ keeps := by
    refine ⟨fun reads => ⟨(keeps.1 reads).1 reply, (keeps.1 reads).2⟩, ?_⟩
    rcases keeps.2 with ⟨unchanged, writes⟩ | concludes
    · exact .inl ⟨unchanged, writes reply⟩
    · exact .inr (concludes reply)
  later _ keeps := keeps

end Server

end Carpool
