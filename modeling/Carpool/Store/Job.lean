import Carpool.Store.Write

/-!
# Store jobs

The contract between the services and the store: what the services may ask of
it, what each job answers, and how each is carried out.  Jobs run one at a time.
A job that reads leaves the database as it is; a job that writes is a sequence
of steps, of which an absent caller cuts off the rest.
-/

namespace Carpool

namespace Store

/-- The outcome of a compare-and-swap. -/
inductive Swap
  | applied
  /-- The stored value was not the expected one, or there is no such row. -/
  | stale
  deriving DecidableEq

def Swap.isApplied : Swap → Bool
  | .applied => true
  | .stale => false

/-- The outcome of a swap that changed so many rows. -/
def Swap.ofChanged (changed : Nat) : Swap :=
  if changed = 0 then .stale else .applied

/-- What the services ask of the store. -/
inductive Job
  | createUser (input : NewUser)
  | getUser (id : Uuid)
  | findUserByEmail (email : String)
  | swapLastSeen (id : Uuid) (expected new : Instant)
  | createOffer (input : NewOffer)
  | getOffer (id : Uuid)
  | createRequest (input : NewRequest)
  | getRequest (id : Uuid)
  | swapRequestStatus (id : Uuid) (expected new : RequestStatus)
  | createMatch (input : NewMatch)
  | getMatch (id : Uuid)
  | listMatchesByRide (ride : Uuid)
  | listMatchesByRider (rider : Uuid)
  | listMatchesForUser (user : Uuid)
  | swapMatchStatus (id : Uuid) (expected new : MatchStatus)
  | forceMatchStatus (id : Uuid) (new : MatchStatus)
  | acceptRideRequest (acceptance : Acceptance)
  deriving DecidableEq

/-- What a job answers when it does not fail. -/
def Job.Result : Job → Type
  | .createUser _ => User
  | .getUser _ | .findUserByEmail _ => Option User
  | .createOffer _ => RideOffer
  | .getOffer _ => Option RideOffer
  | .createRequest _ => RideRequest
  | .getRequest _ => Option RideRequest
  | .createMatch _ => Match
  | .getMatch _ | .forceMatchStatus _ _ => Option Match
  | .listMatchesByRide _ | .listMatchesByRider _ | .listMatchesForUser _ =>
      List Match
  | .swapLastSeen _ _ _ | .swapRequestStatus _ _ _ | .swapMatchStatus _ _ _ =>
      Swap
  | .acceptRideRequest _ => Option Accepted

/-- The name of a job in the contract. -/
def Job.name : Job → String
  | .createUser _ => "create_user"
  | .getUser _ => "get_user"
  | .findUserByEmail _ => "find_user_by_email"
  | .swapLastSeen _ _ _ => "swap_last_seen"
  | .createOffer _ => "create_offer"
  | .getOffer _ => "get_offer"
  | .createRequest _ => "create_request"
  | .getRequest _ => "get_request"
  | .swapRequestStatus _ _ _ => "swap_request_status"
  | .createMatch _ => "create_match"
  | .getMatch _ => "get_match"
  | .listMatchesByRide _ => "list_matches_by_ride"
  | .listMatchesByRider _ => "list_matches_by_rider"
  | .listMatchesForUser _ => "list_matches_for_user"
  | .swapMatchStatus _ _ _ => "swap_match_status"
  | .forceMatchStatus _ _ => "force_match_status"
  | .acceptRideRequest _ => "accept_ride_request"

/-- What a job is given besides its arguments: identifiers for the rows that it
creates, and the reading of the clock when it is issued. -/
structure Fresh where
  first : Uuid
  second : Uuid
  now : Instant
  deriving DecidableEq

/-- How a job is carried out: it reads the contents, or it writes. -/
inductive Plan (α : Type)
  | read (look : Database → Except StoreError α)
  | write (steps : Write (Except StoreError α))

/-- The steps of a job.  One that reads answers what it sees. -/
def Plan.steps {α : Type} :
    Plan α → Database → Write (Except StoreError α)
  | .read look, database => .done (look database)
  | .write steps, _ => steps

/-- A write of one statement, for a caller who is there when its turn comes. -/
def Write.single {α : Type} (statement : Statement)
    (result : Report → Except StoreError α) : Write (Except StoreError α) :=
  .check (.execute statement fun report => .done (result report))

def Fresh.user (fresh : Fresh) (input : NewUser) : User where
  userId := fresh.first
  email := normalEmail input.email
  name := input.name
  photoUrl := input.photoUrl
  geohash := none
  lastSeen := fresh.now.toSecond

def Fresh.offer (fresh : Fresh) (input : NewOffer) : RideOffer where
  offerId := fresh.first
  driverId := some input.driverId
  fromGeo := input.fromGeo
  toGeo := input.toGeo
  fare := input.fare
  departAt := input.departAt.toMicrosecond
  seats := input.seats
  status := input.status

def Fresh.request (fresh : Fresh) (input : NewRequest) : RideRequest where
  requestId := fresh.first
  userId := input.userId
  fromGeo := input.fromGeo
  toGeo := input.toGeo
  departAt := input.departAt.toMicrosecond
  seats := input.seats
  status := .active

def Fresh.newMatch (fresh : Fresh) (input : NewMatch) : Match where
  matchId := fresh.first
  riderId := input.riderId
  driverId := input.driverId
  rideId := input.rideId
  status := input.status
  createdAt := fresh.now.toMicrosecond

/-- The offer and the match that an acceptance makes. -/
def Fresh.accepted (fresh : Fresh) (acceptance : Acceptance) : Accepted where
  offer :=
    { offerId := fresh.first
      driverId := some acceptance.driverId
      fromGeo := acceptance.fromGeo
      toGeo := acceptance.toGeo
      fare := Binary64.zero
      departAt := acceptance.departAt.toMicrosecond
      seats := acceptance.seats
      status := .matched }
  record :=
    { matchId := fresh.second
      riderId := acceptance.riderId
      driverId := acceptance.driverId
      rideId := fresh.first
      status := .accepted
      createdAt := fresh.now.toMicrosecond }

/-- The steps of an acceptance.  The offer and the match are inserted, then the
request goes from active to matched; if it was not active, all is undone. -/
def acceptSteps (request : Uuid) (accepted : Accepted) :
    Write (Except StoreError (Option Accepted)) :=
  .check <| .start <|
    .execute (.insertOffer accepted.offer) fun _ =>
      .execute (.insertMatch (.ofMatch accepted.record)) fun _ =>
        .execute
          (.swapRequestStatus request.text RequestStatus.active.name
            RequestStatus.matched.name)
          fun report =>
            match Swap.ofChanged report.changed with
            | .stale => .done (.ok none)
            | .applied => .check <| .commit <| .done (.ok (some accepted))

/-- Read matches: all rows are read before the first is decoded. -/
def decodeMatches (rows : List MatchRow) : Except StoreError (List Match) := do
  let _ ← rows.mapM MatchRow.readable
  rows.mapM MatchRow.decode

def Job.plan (fresh : Fresh) : (job : Job) → Plan job.Result
  | .createUser input =>
      let user := fresh.user input
      .write (.single (.insertUser (.ofUser user)) fun _ => .ok user)
  | .getUser id =>
      .read fun database =>
        (database.findUser? id.text).mapM UserRow.decode
  | .findUserByEmail email =>
      .read fun database =>
        (database.findUserByEmail? (normalEmail email)).mapM UserRow.decode
  | .swapLastSeen id expected new =>
      .write (.single (.swapLastSeen id.text expected.second new.second)
        fun report => .ok (.ofChanged report.changed))
  | .createOffer input =>
      let offer := fresh.offer input
      .write (.single (.insertOffer offer) fun _ => .ok offer)
  | .getOffer id =>
      .read fun database =>
        (database.findOffer? id.text).mapM OfferRow.decode
  | .createRequest input =>
      let request := fresh.request input
      .write (.single (.insertRequest (.ofRequest request)) fun _ =>
        .ok request)
  | .getRequest id =>
      .read fun database =>
        (database.findRequest? id.text).mapM RequestRow.decode
  | .swapRequestStatus id expected new =>
      .write (.single (.swapRequestStatus id.text expected.name new.name)
        fun report => .ok (.ofChanged report.changed))
  | .createMatch input =>
      let record := fresh.newMatch input
      .write (.single (.insertMatch (.ofMatch record)) fun _ => .ok record)
  | .getMatch id =>
      .read fun database =>
        (database.findMatch? id.text).mapM MatchRow.decode
  | .listMatchesByRide ride =>
      .read fun database => decodeMatches (database.matchesByRide ride.text)
  | .listMatchesByRider rider =>
      .read fun database => decodeMatches (database.matchesByRider rider.text)
  | .listMatchesForUser user =>
      .read fun database => decodeMatches (database.matchesForUser user.text)
  | .swapMatchStatus id expected new =>
      .write (.single (.swapMatchStatus id.text expected.name new.name)
        fun report => .ok (.ofChanged report.changed))
  | .forceMatchStatus id new =>
      .write (.single (.setMatchStatus id.text new.name) fun report =>
        report.returned.mapM MatchRow.decode)
  | .acceptRideRequest acceptance =>
      .write (acceptSteps acceptance.requestId (fresh.accepted acceptance))

/-- The answer to a caller who is still there at the end: a broken constraint is
a failure of the database. -/
def Ending.answer? {α : Type} :
    Ending (Except StoreError α) → Option (Except StoreError α)
  | .done result => some result
  | .violated violation => some (.error (.violation violation))
  | .abandoned => none

/-- Carry out a job for a caller with some patience.  The result is the answer,
if the job was not abandoned, and the contents after it. -/
def Job.runWhile (job : Job) (fresh : Fresh) (patience : Patience)
    (database : Database) :
    Option (Except StoreError job.Result) × Database :=
  match job.plan fresh with
  | .read look => (some (look database), database)
  | .write steps =>
      let (ending, after) := steps.runOn patience database
      (ending.answer?, after)

/-- The wording for a write that has lost its caller. -/
def lostCaller : String := "write abandoned by its caller"

/-- Carry out a job for a caller who stays. -/
def Job.run (job : Job) (fresh : Fresh) (database : Database) :
    Except StoreError job.Result × Database :=
  match job.plan fresh with
  | .read look => (look database, database)
  | .write steps =>
      match steps.runOn none database with
      | (.done result, after) => (result, after)
      | (.violated violation, after) => (.error (.violation violation), after)
      | (.abandoned, after) => (.error (.reported lostCaller), after)

end Store

end Carpool
