import Carpool.Config

/-!
# Methods

The methods that callers can call, and their paths.
-/

namespace Carpool

inductive Method
  | login
  | requestToJoin
  | acceptRideRequest
  | acceptRequest
  | rejectRequest
  | completeMatch
  | getMatch
  | listMatchesByRide
  | listMatchesByRider
  | listMyMatches
  | createOffer
  | getOffer
  | createRequest
  | getRequest
  | getMe
  | touchLastSeen
  deriving DecidableEq

namespace Method

def all : List Method :=
  [.login, .requestToJoin, .acceptRideRequest, .acceptRequest,
    .rejectRequest, .completeMatch, .getMatch, .listMatchesByRide,
    .listMatchesByRider, .listMyMatches, .createOffer, .getOffer,
    .createRequest, .getRequest, .getMe, .touchLastSeen]

def path : Method → String
  | .login => loginPath
  | .requestToJoin => "/hope.v1.MatchService/RequestToJoin"
  | .acceptRideRequest => "/hope.v1.MatchService/AcceptRideRequest"
  | .acceptRequest => "/hope.v1.MatchService/AcceptRequest"
  | .rejectRequest => "/hope.v1.MatchService/RejectRequest"
  | .completeMatch => "/hope.v1.MatchService/CompleteMatch"
  | .getMatch => "/hope.v1.MatchService/GetMatch"
  | .listMatchesByRide => "/hope.v1.MatchService/ListMatchesByRide"
  | .listMatchesByRider => "/hope.v1.MatchService/ListMatchesByRider"
  | .listMyMatches => "/hope.v1.MatchService/ListMyMatches"
  | .createOffer => "/hope.v1.RideService/CreateOffer"
  | .getOffer => "/hope.v1.RideService/GetOffer"
  | .createRequest => "/hope.v1.RideService/CreateRequest"
  | .getRequest => "/hope.v1.RideService/GetRequest"
  | .getMe => "/hope.v1.UserService/GetMe"
  | .touchLastSeen => "/hope.v1.UserService/TouchLastSeen"

def ofPath? (path : String) : Option Method :=
  all.find? fun method => method.path == path

end Method

end Carpool
