import Carpool.Match
import Carpool.Service.Login

/-!
# Configuration

The settings of a server, most of which have values of their own when they are
not given.
-/

namespace Carpool

/-- The path of the method that exchanges a provider's token for a session. -/
def loginPath : String := "/hope.v1.AuthService/Login"

/-- The settings of a server. -/
structure ServerConfig where
  host : String
  listenPort : Nat
  storePath : String
  jwtSecret : String
  sessionHours : UInt32
  clientId : String
  tokeninfoUrl : String
  allowedDomains : List String
  publicMethods : List String
  completionPolicy : CompletionPolicy
  requestTimeoutSeconds : Nat
  deriving DecidableEq

namespace ServerConfig

def defaultListenPort : Nat := 8080

def defaultSessionHours : UInt32 := 24

def defaultTokeninfoUrl : String := "https://oauth2.googleapis.com/tokeninfo"

def defaultTimeoutSeconds : Nat := 30

def defaultPublicMethods : List String := [loginPath]

def form : Json.Form ServerConfig :=
  .record
    (.defaulted "host" .text "127.0.0.1" <|
      .defaulted "port" (.nat 65535) defaultListenPort <|
      .required "store_path" .text <|
      .required "jwt_secret" .text <|
      .defaulted "session_ttl_hours" .word32 defaultSessionHours <|
      .required "google_client_id" .text <|
      .defaulted "google_tokeninfo_url" .text defaultTokeninfoUrl <|
      .defaulted "allowed_domains" (.list .text) [] <|
      .defaulted "public_methods" (.list .text) defaultPublicMethods <|
      .defaulted "completion_policy" CompletionPolicy.form .initial <|
      .defaulted "request_timeout_secs" (.nat 0xFFFFFFFFFFFFFFFF)
        defaultTimeoutSeconds .nil)
    (fun (host, listenPort, storePath, jwtSecret, sessionHours, clientId,
        tokeninfoUrl, allowedDomains, publicMethods, completionPolicy,
        requestTimeoutSeconds, _) =>
      ⟨host, listenPort, storePath, jwtSecret, sessionHours, clientId,
        tokeninfoUrl, allowedDomains, publicMethods, completionPolicy,
        requestTimeoutSeconds⟩)
    (fun config =>
      (config.host, config.listenPort, config.storePath, config.jwtSecret,
        config.sessionHours, config.clientId, config.tokeninfoUrl,
        config.allowedDomains, config.publicMethods, config.completionPolicy,
        config.requestTimeoutSeconds, ()))

def secret (config : ServerConfig) : Octets :=
  Octets.ofText config.jwtSecret

def loginSettings (config : ServerConfig) : Login.Settings where
  policy := .ofConfig config.clientId config.allowedDomains
  secret := config.secret
  sessionHours := config.sessionHours

end ServerConfig

end Carpool
