import PushRelay.Config
import PushRelay.Http.Request
import PushRelay.Octets.Encoding
import PushRelay.Token.Exchange
import PushRelay.Url.Basic

/-!
# Clients

A client sends to one endpoint. Where its tokens come from can be chosen, and
so can its transport; a client that makes its own transport gives it the
settings of its configuration.
-/

namespace PushRelay.Delivery

/-- Where tokens come from. -/
inductive Provider where
  /-- Some function of all credentials that there have been, the present ones
  last. -/
  | custom (fetch : List Value → Except Trouble BearerToken)
  /-- An authority, by the number of accounts that it has been given before. -/
  | authority (grants : Nat → Token.Grant)

/-- A client. -/
structure Client where
  /-- The endpoint as it was given. -/
  endpoint : String
  /-- The endpoint as requests go to it. -/
  url : Url
  apiKey : Value
  /-- The configuration, unless it is the common one. -/
  ownConfig : Option Config
  /-- The user agent of a transport of its own. -/
  ownTransport : Option String
  provider : Provider

/-- Why there is no client. -/
inductive SetupError where
  | refused (e : RelayError)
  | misused (e : Misuse)
  | host (e : Url.HostError)
  | header (e : Http.HeaderError)
  deriving Repr

namespace SetupError

/-- What the error is called. -/
def className : SetupError → String
  | .refused e => e.className
  | .misused e => e.className
  | .host e => e.className
  | .header _ => "UnicodeEncodeError"

/-- What the error says. -/
def message : SetupError → String
  | .refused e => e.text
  | .misused e => e.message
  | .host e => e.message
  | .header e => e.message

/-- Refuses to set up a client. -/
def refuse {α : Type} (message : String) : Except SetupError α :=
  .error (.refused (.config (.text message)))

end SetupError

namespace Client

open SetupError (refuse)

/-- The configuration. -/
def config (c : Client) : Config := c.ownConfig.getD {}

/-- The URL of an endpoint, which must be one of the web with a host. -/
def readEndpoint (endpoint : Value) : Except SetupError (String × Url) :=
  match endpoint with
  | .text text =>
    let bad (reason : String) : String := s!"failed to parse URL {endpoint.literal}: {reason}"
    match Url.parse text with
    | .error e => refuse (bad e.message)
    | .ok url =>
      if url.scheme == "http".toList || url.scheme == "https".toList then
        match url.shownHost with
        | .error e => .error (.host e)
        | .ok host =>
          if host.isEmpty then refuse (bad "expected an absolute http(s) URL") else .ok (text, url)
      else refuse (bad "expected an absolute http(s) URL")
  | v => .error (.misused (.urlNotText v.qualifiedTypeName v.literal))

/-- The user agent as a header. Octets are read as UTF-8 if they are all
characters of it. -/
def readUserAgent (agent : Value) : Except SetupError String :=
  match agent with
  | .text s =>
    match Http.headerText s with
    | .ok s => .ok s
    | .error e => .error (.header e)
  | .bytes octets =>
    if (Octets.Encoding.utf8.pieces octets).all (·.outcome.isOk) then
      .ok (Octets.Encoding.utf8.decodeLossy octets)
    else .ok (Octets.Encoding.latin1.decodeLossy octets)
  | v => .error (.misused (.headerNotText v.qualifiedTypeName))

/-- Sets up a client. -/
def new (endpoint apiKey : Value) (ownConfig : Option Config) (ownsTransport : Bool)
    (provider : Provider) : Except SetupError Client :=
  if !endpoint.truthy then refuse "missing FCM endpoint url"
  else if !apiKey.truthy then refuse "missing API key"
  else do
    let (text, url) ← readEndpoint endpoint
    let ownTransport ←
      if ownsTransport then do
        let agent ← readUserAgent (ownConfig.getD {}).userAgent
        .ok (some agent)
      else .ok none
    .ok { endpoint := text, url, apiKey, ownConfig, ownTransport, provider }

/-- Sets up a client for the send endpoint of a project. -/
def forProject (project apiKey : Value) (ownConfig : Option Config) (ownsTransport : Bool)
    (provider : Provider) : Except SetupError Client :=
  if !project.truthy then refuse "missing Firebase project id"
  else new (.text (endpointFor project)) apiKey ownConfig ownsTransport provider

/-- The settings of a transport of the client's own: its timeout, and its
headers by name. -/
def transportSettings (c : Client) : Option (Value × List (String × Value)) :=
  c.ownTransport.map fun _ => (c.config.requestTimeout, [("User-Agent", c.config.userAgent)])

/-- How a request with a token is authorized: the user of the endpoint's URL,
if it names one, comes before the token. Both the token and the host are sent
as headers. -/
def authorization (c : Client) (token : BearerToken) : Except Http.HeaderError String := do
  let bearer ← Http.headerText token.header
  let _ ← Http.headerText (String.ofList c.url.hostText)
  .ok (c.url.authorization?.getD bearer)

end Client
end PushRelay.Delivery
