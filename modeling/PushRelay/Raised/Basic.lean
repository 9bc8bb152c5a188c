import PushRelay.Value.Misuse
import PushRelay.Value.Text

/-!
# Errors of others

What the relay works with raises errors of its own. Such an error has a name,
which means something only together with whose error it is: the authority that
grants tokens and the transport each have errors that go by the names of the
system's.
-/

namespace PushRelay

/-- Whose error it is. -/
inductive Origin where
  | system
  | authority
  | transport
  deriving DecidableEq, Repr

/-- A place in a source that could not be read, with what is written there and
how far the place goes. What is not known is null. -/
structure SourcePlace where
  file : Value := .null
  line : Value := .null
  column : Value := .null
  text : Value := .null
  lastColumn : Value := .null
  deriving Repr

/-- An error that something the relay works with has raised. -/
structure Raised where
  origin : Origin := .system
  name : String
  /-- What the error says. -/
  text : String
  /-- The module that the error is reported with, unless it is known
  everywhere. -/
  home : Option String := none
  /-- For an error in a source, what is wrong and where. -/
  source : Option (Value × SourcePlace) := none
  deriving Repr

namespace Raised

/-- An error that says what it was made from. -/
def plain (origin : Origin) (name : String) (args : List Value) : Raised :=
  { origin, name, text := Value.argumentsText args }

/-- The error of misusing a value. -/
def ofMisuse (e : Misuse) : Raised := { name := e.className, text := e.message }

/-- Whether the error is one of the given origin and one of these names. -/
def isOneOf (origin : Origin) (names : List String) (e : Raised) : Bool :=
  e.origin == origin && names.contains e.name

/-! ## Errors of the authority -/

/-- The names of the authority's errors. -/
def authorityNames : List String := [
  "GoogleAuthError", "TransportError", "RefreshError", "UserAccessTokenError",
  "DefaultCredentialsError", "MutualTLSChannelError", "ClientCertError", "OAuthError",
  "ReauthFailError", "ReauthSamlChallengeFailError", "MalformedError", "InvalidResource",
  "InvalidOperation", "InvalidValue", "InvalidType", "OSError", "TimeoutError", "ResponseError"]

/-- Whether the error comes from the authority. -/
def isRefusal (e : Raised) : Bool := e.isOneOf .authority authorityNames

/-- Whether a key was not found, or a value was not acceptable. -/
def isBadInput (e : Raised) : Bool :=
  e.isOneOf .system ["KeyError", "ValueError", "UnicodeError", "UnicodeDecodeError",
    "UnicodeEncodeError", "UnicodeTranslateError"] ||
  e.isOneOf .authority ["MalformedError", "InvalidResource", "InvalidOperation", "InvalidValue"]

/-! ## Errors of the transport -/

/-- The names of the errors that mean that a request did not get through. -/
def requestFailures : List String := [
  "RequestError", "TransportError", "TimeoutException", "ConnectTimeout", "ReadTimeout",
  "WriteTimeout", "PoolTimeout", "NetworkError", "ConnectError", "ReadError", "WriteError",
  "CloseError", "ProxyError", "UnsupportedProtocol", "ProtocolError", "LocalProtocolError",
  "RemoteProtocolError", "DecodingError", "TooManyRedirects"]

/-- Whether the error means that a request did not get through. -/
def isRequestFailure (e : Raised) : Bool := e.isOneOf .transport requestFailures

end Raised
end PushRelay
