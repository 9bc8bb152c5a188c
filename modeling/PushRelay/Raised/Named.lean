import PushRelay.Raised.System
import PushRelay.Value.Arguments

/-!
# Errors by name

The error that someone raises under a name, from given arguments. What cannot
be made from its arguments raises an error of its own in its place.
-/

namespace PushRelay
namespace Raised

/-- An error of the authority. -/
def ofAuthority (name : String) (args : List Value) : Except Misuse Raised :=
  if !authorityNames.contains name then ofSystem name args
  else if name == "OSError" then numbered .authority name args
  else if ["ReauthFailError", "ReauthSamlChallengeFailError"].contains name then do
    let given ← Parameter.bind "ReauthFailError.__init__" [⟨"message", some .null⟩] args []
    let message := (given.lookup "message").getD .null
    .ok { origin := .authority, name, text := s!"Reauthentication failed. {message.shown}" }
  else .ok (plain .authority name args)

/-- The errors of the transport that always say the same. -/
def fixedTexts : List (String × String) := [
  ("StreamConsumed",
    "Attempted to read or stream some content, but the content has already been streamed. " ++
    "For requests, this could be due to passing a generator as request content, and then " ++
    "receiving a redirect response or a secondary request as part of an authentication flow." ++
    "For responses, this could be due to attempting to stream the response content more than once."),
  ("StreamClosed", "Attempted to read or stream content, but the stream has been closed."),
  ("ResponseNotRead",
    "Attempted to access streaming response content, without having called \x60read()\x60."),
  ("RequestNotRead",
    "Attempted to access streaming request content, without having called \x60read()\x60.")]

/-- What makes the errors of the transport of this name, which say the one
message they are made from. -/
def messageMaker? (name : String) : Option String :=
  if requestFailures.contains name then some "RequestError.__init__"
  else if ["HTTPError", "HTTPStatusError", "InvalidURL", "StreamError", "CookieConflict"].contains name then
    some (name ++ ".__init__")
  else none

/-- An error of the transport. -/
def ofTransport (name : String) (args : List Value) : Except Misuse Raised :=
  match fixedTexts.lookup name, messageMaker? name with
  | some text, _ => do
    let _ ← Parameter.bind (name ++ ".__init__") ([] : List (Parameter Value)) args []
    .ok { origin := .transport, name, text }
  | none, some maker => do
    let _ ← Parameter.bind maker [⟨"message", none⟩] args []
    if name == "HTTPStatusError" then .error (.missingNamed maker ["request", "response"])
    else .ok (plain .transport name args)
  | none, none => ofSystem name args

/-- The error that is raised under a name, or the one of trying to make it. -/
def named (origin : Origin) (name : String) (args : List Value) : Raised :=
  let made := match origin with
    | .system => ofSystem name args
    | .authority => ofAuthority name args
    | .transport => ofTransport name args
  match made with
  | .ok e => e
  | .error e => ofMisuse e

end Raised
end PushRelay
