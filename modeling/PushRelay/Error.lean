import PushRelay.Enumeration
import PushRelay.Raised.Report
import PushRelay.Raised.System
import PushRelay.Value.Arguments

/-!
# Errors of the relay

Whatever the relay itself refuses or cannot do is one of five kinds of error,
each with a code that a program can tell apart and a message for a reader.
-/

namespace PushRelay

/-- The code of an error. -/
inductive ErrorCode where
  | config
  | validation
  | auth
  | transport
  | protocol
  deriving DecidableEq, Repr

/-- The code as it is written. -/
def ErrorCode.text : ErrorCode → String
  | .config => "CONFIG_ERROR"
  | .validation => "VALIDATION_ERROR"
  | .auth => "AUTH_ERROR"
  | .transport => "TRANSPORT_ERROR"
  | .protocol => "PROTOCOL_ERROR"

/-- All codes. -/
def ErrorCode.all : List ErrorCode := [.config, .validation, .auth, .transport, .protocol]

/-- The codes as an enumeration. -/
def errorCodes : Enumeration := ⟨"RelayErrorCode", ErrorCode.all.map fun c => (c.text, c.text)⟩

/-- An error of the relay. -/
inductive RelayError where
  /-- A client cannot be set up as asked. -/
  | config (message : Value)
  /-- A message is malformed in the named field. -/
  | validation (message field : Value)
  /-- No token is to be had for the credentials. -/
  | auth (message : Value)
  /-- The request for a target did not get through. -/
  | transport (message target : Value)
  /-- The answer for a target is not the one that a delivery gets. -/
  | protocol (message target status body : Value)
  deriving Repr

namespace RelayError

/-- The code of the error. -/
def code : RelayError → ErrorCode
  | .config _ => .config
  | .validation .. => .validation
  | .auth _ => .auth
  | .transport .. => .transport
  | .protocol .. => .protocol

/-- The message as it was given. -/
def message : RelayError → Value
  | .config message | .validation message _ | .auth message | .transport message _
  | .protocol message _ _ _ => message

/-- What the error says. -/
def text (e : RelayError) : String := e.message.shown

/-- What an error with this code is called. -/
def nameOf : ErrorCode → String
  | .config => "ConfigError"
  | .validation => "ValidationError"
  | .auth => "AuthError"
  | .transport => "TransportError"
  | .protocol => "ProtocolError"

/-- What the error is called. -/
def className (e : RelayError) : String := nameOf e.code

/-- The module that the errors of the relay belong to. -/
def home : String := "src.fcm_relay.exceptions"

/-- The name of the error together with the module it belongs to. -/
def qualifiedName (e : RelayError) : String := home ++ "." ++ e.className

/-- The details beside message and code, by name. -/
def details : RelayError → List (String × Value)
  | .config _ | .auth _ => []
  | .validation _ field => [("field", field)]
  | .transport _ target => [("target", target)]
  | .protocol _ target status body => [("target", target), ("status_code", status), ("body", body)]

/-- The target that the error is about, if it is about one. -/
def target? : RelayError → Option Value
  | .transport _ target | .protocol _ target _ _ => some target
  | _ => none

/-- The status that the error reports, if it has one. -/
def status? : RelayError → Option Value
  | .protocol _ _ status _ => some status
  | _ => none

/-- The body that the error reports, if it has one. -/
def body? : RelayError → Option Value
  | .protocol _ _ _ body => some body
  | _ => none

/-! ## Errors from arguments -/

/-- The parameters of an error with this code. -/
def parameters : ErrorCode → List (Parameter Value)
  | .config => [⟨"message", some (.text "Invalid client configuration")⟩]
  | .validation => [⟨"message", some (.text "Validation failed")⟩, ⟨"field", some .null⟩]
  | .auth => [⟨"message", some (.text "Credential exchange failed")⟩]
  | .transport => [⟨"message", none⟩, ⟨"target", some .null⟩]
  | .protocol =>
    [⟨"message", none⟩, ⟨"target", some .null⟩, ⟨"status_code", some .null⟩, ⟨"body", some (.text "")⟩]

/-- The code of the errors that are called so. -/
def codeNamed? (name : String) : Option ErrorCode := ErrorCode.all.find? fun c => nameOf c == name

/-- The error with this code that the given arguments make. -/
def ofArguments (code : ErrorCode) (args : List Value) (named : List (String × Value)) :
    Except Misuse RelayError := do
  let given ← Parameter.bind (nameOf code ++ ".__init__") (parameters code) args named
  let get name := (given.lookup name).getD .null
  match code with
  | .config => .ok (.config (get "message"))
  | .validation => .ok (.validation (get "message") (get "field"))
  | .auth => .ok (.auth (get "message"))
  | .transport => .ok (.transport (get "message") (get "target"))
  | .protocol =>
    .ok (.protocol (get "message") (get "target") (get "status_code") (get "body"))

/-- The name of what all errors of the relay have in common. -/
def commonName : String := "RelayError"

/-- The message and the code that arguments make without telling the kind of
error. -/
def commonArguments (args : List Value) (named : List (String × Value)) :
    Except Misuse (Value × Value) := do
  let parameters : List (Parameter Value) := [⟨"message", none⟩, ⟨"error_code", none⟩]
  let given ← Parameter.bind (commonName ++ ".__init__") parameters args named
  let get name := (given.lookup name).getD .null
  .ok (get "message", get "error_code")

end RelayError

/-! ## Errors of any origin -/

/-- An error of the relay, or of something it works with. -/
inductive Trouble where
  | relay (e : RelayError)
  | raised (e : Raised)
  deriving Repr

namespace Trouble

/-- What the error is called. -/
def className : Trouble → String
  | .relay e => e.className
  | .raised e => e.name

/-- What the error says. -/
def text : Trouble → String
  | .relay e => e.text
  | .raised e => e.text

/-- The error of the system or the relay that goes by a name. -/
def named (name : String) (args : List Value) : Except Misuse Trouble :=
  match RelayError.codeNamed? name with
  | some code => return .relay (← RelayError.ofArguments code args [])
  | none =>
    if name == RelayError.commonName then do
      let (message, _) ← RelayError.commonArguments args []
      .ok (.raised { name, text := message.shown, home := some RelayError.home })
    else return .raised (← Raised.ofSystem name args)

/-- The error on lines of its own. -/
def report : Trouble → Except Misuse String
  | .relay e => .ok (reportLine e.qualifiedName e.text)
  | .raised e => e.report

end Trouble

end PushRelay
