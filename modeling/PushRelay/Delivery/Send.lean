import PushRelay.Delivery.Client
import PushRelay.Delivery.Outcome
import PushRelay.Delivery.Session
import PushRelay.Message.Translation

/-!
# Sending

A message is checked, a token is fetched for it, and then one request is made
for each target, in the order of the targets and all within one scope. `send`
stops at the first target that fails; `sendEach` records what became of every
target.
-/

namespace PushRelay.Delivery
namespace Client

/-! ## Tokens -/

/-- Where a token that was obtained is logged. -/
def tokenSite : Log.Site where
  logger := "src.fcm_relay.auth"
  path := "src/fcm_relay/auth"
  function := "fetch_token"
  line := 66

/-- Fetches a token for some credentials. -/
def fetch (c : Client) (env : Surroundings) (credentials : Value) (s : Session) :
    Except Failure BearerToken × Session :=
  let s := { s with credentials := s.credentials ++ [credentials] }
  match c.provider with
  | .custom fetch =>
    match fetch s.credentials with
    | .ok token => (.ok token, s)
    | .error e => (.error (.ofTrouble e), s)
  | .authority grants =>
    let grant := grants s.calls.length
    let x := Token.exchange credentials grant
    let s := { s with calls := s.calls ++ (x.call? c.config.scope grant).toList }
    match x.outcome with
    | .error e => (.error (.ofTrouble e), s)
    | .ok token =>
      let name := Token.holder (x.account.getD [])
      (.ok token, s.log env tokenSite .debug s!"Obtained access token for {name}" [])

/-! ## One target -/

/-- The logger of deliveries. -/
def deliveryLogger : String := "src.fcm_relay.client"

/-- A place where deliveries are logged. -/
def deliverySite (function : String) (line : Nat) (short : line < Nat.pow 2 31 := by decide) :
    Log.Site :=
  ⟨deliveryLogger, "src/fcm_relay/client", function, line, short⟩

/-- Where the response of a delivery is logged. -/
def responseSite : Log.Site := deliverySite "_deliver" 219

/-- Where the delivery of all of a message is logged. -/
def deliveredSite : Log.Site := deliverySite "send" 129

/-- Where a delivery that failed is logged, of a message that is sent whatever
becomes of the targets. -/
def failureSite : Log.Site := deliverySite "send_each" 161

/-- Where the number of the deliveries of such a message is logged. -/
def countSite : Log.Site := deliverySite "send_each" 182

/-- Makes a request with some body, if it can be authorized and the transport
is open. -/
def post (c : Client) (env : Surroundings) (token : BearerToken) (body : String) (s : Session) :
    Except Failure Reply × Session :=
  match c.authorization token with
  | .error e => (.error (.header e), s)
  | .ok authorization =>
    if s.closed then (.error .closed, s)
    else
      let answer := env.answers s.requests.length
      let request : Http.Request := {
        method := "POST"
        url := c.url.text
        authorization
        contentType := "application/json"
        userAgent := c.ownTransport
        body }
      (.ok answer.reply,
        { s with requests := s.requests ++ [request], clock := s.clock + answer.takes })

/-- The report of a response that is not what a delivery gets. -/
def badResponse (target : Value) (r : Http.Response) (message : String) : Failure :=
  match r.text with
  | .ok body => .relay (.protocol (.text message) target (.int r.status) (.text body))
  | .error e => .body e

/-- What a reply says about the delivery to a target: the value in its body,
or why it failed. -/
def judge (c : Client) (target : Value) : Reply → Except Failure Value
  | .failed e =>
    if e.isRequestFailure then
      .error (.relay (.transport (.text s!"request to {c.endpoint} failed: {e.text}") target))
    else .error (.raised e)
  | .response r =>
    if r.status ≠ 200 then
      .error (badResponse target r s!"invalid status code {r.status}: {r.reasonText}")
    else
      match r.data with
      | .ok data => .ok data
      | .error e => .error (badResponse target r s!"undecodable response body: {e.message}")

/-- Delivers a message to its target. -/
def deliver (c : Client) (env : Surroundings) (token : BearerToken) (wire : WireMessage) (s : Session) :
    Except Failure DeliveryResult × Session :=
  match wire.encode with
  | .error e => (.error (.relay e), s)
  | .ok body =>
    match c.post env token body s with
    | (.error e, s) => (.error e, s)
    | (.ok reply, s) =>
      match c.judge wire.token reply with
      | .error e => (.error e, s)
      | .ok data =>
        (.ok ⟨wire.token, data⟩,
          s.log env responseSite .debug s!"Delivered to target, response: {data.shown}" [])

/-! ## All targets -/

/-- Delivers messages in order as far as the first that fails. -/
def deliverAll (c : Client) (env : Surroundings) (token : BearerToken) :
    List WireMessage → Session → Except Failure (List DeliveryResult) × Session
  | [], s => (.ok [], s)
  | wire :: rest, s =>
    match c.deliver env token wire (s.bind [("target", wire.token)]) with
    | (.error e, s) => (.error e, s)
    | (.ok result, s) =>
      match c.deliverAll env token rest s with
      | (.error e, s) => (.error e, s)
      | (.ok results, s) => (.ok (result :: results), s)

/-- The error that a failure is recorded as: that a request did not get
through, or that its answer is not what a delivery gets. Any other failure is
none of the target's. -/
def recorded? : Failure → Option RelayError
  | .relay e =>
    match e.code with
    | .transport | .protocol => some e
    | _ => none
  | _ => none

/-- The attributes of the record of a delivery that failed. -/
def outcomeAttributes (o : TargetOutcome) : List (String × Value) := [
  ("error_code", o.errorCode), ("status_code", o.statusCode), ("latency_ms", o.latency)]

/-- Delivers a message to its target, and records what became of it. -/
def attempt (c : Client) (env : Surroundings) (token : BearerToken) (wire : WireMessage) (s : Session) :
    Except Failure TargetOutcome × Session :=
  let start := s.seconds
  match c.deliver env token wire s with
  | (.ok result, s) =>
    (.ok {
      target := wire.token
      success := .bool true
      result := some result
      latency := .int (Session.milliseconds start s.seconds)
      timestamp := .instant s.now }, s)
  | (.error failure, s) =>
    match recorded? failure with
    | none => (.error failure, s)
    | some e =>
      let outcome : TargetOutcome := {
        target := wire.token
        success := .bool false
        errorCode := .text e.code.text
        errorMessage := e.message
        statusCode := e.status?.getD .null
        latency := .int (Session.milliseconds start s.seconds)
        timestamp := .instant s.now }
      (.ok outcome,
        s.log env failureSite .warning s!"Delivery failed: {e.text}" (outcomeAttributes outcome))

/-- Delivers messages in order, and records what became of each. -/
def attemptAll (c : Client) (env : Surroundings) (token : BearerToken) :
    List WireMessage → Session → Except Failure (List TargetOutcome) × Session
  | [], s => (.ok [], s)
  | wire :: rest, s =>
    match c.attempt env token wire (s.bind [("target", wire.token)]) with
    | (.error e, s) => (.error e, s)
    | (.ok outcome, s) =>
      match c.attemptAll env token rest s with
      | (.error e, s) => (.error e, s)
      | (.ok outcomes, s) => (.ok (outcome :: outcomes), s)

/-! ## Messages -/

/-- The message, if it is valid, and a token for it. -/
def prepare (c : Client) (env : Surroundings) (message : Option Message) (credentials : Value)
    (s : Session) : Except Failure (Message × BearerToken) × Session :=
  match Message.validate message c.config with
  | .error e => (.error (.ofMessage e), s)
  | .ok m =>
    match c.fetch env credentials s with
    | (.error e, s) => (.error e, s)
    | (.ok token, s) => (.ok (m, token), s)

/-- Does something with the wire messages of a message, in a scope that tells
how many targets there are. -/
def withTargets {α : Type} (env : Surroundings) (m : Message) (s : Session)
    (body : List WireMessage → Scope → Session → Except Failure α × Session) :
    Except Failure α × Session :=
  match m.targets.length with
  | .error e => (.error (.misused e), s)
  | .ok count =>
    s.within env [("target_count", .int count)] fun scope s =>
      match m.translateAll with
      | .error e => (.error (.misused e), s)
      | .ok wires => body wires scope s

/-- Sends a message to every target, stopping at the first that fails. -/
def send (c : Client) (env : Surroundings) (message : Option Message) (credentials : Value)
    (s : Session) : Except Failure (List DeliveryResult) × Session :=
  match c.prepare env message credentials s with
  | (.error e, s) => (.error e, s)
  | (.ok (m, token), s) =>
    withTargets env m s fun wires scope s =>
      match c.deliverAll env token wires s with
      | (.error e, s) => (.error e, s)
      | (.ok results, s) =>
        let elapsed := (scope.elapsed s.clock).wholeText
        (.ok results, s.log env deliveredSite .info
          s!"Delivered message to {results.length} target(s) in {elapsed}ms" [])

/-- Sends a message to every target, for the result of the first. -/
def sendFirst (c : Client) (env : Surroundings) (message : Option Message) (credentials : Value)
    (s : Session) : Except Failure DeliveryResult × Session :=
  match c.send env message credentials s with
  | (.error e, s) => (.error e, s)
  | (.ok (first :: _), s) => (.ok first, s)
  | (.ok [], s) => (.error .noResult, s)

/-- Sends a message to every target, whatever becomes of the others. -/
def sendEach (c : Client) (env : Surroundings) (message : Option Message) (credentials : Value)
    (s : Session) : Except Failure (List TargetOutcome) × Session :=
  match c.prepare env message credentials s with
  | (.error e, s) => (.error e, s)
  | (.ok (m, token), s) =>
    withTargets env m s fun wires _ s =>
      match c.attemptAll env token wires s with
      | (.error e, s) => (.error e, s)
      | (.ok outcomes, s) =>
        let delivered := (outcomes.filter (·.success.truthy)).length
        (.ok outcomes, s.log env countSite .info
          s!"Delivered message to {delivered}/{outcomes.length} target(s)" [])

/-! ## Closing -/

/-- Closes the transport if it is the client's own. -/
def close (c : Client) (s : Session) : Session :=
  if c.ownTransport.isSome then { s with closed := true } else s

/-- Does something and closes the client, whether it succeeds or not. -/
def closing {ε α : Type} (c : Client) (body : Session → Except ε α × Session) (s : Session) :
    Except ε α × Session :=
  let (result, s) := body s
  (result, c.close s)

end Client
end PushRelay.Delivery
