import PushRelay.Error
import PushRelay.Json.Reader
import PushRelay.Token.Bearer

/-!
# Exchanging credentials

The credentials of an account are a JSON object. The authority is given the
account together with a scope; it may refuse the account, or refuse it a
token, or grant one. Tokens are never kept.
-/

namespace PushRelay.Token

/-- What the authority does. -/
inductive Grant where
  /-- The account is not acceptable. -/
  | refuseAccount (e : Raised)
  /-- The account gets no token. -/
  | refuseToken (e : Raised)
  /-- The account gets a token, which may be empty. -/
  | accept (token expiry : Value)
  deriving Repr

/-- What the authority was given, and whether it came to asking for a token. -/
structure Call where
  account : Value
  scope : Value
  asked : Bool
  deriving Repr

/-- That there is no token, for a reason. -/
def refusal (reason : String) : RelayError := .auth (.text reason)

/-- The account that credentials describe. -/
def readAccount (credentials : Value) : Except RelayError Entries :=
  match Json.read credentials with
  | .error e => .error (refusal s!"error reading credentials: {e.message}")
  | .ok v =>
    match v.entries? with
    | none => .error (refusal "error reading credentials: expected a JSON object")
    | some account => .ok account

/-- Who an account belongs to. -/
def holder (account : Entries) : String :=
  (Entries.getD account "client_email" (.text "unknown account")).shown

/-- What comes of an account with the authority. What the authority raises is
a refusal if it is of a kind that is expected where it is raised, and passes
through if it is not. -/
def Grant.outcome : Grant → Except Trouble BearerToken
  | .refuseAccount e =>
    if e.isBadInput then .error (.relay (refusal s!"error getting credentials: {e.text}"))
    else .error (.raised e)
  | .refuseToken e =>
    if e.isRefusal then .error (.relay (refusal s!"error getting token: {e.text}"))
    else .error (.raised e)
  | .accept token expiry =>
    if token.truthy then .ok ⟨token, expiry⟩
    else .error (.relay (refusal "error getting token: empty access token"))

/-- Whether the authority was asked for a token. -/
def Grant.asked : Grant → Bool
  | .refuseAccount _ => false
  | _ => true

/-- An exchange: what came of it, and the account that the authority was
given, if it came to that. -/
structure Exchange where
  outcome : Except Trouble BearerToken
  account : Option Entries

/-- Exchanges credentials for a token; `grant` is what the authority does if
it is given the account. -/
def exchange (credentials : Value) (grant : Grant) : Exchange :=
  match readAccount credentials with
  | .error e => ⟨.error (.relay e), none⟩
  | .ok account => ⟨grant.outcome, some account⟩

/-- The call that an exchange made, if it made one. -/
def Exchange.call? (x : Exchange) (scope : Value) (grant : Grant) : Option Call :=
  x.account.map fun account => ⟨.dict account, scope, grant.asked⟩

/-- Exchanges credentials one after the other. The authority goes by the
number of accounts that it has been given, of which there have been `given`
before. -/
def exchangeAll (scope : Value) (grants : Nat → Grant) :
    List Value → (given : Nat) → List (Except Trouble BearerToken × Option Call)
  | [], _ => []
  | credentials :: rest, given =>
    let x := exchange credentials (grants given)
    let call := x.call? scope (grants given)
    (x.outcome, call) :: exchangeAll scope grants rest (given + call.toList.length)

end PushRelay.Token
