import PushRelay.Config
import PushRelay.Delivery.Client
import PushRelay.Delivery.Outcome
import PushRelay.Delivery.Send
import PushRelay.Error
import PushRelay.Instant.Iso8601
import PushRelay.Log.Setup
import PushRelay.Message.Payload
import PushRelay.Message.Translation
import PushRelay.Message.Validation
import PushRelay.Raised.Named
import PushRelay.Scope
import PushRelay.Token.Exchange
import PushRelay.Url.Basic
import PushRelay.Proofs.Delivery.Agreement
import PushRelay.Proofs.Delivery.BestEffort
import PushRelay.Proofs.Delivery.InOrder
import PushRelay.Proofs.Delivery.Refusal
import PushRelay.Proofs.Json.Grammar
import PushRelay.Proofs.Json.Unambiguity
import PushRelay.Proofs.Json.Numerals
import PushRelay.Proofs.Json.Reading
import PushRelay.Proofs.Json.Printable
import PushRelay.Proofs.Json.RoundTrip
import PushRelay.Proofs.Message.RoundTrip
import PushRelay.Proofs.Json.Strictness
import PushRelay.Proofs.Delivery.Restoration
import PushRelay.Proofs.Delivery.Authorization
import PushRelay.Proofs.Delivery.Batches
import PushRelay.Proofs.Delivery.Lifecycle
import PushRelay.Proofs.Delivery.Secrecy
import PushRelay.Proofs.Message.Strictness
import PushRelay.Proofs.Scope.Nesting
import PushRelay.Proofs.Message.Serializability
import PushRelay.Proofs.Json.Lenient
import PushRelay.Proofs.Number.Magnitude
import PushRelay.Proofs.Log.Line
import PushRelay.Proofs.Delivery.Reporting
import PushRelay.Proofs.Delivery.Journal
import PushRelay.Proofs.Message.Rules
import PushRelay.Proofs.Message.Rereading
import PushRelay.Proofs.Message.Typing
import PushRelay.Proofs.Token.Containment
import PushRelay.Proofs.Json.Shown
import PushRelay.Proofs.Log.Fields
import PushRelay.Proofs.Log.Decoding
import PushRelay.Proofs.Log.Overwriting
import PushRelay.Proofs.Scope.Bindings
import PushRelay.Proofs.Scope.Bound
import PushRelay.Proofs.Url.User
import PushRelay.Proofs.Delivery.Carriage
import PushRelay.Proofs.Delivery.Project
