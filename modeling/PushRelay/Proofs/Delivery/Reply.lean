import PushRelay.Delivery.Send

/-!
# What a reply amounts to

A reply is a delivery when its status is 200 and its body can be read. Any
other reply is reported, and the report quotes the body; so whether there is a
report at all depends on whether the body has a text.
-/

namespace PushRelay.Delivery

/-! ## Deliveries -/

/-- The value that a reply delivers: what its body holds, if its status is
200. -/
def Reply.delivered? : Reply → Option Value
  | .response r => if r.status = 200 then r.data.toOption else none
  | .failed _ => none

/-- Nothing that has to be said about the reply is out of reach: unless the
reply is a delivery, its body has a text. -/
def Reply.Legible : Reply → Prop
  | .response r => (Reply.response r).delivered? = none → ∃ text, r.text = .ok text
  | .failed _ => True

/-- If the request failed, then the transport says so. -/
def Reply.FromTransport : Reply → Prop
  | .response _ => True
  | .failed e => e.isRequestFailure = true

/-- The error reports for a target that the reply is not a delivery. -/
def Reply.Reports : Reply → Value → RelayError → Prop
  | .response r, target, e =>
    ∃ message body, r.text = .ok body ∧
      e = .protocol message target (.int r.status) (.text body)
  | .failed _, target, e => ∃ message, e = .transport message target

theorem Reply.Reports.code_eq {reply : Reply} {target : Value} {e : RelayError}
    (h : reply.Reports target e) : e.code = .transport ∨ e.code = .protocol := by
  cases reply with
  | response r =>
    obtain ⟨message, body, -, rfl⟩ := h
    exact .inr rfl
  | failed raised =>
    obtain ⟨message, rfl⟩ := h
    exact .inl rfl

namespace Client

variable {c : Client} {target v : Value} {reply : Reply} {r : Http.Response}

/-! ## Verdicts -/

theorem badResponse_of_text {message body : String} (h : r.text = .ok body) :
    badResponse target r message =
      .relay (.protocol (.text message) target (.int r.status) (.text body)) := by
  unfold badResponse
  rw [h]

theorem badResponse_of_no_text (target : Value) (message : String)
    (h : ¬ ∃ body, r.text = .ok body) :
    ∃ e, badResponse target r message = .body e := by
  unfold badResponse
  cases htext : r.text with
  | ok body => exact absurd ⟨body, htext⟩ h
  | error e => exact ⟨e, rfl⟩

/-- An error of the transport is reported, and any other is passed on. -/
theorem judge_failed (c : Client) (target : Value) (raised : Raised) :
    (raised.isRequestFailure = true ∧
      ∃ message, c.judge target (.failed raised) =
        .error (.relay (.transport message target))) ∨
      c.judge target (.failed raised) = .error (.raised raised) := by
  simp only [judge]
  by_cases h : raised.isRequestFailure = true
  · rw [if_pos h]
    exact .inl ⟨h, _, rfl⟩
  · rw [if_neg h]
    exact .inr rfl

/-- A response is a delivery or a bad response. -/
theorem judge_response (c : Client) (target : Value) (r : Http.Response) :
    (∃ v, (Reply.response r).delivered? = some v ∧
      c.judge target (.response r) = .ok v) ∨
      (Reply.response r).delivered? = none ∧
        ∃ message, c.judge target (.response r) =
          .error (badResponse target r message) := by
  simp only [judge, Reply.delivered?]
  by_cases hstatus : r.status = 200
  · rw [if_pos hstatus, if_neg (by simp [hstatus])]
    cases r.data with
    | ok v => exact .inl ⟨v, rfl, rfl⟩
    | error e => exact .inr ⟨rfl, _, rfl⟩
  · rw [if_neg hstatus, if_pos hstatus]
    exact .inr ⟨rfl, _, rfl⟩

theorem judge_delivered (h : reply.delivered? = some v) :
    c.judge target reply = .ok v := by
  cases reply with
  | failed e => cases h
  | response r =>
    rcases judge_response c target r with ⟨v', hv', hjudge⟩ | ⟨hnone, -⟩
    · rw [h] at hv'
      cases hv'
      exact hjudge
    · rw [h] at hnone
      cases hnone

theorem judge_undelivered (c : Client) (target : Value) (hlegible : reply.Legible)
    (htransport : reply.FromTransport) (h : reply.delivered? = none) :
    ∃ e, c.judge target reply = .error (.relay e) ∧ reply.Reports target e := by
  cases reply with
  | failed raised =>
    have hfailure : raised.isRequestFailure = true := htransport
    rcases judge_failed c target raised with ⟨-, message, hjudge⟩ | hjudge
    · exact ⟨_, hjudge, message, rfl⟩
    · rw [judge, if_pos hfailure] at hjudge
      cases hjudge
  | response r =>
    obtain ⟨body, hbody⟩ := hlegible h
    rcases judge_response c target r with ⟨v, hv, -⟩ | ⟨-, message, hjudge⟩
    · rw [h] at hv
      cases hv
    · rw [badResponse_of_text hbody] at hjudge
      exact ⟨_, hjudge, _, body, hbody, rfl⟩

/-- What cannot be read of a reply ends the send, with an error that is not
the relay's. -/
theorem judge_illegible (c : Client) (target : Value) (h : ¬ reply.Legible) :
    ∃ failure, c.judge target reply = .error failure ∧ ∀ e, failure ≠ .relay e := by
  cases reply with
  | failed raised => exact absurd trivial h
  | response r =>
    obtain ⟨hnone, htext⟩ : (Reply.response r).delivered? = none ∧ ¬ ∃ body, r.text = .ok body :=
      Classical.not_imp.mp h
    rcases judge_response c target r with ⟨v, hv, -⟩ | ⟨-, message, hjudge⟩
    · rw [hnone] at hv
      cases hv
    · obtain ⟨e, he⟩ := badResponse_of_no_text target message htext
      exact ⟨.body e, he ▸ hjudge, fun e' he' => by cases he'⟩

/-- An error of the relay is a report of the reply. -/
theorem reports_of_judge {e : RelayError} (h : c.judge target reply = .error (.relay e)) :
    reply.Reports target e := by
  cases reply with
  | failed raised =>
    rcases judge_failed c target raised with ⟨-, message, hjudge⟩ | hjudge
    · rw [h] at hjudge
      cases hjudge
      exact ⟨message, rfl⟩
    · rw [h] at hjudge
      cases hjudge
  | response r =>
    rcases judge_response c target r with ⟨v', -, hjudge⟩ | ⟨-, message, hjudge⟩
    · rw [h] at hjudge
      cases hjudge
    · rw [h] at hjudge
      unfold badResponse at hjudge
      split at hjudge
      · rename_i body hbody
        cases hjudge
        exact ⟨_, body, hbody, rfl⟩
      · cases hjudge

/-- What a reply is reported as is about its target, and not a matter of the
message. -/
theorem code_of_judge {e : RelayError} (h : c.judge target reply = .error (.relay e)) :
    e.target? = some target ∧
      (e.code = .transport ∧ e.status? = none ∨ e.code = .protocol) := by
  have hreports := reports_of_judge h
  cases reply with
  | failed raised =>
    obtain ⟨message, rfl⟩ := hreports
    exact ⟨rfl, .inl ⟨rfl, rfl⟩⟩
  | response r =>
    obtain ⟨message, body, -, rfl⟩ := hreports
    exact ⟨rfl, .inr rfl⟩

end Client
end PushRelay.Delivery
