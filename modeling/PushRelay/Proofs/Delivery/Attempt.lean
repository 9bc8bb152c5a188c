import PushRelay.Proofs.Delivery.Step

/-!
# One attempt

An attempt is a delivery with a record of what became of it. What it makes of
the delivery depends on the delivery's outcome alone: a result and an error
about the target are recorded, any other failure passes through.
-/

namespace PushRelay

/-- The record of a delivery that came to a result. -/
structure TargetOutcome.Delivered (o : TargetOutcome)
    (result : DeliveryResult) : Prop where
  target : o.target = result.target
  success : o.success = .bool true
  result : o.result = some result

/-- The record of a delivery to a target that ended with an error. -/
structure TargetOutcome.Failed (o : TargetOutcome) (target : Value)
    (e : RelayError) : Prop where
  target : o.target = target
  success : o.success = .bool false
  result : o.result = none
  errorCode : o.errorCode = .text e.code.text
  errorMessage : o.errorMessage = e.message
  statusCode : o.statusCode = e.status?.getD .null

theorem TargetOutcome.Delivered.truthy {o : TargetOutcome} {result : DeliveryResult}
    (h : o.Delivered result) : o.success.truthy = true := by
  rw [h.success]
  rfl

theorem TargetOutcome.Failed.not_truthy {o : TargetOutcome} {target : Value}
    {e : RelayError} (h : o.Failed target e) : ¬ o.success.truthy = true := by
  rw [h.success]
  exact Bool.false_ne_true

namespace Delivery.Client

/-- Only errors about a target are recorded. -/
theorem recorded?_eq_some_iff {failure : Failure} {e : RelayError} :
    recorded? failure = some e ↔
      failure = .relay e ∧ (e.code = .transport ∨ e.code = .protocol) := by
  cases failure with
  | relay e' =>
    cases e' <;> simp [recorded?, RelayError.code] <;> grind [RelayError.code]
  | _ => simp [recorded?]

theorem recorded?_of_foreign {failure : Failure} (h : ∀ e, failure ≠ .relay e) :
    recorded? failure = none := by
  cases failure with
  | relay e => exact absurd rfl (h e)
  | _ => rfl

variable {c : Client} {env : Surroundings} {token : BearerToken} {wire : WireMessage}
  {s t : Session}

/-- What cannot be written is a matter of the message, and not recorded. -/
theorem recorded?_of_unwritten {failure : Failure}
    (h : ∀ e, failure = .relay e → wire.encode = .error e) : recorded? failure = none := by
  cases he : recorded? failure with
  | none => rfl
  | some e =>
    obtain ⟨hrelay, hcode⟩ := recorded?_eq_some_iff.mp he
    have hvalidation := WireMessage.encode_error (h e hrelay)
    rw [hvalidation] at hcode
    rcases hcode with h | h <;> cases h

theorem attempt_of_delivered {result : DeliveryResult}
    (h : c.deliver env token wire s = (.ok result, t))
    (htarget : result.target = wire.token) :
    ∃ o, c.attempt env token wire s = (.ok o, t) ∧ o.Delivered result := by
  simp only [attempt, h]
  exact ⟨_, rfl, htarget.symm, rfl, rfl⟩

/-- What is recorded of a failure is logged as well. -/
theorem attempt_eq_of_recorded {failure : Failure} {e : RelayError}
    (h : c.deliver env token wire s = (.error failure, t))
    (he : recorded? failure = some e) :
    ∃ o, c.attempt env token wire s =
        (.ok o, t.log env failureSite .warning s!"Delivery failed: {o.errorMessage.shown}"
          (outcomeAttributes o)) ∧
      o.Failed wire.token e ∧ o.timestamp = .instant t.now ∧
      o.latency = .int (Session.milliseconds s.seconds t.seconds) := by
  simp only [attempt, h, he]
  exact ⟨_, rfl, ⟨rfl, rfl, rfl, rfl, rfl, rfl⟩, rfl, rfl⟩

theorem attempt_of_recorded {failure : Failure} {e : RelayError}
    (h : c.deliver env token wire s = (.error failure, t))
    (he : recorded? failure = some e) :
    ∃ o u, c.attempt env token wire s = (.ok o, u) ∧ t.Grown [] u ∧
      o.Failed wire.token e := by
  obtain ⟨o, hattempt, ho, -⟩ := attempt_eq_of_recorded h he
  exact ⟨o, _, hattempt, Session.grown_log .., ho⟩

theorem attempt_of_passed {failure : Failure}
    (h : c.deliver env token wire s = (.error failure, t))
    (he : recorded? failure = none) :
    c.attempt env token wire s = (.error failure, t) := by
  simp only [attempt, h, he]

/-- An attempt beside the delivery it is made of: a failure that is not about
the target passes through, a result and an error about the target are
recorded, each for one request. -/
theorem attempt_cases (c : Client) (env : Surroundings) (token : BearerToken)
    (wire : WireMessage) (s : Session) :
    (∃ failure t made, c.deliver env token wire s = (.error failure, t) ∧
      c.attempt env token wire s = (.error failure, t) ∧ s.Grown made t ∧
      ∀ e, failure = .relay e → wire.encode = .error e) ∨
    (∃ result o r t, c.deliver env token wire s = (.ok result, t) ∧
      c.attempt env token wire s = (.ok o, t) ∧ s.Grown [r] t ∧ o.Delivered result) ∨
    ∃ e o r t u, c.deliver env token wire s = (.error (.relay e), t) ∧
      c.attempt env token wire s = (.ok o, u) ∧ s.Grown [r] t ∧ s.Grown [r] u ∧
      o.Failed o.target e ∧ e.target? = some o.target ∧
      (e.code = .transport ∧ e.status? = none ∨ e.code = .protocol) := by
  rcases deliver_cases c env token wire s with
    ⟨failure, hrun, hunwritten⟩ |
    ⟨a, body, t, -, -, -, hgrown, ⟨v, -, hrun⟩ | ⟨failure, hjudge, hrun⟩⟩
  · left
    have hattempt := attempt_of_passed hrun (recorded?_of_unwritten hunwritten)
    exact ⟨failure, s, [], hrun, hattempt, .refl s, hunwritten⟩
  · right
    left
    obtain ⟨o, hattempt, ho⟩ := attempt_of_delivered hrun rfl
    exact ⟨_, o, _, t, hrun, hattempt, hgrown, ho⟩
  · by_cases hrelay : ∃ e, failure = .relay e
    · right
      right
      obtain ⟨e, rfl⟩ := hrelay
      obtain ⟨htarget, hcode⟩ := code_of_judge hjudge
      have he : recorded? (.relay e) = some e := by
        refine recorded?_eq_some_iff.mpr ⟨rfl, ?_⟩
        rcases hcode with ⟨h, -⟩ | h
        · exact .inl h
        · exact .inr h
      obtain ⟨o, u, hattempt, htu, ho⟩ := attempt_of_recorded hrun he
      have hsame : o.target = wire.token := ho.target
      exact ⟨e, o, _, t, u, hrun, hattempt, hgrown, hgrown.trans htu, hsame ▸ ho,
        hsame ▸ htarget, hcode⟩
    · left
      have hforeign : ∀ e, failure ≠ .relay e := fun e he => hrelay ⟨e, he⟩
      have hattempt := attempt_of_passed hrun (recorded?_of_foreign hforeign)
      exact ⟨failure, t, _, hrun, hattempt, hgrown, fun e he => absurd he (hforeign e)⟩

/-- An attempt goes no further than its delivery, except for a line about
it. -/
theorem attempt_after_deliver (c : Client) (env : Surroundings) (token : BearerToken)
    (wire : WireMessage) (s : Session) :
    (c.deliver env token wire s).2.Grown [] (c.attempt env token wire s).2 := by
  unfold attempt
  rcases c.deliver env token wire s with ⟨failure | result, t⟩
  · dsimp only
    cases recorded? failure with
    | none => exact .refl t
    | some e => exact Session.grown_log ..
  · exact .refl t

theorem attempt_makes (c : Client) (env : Surroundings) (token : BearerToken)
    (wire : WireMessage) (s : Session) :
    s.Makes 1 (c.Posts token) (c.attempt env token wire s).2 :=
  (deliver_makes c env token wire s).trans
    (.of_nothing 0 _ (attempt_after_deliver c env token wire s))

end Delivery.Client
end PushRelay
