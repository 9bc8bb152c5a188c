import PushRelay.Proofs.Delivery.Preparation
import PushRelay.Proofs.Delivery.Setup

/-!
# The two ways of sending agree

A send stops at the first target that fails; a best-effort send goes on and
records every outcome. From the same state the two do the same up to the first
failure, and the outcome recorded there is the error that the other ends with.
The relation `Agrees` is kept step by step: each outcome belongs to one
request, and the strict send has made the same requests as far as it got.
-/

namespace PushRelay.Delivery

/-- The outcomes of a best-effort send and the requests it made, beside what
the strict send comes to and the requests it made. -/
inductive Agrees : List TargetOutcome → List Http.Request →
    Except Failure (List DeliveryResult) → List Http.Request → Prop where
  | done : Agrees [] [] (.ok []) []
  | delivered {o : TargetOutcome} {result : DeliveryResult} {request : Http.Request}
      {os : List TargetOutcome} {made sent : List Http.Request}
      {results : Except Failure (List DeliveryResult)} (delivered : o.Delivered result)
      (rest : Agrees os made results sent) :
      Agrees (o :: os) (request :: made) (results.map (result :: ·)) (request :: sent)
  | failed {o : TargetOutcome} {e : RelayError} {request : Http.Request}
      {os : List TargetOutcome} {made : List Http.Request} (failed : o.Failed o.target e)
      (target : e.target? = some o.target)
      (code : e.code = .transport ∧ e.status? = none ∨ e.code = .protocol)
      (rest : made.length = os.length) :
      Agrees (o :: os) (request :: made) (.error (.relay e)) [request]

namespace Agrees

variable {os : List TargetOutcome} {made sent : List Http.Request}
  {results : Except Failure (List DeliveryResult)}

theorem length_eq (h : Agrees os made results sent) : made.length = os.length := by
  induction h with
  | done => rfl
  | delivered _ _ ih => simp [ih]
  | failed _ _ _ rest => simp [rest]

theorem of_all_delivered (h : Agrees os made results sent)
    (hall : ∀ o ∈ os, o.success.truthy = true) :
    ∃ rs, results = .ok rs ∧ os.map (·.result) = rs.map some ∧ sent = made := by
  induction h with
  | done => exact ⟨[], rfl, rfl, rfl⟩
  | delivered hdelivered _ ih =>
    obtain ⟨rs, rfl, hrs, rfl⟩ := ih fun o ho => hall o (List.mem_cons_of_mem _ ho)
    refine ⟨_, rfl, ?_, rfl⟩
    simp only [List.map_cons, hdelivered.result, hrs]
  | failed hfailed => exact absurd (hall _ List.mem_cons_self) hfailed.not_truthy

theorem of_first_failed (h : Agrees os made results sent) {k : Nat} {o : TargetOutcome}
    (hk : os[k]? = some o) (hfailed : ¬ o.success.truthy = true)
    (hbefore : ∀ j < k, ∀ o', os[j]? = some o' → o'.success.truthy = true) :
    ∃ e, results = .error (.relay e) ∧ o.Failed o.target e ∧ e.target? = some o.target ∧
      (e.code = .transport ∧ e.status? = none ∨ e.code = .protocol) ∧
      sent = made.take (k + 1) := by
  induction h generalizing k with
  | done => cases hk
  | delivered hdelivered _ ih =>
    cases k with
    | zero =>
      cases hk
      exact absurd hdelivered.truthy hfailed
    | succ k =>
      obtain ⟨e, rfl, he, htarget, hcode, rfl⟩ :=
        ih hk fun j hj o' ho' => hbefore (j + 1) (Nat.succ_lt_succ hj) o' ho'
      exact ⟨e, rfl, he, htarget, hcode, rfl⟩
  | failed he htarget hcode =>
    cases k with
    | zero =>
      cases hk
      exact ⟨_, rfl, he, htarget, hcode, rfl⟩
    | succ k => exact absurd (hbefore 0 (Nat.succ_pos k) _ rfl) he.not_truthy

end Agrees

namespace Client

variable {c : Client} {env : Surroundings} {token : BearerToken} {wire : WireMessage}
  {wires : List WireMessage} {s t : Session}

/-! ## All targets -/

/-- Outcomes take one request each. -/
theorem attempts_grown {os : List TargetOutcome}
    (h : traverse (c.attempt env token) wires s = (.ok os, t)) :
    ∃ made, s.Grown made t ∧ made.length = os.length := by
  induction wires generalizing s os with
  | nil =>
    cases h
    exact ⟨[], .refl t, rfl⟩
  | cons wire rest ih =>
    have hbind := Session.grown_bind s [("target", wire.token)]
    obtain ⟨o, os, u, rfl, hstep, hrest⟩ := traverse_cons_eq_ok h
    obtain ⟨made, hut, hlength⟩ := ih hrest
    rcases attempt_cases c env token wire (s.bind [("target", wire.token)]) with
      ⟨failure, v, _, -, hrun, -⟩ | ⟨result, o', r, v, -, hrun, hgrown, -⟩ |
        ⟨e, o', r, v, v', -, hrun, -, hgrown, -⟩
    · rw [hstep] at hrun
      cases hrun
    · rw [hstep] at hrun
      cases hrun
      exact ⟨r :: made, (hbind.trans hgrown).trans hut, by simp [hlength]⟩
    · rw [hstep] at hrun
      cases hrun
      exact ⟨r :: made, (hbind.trans hgrown).trans hut, by simp [hlength]⟩

theorem agrees_of_attempts {os : List TargetOutcome}
    (h : traverse (c.attempt env token) wires s = (.ok os, t)) :
    ∃ made results sent u, traverse (c.deliver env token) wires s = (results, u) ∧
      s.Grown made t ∧ s.Grown sent u ∧ Agrees os made results sent := by
  induction wires generalizing s os with
  | nil =>
    cases h
    exact ⟨[], .ok [], [], t, rfl, .refl t, .refl t, .done⟩
  | cons wire rest ih =>
    have hbind := Session.grown_bind s [("target", wire.token)]
    obtain ⟨o, os, u, rfl, hstep, hrest⟩ := traverse_cons_eq_ok h
    rcases attempt_cases c env token wire (s.bind [("target", wire.token)]) with
      ⟨failure, v, _, -, hrun, -⟩ | ⟨result, o', r, v, hdeliver, hrun, hgrown, ho⟩ |
        ⟨e, o', r, v, v', hdeliver, hrun, hsent, hgrown, ho, htarget, hcode⟩
    · rw [hstep] at hrun
      cases hrun
    · -- the same request for both, and both go on from the same session
      rw [hstep] at hrun
      cases hrun
      obtain ⟨made, results, sent, w, htail, hmade, hsent, hagrees⟩ := ih hrest
      have hst := hbind.trans hgrown
      refine ⟨r :: made, results.map (result :: ·), r :: sent, w, ?_, hst.trans hmade,
        hst.trans hsent, .delivered ho hagrees⟩
      cases results with
      | error failure => exact traverse_cons_of_rest_error hdeliver htail
      | ok rs => exact traverse_cons_of_ok hdeliver htail
    · -- the strict send is over, and the other goes on
      rw [hstep] at hrun
      cases hrun
      obtain ⟨made, hmade, hlength⟩ := attempts_grown hrest
      exact ⟨r :: made, .error (.relay e), [r], v, traverse_cons_of_error hdeliver,
        (hbind.trans hgrown).trans hmade, hbind.trans hsent,
        .failed ho htarget hcode hlength⟩

/-- Where every delivery comes to a result, every attempt records one. -/
theorem attempts_of_deliveries {rs : List DeliveryResult}
    (h : traverse (c.deliver env token) wires s = (.ok rs, t)) :
    ∃ os, traverse (c.attempt env token) wires s = (.ok os, t) ∧
      (∀ o ∈ os, o.success.truthy = true) ∧ os.map (·.result) = rs.map some := by
  induction wires generalizing s rs with
  | nil =>
    cases h
    exact ⟨[], rfl, List.forall_mem_nil _, rfl⟩
  | cons wire rest ih =>
    obtain ⟨result, rs, u, rfl, hstep, hrest⟩ := traverse_cons_eq_ok h
    obtain ⟨os, hos, hall, hresults⟩ := ih hrest
    rcases attempt_cases c env token wire (s.bind [("target", wire.token)]) with
      ⟨failure, v, _, hdeliver, -⟩ | ⟨result', o, r, v, hdeliver, hrun, -, ho⟩ |
        ⟨e, o, r, v, v', hdeliver, -⟩
    · rw [hstep] at hdeliver
      cases hdeliver
    · rw [hstep] at hdeliver
      cases hdeliver
      refine ⟨o :: os, traverse_cons_of_ok hrun hos, ?_, ?_⟩
      · rw [List.forall_mem_cons]
        exact ⟨ho.truthy, hall⟩
      · simp only [List.map_cons, ho.result, hresults]
    · rw [hstep] at hdeliver
      cases hdeliver

/-! ## Whole sends -/

/-- Whenever a best-effort send returns, the strict send from the same state
comes to the same results with the same requests, or ends with the first
failure that was recorded, after the requests up to it; and whenever the
strict send returns, so does the other, with the same results. -/
theorem send_and_sendEach_agree (c : Client) (env : Surroundings)
    (message : Option Message) (credentials : Value) (s : Session) :
    (∀ outcomes, (c.sendEach env message credentials s).1 = .ok outcomes →
      ∃ made, (c.sendEach env message credentials s).2.requests = s.requests ++ made ∧
        made.length = outcomes.length ∧
        ((∀ o ∈ outcomes, o.success.truthy = true) →
          ∃ results, (c.send env message credentials s).1 = .ok results ∧
            outcomes.map (·.result) = results.map some ∧
            (c.send env message credentials s).2.requests = s.requests ++ made) ∧
        ∀ k o, outcomes[k]? = some o → ¬ o.success.truthy = true →
          (∀ j < k, ∀ o', outcomes[j]? = some o' → o'.success.truthy = true) →
          ∃ e, (c.send env message credentials s).1 = .error (.relay e) ∧
            o.errorCode = .text e.code.text ∧ o.errorMessage = e.message ∧
            e.target? = some o.target ∧ o.statusCode = e.status?.getD .null ∧
            (e.code = .transport ∧ e.status? = none ∨ e.code = .protocol) ∧
            (c.send env message credentials s).2.requests =
              s.requests ++ made.take (k + 1)) ∧
    ∀ results, (c.send env message credentials s).1 = .ok results →
      ∃ outcomes, (c.sendEach env message credentials s).1 = .ok outcomes ∧
        (∀ o ∈ outcomes, o.success.truthy = true) ∧
        outcomes.map (·.result) = results.map some := by
  constructor
  · intro outcomes h
    rcases sendEach_cases c env message credentials s with
      hearly | ⟨m, token, wires, t, hreach⟩
    · exact absurd h (hearly.not_ok outcomes)
    · have hattempts : traverse (c.attempt env token) wires t = (.ok outcomes, _) :=
        Prod.ext (sendEach_fst_of_reaches hreach ▸ h) rfl
      obtain ⟨made, results, sent, u, hdeliveries, hmade, hsent, hagrees⟩ :=
        agrees_of_attempts hattempts
      obtain ⟨-, hmade, -⟩ := sendEach_of_reaches hreach hattempts hmade
      obtain ⟨hresults, hsent, -⟩ := send_of_reaches hreach hdeliveries hsent
      refine ⟨made, hmade, hagrees.length_eq, ?_, ?_⟩
      · intro hall
        obtain ⟨rs, rfl, hrs, rfl⟩ := hagrees.of_all_delivered hall
        exact ⟨rs, hresults, hrs, hsent⟩
      · intro k o hk hfailed hbefore
        obtain ⟨e, rfl, ho, htarget, hcode, rfl⟩ :=
          hagrees.of_first_failed hk hfailed hbefore
        exact ⟨e, hresults, ho.errorCode, ho.errorMessage, htarget, ho.statusCode,
          hcode, hsent⟩
  · intro results h
    rcases send_cases c env message credentials s with
      hearly | ⟨m, token, wires, t, hreach⟩
    · exact absurd h (hearly.not_ok results)
    · have hdeliveries : traverse (c.deliver env token) wires t = (.ok results, _) :=
        Prod.ext (send_fst_of_reaches hreach ▸ h) rfl
      obtain ⟨outcomes, hattempts, hall, hresults⟩ := attempts_of_deliveries hdeliveries
      refine ⟨outcomes, ?_, hall, hresults⟩
      rw [sendEach_fst_of_reaches hreach, hattempts]

/-- Where the second of two targets is rejected, the strict send ends with
what the other records. -/
theorem send_and_sendEach_agree_on_rejected_second :
    ∃ first second e,
      ((sample {}).sendEach (answering [sampleDelivery, sampleRejection])
        (some sampleMessage) .null freshSession).1 = .ok [first, second] ∧
      ((sample {}).send (answering [sampleDelivery, sampleRejection])
        (some sampleMessage) .null freshSession).1 = .error (.relay e) ∧
      first.success.truthy = true ∧ second.success.truthy = false ∧
      second.errorCode = .text e.code.text ∧ second.errorMessage = e.message ∧
      e.target? = some second.target ∧ second.statusCode = e.status?.getD .null := by
  have hrun : ((sample {}).sendEach (answering [sampleDelivery, sampleRejection])
      (some sampleMessage) .null freshSession).1.toOption.map
        (·.map (·.success.truthy)) = some [true, false] := by
    decide +kernel
  obtain ⟨outcomes, hoption, hsuccess⟩ := Option.map_eq_some_iff.mp hrun
  have hok := toOption_eq_some_iff.mp hoption
  obtain ⟨first, rest, rfl, hfirst, hrest⟩ := List.map_eq_cons_iff.mp hsuccess
  obtain ⟨second, rest, rfl, hsecond, hnil⟩ := List.map_eq_cons_iff.mp hrest
  cases List.map_eq_nil_iff.mp hnil
  have hbefore : ∀ j < 1, ∀ o, [first, second][j]? = some o →
      o.success.truthy = true := by
    intro j hj o ho
    have hzero : j = 0 := by omega
    subst hzero
    cases ho
    exact hfirst
  obtain ⟨made, -, -, -, hfailed⟩ := (send_and_sendEach_agree _ _ _ _ _).1 _ hok
  obtain ⟨e, he, hcode, hmessage, htarget, hstatus, -, -⟩ :=
    hfailed 1 second rfl (by rw [hsecond]; exact Bool.false_ne_true) hbefore
  exact ⟨first, second, e, hok, he, hfirst, hsecond, hcode, hmessage, htarget, hstatus⟩

end Client
end PushRelay.Delivery
