import Mathlib.Data.Nat.Find
import Mathlib.Tactic.ByContra
import PushRelay.Proofs.Delivery.Preparation
import PushRelay.Proofs.Delivery.Setup

/-!
# When a message is refused

A message is refused before a token is asked for if it breaks a rule, but what
no rule looks at is only found to have no text when the body for a target is
written. So refusals are early exactly for the messages whose unchecked values
all have a text.
-/

namespace PushRelay.Delivery

/-- The code of the error of the relay that there is instead of a result, if
there is one. -/
def relayCode? {α : Type} : Except Failure α → Option ErrorCode
  | .error (.relay e) => some e.code
  | _ => none

theorem relayCode?_eq_some_iff {α : Type} {r : Except Failure α} {code : ErrorCode} :
    relayCode? r = some code ↔ ∃ e, r = .error (.relay e) ∧ e.code = code := by
  unfold relayCode?
  split
  · simp
  · rename_i hother
    simp only [reduceCtorEq, false_iff]
    rintro ⟨e, he, -⟩
    exact hother e he

/-- If the message was refused, then before any token was asked for and any
request was made. -/
def RefusesEarly {α : Type} (s : Session) (run : Except Failure α × Session) : Prop :=
  ∀ e, run.1 = .error (.relay e) → e.code = .validation →
    run.2.credentials = s.credentials ∧ run.2.calls = s.calls ∧
    run.2.requests = s.requests

namespace Client

variable {c : Client} {env : Surroundings} {message : Option Message}
  {credentials : Value} {s t u v : Session} {m : Message} {token : BearerToken}
  {wire : WireMessage} {wires : List WireMessage} {e : RelayError}

/-- A delivery refuses a message only because its body cannot be written. -/
theorem unwritten_of_deliver (h : c.deliver env token wire u = (.error (.relay e), v))
    (hcode : e.code = .validation) : wire.encode = .error e := by
  rcases deliver_cases c env token wire u with
    ⟨failure, hrun, hunwritten⟩ |
    ⟨a, body, w, -, -, -, -, ⟨d, -, hrun⟩ | ⟨failure, hjudge, hrun⟩⟩
  · rw [h] at hrun
    cases hrun
    exact hunwritten e rfl
  · rw [h] at hrun
    cases hrun
  · rw [h] at hrun
    cases hrun
    rcases (code_of_judge hjudge).2 with ⟨htransport, -⟩ | hprotocol
    · rw [hcode] at htransport
      cases htransport
    · rw [hcode] at hprotocol
      cases hprotocol

theorem unwritten_of_attempt (h : c.attempt env token wire u = (.error (.relay e), v)) :
    wire.encode = .error e := by
  rcases attempt_cases c env token wire u with
    ⟨failure, w, _, -, hrun, -, hunwritten⟩ | ⟨result, o, r, w, -, hrun, -⟩ |
      ⟨e', o, r, w, w', -, hrun, -⟩
  · rw [h] at hrun
    cases hrun
    exact hunwritten e rfl
  · rw [h] at hrun
    cases hrun
  · rw [h] at hrun
    cases hrun

/-- Before the first delivery, a message is refused early or by no one. -/
theorem EndsEarly.refusesEarly {α : Type} {run : Except Failure α × Session}
    (h : EndsEarly c env message credentials s run)
    (hprovider : ∀ e,
      (c.fetch env credentials s).1 = .error (.relay e) → e.code ≠ .validation) :
    RefusesEarly s run := by
  intro e he hcode
  rcases h with ⟨failure, -, rfl⟩ | ⟨failure, hf, hrun⟩ | ⟨failure, hrun, hforeign⟩
  · exact ⟨rfl, rfl, rfl⟩
  · rw [he] at hrun
    cases hrun
    exact absurd hcode (hprovider e hf)
  · rw [he] at hrun
    cases hrun
    exact absurd rfl (hforeign e)

/-- Every wire message of a sendable message can be written. -/
theorem Reaches.encode_succeeds
    (hreach : c.Reaches env (some m) credentials s m token wires t)
    (hsendable : m.Sendable) : ∀ w ∈ wires, ∃ body, w.encode = .ok body := by
  obtain ⟨ts, n, hts, hn, rfl⟩ :=
    Message.wires_of_translateAll hreach.validated hreach.translated
  intro w hw
  obtain ⟨target, htarget, rfl⟩ := List.mem_map.mp hw
  exact (Message.sendable_iff_encode_succeeds hreach.validated).mp hsendable ts n hts hn
    target htarget

section

variable
  (hprovider : ∀ e,
    (c.fetch env credentials s).1 = .error (.relay e) → e.code ≠ .validation)
  (hsendable : Message.validate (some m) c.config = .ok m → m.Sendable)

include hprovider hsendable

theorem send_refusesEarly : RefusesEarly s (c.send env (some m) credentials s) := by
  rcases send_cases c env (some m) credentials s with
    hearly | ⟨m', token, wires, t, hreach⟩
  · exact hearly.refusesEarly hprovider
  · intro e he hcode
    obtain ⟨hsame, -⟩ := Message.validate_eq_ok_iff.mp hreach.validated
    cases hsame
    -- the refusal is that of some delivery, but every body can be written
    rw [send_fst_of_reaches hreach] at he
    obtain ⟨w, hw, u, v, hfails⟩ := step_of_traverse_error (Prod.ext he rfl)
    obtain ⟨body, hbody⟩ := hreach.encode_succeeds (hsendable hreach.validated) w hw
    rw [unwritten_of_deliver hfails hcode] at hbody
    cases hbody

theorem sendEach_refusesEarly :
    RefusesEarly s (c.sendEach env (some m) credentials s) := by
  rcases sendEach_cases c env (some m) credentials s with
    hearly | ⟨m', token, wires, t, hreach⟩
  · exact hearly.refusesEarly hprovider
  · intro e he hcode
    obtain ⟨hsame, -⟩ := Message.validate_eq_ok_iff.mp hreach.validated
    cases hsame
    rw [sendEach_fst_of_reaches hreach] at he
    obtain ⟨w, hw, u, v, hfails⟩ := step_of_traverse_error (Prod.ext he rfl)
    obtain ⟨body, hbody⟩ := hreach.encode_succeeds (hsendable hreach.validated) w hw
    rw [unwritten_of_attempt hfails] at hbody
    cases hbody

end

theorem sendFirst_refusesEarly (h : RefusesEarly s (c.send env message credentials s)) :
    RefusesEarly s (c.sendFirst env message credentials s) := by
  unfold sendFirst
  rcases hsend : c.send env message credentials s with ⟨_ | _ | ⟨first, rest⟩, t⟩
  · rw [hsend] at h
    intro e he hcode
    cases he
    exact h e rfl hcode
  · intro e he
    cases he
  · intro e he
    cases he

/-- Of the wire messages that cannot all be written there is a first that
cannot. -/
theorem exists_first_unwritten (h : ∃ w ∈ wires, ¬ ∃ body, w.encode = .ok body) :
    ∃ (k : Nat) (w : WireMessage), wires[k]? = some w ∧
      (¬ ∃ body, w.encode = .ok body) ∧
      ∀ w' ∈ wires.take k, w'.encode = .ok w'.body := by
  have hsome : ∃ (k : Nat) (w : WireMessage),
      wires[k]? = some w ∧ ¬ ∃ body, w.encode = .ok body := by
    obtain ⟨w, hw, hnone⟩ := h
    obtain ⟨k, hk⟩ := List.getElem?_of_mem hw
    exact ⟨k, w, hk, hnone⟩
  classical
  -- what comes before the least such index can be written
  obtain ⟨w, hk, hnone⟩ := Nat.find_spec hsome
  refine ⟨Nat.find hsome, w, hk, hnone, ?_⟩
  intro w' hw'
  obtain ⟨i, hi⟩ := List.getElem?_of_mem hw'
  rw [List.getElem?_take] at hi
  have hlt : i < Nat.find hsome := by
    by_contra hge
    rw [if_neg hge] at hi
    cases hi
  rw [if_pos hlt] at hi
  have hwritten : ∃ body, w'.encode = .ok body := by
    by_contra hunwritten
    exact Nat.find_min hsome hlt ⟨w', hi, hunwritten⟩
  obtain ⟨body, hbody⟩ := hwritten
  rw [hbody, WireMessage.body_of_encode hbody]

/-- The sample client refuses a message that cannot be sent once it has asked
for a token, for a transport where every request gets through. -/
theorem sample_refuses_late {config : Config}
    (hv : Message.validate (some m) config = .ok m) (hunsendable : ¬ m.Sendable) :
    ∃ e, ((sample config).send (answering []) (some m) .null freshSession).1 =
        .error (.relay e) ∧
      e.code = .validation ∧
      ((sample config).send (answering []) (some m) .null freshSession).2.credentials =
        [.null] := by
  rw [Message.sendable_iff_encode_succeeds hv] at hunsendable
  push Not at hunsendable
  obtain ⟨ts, n, hts, hn, target, htarget, hnone⟩ := hunsendable
  have hsound : freshSession.tagging.Sound := Tagging.Sound.fresh
  have hvalid : Message.validate (some m) (sample config).config = .ok m := hv
  have hfetched : ((sample config).fetch (answering []) .null freshSession).1 =
      .ok sampleToken := rfl
  have hreach := reaches_of_ready hvalid hfetched hsound hts hn
  have ha := authorization_of_plain sampleToken_plain (sample_hostAscii config)
  obtain ⟨k, w, hk, hunwritten, hbefore⟩ := exists_first_unwritten
    ⟨m.wireFor n target, List.mem_map_of_mem htarget, by simpa using hnone⟩
  cases hencode : w.encode with
  | ok body => exact absurd ⟨body, hencode⟩ hunwritten
  | error e =>
    have hgood : ∀ (t : Session), ∀ i < k, ((answering []).reply t i).delivered?.isSome = true :=
      fun _ _ _ => sampleDelivery_delivered
    obtain ⟨u, hrun, hgrown⟩ := traverse_of_first_failure hk
      (fun w hw => deliver_accepts ha (hbefore w hw)) hreach.closed (hgood _)
      (fun t _ _ => ⟨t, deliver_of_unwritten hencode, .refl t⟩)
    obtain ⟨hresult, -, hcredentials⟩ := send_of_reaches hreach hrun hgrown
    exact ⟨e, hresult, WireMessage.encode_error hencode, hcredentials⟩

/-- Refusals come before any network activity, whatever client sends the
message and whatever it meets, exactly if the message is one of those that can
be sent once they are accepted. -/
theorem refusesEarly_iff_sendable (m : Message) (config : Config) :
    (∀ (c : Client) (env : Surroundings) (credentials : Value) (s : Session),
      c.IsSetUp → c.config = config →
      (∀ e, (c.fetch env credentials s).1 = .error (.relay e) → e.code ≠ .validation) →
      RefusesEarly s (c.send env (some m) credentials s) ∧
        RefusesEarly s (c.sendFirst env (some m) credentials s) ∧
        RefusesEarly s (c.sendEach env (some m) credentials s)) ↔
      (Message.validate (some m) config = .ok m → m.Sendable) := by
  constructor
  · intro h hv
    by_contra hunsendable
    obtain ⟨e, he, hcode, hcredentials⟩ := sample_refuses_late hv hunsendable
    obtain ⟨hearly, -, -⟩ := h (sample config) (answering []) .null freshSession
      (sample_isSetUp config) rfl (fun e he => by cases he)
    obtain ⟨hnone, -, -⟩ := hearly e he hcode
    rw [hcredentials] at hnone
    cases hnone
  · rintro hsendable c env credentials s - rfl hprovider
    have hsend := send_refusesEarly hprovider hsendable
    exact ⟨hsend, sendFirst_refusesEarly hsend,
      sendEach_refusesEarly hprovider hsendable⟩

/-- Data without a JSON text breaks a rule, so it is refused early. -/
theorem refusesEarly_of_unserializable_data :
    ∃ e, ((sample {}).send (answering []) (some (.ofData (.object {}) [.text "first"])) .null
        freshSession).1 = .error (.relay e) ∧ e.code = .validation ∧
      ((sample {}).send (answering []) (some (.ofData (.object {}) [.text "first"])) .null
        freshSession).2.credentials = [] := by
  have hinvalid : Message.validate (some (.ofData (.object {}) [.text "first"])) {} ≠
      .ok (.ofData (.object {}) [.text "first"]) := by
    intro h
    cases h
  obtain ⟨hearly, -, -⟩ :=
    (refusesEarly_iff_sendable (.ofData (.object {}) [.text "first"]) {}).mpr
    (fun hv => absurd hv hinvalid) (sample {}) (answering []) .null freshSession
    (sample_isSetUp {}) rfl (fun e he => by cases he)
  obtain ⟨hcredentials, -, -⟩ := hearly _ rfl rfl
  exact ⟨_, rfl, rfl, hcredentials⟩

/-- No rule looks at a target, so one without a JSON text is found out after
the request for the target before it. -/
theorem object_target_refused_late :
    relayCode? ((sample {}).send (answering [])
        (some (.ofData .null [.text "first", .object {}])) .null freshSession).1 =
        some .validation ∧
      ((sample {}).send (answering [])
        (some (.ofData .null [.text "first", .object {}])) .null
          freshSession).2.requests.length = 1 ∧
      ¬ RefusesEarly freshSession ((sample {}).send (answering [])
        (some (.ofData .null [.text "first", .object {}])) .null freshSession) := by
  have hcode : relayCode? ((sample {}).send (answering [])
      (some (.ofData .null [.text "first", .object {}])) .null freshSession).1 =
      some .validation := by
    decide +kernel
  have hcount : ((sample {}).send (answering [])
      (some (.ofData .null [.text "first", .object {}])) .null
        freshSession).2.requests.length = 1 := by
    decide +kernel
  refine ⟨hcode, hcount, fun hearly => ?_⟩
  obtain ⟨e, he, hvalidation⟩ := relayCode?_eq_some_iff.mp hcode
  obtain ⟨-, -, hrequests⟩ := hearly e he hvalidation
  rw [hrequests] at hcount
  cases hcount

end Client
end PushRelay.Delivery
