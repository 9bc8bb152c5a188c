import PushRelay.Proofs.Delivery.Runs
import PushRelay.Proofs.Json.Printable
import PushRelay.Proofs.Json.RoundTrip

/-!
# Whose token a request carries

A client keeps no token. For each message that is valid it asks for one, once
and with the credentials that came with the message, and what it requests in
that step carries that token and no other. What an authority is given follows
from the credentials alone, so that the failure of one step is without
consequence for the next.
-/

namespace PushRelay

theorem Http.headerText_eq {s t : String} (h : Http.headerText s = .ok t) : t = s := by
  unfold Http.headerText at h
  split at h
  · cases h
    rfl
  · cases h

namespace Delivery.Client

variable {c : Client} {env : Surroundings} {step : Step} {steps : List Step}
  {s t : Session} {token : BearerToken} {r : Http.Request}

/-- Where the endpoint names no user, the token is all the authorization. -/
theorem Authorizes.bearer (huser : c.url.user = []) (h : c.Authorizes token r) :
    r.authorization = "Bearer " ++ token.accessToken.shown := by
  unfold Authorizes authorization at h
  rw [authorization?_of_no_user huser] at h
  obtain ⟨bearer, hbearer, h⟩ := bind_eq_ok_iff.mp h
  obtain ⟨_, -, h⟩ := bind_eq_ok_iff.mp h
  cases h
  exact Http.headerText_eq hbearer

/-! ## One step -/

/-- On its way from `s` to `t`, a step asks for a token only for its own
message, if that is valid, and requests nothing without that token. -/
structure UsesOwnToken (c : Client) (env : Surroundings) (step : Step) (s t : Session) :
    Prop where
  asks : t.credentials = s.credentials ++ c.wantedBy step.task
  introduces : t.calls.map Token.Call.given =
    s.calls.map Token.Call.given ++ (c.wantedBy step.task).flatMap c.introduced
  bears : ∃ made, t.requests = s.requests ++ made ∧ ∀ r ∈ made, ∃ credentials token,
    c.wantedBy step.task = [credentials] ∧
      (c.fetch env credentials (s.later step.pause)).1 = .ok token ∧
      r.authorization = "Bearer " ++ token.accessToken.shown
  needs : ∀ credentials failure, c.wantedBy step.task = [credentials] →
    (c.fetch env credentials (s.later step.pause)).1 = .error failure →
    t.requests = s.requests

theorem Did.usesOwnToken (huser : c.url.user = []) (h : c.Did env step s t) :
    c.UsesOwnToken env step s t := by
  obtain ⟨made, hmade, hkind⟩ := h.requests
  refine ⟨h.wanted, h.introduced, ⟨made, hmade, ?_⟩, ?_⟩
  · intro r hr
    obtain ⟨-, credentials, token, hwanted, hf, hauthorizes, -⟩ := hkind r hr
    exact ⟨credentials, token, hwanted, hf, hauthorizes.bearer huser⟩
  · intro credentials failure hwanted hf
    cases made with
    | nil => rw [hmade, List.append_nil]
    | cons r rest =>
      -- a request would need the token that there is not
      obtain ⟨-, credentials', token, hwanted', hf', -⟩ := hkind r List.mem_cons_self
      rw [hwanted] at hwanted'
      cases hwanted'
      rw [hf] at hf'
      cases hf'

/-! ## Whole runs -/

theorem run_asks (c : Client) (env : Surroundings) (steps : List Step) (s : Session) :
    (c.run env steps s).2.credentials =
      s.credentials ++ steps.flatMap fun step => c.wantedBy step.task := by
  induction steps generalizing s with
  | nil => exact (List.append_nil _).symm
  | cons step rest ih =>
    rw [run_cons, ih, (step_did c env step s).wanted, List.append_assoc,
      List.flatMap_cons]

theorem run_introduces (c : Client) (env : Surroundings) (steps : List Step)
    (s : Session) :
    (c.run env steps s).2.calls.map Token.Call.given =
      s.calls.map Token.Call.given ++
        steps.flatMap fun step => (c.wantedBy step.task).flatMap c.introduced := by
  induction steps generalizing s with
  | nil => exact (List.append_nil _).symm
  | cons step rest ih =>
    rw [run_cons, ih, (step_did c env step s).introduced, List.append_assoc,
      List.flatMap_cons]

/-- In a run of any length, tokens are asked for once for each valid message
and in the order of the steps, an authority is given the accounts of exactly
these credentials, and every step uses its own token. -/
theorem run_uses_own_tokens (env : Surroundings) (steps : List Step) (s : Session)
    (huser : c.url.user = []) :
    (c.run env steps s).2.credentials =
        s.credentials ++ (steps.flatMap fun step => c.wantedBy step.task) ∧
      (c.run env steps s).2.calls.map Token.Call.given =
        s.calls.map Token.Call.given ++
          (steps.flatMap fun step => (c.wantedBy step.task).flatMap c.introduced) ∧
      ∀ before step rest, steps = before ++ step :: rest →
        c.UsesOwnToken env step (c.run env before s).2
          (c.run env (before ++ [step]) s).2 := by
  refine ⟨run_asks c env steps s, run_introduces c env steps s, ?_⟩
  intro before step rest _
  rw [run_append]
  exact (step_did c env step _).usesOwnToken huser

/-- A client whose authority refuses the first account that it is given. -/
def warySample : Client :=
  { sample {} with
    provider := .authority fun
      | 0 => .refuseAccount { name := "ValueError", text := "refused" }
      | _ => .accept (.text "token") .null }

/-- Credentials that are the JSON text of some fields. -/
def credentialsOf (fields : List (String × Value)) : Value :=
  .text ((Json.write (.record fields)).toOption.getD "")

/-- The account that plain fields describe has just these fields. -/
theorem readAccount_credentialsOf {fields : List (String × Value)}
    (h : Json.Plain (.record fields)) :
    Token.readAccount (credentialsOf fields) = .ok (Entries.ofFields fields) := by
  obtain ⟨text, hwrite⟩ := h.hasText
  have hread : Json.read (credentialsOf fields) = .ok (.record fields) := by
    simp only [credentialsOf, hwrite, Except.toOption, Option.getD_some]
    rw [(Json.isPrintable_of_write hwrite).read_text]
    exact h.readChars_of_write hwrite
  unfold Token.readAccount
  rw [hread]
  rfl

/-- Credentials of an account that says whose it is. -/
def ownedCredentials : Value := credentialsOf [("client_email", .text "a")]

theorem readAccount_ownedCredentials :
    Token.readAccount ownedCredentials = .ok [(.text "client_email", .text "a")] :=
  readAccount_credentialsOf (.record (by decide)
    (List.forall_mem_cons.mpr ⟨.text _, List.forall_mem_nil _⟩))

/-- Credentials of an account that says nothing. -/
def emptyCredentials : Value := credentialsOf []

theorem readAccount_emptyCredentials : Token.readAccount emptyCredentials = .ok [] :=
  readAccount_credentialsOf (.record List.nodup_nil (List.forall_mem_nil _))

/-- A message whose account is refused, no message at all, and a message. -/
def warySteps : List Step := [
  { task := .send .all (some sampleMessage) ownedCredentials },
  { task := .send .first none ownedCredentials },
  { task := .send .each (some sampleMessage) emptyCredentials }]

theorem run_uses_own_tokens_after_refusal :
    warySample.url.user = [] ∧
      (warySample.run (answering []) warySteps freshSession).2.credentials =
        [ownedCredentials, emptyCredentials] ∧
      (warySample.run (answering []) warySteps freshSession).2.calls.map
          Token.Call.given =
        [(.dict [(.text "client_email", .text "a")], warySample.config.scope),
          (.dict [], warySample.config.scope)] ∧
      ∀ before step rest, warySteps = before ++ step :: rest →
        warySample.UsesOwnToken (answering []) step
          (warySample.run (answering []) before freshSession).2
          (warySample.run (answering []) (before ++ [step]) freshSession).2 := by
  have huser : warySample.url.user = [] := rfl
  obtain ⟨hasks, hintroduces, husesOwnToken⟩ :=
    run_uses_own_tokens (answering []) warySteps freshSession huser
  have hvalid : Message.validate (some sampleMessage) warySample.config =
      .ok sampleMessage := rfl
  have howned : warySample.introduced ownedCredentials =
      [(.dict [(.text "client_email", .text "a")], warySample.config.scope)] := by
    simp only [introduced, warySample, readAccount_ownedCredentials]
  have hempty : warySample.introduced emptyCredentials =
      [(.dict [], warySample.config.scope)] := by
    simp only [introduced, warySample, readAccount_emptyCredentials]
  have hwanted : ∀ credentials,
      warySample.wanted (some sampleMessage) credentials = [credentials] :=
    wanted_of_validated hvalid
  have hunwanted : ∀ credentials, warySample.wanted none credentials = [] :=
    wanted_of_refused rfl
  have hall : (warySteps.flatMap fun step => warySample.wantedBy step.task) =
      [ownedCredentials, emptyCredentials] := by
    simp only [warySteps, List.flatMap_cons, List.flatMap_nil, wantedBy, hwanted,
      hunwanted, List.nil_append, List.append_nil, List.cons_append]
  have hgiven : (warySteps.flatMap fun step =>
      (warySample.wantedBy step.task).flatMap warySample.introduced) =
        [(.dict [(.text "client_email", .text "a")], warySample.config.scope),
          (.dict [], warySample.config.scope)] := by
    simp only [warySteps, List.flatMap_cons, List.flatMap_nil, wantedBy, hwanted,
      hunwanted, howned, hempty, List.nil_append, List.append_nil, List.cons_append]
  have hfresh : freshSession.credentials = [] ∧ freshSession.calls = [] := ⟨rfl, rfl⟩
  rw [hall, hfresh.1, List.nil_append] at hasks
  rw [hgiven, hfresh.2, List.map_nil, List.nil_append] at hintroduces
  exact ⟨huser, hasks, hintroduces, husesOwnToken⟩

end Delivery.Client
end PushRelay
