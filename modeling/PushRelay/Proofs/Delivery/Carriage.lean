import PushRelay.Proofs.Delivery.Endpoint
import PushRelay.Proofs.Url.User

/-!
# What requests carry

A request carries the token of its message, unless the endpoint names a user:
then it carries the name and the password of that user in its place. Which of
the two is settled by the text of the endpoint, whatever the message, the
token and the answers are; the token has no say in it.
-/

namespace PushRelay.Delivery.Client

variable {endpoint : String} {apiKey : Value} {ownConfig : Option Config}
  {ownsTransport : Bool} {provider : Provider} {c : Client} {token : BearerToken}
  {r : Http.Request}

/-- The token is the one that the step gets for its own message. -/
def FetchedFor (c : Client) (env : Surroundings) (step : Step) (s : Session)
    (token : BearerToken) : Prop :=
  ∃ credentials, c.wantedBy step.task = [credentials] ∧
    (c.fetch env credentials (s.later step.pause)).1 = .ok token

theorem Authorizes.authorization_eq (h : c.Authorizes token r) :
    r.authorization = c.url.authorization?.getD token.header := by
  unfold Authorizes authorization at h
  obtain ⟨bearer, hbearer, h⟩ := bind_eq_ok_iff.mp h
  obtain ⟨_, -, h⟩ := bind_eq_ok_iff.mp h
  rw [← Http.headerText_eq hbearer]
  exact (Except.ok.inj h).symm

theorem basic_ne_bearer (s t : String) : "Basic " ++ s ≠ "Bearer " ++ t := by
  intro h
  have hchars := congrArg String.toList h
  simp [String.toList_append] at hchars

theorem Posts.carries_iff (hparse : Url.parse endpoint = .ok c.url) (h : c.Posts token r) :
    r.authorization = "Bearer " ++ token.accessToken.shown ↔
      Url.NamesNobody (Url.split endpoint.toList).user := by
  rw [← Url.authorization?_of_parse hparse, h.1.authorization_eq]
  cases hnamed : c.url.authorization? with
  | none => exact iff_of_true rfl rfl
  | some authorization =>
    obtain ⟨rest, rfl⟩ := Url.authorization?_basic hnamed
    exact iff_of_false (basic_ne_bearer rest _) nofun

/-- Whatever has been done before, each request of a step says that its body
is JSON, and it carries the token of the step's own message just if the
endpoint, as it was given, names nobody. -/
theorem run_carries_tokens_iff
    (hnew : Client.new (.text endpoint) apiKey ownConfig ownsTransport provider = .ok c)
    (env : Surroundings) (before : List Step) (step : Step) (s : Session) :
    ∃ made,
      (c.run env (before ++ [step]) s).2.requests = (c.run env before s).2.requests ++ made ∧
      ∀ r ∈ made, r.contentType = "application/json" ∧
        ∃ token, c.FetchedFor env step (c.run env before s).2 token ∧
          (r.authorization = "Bearer " ++ token.accessToken.shown ↔
            Url.NamesNobody (Url.split endpoint.toList).user) := by
  obtain ⟨-, hsame, hparse, -⟩ := isEndpoint_of_new hnew
  rw [← Value.text.inj hsame] at hparse
  obtain ⟨made, hmade, hkind⟩ := (step_did c env step (c.run env before s).2).requests
  rw [run_append]
  refine ⟨made, hmade, fun r hr => ?_⟩
  obtain ⟨-, credentials, token, hwanted, hf, hposts⟩ := hkind r hr
  have hjson : r.contentType = "application/json" := by
    rw [hposts.2]
    rfl
  exact ⟨hjson, token, ⟨credentials, hwanted, hf⟩, hposts.carries_iff hparse⟩

/-- A step that sends the message for two targets. -/
def sampleStep : Step := { task := .send .all (some sampleMessage) .null }

/-- A client with a place for a user in its endpoint, where nobody is
named. -/
def unnamedSample : Client where
  endpoint := "https://:@push.example/send"
  url := { sampleUrl with user := [':'] }
  apiKey := .text "key"
  ownConfig := none
  ownTransport := none
  provider := (sample {}).provider

theorem tokens_carried_with_nobody_named :
    Client.new (.text "https://:@push.example/send") (.text "key") none false
        (sample {}).provider = .ok unnamedSample ∧
      (unnamedSample.run (answering []) [sampleStep] freshSession).2.requests.length = 2 ∧
      ∀ r ∈ (unnamedSample.run (answering []) [sampleStep] freshSession).2.requests,
        r.contentType = "application/json" ∧ r.authorization = "Bearer token" := by
  have hparse : Url.parse "https://:@push.example/send" = .ok unnamedSample.url :=
    toOption_eq_some_iff.mp (by decide +kernel)
  have hendpoint : IsEndpoint "https://:@push.example/send" unnamedSample.url :=
    ⟨hparse, .inr rfl, "push.example".toList, rfl, by decide⟩
  have hnew : Client.new (.text "https://:@push.example/send") (.text "key") none false
      (sample {}).provider = .ok unnamedSample := by
    rw [new_of_given rfl rfl, readEndpoint_of_isEndpoint hendpoint]
    rfl
  refine ⟨hnew, by decide +kernel, ?_⟩
  obtain ⟨made, hmade, hkind⟩ :=
    run_carries_tokens_iff hnew (answering []) [] sampleStep freshSession
  have hnobody : Url.NamesNobody (Url.split "https://:@push.example/send".toList).user :=
    .inr (by decide +kernel)
  intro r hr
  have hr : r ∈ made := by
    rw [List.nil_append] at hmade
    rw [hmade] at hr
    simpa [Client.run, freshSession] using hr
  obtain ⟨hjson, token, ⟨credentials, -, hf⟩, hcarries⟩ := hkind r hr
  cases hf
  exact ⟨hjson, hcarries.mpr hnobody⟩

/-- A client whose endpoint names a user with a password. -/
def namedSample : Client where
  endpoint := "http://u:p@h/x"
  url := ⟨"http".toList, "u:p".toList, "h".toList, none, "/x".toList, none, none⟩
  apiKey := .text "key"
  ownConfig := none
  ownTransport := none
  provider := (sample {}).provider

/-- With a user named, a request carries that user's name and password, and
not the token that it was made with. -/
theorem named_user_replaces_token :
    Client.new (.text "http://u:p@h/x") (.text "key") none false (sample {}).provider =
        .ok namedSample ∧
      namedSample.FetchedFor (answering []) sampleStep freshSession sampleToken ∧
      ∃ r ∈ (namedSample.run (answering []) [sampleStep] freshSession).2.requests,
        r.authorization = "Basic dTpw" ∧
          r.authorization ≠ "Bearer " ++ sampleToken.accessToken.shown := by
  have hparse : Url.parse "http://u:p@h/x" = .ok namedSample.url :=
    toOption_eq_some_iff.mp (by decide +kernel)
  have hendpoint : IsEndpoint "http://u:p@h/x" namedSample.url :=
    ⟨hparse, .inl rfl, "h".toList, rfl, by decide⟩
  refine ⟨?_, ⟨.null, rfl, rfl⟩, ?_⟩
  · rw [new_of_given rfl rfl, readEndpoint_of_isEndpoint hendpoint]
    rfl
  · have hcarried : (namedSample.run (answering []) [sampleStep]
        freshSession).2.requests.map (·.authorization) = ["Basic dTpw", "Basic dTpw"] := by
      decide +kernel
    obtain ⟨r, hr, hbasic⟩ := List.mem_map.mp (hcarried ▸ List.mem_cons_self)
    refine ⟨r, hr, hbasic, ?_⟩
    rw [hbasic]
    exact basic_ne_bearer "dTpw" _

end PushRelay.Delivery.Client
