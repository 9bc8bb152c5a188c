import PushRelay.Proofs.Delivery.Step

/-!
# Clients that have been set up

What becomes of an attempt to set up a client: the relay refuses it, or it
fails on a host or on a user agent that cannot be read, or it succeeds. Then
the client has an endpoint that can be read; and there is a client for any
configuration.
-/

namespace PushRelay

/-- The scheme of the URL is one of the web. -/
def Url.OfWeb (u : Url) : Prop := u.scheme = "http".toList ∨ u.scheme = "https".toList

namespace Delivery

/-- The relay refuses the settings. -/
def SetupError.IsRefusal (e : SetupError) : Prop :=
  ∃ message, e = .refused (.config (.text message))

namespace Client

/-- Something ends in a refusal. -/
def Refused {α : Type} (outcome : Except SetupError α) : Prop :=
  ∃ e, outcome = .error e ∧ e.IsRefusal

/-- The endpoint is the URL, which is one of the web, and has a host that can
be shown. -/
def IsEndpoint (endpoint : String) (url : Url) : Prop :=
  Url.parse endpoint = .ok url ∧ url.OfWeb ∧ ∃ host, url.shownHost = .ok host ∧ host ≠ []

/-- If the endpoint is a URL of the web, then its host can be shown, be there
one or not. -/
def HostReadable (endpoint : String) : Prop :=
  ∀ url, Url.parse endpoint = .ok url → url.OfWeb → ∃ host, url.shownHost = .ok host

/-- The user agent of the transport, if the client makes one of its own. -/
def agentFor (ownConfig : Option Config) (ownsTransport : Bool) :
    Except SetupError (Option String) :=
  if ownsTransport then (readUserAgent (ownConfig.getD {}).userAgent).map some else .ok none

/-- The client is one that was set up from something. -/
def IsSetUp (c : Client) : Prop :=
  ∃ endpoint apiKey ownConfig ownsTransport provider,
    Client.new endpoint apiKey ownConfig ownsTransport provider = .ok c

variable {endpoint : String} {given apiKey : Value} {ownConfig : Option Config}
  {ownsTransport : Bool} {provider : Provider} {c : Client} {url : Url}

/-! ## Reading an endpoint -/

theorem ofWeb_iff (u : Url) :
    (u.scheme == "http".toList || u.scheme == "https".toList) = true ↔ u.OfWeb := by
  unfold Url.OfWeb
  rw [Bool.or_eq_true, beq_iff_eq, beq_iff_eq]

theorem refused_refuse {α : Type} (message : String) :
    Refused (SetupError.refuse message : Except SetupError α) :=
  ⟨_, rfl, message, rfl⟩

theorem readEndpoint_of_unparsed {e : UrlError} (h : Url.parse endpoint = .error e) :
    Refused (readEndpoint (.text endpoint)) := by
  simp only [readEndpoint, h]
  exact refused_refuse _

theorem readEndpoint_of_not_web (hparse : Url.parse endpoint = .ok url) (h : ¬ url.OfWeb) :
    Refused (readEndpoint (.text endpoint)) := by
  simp only [readEndpoint, hparse, ofWeb_iff, h, if_false]
  exact refused_refuse _

theorem readEndpoint_of_unshown {reason : Url.HostError} (hparse : Url.parse endpoint = .ok url)
    (hweb : url.OfWeb) (h : url.shownHost = .error reason) :
    readEndpoint (.text endpoint) = .error (.host reason) := by
  simp only [readEndpoint, hparse, ofWeb_iff, hweb, if_true, h]

theorem readEndpoint_of_no_host (hparse : Url.parse endpoint = .ok url) (hweb : url.OfWeb)
    (h : url.shownHost = .ok []) : Refused (readEndpoint (.text endpoint)) := by
  simp only [readEndpoint, hparse, ofWeb_iff, hweb, if_true, h, List.isEmpty_nil]
  exact refused_refuse _

theorem readEndpoint_of_isEndpoint (h : IsEndpoint endpoint url) :
    readEndpoint (.text endpoint) = .ok (endpoint, url) := by
  obtain ⟨hparse, hweb, host, hhost, hne⟩ := h
  simp only [readEndpoint, hparse, ofWeb_iff, hweb, if_true, hhost, List.isEmpty_iff, hne, if_false]

theorem hostReadable_iff (h : Url.parse endpoint = .ok url) :
    HostReadable endpoint ↔ (url.OfWeb → ∃ host, url.shownHost = .ok host) := by
  constructor
  · intro hreadable
    exact hreadable url h
  · intro hshown url' hparse
    cases h.symm.trans hparse
    exact hshown

/-- An endpoint is refused, or its host cannot be shown, or it is read. -/
theorem readEndpoint_cases (endpoint : String) :
    (Refused (readEndpoint (.text endpoint)) ∧ HostReadable endpoint) ∨
    (∃ reason, readEndpoint (.text endpoint) = .error (.host reason) ∧ ¬ HostReadable endpoint) ∨
    ∃ url, readEndpoint (.text endpoint) = .ok (endpoint, url) ∧
      HostReadable endpoint ∧ IsEndpoint endpoint url := by
  cases hparse : Url.parse endpoint with
  | error e =>
    refine .inl ⟨readEndpoint_of_unparsed hparse, ?_⟩
    intro url hurl
    cases hparse.symm.trans hurl
  | ok url =>
    rw [hostReadable_iff hparse]
    by_cases hweb : url.OfWeb
    · cases hhost : url.shownHost with
      | error reason =>
        refine .inr (.inl ⟨reason, readEndpoint_of_unshown hparse hweb hhost, ?_⟩)
        intro hshown
        obtain ⟨_, ⟨⟩⟩ := hshown hweb
      | ok host =>
        by_cases hne : host = []
        · subst hne
          exact .inl ⟨readEndpoint_of_no_host hparse hweb hhost, fun _ => ⟨[], rfl⟩⟩
        · have hendpoint : IsEndpoint endpoint url := ⟨hparse, hweb, host, hhost, hne⟩
          exact .inr (.inr ⟨url, readEndpoint_of_isEndpoint hendpoint, fun _ => ⟨host, rfl⟩,
            hendpoint⟩)
    · exact .inl ⟨readEndpoint_of_not_web hparse hweb, fun h => absurd h hweb⟩

/-- What has been read is an endpoint. -/
theorem isEndpoint_of_readEndpoint (h : readEndpoint given = .ok (endpoint, url)) :
    given = .text endpoint ∧ IsEndpoint endpoint url := by
  cases given with
  | text text =>
    rcases readEndpoint_cases text with
      ⟨⟨e, he, -⟩, -⟩ | ⟨reason, he, -⟩ | ⟨url', hurl, -, hendpoint⟩
    · cases he.symm.trans h
    · cases he.symm.trans h
    · cases hurl.symm.trans h
      exact ⟨rfl, hendpoint⟩
  | _ => cases h

/-! ## Setting up a client -/

theorem agentFor_none (ownsTransport : Bool) : ∃ agent, agentFor none ownsTransport = .ok agent := by
  cases ownsTransport with
  | false => exact ⟨none, rfl⟩
  | true => exact ⟨some "fcm-relay/0.1", rfl⟩

theorem agentFor_error {e : SetupError} (h : agentFor ownConfig ownsTransport = .error e) :
    ownsTransport = true ∧
      ∃ config, ownConfig = some config ∧ readUserAgent config.userAgent = .error e := by
  cases ownConfig with
  | none =>
    obtain ⟨agent, hagent⟩ := agentFor_none ownsTransport
    cases hagent.symm.trans h
  | some config =>
    cases ownsTransport with
    | false => cases h
    | true =>
      refine ⟨rfl, config, rfl, ?_⟩
      unfold agentFor at h
      cases hread : readUserAgent config.userAgent with
      | error e' =>
        rw [if_pos rfl, Option.getD_some, hread] at h
        cases h
        rfl
      | ok agent =>
        rw [if_pos rfl, Option.getD_some, hread] at h
        cases h

@[simp] theorem truthy_text_iff (s : String) : (Value.text s).truthy = true ↔ s ≠ "" := by
  simp [Value.truthy]

theorem new_of_missing (h : ¬ (given.truthy = true ∧ apiKey.truthy = true)) :
    Refused (Client.new given apiKey ownConfig ownsTransport provider) := by
  unfold Client.new
  split
  · exact refused_refuse _
  · split
    · exact refused_refuse _
    · rename_i hendpoint hkey
      exact absurd ⟨by simpa using hendpoint, by simpa using hkey⟩ h

/-- With the endpoint and the key there, the one is read and the transport set
up. -/
theorem new_of_given (hgiven : given.truthy = true) (hkey : apiKey.truthy = true) :
    Client.new given apiKey ownConfig ownsTransport provider =
      (readEndpoint given >>= fun (read : String × Url) =>
        agentFor ownConfig ownsTransport >>= fun ownTransport =>
          .ok ⟨read.1, read.2, apiKey, ownConfig, ownTransport, provider⟩) := by
  unfold Client.new agentFor
  rw [hgiven, hkey]
  cases ownsTransport <;> cases readUserAgent (ownConfig.getD {}).userAgent <;> rfl

theorem new_of_unreadable (hendpoint : endpoint ≠ "") (hkey : apiKey.truthy = true)
    (h : ¬ HostReadable endpoint) :
    ∃ reason, Client.new (.text endpoint) apiKey ownConfig ownsTransport provider =
      .error (.host reason) := by
  rcases readEndpoint_cases endpoint with
    ⟨-, hreadable⟩ | ⟨reason, hread, -⟩ | ⟨url, -, hreadable, -⟩
  · exact absurd hreadable h
  · rw [new_of_given ((truthy_text_iff endpoint).mpr hendpoint) hkey, hread]
    exact ⟨reason, rfl⟩
  · exact absurd hreadable h

/-- A client that there is has an endpoint that can be read. -/
theorem isEndpoint_of_new
    (h : Client.new given apiKey ownConfig ownsTransport provider = .ok c) :
    (given.truthy = true ∧ apiKey.truthy = true) ∧ given = .text c.endpoint ∧
      IsEndpoint c.endpoint c.url := by
  by_cases hgiven : given.truthy = true ∧ apiKey.truthy = true
  · rw [new_of_given hgiven.1 hgiven.2] at h
    obtain ⟨read, hread, h⟩ := bind_eq_ok_iff.mp h
    obtain ⟨ownTransport, -, h⟩ := bind_eq_ok_iff.mp h
    cases h
    exact ⟨hgiven, isEndpoint_of_readEndpoint hread⟩
  · obtain ⟨e, he, -⟩ := new_of_missing hgiven
    cases he.symm.trans h

theorem exists_new_iff :
    (∃ c, Client.new (.text endpoint) apiKey ownConfig ownsTransport provider = .ok c) ↔
      (endpoint ≠ "" ∧ apiKey.truthy = true) ∧ (∃ url, IsEndpoint endpoint url) ∧
        ∃ agent, agentFor ownConfig ownsTransport = .ok agent := by
  rw [← truthy_text_iff]
  constructor
  · rintro ⟨c, hc⟩
    obtain ⟨hgiven, hsame, hendpoint⟩ := isEndpoint_of_new hc
    rw [new_of_given hgiven.1 hgiven.2] at hc
    obtain ⟨read, -, hc⟩ := bind_eq_ok_iff.mp hc
    obtain ⟨agent, hagent, -⟩ := bind_eq_ok_iff.mp hc
    exact ⟨hgiven, ⟨c.url, Value.text.inj hsame ▸ hendpoint⟩, agent, hagent⟩
  · rintro ⟨hgiven, ⟨url, hendpoint⟩, agent, hagent⟩
    rw [new_of_given hgiven.1 hgiven.2, readEndpoint_of_isEndpoint hendpoint, hagent]
    exact ⟨_, rfl⟩

/-- Where there is no client, there is a refusal, or the host or the user agent
could not be read. -/
theorem new_error {e : SetupError}
    (h : Client.new (.text endpoint) apiKey ownConfig ownsTransport provider = .error e) :
    e.IsRefusal ∨ ((endpoint ≠ "" ∧ apiKey.truthy = true) ∧ ¬ HostReadable endpoint) ∨
      agentFor ownConfig ownsTransport = .error e := by
  rw [← truthy_text_iff]
  by_cases hgiven : (Value.text endpoint).truthy = true ∧ apiKey.truthy = true
  · rw [new_of_given hgiven.1 hgiven.2] at h
    rcases bind_eq_error_iff.mp h with hread | ⟨read, -, h⟩
    · rcases readEndpoint_cases endpoint with
        ⟨⟨e', he', hrefusal⟩, -⟩ | ⟨reason, -, hunreadable⟩ | ⟨url, hurl, -⟩
      · cases he'.symm.trans hread
        exact .inl hrefusal
      · exact .inr (.inl ⟨hgiven, hunreadable⟩)
      · cases hurl.symm.trans hread
    · rcases bind_eq_error_iff.mp h with hagent | ⟨agent, -, ⟨⟩⟩
      exact .inr (.inr hagent)
  · obtain ⟨e', he', hrefusal⟩ := new_of_missing hgiven
    cases he'.symm.trans h
    exact .inl hrefusal

/-- Requests go to the URL that the endpoint is. -/
theorem IsSetUp.parse_endpoint (h : c.IsSetUp) : Url.parse c.endpoint = .ok c.url := by
  obtain ⟨given, apiKey, ownConfig, ownsTransport, provider, hnew⟩ := h
  obtain ⟨-, -, hparse, -⟩ := isEndpoint_of_new hnew
  exact hparse

/-! ## A client for any configuration -/

/-- A token. -/
def sampleToken : BearerToken := { accessToken := .text "token" }

/-- A URL. -/
def sampleUrl : Url :=
  ⟨"https".toList, [], "push.example".toList, none, "/send".toList, none, none⟩

/-- A client with a configuration of its own that gets the same token for all
credentials. -/
def sample (config : Config) : Client where
  endpoint := "https://push.example/send"
  url := sampleUrl
  apiKey := .text "key"
  ownConfig := some config
  ownTransport := none
  provider := .custom fun _ => .ok sampleToken

theorem sample_isSetUp (config : Config) : (sample config).IsSetUp := by
  refine ⟨.text "https://push.example/send", .text "key", some config, false,
    .custom fun _ => .ok sampleToken, ?_⟩
  have hread : readEndpoint (.text "https://push.example/send") =
      .ok ("https://push.example/send", sampleUrl) := rfl
  unfold Client.new
  rw [hread]
  rfl

theorem sample_hostAscii (config : Config) : (sample config).HostAscii := by
  show Http.Ascii (String.ofList sampleUrl.hostText)
  decide

/-- A response that is a delivery, with an empty object for its body. -/
def sampleDelivery : Reply := .response { status := 200, body := [0x7B, 0x7D] }

theorem sampleDelivery_delivered : sampleDelivery.delivered?.isSome = true := by
  decide +kernel

theorem sampleDelivery_legible : sampleDelivery.Legible := by
  intro hnone
  have hsome := sampleDelivery_delivered
  unfold sampleDelivery at hsome
  rw [hnone] at hsome
  cases hsome

/-- A response that is not a delivery, and says so. -/
def sampleRejection : Reply := .response { status := 500, body := [0x6E, 0x6F] }

theorem sampleRejection_legible : sampleRejection.Legible :=
  fun _ => ⟨"no", by decide +kernel⟩

/-- A response that is not a delivery, and whose body is declared to be in a
character set that yields no text. -/
def unreadableRejection : Reply :=
  .response {
    status := 500
    contentType := some "text/plain; charset=rot13"
    body := [0x61, 0x62] }

/-- A transport that gives some replies in turn, and deliveries ever after. -/
def answering (replies : List Reply) : Surroundings where
  answers n := { reply := replies.getD n sampleDelivery }
  ids := .numbered
  logging := none

/-- A session in which nothing has happened yet. -/
def freshSession : Session := { clock := 0 }

/-- A message for two targets. -/
def sampleMessage : Message := .ofData .null [.text "first", .text "second"]

theorem sampleToken_plain : sampleToken.Plain := by
  refine ⟨"token", rfl, ?_, ?_⟩
  · decide
  · decide

end Client
end Delivery
end PushRelay
