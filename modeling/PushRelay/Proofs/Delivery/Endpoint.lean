import PushRelay.Proofs.Delivery.Authorization

/-!
# Endpoints

A client that there is reads its endpoint for each request just as it was read
when it was set up, so nothing is wrong with it then that was not wrong before.
-/

namespace PushRelay.Delivery.Client

/-- Why there is no URL for a request to go to. -/
inductive AddressError where
  | unreadable (e : UrlError)
  | unsupported (scheme : List Char)

/-- The URL that a request goes to. The endpoint is read anew for each, and
requests are made by no scheme but those of the web. -/
def address (c : Client) : Except AddressError Url :=
  match Url.parse c.endpoint with
  | .error e => .error (.unreadable e)
  | .ok url =>
    if url.scheme = "http".toList ∨ url.scheme = "https".toList then .ok url
    else .error (.unsupported url.scheme)

/-- Whatever the client is told to do, the requests that it makes are of the
kind. -/
def RequestsOnly (c : Client) (kind : Http.Request → Prop) : Prop :=
  ∀ (env : Surroundings) (steps : List Step) (s : Session),
    ∃ made, (c.run env steps s).2.requests = s.requests ++ made ∧ ∀ r ∈ made, kind r

/-- The endpoint never stands in the way of a request: there is a URL to go to
and all requests go there, so that one fails only as the transport is closed,
or as what is to be a header cannot be one. -/
structure Addressable (c : Client) : Prop where
  address : c.address = .ok c.url
  goes : c.RequestsOnly fun r => r.url = c.url.text
  fails : ∀ env token body s failure, (c.post env token body s).1 = .error failure →
    failure = .closed ∨ ∃ e, failure = .header e

variable {c : Client}

theorem RequestsOnly.mono {kind kind' : Http.Request → Prop} (h : c.RequestsOnly kind)
    (hkind : ∀ r, kind r → kind' r) : c.RequestsOnly kind' := by
  intro env steps s
  obtain ⟨made, hmade, hall⟩ := h env steps s
  exact ⟨made, hmade, fun r hr => hkind r (hall r hr)⟩

/-- All that a client ever requests it posts with some token. -/
theorem requestsOnly_posts (c : Client) : c.RequestsOnly fun r => ∃ token, c.Posts token r := by
  intro env steps s
  induction steps generalizing s with
  | nil => exact ⟨[], (List.append_nil _).symm, List.forall_mem_nil _⟩
  | cons step rest ih =>
    obtain ⟨made, hmade, hfirst⟩ := (step_did c env step s).requests
    obtain ⟨more, hmore, hrest⟩ := ih (c.step env step s).2
    refine ⟨made ++ more, ?_, ?_⟩
    · rw [run_cons, hmore, hmade, List.append_assoc]
    · intro r hr
      rcases List.mem_append.mp hr with hr | hr
      · obtain ⟨-, -, token, -, -, hposts⟩ := hfirst r hr
        exact ⟨token, hposts⟩
      · exact hrest r hr

theorem Posts.url_eq {token : BearerToken} {r : Http.Request} (h : c.Posts token r) :
    r.url = c.url.text := by
  rw [h.2]
  rfl

theorem addressable_of_isEndpoint (h : IsEndpoint c.endpoint c.url) : c.Addressable where
  address := by
    unfold Client.address
    rw [h.1]
    exact if_pos h.2.1
  goes := (requestsOnly_posts c).mono fun _ ⟨_, hposts⟩ => hposts.url_eq
  fails env token body s failure hfailure := by
    unfold post at hfailure
    split at hfailure
    · cases hfailure
      exact .inr ⟨_, rfl⟩
    · split at hfailure
      · cases hfailure
        exact .inl rfl
      · cases hfailure

/-- Setting up a client for a text and a key, both of which may be any, ends
in nothing but a client or a refusal just if the host can be read in case
there are a URL of the web and a key. There is a client just for a key and a
URL of the web with a host, and its endpoint never stands in the way of a
request. -/
theorem setUp_contained_iff (endpoint apiKey : String) (ownsTransport : Bool)
    (provider : Provider) :
    let outcome := Client.new (.text endpoint) (.text apiKey) none ownsTransport provider
    ((∀ e, outcome = .error e → e.IsRefusal) ↔
      (endpoint ≠ "" ∧ apiKey ≠ "" → HostReadable endpoint)) ∧
    ((∃ c, outcome = .ok c) ↔ (endpoint ≠ "" ∧ apiKey ≠ "") ∧ ∃ url, IsEndpoint endpoint url) ∧
    ∀ c, outcome = .ok c → c.Addressable := by
  intro outcome
  have hkey := truthy_text_iff apiKey
  obtain ⟨agent, hagent⟩ := agentFor_none ownsTransport
  refine ⟨⟨?_, ?_⟩, ?_, ?_⟩
  · intro hrefusals hgiven
    by_cases hreadable : HostReadable endpoint
    · exact hreadable
    · obtain ⟨reason, hnew⟩ := new_of_unreadable hgiven.1 (hkey.mpr hgiven.2) hreadable
      obtain ⟨message, ⟨⟩⟩ := hrefusals _ hnew
  · intro hreadable e he
    rcases new_error he with hrefusal | ⟨hgiven, hunreadable⟩ | hagent'
    · exact hrefusal
    · exact absurd (hreadable ⟨hgiven.1, hkey.mp hgiven.2⟩) hunreadable
    · cases hagent.symm.trans hagent'
  · have hnew : (∃ c, outcome = .ok c) ↔ _ := exists_new_iff
    rw [hnew, hkey, hagent]
    exact and_congr_right fun _ => and_iff_left ⟨agent, rfl⟩
  · intro c hc
    obtain ⟨-, -, hendpoint⟩ := isEndpoint_of_new hc
    exact addressable_of_isEndpoint hendpoint

/-- A host that is marked as encoded, but stands for nothing, is reported as
what it is and not refused. -/
theorem undecodable_host_passes_through :
    ¬ ∀ e, Client.new (.text "http://xn--mnchen-3ya-") (.text "key") none true
      (sample {}).provider = .error e → e.IsRefusal := by
  have hparse : Url.parse "http://xn--mnchen-3ya-" =
      .ok ⟨"http".toList, [], "xn--mnchen-3ya-".toList, none, [], none, none⟩ :=
    toOption_eq_some_iff.mp (by decide +kernel)
  have hread : readEndpoint (.text "http://xn--mnchen-3ya-") = .error (.host .finalHyphen) :=
    readEndpoint_of_unshown hparse (.inl rfl) rfl
  have hnew : Client.new (.text "http://xn--mnchen-3ya-") (.text "key") none true
      (sample {}).provider = .error (.host .finalHyphen) := by
    rw [new_of_given rfl rfl, hread]
    rfl
  intro h
  obtain ⟨message, ⟨⟩⟩ := h _ hnew

end PushRelay.Delivery.Client
