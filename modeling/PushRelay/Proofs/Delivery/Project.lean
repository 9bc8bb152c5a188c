import PushRelay.Proofs.Delivery.Endpoint
import PushRelay.Proofs.Url.Splitting

/-!
# Clients for projects

The name of a project is written into the endpoint as it is. It stands behind
the first slash after the host, so it may change whatever comes after the
host, but not the host: no request for a project ever goes anywhere else.
-/

namespace PushRelay

/-- The scheme and the host that the messages of all projects go to. -/
def home : String × String := ("https", "fcm.googleapis.com")

namespace Delivery.Client

variable {project apiKey : Value} {ownConfig : Option Config} {ownsTransport : Bool}
  {provider : Provider} {c : Client} {url : Url} {scheme host : String}

/-- The client makes no request but for the host, by the scheme, to the port
that the scheme implies and with no user named. -/
structure StaysAt (c : Client) (scheme host : String) : Prop where
  url : c.url.IsAt scheme.toList host.toList
  goes : c.RequestsOnly fun r =>
    r.url = c.url.text ∧ Url.PointsTo r.url.toList scheme.toList host.toList

/-! ## Endpoints of projects -/

theorem isScheme_home : Url.IsScheme home.1.toList :=
  ⟨List.all_eq_true.mp (by decide), 'h', rfl, rfl⟩

theorem isBareHost_home : Url.IsBareHost home.2.toList := by
  have hbare : home.2.toList.all (· ∉ ['/', '?', '#', '@', ':', '[']) = true := by decide
  intro c hc
  exact of_decide_eq_true (List.all_eq_true.mp hbare c hc)

theorem readHost_home : Url.readHost home.2.toList = .ok home.2.toList :=
  toOption_eq_some_iff.mp (by decide +kernel)

/-- Whatever a project is called, its endpoint begins with the scheme and the
host, and a slash comes next. -/
theorem toList_endpointFor (project : Value) : ∃ rest, (endpointFor project).toList =
    home.1.toList ++ ':' :: '/' :: '/' :: (home.2.toList ++ '/' :: rest) := by
  refine ⟨"v1/projects/".toList ++ project.shown.toList ++ "/messages:send".toList, ?_⟩
  simp [endpointFor, sendEndpoint, home, String.toList_append]

theorem pointsTo_endpointFor (project : Value) :
    Url.PointsTo (endpointFor project).toList home.1.toList home.2.toList ∧
      Url.IsRooted (Url.split (endpointFor project).toList).path := by
  obtain ⟨rest, hrest⟩ := toList_endpointFor project
  obtain ⟨hpoints, hpath⟩ := Url.split_of_bareHost isScheme_home isBareHost_home
    (Url.EndsAuthority.cons (c := '/') (by decide) rest)
  have hrooted : Url.IsRooted ('/' :: rest) := by
    intro c hc
    cases hc
    rfl
  rw [hrest]
  refine ⟨hpoints, ?_⟩
  rw [hpath]
  exact hrooted.splitBefore ['?', '#']

theorem normalize_endpointFor (project : Value) :
    ∃ url, Url.normalize (Url.split (endpointFor project).toList) = .ok url ∧
      url.IsAt home.1.toList home.2.toList := by
  obtain ⟨hpoints, hrooted⟩ := pointsTo_endpointFor project
  exact Url.normalize_of_pointsTo hpoints hrooted (by decide) (by decide +kernel) readHost_home

theorem isAt_of_parse (h : Url.parse (endpointFor project) = .ok url) :
    url.IsAt home.1.toList home.2.toList := by
  obtain ⟨url', hurl', hat⟩ := normalize_endpointFor project
  cases hurl'.symm.trans (Url.parse_eq_ok_iff.mp h).2
  exact hat

theorem isEndpoint_of_parse (h : Url.parse (endpointFor project) = .ok url) :
    IsEndpoint (endpointFor project) url := by
  have hat := isAt_of_parse h
  have hshown : url.shownHost = .ok home.2.toList := by
    unfold Url.shownHost
    rw [hat.host]
    rfl
  exact ⟨h, .inr hat.scheme, _, hshown, by decide⟩

theorem hostReadable_endpointFor (project : Value) : HostReadable (endpointFor project) := by
  intro url hparse _
  obtain ⟨-, -, host, hshown, -⟩ := isEndpoint_of_parse hparse
  exact ⟨host, hshown⟩

/-- Nothing about the endpoint of a project can be wrong but its length and
characters that cannot be printed. -/
theorem exists_isEndpoint_endpointFor_iff (project : Value) :
    (∃ url, IsEndpoint (endpointFor project) url) ↔ Url.IsClean (endpointFor project) := by
  constructor
  · rintro ⟨url, hparse, -⟩
    exact (Url.parse_eq_ok_iff.mp hparse).1
  · intro hclean
    obtain ⟨url, hurl, -⟩ := normalize_endpointFor project
    exact ⟨url, isEndpoint_of_parse (Url.parse_eq_ok_iff.mpr ⟨hclean, hurl⟩)⟩

theorem endpointFor_ne_empty (project : Value) : endpointFor project ≠ "" := by
  obtain ⟨rest, hrest⟩ := toList_endpointFor project
  intro hempty
  rw [hempty] at hrest
  cases hrest

/-! ## Requests for projects -/

theorem staysAt_of_isAt (h : c.url.IsAt scheme.toList host.toList)
    (hscheme : Url.IsScheme scheme.toList) (hhost : Url.IsBareHost host.toList)
    (hne : host.toList ≠ []) : c.StaysAt scheme host where
  url := h
  goes := by
    refine (requestsOnly_posts c).mono ?_
    rintro r ⟨token, hposts⟩
    refine ⟨hposts.url_eq, ?_⟩
    rw [hposts.url_eq, Url.text, String.toList_ofList]
    exact h.pointsTo hscheme hhost hne

theorem forProject_of_missing (h : ¬ project.truthy = true) :
    Refused (Client.forProject project apiKey ownConfig ownsTransport provider) := by
  unfold Client.forProject
  rw [if_pos (by simpa using h)]
  exact refused_refuse _

theorem forProject_of_given (h : project.truthy = true) :
    Client.forProject project apiKey ownConfig ownsTransport provider =
      Client.new (.text (endpointFor project)) apiKey ownConfig ownsTransport provider := by
  unfold Client.forProject
  rw [h]
  rfl

/-- Whatever a project is called: the relay refuses it, or there is a client
for it all of whose requests go to the one host that there is for projects;
only a user agent of the application's own may stand in the way otherwise.
There is a client just if there are a project and a key, the endpoint is
clean, and the user agent can be sent. -/
theorem forProject_stays_home (project apiKey : Value) (ownConfig : Option Config)
    (ownsTransport : Bool) (provider : Provider) :
    let outcome := Client.forProject project apiKey ownConfig ownsTransport provider
    (∀ e, outcome = .error e → e.IsRefusal ∨ ownsTransport = true ∧
      ∃ config, ownConfig = some config ∧ readUserAgent config.userAgent = .error e) ∧
    (∀ c, outcome = .ok c → c.StaysAt "https" "fcm.googleapis.com") ∧
    ((∃ c, outcome = .ok c) ↔ (project.truthy = true ∧ apiKey.truthy = true) ∧
      Url.IsClean (endpointFor project) ∧ ∃ agent, agentFor ownConfig ownsTransport = .ok agent) := by
  intro outcome
  by_cases hproject : project.truthy = true
  · have houtcome : outcome = _ := forProject_of_given hproject
    rw [houtcome]
    refine ⟨?_, ?_, ?_⟩
    · intro e he
      rcases new_error he with hrefusal | ⟨-, hunreadable⟩ | hagent
      · exact .inl hrefusal
      · exact absurd (hostReadable_endpointFor project) hunreadable
      · exact .inr (agentFor_error hagent)
    · intro c hc
      obtain ⟨-, hsame, hparse, -⟩ := isEndpoint_of_new hc
      rw [← Value.text.inj hsame] at hparse
      exact staysAt_of_isAt (isAt_of_parse hparse) isScheme_home isBareHost_home (by decide)
    · rw [exists_new_iff, exists_isEndpoint_endpointFor_iff]
      simp only [hproject, endpointFor_ne_empty, ne_eq, not_false_eq_true, true_and]
  · have hrefused : Refused outcome := forProject_of_missing hproject
    obtain ⟨e, he, hrefusal⟩ := hrefused
    refine ⟨?_, ?_, iff_of_false ?_ fun h => hproject h.1.1⟩
    · intro e' he'
      cases he.symm.trans he'
      exact .inl hrefusal
    · intro c hc
      cases he.symm.trans hc
    · rintro ⟨c, hc⟩
      cases he.symm.trans hc

/-- A user agent that is no header stands in the way, and the relay does not
refuse it by itself. -/
theorem not_refused_or_at_home :
    ¬ ∀ (project : String) (apiKey : Value) (ownConfig : Option Config) (ownsTransport : Bool)
      (provider : Provider), project ≠ "" →
      let outcome := Client.forProject (.text project) apiKey ownConfig ownsTransport provider
      Refused outcome ∨ ∃ c, outcome = .ok c ∧ c.StaysAt "https" "fcm.googleapis.com" := by
  intro h
  have hagent : Client.forProject (.text "p") (.text "key") (some { userAgent := .text "é" }) true
      (.custom fun _ => .ok sampleToken) = .error (.header ⟨0, 0, 'é'⟩) := rfl
  have houtcome := h "p" (.text "key") (some { userAgent := .text "é" }) true
    (.custom fun _ => .ok sampleToken) (by decide)
  rw [hagent] at houtcome
  rcases houtcome with ⟨e, he, hrefusal⟩ | ⟨c, hc, -⟩
  · cases he
    obtain ⟨message, hrefused⟩ := hrefusal
    cases hrefused
  · cases hc

end Delivery.Client
end PushRelay
