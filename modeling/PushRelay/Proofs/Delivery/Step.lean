import Mathlib.Data.List.TakeWhile
import PushRelay.Proofs.Delivery.Reply
import PushRelay.Proofs.Delivery.Session
import PushRelay.Proofs.Message.Body

/-!
# One delivery

What a delivery to one target can do: either it ends before anything is asked,
or it makes exactly one request and goes by the reply. Which of the two does
not depend on the reply.
-/

namespace PushRelay

/-! ## Headers -/

/-- All characters are ASCII. -/
def Http.Ascii (s : String) : Prop := ∀ c ∈ s.toList, Text.isAscii c = true

-- by the characters of `s`, as a search for an instance may try all there are
instance (s : String) : Decidable (Http.Ascii s) :=
  decidable_of_iff (s.toList.all Text.isAscii = true) List.all_eq_true

theorem Http.headerText_of_ascii {s : String} (h : Http.Ascii s) :
    Http.headerText s = .ok s := by
  have hrest : s.toList.dropWhile Text.isAscii = [] := List.dropWhile_eq_nil_iff.mpr h
  unfold Http.headerText
  rw [hrest]

theorem Http.headerText_of_not_ascii {s : String} (h : ¬ Http.Ascii s) :
    ∃ e, Http.headerText s = .error e := by
  have hrest : s.toList.dropWhile Text.isAscii ≠ [] := by
    intro hnil
    exact h (List.dropWhile_eq_nil_iff.mp hnil)
  unfold Http.headerText
  cases hdrop : s.toList.dropWhile Text.isAscii with
  | nil => exact absurd hdrop hrest
  | cons c rest => exact ⟨_, rfl⟩

/-- The access token is a text that can be sent as it is. -/
def BearerToken.Plain (t : BearerToken) : Prop :=
  ∃ text, t.accessToken = .text text ∧ text ≠ "" ∧ Http.Ascii text

theorem BearerToken.Plain.header_ascii {t : BearerToken} (h : t.Plain) :
    Http.Ascii t.header := by
  obtain ⟨text, htext, -, hascii⟩ := h
  have hscheme : Http.Ascii "Bearer " := by decide
  intro c hc
  simp only [header, htext, Value.shown, String.toList_append, List.mem_append] at hc
  rcases hc with hc | hc
  · exact hscheme c hc
  · exact hascii c hc

namespace Delivery

/-- The host that requests name can be sent as a header. -/
def Client.HostAscii (c : Client) : Prop := Http.Ascii (String.ofList c.url.hostText)

namespace Client

variable {c : Client} {env : Surroundings} {token : BearerToken} {wire : WireMessage}
  {s : Session}

theorem authorization_of_plain (htoken : token.Plain) (hhost : c.HostAscii) :
    c.authorization token = .ok (c.url.authorization?.getD token.header) := by
  unfold authorization
  rw [Http.headerText_of_ascii htoken.header_ascii, Http.headerText_of_ascii hhost]
  rfl

theorem authorization_of_bad_host (htoken : token.Plain) (hhost : ¬ c.HostAscii) :
    ∃ e, c.authorization token = .error e := by
  obtain ⟨e, he⟩ := Http.headerText_of_not_ascii hhost
  unfold authorization
  rw [Http.headerText_of_ascii htoken.header_ascii, he]
  exact ⟨e, rfl⟩

/-- A URL without a user leaves the authorization to the token. -/
theorem authorization?_of_no_user {url : Url} (h : url.user = []) :
    url.authorization? = none := by
  have hempty : Url.unquote [] = "" := by decide +kernel
  unfold Url.authorization?
  rw [h]
  simp [Url.splitBefore, hempty]

/-! ## Requests -/

/-- The request that carries a body. -/
def request (c : Client) (authorization body : String) : Http.Request where
  method := "POST"
  url := c.url.text
  authorization
  contentType := "application/json"
  userAgent := c.ownTransport
  body

/-- The session once a request has been answered. -/
def posted (env : Surroundings) (r : Http.Request) (s : Session) : Session :=
  { s with
    requests := s.requests ++ [r]
    clock := s.clock + (env.answers s.requests.length).takes }

theorem grown_posted (env : Surroundings) (r : Http.Request) (s : Session) :
    s.Grown [r] (posted env r s) :=
  ⟨rfl, rfl, rfl, rfl, rfl, rfl, rfl⟩

theorem post_of_authorized {authorization body : String}
    (ha : c.authorization token = .ok authorization) (hopen : s.closed = false) :
    c.post env token body s =
      (.ok (env.answers s.requests.length).reply,
        posted env (c.request authorization body) s) := by
  simp only [post, ha]
  rw [if_neg (by simp [hopen])]
  rfl

theorem post_of_barred (env : Surroundings) (body : String)
    (h : (∃ e, c.authorization token = .error e) ∨ s.closed = true) :
    ∃ failure, c.post env token body s = (.error failure, s) ∧
      ∀ e, failure ≠ .relay e := by
  unfold post
  cases ha : c.authorization token with
  | error e => exact ⟨.header e, rfl, fun e' he => by cases he⟩
  | ok authorization =>
    rcases h with ⟨e, he⟩ | hclosed
    · rw [ha] at he
      cases he
    · simp only [hclosed, if_true]
      exact ⟨.closed, rfl, fun e' he => by cases he⟩

/-! ## Deliveries -/

theorem deliver_of_unwritten {e : RelayError} (h : wire.encode = .error e) :
    c.deliver env token wire s = (.error (.relay e), s) := by
  simp only [deliver, h]

theorem deliver_of_barred (env : Surroundings) {body : String}
    (hbody : wire.encode = .ok body)
    (h : (∃ e, c.authorization token = .error e) ∨ s.closed = true) :
    ∃ failure, c.deliver env token wire s = (.error failure, s) ∧
      ∀ e, failure ≠ .relay e := by
  obtain ⟨failure, hpost, hforeign⟩ := post_of_barred env body h
  refine ⟨failure, ?_, hforeign⟩
  simp only [deliver, hbody, hpost]

section Asked

variable {authorization body : String} (ha : c.authorization token = .ok authorization)
  (hopen : s.closed = false) (hbody : wire.encode = .ok body)

include ha hopen hbody

theorem deliver_of_judge_ok {v : Value}
    (hjudge : c.judge wire.token (env.answers s.requests.length).reply = .ok v) :
    ∃ t, c.deliver env token wire s = (.ok ⟨wire.token, v⟩, t) ∧
      s.Grown [c.request authorization body] t := by
  have hrun : c.deliver env token wire s = (.ok ⟨wire.token, v⟩,
      (posted env (c.request authorization body) s).log env responseSite .debug
        s!"Delivered to target, response: {v.shown}" []) := by
    simp only [deliver, hbody, post_of_authorized ha hopen, hjudge]
  exact ⟨_, hrun, (grown_posted env _ s).trans (Session.grown_log ..)⟩

theorem deliver_of_judge_error {failure : Failure}
    (hjudge : c.judge wire.token (env.answers s.requests.length).reply =
      .error failure) :
    ∃ t, c.deliver env token wire s = (.error failure, t) ∧
      s.Grown [c.request authorization body] t := by
  refine ⟨_, ?_, grown_posted env (c.request authorization body) s⟩
  simp only [deliver, hbody, post_of_authorized ha hopen, hjudge]

end Asked

/-- A delivery asks for nothing and fails, or makes one request and goes by
the verdict on its reply. -/
theorem deliver_cases (c : Client) (env : Surroundings) (token : BearerToken)
    (wire : WireMessage) (s : Session) :
    (∃ failure, c.deliver env token wire s = (.error failure, s) ∧
      ∀ e, failure = .relay e → wire.encode = .error e) ∨
    ∃ authorization body t,
      c.authorization token = .ok authorization ∧ s.closed = false ∧
      wire.encode = .ok body ∧
      s.Grown [c.request authorization body] t ∧
      ((∃ v, c.judge wire.token (env.answers s.requests.length).reply = .ok v ∧
          c.deliver env token wire s = (.ok ⟨wire.token, v⟩, t)) ∨
        ∃ failure, c.judge wire.token (env.answers s.requests.length).reply =
          .error failure ∧
          c.deliver env token wire s = (.error failure, t)) := by
  -- without an authorization or an open transport nothing is asked
  have hbarred : ∀ {body : String}, wire.encode = .ok body →
      ((∃ e, c.authorization token = .error e) ∨ s.closed = true) →
      ∃ failure, c.deliver env token wire s = (.error failure, s) ∧
        ∀ e, failure = .relay e → wire.encode = .error e := by
    intro body hbody h
    obtain ⟨failure, hrun, hforeign⟩ := deliver_of_barred env hbody h
    exact ⟨failure, hrun, fun e he => absurd he (hforeign e)⟩
  cases hbody : wire.encode with
  | error e =>
    refine .inl ⟨.relay e, deliver_of_unwritten hbody, fun e' he' => ?_⟩
    cases he'
    rfl
  | ok body =>
    rw [hbody] at hbarred
    cases ha : c.authorization token with
    | error e => exact .inl (hbarred rfl (.inl ⟨e, ha⟩))
    | ok authorization =>
      cases hopen : s.closed with
      | true => exact .inl (hbarred rfl (.inr hopen))
      | false =>
        right
        cases hjudge : c.judge wire.token (env.answers s.requests.length).reply with
        | ok v =>
          obtain ⟨t, hrun, hgrown⟩ := deliver_of_judge_ok ha hopen hbody hjudge
          exact ⟨authorization, body, t, rfl, rfl, rfl, hgrown, .inl ⟨v, rfl, hrun⟩⟩
        | error failure =>
          obtain ⟨t, hrun, hgrown⟩ := deliver_of_judge_error ha hopen hbody hjudge
          exact ⟨authorization, body, t, rfl, rfl, rfl, hgrown,
            .inr ⟨failure, rfl, hrun⟩⟩

/-- The request is authorized with the token. -/
def Authorizes (c : Client) (token : BearerToken) (r : Http.Request) : Prop :=
  c.authorization token = .ok r.authorization

/-- The request is one that the client posts with the token. -/
def Posts (c : Client) (token : BearerToken) (r : Http.Request) : Prop :=
  c.Authorizes token r ∧ r = c.request r.authorization r.body

theorem deliver_makes (c : Client) (env : Surroundings) (token : BearerToken)
    (wire : WireMessage) (s : Session) :
    s.Makes 1 (c.Posts token) (c.deliver env token wire s).2 := by
  rcases deliver_cases c env token wire s with
    ⟨failure, hrun, -⟩ | ⟨a, body, t, ha, hopen, -, hgrown, hrun⟩
  · rw [hrun]
    exact .of_nothing 1 _ (.refl s)
  · have hafter : (c.deliver env token wire s).2 = t := by
      rcases hrun with ⟨v, -, hrun⟩ | ⟨failure, -, hrun⟩ <;> rw [hrun]
    rw [hafter]
    refine ⟨_, hgrown, Nat.le_refl 1, ?_⟩
    intro r hr
    cases List.mem_singleton.mp hr
    exact ⟨hopen, ha, rfl⟩

end Client
end Delivery
end PushRelay
