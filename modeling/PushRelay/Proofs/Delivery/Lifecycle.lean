import PushRelay.Proofs.Delivery.Runs

/-!
# From open to closed

A transport that a client was given stays open, and one of the client's own is
open until the first step that closes the client. From then on it stays
closed, and what would make a request fails instead, on account of the closed
transport unless the host cannot be named in a header to begin with.
-/

namespace PushRelay.Delivery.Client

variable {c : Client} {env : Surroundings} {message : Option Message}
  {credentials : Value} {s t : Session} {token : BearerToken} {steps : List Step}

/-! ## What a run does to the transport -/

theorem run_closed (c : Client) (env : Surroundings) (steps : List Step) (s : Session) :
    (c.run env steps s).2.closed =
      (s.closed || c.ownTransport.isSome && steps.any Step.closes) := by
  induction steps generalizing s with
  | nil => simp [Client.run]
  | cons step rest ih =>
    rw [run_cons, ih, (step_did c env step s).closed, List.any_cons]
    cases s.closed <;> cases c.ownTransport.isSome <;> simp

theorem run_tags (hs : s.tagging.Sound) :
    (c.run env steps s).2.tagging.tags = s.tagging.tags := by
  refine (run_keeps (I := fun t => t.tagging.tags = s.tagging.tags ∧ t.tagging.Sound)
    ?_ ⟨rfl, hs⟩).1
  rintro step t ⟨htags, hsound⟩
  obtain ⟨hstep, hafter⟩ := step_tags c env step hsound
  exact ⟨hstep.trans htags, hafter⟩

/-- A step of a client that is closed makes no request, and does not open it. -/
theorem Did.of_closed {step : Step} (h : c.Did env step s t) (hclosed : s.closed = true) :
    t.closed = true ∧ t.requests = s.requests := by
  refine ⟨by rw [h.closed, hclosed, Bool.true_or], ?_⟩
  obtain ⟨made, hmade, hkind⟩ := h.requests
  cases made with
  | nil => rw [hmade, List.append_nil]
  | cons r rest =>
    obtain ⟨hopen, -⟩ := hkind r List.mem_cons_self
    rw [hclosed] at hopen
    cases hopen

theorem run_of_closed (hclosed : s.closed = true) :
    (c.run env steps s).2.closed = true ∧
      (c.run env steps s).2.requests = s.requests := by
  refine run_keeps (I := fun t => t.closed = true ∧ t.requests = s.requests) ?_
    ⟨hclosed, rfl⟩
  rintro step t ⟨hclosed, hrequests⟩
  obtain ⟨hstill, hnone⟩ := (step_did c env step t).of_closed hclosed
  exact ⟨hstill, hnone.trans hrequests⟩

/-! ## Sending when closed -/

/-- What a request fails with when the transport is closed. -/
def closedFailure (c : Client) : Failure :=
  match Http.headerText (String.ofList c.url.hostText) with
  | .ok _ => .closed
  | .error e => .header e

theorem closedFailure_of_hostAscii (h : c.HostAscii) : c.closedFailure = .closed := by
  unfold closedFailure
  rw [Http.headerText_of_ascii h]

theorem closedFailure_of_bad_host {e : Http.HeaderError}
    (h : Http.headerText (String.ofList c.url.hostText) = .error e) :
    c.closedFailure = .header e := by
  unfold closedFailure
  rw [h]

theorem closedFailure_foreign (c : Client) (e : RelayError) :
    c.closedFailure ≠ .relay e := by
  unfold closedFailure
  split <;> exact fun h => by cases h

/-- The host is looked at before the transport is. -/
theorem post_of_closed (env : Surroundings) (body : String)
    (htoken : Http.Ascii token.header) (hclosed : s.closed = true) :
    c.post env token body s = (.error c.closedFailure, s) := by
  unfold post authorization closedFailure
  rw [Http.headerText_of_ascii htoken]
  cases Http.headerText (String.ofList c.url.hostText) with
  | error e => rfl
  | ok host =>
    show (if s.closed = true then _ else _) = _
    rw [if_pos hclosed]

section

variable {wire : WireMessage} {rest : List WireMessage} {body : String}
  (htoken : Http.Ascii token.header) (hbody : wire.encode = .ok body)
  (hclosed : s.closed = true)

include htoken hbody hclosed

theorem deliver_of_closed (env : Surroundings) :
    c.deliver env token wire s = (.error c.closedFailure, s) := by
  unfold deliver
  rw [hbody]
  simp only [post_of_closed env body htoken hclosed]

theorem attempt_of_closed (env : Surroundings) :
    c.attempt env token wire s = (.error c.closedFailure, s) :=
  attempt_of_passed (deliver_of_closed htoken hbody hclosed env)
    (recorded?_of_foreign (closedFailure_foreign c))

end

/-- A send gets as far as the request for its first target: the message is
valid, there is a token for it that can be sent, and a body. -/
def ComesToRequest (c : Client) (env : Surroundings) (message : Option Message)
    (credentials : Value) (s : Session) : Prop :=
  ∃ m token target rest, Message.validate message c.config = .ok m ∧
    (c.fetch env credentials s).1 = .ok token ∧ Http.Ascii token.header ∧
    m.targets.items = .ok (target :: rest) ∧ (m.body? target).isSome = true

theorem ComesToRequest.reaches (h : c.ComesToRequest env message credentials s)
    (hs : s.tagging.Sound) :
    ∃ m token wire rest body t,
      c.Reaches env message credentials s m token (wire :: rest) t ∧
        Http.Ascii token.header ∧ wire.encode = .ok body := by
  obtain ⟨m, token, target, rest, hv, hf, htoken, hts, hbody⟩ := h
  obtain ⟨body, hbody⟩ := Option.isSome_iff_exists.mp hbody
  cases hn : Message.notificationOf m.notification with
  | error e =>
    -- there would be no body
    simp only [Message.body?, Message.translate, hn] at hbody
    cases hbody
  | ok n =>
    exact ⟨m, token, m.wireFor n target, rest.map (m.wireFor n), _, _,
      reaches_of_ready hv hf hs hts hn, htoken, (Message.body?_eq_some hn hbody).1⟩

theorem send_of_closed (h : c.ComesToRequest env message credentials s)
    (hs : s.tagging.Sound) (hclosed : s.closed = true) :
    (c.send env message credentials s).1 = .error c.closedFailure := by
  obtain ⟨m, token, wire, rest, body, t, hreaches, htoken, hbody⟩ := h.reaches hs
  have hstill : (t.bind [("target", wire.token)]).closed = true :=
    hreaches.closed.trans hclosed
  rw [send_fst_of_reaches hreaches,
    traverse_cons_of_error (deliver_of_closed htoken hbody hstill env)]

theorem sendEach_of_closed (h : c.ComesToRequest env message credentials s)
    (hs : s.tagging.Sound) (hclosed : s.closed = true) :
    (c.sendEach env message credentials s).1 = .error c.closedFailure := by
  obtain ⟨m, token, wire, rest, body, t, hreaches, htoken, hbody⟩ := h.reaches hs
  have hstill : (t.bind [("target", wire.token)]).closed = true :=
    hreaches.closed.trans hclosed
  rw [sendEach_fst_of_reaches hreaches,
    traverse_cons_of_error (attempt_of_closed htoken hbody hstill env)]

theorem sendFirst_of_error {failure : Failure}
    (h : (c.send env message credentials s).1 = .error failure) :
    (c.sendFirst env message credentials s).1 = .error failure := by
  have hsend : c.send env message credentials s =
      (.error failure, (c.send env message credentials s).2) := Prod.ext h rfl
  unfold sendFirst
  rw [hsend]

theorem step_of_closed {manner : Manner} {inBlock : Bool} {pause : Int}
    (h : c.ComesToRequest env message credentials (s.later pause))
    (hs : s.tagging.Sound) (hclosed : s.closed = true) :
    (c.step env ⟨.send manner message credentials, inBlock, pause⟩ s).1 =
      .error c.closedFailure := by
  have hsend := send_of_closed h hs hclosed
  rw [step_eq]
  cases manner with
  | all => exact congrArg (Except.map Yield.results) hsend
  | first => exact congrArg (Except.map Yield.result) (sendFirst_of_error hsend)
  | each => exact congrArg (Except.map Yield.outcomes) (sendEach_of_closed h hs hclosed)

/-- After any steps, the transport is closed exactly if it is the client's own
and one of the steps closed the client, and the tags are those of before. If
it is closed, then no later steps make a request or open it again, and every
later send that comes as far as its first request fails, in whatever manner it
is sent: because of the closed transport if the host can be named in a header,
and otherwise because it cannot. -/
theorem closed_for_good (c : Client) (env : Surroundings) (steps : List Step)
    (hopen : s.closed = false) (hs : s.tagging.Sound) :
    (c.run env steps s).2.closed =
        (c.ownTransport.isSome && steps.any Step.closes) ∧
      (c.run env steps s).2.tagging.tags = s.tagging.tags ∧
      ((c.run env steps s).2.closed = true →
        (∀ later, (c.run env (steps ++ later) s).2.closed = true ∧
          (c.run env (steps ++ later) s).2.requests = (c.run env steps s).2.requests) ∧
        ∀ manner message credentials inBlock pause,
          c.ComesToRequest env message credentials
            ((c.run env steps s).2.later pause) →
          (c.HostAscii →
            (c.step env ⟨.send manner message credentials, inBlock, pause⟩
              (c.run env steps s).2).1 = .error .closed) ∧
          ∀ e, Http.headerText (String.ofList c.url.hostText) = .error e →
            (c.step env ⟨.send manner message credentials, inBlock, pause⟩
              (c.run env steps s).2).1 = .error (.header e)) := by
  refine ⟨?_, run_tags hs, fun hclosed => ⟨?_, ?_⟩⟩
  · rw [run_closed, hopen, Bool.false_or]
  · intro later
    rw [run_append]
    exact run_of_closed hclosed
  · intro manner message credentials inBlock pause hcomes
    rw [step_of_closed hcomes (run_sound hs) hclosed]
    constructor
    · intro hhost
      rw [closedFailure_of_hostAscii hhost]
    · intro e he
      rw [closedFailure_of_bad_host he]

theorem sample_comesToRequest {c : Client} (env : Surroundings) (s : Session)
    (hconfig : c.config = {}) (hprovider : c.provider = (sample {}).provider) :
    c.ComesToRequest env (some sampleMessage) .null s := by
  refine ⟨sampleMessage, sampleToken, .text "first", [.text "second"], ?_, ?_,
    sampleToken_plain.header_ascii, rfl, by decide +kernel⟩
  · rw [hconfig]
    rfl
  · unfold fetch
    rw [hprovider]
    rfl

/-- A client with a transport of its own. -/
def ownSample : Client := { sample {} with ownTransport := some "push/1.0" }

/-- A block that is left with an error. -/
def failingBlock : List Step := [{ task := .send .each none .null, inBlock := true }]

theorem closed_for_good_after_block :
    ownSample.ownTransport.isSome = true ∧
      (ownSample.run (answering []) failingBlock freshSession).2.closed = true ∧
      ∀ manner,
        (ownSample.step (answering [])
          { task := .send manner (some sampleMessage) .null }
          (ownSample.run (answering []) failingBlock freshSession).2).1 =
            .error .closed := by
  have hsound : freshSession.tagging.Sound := by
    intro n hn
    cases hn
  obtain ⟨hclosed, -, hlater⟩ :=
    closed_for_good ownSample (answering []) failingBlock (s := freshSession) rfl hsound
  refine ⟨rfl, hclosed, fun manner => ?_⟩
  have hcomes := sample_comesToRequest (c := ownSample) (answering [])
    ((ownSample.run (answering []) failingBlock freshSession).2.later 0) rfl rfl
  have hmanner := (hlater hclosed).2 manner (some sampleMessage) .null false 0 hcomes
  exact hmanner.1 (sample_hostAscii {})

/-! ## A host that cannot be named -/

/-- A URL whose host is an address within a zone. -/
def zonedUrl : Url :=
  ⟨"http".toList, [], "fe80::1%é".toList, none, "/x".toList, none, none⟩

/-- A client with a transport of its own for that URL. -/
def zonedSample : Client where
  endpoint := "http://[fe80::1%é]/x"
  url := zonedUrl
  apiKey := .text "key"
  ownConfig := none
  ownTransport := some "fcm-relay/0.1"
  provider := (sample {}).provider

theorem zonedSample_isSetUp : zonedSample.IsSetUp := by
  have hparse : Url.parse "http://[fe80::1%é]/x" = .ok zonedUrl :=
    toOption_eq_some_iff.mp (by decide +kernel)
  have hread : readEndpoint (.text "http://[fe80::1%é]/x") =
      .ok ("http://[fe80::1%é]/x", zonedUrl) := by
    unfold readEndpoint
    simp only [hparse]
    rfl
  refine ⟨.text "http://[fe80::1%é]/x", .text "key", none, true, (sample {}).provider, ?_⟩
  unfold Client.new
  rw [hread]
  rfl

/-- The host of a request is looked at before it shows that the transport is
closed, even where the client closed it and nothing else is amiss. -/
theorem zoned_host_reported_instead :
    zonedSample.IsSetUp ∧ zonedSample.ownTransport.isSome = true ∧
      (zonedSample.run (answering []) [{ task := .close }] freshSession).2.closed = true ∧
      zonedSample.ComesToRequest (answering []) (some sampleMessage) .null
        (zonedSample.run (answering []) [{ task := .close }] freshSession).2 ∧
      (zonedSample.step (answering []) { task := .send .all (some sampleMessage) .null }
        (zonedSample.run (answering []) [{ task := .close }] freshSession).2).1 ≠
          .error .closed := by
  have hcomes := sample_comesToRequest (c := zonedSample) (answering [])
    ((zonedSample.run (answering []) [{ task := .close }] freshSession).2) rfl rfl
  have hsound : (zonedSample.run (answering []) [{ task := .close }]
      freshSession).2.tagging.Sound := run_sound fun n hn => by cases hn
  refine ⟨zonedSample_isSetUp, rfl, rfl, hcomes, ?_⟩
  rw [step_of_closed hcomes hsound rfl,
    closedFailure_of_bad_host (e := ⟨9, 9, 'é'⟩) rfl]
  exact fun h => by cases h

end PushRelay.Delivery.Client
