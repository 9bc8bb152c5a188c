import PushRelay.Proofs.Delivery.Traversal

/-!
# What comes before the first delivery

A message is validated, a token is fetched for it, and a scope is entered.
None of this makes a request, and once all of it has gone well, a send does
what its traversal of the targets does.
-/

namespace PushRelay.Delivery

/-- The session `t` has come of `s` by asking for a token. -/
structure Session.Asked (s : Session) (credentials : Value) (t : Session) : Prop where
  credentials : t.credentials = s.credentials ++ [credentials]
  requests : t.requests = s.requests
  closed : t.closed = s.closed
  issued : t.tagging.issued = s.tagging.issued
  spent : t.tagging.spent = s.tagging.spent

theorem Session.Asked.sound {s t : Session} {credentials : Value}
    (h : s.Asked credentials t) (hs : s.tagging.Sound) : t.tagging.Sound := by
  intro n hn
  rw [h.spent] at hn
  rw [h.issued]
  exact hs n hn

/-- A line that is logged does not matter. -/
theorem Session.Asked.log {s t : Session} {credentials : Value}
    (h : s.Asked credentials t) (env : Surroundings) (site : Log.Site)
    (level : Log.Level) (message : String) (attributes : List (String × Value)) :
    s.Asked credentials (t.log env site level message attributes) := by
  have hlog := Session.grown_log t env site level message attributes
  exact ⟨hlog.credentials.trans h.credentials,
    hlog.requests.trans ((List.append_nil _).trans h.requests),
    hlog.closed.trans h.closed, hlog.issued.trans h.issued, hlog.spent.trans h.spent⟩

namespace Client

variable {c : Client} {env : Surroundings} {message : Option Message}
  {credentials : Value} {s t : Session} {m : Message} {token : BearerToken}

theorem fetch_asked (c : Client) (env : Surroundings) (credentials : Value)
    (s : Session) :
    s.Asked credentials (c.fetch env credentials s).2 := by
  unfold fetch
  split
  · dsimp only
    split <;> exact ⟨rfl, rfl, rfl, rfl, rfl⟩
  · dsimp only
    split
    · exact ⟨rfl, rfl, rfl, rfl, rfl⟩
    · refine Session.Asked.log ?_ ..
      exact ⟨rfl, rfl, rfl, rfl, rfl⟩

/-- A message that is refused is refused before a token is asked for. -/
theorem prepare_of_refused {e : MessageFailure}
    (h : Message.validate message c.config = .error e) :
    c.prepare env message credentials s = (.error (.ofMessage e), s) := by
  simp only [prepare, h]

theorem prepare_of_no_token {failure : Failure}
    (hv : Message.validate message c.config = .ok m)
    (hf : c.fetch env credentials s = (.error failure, t)) :
    c.prepare env message credentials s = (.error failure, t) := by
  simp only [prepare, hv, hf]

theorem prepare_of_token (hv : Message.validate message c.config = .ok m)
    (hf : c.fetch env credentials s = (.ok token, t)) :
    c.prepare env message credentials s = (.ok (m, token), t) := by
  simp only [prepare, hv, hf]

/-- What is prepared makes no more of the session than asking for a token
does, and nothing if there is no need for one. -/
theorem prepare_session (c : Client) (env : Surroundings) (message : Option Message)
    (credentials : Value) (s : Session) :
    (c.prepare env message credentials s).2 =
      if (Message.validate message c.config).isOk then (c.fetch env credentials s).2 else s := by
  cases hv : Message.validate message c.config with
  | error e =>
    rw [prepare_of_refused hv]
    rfl
  | ok m =>
    rcases hf : c.fetch env credentials s with ⟨failure | token, t⟩
    · rw [prepare_of_no_token hv hf]
      rfl
    · rw [prepare_of_token hv hf]
      rfl

/-! ## The shape of a send -/

/-- What is said at some place. -/
structure Remark where
  site : Log.Site
  text : String

/-- What a traversal came to, with a line about it if it went well. -/
def concluded {α : Type} (env : Surroundings) (line : α → Session → Remark) :
    Except Failure α × Session → Except Failure α × Session
  | (.error e, s) => (.error e, s)
  | (.ok a, s) => (.ok a, s.log env (line a s).site .info (line a s).text [])

/-- Prepares a message and runs over its targets. -/
def overTargets {α : Type} (c : Client) (env : Surroundings) (message : Option Message)
    (credentials : Value)
    (run : BearerToken → List WireMessage → Session → Except Failure α × Session)
    (line : Scope → α → Session → Remark) (s : Session) : Except Failure α × Session :=
  match c.prepare env message credentials s with
  | (.error e, s) => (.error e, s)
  | (.ok (m, token), s) =>
    withTargets env m s fun wires scope s => concluded env (line scope) (run token wires s)

/-- The line about a send that has come to its results. -/
def resultsLine (scope : Scope) (results : List DeliveryResult) (s : Session) : Remark where
  site := deliveredSite
  text := s!"Delivered message to {results.length} target(s) in {(scope.elapsed s.clock).wholeText}ms"

theorem resultsLine_of_clock (scope : Scope) (results : List DeliveryResult)
    (h : s.clock = t.clock) : resultsLine scope results s = resultsLine scope results t := by
  unfold resultsLine
  rw [h]

/-- The line about a best-effort send that has come to its outcomes. -/
def outcomesLine (_ : Scope) (outcomes : List TargetOutcome) (_ : Session) : Remark where
  site := countSite
  text :=
    let delivered := (outcomes.filter (·.success.truthy)).length
    s!"Delivered message to {delivered}/{outcomes.length} target(s)"

theorem send_eq_overTargets (c : Client) (env : Surroundings) (message : Option Message)
    (credentials : Value) (s : Session) :
    c.send env message credentials s =
      c.overTargets env message credentials
        (fun token => traverse (c.deliver env token)) resultsLine s := by
  unfold send overTargets
  rcases c.prepare env message credentials s with ⟨_ | ⟨m, token⟩, t⟩
  · rfl
  · dsimp only
    congr 1
    funext wires scope u
    rw [deliverAll_eq_traverse]
    rcases traverse (c.deliver env token) wires u with ⟨_ | _, _⟩ <;> rfl

theorem sendEach_eq_overTargets (c : Client) (env : Surroundings)
    (message : Option Message) (credentials : Value) (s : Session) :
    c.sendEach env message credentials s =
      c.overTargets env message credentials
        (fun token => traverse (c.attempt env token)) outcomesLine s := by
  unfold sendEach overTargets
  rcases c.prepare env message credentials s with ⟨_ | ⟨m, token⟩, t⟩
  · rfl
  · dsimp only
    congr 1
    funext wires scope u
    rw [attemptAll_eq_traverse]
    rcases traverse (c.attempt env token) wires u with ⟨_ | _, _⟩ <;> rfl

/-! ## Reaching the first delivery -/

/-- What the scope of a send to so many targets is told. -/
def targetCount (count : Nat) : Bindings := [("target_count", .int count)]

/-- The session in which the first of so many deliveries begins. -/
def start (c : Client) (env : Surroundings) (credentials : Value) (s : Session)
    (count : Nat) :
    Session :=
  (c.fetch env credentials s).2.opened env (targetCount count)

/-- A send comes as far as its first delivery, in the session `t`. -/
structure Reaches (c : Client) (env : Surroundings) (message : Option Message)
    (credentials : Value) (s : Session) (m : Message) (token : BearerToken)
    (wires : List WireMessage) (t : Session) :
    Prop where
  validated : Message.validate message c.config = .ok m
  fetched : (c.fetch env credentials s).1 = .ok token
  translated : m.translateAll = .ok wires
  begun : ∃ count, m.targets.length = .ok count ∧ t = c.start env credentials s count
  unspent : s.tagging.issued ∉ s.tagging.spent

section

variable {wires : List WireMessage}

theorem Reaches.requests (h : c.Reaches env message credentials s m token wires t) :
    t.requests = s.requests := by
  obtain ⟨count, -, rfl⟩ := h.begun
  exact (fetch_asked c env credentials s).requests

theorem Reaches.closed (h : c.Reaches env message credentials s m token wires t) :
    t.closed = s.closed := by
  obtain ⟨count, -, rfl⟩ := h.begun
  exact (fetch_asked c env credentials s).closed

theorem Reaches.reply (h : c.Reaches env message credentials s m token wires t)
    (i : Nat) :
    env.reply t i = env.reply s i := by
  unfold Surroundings.reply
  rw [h.requests]

/-- A valid message with a notification gets there once a token is to be
had. -/
theorem reaches_of_ready {ts : List Value} {n : Notification}
    (hv : Message.validate message c.config = .ok m)
    (hf : (c.fetch env credentials s).1 = .ok token) (hs : s.tagging.Sound)
    (hts : m.targets.items = .ok ts)
    (hn : Message.notificationOf m.notification = .ok n) :
    c.Reaches env message credentials s m token (ts.map (m.wireFor n))
      (c.start env credentials s ts.length) where
  validated := hv
  fetched := hf
  translated := Message.translateAll_eq_map hts hn
  begun := ⟨_, (Message.targets_of_validated hv hts).1, rfl⟩
  unspent := hs.next_unspent

variable {α : Type}
  {run : BearerToken → List WireMessage → Session → Except Failure α × Session}
  {line : Scope → α → Session → Remark} {made : List Http.Request}

theorem concluded_fst (env : Surroundings) (line : α → Session → Remark)
    (r : Except Failure α × Session) : (concluded env line r).1 = r.1 := by
  rcases r with ⟨_ | _, _⟩ <;> rfl

theorem concluded_grown (env : Surroundings) (line : α → Session → Remark)
    {r : Except Failure α × Session} (h : s.Grown made r.2) :
    s.Grown made (concluded env line r).2 := by
  rcases r with ⟨_ | a, t⟩
  · exact h
  · have hlog := h.trans (Session.grown_log t env (line a t).site .info (line a t).text [])
    rw [List.append_nil] at hlog
    exact hlog

/-- From the first delivery on, a send does what its run over the targets
does, and then leaves its scope. -/
theorem overTargets_eq_of_reaches
    (run : BearerToken → List WireMessage → Session → Except Failure α × Session)
    (line : Scope → α → Session → Remark)
    (h : c.Reaches env message credentials s m token wires t)
    (hgrown : t.Grown made (run token wires t).2) :
    ∃ scope, c.overTargets env message credentials run line s =
      ((run token wires t).1,
        (c.fetch env credentials s).2.left
          (concluded env (line scope) (run token wires t)).2) := by
  have hfetch : c.fetch env credentials s = (.ok token, (c.fetch env credentials s).2) :=
    Prod.ext h.fetched rfl
  have hasked := fetch_asked c env credentials s
  obtain ⟨count, hcount, rfl⟩ := h.begun
  have hdone := concluded_grown env
    (line ((c.fetch env credentials s).2.scopeOf env (targetCount count))) hgrown
  refine ⟨(c.fetch env credentials s).2.scopeOf env (targetCount count), ?_⟩
  unfold overTargets
  rw [prepare_of_token h.validated hfetch]
  simp only [withTargets, hcount, h.translated]
  rw [Session.within_eq, if_neg]
  · exact Prod.ext (concluded_fst ..) rfl
  · show (c.fetch env credentials s).2.tagging.issued ∉ _
    rw [hasked.issued]
    refine fun hspent => h.unspent ?_
    rw [← hasked.spent]
    exact hdone.spent ▸ hspent

theorem overTargets_of_reaches
    (run : BearerToken → List WireMessage → Session → Except Failure α × Session)
    (line : Scope → α → Session → Remark)
    (h : c.Reaches env message credentials s m token wires t)
    (hgrown : t.Grown made (run token wires t).2) :
    (c.overTargets env message credentials run line s).1 = (run token wires t).1 ∧
      (c.overTargets env message credentials run line s).2.requests =
        s.requests ++ made ∧
      (c.overTargets env message credentials run line s).2.credentials =
        s.credentials ++ [credentials] := by
  have hrequests := h.requests
  have hasked := fetch_asked c env credentials s
  obtain ⟨scope, heq⟩ := overTargets_eq_of_reaches run line h hgrown
  have hdone := concluded_grown env (line scope) hgrown
  obtain ⟨count, -, rfl⟩ := h.begun
  rw [heq]
  refine ⟨rfl, ?_, hdone.credentials.trans hasked.credentials⟩
  rw [← hrequests]
  exact hdone.requests

/-- What cannot be translated comes to nothing, in whatever state the scope is
left. -/
theorem withTargets_of_untranslated {count : Nat} {e : Misuse}
    (hcount : m.targets.length = .ok count) (hwires : m.translateAll = .error e)
    (t : Session)
    (body : List WireMessage → Scope → Session → Except Failure α × Session) :
    ∃ failure, (withTargets env m t body).1 = .error failure ∧ ∀ e, failure ≠ .relay e := by
  simp only [withTargets, hcount, hwires]
  rw [Session.within_eq]
  split
  · exact ⟨.scope .spent, rfl, fun e' he => by cases he⟩
  · exact ⟨.misused e, rfl, fun e' he => by cases he⟩

/-- What there is to a send that does not get to its first delivery: a
refusal, no token, or something that is not the relay's. -/
def EndsEarly {α : Type} (c : Client) (env : Surroundings) (message : Option Message)
    (credentials : Value) (s : Session) (run : Except Failure α × Session) : Prop :=
  (∃ e, Message.validate message c.config = .error e ∧
      run = (.error (.ofMessage e), s)) ∨
  (∃ failure, (c.fetch env credentials s).1 = .error failure ∧ run.1 = .error failure) ∨
  ∃ failure, run.1 = .error failure ∧ ∀ e, failure ≠ .relay e

theorem overTargets_cases
    (hrun : ∀ token wires (t : Session), ∃ made, t.Grown made (run token wires t).2) :
    EndsEarly c env message credentials s
      (c.overTargets env message credentials run line s) ∨
      ∃ m token wires t, c.Reaches env message credentials s m token wires t := by
  cases hv : Message.validate message c.config with
  | error e =>
    refine .inl (.inl ⟨e, hv, ?_⟩)
    rw [overTargets, prepare_of_refused hv]
  | ok m =>
    cases hf : c.fetch env credentials s with
    | mk token? t =>
      cases token? with
      | error failure =>
        refine .inl (.inr (.inl ⟨failure, by rw [hf], ?_⟩))
        rw [overTargets, prepare_of_no_token hv hf]
      | ok token =>
        have hasked := fetch_asked c env credentials s
        rw [hf] at hasked
        rw [overTargets, prepare_of_token hv hf]
        dsimp only
        cases hcount : m.targets.length with
        | error e =>
          refine .inl (.inr (.inr ⟨.misused e, ?_, fun e' he => by cases he⟩))
          simp only [withTargets, hcount]
        | ok count =>
          cases hwires : m.translateAll with
          | error e =>
            exact .inl (.inr (.inr (withTargets_of_untranslated hcount hwires t _)))
          | ok wires =>
            -- a ticket that was spent beforehand is still spent on leaving
            by_cases hspent : s.tagging.issued ∈ s.tagging.spent
            · obtain ⟨made, hmade⟩ := hrun token wires (t.opened env (targetCount count))
              have hdone := concluded_grown env (line (t.scopeOf env (targetCount count)))
                hmade
              refine .inl (.inr (.inr ⟨.scope .spent, ?_, fun e' he => by cases he⟩))
              simp only [withTargets, hcount, hwires]
              rw [Session.within_eq, if_pos]
              have hstill : s.tagging.issued ∈ t.tagging.spent := hasked.spent ▸ hspent
              rw [← hasked.issued] at hstill
              exact hdone.spent ▸ hstill
            · exact .inr ⟨m, token, wires, _, hv, by rw [hf], hwires,
                ⟨count, hcount, rfl⟩, hspent⟩

/-! ## Tickets -/

theorem prepare_sound (c : Client) (env : Surroundings) (message : Option Message)
    (credentials : Value) (hs : s.tagging.Sound) :
    (c.prepare env message credentials s).2.tagging.Sound := by
  rw [prepare_session]
  split
  · exact (fetch_asked c env credentials s).sound hs
  · exact hs

/-- However a send ends, no ticket has been given back that was not handed
out. -/
theorem overTargets_sound
    (hrun : ∀ token wires (t : Session), ∃ made, t.Grown made (run token wires t).2)
    (hs : s.tagging.Sound) :
    (c.overTargets env message credentials run line s).2.tagging.Sound := by
  have hprepared := prepare_sound c env message credentials hs
  unfold overTargets withTargets
  split
  · rename_i hprepare
    rw [hprepare] at hprepared
    exact hprepared
  · rename_i m token t hprepare
    rw [hprepare] at hprepared
    split
    · exact hprepared
    · rename_i count hcount
      cases hwires : m.translateAll with
      | error e => exact Session.within_sound hprepared rfl (.refl _)
      | ok wires =>
        obtain ⟨made, hmade⟩ := hrun token wires (t.opened env (targetCount count))
        exact Session.within_sound hprepared rfl (concluded_grown env _ hmade)

end

/-! ## Sends -/

section

variable {wires : List WireMessage} {made : List Http.Request}

theorem send_of_reaches {result : Except Failure (List DeliveryResult)} {u : Session}
    (h : c.Reaches env message credentials s m token wires t)
    (hrun : traverse (c.deliver env token) wires t = (result, u))
    (hgrown : t.Grown made u) :
    (c.send env message credentials s).1 = result ∧
      (c.send env message credentials s).2.requests = s.requests ++ made ∧
      (c.send env message credentials s).2.credentials =
        s.credentials ++ [credentials] := by
  have hover := overTargets_of_reaches (fun token => traverse (c.deliver env token))
    resultsLine h (by rw [hrun]; exact hgrown)
  rw [send_eq_overTargets, hover.1, hrun]
  exact ⟨rfl, hover.2⟩

theorem sendEach_of_reaches {result : Except Failure (List TargetOutcome)} {u : Session}
    (h : c.Reaches env message credentials s m token wires t)
    (hrun : traverse (c.attempt env token) wires t = (result, u))
    (hgrown : t.Grown made u) :
    (c.sendEach env message credentials s).1 = result ∧
      (c.sendEach env message credentials s).2.requests = s.requests ++ made ∧
      (c.sendEach env message credentials s).2.credentials =
        s.credentials ++ [credentials] := by
  have hover := overTargets_of_reaches (fun token => traverse (c.attempt env token))
    outcomesLine h (by rw [hrun]; exact hgrown)
  rw [sendEach_eq_overTargets, hover.1, hrun]
  exact ⟨rfl, hover.2⟩

theorem send_of_refused {e : MessageFailure}
    (h : Message.validate message c.config = .error e) :
    c.send env message credentials s = (.error (.ofMessage e), s) := by
  rw [send, prepare_of_refused h]

theorem sendEach_of_refused {e : MessageFailure}
    (h : Message.validate message c.config = .error e) :
    c.sendEach env message credentials s = (.error (.ofMessage e), s) := by
  rw [sendEach, prepare_of_refused h]

theorem send_of_no_token {failure : Failure}
    (hv : Message.validate message c.config = .ok m)
    (hf : (c.fetch env credentials s).1 = .error failure) :
    (c.send env message credentials s).1 = .error failure := by
  rw [send, prepare_of_no_token hv (Prod.ext hf rfl)]

theorem sendEach_of_no_token {failure : Failure}
    (hv : Message.validate message c.config = .ok m)
    (hf : (c.fetch env credentials s).1 = .error failure) :
    (c.sendEach env message credentials s).1 = .error failure := by
  rw [sendEach, prepare_of_no_token hv (Prod.ext hf rfl)]

theorem send_fst_of_reaches (h : c.Reaches env message credentials s m token wires t) :
    (c.send env message credentials s).1 =
      (traverse (c.deliver env token) wires t).1 := by
  obtain ⟨made, hgrown⟩ := (deliveries_make c env token wires t).grown
  exact (send_of_reaches h rfl hgrown).1

theorem sendEach_fst_of_reaches
    (h : c.Reaches env message credentials s m token wires t) :
    (c.sendEach env message credentials s).1 =
      (traverse (c.attempt env token) wires t).1 := by
  obtain ⟨made, hgrown⟩ := (attempts_make c env token wires t).grown
  exact (sendEach_of_reaches h rfl hgrown).1

/-- Whatever a send does, it gets to its first delivery unless it ends
early. -/
theorem send_cases (c : Client) (env : Surroundings) (message : Option Message)
    (credentials : Value) (s : Session) :
    EndsEarly c env message credentials s (c.send env message credentials s) ∨
      ∃ m token wires t, c.Reaches env message credentials s m token wires t := by
  rw [send_eq_overTargets]
  exact overTargets_cases fun token wires t =>
    (deliveries_make c env token wires t).grown

theorem sendEach_cases (c : Client) (env : Surroundings) (message : Option Message)
    (credentials : Value) (s : Session) :
    EndsEarly c env message credentials s (c.sendEach env message credentials s) ∨
      ∃ m token wires t, c.Reaches env message credentials s m token wires t := by
  rw [sendEach_eq_overTargets]
  exact overTargets_cases fun token wires t =>
    (attempts_make c env token wires t).grown

theorem send_sound (hs : s.tagging.Sound) :
    (c.send env message credentials s).2.tagging.Sound := by
  rw [send_eq_overTargets]
  exact overTargets_sound
    (fun token wires t => (deliveries_make c env token wires t).grown) hs

theorem sendEach_sound (hs : s.tagging.Sound) :
    (c.sendEach env message credentials s).2.tagging.Sound := by
  rw [sendEach_eq_overTargets]
  exact overTargets_sound
    (fun token wires t => (attempts_make c env token wires t).grown) hs

theorem EndsEarly.not_ok {α : Type} {run : Except Failure α × Session}
    (h : EndsEarly c env message credentials s run) (a : α) : run.1 ≠ .ok a := by
  intro hok
  rcases h with ⟨e, -, rfl⟩ | ⟨failure, -, hrun⟩ | ⟨failure, hrun, -⟩
  · cases hok
  · rw [hok] at hrun
    cases hrun
  · rw [hok] at hrun
    cases hrun

/-- A send that gets as far as its first delivery has a notification to
deliver, and so many targets to deliver it to as its scope is told. -/
theorem Reaches.targets
    (h : c.Reaches env message credentials s m token wires t) :
    ∃ ts n, message = some m ∧ m.targets.items = .ok ts ∧ m.targets.length = .ok ts.length ∧
      Message.notificationOf m.notification = .ok n ∧ wires = ts.map (m.wireFor n) ∧
      t = c.start env credentials s ts.length := by
  have hmessage := (Message.validate_eq_ok_iff.mp h.validated).1
  have hv := h.validated
  rw [hmessage] at hv
  obtain ⟨ts, n, hts, hn, hwires⟩ := Message.wires_of_translateAll hv h.translated
  have hlength := (Message.targets_of_validated hv hts).1
  obtain ⟨count, hcount, ht⟩ := h.begun
  cases hlength.symm.trans hcount
  exact ⟨ts, n, hmessage, hts, hlength, hn, hwires, ht⟩

/-- With a valid message and a token, only what is not the relay's can come
before the first delivery. -/
theorem notification_of_cases {α : Type} {run : Except Failure α × Session}
    (hv : Message.validate message c.config = .ok m)
    (hf : (c.fetch env credentials s).1 = .ok token)
    (hcases : EndsEarly c env message credentials s run ∨
      ∃ m token wires t, c.Reaches env message credentials s m token wires t)
    (hrun : ∀ failure, run.1 = .error failure → ∃ e, failure = .relay e) :
    ∃ n, Message.notificationOf m.notification = .ok n := by
  rcases hcases with
    (⟨e, he, -⟩ | ⟨failure, hfailure, -⟩ | ⟨failure, hfailure, hforeign⟩) |
    ⟨m', token', wires, t, hreaches⟩
  · rw [hv] at he
    cases he
  · rw [hf] at hfailure
    cases hfailure
  · obtain ⟨e, he⟩ := hrun failure hfailure
    exact absurd he (hforeign e)
  · have hvalidated := hreaches.validated
    rw [hv] at hvalidated
    cases hvalidated
    obtain ⟨ts, n, -, -, -, hn, -⟩ := hreaches.targets
    exact ⟨n, hn⟩

end

end Client
end PushRelay.Delivery
