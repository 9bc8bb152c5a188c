import PushRelay.Proofs.Delivery.Restoration

/-!
# Clients at work

An application uses one client step after step: it sends messages in any of
the three ways, and it closes the client, be it as a step of its own or at the
end of a block around another. What one step makes of the session is said once
and then carried over whole runs.
-/

namespace PushRelay

/-- The account that the authority was given, with its scope. -/
def Token.Call.given (k : Token.Call) : Value × Value := (k.account, k.scope)

namespace Delivery

/-- The ways of sending. -/
inductive Manner where
  /-- For all results, as far as the first target that fails. -/
  | all
  /-- In the same way, for the result of the first target. -/
  | first
  /-- For an outcome of each target. -/
  | each
  deriving DecidableEq, Repr

/-- What a client is told to do. -/
inductive Task where
  | send (manner : Manner) (message : Option Message) (credentials : Value)
  | close

/-- A step of an application. -/
structure Step where
  task : Task
  /-- Whether a block around the task closes the client at its end. -/
  inBlock : Bool := false
  /-- By how many microseconds the clock moves before. -/
  pause : Int := 0

/-- What a step comes to. -/
inductive Yield where
  | results (results : List DeliveryResult)
  | result (result : DeliveryResult)
  | outcomes (outcomes : List TargetOutcome)
  | nothing

/-- The session some time later. -/
def Session.later (s : Session) (pause : Int) : Session := { s with clock := s.clock + pause }

/-- Whether the client is closed once the step is over. -/
def Step.closes (step : Step) : Bool :=
  step.inBlock ||
  match step.task with
  | .send .. => false
  | .close => true

namespace Client

/-- Does what the client is told. -/
def perform (c : Client) (env : Surroundings) (task : Task) (s : Session) :
    Except Failure Yield × Session :=
  match task with
  | .send .all message credentials =>
    (c.send env message credentials s).map (·.map .results) id
  | .send .first message credentials =>
    (c.sendFirst env message credentials s).map (·.map .result) id
  | .send .each message credentials =>
    (c.sendEach env message credentials s).map (·.map .outcomes) id
  | .close => (.ok .nothing, c.close s)

/-- Takes a step. -/
def step (c : Client) (env : Surroundings) (step : Step) (s : Session) :
    Except Failure Yield × Session :=
  if step.inBlock then c.closing (c.perform env step.task) (s.later step.pause)
  else c.perform env step.task (s.later step.pause)

/-- Takes one step after the other, whatever they come to. -/
def run (c : Client) (env : Surroundings) :
    List Step → Session → List (Except Failure Yield) × Session
  | [], s => ([], s)
  | step :: rest, s =>
    let (result, s) := c.step env step s
    let (results, s) := c.run env rest s
    (result :: results, s)

variable {c : Client} {env : Surroundings} {message : Option Message}
  {credentials : Value} {s t : Session} {token : BearerToken} {steps : List Step}

/-! ## Runs -/

theorem run_cons (c : Client) (env : Surroundings) (step : Step) (rest : List Step)
    (s : Session) :
    c.run env (step :: rest) s =
      ((c.step env step s).1 :: (c.run env rest (c.step env step s).2).1,
        (c.run env rest (c.step env step s).2).2) := rfl

theorem run_append (c : Client) (env : Surroundings) (before after : List Step)
    (s : Session) :
    c.run env (before ++ after) s =
      ((c.run env before s).1 ++ (c.run env after (c.run env before s).2).1,
        (c.run env after (c.run env before s).2).2) := by
  induction before generalizing s with
  | nil => rfl
  | cons step rest ih =>
    rw [List.cons_append, run_cons, ih, run_cons]
    rfl

/-- What every step keeps, a run keeps. -/
theorem run_keeps {I : Session → Prop}
    (hstep : ∀ (step : Step) (s : Session), I s → I (c.step env step s).2) (hs : I s) :
    I (c.run env steps s).2 := by
  induction steps generalizing s with
  | nil => exact hs
  | cons step rest ih =>
    rw [run_cons]
    exact ih (hstep step s hs)

/-! ## Closing -/

@[simp] theorem close_credentials (c : Client) (s : Session) :
    (c.close s).credentials = s.credentials := by
  unfold close
  split <;> rfl

@[simp] theorem close_calls (c : Client) (s : Session) :
    (c.close s).calls = s.calls := by
  unfold close
  split <;> rfl

@[simp] theorem close_requests (c : Client) (s : Session) :
    (c.close s).requests = s.requests := by
  unfold close
  split <;> rfl

@[simp] theorem close_tagging (c : Client) (s : Session) :
    (c.close s).tagging = s.tagging := by
  unfold close
  split <;> rfl

@[simp] theorem close_lines (c : Client) (s : Session) :
    (c.close s).lines = s.lines := by
  unfold close
  split <;> rfl

@[simp] theorem close_batches (c : Client) (s : Session) :
    (c.close s).batches = s.batches := by
  unfold close
  split <;> rfl

@[simp] theorem close_closed (c : Client) (s : Session) :
    (c.close s).closed = (s.closed || c.ownTransport.isSome) := by
  unfold close
  cases c.ownTransport.isSome <;> simp

/-- A step does its task, and may then close the client. -/
theorem step_eq (c : Client) (env : Surroundings) (step : Step) (s : Session) :
    c.step env step s =
      ((c.perform env step.task (s.later step.pause)).1,
        if step.inBlock then c.close (c.perform env step.task (s.later step.pause)).2
        else (c.perform env step.task (s.later step.pause)).2) := by
  unfold Client.step closing
  split <;> rfl

theorem perform_send_session (c : Client) (env : Surroundings) (manner : Manner)
    (message : Option Message) (credentials : Value) (s : Session) :
    (c.perform env (.send manner message credentials) s).2 =
      if manner = .each then (c.sendEach env message credentials s).2
      else (c.send env message credentials s).2 := by
  cases manner with
  | all => rfl
  | first => exact sendFirst_session c env message credentials s
  | each => rfl

/-! ## Tags -/

theorem perform_tags (c : Client) (env : Surroundings) (task : Task)
    (hs : s.tagging.Sound) :
    (c.perform env task s).2.tagging.tags = s.tagging.tags ∧
      (c.perform env task s).2.tagging.Sound := by
  cases task with
  | send manner message credentials =>
    rw [perform_send_session]
    split
    · exact ⟨sendEach_tags hs, sendEach_sound hs⟩
    · exact ⟨send_tags hs, send_sound hs⟩
  | close =>
    show (c.close s).tagging.tags = _ ∧ (c.close s).tagging.Sound
    rw [close_tagging]
    exact ⟨rfl, hs⟩

theorem step_tags (c : Client) (env : Surroundings) (step : Step)
    (hs : s.tagging.Sound) :
    (c.step env step s).2.tagging.tags = s.tagging.tags ∧
      (c.step env step s).2.tagging.Sound := by
  have hperform := perform_tags c env (s := s.later step.pause) step.task hs
  rw [step_eq]
  dsimp only
  split
  · rw [close_tagging]
    exact hperform
  · exact hperform

theorem run_sound (hs : s.tagging.Sound) : (c.run env steps s).2.tagging.Sound :=
  run_keeps (I := fun s => s.tagging.Sound) (fun step _ h => (step_tags c env step h).2) hs

/-! ## What a send asks for -/

/-- The credentials for which a token is wanted: those of a message that is
valid. -/
def wanted (c : Client) (message : Option Message) (credentials : Value) : List Value :=
  if (Message.validate message c.config).isOk then [credentials] else []

/-- The accounts that the authority is given for some credentials, if tokens
come from an authority: the one that they describe, if they describe one, with
the scope of the configuration. -/
def introduced (c : Client) (credentials : Value) : List (Value × Value) :=
  match c.provider with
  | .custom _ => []
  | .authority _ =>
    match Token.readAccount credentials with
    | .ok account => [(.dict account, c.config.scope)]
    | .error _ => []

theorem wanted_of_validated {m : Message} (hv : Message.validate message c.config = .ok m)
    (credentials : Value) : c.wanted message credentials = [credentials] := by
  unfold wanted
  rw [hv]
  rfl

theorem wanted_of_refused {e : MessageFailure}
    (hv : Message.validate message c.config = .error e) (credentials : Value) :
    c.wanted message credentials = [] := by
  unfold wanted
  rw [hv]
  rfl

theorem fetch_calls (c : Client) (env : Surroundings) (credentials : Value) (s : Session) :
    (c.fetch env credentials s).2.calls.map Token.Call.given =
      s.calls.map Token.Call.given ++ c.introduced credentials := by
  unfold fetch introduced
  cases c.provider with
  | custom fetch =>
    dsimp only
    split <;> exact (List.append_nil _).symm
  | authority grants =>
    have hcall : ((Token.exchange credentials (grants s.calls.length)).call?
        c.config.scope (grants s.calls.length)).toList.map Token.Call.given =
        match Token.readAccount credentials with
        | .ok account => [(.dict account, c.config.scope)]
        | .error _ => [] := by
      unfold Token.exchange Token.Exchange.call?
      cases Token.readAccount credentials <;> rfl
    dsimp only
    split
    · rw [List.map_append, hcall]
    · rw [(Session.grown_log ..).calls, List.map_append, hcall]

end Client

/-- The session without what scopes change. -/
def Session.untagged (s : Session) : Session := { s with batches := 0, tagging := {} }

theorem Session.Makes.untagged {s t : Session} {n : Nat} {kind : Http.Request → Prop}
    (h : s.Makes n kind t) : s.untagged.Makes n kind t.untagged := by
  obtain ⟨made, hgrown, hlength, hkind⟩ := h
  exact ⟨made, ⟨hgrown.requests, hgrown.closed, hgrown.credentials, hgrown.calls, rfl, rfl,
    rfl⟩, hlength, hkind⟩

/-- Entering and leaving a scope changes nothing else. -/
theorem Session.within_untagged {α : Type} (s : Session) (env : Surroundings) (bindings : Bindings)
    (body : Scope → Session → Except Failure α × Session) :
    (s.within env bindings body).2.untagged =
      (body (s.scopeOf env bindings) (s.opened env bindings)).2.untagged := by
  rw [within_eq]
  split <;> rfl

namespace Client

variable {c : Client} {env : Surroundings} {message : Option Message}
  {credentials : Value} {s t : Session} {token : BearerToken} {steps : List Step}

theorem withTargets_makes {α : Type} {m : Message} {kind : Http.Request → Prop}
    {body : List WireMessage → Scope → Session → Except Failure α × Session}
    (hbody : ∀ wires scope (t : Session), t.Makes wires.length kind (body wires scope t).2) :
    ∃ n, s.untagged.Makes n kind (withTargets env m s body).2.untagged := by
  unfold withTargets
  split
  · exact ⟨0, .of_nothing 0 kind (.refl _)⟩
  · rename_i count _
    rw [Session.within_untagged]
    cases m.translateAll with
    | error e => exact ⟨0, .of_nothing 0 kind (.refl _)⟩
    | ok wires =>
      exact ⟨wires.length, (hbody wires (s.scopeOf env (targetCount count))
        (s.opened env (targetCount count))).untagged⟩

/-- The session `t` has come of `s` by sending a message for some
credentials. -/
structure Sent (c : Client) (env : Surroundings) (message : Option Message)
    (credentials : Value) (s t : Session) : Prop where
  wanted : t.credentials = s.credentials ++ c.wanted message credentials
  introduced : t.calls.map Token.Call.given =
    s.calls.map Token.Call.given ++ (c.wanted message credentials).flatMap c.introduced
  requests : ∃ made, t.requests = s.requests ++ made ∧ ∀ r ∈ made,
    s.closed = false ∧ c.wanted message credentials = [credentials] ∧
      ∃ token, (c.fetch env credentials s).1 = .ok token ∧ c.Posts token r
  closed : t.closed = s.closed

theorem overTargets_sent {α : Type}
    {run : BearerToken → List WireMessage → Session → Except Failure α × Session}
    {line : Scope → α → Session → Remark}
    (hrun : ∀ token wires (t : Session),
      t.Makes wires.length (c.Posts token) (run token wires t).2) :
    c.Sent env message credentials s
      (c.overTargets env message credentials run line s).2 := by
  cases hv : Message.validate message c.config with
  | error e =>
    have hwanted := wanted_of_refused hv credentials
    rw [overTargets, prepare_of_refused hv]
    refine ⟨?_, ?_, ⟨[], (List.append_nil _).symm, List.forall_mem_nil _⟩, rfl⟩
    · rw [hwanted, List.append_nil]
    · rw [hwanted, List.flatMap_nil, List.append_nil]
  | ok m =>
    have hwanted := wanted_of_validated hv credentials
    have hasked := fetch_asked c env credentials s
    have hcalls := fetch_calls c env credentials s
    cases hf : c.fetch env credentials s with
    | mk token? t =>
      rw [hf] at hasked hcalls
      cases token? with
      | error failure =>
        rw [overTargets, prepare_of_no_token hv hf]
        refine ⟨?_, ?_, ⟨[], ?_, List.forall_mem_nil _⟩, hasked.closed⟩
        · rw [hwanted]
          exact hasked.credentials
        · rw [hwanted, List.flatMap_singleton]
          exact hcalls
        · rw [List.append_nil]
          exact hasked.requests
      | ok token =>
        -- what comes after the token makes requests, but asks for no other
        rw [overTargets, prepare_of_token hv hf]
        have hbody : ∀ wires scope (u : Session), u.Makes wires.length
            (c.Posts token) (concluded env (line scope) (run token wires u)).2 := by
          intro wires scope u
          obtain ⟨made, hmade, hlength, hkind⟩ := hrun token wires u
          exact ⟨made, concluded_grown env (line scope) hmade, hlength, hkind⟩
        obtain ⟨n, made, hgrown, -, hkind⟩ := withTargets_makes (m := m) (s := t) hbody
        refine ⟨?_, ?_, ⟨made, ?_, ?_⟩, hgrown.closed.trans hasked.closed⟩
        · rw [hwanted, ← hasked.credentials]
          exact hgrown.credentials
        · rw [hwanted, List.flatMap_singleton]
          exact (congrArg _ hgrown.calls).trans hcalls
        · rw [← hasked.requests]
          exact hgrown.requests
        · intro r hr
          obtain ⟨hopen, hposts⟩ := hkind r hr
          exact ⟨hasked.closed.symm.trans hopen, hwanted, token, by rw [hf], hposts⟩

theorem send_sent (c : Client) (env : Surroundings) (message : Option Message)
    (credentials : Value) (s : Session) :
    c.Sent env message credentials s (c.send env message credentials s).2 := by
  rw [send_eq_overTargets]
  exact overTargets_sent (deliveries_make c env)

theorem sendEach_sent (c : Client) (env : Surroundings) (message : Option Message)
    (credentials : Value) (s : Session) :
    c.Sent env message credentials s (c.sendEach env message credentials s).2 := by
  rw [sendEach_eq_overTargets]
  exact overTargets_sent (attempts_make c env)

/-! ## What a step asks for -/

/-- The credentials for which a task wants a token. -/
def wantedBy (c : Client) : Task → List Value
  | .send _ message credentials => c.wanted message credentials
  | .close => []

/-- The session `t` has come of `s` by a step. -/
structure Did (c : Client) (env : Surroundings) (step : Step) (s t : Session) : Prop where
  wanted : t.credentials = s.credentials ++ c.wantedBy step.task
  introduced : t.calls.map Token.Call.given =
    s.calls.map Token.Call.given ++ (c.wantedBy step.task).flatMap c.introduced
  requests : ∃ made, t.requests = s.requests ++ made ∧ ∀ r ∈ made,
    s.closed = false ∧ ∃ credentials token, c.wantedBy step.task = [credentials] ∧
      (c.fetch env credentials (s.later step.pause)).1 = .ok token ∧
      c.Posts token r
  closed : t.closed = (s.closed || c.ownTransport.isSome && step.closes)

theorem did_of_sent {manner : Manner} {inBlock : Bool} {pause : Int}
    (h : c.Sent env message credentials (s.later pause) t) :
    c.Did env ⟨.send manner message credentials, inBlock, pause⟩ s
      (if inBlock then c.close t else t) := by
  have hrequests : ∃ made, t.requests = s.requests ++ made ∧ ∀ r ∈ made,
      s.closed = false ∧ ∃ credentials' token,
        c.wanted message credentials = [credentials'] ∧
        (c.fetch env credentials' (s.later pause)).1 = .ok token ∧
        c.Posts token r := by
    obtain ⟨made, hmade, hkind⟩ := h.requests
    refine ⟨made, hmade, fun r hr => ?_⟩
    obtain ⟨hopen, hwanted, token, hf, hposts⟩ := hkind r hr
    exact ⟨hopen, credentials, token, hwanted, hf, hposts⟩
  have hclosed : t.closed = s.closed := h.closed
  -- closing at the end of a block changes nothing but whether it is closed
  cases inBlock with
  | false =>
    refine ⟨h.wanted, h.introduced, hrequests, ?_⟩
    simp [Step.closes, hclosed]
  | true =>
    rw [if_pos rfl]
    refine ⟨?_, ?_, ?_, ?_⟩
    · rw [close_credentials]
      exact h.wanted
    · rw [close_calls]
      exact h.introduced
    · rw [close_requests]
      exact hrequests
    · rw [close_closed, hclosed]
      simp [Step.closes]

/-- What a step makes of a session. -/
theorem step_did (c : Client) (env : Surroundings) (step : Step) (s : Session) :
    c.Did env step s (c.step env step s).2 := by
  rw [step_eq]
  obtain ⟨task, inBlock, pause⟩ := step
  cases task with
  | send manner message credentials =>
    refine did_of_sent ?_
    rw [perform_send_session]
    split
    · exact sendEach_sent ..
    · exact send_sent ..
  | close =>
    -- closing twice is closing once
    have hclose : (if inBlock then c.close (c.close (s.later pause))
        else c.close (s.later pause)) = c.close (s.later pause) := by
      unfold close
      cases inBlock <;> cases c.ownTransport.isSome <;> rfl
    show c.Did env ⟨.close, inBlock, pause⟩ s
      (if inBlock then c.close (c.close (s.later pause)) else c.close (s.later pause))
    rw [hclose]
    refine ⟨?_, ?_, ⟨[], ?_, List.forall_mem_nil _⟩, ?_⟩
    · rw [close_credentials]
      exact (List.append_nil _).symm
    · rw [close_calls]
      exact (List.append_nil _).symm
    · rw [close_requests]
      exact (List.append_nil _).symm
    · rw [close_closed]
      simp [Step.closes, Session.later]

end Client
end Delivery
end PushRelay
