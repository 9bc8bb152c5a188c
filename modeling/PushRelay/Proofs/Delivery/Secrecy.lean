import Mathlib.Data.List.Forall2
import PushRelay.Proofs.Delivery.Authorization
import PushRelay.Proofs.Delivery.Lockstep

/-!
# Tokens and credentials are kept secret

Two clients that differ only in the texts of the tokens they get, and two runs
that differ only in credentials of the same holder, cannot be told apart by
what they come to, log and leave behind. The requests are the same but for the
header that authorizes them.
-/

namespace PushRelay

/-! ## What makes no difference -/

/-- The request without the header that authorizes it. -/
def Http.Request.withoutAuthorization (r : Http.Request) : Http.Request :=
  { r with authorization := "" }

/-- The tokens are the same, or both are plain texts. -/
def BearerToken.Alike (a b : BearerToken) : Prop := a = b ∨ a.Plain ∧ b.Plain

/-- The authority does the same, except that the tokens it grants may be
different plain texts. -/
inductive Token.Grant.Alike : Token.Grant → Token.Grant → Prop where
  | same (g : Token.Grant) : Alike g g
  | tokens {a b : BearerToken} (ha : a.Plain) (hb : b.Plain) :
    Alike (.accept a.accessToken a.expiry) (.accept b.accessToken b.expiry)

namespace Delivery

/-- There is a token on either side, and they are alike, or there is the same
error. -/
inductive TokensAlike {ε : Type} :
    Except ε BearerToken → Except ε BearerToken → Prop
  | error (e : ε) : TokensAlike (.error e) (.error e)
  | ok {a b : BearerToken} (h : a.Alike b) : TokensAlike (.ok a) (.ok b)

/-- The providers are of the same kind and behave in the same way, except that
the tokens they give may be different plain texts. -/
inductive Provider.Alike : Provider → Provider → Prop where
  | custom {f g : List Value → Except Trouble BearerToken}
    (h : ∀ credentials, TokensAlike (f credentials) (g credentials)) :
    Alike (.custom f) (.custom g)
  | authority {f g : Nat → Token.Grant} (h : ∀ given, (f given).Alike (g given)) :
    Alike (.authority f) (.authority g)

/-- Credentials that make no difference with a provider. A provider of the
client's own may do anything with them; with an authority, it takes no more
than that they describe accounts of the same holder. -/
def Provider.Confuses : Provider → Value → Value → Prop
  | .custom _, v, w => v = w
  | .authority _, v, w =>
    v = w ∨ ∃ account account',
      Token.readAccount v = .ok account ∧ Token.readAccount w = .ok account' ∧
        Entries.get? account "client_email" = Entries.get? account' "client_email"

/-- The steps are the same but for credentials that are related. -/
inductive Step.Alike (E : Value → Value → Prop) : Step → Step → Prop where
  | send (manner : Manner) (message : Option Message) {v w : Value} (h : E v w)
    (inBlock : Bool) (pause : Int) :
    Alike E ⟨.send manner message v, inBlock, pause⟩
      ⟨.send manner message w, inBlock, pause⟩
  | close (inBlock : Bool) (pause : Int) :
    Alike E ⟨.close, inBlock, pause⟩ ⟨.close, inBlock, pause⟩

/-- The sessions are the same but for the authorization of the requests, and
for credentials that are related. -/
structure Session.Alike (E : Value → Value → Prop) (s t : Session) : Prop where
  clock : s.clock = t.clock
  batches : s.batches = t.batches
  tagging : s.tagging = t.tagging
  credentials : List.Forall₂ E s.credentials t.credentials
  calls : s.calls.length = t.calls.length
  requests : s.requests.map Http.Request.withoutAuthorization =
    t.requests.map Http.Request.withoutAuthorization
  lines : s.lines = t.lines
  closed : s.closed = t.closed

/-! ## Grants -/

/-- A token that is a plain text is not refused for being empty. -/
theorem outcome_of_plain {token : BearerToken} (h : token.Plain) :
    (Token.Grant.accept token.accessToken token.expiry).outcome = .ok token := by
  obtain ⟨text, htext, hne, -⟩ := h
  have htruthy : token.accessToken.truthy = true := by
    rw [htext]
    simpa [Value.truthy] using hne
  simp only [Token.Grant.outcome, htruthy, if_true]

theorem tokensAlike_of_grants {g h : Token.Grant} (halike : g.Alike h) :
    TokensAlike g.outcome h.outcome := by
  cases halike with
  | same =>
    cases g.outcome with
    | error e => exact .error e
    | ok token => exact .ok (.inl rfl)
  | tokens ha hb =>
    rw [outcome_of_plain ha, outcome_of_plain hb]
    exact .ok (.inr ⟨ha, hb⟩)

theorem Client.AuthorizesAlike.of_alike (c : Client) {token token' : BearerToken}
    (h : token.Alike token') : c.AuthorizesAlike token token' := by
  rcases h with rfl | ⟨hplain, hplain'⟩
  · exact .refl c token
  · exact .of_plain c hplain hplain'

/-! ## Sessions -/

namespace Session.Alike

variable {E : Value → Value → Prop} {s t : Session}

theorem count (h : s.Alike E t) : s.requests.length = t.requests.length := by
  have hlength := congrArg List.length h.requests
  rwa [List.length_map, List.length_map] at hlength

theorem asked (h : s.Alike E t) {v w : Value} (hvw : E v w) :
    List.Forall₂ E (s.credentials ++ [v]) (t.credentials ++ [w]) :=
  List.rel_append h.credentials (.cons hvw .nil)

theorem bind (h : s.Alike E t) (values : Bindings) :
    (s.bind values).Alike E (t.bind values) :=
  { h with tagging := congrArg (·.bind values) h.tagging }

theorem log (h : s.Alike E t) (env : Surroundings) (site : Log.Site) (level : Log.Level)
    (message : String) (attributes : List (String × Value)) :
    (s.log env site level message attributes).Alike E
      (t.log env site level message attributes) := by
  unfold Session.log Session.now
  rw [h.clock, h.tagging]
  dsimp only
  split
  · exact { h with clock := rfl, tagging := rfl, lines := congrArg (· ++ [_]) h.lines }
  · exact h

theorem within {α : Type} (h : s.Alike E t) (env : Surroundings) (bindings : Bindings)
    {body body' : Scope → Session → Except Failure α × Session}
    (hbody : ∀ scope {s t : Session}, s.Alike E t →
      Agree (Session.Alike E) (body scope s) (body' scope t)) :
    Agree (Session.Alike E) (s.within env bindings body) (t.within env bindings body') := by
  have hscope : s.scopeOf env bindings = t.scopeOf env bindings := by
    unfold Session.scopeOf
    rw [h.clock, h.batches, h.tagging]
  have hopened : (s.opened env bindings).Alike E (t.opened env bindings) := by
    unfold Session.opened
    rw [h.batches, h.tagging]
    exact ⟨h.clock, rfl, rfl, h.credentials, h.calls, h.requests, h.lines, h.closed⟩
  -- the tickets are the same, so either both can be given back or neither
  obtain ⟨result, u, v, hu, hv, huv⟩ := (hbody (t.scopeOf env bindings) hopened).exists
  rw [Session.within_eq, Session.within_eq, hscope, hu, hv]
  dsimp only
  rw [h.tagging, huv.tagging]
  split
  · exact ⟨rfl, huv⟩
  · refine ⟨rfl, ?_⟩
    unfold Session.left
    rw [h.tagging, huv.tagging]
    exact { huv with tagging := rfl }

end Session.Alike

/-- Deliveries with alike tokens go on alike. -/
theorem lockstep_alike (c : Client) (env : Surroundings) (E : Value → Value → Prop)
    {token token' : BearerToken} (h : token.Alike token') :
    Lockstep c env token token' (Session.Alike E) where
  authorized := .of_alike c h
  clock h := h.clock
  count h := h.count
  closed h := h.closed
  bind values h := h.bind values
  log site level message attributes h := h.log env site level message attributes
  posted body _ _ h := by
    unfold Client.posted
    rw [h.clock, h.count]
    refine { h with clock := rfl, requests := ?_ }
    rw [List.map_append, List.map_append, h.requests]
    rfl

/-! ## Fetching -/

namespace Client

variable {c : Client} {env : Surroundings} {message : Option Message} {v w : Value}
  {s t : Session} {provider : Provider}

/-- The client with another provider. -/
def withProvider (c : Client) (provider : Provider) : Client := { c with provider }

/-- Exchanges of credentials that an authority confuses differ in the token at
most. -/
theorem exchange_alike {f : Nat → Token.Grant} {g h : Token.Grant} (hgrant : g.Alike h)
    (hvw : (Provider.authority f).Confuses v w) (scope : Value) :
    TokensAlike (Token.exchange v g).outcome (Token.exchange w h).outcome ∧
      ((Token.exchange v g).call? scope g).toList.length =
        ((Token.exchange w h).call? scope h).toList.length ∧
      Token.holder ((Token.exchange v g).account.getD []) =
        Token.holder ((Token.exchange w h).account.getD []) := by
  have htokens := tokensAlike_of_grants hgrant
  unfold Token.exchange Token.Exchange.call?
  rcases hvw with rfl | ⟨account, account', hv, hw, hholder⟩
  · cases Token.readAccount v with
    | error e => exact ⟨.error _, rfl, rfl⟩
    | ok account => exact ⟨htokens, rfl, rfl⟩
  · rw [hv, hw]
    refine ⟨htokens, rfl, ?_⟩
    show Token.holder account = Token.holder account'
    unfold Token.holder Entries.getD
    rw [hholder]

/-- A provider of the client's own that behaves alike brings alike tokens. -/
theorem fetch_custom_alike (c : Client) {f g : List Value → Except Trouble BearerToken}
    (h : ∀ credentials, TokensAlike (f credentials) (g credentials))
    (hst : s.Alike (Provider.custom f).Confuses t)
    (hvw : (Provider.custom f).Confuses v w) (env : Surroundings) :
    TokensAlike ((c.withProvider (.custom f)).fetch env v s).1
        ((c.withProvider (.custom g)).fetch env w t).1 ∧
      ((c.withProvider (.custom f)).fetch env v s).2.Alike (Provider.custom f).Confuses
        ((c.withProvider (.custom g)).fetch env w t).2 := by
  have hasked := hst.asked hvw
  have hsame : s.credentials ++ [v] = t.credentials ++ [w] :=
    List.forall₂_eq_eq_eq ▸ hasked
  have htokens : TokensAlike (f (s.credentials ++ [v])) (g (t.credentials ++ [w])) := by
    rw [← hsame]
    exact h (s.credentials ++ [v])
  unfold fetch withProvider
  dsimp only
  generalize f (s.credentials ++ [v]) = x at htokens ⊢
  generalize g (t.credentials ++ [w]) = y at htokens ⊢
  cases htokens with
  | error e => exact ⟨.error _, { hst with credentials := hasked }⟩
  | ok htoken => exact ⟨.ok htoken, { hst with credentials := hasked }⟩

/-- An authority that behaves alike brings alike tokens, and the line about
them is the same. -/
theorem fetch_authority_alike (c : Client) {f g : Nat → Token.Grant}
    (h : ∀ given, (f given).Alike (g given))
    (hst : s.Alike (Provider.authority f).Confuses t)
    (hvw : (Provider.authority f).Confuses v w) (env : Surroundings) :
    TokensAlike ((c.withProvider (.authority f)).fetch env v s).1
        ((c.withProvider (.authority g)).fetch env w t).1 ∧
      ((c.withProvider (.authority f)).fetch env v s).2.Alike
        (Provider.authority f).Confuses
        ((c.withProvider (.authority g)).fetch env w t).2 := by
  -- as many accounts have been given before, so the authority behaves alike
  have hgrant : (f s.calls.length).Alike (g t.calls.length) := by
    rw [← hst.calls]
    exact h s.calls.length
  unfold fetch withProvider
  dsimp only
  generalize f s.calls.length = grant at hgrant ⊢
  generalize g t.calls.length = grant' at hgrant ⊢
  obtain ⟨htokens, hcalls, hholder⟩ := exchange_alike hgrant hvw c.config.scope
  have hasked : Session.Alike (Provider.authority f).Confuses
      { s with
        credentials := s.credentials ++ [v]
        calls := s.calls ++
          ((Token.exchange v grant).call? c.config.scope grant).toList }
      { t with
        credentials := t.credentials ++ [w]
        calls := t.calls ++
          ((Token.exchange w grant').call? c.config.scope grant').toList } := by
    refine { hst with credentials := hst.asked hvw, calls := ?_ }
    rw [List.length_append, List.length_append, hcalls, hst.calls]
  rw [hholder]
  generalize (Token.exchange v grant).outcome = x at htokens ⊢
  generalize (Token.exchange w grant').outcome = y at htokens ⊢
  cases htokens with
  | error e => exact ⟨.error _, hasked⟩
  | ok htoken => exact ⟨.ok htoken, hasked.log ..⟩

theorem fetch_alike (hprovider : c.provider.Alike provider)
    (hst : s.Alike c.provider.Confuses t) (hvw : c.provider.Confuses v w)
    (env : Surroundings) :
    TokensAlike (c.fetch env v s).1 ((c.withProvider provider).fetch env w t).1 ∧
      (c.fetch env v s).2.Alike c.provider.Confuses
        ((c.withProvider provider).fetch env w t).2 := by
  obtain ⟨endpoint, url, apiKey, ownConfig, ownTransport, given⟩ := c
  cases hprovider with
  | custom h =>
    exact fetch_custom_alike ⟨endpoint, url, apiKey, ownConfig, ownTransport, _⟩ h hst hvw env
  | authority h =>
    exact fetch_authority_alike ⟨endpoint, url, apiKey, ownConfig, ownTransport, _⟩ h hst hvw
      env

/-! ## Sends -/

section

variable {α : Type} {E : Value → Value → Prop}

theorem withTargets_alike (m : Message) (hst : s.Alike E t)
    {body body' : List WireMessage → Scope → Session → Except Failure α × Session}
    (hbody : ∀ wires scope {s t : Session}, s.Alike E t →
      Agree (Session.Alike E) (body wires scope s) (body' wires scope t)) :
    Agree (Session.Alike E) (withTargets env m s body) (withTargets env m t body') := by
  unfold withTargets
  cases m.targets.length with
  | error e => exact ⟨rfl, hst⟩
  | ok count =>
    refine hst.within env _ fun scope s t hst => ?_
    cases m.translateAll with
    | error e => exact ⟨rfl, hst⟩
    | ok wires => exact hbody wires scope hst

theorem concluded_alike {line : α → Session → Remark}
    {x y : Except Failure α × Session} (h : Agree (Session.Alike E) x y)
    (hline : ∀ a {s t : Session}, s.clock = t.clock → line a s = line a t) :
    Agree (Session.Alike E) (concluded env line x) (concluded env line y) := by
  obtain ⟨result, s, t, rfl, rfl, hst⟩ := h.exists
  cases result with
  | error failure => exact ⟨rfl, hst⟩
  | ok a =>
    dsimp only [concluded]
    rw [hline a hst.clock]
    exact ⟨rfl, hst.log ..⟩

theorem overTargets_alike
    {run run' : BearerToken → List WireMessage → Session → Except Failure α × Session}
    {line : Scope → α → Session → Remark} (hprovider : c.provider.Alike provider)
    (hst : s.Alike c.provider.Confuses t) (hvw : c.provider.Confuses v w)
    (hrun : ∀ {token token' : BearerToken} wires {s t : Session}, token.Alike token' →
      s.Alike c.provider.Confuses t →
      Agree (Session.Alike c.provider.Confuses) (run token wires s) (run' token' wires t))
    (hline : ∀ scope a {s t : Session}, s.clock = t.clock →
      line scope a s = line scope a t) :
    Agree (Session.Alike c.provider.Confuses)
      (c.overTargets env message v run line s)
      ((c.withProvider provider).overTargets env message w run' line t) := by
  have hconfig : (c.withProvider provider).config = c.config := rfl
  cases hv : Message.validate message c.config with
  | error e =>
    rw [overTargets, overTargets, prepare_of_refused hv,
      prepare_of_refused (hconfig ▸ hv)]
    exact ⟨rfl, hst⟩
  | ok m =>
    obtain ⟨htokens, hasked⟩ := fetch_alike hprovider hst hvw env
    rcases hs : c.fetch env v s with ⟨x, u⟩
    rcases ht : (c.withProvider provider).fetch env w t with ⟨y, u'⟩
    rw [hs, ht] at htokens hasked
    cases htokens with
    | error failure =>
      rw [overTargets, overTargets, prepare_of_no_token hv hs,
        prepare_of_no_token (hconfig ▸ hv) ht]
      exact ⟨rfl, hasked⟩
    | ok htoken =>
      rw [overTargets, overTargets, prepare_of_token hv hs,
        prepare_of_token (hconfig ▸ hv) ht]
      exact withTargets_alike m hasked fun wires scope _ _ hst =>
        concluded_alike (hrun wires htoken hst) (hline scope)

end

/-- A delivery is no concern of the provider. -/
theorem deliver_withProvider (c : Client) (provider : Provider) (env : Surroundings)
    (token : BearerToken) :
    (c.withProvider provider).deliver env token = c.deliver env token := rfl

theorem attempt_withProvider (c : Client) (provider : Provider) (env : Surroundings)
    (token : BearerToken) :
    (c.withProvider provider).attempt env token = c.attempt env token := rfl

theorem send_alike (env : Surroundings) (message : Option Message)
    (hprovider : c.provider.Alike provider)
    (hst : s.Alike c.provider.Confuses t) (hvw : c.provider.Confuses v w) :
    Agree (Session.Alike c.provider.Confuses) (c.send env message v s)
      ((c.withProvider provider).send env message w t) := by
  rw [send_eq_overTargets, send_eq_overTargets]
  simp only [deliver_withProvider]
  refine overTargets_alike hprovider hst hvw ?_ ?_
  · intro token token' wires s t htoken hst
    exact (lockstep_alike c env _ htoken).deliveries hst wires
  · intro scope results s t hclock
    exact resultsLine_of_clock scope results hclock

theorem sendEach_alike (env : Surroundings) (message : Option Message)
    (hprovider : c.provider.Alike provider)
    (hst : s.Alike c.provider.Confuses t) (hvw : c.provider.Confuses v w) :
    Agree (Session.Alike c.provider.Confuses) (c.sendEach env message v s)
      ((c.withProvider provider).sendEach env message w t) := by
  rw [sendEach_eq_overTargets, sendEach_eq_overTargets]
  simp only [attempt_withProvider]
  refine overTargets_alike hprovider hst hvw ?_ ?_
  · intro token token' wires s t htoken hst
    exact (lockstep_alike c env _ htoken).attempts hst wires
  · intro scope outcomes s t hclock
    rfl

theorem sendFirst_alike (env : Surroundings) (message : Option Message)
    (hprovider : c.provider.Alike provider)
    (hst : s.Alike c.provider.Confuses t) (hvw : c.provider.Confuses v w) :
    Agree (Session.Alike c.provider.Confuses) (c.sendFirst env message v s)
      ((c.withProvider provider).sendFirst env message w t) := by
  obtain ⟨results, s', t', hs, ht, hafter⟩ :=
    (send_alike env message hprovider hst hvw).exists
  unfold sendFirst
  rw [hs, ht]
  rcases results with e | _ | ⟨first, rest⟩ <;> exact ⟨rfl, hafter⟩

/-! ## Runs -/

/-- Alike steps in alike sessions yield the same. -/
theorem perform_alike (env : Surroundings) (manner : Manner) (message : Option Message)
    (hprovider : c.provider.Alike provider) (hst : s.Alike c.provider.Confuses t)
    (hvw : c.provider.Confuses v w) :
    Agree (Session.Alike c.provider.Confuses) (c.perform env (.send manner message v) s)
      ((c.withProvider provider).perform env (.send manner message w) t) := by
  cases manner with
  | all => exact (send_alike env message hprovider hst hvw).map _
  | first => exact (sendFirst_alike env message hprovider hst hvw).map _
  | each => exact (sendEach_alike env message hprovider hst hvw).map _

theorem close_alike {E : Value → Value → Prop} (hst : s.Alike E t) (provider : Provider) :
    (c.close s).Alike E ((c.withProvider provider).close t) := by
  have htransport : (c.withProvider provider).ownTransport = c.ownTransport := rfl
  unfold close
  rw [htransport]
  split
  · exact { hst with closed := rfl }
  · exact hst

theorem step_alike (env : Surroundings) (hprovider : c.provider.Alike provider)
    (hst : s.Alike c.provider.Confuses t) {step step' : Step}
    (hstep : step.Alike c.provider.Confuses step') :
    Agree (Session.Alike c.provider.Confuses) (c.step env step s)
      ((c.withProvider provider).step env step' t) := by
  have hlater : ∀ pause : Int, (s.later pause).Alike c.provider.Confuses (t.later pause) :=
    fun pause => { hst with clock := congrArg (· + pause) hst.clock }
  rw [step_eq, step_eq]
  cases hstep with
  | send manner message hvw inBlock pause =>
    obtain ⟨hyield, hafter⟩ := perform_alike env manner message hprovider
      (hlater pause) hvw
    refine ⟨hyield, ?_⟩
    dsimp only
    split
    · exact close_alike hafter provider
    · exact hafter
  | close inBlock pause =>
    -- within a block the client is closed a second time
    refine ⟨rfl, ?_⟩
    dsimp only
    split
    · exact close_alike (close_alike (hlater pause) provider) provider
    · exact close_alike (hlater pause) provider

/-- Two runs that agree step by step agree. -/
theorem run_agree {c c' : Client} {R : Step → Step → Prop} {I : Session → Session → Prop}
    {steps steps' : List Step}
    (hstep : ∀ {step step' : Step} {s t : Session}, R step step' → I s t →
      Agree I (c.step env step s) (c'.step env step' t))
    (hsteps : List.Forall₂ R steps steps') (hst : I s t) :
    (c.run env steps s).1 = (c'.run env steps' t).1 ∧
      I (c.run env steps s).2 (c'.run env steps' t).2 := by
  induction hsteps generalizing s t with
  | nil => exact ⟨rfl, hst⟩
  | cons hfirst _ ih =>
    obtain ⟨hyield, hafter⟩ := hstep hfirst hst
    obtain ⟨hyields, hend⟩ := ih hafter
    rw [run_cons, run_cons, hyield, hyields]
    exact ⟨rfl, hend⟩

/-- A provider cannot tell credentials from themselves. -/
theorem confuses_refl (p : Provider) (v : Value) : p.Confuses v v := by
  cases p with
  | custom f => exact rfl
  | authority f => exact .inl rfl

/-- Whatever a client is told to do, in whatever session and with whatever
logging, other tokens and other credentials of the same holder make no
difference to what the steps come to, to the log, to the tags, or to anything
of the requests but the authorization. -/
theorem run_tells_no_secret (env : Surroundings) (s : Session) {steps steps' : List Step}
    (hprovider : c.provider.Alike provider)
    (hsteps : List.Forall₂ (Step.Alike c.provider.Confuses) steps steps') :
    (c.run env steps s).1 = ((c.withProvider provider).run env steps' s).1 ∧
      (c.run env steps s).2.lines = ((c.withProvider provider).run env steps' s).2.lines ∧
      (c.run env steps s).2.tagging =
        ((c.withProvider provider).run env steps' s).2.tagging ∧
      (c.run env steps s).2.requests.map Http.Request.withoutAuthorization =
        ((c.withProvider provider).run env steps' s).2.requests.map
          Http.Request.withoutAuthorization := by
  -- both runs begin in the same session, which is alike to itself
  have hself : s.Alike c.provider.Confuses s :=
    ⟨rfl, rfl, rfl, List.forall₂_same.mpr fun v _ => confuses_refl c.provider v, rfl, rfl,
      rfl, rfl⟩
  obtain ⟨hyields, hend⟩ := run_agree
    (fun hstep hst => step_alike env hprovider hst hstep) hsteps hself
  exact ⟨hyields, hend.lines, hend.tagging, hend.requests⟩

/-- Everything is logged. -/
def watched : Surroundings :=
  { answering [sampleRejection] with logging := some (Log.configure { level := .debug } []) }

/-- An authority that grants another token than that of the sample. -/
def otherAuthority : Provider :=
  .authority fun
    | 0 => .refuseAccount { name := "ValueError", text := "refused" }
    | _ => .accept (.text "another") .null

/-- Other credentials of the same holder. -/
def otherCredentials : Value :=
  credentialsOf [("client_email", .text "a"), ("k", .text "b")]

theorem readAccount_otherCredentials :
    Token.readAccount otherCredentials =
      .ok [(.text "client_email", .text "a"), (.text "k", .text "b")] := by
  refine readAccount_credentialsOf (.record (by decide) ?_)
  simp only [List.forall_mem_cons]
  exact ⟨.text _, .text _, List.forall_mem_nil _⟩

/-- Two messages with the same credentials, the second in a block. -/
def secretSteps (credentials : Value) : List Step := [
  { task := .send .all (some sampleMessage) credentials },
  { task := .send .each (some sampleMessage) credentials, inBlock := true, pause := 5 }]

theorem run_tells_no_secret_of_sample :
    (warySample.run watched (secretSteps ownedCredentials) freshSession).1 =
        ((warySample.withProvider otherAuthority).run watched
          (secretSteps otherCredentials) freshSession).1 ∧
      (warySample.run watched (secretSteps ownedCredentials) freshSession).2.lines =
        ((warySample.withProvider otherAuthority).run watched
          (secretSteps otherCredentials) freshSession).2.lines ∧
      -- whereas what is sent is not the same
      (warySample.run (answering []) (secretSteps ownedCredentials)
        freshSession).2.requests.map Http.Request.authorization =
          ["Bearer token", "Bearer token"] ∧
      ((warySample.withProvider otherAuthority).run (answering [])
        (secretSteps otherCredentials) freshSession).2.requests.map
          Http.Request.authorization = ["Bearer another", "Bearer another"] := by
  have hprovider : warySample.provider.Alike otherAuthority := by
    refine .authority fun given => ?_
    cases given with
    | zero => exact .same _
    | succ given =>
      have hanother : ({ accessToken := .text "another" } : BearerToken).Plain :=
        ⟨"another", rfl, by decide, by decide⟩
      exact .tokens sampleToken_plain hanother
  have hconfused : warySample.provider.Confuses ownedCredentials otherCredentials :=
    .inr ⟨_, _, readAccount_ownedCredentials, readAccount_otherCredentials, rfl⟩
  have hsteps : List.Forall₂ (Step.Alike warySample.provider.Confuses)
      (secretSteps ownedCredentials) (secretSteps otherCredentials) :=
    .cons (.send _ _ hconfused _ _) (.cons (.send _ _ hconfused _ _) .nil)
  obtain ⟨hyields, hlines, -, -⟩ :=
    run_tells_no_secret watched freshSession hprovider hsteps
  exact ⟨hyields, hlines, by decide +kernel, by decide +kernel⟩

end Client
end Delivery
end PushRelay
