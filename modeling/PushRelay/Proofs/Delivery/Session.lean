import PushRelay.Delivery.Session
import PushRelay.Proofs.Scope

/-!
# What work on a session leaves alone

Within the scope of a send a session only grows: requests are added at the
end, the clock moves, lines are logged, names are bound. Everything else,
above all which tickets are out, stays as it is, so the scope can be left
again.
-/

namespace PushRelay.Delivery

/-- The session `t` has come of `s` by making some requests within one
scope. -/
structure Session.Grown (s : Session) (made : List Http.Request) (t : Session) :
    Prop where
  requests : t.requests = s.requests ++ made
  closed : t.closed = s.closed
  credentials : t.credentials = s.credentials
  calls : t.calls = s.calls
  batches : t.batches = s.batches
  issued : t.tagging.issued = s.tagging.issued
  spent : t.tagging.spent = s.tagging.spent

namespace Session

theorem Grown.refl (s : Session) : s.Grown [] s :=
  ⟨by simp, rfl, rfl, rfl, rfl, rfl, rfl⟩

theorem Grown.trans {s t u : Session} {made more : List Http.Request}
    (h : s.Grown made t) (h' : t.Grown more u) : s.Grown (made ++ more) u := by
  refine ⟨?_, h'.closed.trans h.closed, h'.credentials.trans h.credentials,
    h'.calls.trans h.calls, h'.batches.trans h.batches, h'.issued.trans h.issued,
    h'.spent.trans h.spent⟩
  rw [h'.requests, h.requests, List.append_assoc]

theorem Grown.sound {s t : Session} {made : List Http.Request} (h : s.Grown made t)
    (hs : s.tagging.Sound) : t.tagging.Sound := by
  intro n hn
  rw [h.spent] at hn
  rw [h.issued]
  exact hs n hn

theorem grown_bind (s : Session) (values : Bindings) : s.Grown [] (s.bind values) :=
  ⟨by simp [Session.bind], rfl, rfl, rfl, rfl, rfl, rfl⟩

theorem grown_log (s : Session) (env : Surroundings) (site : Log.Site)
    (level : Log.Level) (message : String) (attributes : List (String × Value)) :
    s.Grown [] (s.log env site level message attributes) := by
  unfold Session.log
  dsimp only
  split
  · exact ⟨by simp, rfl, rfl, rfl, rfl, rfl, rfl⟩
  · exact .refl s

/-! ## Requests -/

/-- The session `t` has come of `s` by making at most so many requests within
one scope, all of a kind and only while the transport is open. -/
def Makes (s : Session) (most : Nat) (kind : Http.Request → Prop) (t : Session) : Prop :=
  ∃ made, s.Grown made t ∧ made.length ≤ most ∧ ∀ r ∈ made, s.closed = false ∧ kind r

variable {s t u : Session} {m n : Nat} {kind : Http.Request → Prop}

theorem Makes.grown (h : s.Makes n kind t) : ∃ made, s.Grown made t := by
  obtain ⟨made, hgrown, -⟩ := h
  exact ⟨made, hgrown⟩

theorem Makes.of_nothing (n : Nat) (kind : Http.Request → Prop) (h : s.Grown [] t) :
    s.Makes n kind t :=
  ⟨[], h, Nat.zero_le n, List.forall_mem_nil _⟩

theorem Makes.trans (h : s.Makes m kind t) (h' : t.Makes n kind u) :
    s.Makes (m + n) kind u := by
  obtain ⟨made, hmade, hm, hkind⟩ := h
  obtain ⟨more, hmore, hn, hkind'⟩ := h'
  refine ⟨made ++ more, hmade.trans hmore, ?_, ?_⟩
  · rw [List.length_append]
    omega
  · intro r hr
    rcases List.mem_append.mp hr with hr | hr
    · exact hkind r hr
    · rw [← hmade.closed]
      exact hkind' r hr

theorem Makes.mono (h : s.Makes m kind t) (hmn : m ≤ n) : s.Makes n kind t := by
  obtain ⟨made, hgrown, hm, hkind⟩ := h
  exact ⟨made, hgrown, Nat.le_trans hm hmn, hkind⟩

/-! ## Scopes -/

/-- The scope of a send that begins now. -/
def scopeOf (s : Session) (env : Surroundings) (bindings : Bindings) : Scope where
  batchId := .text (env.ids.text (s.batches + 1))
  bindings
  startedAt := s.clock
  ticket := some ⟨s.tagging.issued, s.tagging.tags⟩

/-- The session inside that scope. -/
def opened (s : Session) (env : Surroundings) (bindings : Bindings) : Session :=
  { s with
    batches := s.batches + 1
    tagging := {
      tags := ⟨.text (env.ids.text (s.batches + 1)), bindings⟩
      issued := s.tagging.issued + 1
      spent := s.tagging.spent } }

/-- The session `t` with the tags of `s` brought back. -/
def left (s t : Session) : Session :=
  { t with
    tagging := {
      tags := s.tagging.tags
      issued := t.tagging.issued
      spent := s.tagging.issued :: t.tagging.spent } }

theorem exit_scopeOf (s : Session) (env : Surroundings) (bindings : Bindings) (t : Tagging) :
    (s.scopeOf env bindings).exit t =
      if s.tagging.issued ∈ t.spent then .error .spent
      else .ok ({ s.scopeOf env bindings with ticket := none },
        ⟨s.tagging.tags, t.issued, s.tagging.issued :: t.spent⟩) := by
  show (do
    let t ← t.restore ⟨s.tagging.issued, s.tagging.tags⟩
    return ({ s.scopeOf env bindings with ticket := none }, t)) = _
  unfold Tagging.restore
  by_cases hspent : s.tagging.issued ∈ t.spent
  · rw [if_pos hspent, if_pos hspent]
    rfl
  · rw [if_neg hspent, if_neg hspent]
    rfl

/-- A scope is left with what its inside came to, unless its ticket was given
back before. -/
theorem within_eq {α : Type} (s : Session) (env : Surroundings) (bindings : Bindings)
    (body : Scope → Session → Except Failure α × Session) :
    s.within env bindings body =
      if s.tagging.issued ∈
          (body (s.scopeOf env bindings) (s.opened env bindings)).2.tagging.spent then
        (.error (.scope .spent), (body (s.scopeOf env bindings) (s.opened env bindings)).2)
      else
        ((body (s.scopeOf env bindings) (s.opened env bindings)).1,
          s.left (body (s.scopeOf env bindings) (s.opened env bindings)).2) := by
  have hnew : Scope.new env.ids (.text "") bindings s.clock s.batches =
      ({ s.scopeOf env bindings with ticket := none }, s.batches + 1) := rfl
  have henter : ({ s.scopeOf env bindings with ticket := none } : Scope).enter s.tagging =
      (s.scopeOf env bindings, (s.opened env bindings).tagging) := rfl
  have hopened :
      { s with batches := s.batches + 1, tagging := (s.opened env bindings).tagging } =
        s.opened env bindings := rfl
  unfold within
  simp only [hnew, henter, hopened, exit_scopeOf]
  by_cases hspent :
      s.tagging.issued ∈ (body (s.scopeOf env bindings) (s.opened env bindings)).2.tagging.spent
  · rw [if_pos hspent, if_pos hspent]
  · rw [if_neg hspent, if_neg hspent]
    rfl

/-- The ticket of a scope is still good when its inside only let the session
grow. -/
theorem within_of_grown {α : Type} {s t : Session} {env : Surroundings} {bindings : Bindings}
    {made : List Http.Request} {result : Except Failure α}
    {body : Scope → Session → Except Failure α × Session} (hs : s.tagging.Sound)
    (hbody : body (s.scopeOf env bindings) (s.opened env bindings) = (result, t))
    (hgrown : (s.opened env bindings).Grown made t) :
    s.within env bindings body = (result, s.left t) := by
  have hspent : t.tagging.spent = s.tagging.spent := hgrown.spent
  rw [within_eq, hbody, if_neg]
  show s.tagging.issued ∉ t.tagging.spent
  rw [hspent]
  exact hs.next_unspent

/-- Entering a scope hands out its ticket, and leaving it gives that ticket
back. -/
theorem within_sound {α : Type} {s t : Session} {env : Surroundings} {bindings : Bindings}
    {made : List Http.Request} {result : Except Failure α}
    {body : Scope → Session → Except Failure α × Session} (hs : s.tagging.Sound)
    (hbody : body (s.scopeOf env bindings) (s.opened env bindings) = (result, t))
    (hgrown : (s.opened env bindings).Grown made t) :
    (s.within env bindings body).2.tagging.Sound := by
  have hopened : (s.opened env bindings).tagging.Sound :=
    hs.set ⟨.text (env.ids.text (s.batches + 1)), bindings⟩
  have hissued : s.tagging.issued < t.tagging.issued := by
    rw [hgrown.issued]
    exact Nat.lt_succ_self s.tagging.issued
  have hleft : t.tagging.restore ⟨s.tagging.issued, s.tagging.tags⟩ =
      .ok (s.left t).tagging := by
    unfold Tagging.restore
    rw [if_neg]
    · rfl
    · show s.tagging.issued ∉ t.tagging.spent
      rw [hgrown.spent]
      exact hs.next_unspent
  rw [within_of_grown hs hbody hgrown]
  exact (hgrown.sound hopened).restore hissued hleft

end Session
end PushRelay.Delivery
