import PushRelay.Proofs.Delivery.Preparation

/-!
# Two deliveries side by side

What a delivery comes to depends on the transport and the clock, but not on
how the rest of the session looks or what the token says. Two traversals of
the same targets therefore come to the same, from any two sessions in which
the transport and the clock are the same, and the sessions stay alike in
whatever their requests and lines are alike in.
-/

namespace PushRelay.Delivery

/-- The same is come to, and the sessions after it are related. -/
def Agree {α : Type} (R : Session → Session → Prop)
    (left right : Except Failure α × Session) : Prop :=
  left.1 = right.1 ∧ R left.2 right.2

theorem Agree.exists {α : Type} {R : Session → Session → Prop}
    {left right : Except Failure α × Session} (h : Agree R left right) :
    ∃ result s t, left = (result, s) ∧ right = (result, t) ∧ R s t :=
  ⟨left.1, left.2, right.2, rfl, Prod.ext h.1.symm rfl, h.2⟩

theorem Agree.trans {α : Type} {R : Session → Session → Prop}
    {x y z : Except Failure α × Session} (h : Agree R x y) (h' : Agree R y z)
    (htrans : ∀ {s t u : Session}, R s t → R t u → R s u) : Agree R x z :=
  ⟨h.1.trans h'.1, htrans h.2 h'.2⟩

theorem Agree.map {α β : Type} {R : Session → Session → Prop}
    {left right : Except Failure α × Session} (h : Agree R left right) (f : α → β) :
    Agree R (left.map (·.map f) id) (right.map (·.map f) id) :=
  ⟨congrArg (·.map f) h.1, h.2⟩

/-- Either token can be sent, or neither for the same reason. -/
def Client.AuthorizesAlike (c : Client) (token token' : BearerToken) : Prop :=
  (∃ e, c.authorization token = .error e ∧ c.authorization token' = .error e) ∨
    ∃ authorization authorization',
      c.authorization token = .ok authorization ∧
        c.authorization token' = .ok authorization'

/-- Deliveries that start in related sessions, each with a token of its own,
go on in related sessions. -/
structure Lockstep (c : Client) (env : Surroundings) (token token' : BearerToken)
    (R : Session → Session → Prop) : Prop where
  authorized : c.AuthorizesAlike token token'
  clock : ∀ {s t}, R s t → s.clock = t.clock
  count : ∀ {s t}, R s t → s.requests.length = t.requests.length
  closed : ∀ {s t}, R s t → s.closed = t.closed
  bind : ∀ {s t} (values : Bindings), R s t → R (s.bind values) (t.bind values)
  log : ∀ {s t} (site : Log.Site) (level : Log.Level) (message : String)
    (attributes : List (String × Value)), R s t →
    R (s.log env site level message attributes) (t.log env site level message attributes)
  posted : ∀ {s t} {authorization authorization' : String} (body : String),
    c.authorization token = .ok authorization →
    c.authorization token' = .ok authorization' → R s t →
    R (Client.posted env (c.request authorization body) s)
      (Client.posted env (c.request authorization' body) t)

theorem Client.AuthorizesAlike.refl (c : Client) (token : BearerToken) :
    c.AuthorizesAlike token token := by
  unfold AuthorizesAlike
  cases c.authorization token with
  | error e => exact .inl ⟨e, rfl, rfl⟩
  | ok authorization => exact .inr ⟨authorization, authorization, rfl, rfl⟩

/-- Tokens that are plain texts are sent alike, whatever the host is. -/
theorem Client.AuthorizesAlike.of_plain (c : Client) {token token' : BearerToken}
    (h : token.Plain) (h' : token'.Plain) : c.AuthorizesAlike token token' := by
  unfold AuthorizesAlike authorization
  rw [Http.headerText_of_ascii h.header_ascii, Http.headerText_of_ascii h'.header_ascii]
  cases Http.headerText (String.ofList c.url.hostText) with
  | error e => exact .inl ⟨e, rfl, rfl⟩
  | ok host => exact .inr ⟨_, _, rfl, rfl⟩

namespace Lockstep

variable {c : Client} {env : Surroundings} {token token' : BearerToken}
  {R : Session → Session → Prop} {s t : Session}

theorem post (h : Lockstep c env token token' R) (hst : R s t) (body : String) :
    Agree R (c.post env token body s) (c.post env token' body t) := by
  rcases h.authorized with ⟨e, ha, ha'⟩ | ⟨authorization, authorization', ha, ha'⟩
  · simp only [Client.post, ha, ha']
    exact ⟨rfl, hst⟩
  · -- either both transports are closed, or both answer the same request
    have hclosed := h.closed hst
    cases hopen : t.closed with
    | true =>
      rw [hopen] at hclosed
      simp only [Client.post, ha, ha', hopen, hclosed, if_true]
      exact ⟨rfl, hst⟩
    | false =>
      rw [hopen] at hclosed
      rw [Client.post_of_authorized ha hclosed, Client.post_of_authorized ha' hopen,
        h.count hst]
      exact ⟨rfl, h.posted body ha ha' hst⟩

theorem deliver (h : Lockstep c env token token' R) (hst : R s t) (wire : WireMessage) :
    Agree R (c.deliver env token wire s) (c.deliver env token' wire t) := by
  unfold Client.deliver
  cases wire.encode with
  | error e => exact ⟨rfl, hst⟩
  | ok body =>
    obtain ⟨reply, u, v, hs, ht, hafter⟩ := (h.post hst body).exists
    simp only [hs, ht]
    cases reply with
    | error failure => exact ⟨rfl, hafter⟩
    | ok reply =>
      dsimp only
      cases c.judge wire.token reply with
      | error failure => exact ⟨rfl, hafter⟩
      | ok data => exact ⟨rfl, h.log _ _ _ _ hafter⟩

theorem attempt (h : Lockstep c env token token' R) (hst : R s t) (wire : WireMessage) :
    Agree R (c.attempt env token wire s) (c.attempt env token' wire t) := by
  obtain ⟨result, u, v, hs, ht, hafter⟩ := (h.deliver hst wire).exists
  -- the latency and the time are those of the clock
  simp only [Client.attempt, hs, ht, Session.seconds, Session.now, h.clock hst]
  cases result with
  | ok result =>
    dsimp only
    rw [h.clock hafter]
    exact ⟨rfl, hafter⟩
  | error failure =>
    dsimp only
    rw [h.clock hafter]
    cases Client.recorded? failure with
    | none => exact ⟨rfl, hafter⟩
    | some e => exact ⟨rfl, h.log _ _ _ _ hafter⟩

/-- What two steps agree in, their traversals agree in. -/
theorem traverse {α : Type} {step step' : WireMessage → Session → Except Failure α × Session}
    (h : Lockstep c env token token' R)
    (hstep : ∀ (wire : WireMessage) {s t : Session}, R s t →
      Agree R (step wire s) (step' wire t))
    (wires : List WireMessage) (hst : R s t) :
    Agree R (Delivery.traverse step wires s) (Delivery.traverse step' wires t) := by
  induction wires generalizing s t with
  | nil => exact ⟨rfl, hst⟩
  | cons wire rest ih =>
    obtain ⟨a, u, v, hs, ht, hafter⟩ :=
      (hstep wire (h.bind [("target", wire.token)] hst)).exists
    simp only [Delivery.traverse, hs, ht]
    cases a with
    | error failure => exact ⟨rfl, hafter⟩
    | ok a =>
      obtain ⟨as, u', v', hu, hv, hend⟩ := (ih hafter).exists
      simp only [hu, hv]
      cases as <;> exact ⟨rfl, hend⟩

theorem deliveries (h : Lockstep c env token token' R) (hst : R s t)
    (wires : List WireMessage) :
    Agree R (Delivery.traverse (c.deliver env token) wires s)
      (Delivery.traverse (c.deliver env token') wires t) :=
  h.traverse (fun wire _ _ hst => h.deliver hst wire) wires hst

theorem attempts (h : Lockstep c env token token' R) (hst : R s t)
    (wires : List WireMessage) :
    Agree R (Delivery.traverse (c.attempt env token) wires s)
      (Delivery.traverse (c.attempt env token') wires t) :=
  h.traverse (fun wire _ _ hst => h.attempt hst wire) wires hst

end Lockstep
end PushRelay.Delivery
