import PushRelay.Proofs.Delivery.Attempt

/-!
# From one target to all

Deliveries and attempts go through the targets in the same way: one after the
other, as far as the first that fails. What one step does with a good reply is
therefore enough to know what a whole traversal does, both when all replies
are good and when one of them is not.
-/

namespace PushRelay.Delivery

variable {α : Type}

/-- Takes a step for each wire message, as far as the first step that fails. -/
def traverse (step : WireMessage → Session → Except Failure α × Session) :
    List WireMessage → Session → Except Failure (List α) × Session
  | [], s => (.ok [], s)
  | wire :: rest, s =>
    match step wire (s.bind [("target", wire.token)]) with
    | (.error e, s) => (.error e, s)
    | (.ok a, s) =>
      match traverse step rest s with
      | (.error e, s) => (.error e, s)
      | (.ok as, s) => (.ok (a :: as), s)

theorem Client.deliverAll_eq_traverse (c : Client) (env : Surroundings)
    (token : BearerToken) (wires : List WireMessage) (s : Session) :
    c.deliverAll env token wires s = traverse (c.deliver env token) wires s := by
  induction wires generalizing s with
  | nil => rfl
  | cons wire rest ih =>
    simp only [deliverAll, traverse, ih]
    rcases c.deliver env token wire (s.bind [("target", wire.token)]) with ⟨_ | _, t⟩
    · rfl
    · dsimp only
      rcases traverse (c.deliver env token) rest t with ⟨_ | _, _⟩ <;> rfl

theorem Client.attemptAll_eq_traverse (c : Client) (env : Surroundings)
    (token : BearerToken) (wires : List WireMessage) (s : Session) :
    c.attemptAll env token wires s = traverse (c.attempt env token) wires s := by
  induction wires generalizing s with
  | nil => rfl
  | cons wire rest ih =>
    simp only [attemptAll, traverse, ih]
    rcases c.attempt env token wire (s.bind [("target", wire.token)]) with ⟨_ | _, t⟩
    · rfl
    · dsimp only
      rcases traverse (c.attempt env token) rest t with ⟨_ | _, _⟩ <;> rfl

section

variable {step : WireMessage → Session → Except Failure α × Session} {s t u : Session}
  {wire : WireMessage} {rest before after wires : List WireMessage} {a : α}
  {as : List α} {failure : Failure}

theorem traverse_cons_of_ok
    (hstep : step wire (s.bind [("target", wire.token)]) = (.ok a, t))
    (hrest : traverse step rest t = (.ok as, u)) :
    traverse step (wire :: rest) s = (.ok (a :: as), u) := by
  simp only [traverse, hstep, hrest]

theorem traverse_cons_of_error
    (hstep : step wire (s.bind [("target", wire.token)]) = (.error failure, t)) :
    traverse step (wire :: rest) s = (.error failure, t) := by
  simp only [traverse, hstep]

theorem traverse_cons_of_rest_error
    (hstep : step wire (s.bind [("target", wire.token)]) = (.ok a, t))
    (hrest : traverse step rest t = (.error failure, u)) :
    traverse step (wire :: rest) s = (.error failure, u) := by
  simp only [traverse, hstep, hrest]

theorem traverse_cons_eq_ok (h : traverse step (wire :: rest) s = (.ok as, u)) :
    ∃ a rs t, as = a :: rs ∧ step wire (s.bind [("target", wire.token)]) = (.ok a, t) ∧
      traverse step rest t = (.ok rs, u) := by
  simp only [traverse] at h
  split at h
  · cases h
  · rename_i hstep
    split at h
    · cases h
    · rename_i hrest
      cases h
      exact ⟨_, _, _, rfl, hstep, hrest⟩

/-- What comes after goes on from where what comes before has left off. -/
theorem traverse_append (step : WireMessage → Session → Except Failure α × Session)
    (before after : List WireMessage) (s : Session) :
    traverse step (before ++ after) s =
      match traverse step before s with
      | (.error failure, t) => (.error failure, t)
      | (.ok as, t) =>
        match traverse step after t with
        | (.error failure, u) => (.error failure, u)
        | (.ok bs, u) => (.ok (as ++ bs), u) := by
  induction before generalizing s with
  | nil =>
    show traverse step after s = _
    simp only [traverse]
    rcases traverse step after s with ⟨_ | _, _⟩ <;> rfl
  | cons wire rest ih =>
    -- what ends the first part early ends the whole
    simp only [List.cons_append, traverse, ih]
    rcases step wire (s.bind [("target", wire.token)]) with ⟨_ | a, t⟩
    · rfl
    · dsimp only
      rcases traverse step rest t with ⟨_ | as, u⟩
      · rfl
      · dsimp only
        rcases traverse step after u with ⟨_ | _, _⟩ <;> rfl

theorem traverse_append_of_error (hbefore : traverse step before s = (.ok as, t))
    (hafter : traverse step after t = (.error failure, u)) :
    traverse step (before ++ after) s = (.error failure, u) := by
  rw [traverse_append, hbefore]
  simp only [hafter]

/-- A traversal that fails does so because one of its steps does. -/
theorem step_of_traverse_error (h : traverse step wires s = (.error failure, t)) :
    ∃ w ∈ wires, ∃ u v, step w u = (.error failure, v) := by
  induction wires generalizing s with
  | nil => cases h
  | cons wire rest ih =>
    simp only [traverse] at h
    split at h
    · rename_i hstep
      cases h
      exact ⟨wire, List.mem_cons_self, _, _, hstep⟩
    · split at h
      · rename_i hrest
        cases h
        obtain ⟨w, hw, hfails⟩ := ih hrest
        exact ⟨w, List.mem_cons_of_mem _ hw, hfails⟩
      · cases h

/-- There is at most one request for each target. -/
theorem traverse_makes {kind : Http.Request → Prop}
    (hstep : ∀ (w : WireMessage) (s : Session), s.Makes 1 kind (step w s).2) :
    s.Makes wires.length kind (traverse step wires s).2 := by
  induction wires generalizing s with
  | nil => exact .of_nothing 0 kind (.refl s)
  | cons wire rest ih =>
    have hbind : s.Makes 0 kind (s.bind [("target", wire.token)]) :=
      .of_nothing 0 kind (Session.grown_bind s _)
    have hfirst := hbind.trans (hstep wire (s.bind [("target", wire.token)]))
    rw [List.length_cons, Nat.add_comm]
    simp only [traverse]
    split
    · rename_i hrun
      rw [hrun] at hfirst
      exact hfirst.mono (by omega)
    · rename_i t hrun
      rw [hrun] at hfirst
      have hall : s.Makes (1 + rest.length) kind (traverse step rest t).2 :=
        (hfirst.trans ih).mono (by omega)
      split
      · rename_i hrest
        rw [hrest] at hall
        exact hall
      · rename_i hrest
        rw [hrest] at hall
        exact hall

end

theorem Client.deliveries_make (c : Client) (env : Surroundings) (token : BearerToken)
    (wires : List WireMessage) (s : Session) :
    s.Makes wires.length (c.Posts token)
      (traverse (c.deliver env token) wires s).2 :=
  traverse_makes (deliver_makes c env token)

theorem Client.attempts_make (c : Client) (env : Surroundings) (token : BearerToken)
    (wires : List WireMessage) (s : Session) :
    s.Makes wires.length (c.Posts token)
      (traverse (c.attempt env token) wires s).2 :=
  traverse_makes (attempt_makes c env token)

/-! ## Good replies -/

/-- The reply to the request that comes after those of a session and `i`
further ones. -/
def Surroundings.reply (env : Surroundings) (s : Session) (i : Nat) : Reply :=
  (env.answers (s.requests.length + i)).reply

theorem Surroundings.reply_of_grown {env : Surroundings} {s t : Session}
    {made : List Http.Request} (h : s.Grown made t) (i : Nat) :
    env.reply t i = env.reply s (made.length + i) := by
  unfold reply
  rw [h.requests, List.length_append, Nat.add_assoc]

/-- When the next reply is good, the step makes one request and comes to
something that agrees with the reply. -/
def Accepts (env : Surroundings) (step : Session → Except Failure α × Session)
    (good : Reply → Prop) (made : Http.Request) (agrees : Reply → α → Prop) : Prop :=
  ∀ s : Session, s.closed = false → good (env.reply s 0) →
    ∃ a t, step s = (.ok a, t) ∧ s.Grown [made] t ∧ agrees (env.reply s 0) a

section

variable {env : Surroundings}
  {step : WireMessage → Session → Except Failure α × Session} {good : Reply → Prop}
  {made : WireMessage → Http.Request} {agrees : WireMessage → Reply → α → Prop}
  {s : Session}

/-- If all replies are good, then every target has its request, and what it
comes to agrees with the reply to that request. -/
theorem traverse_of_good {wires : List WireMessage}
    (hstep : ∀ w ∈ wires, Accepts env (step w) good (made w) (agrees w))
    (hopen : s.closed = false) (hgood : ∀ i < wires.length, good (env.reply s i)) :
    ∃ as t, traverse step wires s = (.ok as, t) ∧ s.Grown (wires.map made) t ∧
      as.length = wires.length ∧
      ∀ i w, wires[i]? = some w →
        ∃ a, as[i]? = some a ∧ agrees w (env.reply s i) a := by
  induction wires generalizing s with
  | nil => exact ⟨[], s, rfl, .refl s, rfl, fun i w hw => by cases hw⟩
  | cons wire rest ih =>
    have hbind := Session.grown_bind s [("target", wire.token)]
    obtain ⟨a, t, hrun, hgrown, hagrees⟩ := hstep wire List.mem_cons_self
      (s.bind [("target", wire.token)]) hopen (hgood 0 (Nat.zero_lt_succ _))
    have hst : s.Grown [made wire] t := hbind.trans hgrown
    -- the replies that are left are those after the first
    have hreply : ∀ i, env.reply t i = env.reply s (i + 1) := by
      intro i
      rw [Surroundings.reply_of_grown hst, List.length_singleton, Nat.add_comm]
    have hleft : ∀ i < rest.length, good (env.reply t i) := by
      intro i hi
      rw [hreply]
      exact hgood (i + 1) (Nat.succ_lt_succ hi)
    obtain ⟨as, u, hrest, htu, hlength, hall⟩ := ih
      (fun w hw => hstep w (List.mem_cons_of_mem _ hw)) (hst.closed.trans hopen) hleft
    refine ⟨a :: as, u, traverse_cons_of_ok hrun hrest, hst.trans htu,
      by simp [hlength], ?_⟩
    intro i w hw
    cases i with
    | zero =>
      cases hw
      exact ⟨a, rfl, hagrees⟩
    | succ i =>
      rw [← hreply]
      exact hall i w hw

/-- The first step that fails is the last that is taken. -/
theorem traverse_of_first_failure {wires : List WireMessage} {k : Nat}
    {wire : WireMessage} {failure : Failure} {last : List Http.Request}
    (hk : wires[k]? = some wire)
    (hstep : ∀ w ∈ wires.take k, Accepts env (step w) good (made w) (agrees w))
    (hopen : s.closed = false) (hgood : ∀ i < k, good (env.reply s i))
    (hfails : ∀ t : Session, t.closed = false → env.reply t 0 = env.reply s k →
      ∃ u, step wire t = (.error failure, u) ∧ t.Grown last u) :
    ∃ u, traverse step wires s = (.error failure, u) ∧
      s.Grown ((wires.take k).map made ++ last) u := by
  obtain ⟨hlt, hget⟩ := List.getElem?_eq_some_iff.mp hk
  have hsplit : wires = wires.take k ++ wire :: wires.drop (k + 1) := by
    rw [← hget, List.getElem_cons_drop, List.take_append_drop]
  have hlength : (wires.take k).length = k := by
    rw [List.length_take]
    omega
  obtain ⟨as, t, hbefore, hst, -⟩ :=
    traverse_of_good hstep hopen fun i hi => hgood i (hlength ▸ hi)
  have hreply : env.reply t 0 = env.reply s k := by
    rw [Surroundings.reply_of_grown hst, List.length_map, hlength, Nat.add_zero]
  obtain ⟨u, hrun, htu⟩ := hfails (t.bind [("target", wire.token)])
    (hst.closed.trans hopen) hreply
  refine ⟨u, ?_, hst.trans ((Session.grown_bind t _).trans htu)⟩
  rw [hsplit]
  exact traverse_append_of_error hbefore (traverse_cons_of_error hrun)

/-- The requests up to and including the one for some target. -/
theorem map_take_append {wires : List WireMessage} {k : Nat} {wire : WireMessage}
    (made : WireMessage → Http.Request) (hk : wires[k]? = some wire) :
    (wires.take k).map made ++ [made wire] = (wires.take (k + 1)).map made := by
  rw [List.take_add_one, hk, Option.toList_some, List.map_append, List.map_singleton]

end

/-- A delivery is made of a reply that is one. -/
theorem Client.deliver_accepts {c : Client} {env : Surroundings} {token : BearerToken}
    {authorization : String} {wire : WireMessage}
    (ha : c.authorization token = .ok authorization)
    (hbody : wire.encode = .ok wire.body) :
    Accepts env (c.deliver env token wire)
      (fun r => r.delivered?.isSome = true)
      (c.request authorization wire.body)
      (fun r result => ∃ v, r.delivered? = some v ∧ result = ⟨wire.token, v⟩) := by
  intro s hopen hsome
  obtain ⟨v, hv⟩ := Option.isSome_iff_exists.mp hsome
  obtain ⟨t, hrun, hgrown⟩ :=
    deliver_of_judge_ok ha hopen hbody (judge_delivered hv)
  exact ⟨⟨wire.token, v⟩, t, hrun, hgrown, v, hv, rfl⟩

end PushRelay.Delivery
