import PushRelay.Proofs.Delivery.Runs
import PushRelay.Proofs.Scope.BatchId

/-!
# Ids of batches

Every send has its targets in a scope with an id of its own. A send that comes
to a result has used up its id, and no step gives an id back, so that what was
sent under one id can be told from all that comes later.
-/

namespace PushRelay.Delivery

/-- The id of the batch that comes next. -/
def Session.nextId (s : Session) (env : Surroundings) : String := env.ids.text (s.batches + 1)

/-- No id is given back, and who comes to a result has used one up. -/
def Session.UsesId {α : Type} (s : Session) (run : Except Failure α × Session) : Prop :=
  s.batches ≤ run.2.batches ∧ ∀ a, run.1 = .ok a → s.batches < run.2.batches

/-- Who enters a scope uses an id up, however the scope is left. -/
theorem Session.usesId_within {α : Type} {s : Session} {env : Surroundings} {bindings : Bindings}
    {made : List Http.Request} {body : Scope → Session → Except Failure α × Session}
    (hgrown : (s.opened env bindings).Grown made
      (body (s.scopeOf env bindings) (s.opened env bindings)).2) :
    s.UsesId (s.within env bindings body) := by
  have hbatches : (s.within env bindings body).2.batches = s.batches + 1 := by
    rw [Session.within_eq]
    split <;> exact hgrown.batches
  have hless : s.batches < (s.within env bindings body).2.batches := by omega
  exact ⟨Nat.le_of_lt hless, fun _ _ => hless⟩

namespace Client

variable {c : Client} {env : Surroundings} {message : Option Message} {credentials : Value}
  {s : Session}

/-! ## Sends -/

@[simp] theorem fetch_batches (c : Client) (env : Surroundings) (credentials : Value)
    (s : Session) : (c.fetch env credentials s).2.batches = s.batches := by
  unfold fetch
  split
  · dsimp only
    split <;> rfl
  · dsimp only
    split
    · rfl
    · exact (Session.grown_log ..).batches

@[simp] theorem prepare_batches (c : Client) (env : Surroundings) (message : Option Message)
    (credentials : Value) (s : Session) :
    (c.prepare env message credentials s).2.batches = s.batches := by
  rw [prepare_session]
  split
  · exact fetch_batches c env credentials s
  · rfl

theorem overTargets_usesId {α : Type}
    {run : BearerToken → List WireMessage → Session → Except Failure α × Session}
    {line : Scope → α → Session → Remark}
    (hrun : ∀ token wires (t : Session), ∃ made, t.Grown made (run token wires t).2) :
    s.UsesId (c.overTargets env message credentials run line s) := by
  have hprepared := prepare_batches c env message credentials s
  unfold overTargets
  split
  · rename_i hprepare
    rw [hprepare] at hprepared
    exact ⟨Nat.le_of_eq hprepared.symm, fun _ ha => by cases ha⟩
  · rename_i m token t hprepare
    rw [hprepare] at hprepared
    unfold Session.UsesId
    rw [← hprepared]
    unfold withTargets
    split
    · exact ⟨Nat.le_refl _, fun _ ha => by cases ha⟩
    · rename_i count _
      cases m.translateAll with
      | error e => exact Session.usesId_within (.refl _)
      | ok wires =>
        obtain ⟨made, hmade⟩ := hrun token wires (t.opened env (targetCount count))
        exact Session.usesId_within (concluded_grown env _ hmade)

theorem sendEach_usesId (c : Client) (env : Surroundings) (message : Option Message)
    (credentials : Value) (s : Session) :
    s.UsesId (c.sendEach env message credentials s) := by
  rw [sendEach_eq_overTargets]
  exact overTargets_usesId fun token wires t => (attempts_make c env token wires t).grown

/-! ## Steps -/

end Client
end PushRelay.Delivery
