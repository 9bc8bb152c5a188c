import PushRelay.Proofs.Scope

/-!
# Threads

The scopes of a thread share its tags, and the thread may enter, leave and
bind them in any order: an outer one before an inner one, one that it is in
already, one that it has never entered. What it has done is its history, with
the newest step first.
-/

namespace PushRelay

/-- The tags of a thread, where its batches get their ids, how many have got
theirs, and the scopes that it has made. -/
structure Thread where
  tagging : Tagging
  ids : IdSource
  batches : Nat
  scopes : List Scope

namespace Thread

/-- What a thread does with its scopes, which are numbered as they are made. -/
inductive Act where
  | create (batchId : Value) (bindings : Bindings) (now : Int)
  | enter (i : Nat)
  | leave (i : Nat)
  | bind (i : Nat) (values : Bindings)

/-- The thread once a scope has changed, and with it what the thread knows of
tags and tickets. -/
def put (t : Thread) (i : Nat) (changed : Scope × Tagging) : Thread :=
  { t with tagging := changed.2, scopes := t.scopes.set i changed.1 }

/-- What comes of an act, if there is such a scope. -/
def act (t : Thread) : Act → Option (Except ScopeError Thread)
  | .create batchId bindings now =>
    let (c, batches) := Scope.new t.ids batchId bindings now t.batches
    some (.ok { t with batches, scopes := t.scopes ++ [c] })
  | .enter i => t.scopes[i]?.map fun c => .ok (t.put i (c.enter t.tagging))
  | .leave i => t.scopes[i]?.map fun c => (c.exit t.tagging).map (t.put i)
  | .bind i values => t.scopes[i]?.map fun c => .ok (t.put i (c.bind values t.tagging))

/-- The thread after an act: where an act fails, the thread stays as it is. -/
def after (t : Thread) : Except ScopeError Thread → Thread
  | .ok t' => t'
  | .error _ => t

/-- What can come of an act, case by case. -/
inductive Acts (t : Thread) : Act → Except ScopeError Thread → Prop where
  | created (batchId : Value) (bindings : Bindings) (now : Int) {c : Scope} {batches : Nat}
      (hnew : Scope.new t.ids batchId bindings now t.batches = (c, batches)) :
      Acts t (.create batchId bindings now) (.ok { t with batches, scopes := t.scopes ++ [c] })
  | entered {i : Nat} {c : Scope} (hc : t.scopes[i]? = some c) :
      Acts t (.enter i) (.ok (t.put i (c.enter t.tagging)))
  | notEntered {i : Nat} {c : Scope} (hc : t.scopes[i]? = some c) (hnone : c.ticket = none) :
      Acts t (.leave i) (.error .notEntered)
  | refused {i : Nat} {c : Scope} {ticket : Ticket} (hc : t.scopes[i]? = some c)
      (hticket : c.ticket = some ticket) (hspent : ticket.number ∈ t.tagging.spent) :
      Acts t (.leave i) (.error .spent)
  | left {i : Nat} {c : Scope} {ticket : Ticket} (hc : t.scopes[i]? = some c)
      (hticket : c.ticket = some ticket) (hunspent : ticket.number ∉ t.tagging.spent) :
      Acts t (.leave i) (.ok (t.put i ({ c with ticket := none }, t.tagging.restored ticket)))
  | bound {i : Nat} {c : Scope} (values : Bindings) (hc : t.scopes[i]? = some c) :
      Acts t (.bind i values) (.ok (t.put i (c.bind values t.tagging)))

theorem acts_of_act {t : Thread} {a : Act} {outcome : Except ScopeError Thread}
    (h : t.act a = some outcome) : Acts t a outcome := by
  cases a with
  | create batchId bindings now =>
    cases h
    exact .created batchId bindings now rfl
  | enter i =>
    obtain ⟨c, hc, rfl⟩ := Option.map_eq_some_iff.mp h
    exact .entered hc
  | leave i =>
    obtain ⟨c, hc, rfl⟩ := Option.map_eq_some_iff.mp h
    cases hticket : c.ticket with
    | none =>
      have hexit : c.exit t.tagging = .error .notEntered := by
        simp only [Scope.exit, hticket]
      rw [hexit]
      exact .notEntered hc hticket
    | some ticket =>
      have hexit : c.exit t.tagging =
          (t.tagging.restore ticket).map ({ c with ticket := none }, ·) := by
        simp only [Scope.exit, hticket]
        rfl
      rw [hexit]
      by_cases hspent : ticket.number ∈ t.tagging.spent
      · rw [Tagging.restore_of_spent hspent]
        exact .refused hc hticket hspent
      · rw [Tagging.restore_of_unspent hspent]
        exact .left hc hticket hspent
  | bind i values =>
    obtain ⟨c, hc, rfl⟩ := Option.map_eq_some_iff.mp h
    exact .bound values hc

theorem exists_act_leave {t : Thread} {i : Nat} (hi : i < t.scopes.length) :
    ∃ outcome, t.act (.leave i) = some outcome := by
  simp [act, hi]

/-! ## Histories -/

/-- A step of a thread: what the thread was, what it did, and what came of it. -/
structure Step where
  before : Thread
  act : Act
  outcome : Except ScopeError Thread

/-- A thread has come to some state by a history. It starts without scopes,
but perhaps within one that was entered elsewhere. -/
inductive Run : List Step → Thread → Prop where
  | start {tagging : Tagging} (hsound : tagging.Sound) (ids : IdSource) (batches : Nat) :
      Run [] { tagging, ids, batches, scopes := [] }
  | step {history : List Step} {t : Thread} {a : Act} {outcome : Except ScopeError Thread}
      (h : Run history t) (hact : t.act a = some outcome) :
      Run (⟨t, a, outcome⟩ :: history) (t.after outcome)

namespace Step

def Enters (i : Nat) (s : Step) : Prop := s.act = .enter i

/-- The step leaves the scope, and does not merely try to. -/
def Leaves (i : Nat) (s : Step) : Prop := s.act = .leave i ∧ ∃ t, s.outcome = .ok t

end Step

/-- One thing has happened in a history, and another has not since. -/
def Since (p q : Step → Prop) (history : List Step) : Prop :=
  ∃ later step earlier, history = later ++ step :: earlier ∧ p step ∧ ∀ u ∈ later, ¬ q u

theorem since_nil (p q : Step → Prop) : ¬ Since p q [] := by
  rintro ⟨later, step, earlier, h, -⟩
  simp at h

theorem since_cons_iff {p q : Step → Prop} {step : Step} {history : List Step} :
    Since p q (step :: history) ↔ p step ∨ (¬ q step ∧ Since p q history) := by
  constructor
  · rintro ⟨later, u, earlier, heq, hp, hq⟩
    cases later with
    | nil =>
      cases heq
      exact .inl hp
    | cons v later =>
      cases heq
      have hlater : ∀ u ∈ later, ¬ q u := fun w hw => hq w (List.mem_cons_of_mem _ hw)
      exact .inr ⟨hq step List.mem_cons_self, later, u, earlier, rfl, hp, hlater⟩
  · rintro (hp | ⟨hq, later, u, earlier, rfl, hp, hlater⟩)
    · exact ⟨[], step, history, rfl, hp, by simp⟩
    · exact ⟨step :: later, u, earlier, rfl, hp, List.forall_mem_cons.mpr ⟨hq, hlater⟩⟩

/-- The scope has been entered, and has not been left since. -/
def Inside (i : Nat) : List Step → Prop := Since (·.Enters i) (·.Leaves i)

/-- The step is the one that has entered the scope last. -/
def LastEntry (i : Nat) (entry : Step) : List Step → Prop :=
  Since (fun step => step = entry ∧ step.Enters i) (·.Enters i)

end Thread
end PushRelay
