import PushRelay.Proofs.Scope.Thread

/-!
# Who holds which ticket

Entering a scope that has been entered already overwrites its ticket, and that
ticket is lost. So a scope holds one ticket at most, the one of its last entry,
and holds none once it has been left. No ticket is held twice, and none that
has been given back is held, so a scope that holds one can be left with it.
-/

namespace PushRelay.Thread

variable {t t' : Thread} {a : Act} {outcome : Except ScopeError Thread}
  {history : List Step} {i j : Nat} {c : Scope} {ticket : Ticket}

/-- The ticket that a scope holds, if there is the scope and it holds one. -/
def ticket? (t : Thread) (i : Nat) : Option Ticket := t.scopes[i]?.bind (·.ticket)

theorem ticket?_of_scope {held : Option Ticket} (hc : t.scopes[i]? = some c)
    (hheld : c.ticket = held) : t.ticket? i = held := by
  simp [ticket?, hc, hheld]

theorem ticket?_put (hc : t.scopes[i]? = some c) (changed : Scope × Tagging) (j : Nat) :
    (t.put i changed).ticket? j = if i = j then changed.1.ticket else t.ticket? j := by
  have hi : i < t.scopes.length := (List.getElem?_eq_some_iff.mp hc).1
  simp only [ticket?, put, List.getElem?_set]
  by_cases hij : i = j
  · rw [if_pos hij, if_pos hij, if_pos (hij ▸ hi)]
    rfl
  · rw [if_neg hij, if_neg hij]

/-- A change that leaves the scope its ticket takes none from the others. -/
theorem ticket?_put_same (hc : t.scopes[i]? = some c) {changed : Scope × Tagging}
    (hsame : changed.1.ticket = c.ticket) (j : Nat) :
    (t.put i changed).ticket? j = t.ticket? j := by
  rw [ticket?_put hc]
  split
  · rename_i hij
    rw [hsame, ← hij, ticket?_of_scope hc rfl]
  · rfl

theorem ticket?_append (hnone : c.ticket = none) (batches : Nat) (j : Nat) :
    ({ t with batches, scopes := t.scopes ++ [c] } : Thread).ticket? j = t.ticket? j := by
  simp only [ticket?, List.getElem?_append]
  split
  · rfl
  · rename_i hj
    rw [List.getElem?_eq_none (Nat.le_of_not_lt hj)]
    cases hk : j - t.scopes.length <;> simp [hnone]

theorem ticket?_new {ids : IdSource} {batchId : Value} {bindings : Bindings} {now : Int}
    {n batches : Nat} (h : Scope.new ids batchId bindings now n = (c, batches)) :
    c.ticket = none := by
  unfold Scope.new at h
  split at h <;> (cases h; rfl)

/-! ## The tickets that are out -/

/-- Every ticket that a scope holds has been handed out and not been given
back, and no other scope holds it. -/
structure Owned (t : Thread) : Prop where
  sound : t.tagging.Sound
  issued : ∀ {i ticket}, t.ticket? i = some ticket → ticket.number < t.tagging.issued
  unspent : ∀ {i ticket}, t.ticket? i = some ticket → ticket.number ∉ t.tagging.spent
  distinct : ∀ {i j ticket ticket'}, t.ticket? i = some ticket → t.ticket? j = some ticket' →
    ticket.number = ticket'.number → i = j

/-- Only the tickets matter. -/
theorem Owned.congr (h : t.Owned) (htickets : ∀ i, t'.ticket? i = t.ticket? i)
    (hissued : t'.tagging.issued = t.tagging.issued)
    (hspent : t'.tagging.spent = t.tagging.spent) : t'.Owned where
  sound := by
    intro n hn
    rw [hissued]
    exact h.sound n (hspent ▸ hn)
  issued hi := by
    rw [hissued]
    exact h.issued (htickets _ ▸ hi)
  unspent hi := by
    rw [hspent]
    exact h.unspent (htickets _ ▸ hi)
  distinct hi hj := h.distinct (htickets _ ▸ hi) (htickets _ ▸ hj)

/-- The ticket of an entry is a new one. -/
theorem Owned.entered (h : t.Owned) (hc : t.scopes[i]? = some c) :
    (t.put i (c.enter t.tagging)).Owned where
  sound := h.sound.set _
  issued {j ticket} hj := by
    rw [ticket?_put hc] at hj
    show ticket.number < t.tagging.issued + 1
    split at hj
    · cases hj
      exact Nat.lt_succ_self _
    · exact Nat.lt_succ_of_lt (h.issued hj)
  unspent {j ticket} hj := by
    rw [ticket?_put hc] at hj
    split at hj
    · cases hj
      exact h.sound.next_unspent
    · exact h.unspent hj
  distinct {j k ticket ticket'} hj hk hnumber := by
    rw [ticket?_put hc] at hj hk
    -- the new ticket has the next number, and all others have smaller ones
    split at hj <;> split at hk
    · omega
    · cases hj
      exact absurd hnumber.symm (Nat.ne_of_lt (h.issued hk))
    · cases hk
      exact absurd hnumber (Nat.ne_of_lt (h.issued hj))
    · exact h.distinct hj hk hnumber

/-- The scope that is left was the only one to hold its ticket. -/
theorem Owned.left (h : t.Owned) (hc : t.scopes[i]? = some c) (hticket : c.ticket = some ticket) :
    (t.put i ({ c with ticket := none }, t.tagging.restored ticket)).Owned := by
  have hheld : t.ticket? i = some ticket := ticket?_of_scope hc hticket
  have hrestored := Tagging.restore_of_unspent (h.unspent hheld)
  have hother : ∀ {j ticket'},
      (t.put i ({ c with ticket := none }, t.tagging.restored ticket)).ticket? j = some ticket' →
        i ≠ j ∧ t.ticket? j = some ticket' := by
    intro j ticket' hj
    rw [ticket?_put hc] at hj
    split at hj
    · cases hj
    · rename_i hij
      exact ⟨hij, hj⟩
  refine ⟨h.sound.restore (h.issued hheld) hrestored, ?_, ?_, ?_⟩
  · intro j ticket' hj
    exact h.issued (hother hj).2
  · intro j ticket' hj hn
    obtain ⟨hij, hj⟩ := hother hj
    rcases List.mem_cons.mp hn with hnumber | hn
    · exact hij (h.distinct hheld hj hnumber.symm)
    · exact h.unspent hj hn
  · intro j k ticket' ticket'' hj hk
    exact h.distinct (hother hj).2 (hother hk).2

/-- A ticket that is held is good. -/
theorem Owned.not_refused (h : t.Owned) (hact : t.act a = some outcome) :
    outcome ≠ .error .spent := by
  rintro rfl
  cases acts_of_act hact with
  | refused hc hticket hspent => exact h.unspent (ticket?_of_scope hc hticket) hspent

theorem Owned.after (h : t.Owned) (hact : t.act a = some outcome) :
    (t.after outcome).Owned := by
  cases acts_of_act hact with
  | created batchId bindings now hnew =>
    exact h.congr (ticket?_append (ticket?_new hnew) _) rfl rfl
  | entered hc => exact h.entered hc
  | notEntered | refused => exact h
  | left hc hticket hunspent => exact h.left hc hticket
  | bound values hc => exact h.congr (ticket?_put_same hc rfl) rfl rfl

theorem Run.owned (h : Run history t) : t.Owned := by
  induction h with
  | start hsound ids batches => exact ⟨hsound, nofun, nofun, nofun⟩
  | step _ hact ih => exact ih.after hact

/-! ## What the tickets tell of the history -/

/-- A scope holds a ticket just while the thread is inside it, and the ticket
is for the tags from before its last entry. -/
structure Recorded (history : List Step) (t : Thread) (i : Nat) : Prop where
  inside_iff : (t.ticket? i).isSome ↔ Inside i history
  before : ∀ {ticket}, t.ticket? i = some ticket →
    ∃ entry, LastEntry i entry history ∧ ticket.before = entry.before.tagging.tags

/-- A step that neither enters nor leaves the scope. -/
theorem Recorded.kept {step : Step} (h : Recorded history t i)
    (hsame : t'.ticket? i = t.ticket? i) (henters : ¬ step.Enters i)
    (hleaves : ¬ step.Leaves i) : Recorded (step :: history) t' i where
  inside_iff := by
    rw [hsame, h.inside_iff, Inside, since_cons_iff]
    simp [henters, hleaves]
  before hticket := by
    obtain ⟨entry, hentry, hbefore⟩ := h.before (hsame ▸ hticket)
    exact ⟨entry, since_cons_iff.mpr (.inr ⟨henters, hentry⟩), hbefore⟩

theorem Recorded.entered {step : Step} (henters : step.Enters i)
    (hticket : t'.ticket? i = some ticket) (hbefore : ticket.before = step.before.tagging.tags) :
    Recorded (step :: history) t' i where
  inside_iff := by
    rw [hticket]
    exact iff_of_true rfl (since_cons_iff.mpr (.inl henters))
  before hticket' := by
    cases hticket.symm.trans hticket'
    exact ⟨step, since_cons_iff.mpr (.inl ⟨rfl, henters⟩), hbefore⟩

theorem Recorded.left {step : Step} (henters : ¬ step.Enters i) (hleaves : step.Leaves i)
    (hnone : t'.ticket? i = none) : Recorded (step :: history) t' i where
  inside_iff := by
    rw [hnone, Inside, since_cons_iff]
    simp [henters, hleaves]
  before hticket := by
    rw [hnone] at hticket
    cases hticket

theorem Run.recorded (h : Run history t) (j : Nat) : Recorded history t j := by
  induction h with
  | start hsound ids batches =>
    exact ⟨iff_of_false Bool.false_ne_true (since_nil _ _), nofun⟩
  | @step history t a outcome _ hact ih =>
    cases acts_of_act hact with
    | created batchId bindings now hnew =>
      exact ih.kept (ticket?_append (ticket?_new hnew) _ j) nofun nofun
    | @entered i c hc =>
      by_cases hij : i = j
      · subst hij
        exact .entered rfl ((ticket?_put hc _ i).trans (if_pos rfl)) rfl
      · refine ih.kept ((ticket?_put hc _ j).trans (if_neg hij)) ?_ nofun
        rintro ⟨⟩
        exact hij rfl
    | notEntered hc hnone => exact ih.kept rfl nofun (by rintro ⟨-, t', ⟨⟩⟩)
    | refused hc hticket hspent => exact ih.kept rfl nofun (by rintro ⟨-, t', ⟨⟩⟩)
    | @left i c ticket hc hticket hunspent =>
      by_cases hij : i = j
      · subst hij
        exact .left nofun ⟨rfl, _, rfl⟩ ((ticket?_put hc _ i).trans (if_pos rfl))
      · refine ih.kept ((ticket?_put hc _ j).trans (if_neg hij)) nofun ?_
        rintro ⟨⟨⟩, -⟩
        exact hij rfl
    | bound values hc => exact ih.kept (ticket?_put_same hc rfl j) nofun nofun

/-! ## Leaving a scope -/

/-- The number of the ticket that a step gives back, or tries to. -/
def Step.givesBack : Step → Option Nat
  | ⟨t, .leave i, _⟩ => (t.ticket? i).map (·.number)
  | _ => none

/-- What a thread has given back is spent, and it has given nothing back twice. -/
theorem Run.givesBack_nodup (h : Run history t) :
    (∀ n ∈ history.filterMap Step.givesBack, n ∈ t.tagging.spent) ∧
      (history.filterMap Step.givesBack).Nodup := by
  induction h with
  | start hsound ids batches => exact ⟨nofun, .nil⟩
  | @step history t a outcome h hact ih =>
    cases acts_of_act hact with
    | created | entered | bound => exact ih
    | @notEntered i c hc hnone =>
      have hgives : Step.givesBack ⟨t, .leave i, .error .notEntered⟩ = none := by
        simp [Step.givesBack, ticket?_of_scope hc hnone]
      rw [List.filterMap_cons_none hgives]
      exact ih
    | refused => exact absurd rfl (h.owned.not_refused hact)
    | @left i c ticket hc hticket hunspent =>
      -- only here is a number added, and it was not spent until now
      rw [List.filterMap_cons_some (b := ticket.number)
        (by simp [Step.givesBack, ticket?_of_scope hc hticket])]
      refine ⟨List.forall_mem_cons.mpr ⟨List.mem_cons_self, ?_⟩, List.nodup_cons.mpr ⟨?_, ih.2⟩⟩
      · exact fun n hn => List.mem_cons_of_mem _ (ih.1 n hn)
      · exact fun hn => hunspent (ih.1 _ hn)

/-- What must come of leaving a scope, given what has happened before. -/
structure LeavesAsEntered (history : List Step) (t : Thread) (i : Nat)
    (outcome : Except ScopeError Thread) : Prop where
  succeeds_iff : (∃ t', outcome = .ok t') ↔ Inside i history
  refused : ¬ Inside i history →
    ∃ e, outcome = .error e ∧ e.className = "ValueError" ∧ t.after outcome = t
  restored : ∀ t', outcome = .ok t' →
    ∃ entry, LastEntry i entry history ∧ t'.tagging.tags = entry.before.tagging.tags

theorem Run.leavesAsEntered (h : Run history t) (hact : t.act (.leave i) = some outcome) :
    LeavesAsEntered history t i outcome := by
  have hrecorded := h.recorded i
  cases acts_of_act hact with
  | notEntered hc hnone =>
    have houtside : ¬ Inside i history := by
      rw [← hrecorded.inside_iff, ticket?_of_scope hc hnone]
      exact Bool.false_ne_true
    exact ⟨iff_of_false nofun houtside, fun _ => ⟨.notEntered, rfl, rfl, rfl⟩, nofun⟩
  | refused => exact absurd rfl (h.owned.not_refused hact)
  | @left _ _ ticket hc hticket hunspent =>
    have hheld : t.ticket? i = some ticket := ticket?_of_scope hc hticket
    have hinside : Inside i history := by
      rw [← hrecorded.inside_iff, hheld]
      rfl
    refine ⟨iff_of_true ⟨_, rfl⟩ hinside, absurd hinside, ?_⟩
    intro t' ht'
    cases ht'
    exact hrecorded.before hheld

/-- In every run, a scope can be left just if the thread is inside it; leaving
it then brings back the tags from before its last entry, and is refused without
any effect otherwise. No ticket is given back twice, or refused as spent. -/
theorem Run.scopes_left_as_entered (h : Run history t) :
    (∀ i < t.scopes.length, ∃ outcome, t.act (.leave i) = some outcome ∧
      LeavesAsEntered history t i outcome) ∧
    (history.filterMap Step.givesBack).Nodup ∧
    ∀ step ∈ history, step.outcome ≠ .error .spent := by
  refine ⟨?_, h.givesBack_nodup.2, ?_⟩
  · intro i hi
    obtain ⟨outcome, hact⟩ := exists_act_leave hi
    exact ⟨outcome, hact, h.leavesAsEntered hact⟩
  · induction h with
    | start => exact nofun
    | step h hact ih => exact List.forall_mem_cons.mpr ⟨h.owned.not_refused hact, ih⟩

/-- An outer scope is left before the inner one, which then brings back tags
of a scope that is over. -/
theorem scopes_left_out_of_turn :
    ∃ history t, Run history t ∧
      history.map (·.act) = [.leave 0, .bind 1 [("target", .text "tok1")], .enter 1, .enter 0,
        .create (.text "inner") [] 0, .create (.text "outer") [("shard", .int 3)] 0] ∧
      (∃ outcome, t.act (.leave 0) = some outcome ∧ LeavesAsEntered history t 0 outcome ∧
        outcome = .error .notEntered) ∧
      (∃ outcome, t.act (.leave 1) = some outcome ∧ LeavesAsEntered history t 1 outcome ∧
        (t.after outcome).tagging.tags = ⟨.text "outer", [("shard", .int 3)]⟩) := by
  have h := Run.start Tagging.Sound.fresh .numbered 0
  have h := h.step (a := .create (.text "outer") [("shard", .int 3)] 0) rfl
  have h := h.step (a := .create (.text "inner") [] 0) rfl
  have h := h.step (a := .enter 0) rfl
  have h := h.step (a := .enter 1) rfl
  have h := h.step (a := .bind 1 [("target", .text "tok1")]) rfl
  have h := h.step (a := .leave 0) rfl
  obtain ⟨hleave, -⟩ := Run.scopes_left_as_entered h
  obtain ⟨outer, houter, houterLeaves⟩ := hleave 0 (by decide)
  obtain ⟨inner, hinner, hinnerLeaves⟩ := hleave 1 (by decide)
  refine ⟨_, _, h, rfl, ⟨outer, houter, houterLeaves, ?_⟩, ⟨inner, hinner, hinnerLeaves, ?_⟩⟩
  · cases houter
    rfl
  · cases hinner
    rfl

end PushRelay.Thread
