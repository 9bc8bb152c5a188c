import PushRelay.Proofs.Scope.Nesting

/-!
# What can be bound

Bindings come into a thread with the scopes that it makes and with what it
binds, and in no other way: entering and leaving carry them to and fro between
scopes, tags and tickets. So whatever holds of all that comes in holds of the
tags at any time.
-/

namespace PushRelay

variable {P : String × Value → Prop}

/-- It holds of all bindings of the scope, and of those that it would bring
back. -/
structure Scope.AllBound (P : String × Value → Prop) (c : Scope) : Prop where
  bindings : ∀ f ∈ c.bindings, P f
  ticket : ∀ ticket, c.ticket = some ticket → ∀ f ∈ ticket.before.bindings, P f

namespace Thread

variable {t : Thread} {a : Act} {outcome : Except ScopeError Thread} {history : List Step}

/-- What an act brings in. -/
def Act.bindings : Act → Bindings
  | .create _ bindings _ => bindings
  | .bind _ values => values
  | .enter _ | .leave _ => []

/-- It holds of all bindings, those of the moment and those of the scopes. -/
structure AllBound (P : String × Value → Prop) (t : Thread) : Prop where
  tags : ∀ f ∈ t.tagging.tags.bindings, P f
  scopes : ∀ c ∈ t.scopes, c.AllBound P

theorem AllBound.put (h : AllBound P t) (i : Nat) {changed : Scope × Tagging}
    (htags : ∀ f ∈ changed.2.tags.bindings, P f) (hscope : changed.1.AllBound P) :
    AllBound P (t.put i changed) where
  tags := htags
  scopes c hc := by
    rcases List.mem_or_eq_of_mem_set hc with hc | rfl
    · exact h.scopes c hc
    · exact hscope

theorem AllBound.act (h : AllBound P t) (ha : ∀ f ∈ a.bindings, P f)
    (hact : t.act a = some outcome) : AllBound P (t.after outcome) := by
  have hscope : ∀ {i : Nat} {c : Scope}, t.scopes[i]? = some c → c.AllBound P :=
    fun hc => h.scopes _ (List.mem_of_getElem? hc)
  cases acts_of_act hact with
  | created batchId bindings now hnew =>
    refine ⟨h.tags, fun c hc => ?_⟩
    rcases List.mem_append.mp hc with hc | hc
    · exact h.scopes c hc
    · cases List.mem_singleton.mp hc
      unfold Scope.new at hnew
      split at hnew <;>
      · cases hnew
        exact ⟨ha, nofun⟩
  | entered hc =>
    refine h.put _ (hscope hc).bindings ⟨(hscope hc).bindings, fun ticket hticket => ?_⟩
    cases hticket
    exact h.tags
  | notEntered | refused => exact h
  | left hc hticket => exact h.put _ ((hscope hc).ticket _ hticket) ⟨(hscope hc).bindings, nofun⟩
  | bound values hc =>
    exact h.put _ (Bindings.forall_mem_update h.tags ha)
      ⟨Bindings.forall_mem_update (hscope hc).bindings ha, (hscope hc).ticket⟩

/-- What holds of the bindings that a thread starts with, and of all that its
acts bring in, holds of its bindings at any time. -/
theorem Run.allBound (h : Run history t)
    (horigin : ∀ f ∈ (origin history t).tagging.tags.bindings, P f)
    (hacts : ∀ a ∈ acts history, ∀ f ∈ a.bindings, P f) : AllBound P t := by
  induction h with
  | start => exact ⟨horigin, nofun⟩
  | step h hact ih =>
    obtain ⟨ha, hearlier⟩ := List.forall_mem_cons.mp hacts
    exact (ih horigin hearlier).act ha hact

/-- Whatever is found in the tags, but for the id of the batch, has been bound. -/
theorem Run.bound_of_lookup (h : Run history t) (hfresh : (origin history t).tagging.tags = {})
    (hacts : ∀ a ∈ acts history, ∀ f ∈ a.bindings, P f) {name : String} {v : Value}
    (hname : name ≠ "batch_id") (hv : t.tagging.tags.fields.lookup name = some v) :
    P (name, v) := by
  have horigin : ∀ f ∈ (origin history t).tagging.tags.bindings, P f := by
    rw [hfresh]
    exact List.forall_mem_nil _
  have hfields := Tags.forall_mem_fields (h.allBound horigin hacts).tags
  exact (hfields _ (mem_of_lookup hv)).resolve_left hname

end Thread
end PushRelay
