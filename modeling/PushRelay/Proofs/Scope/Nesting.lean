import PushRelay.Proofs.Scope.BatchId
import PushRelay.Proofs.Scope.Bindings
import PushRelay.Proofs.Scope.Ownership

/-!
# Nested scopes

Binding a name in a scope writes it twice: into the scope, and into the tags
of the moment, whichever scope they are from. While scopes are nested, and only
the innermost is bound, the two stay in step. A name that is bound while the
thread is in no scope at all has no scope to end with, and stays.
-/

namespace PushRelay
namespace Thread

variable {t t' : Thread} {outcome : Except ScopeError Thread} {history : List Step}
  {i j : Nat} {c : Scope} {ticket : Ticket}

/-! ## What the acts alone tell -/

/-- What has been done in a history, with the newest act first. -/
def acts (history : List Step) : List Act := history.map (·.act)

/-- The scopes that the thread is in, the innermost first. -/
def active : List Act → List Nat
  | [] => []
  | .enter i :: earlier => i :: active earlier
  | .leave _ :: earlier => (active earlier).tail
  | .create .. :: earlier | .bind .. :: earlier => active earlier

/-- Only the innermost scope is left, and none is entered from within itself. -/
def Nested : List Act → Prop
  | [] => True
  | .enter i :: earlier => i ∉ active earlier ∧ Nested earlier
  | .leave i :: earlier => (active earlier).head? = some i ∧ Nested earlier
  | .create .. :: earlier | .bind .. :: earlier => Nested earlier

/-- Only the innermost scope is bound. -/
def BindsInnermost : List Act → Prop
  | [] => True
  | .bind i _ :: earlier => (active earlier).head? = some i ∧ BindsInnermost earlier
  | .create .. :: earlier | .enter _ :: earlier | .leave _ :: earlier => BindsInnermost earlier

/-- The ids and bindings that the scopes were made with. -/
def created : List Act → List (Value × Bindings)
  | [] => []
  | .create batchId bindings _ :: earlier => created earlier ++ [(batchId, bindings)]
  | .enter _ :: earlier | .leave _ :: earlier | .bind .. :: earlier => created earlier

/-- What has ever been bound in a scope, the oldest first. -/
def boundIn (i : Nat) : List Act → Bindings
  | [] => []
  | .bind j values :: earlier => boundIn i earlier ++ if j = i then values else []
  | .create .. :: earlier | .enter _ :: earlier | .leave _ :: earlier => boundIn i earlier

/-- What has been bound, in whatever scope, while the thread was in none. -/
def boundOutside : List Act → Bindings
  | [] => []
  | .bind _ values :: earlier =>
    boundOutside earlier ++ if (active earlier).isEmpty then values else []
  | .create .. :: earlier | .enter _ :: earlier | .leave _ :: earlier => boundOutside earlier

/-- The thread before the first step of its history. -/
def origin : List Step → Thread → Thread
  | [], t => t
  | step :: earlier, _ => origin earlier step.before

/-- The thread after some acts, if there are the scopes for them. -/
def afterAll (t : Thread) : List Act → Option Thread
  | [] => some t
  | a :: earlier => (t.afterAll earlier).bind fun t' => (t'.act a).map t'.after

theorem exists_run {start : Thread} (hsound : start.tagging.Sound) (hscopes : start.scopes = [])
    {done : List Act} (h : start.afterAll done = some t) :
    ∃ history, Run history t ∧ acts history = done ∧ origin history t = start := by
  induction done generalizing t with
  | nil =>
    cases h
    obtain ⟨tagging, ids, batches, scopes⟩ := start
    cases hscopes
    exact ⟨[], .start hsound ids batches, rfl, rfl⟩
  | cons a earlier ih =>
    obtain ⟨t', hearlier, hdone⟩ := Option.bind_eq_some_iff.mp h
    obtain ⟨outcome, hact, rfl⟩ := Option.map_eq_some_iff.mp hdone
    obtain ⟨history, hrun, hacts, horigin⟩ := ih hearlier
    exact ⟨_, hrun.step hact, congrArg (a :: ·) hacts, horigin⟩

theorem nodup_active {acts : List Act} (h : Nested acts) : (active acts).Nodup := by
  induction acts with
  | nil => exact .nil
  | cons a earlier ih =>
    cases a with
    | create | bind => exact ih h
    | enter i => exact List.nodup_cons.mpr ⟨h.1, ih h.2⟩
    | leave i => exact (ih h.2).sublist (List.tail_sublist _)

theorem boundOutside_of_bindsInnermost {acts : List Act} (h : BindsInnermost acts) :
    boundOutside acts = [] := by
  induction acts with
  | nil => rfl
  | cons a earlier ih =>
    cases a with
    | create | enter | leave => exact ih h
    | bind i values =>
      obtain ⟨hhead, h⟩ := h
      cases hactive : active earlier with
      | nil => simp [hactive] at hhead
      | cons => simp [boundOutside, hactive, ih h]

/-! ## What becomes of a scope -/

theorem scopes_put (hc : t.scopes[i]? = some c) (changed : Scope × Tagging) (j : Nat) :
    (t.put i changed).scopes[j]? = if i = j then some changed.1 else t.scopes[j]? := by
  have hi : i < t.scopes.length := (List.getElem?_eq_some_iff.mp hc).1
  by_cases hij : i = j
  · subst hij
    simp [put, hi]
  · simp [put, hij]

theorem scopes_append {d : Scope} (hd : (t.scopes ++ [c])[j]? = some d) :
    t.scopes[j]? = some d ∨ (j = t.scopes.length ∧ c = d) := by
  rw [List.getElem?_append] at hd
  split at hd
  · exact .inl hd
  · obtain ⟨hj, hd⟩ := List.getElem?_eq_some_iff.mp hd
    simp only [List.length_singleton] at hj
    exact .inr ⟨by omega, by simpa using hd⟩

/-- The scope has the id that it was made with, or one of its own, and all
that has been bound in it since. -/
structure AsBound (acts : List Act) (i : Nat) (c : Scope) : Prop where
  made : ∃ batchId bindings, (created acts)[i]? = some (batchId, bindings) ∧
    (batchId.truthy = true → c.batchId = batchId) ∧
    c.bindings = bindings.update (boundIn i acts)
  truthy : c.batchId.truthy = true

/-- Only the id and the bindings of a scope matter. -/
theorem AsBound.congr {acts acts' : List Act} {c' : Scope} (h : AsBound acts i c)
    (hcreated : created acts' = created acts) (hbound : boundIn i acts' = boundIn i acts)
    (hid : c'.batchId = c.batchId) (hbindings : c'.bindings = c.bindings) :
    AsBound acts' i c' where
  made := by
    rw [hcreated, hbound, hid, hbindings]
    exact h.made
  truthy := by
    rw [hid]
    exact h.truthy

theorem AsBound.new {ids : IdSource} {batchId : Value} {bindings : Bindings} {now : Int}
    {n batches : Nat} {acts : List Act}
    (hnew : Scope.new ids batchId bindings now n = (c, batches))
    (hunbound : boundIn (created acts).length acts = []) :
    AsBound (.create batchId bindings now :: acts) (created acts).length c := by
  have hcreated : (created (.create batchId bindings now :: acts))[(created acts).length]? =
      some (batchId, bindings) := by simp [created]
  unfold Scope.new at hnew
  split at hnew
  · rename_i htruthy
    cases hnew
    exact ⟨⟨batchId, bindings, hcreated, fun _ => rfl,
      by simp [boundIn, hunbound, Bindings.update]⟩, htruthy⟩
  · rename_i hfalsy
    cases hnew
    exact ⟨⟨batchId, bindings, hcreated, fun htruthy => absurd htruthy hfalsy,
      by simp [boundIn, hunbound, Bindings.update]⟩, ids.truthy_text _⟩

theorem AsBound.bound {acts : List Act} (h : AsBound acts i c) (values : Bindings)
    (tagging : Tagging) : AsBound (.bind i values :: acts) i (c.bind values tagging).1 where
  made := by
    obtain ⟨batchId, bindings, hcreated, hgiven, hbindings⟩ := h.made
    refine ⟨batchId, bindings, hcreated, hgiven, ?_⟩
    simp [boundIn, Scope.bind, hbindings, Bindings.update_append]
  truthy := h.truthy

/-- Every scope has what was bound in it, and nothing has been bound in those
that are not there yet. -/
structure AllAsBound (acts : List Act) (t : Thread) : Prop where
  length : t.scopes.length = (created acts).length
  scopes : ∀ {i c}, t.scopes[i]? = some c → AsBound acts i c
  unbound : ∀ {i}, t.scopes.length ≤ i → boundIn i acts = []

/-- An act that makes no scope, and binds nothing. -/
theorem AllAsBound.kept {acts : List Act} {a : Act} (h : AllAsBound acts t)
    (hc : t.scopes[i]? = some c) {changed : Scope × Tagging}
    (hid : changed.1.batchId = c.batchId) (hbindings : changed.1.bindings = c.bindings)
    (hcreated : created (a :: acts) = created acts)
    (hbound : ∀ j, boundIn j (a :: acts) = boundIn j acts) :
    AllAsBound (a :: acts) (t.put i changed) where
  length := by simp [put, hcreated, h.length]
  scopes {j d} hd := by
    rw [scopes_put hc] at hd
    split at hd
    · rename_i hij
      cases hd
      subst hij
      exact (h.scopes hc).congr hcreated (hbound i) hid hbindings
    · exact (h.scopes hd).congr hcreated (hbound j) rfl rfl
  unbound {j} hj := by
    rw [hbound]
    exact h.unbound (by simpa [put] using hj)

theorem AllAsBound.bound {acts : List Act} (h : AllAsBound acts t) (hc : t.scopes[i]? = some c)
    (values : Bindings) :
    AllAsBound (.bind i values :: acts) (t.put i (c.bind values t.tagging)) where
  length := by simp [put, created, h.length]
  scopes {j d} hd := by
    rw [scopes_put hc] at hd
    split at hd
    · rename_i hij
      cases hd
      subst hij
      exact (h.scopes hc).bound values t.tagging
    · rename_i hij
      exact (h.scopes hd).congr rfl (by simp [boundIn, hij]) rfl rfl
  unbound {j} hj := by
    have hi : i < t.scopes.length := (List.getElem?_eq_some_iff.mp hc).1
    simp only [put, List.length_set] at hj
    have hij : i ≠ j := by omega
    simp [boundIn, hij, h.unbound hj]

theorem AllAsBound.created {acts : List Act} (h : AllAsBound acts t) {batchId : Value}
    {bindings : Bindings} {now : Int} {batches : Nat}
    (hnew : Scope.new t.ids batchId bindings now t.batches = (c, batches)) :
    AllAsBound (.create batchId bindings now :: acts)
      { t with batches, scopes := t.scopes ++ [c] } where
  length := by simp [Thread.created, h.length]
  scopes {j d} hd := by
    rcases scopes_append hd with hd | ⟨hj, rfl⟩
    · obtain ⟨⟨batchId', bindings', hcreated, hmade⟩, htruthy⟩ := h.scopes hd
      refine ⟨⟨batchId', bindings', ?_, hmade⟩, htruthy⟩
      rw [Thread.created, List.getElem?_append_left (List.getElem?_eq_some_iff.mp hcreated).1]
      exact hcreated
    · rw [hj, h.length]
      exact .new hnew (h.unbound (Nat.le_of_eq h.length))
  unbound {j} hj := by
    simp only [List.length_append, List.length_singleton] at hj
    exact h.unbound (by omega)

theorem Run.allAsBound (h : Run history t) : AllAsBound (acts history) t := by
  induction h with
  | start => exact ⟨rfl, nofun, fun _ => rfl⟩
  | step _ hact ih =>
    cases acts_of_act hact with
    | created batchId bindings now hnew => exact ih.created hnew
    | entered hc => exact ih.kept hc rfl rfl rfl fun _ => rfl
    | notEntered | refused =>
      exact ⟨ih.length, fun hc => (ih.scopes hc).congr rfl rfl rfl rfl, ih.unbound⟩
    | left hc => exact ih.kept hc rfl rfl rfl fun _ => rfl
    | bound values hc => exact ih.bound hc values

/-! ## The scopes that the thread is in -/

/-- The scopes that the thread is in, the innermost first, and the tags within
it. Each has a ticket for the tags from before it, down to the outermost tags;
and if bindings are in step, the tags are those of the scope. -/
def Layered (t : Thread) (inStep : Prop) (outermost : Tags) : List Nat → Tags → Prop
  | [], tags => tags = outermost
  | i :: outer, tags => ∃ c ticket, t.scopes[i]? = some c ∧ c.ticket = some ticket ∧
      (inStep → tags = ⟨c.batchId, c.bindings⟩) ∧ Layered t inStep outermost outer ticket.before

/-- Scopes may change if they keep their tickets and, as far as bindings are
still in step, their bindings. -/
theorem Layered.mono {inStep inStep' : Prop} {outermost : Tags} {is : List Nat} {tags : Tags}
    (h : Layered t inStep outermost is tags) (himp : inStep' → inStep)
    (hkept : ∀ i ∈ is, ∀ c, t.scopes[i]? = some c → ∃ c', t'.scopes[i]? = some c' ∧
      c'.ticket = c.ticket ∧ (inStep' → c'.batchId = c.batchId ∧ c'.bindings = c.bindings)) :
    Layered t' inStep' outermost is tags := by
  induction is generalizing tags with
  | nil => exact h
  | cons i outer ih =>
    obtain ⟨c, ticket, hc, hticket, htags, hrest⟩ := h
    obtain ⟨c', hc', hticket', hsame⟩ := hkept i List.mem_cons_self c hc
    refine ⟨c', ticket, hc', hticket'.trans hticket, ?_, ih hrest fun j hj =>
      hkept j (List.mem_cons_of_mem _ hj)⟩
    intro hinStep
    obtain ⟨hid, hbindings⟩ := hsame hinStep
    rw [htags (himp hinStep), hid, hbindings]

/-- A change to a scope that the thread is not in. -/
theorem Layered.put {inStep : Prop} {outermost : Tags} {is : List Nat} {tags : Tags}
    (h : Layered t inStep outermost is tags) (hc : t.scopes[i]? = some c) (hi : i ∉ is)
    (changed : Scope × Tagging) : Layered (t.put i changed) inStep outermost is tags := by
  refine h.mono id fun j hj d hd => ⟨d, ?_, rfl, fun _ => ⟨rfl, rfl⟩⟩
  have hij : i ≠ j := fun hij => hi (hij ▸ hj)
  rw [scopes_put hc, if_neg hij, hd]

theorem Layered.bound {inStep inStep' : Prop} {outermost : Tags} {is : List Nat} {tags : Tags}
    (h : Layered t inStep outermost is tags) (hc : t.scopes[i]? = some c) (values : Bindings)
    (himp : inStep' → inStep) (hinnermost : inStep' → is.head? = some i) (hnodup : is.Nodup) :
    Layered (t.put i (c.bind values t.tagging)) inStep'
      (if is.isEmpty then { outermost with bindings := outermost.bindings.update values }
        else outermost) is { tags with bindings := tags.bindings.update values } := by
  cases is with
  | nil =>
    cases h
    rfl
  | cons k outer =>
    obtain ⟨d, ticket, hd, hticket, htags, hrest⟩ := h
    obtain ⟨hk, -⟩ := List.nodup_cons.mp hnodup
    have hother : Layered (t.put i (c.bind values t.tagging)) inStep' outermost outer
        ticket.before := by
      refine hrest.mono himp fun j hj e he => ?_
      rw [scopes_put hc]
      split
      · -- the scope that is bound is not the innermost, so nothing is in step any more
        rename_i hij
        subst hij
        cases hc.symm.trans he
        refine ⟨_, rfl, rfl, fun hinStep => absurd hj ?_⟩
        cases hinnermost hinStep
        exact hk
      · exact ⟨e, he, rfl, fun _ => ⟨rfl, rfl⟩⟩
    by_cases hik : i = k
    · subst hik
      cases hc.symm.trans hd
      refine ⟨_, ticket, (scopes_put hc _ i).trans (if_pos rfl), hticket, fun hinStep => ?_, hother⟩
      rw [htags (himp hinStep)]
      rfl
    · refine ⟨d, ticket, (scopes_put hc _ k).trans ((if_neg hik).trans hd), hticket, ?_, hother⟩
      intro hinStep
      cases hinnermost hinStep
      exact absurd rfl hik

/-- The scope that is left last is the innermost, and has its ticket. -/
theorem Layered.innermost {inStep : Prop} {outermost : Tags} {is : List Nat} {tags : Tags}
    (h : Layered t inStep outermost is tags) (hi : is.head? = some i) :
    ∃ c ticket, t.scopes[i]? = some c ∧ c.ticket = some ticket ∧
      (inStep → tags = ⟨c.batchId, c.bindings⟩) ∧
      Layered t inStep outermost is.tail ticket.before := by
  cases is with
  | nil => cases hi
  | cons k outer =>
    cases hi
    exact h

/-- The tags of a thread that is in no scope, if it started without any. -/
def tagsOutside (acts : List Act) : Tags := { bindings := Bindings.update [] (boundOutside acts) }

theorem tagsOutside_bind (i : Nat) (values : Bindings) (acts : List Act) :
    tagsOutside (.bind i values :: acts) =
      if (active acts).isEmpty then
        { tagsOutside acts with bindings := (tagsOutside acts).bindings.update values }
      else tagsOutside acts := by
  rw [tagsOutside, boundOutside, Bindings.update_append]
  split <;> rfl

theorem Run.layered (h : Run history t) (hfresh : (origin history t).tagging.tags = {})
    (hnested : Nested (acts history)) :
    Layered t (BindsInnermost (acts history)) (tagsOutside (acts history))
      (active (acts history)) t.tagging.tags := by
  induction h with
  | start => exact hfresh
  | @step history t a outcome h hact ih =>
    cases acts_of_act hact with
    | created batchId bindings now hnew =>
      refine (ih hfresh hnested).mono id fun i hi c hc => ⟨c, ?_, rfl, fun _ => ⟨rfl, rfl⟩⟩
      show (t.scopes ++ _)[i]? = _
      rw [List.getElem?_append_left (List.getElem?_eq_some_iff.mp hc).1, hc]
    | @entered i c hc =>
      obtain ⟨hi, hnested⟩ := hnested
      have hlayered := (ih hfresh hnested).put hc hi (c.enter t.tagging)
      exact ⟨_, _, (scopes_put hc _ i).trans (if_pos rfl), rfl, fun _ => rfl, hlayered⟩
    | @bound i c values hc =>
      show Layered _ _ (tagsOutside (.bind i values :: acts history)) (active (acts history)) _
      rw [tagsOutside_bind]
      exact (ih hfresh hnested).bound hc values And.right And.left (nodup_active hnested)
    | @notEntered i c hc hnone =>
      obtain ⟨d, ticket, hd, hticket, -⟩ := (ih hfresh hnested.2).innermost hnested.1
      cases hc.symm.trans hd
      cases hnone.symm.trans hticket
    | refused => exact absurd rfl (h.owned.not_refused hact)
    | @left i c ticket hc hticket hunspent =>
      obtain ⟨hi, hnested⟩ : (active (acts history)).head? = some i ∧ Nested (acts history) :=
        hnested
      obtain ⟨d, ticket', hd, hticket', -, houter⟩ := (ih hfresh hnested).innermost hi
      cases hc.symm.trans hd
      cases hticket.symm.trans hticket'
      refine houter.put hc ?_ ({ c with ticket := none }, t.tagging.restored ticket)
      have hnodup := nodup_active hnested
      obtain ⟨outer, hactive⟩ := List.head?_eq_some_iff.mp hi
      rw [hactive] at hnodup ⊢
      exact (List.nodup_cons.mp hnodup).1

/-- While a thread nests its scopes and binds only the innermost, its tags are
those of the innermost scope, and it has none outside of all scopes. -/
theorem Run.tags_of_innermost (h : Run history t) (hfresh : (origin history t).tagging.tags = {})
    (hnested : Nested (acts history)) (hbinds : BindsInnermost (acts history)) :
    (active (acts history) = [] → t.tagging.tags.fields = []) ∧
    ∀ i, (active (acts history)).head? = some i → ∃ c batchId bindings,
      t.scopes[i]? = some c ∧ (created (acts history))[i]? = some (batchId, bindings) ∧
      (batchId.truthy = true → c.batchId = batchId) ∧
      c.bindings = bindings.update (boundIn i (acts history)) ∧
      t.tagging.tags.batchId = c.batchId ∧
      t.tagging.tags.fields = Bindings.update [("batch_id", c.batchId)] c.bindings := by
  have hlayered := h.layered hfresh hnested
  refine ⟨fun hnone => ?_, fun i hi => ?_⟩
  · rw [hnone] at hlayered
    rw [show t.tagging.tags = tagsOutside _ from hlayered, tagsOutside,
      boundOutside_of_bindsInnermost hbinds]
    rfl
  · obtain ⟨c, ticket, hc, -, htags, -⟩ := hlayered.innermost hi
    obtain ⟨⟨batchId, bindings, hcreated, hgiven, hbindings⟩, htruthy⟩ := h.allAsBound.scopes hc
    refine ⟨c, batchId, bindings, hc, hcreated, hgiven, hbindings, ?_, ?_⟩
    · rw [htags hbinds]
    · rw [htags hbinds, Tags.fields, if_pos htruthy]

/-- A scope that is entered again, within another, has what was bound in it
the first time. -/
theorem tags_of_scope_entered_again :
    ∃ history t, Run history t ∧ (origin history t).tagging.tags = {} ∧
      acts history = [.bind 0 [("shard", .int 4), ("target", .text "tok2")], .enter 0, .enter 1,
        .leave 0, .bind 0 [("target", .text "tok1")], .enter 0, .create (.text "outer") [] 0,
        .create (.text "inner") [("shard", .int 3)] 0] ∧
      Nested (acts history) ∧ BindsInnermost (acts history) ∧
      t.tagging.tags.fields =
        [("batch_id", .text "inner"), ("shard", .int 4), ("target", .text "tok2")] := by
  obtain ⟨t, ht⟩ : ∃ t, Thread.afterAll ⟨{}, .numbered, 0, []⟩ [.bind 0 [("shard", .int 4),
      ("target", .text "tok2")], .enter 0, .enter 1, .leave 0, .bind 0 [("target", .text "tok1")],
      .enter 0, .create (.text "outer") [] 0, .create (.text "inner") [("shard", .int 3)] 0] =
      some t := ⟨_, rfl⟩
  obtain ⟨history, h, hacts, horigin⟩ := exists_run Tagging.Sound.fresh rfl ht
  have hfresh : (origin history t).tagging.tags = {} := by rw [horigin]
  have hnested : Nested (acts history) := by simp [hacts, Nested, active]
  have hbinds : BindsInnermost (acts history) := by simp [hacts, BindsInnermost, active]
  obtain ⟨-, hinnermost⟩ := Run.tags_of_innermost h hfresh hnested hbinds
  obtain ⟨c, batchId, bindings, hc, -, -, -, -, hfields⟩ := hinnermost 0 (by rw [hacts]; rfl)
  refine ⟨history, t, h, hfresh, hacts, hnested, hbinds, ?_⟩
  cases ht
  cases hc
  exact hfields

/-- A thread that has left all its scopes, one in the other, is left with what
it has bound while in none, and with nothing else. -/
theorem Run.tags_after_all_scopes (h : Run history t)
    (hfresh : (origin history t).tagging.tags = {}) (hnested : Nested (acts history))
    (hleft : active (acts history) = []) :
    t.tagging.tags = { bindings := Bindings.update [] (boundOutside (acts history)) } ∧
    (t.tagging.tags.fields = [] ↔ boundOutside (acts history) = []) := by
  have hlayered := h.layered hfresh hnested
  rw [hleft] at hlayered
  have htags : t.tagging.tags = tagsOutside (acts history) := hlayered
  refine ⟨htags, ?_⟩
  rw [htags, tagsOutside, Tags.fields]
  simp [Value.truthy, Bindings.update_eq_nil_iff]

/-- An inner scope is left with what was bound in the outer one. -/
theorem tags_after_binding_outer :
    ∃ history t, Run history t ∧ (origin history t).tagging.tags = {} ∧
      acts history = [.leave 0, .leave 1, .bind 0 [("target", .text "tok1")], .enter 1, .enter 0,
        .create (.text "inner") [] 0, .create (.text "outer") [] 0] ∧
      Nested (acts history) ∧ active (acts history) = [] ∧ t.tagging.tags.fields = [] := by
  obtain ⟨t, ht⟩ : ∃ t, Thread.afterAll ⟨{}, .numbered, 0, []⟩ [.leave 0, .leave 1,
      .bind 0 [("target", .text "tok1")], .enter 1, .enter 0, .create (.text "inner") [] 0,
      .create (.text "outer") [] 0] = some t := ⟨_, rfl⟩
  obtain ⟨history, h, hacts, horigin⟩ := exists_run Tagging.Sound.fresh rfl ht
  have hfresh : (origin history t).tagging.tags = {} := by rw [horigin]
  have hnested : Nested (acts history) := by simp [hacts, Nested, active]
  have hleft : active (acts history) = [] := by rw [hacts]; rfl
  obtain ⟨-, hnone⟩ := Run.tags_after_all_scopes h hfresh hnested hleft
  exact ⟨history, t, h, hfresh, hacts, hnested, hleft, hnone.mpr (by rw [hacts]; rfl)⟩

/-- What is bound in a scope that has been left already stays. -/
theorem not_bindings_end_with_scopes :
    ¬ ∀ history t, Run history t → (origin history t).tagging.tags = {} →
      Nested (acts history) → active (acts history) = [] → t.tagging.tags.fields = [] := by
  intro hend
  obtain ⟨t, ht⟩ : ∃ t, Thread.afterAll ⟨{}, .numbered, 0, []⟩
      [.bind 0 [("target", .text "tok1")], .leave 0,
      .enter 0, .create (.text "b1") [] 0] = some t := ⟨_, rfl⟩
  obtain ⟨history, h, hacts, horigin⟩ := exists_run Tagging.Sound.fresh rfl ht
  have hfields := hend history t h (by rw [horigin]) (by simp [hacts, Nested, active])
    (by rw [hacts]; rfl)
  cases ht
  cases hfields

end Thread
end PushRelay
