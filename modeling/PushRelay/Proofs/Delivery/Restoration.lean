import PushRelay.Proofs.Delivery.Preparation
import PushRelay.Proofs.Delivery.Setup

/-!
# Tags after a send

A send sets the tags for its own scope and binds every target in turn. Before
the scope it does not touch them, and the scope is left on every way out of
it, so that whoever sends finds the tags as they were.
-/

namespace PushRelay.Delivery

@[simp] theorem Session.log_tagging (s : Session) (env : Surroundings) (site : Log.Site)
    (level : Log.Level) (message : String) (attributes : List (String × Value)) :
    (s.log env site level message attributes).tagging = s.tagging := by
  unfold Session.log
  dsimp only
  split <;> rfl

/-- Leaving a scope brings the tags back, whatever was bound inside. -/
theorem Session.within_tags {α : Type} {s : Session} {env : Surroundings} {bindings : Bindings}
    {body : Scope → Session → Except Failure α × Session} {made : List Http.Request}
    (hs : s.tagging.Sound)
    (hgrown : (s.opened env bindings).Grown made
      (body (s.scopeOf env bindings) (s.opened env bindings)).2) :
    (s.within env bindings body).2.tagging.tags = s.tagging.tags := by
  rw [Session.within_of_grown hs rfl hgrown]
  rfl

namespace Client

variable {c : Client} {env : Surroundings} {message : Option Message}
  {credentials : Value} {s : Session}

/-! ## Before the scope -/

@[simp] theorem fetch_tagging (c : Client) (env : Surroundings) (credentials : Value)
    (s : Session) : (c.fetch env credentials s).2.tagging = s.tagging := by
  unfold fetch
  split
  · dsimp only
    split <;> rfl
  · dsimp only
    split
    · rfl
    · rw [Session.log_tagging]

@[simp] theorem prepare_tagging (c : Client) (env : Surroundings) (message : Option Message)
    (credentials : Value) (s : Session) :
    (c.prepare env message credentials s).2.tagging = s.tagging := by
  rw [prepare_session]
  split
  · exact fetch_tagging c env credentials s
  · rfl

/-! ## Within the scope -/

theorem withTargets_tags {α : Type} {m : Message}
    {body : List WireMessage → Scope → Session → Except Failure α × Session}
    (hs : s.tagging.Sound)
    (hbody : ∀ wires scope (t : Session), ∃ made, t.Grown made (body wires scope t).2) :
    (withTargets env m s body).2.tagging.tags = s.tagging.tags := by
  unfold withTargets
  split
  · rfl
  · rename_i count hcount
    cases hwires : m.translateAll with
    | error e => exact Session.within_tags hs (.refl _)
    | ok wires =>
      obtain ⟨made, hmade⟩ := hbody wires (s.scopeOf env (targetCount count))
        (s.opened env (targetCount count))
      exact Session.within_tags hs hmade

theorem overTargets_tags {α : Type}
    {run : BearerToken → List WireMessage → Session → Except Failure α × Session}
    {line : Scope → α → Session → Remark} (hs : s.tagging.Sound)
    (hrun : ∀ token wires (t : Session), ∃ made, t.Grown made (run token wires t).2) :
    (c.overTargets env message credentials run line s).2.tagging.tags = s.tagging.tags := by
  have hprepared := prepare_tagging c env message credentials s
  unfold overTargets
  split
  · rename_i hprepare
    rw [hprepare] at hprepared
    exact congrArg Tagging.tags hprepared
  · rename_i m token t hprepare
    rw [hprepare] at hprepared
    have ht : t.tagging = s.tagging := hprepared
    have hsound : t.tagging.Sound := ht ▸ hs
    rw [withTargets_tags hsound, ht]
    intro wires scope u
    obtain ⟨made, hmade⟩ := hrun token wires u
    exact ⟨made, concluded_grown env (line scope) hmade⟩

/-! ## Sends -/

theorem send_tags (hs : s.tagging.Sound) :
    (c.send env message credentials s).2.tagging.tags = s.tagging.tags := by
  rw [send_eq_overTargets]
  exact overTargets_tags hs fun token wires t => (deliveries_make c env token wires t).grown

theorem sendEach_tags (hs : s.tagging.Sound) :
    (c.sendEach env message credentials s).2.tagging.tags = s.tagging.tags := by
  rw [sendEach_eq_overTargets]
  exact overTargets_tags hs fun token wires t => (attempts_make c env token wires t).grown

theorem sendFirst_session (c : Client) (env : Surroundings) (message : Option Message)
    (credentials : Value) (s : Session) :
    (c.sendFirst env message credentials s).2 = (c.send env message credentials s).2 := by
  unfold sendFirst
  rcases c.send env message credentials s with ⟨_ | _ | _, _⟩ <;> rfl

/-- Whatever becomes of a send, the tags are afterwards what they were before,
and the next send finds the tickets in order again. -/
theorem tags_after_sending (c : Client) (env : Surroundings) (message : Option Message)
    (credentials : Value) {s : Session} (hs : s.tagging.Sound) :
    ((c.send env message credentials s).2.tagging.tags = s.tagging.tags ∧
        (c.send env message credentials s).2.tagging.Sound) ∧
      ((c.sendFirst env message credentials s).2.tagging.tags = s.tagging.tags ∧
        (c.sendFirst env message credentials s).2.tagging.Sound) ∧
      ((c.sendEach env message credentials s).2.tagging.tags = s.tagging.tags ∧
        (c.sendEach env message credentials s).2.tagging.Sound) := by
  rw [sendFirst_session]
  exact ⟨⟨send_tags hs, send_sound hs⟩, ⟨send_tags hs, send_sound hs⟩,
    ⟨sendEach_tags hs, sendEach_sound hs⟩⟩

/-- A session within a scope of the application's. -/
def taggedSession : Session where
  clock := 0
  tagging := { tags := ⟨.text "nightly", [("shard", .int 3)]⟩, issued := 1 }

theorem tags_after_unreadable_rejection :
    ((sample {}).send (answering [unreadableRejection]) (some sampleMessage) .null
        taggedSession).1 = .error (.body (.charset .rotated)) ∧
      ((sample {}).send (answering [unreadableRejection]) (some sampleMessage) .null
        taggedSession).2.tagging.tags = ⟨.text "nightly", [("shard", .int 3)]⟩ := by
  have hsound : taggedSession.tagging.Sound := by
    intro n hn
    cases hn
  exact ⟨rfl, (tags_after_sending _ _ _ _ hsound).1.1⟩

end Client
end PushRelay.Delivery
