import PushRelay.Scope

/-!
# Tickets

Which tickets are handed out and which are given back. A ticket that has been
given back was handed out before, so the next one is always good; this is what
lets every scope be left that has been entered last.
-/

namespace PushRelay.Tagging

/-- No ticket is given back before it is handed out. -/
def Sound (t : Tagging) : Prop := ∀ n ∈ t.spent, n < t.issued

theorem Sound.fresh : Sound {} := by
  intro n hn
  simp at hn

theorem Sound.next_unspent {t : Tagging} (h : t.Sound) : t.issued ∉ t.spent := by
  intro hmem
  have := h t.issued hmem
  omega

theorem Sound.set {t : Tagging} (h : t.Sound) (tags : Tags) : (t.set tags).2.Sound := by
  intro n hn
  have : n < t.issued := h n hn
  show n < t.issued + 1
  omega

theorem Sound.bind {t : Tagging} (h : t.Sound) (values : Bindings) :
    (t.bind values).Sound := h

theorem Sound.restore {t t' : Tagging} (h : t.Sound) {ticket : Ticket}
    (hticket : ticket.number < t.issued) (ht : t.restore ticket = .ok t') :
    t'.Sound := by
  unfold Tagging.restore at ht
  split at ht
  · cases ht
  · cases ht
    intro n hn
    rcases List.mem_cons.mp hn with rfl | hn
    · exact hticket
    · exact h n hn

/-- The tags, and which tickets are out, once a ticket has been given back. -/
def restored (t : Tagging) (ticket : Ticket) : Tagging :=
  { t with tags := ticket.before, spent := ticket.number :: t.spent }

theorem restore_of_unspent {t : Tagging} {ticket : Ticket} (h : ticket.number ∉ t.spent) :
    t.restore ticket = .ok (t.restored ticket) := if_neg h

theorem restore_of_spent {t : Tagging} {ticket : Ticket} (h : ticket.number ∈ t.spent) :
    t.restore ticket = .error .spent := if_pos h

end PushRelay.Tagging
