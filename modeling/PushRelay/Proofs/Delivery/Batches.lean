import PushRelay.Proofs.Delivery.Lockstep
import PushRelay.Proofs.Delivery.Restoration

/-!
# Sending in batches

Who has more targets than are allowed sends in batches. As every send brings
the tags back and none leaves anything behind but the state of the transport
and the time, it makes no difference to the targets: two sends one after the
other come to what one send to all targets comes to, as far as its first
failure.
-/

namespace PushRelay.Delivery

/-! ## The same transport -/

/-- The clock and the transport are in the same state. -/
structure Session.SameTransport (s t : Session) : Prop where
  clock : s.clock = t.clock
  closed : s.closed = t.closed
  requests : s.requests = t.requests

namespace Session.SameTransport

variable {s t u : Session}

theorem refl (s : Session) : s.SameTransport s := ⟨rfl, rfl, rfl⟩

theorem symm (h : s.SameTransport t) : t.SameTransport s :=
  ⟨h.clock.symm, h.closed.symm, h.requests.symm⟩

theorem trans (h : s.SameTransport t) (h' : t.SameTransport u) : s.SameTransport u :=
  ⟨h.clock.trans h'.clock, h.closed.trans h'.closed, h.requests.trans h'.requests⟩

/-- A line that is logged changes neither. -/
theorem log (s : Session) (env : Surroundings) (site : Log.Site) (level : Log.Level)
    (message : String) (attributes : List (String × Value)) :
    (s.log env site level message attributes).SameTransport s := by
  unfold Session.log
  dsimp only
  split <;> exact ⟨rfl, rfl, rfl⟩

/-- Neither does entering or leaving a scope. -/
theorem opened (s : Session) (env : Surroundings) (bindings : Bindings) :
    (s.opened env bindings).SameTransport s :=
  ⟨rfl, rfl, rfl⟩

theorem left (s t : Session) : (s.left t).SameTransport t := ⟨rfl, rfl, rfl⟩

end Session.SameTransport

/-- Deliveries with one token go on alike where the transport is the same. -/
theorem lockstep_sameTransport (c : Client) (env : Surroundings) (token : BearerToken) :
    Lockstep c env token token Session.SameTransport where
  authorized := .refl c token
  clock h := h.clock
  count h := congrArg List.length h.requests
  closed h := h.closed
  bind _ h := ⟨h.clock, h.closed, h.requests⟩
  log site level message attributes h :=
    ((Session.SameTransport.log _ env site level message attributes).trans h).trans
      (Session.SameTransport.log _ env site level message attributes).symm
  posted body ha ha' h := by
    rw [ha] at ha'
    cases ha'
    unfold Client.posted
    rw [h.clock, h.requests]
    exact ⟨rfl, h.closed, rfl⟩

namespace Client

variable {c : Client} {env : Surroundings} {message : Option Message} {m : Message}
  {credentials : Value} {s : Session} {token : BearerToken} {ts : List Value}
  {n : Notification}

/-! ## From sends to traversals -/

theorem fetch_sameTransport (c : Client) (env : Surroundings) (credentials : Value)
    (s : Session) : (c.fetch env credentials s).2.SameTransport s := by
  unfold fetch
  split
  · dsimp only
    split <;> exact ⟨rfl, rfl, rfl⟩
  · dsimp only
    split
    · exact ⟨rfl, rfl, rfl⟩
    · exact (Session.SameTransport.log ..).trans ⟨rfl, rfl, rfl⟩

theorem concluded_sameTransport {α : Type} (env : Surroundings)
    (line : α → Session → Remark) (r : Except Failure α × Session) :
    (concluded env line r).2.SameTransport r.2 := by
  rcases r with ⟨_ | _, t⟩
  · exact .refl t
  · exact .log ..

section

variable {α : Type}
  {run : BearerToken → List WireMessage → Session → Except Failure α × Session}
  {line : Scope → α → Session → Remark}

/-- A send does what its run over the targets does, as if that began where the
send begins. -/
theorem overTargets_agrees (hv : Message.validate message c.config = .ok m)
    (hf : (c.fetch env credentials s).1 = .ok token) (hs : s.tagging.Sound)
    (hts : m.targets.items = .ok ts)
    (hn : Message.notificationOf m.notification = .ok n)
    (hgrown : ∀ t : Session, ∃ made, t.Grown made (run token (ts.map (m.wireFor n)) t).2)
    (hagree : ∀ {s t : Session}, s.SameTransport t →
      Agree Session.SameTransport (run token (ts.map (m.wireFor n)) s)
        (run token (ts.map (m.wireFor n)) t)) :
    Agree Session.SameTransport (c.overTargets env message credentials run line s)
      (run token (ts.map (m.wireFor n)) s) := by
  have hfetch : c.fetch env credentials s = (.ok token, (c.fetch env credentials s).2) :=
    Prod.ext hf rfl
  have hsound := (fetch_asked c env credentials s).sound hs
  have hbegun : (c.start env credentials s ts.length).SameTransport s :=
    (Session.SameTransport.opened ..).trans (fetch_sameTransport c env credentials s)
  obtain ⟨hresult, hafter⟩ := hagree hbegun
  -- leaving the scope brings the result out as it is
  obtain ⟨made, hmade⟩ := hgrown (c.start env credentials s ts.length)
  have hdone := concluded_grown env
    (line ((c.fetch env credentials s).2.scopeOf env (targetCount ts.length))) hmade
  have hcount := (Message.targets_of_validated hv hts).1
  unfold overTargets
  rw [prepare_of_token hv hfetch]
  simp only [withTargets, hcount, Message.translateAll_eq_map hts hn]
  show Agree _ ((c.fetch env credentials s).2.within env (targetCount ts.length) _) _
  rw [Session.within_of_grown hsound rfl hdone]
  refine ⟨(concluded_fst ..).trans hresult, ?_⟩
  exact ((Session.SameTransport.left ..).trans (concluded_sameTransport ..)).trans hafter

end

theorem send_agrees (hv : Message.validate message c.config = .ok m)
    (hf : (c.fetch env credentials s).1 = .ok token) (hs : s.tagging.Sound)
    (hts : m.targets.items = .ok ts)
    (hn : Message.notificationOf m.notification = .ok n) :
    Agree Session.SameTransport (c.send env message credentials s)
      (traverse (c.deliver env token) (ts.map (m.wireFor n)) s) := by
  rw [send_eq_overTargets]
  exact overTargets_agrees hv hf hs hts hn
    (fun t => (deliveries_make c env token _ t).grown)
    (fun hst => (lockstep_sameTransport c env token).deliveries hst _)

theorem sendEach_agrees (hv : Message.validate message c.config = .ok m)
    (hf : (c.fetch env credentials s).1 = .ok token) (hs : s.tagging.Sound)
    (hts : m.targets.items = .ok ts)
    (hn : Message.notificationOf m.notification = .ok n) :
    Agree Session.SameTransport (c.sendEach env message credentials s)
      (traverse (c.attempt env token) (ts.map (m.wireFor n)) s) := by
  rw [sendEach_eq_overTargets]
  exact overTargets_agrees hv hf hs hts hn
    (fun t => (attempts_make c env token _ t).grown)
    (fun hst => (lockstep_sameTransport c env token).attempts hst _)

/-! ## Two sends instead of one -/

/-- What sending to some targets and then sending to others comes to. -/
def inBatches {α : Type}
    (sending : Option Message → Session → Except Failure (List α) × Session)
    (m : Message) (as bs : List Value) (s : Session) :
    Except Failure (List α) × Except Failure (List α) × Session :=
  let (first, s) := sending (some (m.addressedTo as)) s
  let (second, s) := sending (some (m.addressedTo bs)) s
  (first, second, s)

/-- Sending to all targets at once fails within the first batch, or it comes to
what the batches come to. -/
def Splits {α : Type}
    (sending : Option Message → Session → Except Failure (List α) × Session)
    (m : Message) (as bs : List Value) (s : Session) : Prop :=
  (∃ failure, (sending (some m) s).1 = .error failure ∧
    (sending (some m) s).2.requests.length ≤ s.requests.length + as.length) ∨
  ∃ first second t, inBatches sending m as bs s = (.ok first, second, t) ∧
    (sending (some m) s).1 = second.map (first ++ ·) ∧
    (sending (some m) s).2.SameTransport t

section

variable {α : Type} {step : WireMessage → Session → Except Failure α × Session}
  {sending : Option Message → Session → Except Failure (List α) × Session}
  {as bs : List Value} {kind : Http.Request → Prop}

theorem splits_of_traverse
    (hover : ∀ {m : Message} {ts : List Value} {n : Notification} {s : Session},
      Message.validate (some m) c.config = .ok m → s.tagging.Sound →
      m.targets.items = .ok ts → Message.notificationOf m.notification = .ok n →
      Agree Session.SameTransport (sending (some m) s)
        (traverse step (ts.map (m.wireFor n)) s))
    (hsound : ∀ {message : Option Message} {s : Session}, s.tagging.Sound →
      (sending message s).2.tagging.Sound)
    (hagree : ∀ {s t : Session} (wires : List WireMessage), s.SameTransport t →
      Agree Session.SameTransport (traverse step wires s) (traverse step wires t))
    (hmakes : ∀ (wires : List WireMessage) (s : Session),
      s.Makes wires.length kind (traverse step wires s).2)
    (hv : Message.validate (some m) c.config = .ok m)
    (htargets : m.targets = .list (as ++ bs)) (has : as ≠ []) (hbs : bs ≠ [])
    (hn : Message.notificationOf m.notification = .ok n) (hs : s.tagging.Sound) :
    Splits sending m as bs s := by
  have hall : m.targets.items = .ok (as ++ bs) := by
    rw [htargets]
    rfl
  obtain ⟨whole, u, u', hwhole, hwires, hu⟩ := (hover hv hs hall hn).exists
  -- the first batch goes through its targets from the same session
  have hfirst := hover (Message.validate_addressedTo hv htargets has (by simp)) hs rfl hn
  obtain ⟨first, v, v', hfirst, hbefore, hvv⟩ := hfirst.exists
  have hbefore : traverse step (as.map (m.wireFor n)) s = (first, v') := hbefore
  have hleft : v.tagging.Sound := by
    have hdone : (sending (some (m.addressedTo as)) s).2.tagging.Sound := hsound hs
    rw [hfirst] at hdone
    exact hdone
  -- the second goes through its own as if there had been one traversal
  have hsecond := hover (Message.validate_addressedTo hv htargets hbs (by simp)) hleft rfl hn
  obtain ⟨second, w, w', hsecond, hafter, hww⟩ :=
    (hsecond.trans (hagree (bs.map (m.wireFor n)) hvv) .trans).exists
  rw [List.map_append, traverse_append, hbefore] at hwires
  unfold Splits
  rw [hwhole]
  cases first with
  | error failure =>
    cases hwires
    -- there was at most one request for each target of the first batch
    obtain ⟨made, hgrown, hmost, -⟩ := hmakes (as.map (m.wireFor n)) s
    rw [hbefore] at hgrown
    refine .inl ⟨failure, rfl, ?_⟩
    rw [hu.requests, hgrown.requests, List.length_append]
    rw [List.length_map] at hmost
    omega
  | ok first =>
    simp only [hafter] at hwires
    refine .inr ⟨first, second, w, ?_, ?_⟩
    · simp only [inBatches, hfirst, hsecond]
    · cases second with
      | error failure =>
        cases hwires
        exact ⟨rfl, hu.trans hww.symm⟩
      | ok second =>
        cases hwires
        exact ⟨rfl, hu.trans hww.symm⟩

theorem Splits.of_ok {whole : List α} (h : Splits sending m as bs s)
    (hok : (sending (some m) s).1 = .ok whole) :
    ∃ first second t, inBatches sending m as bs s = (.ok first, .ok second, t) ∧
      first ++ second = whole ∧ (sending (some m) s).2.SameTransport t := by
  rcases h with ⟨failure, hfails, -⟩ | ⟨first, second, t, hbatches, hwhole, htransport⟩
  · rw [hok] at hfails
    cases hfails
  · rw [hok] at hwhole
    cases second with
    | error failure => cases hwhole
    | ok second =>
      cases hwhole
      exact ⟨first, second, t, hbatches, rfl, htransport⟩

/-- What fails when more requests have been made than there are targets in the
first batch fails in the second. -/
theorem Splits.of_late_error {failure : Failure} (h : Splits sending m as bs s)
    (herror : (sending (some m) s).1 = .error failure)
    (hlate : s.requests.length + as.length < (sending (some m) s).2.requests.length) :
    ∃ first t, inBatches sending m as bs s = (.ok first, .error failure, t) ∧
      (sending (some m) s).2.SameTransport t := by
  rcases h with ⟨_, -, hearly⟩ | ⟨first, second, t, hbatches, hwhole, htransport⟩
  · omega
  · rw [herror] at hwhole
    cases second with
    | ok second => cases hwhole
    | error failure =>
      cases hwhole
      exact ⟨first, t, hbatches, htransport⟩

end

section

variable {as bs : List Value} (hv : Message.validate (some m) c.config = .ok m)
  (htargets : m.targets = .list (as ++ bs)) (has : as ≠ []) (hbs : bs ≠ [])
  (hf : ∀ s, (c.fetch env credentials s).1 = .ok token) (hs : s.tagging.Sound)

include hv htargets has hbs hf hs

theorem send_splits
    (hrun : ∀ failure, (c.send env (some m) credentials s).1 = .error failure →
      ∃ e, failure = .relay e) :
    Splits (c.send env · credentials) m as bs s := by
  obtain ⟨n, hn⟩ := notification_of_cases hv (hf s) (send_cases ..) hrun
  exact splits_of_traverse
    (fun hv hs hts hn => send_agrees hv (hf _) hs hts hn) (fun hs => send_sound hs)
    (fun wires hst => (lockstep_sameTransport c env token).deliveries hst wires)
    (deliveries_make c env token) hv htargets has hbs hn hs

theorem sendEach_splits
    (hrun : ∀ failure, (c.sendEach env (some m) credentials s).1 = .error failure →
      ∃ e, failure = .relay e) :
    Splits (c.sendEach env · credentials) m as bs s := by
  obtain ⟨n, hn⟩ := notification_of_cases hv (hf s) (sendEach_cases ..) hrun
  exact splits_of_traverse
    (fun hv hs hts hn => sendEach_agrees hv (hf _) hs hts hn) (fun hs => sendEach_sound hs)
    (fun wires hst => (lockstep_sameTransport c env token).attempts hst wires)
    (attempts_make c env token) hv htargets has hbs hn hs

end

/-- What comes to outcomes or results in one send comes to the same in two,
and what fails for a target of the second part fails in the second send, with
the same error. That it is a target of the second part shows in the number of
requests that were made. The clock and the requests are the same as well. -/
theorem batches_compose (env : Surroundings) {as bs : List Value}
    (hv : Message.validate (some m) c.config = .ok m)
    (htargets : m.targets = .list (as ++ bs)) (has : as ≠ []) (hbs : bs ≠ [])
    (hf : ∀ s, (c.fetch env credentials s).1 = .ok token) (hs : s.tagging.Sound) :
    (∀ outcomes, (c.sendEach env (some m) credentials s).1 = .ok outcomes →
      ∃ first second t,
        inBatches (c.sendEach env · credentials) m as bs s =
          (.ok first, .ok second, t) ∧
        first ++ second = outcomes ∧
        (c.sendEach env (some m) credentials s).2.SameTransport t) ∧
    (∀ results, (c.send env (some m) credentials s).1 = .ok results →
      ∃ first second t,
        inBatches (c.send env · credentials) m as bs s = (.ok first, .ok second, t) ∧
        first ++ second = results ∧
        (c.send env (some m) credentials s).2.SameTransport t) ∧
    ∀ e, (c.send env (some m) credentials s).1 = .error (.relay e) →
      s.requests.length + as.length <
        (c.send env (some m) credentials s).2.requests.length →
      ∃ first t,
        inBatches (c.send env · credentials) m as bs s =
          (.ok first, .error (.relay e), t) ∧
        (c.send env (some m) credentials s).2.SameTransport t := by
  refine ⟨?_, ?_, ?_⟩
  · intro outcomes hok
    refine (sendEach_splits hv htargets has hbs hf hs fun failure hfails => ?_).of_ok hok
    rw [hok] at hfails
    cases hfails
  · intro results hok
    refine (send_splits hv htargets has hbs hf hs fun failure hfails => ?_).of_ok hok
    rw [hok] at hfails
    cases hfails
  · intro e herror hlate
    have hsplits := send_splits hv htargets has hbs hf hs fun failure hfails => by
      rw [herror] at hfails
      cases hfails
      exact ⟨e, rfl⟩
    exact hsplits.of_late_error herror hlate

/-- The error of the relay that something ended with, if it did. -/
def relayError? {α : Type} : Except Failure α → Option RelayError
  | .ok _ => none
  | .error failure =>
    match failure with
    | .relay e => some e
    | _ => none

theorem eq_error_of_relayError? {α : Type} {result : Except Failure α} {e : RelayError}
    (h : relayError? result = some e) : result = .error (.relay e) := by
  unfold relayError? at h
  split at h
  · cases h
  · split at h
    · cases h
      rfl
    · cases h

/-- A delivery to the first target, and a rejection for the second. -/
def halfway : Surroundings := answering [sampleDelivery, sampleRejection]

theorem sampleMessage_halfway :
    (∃ outcomes,
      ((sample {}).sendEach halfway (some sampleMessage) .null freshSession).1 =
        .ok outcomes) ∧
    ∃ e, ((sample {}).send halfway (some sampleMessage) .null freshSession).1 =
      .error (.relay e) := by
  have hok : ((sample {}).sendEach halfway (some sampleMessage) .null
      freshSession).1.toOption.isSome = true := by
    decide +kernel
  have herror : (relayError? ((sample {}).send halfway (some sampleMessage) .null
      freshSession).1).isSome = true := by
    decide +kernel
  obtain ⟨outcomes, houtcomes⟩ := Option.isSome_iff_exists.mp hok
  obtain ⟨e, he⟩ := Option.isSome_iff_exists.mp herror
  exact ⟨⟨outcomes, toOption_eq_some_iff.mp houtcomes⟩, e, eq_error_of_relayError? he⟩

theorem batches_of_one_target :
    (∃ outcomes first second t,
      ((sample {}).sendEach halfway (some sampleMessage) .null freshSession).1 =
        .ok outcomes ∧
      inBatches ((sample {}).sendEach halfway · .null) sampleMessage [.text "first"]
        [.text "second"] freshSession = (.ok first, .ok second, t) ∧
      first ++ second = outcomes) ∧
    ∃ e first t,
      ((sample {}).send halfway (some sampleMessage) .null freshSession).1 =
        .error (.relay e) ∧
      inBatches ((sample {}).send halfway · .null) sampleMessage [.text "first"]
        [.text "second"] freshSession = (.ok first, .error (.relay e), t) := by
  have hsound : freshSession.tagging.Sound := by
    intro n hn
    cases hn
  have htargets : sampleMessage.targets = .list ([.text "first"] ++ [.text "second"]) := rfl
  have htoken : ∀ s, ((sample {}).fetch halfway .null s).1 = .ok sampleToken := fun _ => rfl
  obtain ⟨heach, -, hall⟩ := batches_compose halfway rfl htargets (List.cons_ne_nil _ _)
    (List.cons_ne_nil _ _) htoken hsound
  obtain ⟨⟨outcomes, hok⟩, e, herror⟩ := sampleMessage_halfway
  obtain ⟨first, second, t, hbatches, happend, -⟩ := heach outcomes hok
  obtain ⟨first', t', hbatches', -⟩ := hall e herror (by decide +kernel)
  exact ⟨⟨outcomes, first, second, t, hok, hbatches, happend⟩,
    e, first', t', herror, hbatches'⟩

end Client
end PushRelay.Delivery
