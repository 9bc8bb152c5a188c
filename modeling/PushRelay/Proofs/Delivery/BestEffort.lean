import PushRelay.Proofs.Delivery.InOrder
import PushRelay.Proofs.Delivery.Refusal
import PushRelay.Proofs.Message.Declared

/-!
# Best effort

A best-effort send of a well-typed message loses no outcome: once it has a
token it makes one request for each target and records one outcome for each,
and neither way of sending ends with an error that is not the relay's. That
holds exactly as long as the host can be named in a request and every reply
can be read; one that cannot be read ends the whole batch.
-/

namespace PushRelay.Delivery

/-- The outcome says of the reply whether it is a delivery, and what it is if
it is none. -/
def Reply.RecordedAs (reply : Reply) (o : TargetOutcome) : Prop :=
  o.success = .bool reply.delivered?.isSome ∧
    (reply.delivered? = none →
      match reply with
      | .response r =>
        o.errorCode = .text "PROTOCOL_ERROR" ∧ o.statusCode = .int r.status
      | .failed _ => o.errorCode = .text "TRANSPORT_ERROR" ∧ o.statusCode = .null)

theorem Reply.RecordedAs.of_delivered {reply : Reply} {o : TargetOutcome}
    {result : DeliveryResult} {v : Value} (hv : reply.delivered? = some v)
    (ho : o.Delivered result) :
    reply.RecordedAs o := by
  refine ⟨?_, fun hnone => ?_⟩
  · rw [ho.success, hv]
    rfl
  · rw [hv] at hnone
    cases hnone

theorem Reply.RecordedAs.of_reports {reply : Reply} {o : TargetOutcome} {target : Value}
    {e : RelayError} (hnone : reply.delivered? = none)
    (hreports : reply.Reports target e) (ho : o.Failed target e) :
    reply.RecordedAs o := by
  refine ⟨?_, fun _ => ?_⟩
  · rw [ho.success, hnone]
    rfl
  · cases reply with
    | response r =>
      obtain ⟨message, body, -, rfl⟩ := hreports
      exact ⟨ho.errorCode, ho.statusCode⟩
    | failed raised =>
      obtain ⟨message, rfl⟩ := hreports
      exact ⟨ho.errorCode, ho.statusCode⟩

namespace Client

variable {c : Client} {env : Surroundings} {message : Option Message}
  {credentials : Value} {s t : Session} {m : Message} {token : BearerToken}
  {wires : List WireMessage} {authorization : String}

/-! ## Attempts of one send -/

/-- Every reply that can be read is recorded. -/
theorem attempt_accepts {wire : WireMessage}
    (ha : c.authorization token = .ok authorization)
    (hbody : wire.encode = .ok wire.body) :
    Accepts env (c.attempt env token wire) (fun r => r.Legible ∧ r.FromTransport)
      (c.request authorization wire.body)
      (fun r o => o.target = wire.token ∧ r.RecordedAs o) := by
  rintro s hopen ⟨hlegible, htransport⟩
  cases hdelivered : (env.reply s 0).delivered? with
  | some v =>
    obtain ⟨t, hrun, hgrown⟩ :=
      deliver_of_judge_ok ha hopen hbody (judge_delivered hdelivered)
    obtain ⟨o, hattempt, ho⟩ := attempt_of_delivered hrun rfl
    exact ⟨o, t, hattempt, hgrown, ho.target, .of_delivered hdelivered ho⟩
  | none =>
    obtain ⟨e, hjudge, hreports⟩ :=
      judge_undelivered c wire.token hlegible htransport hdelivered
    obtain ⟨t, hrun, hgrown⟩ := deliver_of_judge_error ha hopen hbody hjudge
    have hrecorded : recorded? (.relay e) = some e :=
      recorded?_eq_some_iff.mpr ⟨rfl, hreports.code_eq⟩
    obtain ⟨o, u, hattempt, htu, ho⟩ := attempt_of_recorded hrun hrecorded
    exact ⟨o, u, hattempt, hgrown.trans htu, ho.target,
      .of_reports hdelivered hreports ho⟩

section

variable (hreach : c.Reaches env message credentials s m token wires t)
  (hopen : s.closed = false) (ha : c.authorization token = .ok authorization)
  (hbodies : ∀ w ∈ wires, w.encode = .ok w.body)

include hreach hopen ha hbodies

theorem sendEach_of_all_legible
    (hgood : ∀ i < wires.length,
      (env.reply s i).Legible ∧ (env.reply s i).FromTransport) :
    ∃ outcomes, (c.sendEach env message credentials s).1 = .ok outcomes ∧
      outcomes.length = wires.length ∧
      (∀ i w, wires[i]? = some w →
        ∃ o, outcomes[i]? = some o ∧ o.target = w.token ∧
          (env.reply s i).RecordedAs o) ∧
      (c.sendEach env message credentials s).2.requests =
        s.requests ++ wires.map fun w => c.request authorization w.body := by
  simp only [← hreach.reply] at hgood ⊢
  obtain ⟨outcomes, u, hrun, hgrown, hlength, houtcomes⟩ := traverse_of_good
    (fun w hw => attempt_accepts ha (hbodies w hw)) (hreach.closed.trans hopen) hgood
  obtain ⟨hresult, hrequests, -⟩ := sendEach_of_reaches hreach hrun hgrown
  exact ⟨outcomes, hresult, hlength, houtcomes, hrequests⟩

/-- The first reply that cannot be read ends the batch. -/
theorem sendEach_of_first_illegible {k : Nat} (hk : k < wires.length)
    (hgood : ∀ i < k, (env.reply s i).Legible ∧ (env.reply s i).FromTransport)
    (hillegible : ¬ (env.reply s k).Legible) :
    ∃ failure, (c.sendEach env message credentials s).1 = .error failure ∧
      ∀ e, failure ≠ .relay e := by
  simp only [← hreach.reply] at hgood hillegible
  obtain ⟨failure, hjudge, hforeign⟩ := judge_illegible c wires[k].token hillegible
  have hfails : ∀ u : Session, u.closed = false → env.reply u 0 = env.reply t k →
      ∃ v, c.attempt env token wires[k] u = (.error failure, v) ∧
        u.Grown [c.request authorization wires[k].body] v := by
    intro u hopen hreply
    rw [← hreply] at hjudge
    obtain ⟨v, hrun, hgrown⟩ :=
      deliver_of_judge_error ha hopen (hbodies wires[k] (List.getElem_mem hk)) hjudge
    exact ⟨v, attempt_of_passed hrun (recorded?_of_foreign hforeign), hgrown⟩
  obtain ⟨u, hrun, hgrown⟩ := traverse_of_first_failure (List.getElem?_eq_getElem hk)
    (fun w hw => attempt_accepts ha (hbodies w (List.mem_of_mem_take hw)))
    (hreach.closed.trans hopen) hgood hfails
  exact ⟨failure, (sendEach_of_reaches hreach hrun hgrown).1, hforeign⟩

end

theorem sendEach_of_unauthorized
    (hreach : c.Reaches env message credentials s m token wires t)
    (ha : ∃ e, c.authorization token = .error e)
    (hbodies : ∀ w ∈ wires, w.encode = .ok w.body) (hne : wires ≠ []) :
    ∃ failure, (c.sendEach env message credentials s).1 = .error failure ∧
      ∀ e, failure ≠ .relay e := by
  rw [sendEach_fst_of_reaches hreach]
  cases wires with
  | nil => exact absurd rfl hne
  | cons w rest =>
    obtain ⟨failure, hrun, hforeign⟩ :=
      deliver_of_barred env (s := t.bind [("target", w.token)])
      (hbodies w List.mem_cons_self) (.inl ha)
    have hattempt := attempt_of_passed hrun (recorded?_of_foreign hforeign)
    exact ⟨failure, by rw [traverse_cons_of_error hattempt], hforeign⟩

/-! ## Whole sends -/

/-- Whatever sending a message meets, it ends with an error of the relay if it
does not end well, and a best-effort send that has got a token makes a request
and records an outcome for each target, in order. -/
structure Contained (c : Client) (env : Surroundings) (m : Message)
    (credentials : Value) (s : Session) : Prop where
  send : ∀ failure, (c.send env (some m) credentials s).1 = .error failure →
    ∃ e, failure = .relay e ∧ e.code ≠ .config
  sendEach : ∀ failure, (c.sendEach env (some m) credentials s).1 = .error failure →
    ∃ e, failure = .relay e ∧ (e.code = .validation ∨ e.code = .auth)
  recorded : ∀ token ts, Message.validate (some m) c.config = .ok m →
    (c.fetch env credentials s).1 = .ok token → m.targets.items = .ok ts →
    ∃ outcomes authorization bodies,
      (c.sendEach env (some m) credentials s).1 = .ok outcomes ∧
      outcomes.length = ts.length ∧
      (∀ i target, ts[i]? = some target →
        ∃ o, outcomes[i]? = some o ∧ o.target = target ∧ (env.reply s i).RecordedAs o) ∧
      ts.mapM m.body? = some bodies ∧
      (c.sendEach env (some m) credentials s).2.requests =
        s.requests ++ bodies.map (c.request authorization)

/-- A message that is refused, or has no token, is a matter of the relay. -/
theorem contained_of_early {e : RelayError}
    (hcode : e.code = .validation ∨ e.code = .auth)
    (hsend : (c.send env (some m) credentials s).1 = .error (.relay e))
    (heach : (c.sendEach env (some m) credentials s).1 = .error (.relay e))
    (hnone : ∀ token, Message.validate (some m) c.config = .ok m →
      (c.fetch env credentials s).1 ≠ .ok token) :
    c.Contained env m credentials s where
  send failure hfails := by
    rw [hsend] at hfails
    cases hfails
    refine ⟨e, rfl, fun hconfig => ?_⟩
    rw [hconfig] at hcode
    rcases hcode with h | h <;> cases h
  sendEach failure hfails := by
    rw [heach] at hfails
    cases hfails
    exact ⟨e, rfl, hcode⟩
  recorded token ts hv hf := absurd hf (hnone token hv)

section

variable {ts : List Value} {n : Notification} (hts : m.targets.items = .ok ts)
  (hreach : c.Reaches env (some m) credentials s m token (ts.map (m.wireFor n)) t)
  (hopen : s.closed = false)
  (hbodies : ∀ w ∈ ts.map (m.wireFor n), w.encode = .ok w.body)

include hts hreach hopen hbodies

theorem contained_of_legible (hn : Message.notificationOf m.notification = .ok n)
    (ha : c.authorization token = .ok authorization)
    (htransport : ∀ i, (env.reply s i).FromTransport)
    (hlegible : ∀ i < ts.length, (env.reply s i).Legible) :
    c.Contained env m credentials s := by
  have hgood : ∀ i < (ts.map (m.wireFor n)).length,
      (env.reply s i).Legible ∧ (env.reply s i).FromTransport := by
    intro i hi
    rw [List.length_map] at hi
    exact ⟨hlegible i hi, htransport i⟩
  obtain ⟨outcomes, hok, hlength, houtcomes, hrequests⟩ :=
    sendEach_of_all_legible hreach hopen ha hbodies hgood
  constructor
  · intro failure hfails
    have hsent := sentInOrder_of_legible hreach hopen ha hbodies
      (fun i _ => htransport i)
      fun k hk _ => hlegible k hk
    rcases hsent.outcome with ⟨results, hresults⟩ | ⟨e, he, hcode⟩
    · rw [hfails] at hresults
      cases hresults
    · rw [hfails] at he
      cases he
      refine ⟨e, rfl, fun hconfig => ?_⟩
      rw [hconfig] at hcode
      rcases hcode with h | h <;> cases h
  · intro failure hfails
    rw [hok] at hfails
    cases hfails
  · intro _ us _ _ hus
    rw [hts] at hus
    cases hus
    rw [List.length_map] at hlength
    refine ⟨outcomes, authorization, _, hok, hlength, ?_,
      Message.mapM_body?_of_encode hn fun t ht => hbodies _ (List.mem_map_of_mem ht),
      ?_⟩
    · intro i target htarget
      have hw : (ts.map (m.wireFor n))[i]? = some (m.wireFor n target) := by
        rw [List.getElem?_map, htarget, Option.map_some]
      exact houtcomes i _ hw
    · rw [hrequests, List.map_map, List.map_map]
      rfl

/-- Where the errors are contained, every reply can be read. -/
theorem Contained.legible (h : c.Contained env m credentials s)
    (ha : c.authorization token = .ok authorization)
    (htransport : ∀ i, (env.reply s i).FromTransport) {k : Nat} (hk : k < ts.length) :
    (env.reply s k).Legible := by
  induction k using Nat.strongRecOn with
  | ind k ih =>
    by_contra hillegible
    -- by induction the batch gets as far as reply `k`, which ends it
    have hlt : k < (ts.map (m.wireFor n)).length := by
      rw [List.length_map]
      exact hk
    obtain ⟨failure, hfails, -⟩ :=
      sendEach_of_first_illegible hreach hopen ha hbodies hlt
      (fun i hi => ⟨ih i hi (hi.trans hk), htransport i⟩) hillegible
    obtain ⟨outcomes, -, -, hok, -⟩ :=
      h.recorded token ts hreach.validated hreach.fetched hts
    rw [hfails] at hok
    cases hok

end

/-- Errors are contained exactly if, once there is a token, the host can be
named in a request and the reply for each target can be read. -/
theorem contained_iff_legible (hdeclared : m.Declared)
    (hlimits : c.config.DefaultLimits) (hopen : s.closed = false) (hs : s.tagging.Sound)
    (hplain : ∀ token, (c.fetch env credentials s).1 = .ok token → token.Plain)
    (hauth : ∀ failure, (c.fetch env credentials s).1 = .error failure →
      ∃ e, failure = .relay e ∧ e.code = .auth)
    (htransport : ∀ i, (env.reply s i).FromTransport) :
    c.Contained env m credentials s ↔
      ∀ token ts, Message.validate (some m) c.config = .ok m →
        (c.fetch env credentials s).1 = .ok token → m.targets.items = .ok ts →
        c.HostAscii ∧ ∀ i < ts.length, (env.reply s i).Legible := by
  cases hv : Message.validate (some m) c.config with
  | error e =>
    -- refused: all holds of the errors, and nothing is said of the replies
    obtain ⟨message, field, rfl⟩ := hdeclared.judged hlimits e hv
    refine iff_of_true ?_ fun token ts h => by cases h
    refine contained_of_early (e := .validation message field) (.inl rfl) ?_ ?_
      fun token h => ?_
    · rw [send_of_refused hv]
      rfl
    · rw [sendEach_of_refused hv]
      rfl
    · rw [hv] at h
      cases h
  | ok m' =>
    obtain ⟨hsame, -⟩ := Message.validate_eq_ok_iff.mp hv
    cases hsame
    cases hf : (c.fetch env credentials s).1 with
    | error failure =>
      obtain ⟨e, rfl, hcode⟩ := hauth failure hf
      refine iff_of_true ?_ fun token ts _ h => by cases h
      refine contained_of_early (.inr hcode) (send_of_no_token hv hf)
        (sendEach_of_no_token hv hf) ?_
      intro token _ h
      rw [hf] at h
      cases h
    | ok token =>
      obtain ⟨ts, n, hts, hn, hbodies⟩ := hdeclared.bodies hlimits hv
      have hne := (Message.targets_of_validated hv hts).2
      have hreach := reaches_of_ready hv hf hs hts hn
      have htoken := hplain token hf
      constructor
      · intro h _ us _ htok hus
        cases htok
        rw [hts] at hus
        cases hus
        have hhost : c.HostAscii := by
          by_contra hhost
          obtain ⟨failure, hfails, -⟩ := sendEach_of_unauthorized hreach
            (authorization_of_bad_host htoken hhost) hbodies (by simpa using hne)
          obtain ⟨outcomes, -, -, hok, -⟩ := h.recorded token ts hv hf hts
          rw [hfails] at hok
          cases hok
        exact ⟨hhost, fun i hi => h.legible hts hreach hopen hbodies
          (authorization_of_plain htoken hhost) htransport hi⟩
      · intro h
        obtain ⟨hhost, hlegible⟩ := h token ts rfl rfl hts
        exact contained_of_legible hts hreach hopen hbodies hn
          (authorization_of_plain htoken hhost) htransport hlegible

theorem sampleMessage_declared : sampleMessage.Declared where
  targets := .inr ⟨[.text "first", .text "second"], .inl rfl, by decide⟩
  collapseKey := rfl
  notification := ⟨{}, rfl, rfl, rfl, rfl, rfl⟩
  data := .inl rfl
  delayWhileIdle := ⟨false, rfl⟩
  timeToLive := rfl
  priority := rfl
  packageName := rfl
  dryRun := ⟨false, rfl⟩

theorem contained_of_rejected_second :
    (sample {}).Contained (answering [sampleDelivery, sampleRejection]) sampleMessage
      .null freshSession := by
  have htransport : ∀ i,
      ((answering [sampleDelivery, sampleRejection]).reply freshSession i).FromTransport
    | 0 => trivial
    | 1 => trivial
    | _ + 2 => trivial
  have hlegible : ∀ i < 2,
      ((answering [sampleDelivery, sampleRejection]).reply freshSession i).Legible
    | 0, _ => sampleDelivery_legible
    | 1, _ => sampleRejection_legible
  refine (contained_iff_legible sampleMessage_declared ⟨rfl, rfl, rfl⟩ rfl
    Tagging.Sound.fresh ?_ ?_ htransport).mpr ?_
  · intro token htoken
    cases htoken
    exact sampleToken_plain
  · intro failure hfailure
    cases hfailure
  · intro token ts _ _ hts
    cases hts
    exact ⟨sample_hostAscii {}, hlegible⟩

/-- A rejection whose body has no text ends the batch, and no outcome is
returned. -/
theorem not_contained_of_unreadable_rejection :
    ((sample {}).sendEach (answering [unreadableRejection]) (some sampleMessage) .null
        freshSession).1 = .error (.body (.charset .rotated)) ∧
      ¬ (sample {}).Contained (answering [unreadableRejection]) sampleMessage .null
        freshSession := by
  have hfails : ((sample {}).sendEach (answering [unreadableRejection])
      (some sampleMessage) .null freshSession).1 =
      .error (.body (.charset .rotated)) := rfl
  refine ⟨hfails, fun h => ?_⟩
  obtain ⟨e, he, -⟩ := h.sendEach _ hfails
  cases he

end Client
end PushRelay.Delivery
