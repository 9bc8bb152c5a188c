import Mathlib.Data.Nat.Find
import Mathlib.Tactic.ByContra
import PushRelay.Proofs.Delivery.Preparation
import PushRelay.Proofs.Delivery.Setup

/-!
# Sending in order

A send makes one request for each target, in order, as far as the first whose
reply is not a delivery, and ends with the error that reports this reply. That
holds exactly as long as each reply it gets to can be read: a body that has no
text ends the send with an error that is none of the relay's.
-/

namespace PushRelay.Delivery

namespace Client

variable {c : Client} {env : Surroundings} {message : Option Message}
  {credentials : Value} {s t : Session} {m : Message} {token : BearerToken}
  {wires : List WireMessage} {authorization : String}

/-! ## Deliveries of one send -/

section

variable (hreach : c.Reaches env message credentials s m token wires t)
  (hopen : s.closed = false)

include hreach hopen

section

variable (ha : c.authorization token = .ok authorization)
  (hbodies : ∀ w ∈ wires, w.encode = .ok w.body)

include ha hbodies

theorem send_of_all_delivered
    (hgood : ∀ i < wires.length, (env.reply s i).delivered?.isSome = true) :
    ∃ results, (c.send env message credentials s).1 = .ok results ∧
      results.length = wires.length ∧
      (∀ i w, wires[i]? = some w →
        ∃ v, (env.reply s i).delivered? = some v ∧ results[i]? = some ⟨w.token, v⟩) ∧
      (c.send env message credentials s).2.requests =
        s.requests ++ wires.map fun w => c.request authorization w.body := by
  simp only [← hreach.reply] at hgood ⊢
  obtain ⟨results, u, hrun, hgrown, hlength, hresults⟩ := traverse_of_good
    (fun w hw => deliver_accepts ha (hbodies w hw)) (hreach.closed.trans hopen) hgood
  obtain ⟨hresult, hrequests, -⟩ := send_of_reaches hreach hrun hgrown
  refine ⟨results, hresult, hlength, ?_, hrequests⟩
  intro i w hw
  obtain ⟨result, hi, v, hv, rfl⟩ := hresults i w hw
  exact ⟨v, hv, hi⟩

theorem send_of_first_failure {k : Nat} {w : WireMessage} {failure : Failure}
    (hk : wires[k]? = some w)
    (hgood : ∀ i < k, (env.reply s i).delivered?.isSome = true)
    (hjudge : c.judge w.token (env.reply s k) = .error failure) :
    (c.send env message credentials s).1 = .error failure ∧
      (c.send env message credentials s).2.requests =
        s.requests ++
          (wires.take (k + 1)).map fun w => c.request authorization w.body := by
  simp only [← hreach.reply] at hgood hjudge
  have hfails : ∀ u : Session, u.closed = false → env.reply u 0 = env.reply t k →
      ∃ v, c.deliver env token w u = (.error failure, v) ∧
        u.Grown [c.request authorization w.body] v := by
    intro u hopen hreply
    rw [← hreply] at hjudge
    exact deliver_of_judge_error ha hopen (hbodies w (List.mem_of_getElem? hk)) hjudge
  obtain ⟨u, hrun, hgrown⟩ := traverse_of_first_failure hk
    (fun w hw => deliver_accepts ha (hbodies w (List.mem_of_mem_take hw)))
    (hreach.closed.trans hopen) hgood hfails
  rw [map_take_append _ hk] at hgrown
  obtain ⟨hresult, hrequests, -⟩ := send_of_reaches hreach hrun hgrown
  exact ⟨hresult, hrequests⟩

end

end

/-- Without an authorization the first delivery fails. -/
theorem send_of_unauthorized
    (hreach : c.Reaches env message credentials s m token wires t)
    (ha : ∃ e, c.authorization token = .error e)
    (hbodies : ∀ w ∈ wires, w.encode = .ok w.body) (hne : wires ≠ []) :
    ∃ failure, (c.send env message credentials s).1 = .error failure ∧
      ∀ e, failure ≠ .relay e := by
  rw [send_fst_of_reaches hreach]
  cases wires with
  | nil => exact absurd rfl hne
  | cons w rest =>
    obtain ⟨failure, hrun, hforeign⟩ :=
      deliver_of_barred env (s := t.bind [("target", w.token)])
      (hbodies w List.mem_cons_self) (.inl ha)
    exact ⟨failure, by rw [traverse_cons_of_error hrun], hforeign⟩

/-! ## Whole sends -/

/-- What a send to some targets is to come to, whose bodies are given: a
result for each target if all replies are deliveries, and otherwise the report
of the first that is not, after the requests up to it. -/
structure SentInOrder (c : Client) (env : Surroundings) (m : Message)
    (credentials : Value) (s : Session) (authorization : String) (ts : List Value)
    (bodies : List String) : Prop where
  delivered : (∀ i < ts.length, (env.reply s i).delivered?.isSome = true) →
    ∃ results, (c.send env (some m) credentials s).1 = .ok results ∧
      results.length = ts.length ∧
      (∀ i target, ts[i]? = some target →
        ∃ v, (env.reply s i).delivered? = some v ∧ results[i]? = some ⟨target, v⟩) ∧
      (c.send env (some m) credentials s).2.requests =
        s.requests ++ bodies.map (c.request authorization)
  stopped : ∀ k target, ts[k]? = some target →
    (∀ i < k, (env.reply s i).delivered?.isSome = true) →
    (env.reply s k).delivered? = none →
    ∃ e, (c.send env (some m) credentials s).1 = .error (.relay e) ∧
      (env.reply s k).Reports target e ∧
      (c.send env (some m) credentials s).2.requests =
        s.requests ++ (bodies.take (k + 1)).map (c.request authorization)

/-- Such a send has results, or the report of a reply. -/
theorem SentInOrder.outcome {ts : List Value} {bodies : List String}
    (h : c.SentInOrder env m credentials s authorization ts bodies) :
    (∃ results, (c.send env (some m) credentials s).1 = .ok results) ∨
      ∃ e, (c.send env (some m) credentials s).1 = .error (.relay e) ∧
        (e.code = .transport ∨ e.code = .protocol) := by
  by_cases hall : ∀ i < ts.length, (env.reply s i).delivered?.isSome = true
  · obtain ⟨results, hok, -⟩ := h.delivered hall
    exact .inl ⟨results, hok⟩
  · have hsome : ∃ k, k < ts.length ∧ ¬ (env.reply s k).delivered?.isSome = true := by
      simpa only [not_forall, exists_prop] using hall
    -- the send stops at the first reply that is not a delivery
    classical
    obtain ⟨hlt, hnone⟩ := Nat.find_spec hsome
    have hbefore : ∀ i < Nat.find hsome, (env.reply s i).delivered?.isSome = true := by
      intro i hi
      by_contra hi'
      exact Nat.find_min hsome hi ⟨hi.trans hlt, hi'⟩
    obtain ⟨e, he, hreports, -⟩ := h.stopped _ _ (List.getElem?_eq_getElem hlt) hbefore
      (Option.not_isSome_iff_eq_none.mp hnone)
    exact .inr ⟨e, he, hreports.code_eq⟩

theorem SentInOrder.not_foreign {ts : List Value} {bodies : List String}
    (h : c.SentInOrder env m credentials s authorization ts bodies) {failure : Failure}
    (hfails : (c.send env (some m) credentials s).1 = .error failure)
    (hforeign : ∀ e, failure ≠ .relay e) : False := by
  rcases h.outcome with ⟨results, hok⟩ | ⟨e, he, -⟩
  · rw [hfails] at hok
    cases hok
  · rw [hfails] at he
    cases he
    exact hforeign e rfl

section

variable {ts : List Value} {n : Notification}
  (hreach : c.Reaches env (some m) credentials s m token (ts.map (m.wireFor n)) t)
  (hopen : s.closed = false) (ha : c.authorization token = .ok authorization)
  (hbodies : ∀ w ∈ ts.map (m.wireFor n), w.encode = .ok w.body)

include hreach hopen ha hbodies

theorem sentInOrder_of_legible
    (htransport : ∀ i < ts.length, (env.reply s i).FromTransport)
    (hlegible : ∀ k < ts.length,
      (∀ i < k, (env.reply s i).delivered?.isSome = true) → (env.reply s k).Legible) :
    c.SentInOrder env m credentials s authorization ts
      (ts.map fun t => (m.wireFor n t).body) := by
  have hwire : ∀ (k : Nat) (target : Value), ts[k]? = some target →
      (ts.map (m.wireFor n))[k]? = some (m.wireFor n target) := by
    intro k target htarget
    rw [List.getElem?_map, htarget, Option.map_some]
  constructor
  · intro hall
    obtain ⟨results, hok, hlength, hresults, hrequests⟩ :=
      send_of_all_delivered hreach hopen ha hbodies fun i hi => by
        rw [List.length_map] at hi
        exact hall i hi
    rw [List.length_map] at hlength
    refine ⟨results, hok, hlength,
      fun i target htarget => hresults i _ (hwire i target htarget), ?_⟩
    rw [hrequests, List.map_map, List.map_map]
    rfl
  · intro k target htarget hbefore hnone
    obtain ⟨hk, -⟩ := List.getElem?_eq_some_iff.mp htarget
    obtain ⟨e, hjudge, hreports⟩ :=
      judge_undelivered c target (hlegible k hk hbefore) (htransport k hk) hnone
    obtain ⟨hfails, hrequests⟩ :=
      send_of_first_failure hreach hopen ha hbodies (hwire k target htarget) hbefore
        hjudge
    refine ⟨e, hfails, hreports, ?_⟩
    rw [hrequests, ← List.map_take, ← List.map_take, List.map_map, List.map_map]
    rfl

/-- The first reply that cannot be read would end the send in another way. -/
theorem SentInOrder.legible {bodies : List String}
    (h : c.SentInOrder env m credentials s authorization ts bodies) {k : Nat}
    (hk : k < ts.length) (hbefore : ∀ i < k, (env.reply s i).delivered?.isSome = true) :
    (env.reply s k).Legible := by
  by_contra hillegible
  have hw : (ts.map (m.wireFor n))[k]? = some (m.wireFor n ts[k]) := by
    rw [List.getElem?_map, List.getElem?_eq_getElem hk, Option.map_some]
  obtain ⟨failure, hjudge, hforeign⟩ :=
    judge_illegible c (m.wireFor n ts[k]).token hillegible
  obtain ⟨hfails, -⟩ := send_of_first_failure hreach hopen ha hbodies hw hbefore hjudge
  exact h.not_foreign hfails hforeign

end

/-- A send goes as it should exactly if the host can be named in a request and
each reply that it gets to can be read. -/
theorem sentInOrder_iff {ts : List Value} {bodies : List String} (hsetup : c.IsSetUp)
    (huser : c.url.user = []) (hopen : s.closed = false) (hs : s.tagging.Sound)
    (hv : Message.validate (some m) c.config = .ok m) (hts : m.targets.items = .ok ts)
    (hbodies : ts.mapM m.body? = some bodies)
    (hf : (c.fetch env credentials s).1 = .ok token) (htoken : token.Plain)
    (htransport : ∀ i < ts.length, (env.reply s i).FromTransport) :
    Url.parse c.endpoint = .ok c.url ∧
      (c.SentInOrder env m credentials s token.header ts bodies ↔
        c.HostAscii ∧ ∀ k < ts.length,
          (∀ i < k, (env.reply s i).delivered?.isSome = true) →
          (env.reply s k).Legible) := by
  refine ⟨hsetup.parse_endpoint, ?_⟩
  have hne := (Message.targets_of_validated hv hts).2
  obtain ⟨n, hn, rfl, hencode⟩ := Message.bodies_of_mapM hne hbodies
  have hreach := reaches_of_ready hv hf hs hts hn
  have hwires : ∀ w ∈ ts.map (m.wireFor n), w.encode = .ok w.body := by
    intro w hw
    obtain ⟨target, htarget, rfl⟩ := List.mem_map.mp hw
    exact hencode target htarget
  have hauthorized : c.HostAscii → c.authorization token = .ok token.header := by
    intro hhost
    rw [authorization_of_plain htoken hhost, authorization?_of_no_user huser]
    rfl
  constructor
  · intro h
    -- a host that cannot be named fails the first delivery
    have hhost : c.HostAscii := by
      by_contra hhost
      obtain ⟨failure, hfails, hforeign⟩ := send_of_unauthorized hreach
        (authorization_of_bad_host htoken hhost) hwires (by simpa using hne)
      exact h.not_foreign hfails hforeign
    exact ⟨hhost, fun k hk hbefore =>
      h.legible hreach hopen (hauthorized hhost) hwires hk hbefore⟩
  · rintro ⟨hhost, hlegible⟩
    exact sentInOrder_of_legible hreach hopen (hauthorized hhost) hwires htransport
      hlegible

theorem sentInOrder_of_rejected_second :
    (sample {}).SentInOrder (answering [sampleDelivery, sampleRejection]) sampleMessage
      .null freshSession "Bearer token" [.text "first", .text "second"]
      [(sampleMessage.wireFor {} (.text "first")).body,
        (sampleMessage.wireFor {} (.text "second")).body] := by
  have hv : Message.validate (some sampleMessage) (sample {}).config =
      .ok sampleMessage := rfl
  have hts : sampleMessage.targets.items = .ok [.text "first", .text "second"] := rfl
  have hbodies : [Value.text "first", .text "second"].mapM sampleMessage.body? =
      some [(sampleMessage.wireFor {} (.text "first")).body,
        (sampleMessage.wireFor {} (.text "second")).body] := rfl
  have hf : ((sample {}).fetch (answering [sampleDelivery, sampleRejection]) .null
        freshSession).1 =
      .ok sampleToken := rfl
  have htransport : ∀ i < 2,
      ((answering [sampleDelivery, sampleRejection]).reply freshSession i).FromTransport
    | 0, _ => trivial
    | 1, _ => trivial
  have hlegible : ∀ k < 2,
      ((answering [sampleDelivery, sampleRejection]).reply freshSession k).Legible
    | 0, _ => sampleDelivery_legible
    | 1, _ => sampleRejection_legible
  exact (sentInOrder_iff (sample_isSetUp {}) rfl rfl Tagging.Sound.fresh hv hts hbodies
    hf sampleToken_plain htransport).2.mpr
      ⟨sample_hostAscii {}, fun k hk _ => hlegible k hk⟩

/-- A rejection whose body has no text ends the send with the error of the
character set. -/
theorem not_sentInOrder_of_unreadable_rejection :
    ((sample {}).send (answering [unreadableRejection]) (some sampleMessage) .null
        freshSession).1 = .error (.body (.charset .rotated)) ∧
    ¬ (sample {}).SentInOrder (answering [unreadableRejection]) sampleMessage .null
      freshSession "Bearer token" [.text "first", .text "second"]
      [(sampleMessage.wireFor {} (.text "first")).body,
        (sampleMessage.wireFor {} (.text "second")).body] := by
  have hfails : ((sample {}).send (answering [unreadableRejection]) (some sampleMessage)
      .null freshSession).1 = .error (.body (.charset .rotated)) := rfl
  exact ⟨hfails, fun h => h.not_foreign hfails fun e he => by cases he⟩

end Client
end PushRelay.Delivery
