import PushRelay.Proofs.Json.Printable
import PushRelay.Proofs.Json.RoundTrip
import PushRelay.Token.Exchange

/-!
# What leaves an exchange

An exchange is contained if it ends in the token that was granted or in a
refusal by the relay. Credentials that are no account are always refused. Of
what the authority raises, a missing key and a bad value are expected where
the account is made, and the authority's own errors where the token is asked
for; what is raised where it is not expected passes through.
-/

namespace PushRelay.Token

/-- The credentials are the JSON text of an object. -/
def DescribesAccount (credentials : Value) : Prop :=
  ∃ v, Json.read credentials = .ok v ∧ v.entries?.isSome = true

/-- What comes of an exchange is the token that was granted, which holds
something, or an error that says why there is none. -/
def Contained (grant : Grant) : Except Trouble BearerToken → Prop
  | .ok token => token.accessToken.truthy = true ∧ grant = .accept token.accessToken token.expiry
  | .error e => ∃ message, e = .relay (.auth message)

/-- The authority raises nothing but what is expected where it is raised. -/
def Grant.Expected : Grant → Prop
  | .refuseAccount e => e.isBadInput = true
  | .refuseToken e => e.isRefusal = true
  | .accept .. => True

/-! ## One exchange -/

theorem readAccount_cases (credentials : Value) :
    DescribesAccount credentials ∧ (∃ account, readAccount credentials = .ok account) ∨
      ¬ DescribesAccount credentials ∧ ∃ message, readAccount credentials = .error (.auth message) := by
  unfold DescribesAccount readAccount
  cases Json.read credentials with
  | error e => exact .inr ⟨nofun, .text _, rfl⟩
  | ok v =>
    dsimp only
    cases hv : v.entries? with
    | none => exact .inr ⟨by simp [hv], .text _, rfl⟩
    | some account => exact .inl ⟨⟨v, rfl, by simp [hv]⟩, account, rfl⟩

theorem not_contained_raised (grant : Grant) (e : Raised) : ¬ Contained grant (.error (.raised e)) :=
  nofun

/-- What the authority raises is turned into a refusal by the relay just where
it is expected. -/
theorem contained_outcome_iff (grant : Grant) : Contained grant grant.outcome ↔ grant.Expected := by
  cases grant with
  | refuseAccount e =>
    rw [Grant.outcome, Grant.Expected]
    split
    · rename_i hexpected
      exact iff_of_true ⟨_, rfl⟩ hexpected
    · rename_i hunexpected
      exact iff_of_false (not_contained_raised _ e) hunexpected
  | refuseToken e =>
    rw [Grant.outcome, Grant.Expected]
    split
    · rename_i hexpected
      exact iff_of_true ⟨_, rfl⟩ hexpected
    · rename_i hunexpected
      exact iff_of_false (not_contained_raised _ e) hunexpected
  | accept token expiry =>
    rw [Grant.outcome]
    split
    · rename_i hsome
      exact iff_of_true ⟨hsome, rfl⟩ trivial
    · exact iff_of_true ⟨_, rfl⟩ trivial

theorem exchange_contained_iff (credentials : Value) (grant : Grant) :
    Contained grant (exchange credentials grant).outcome ↔
      (DescribesAccount credentials → grant.Expected) := by
  unfold exchange
  rcases readAccount_cases credentials with ⟨haccount, account, hread⟩ | ⟨hnone, message, hread⟩
  · rw [hread]
    simp only [haccount, true_implies, contained_outcome_iff]
  · rw [hread]
    exact iff_of_true ⟨message, rfl⟩ fun haccount => absurd haccount hnone

/-! ## One exchange after the other -/

/-- The accounts that some credentials describe, without those that describe
none. -/
def accounts (credentials : List Value) : List Entries :=
  credentials.filterMap fun c => (readAccount c).toOption

/-- The authority has been given just the accounts of all credentials before. -/
theorem exchangeAll_append (scope : Value) (grants : Nat → Grant) (before rest : List Value)
    (given : Nat) :
    exchangeAll scope grants (before ++ rest) given =
      exchangeAll scope grants before given ++
        exchangeAll scope grants rest (given + (accounts before).length) := by
  induction before generalizing given with
  | nil => rfl
  | cons credentials before ih =>
    have hgiven : ((exchange credentials (grants given)).call? scope (grants given)).toList.length +
        (accounts before).length = (accounts (credentials :: before)).length := by
      unfold exchange Exchange.call? accounts
      cases hread : readAccount credentials <;> simp [hread, Except.toOption, Nat.add_comm]
    simp only [List.cons_append, exchangeAll, ih, ← hgiven, Nat.add_assoc]

theorem length_exchangeAll (scope : Value) (grants : Nat → Grant) (credentials : List Value)
    (given : Nat) : (exchangeAll scope grants credentials given).length = credentials.length := by
  induction credentials generalizing given with
  | nil => rfl
  | cons c rest ih => simp [exchangeAll, ih]

/-- Whatever credentials there have been before, for whatever scope and
whatever the authority does: an exchange is contained just if its credentials
are no account, or the authority raises nothing but what is expected. -/
theorem exchangeAll_contained_iff (scope : Value) (grants : Nat → Grant) (before : List Value)
    (credentials : Value) (rest : List Value) (given : Nat) :
    ∃ outcome call,
      (exchangeAll scope grants (before ++ credentials :: rest) given)[before.length]? =
        some (outcome, call) ∧
      (Contained (grants (given + (accounts before).length)) outcome ↔
        (DescribesAccount credentials →
          (grants (given + (accounts before).length)).Expected)) := by
  let grant := grants (given + (accounts before).length)
  let x := exchange credentials grant
  refine ⟨x.outcome, x.call? scope grant, ?_, exchange_contained_iff credentials grant⟩
  rw [exchangeAll_append, List.getElem?_append_right (Nat.le_of_eq (length_exchangeAll ..)),
    length_exchangeAll, Nat.sub_self]
  rfl

/-- An error of the authority's own that is no bad value passes through where
the account is made, and a bad value where the token is asked for. -/
theorem not_contained_of_unexpected :
    let noDefault : Raised := .plain .authority "DefaultCredentialsError" [.text "no default"]
    let badKey : Raised := .plain .system "ValueError" [.text "bad key"]
    let credentials : Value := .bytes [0x7b, 0x7d]
    noDefault.isRefusal = true ∧ badKey.isBadInput = true ∧
      ¬ Contained (.refuseAccount noDefault)
        (exchange credentials (.refuseAccount noDefault)).outcome ∧
      ¬ Contained (.refuseToken badKey) (exchange credentials (.refuseToken badKey)).outcome := by
  intro noDefault badKey credentials
  have haccount : readAccount credentials = .ok [] := by
    have hplain : Json.Plain (.record []) := .record List.nodup_nil (List.forall_mem_nil _)
    have hwrite : Json.write (.record []) = .ok "\x7b\x7d" := rfl
    have hread : Json.read credentials = .ok (.record []) :=
      (Json.isPrintable_of_write hwrite).read_octets.trans (hplain.readChars_of_write hwrite)
    rw [readAccount, hread]
    rfl
  have hexchange : ∀ grant, (exchange credentials grant).outcome = grant.outcome := by
    intro grant
    rw [exchange, haccount]
  refine ⟨by decide, by decide, ?_, ?_⟩
  · rw [hexchange, contained_outcome_iff, Grant.Expected]
    decide
  · rw [hexchange, contained_outcome_iff, Grant.Expected]
    decide

end PushRelay.Token
