import PushRelay.Proofs.Sequencing
import PushRelay.Proofs.Url.Splitting

/-!
# Users in URLs

A URL may name a user with a password in front of its host, and then a request
for it is authorized by these. What is written there is quoted and meant as
what it was before; so whether anybody is named can be told from the text that
the URL was read from.
-/

namespace PushRelay.Url

/-- The place for a user is empty, or holds nothing but the colon between a
name and a password. -/
def NamesNobody (user : List Char) : Prop := user = [] ∨ user = [':']

variable {cs : List Char}

/-! ## Octets -/

theorem length_toList_loop (octets : ByteArray) (i : Nat) (done : List UInt8) :
    (ByteArray.toList.loop octets i done).length = done.length + (octets.size - i) := by
  fun_induction ByteArray.toList.loop octets i done with
  | case1 i done hi ih =>
    rw [ih, List.length_cons]
    omega
  | case2 i done hi =>
    rw [List.length_reverse]
    omega

theorem utf8_singleton_ne_nil (c : Char) : utf8 [c] ≠ [] := by
  have hlength : (utf8 [c]).length = c.utf8Size := by
    rw [utf8, ByteArray.toList, length_toList_loop]
    simp [List.utf8Encode_singleton]
  intro h
  rw [h] at hlength
  exact absurd hlength (Nat.ne_of_lt c.utf8Size_pos)

/-! ## Quoting -/

/-- What has no place is quoted by something that begins with a percent
sign. -/
theorem exists_escaped (c : Char) : ∃ rest, (utf8 [c]).flatMap escapeOctet = '%' :: rest := by
  obtain ⟨octet, octets, hoctets⟩ := List.exists_cons_of_ne_nil (utf8_singleton_ne_nil c)
  rw [hoctets, List.flatMap_cons, escapeOctet, List.cons_append]
  exact ⟨_, rfl⟩

theorem quote_eq_nil_iff {safe : Char → Bool} : quote safe cs = [] ↔ cs = [] := by
  cases cs with
  | nil => simp [quote]
  | cons c cs =>
    obtain ⟨rest, hrest⟩ := exists_escaped c
    cases hsafe : safe c <;> simp [quote, List.flatMap_cons, hsafe, hrest]

theorem quote_eq_singleton_iff {safe : Char → Bool} {mark : Char} (hmark : mark ≠ '%')
    (hsafe : safe mark = true) : quote safe cs = [mark] ↔ cs = [mark] := by
  cases cs with
  | nil => simp [quote]
  | cons c cs =>
    obtain ⟨rest, hrest⟩ := exists_escaped c
    have htail : quote safe cs = [] ↔ cs = [] := quote_eq_nil_iff
    unfold quote at htail ⊢
    rw [List.flatMap_cons]
    cases hc : safe c with
    | true => simp [htail]
    | false =>
      have hother : c ≠ mark := by
        rintro rfl
        rw [hsafe] at hc
        cases hc
      simp [hrest, hother, hmark.symm]

theorem unquoteOctets_eq_nil_iff : unquoteOctets cs = [] ↔ cs = [] := by
  unfold unquoteOctets
  split
  · split <;> simp [utf8_singleton_ne_nil]
  · simp [utf8_singleton_ne_nil]
  · simp

/-- Nothing else stands for nothing. -/
theorem unquote_eq_empty_iff : unquote cs = "" ↔ cs = [] := by
  have hpieces : ∀ octets, Octets.Encoding.utf8.decodeLossy octets = "" ↔ octets = [] := by
    intro octets
    unfold Octets.Encoding.decodeLossy
    cases octets with
    | nil => simp [Octets.Encoding.pieces]
    | cons octet octets => simp [Octets.Encoding.pieces, String.ofList_eq_empty_iff]
  rw [unquote, hpieces, unquoteOctets_eq_nil_iff]

/-! ## Authorization -/

theorem authorization?_eq_none_iff {u : Url} : u.authorization? = none ↔ NamesNobody u.user := by
  have hempty : ∀ name, (unquote name).isEmpty = true ↔ name = [] := by
    intro name
    rw [String.isEmpty_iff, unquote_eq_empty_iff]
  have hnone : u.authorization? = none ↔
      (splitBefore [':'] u.user).1 = [] ∧ (splitBefore [':'] u.user).2.drop 1 = [] := by
    unfold authorization?
    simp [hempty]
  rw [hnone, splitBefore, NamesNobody]
  cases u.user with
  | nil => simp
  | cons c rest =>
    by_cases hcolon : c = ':'
    · subst hcolon
      simp
    · simp [hcolon]

/-- Whoever is named, the authorization is not that of a bearer. -/
theorem authorization?_basic {u : Url} {authorization : String}
    (h : u.authorization? = some authorization) : ∃ rest, authorization = "Basic " ++ rest := by
  unfold authorization? at h
  dsimp only at h
  split at h
  · cases h
  · cases h
    exact ⟨_, rfl⟩

/-! ## Reading -/

theorem normalize_user {parts : Parts} {url : Url} (h : normalize parts = .ok url) :
    url.user = quote userSafe parts.user := by
  unfold normalize at h
  obtain ⟨host, -, h⟩ := bind_eq_ok_iff.mp h
  obtain ⟨port, -, h⟩ := bind_eq_ok_iff.mp h
  -- however the path is found, the user stays what it is
  dsimp only at h
  split at h
  · obtain ⟨-, -, h⟩ := bind_eq_ok_iff.mp h
    cases h
    rfl
  · cases h
    rfl

/-- A URL names nobody just if the text that it was read from does. -/
theorem authorization?_of_parse {text : String} {url : Url} (h : parse text = .ok url) :
    url.authorization? = none ↔ NamesNobody (split text.toList).user := by
  rw [authorization?_eq_none_iff, normalize_user (parse_eq_ok_iff.mp h).2]
  exact or_congr quote_eq_nil_iff (quote_eq_singleton_iff (by decide) (by decide))

end PushRelay.Url
