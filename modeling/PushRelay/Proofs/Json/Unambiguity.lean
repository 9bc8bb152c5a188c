import PushRelay.Proofs.Json.Grammar

/-!
# One text, one document

The rules of the grammar leave no choice: a text begins with the spelling of
at most one document, and what is left of it is told by the text as well. What
a text says is therefore a matter of the text alone.
-/

namespace PushRelay.Json

/-! ## Blanks -/

section

variable {c c' : Char} {cs rest rest' : List Char}

theorem Blanks.skip_eq (h : Blanks cs rest) : skip cs = skip rest := by
  induction h with
  | none => rfl
  | one hc _ ih => simpa [skip, hc] using ih

/-- Skipping blanks stops at the first character that is none. -/
theorem Blanks.skip_cons (h : Blanks cs (c :: rest)) (hc : isSpace c = false) :
    skip cs = c :: rest := by
  rw [h.skip_eq]
  simp [skip, hc]

theorem Blanks.length_le (h : Blanks cs rest) : rest.length ≤ cs.length := by
  induction h with
  | none => exact Nat.le_refl _
  | one _ _ ih => exact Nat.le_succ_of_le ih

theorem Blanks.unique (h : Blanks cs (c :: rest)) (h' : Blanks cs (c' :: rest'))
    (hc : isSpace c = false) (hc' : isSpace c' = false) : c' = c ∧ rest' = rest := by
  have hsame := (h'.skip_cons hc').symm.trans (h.skip_cons hc)
  exact List.cons.inj hsame

end

/-! ## Numerals -/

/-- What satisfies a condition as far as it goes is found again in front of
something that does not go on with it. -/
theorem takeWhile_append_of_stops {p : Char → Bool} {cs rest : List Char}
    (hcs : ∀ c ∈ cs, p c = true) (hrest : ∀ c ∈ rest.head?, p c = false) :
    (cs ++ rest).takeWhile p = cs ∧ (cs ++ rest).dropWhile p = rest := by
  induction cs with
  | nil =>
    cases rest with
    | nil => exact ⟨rfl, rfl⟩
    | cons c rest => simp [hrest c rfl]
  | cons c cs ih =>
    obtain ⟨hc, hcs⟩ := List.forall_mem_cons.mp hcs
    obtain ⟨htake, hdrop⟩ := ih hcs
    simp [hc, htake, hdrop]

theorem IsDigits.numeric {ds : List Char} (h : IsDigits ds) :
    ∀ c ∈ ds, isNumeric c = true := by
  intro c hc
  simp [isNumeric, h.2 c hc]

theorem isDigits_zero : IsDigits ['0'] := ⟨by simp, List.forall_mem_singleton.mpr rfl⟩

theorem IsWhole.digits {ds : List Char} (h : IsWhole ds) : IsDigits ds := by
  rcases h with rfl | ⟨h, -⟩
  · exact isDigits_zero
  · exact h

theorem IsFraction.numeric {cs : List Char} (h : IsFraction cs) :
    ∀ c ∈ cs, isNumeric c = true := by
  rcases h with rfl | ⟨ds, rfl, hds⟩
  · simp
  · exact List.forall_mem_cons.mpr ⟨rfl, hds.numeric⟩

theorem IsExponent.numeric {cs : List Char} (h : IsExponent cs) :
    ∀ c ∈ cs, isNumeric c = true := by
  rcases h with rfl | ⟨mark, sign, ds, rfl, hmark, hsign, hds⟩
  · simp
  · have hm : isNumeric mark = true := by rcases hmark with rfl | rfl <;> rfl
    have hs : ∀ c ∈ sign, isNumeric c = true := by
      rcases hsign with rfl | rfl | rfl <;> exact List.all_eq_true.mp rfl
    exact List.forall_mem_cons.mpr ⟨hm, List.forall_mem_append.mpr ⟨hs, hds.numeric⟩⟩

theorem IsNumeral.numeric {cs : List Char} (h : IsNumeral cs) :
    ∀ c ∈ cs, isNumeric c = true := by
  obtain ⟨hsign, hwhole, hfraction, hexponent⟩ := h
  simp only [List.forall_mem_append]
  refine ⟨?_, hwhole.digits.numeric, hfraction.numeric, hexponent.numeric⟩
  rcases hsign with rfl | rfl <;> exact List.all_eq_true.mp rfl

/-- A numeral begins with a digit, or with a minus and a digit. -/
theorem IsNumeral.begins {cs : List Char} (h : IsNumeral cs) :
    ∃ c rest, cs = c :: rest ∧
      (c.isDigit = true ∨ c = '-' ∧ ∃ d rest', rest = d :: rest' ∧ d.isDigit = true) := by
  obtain ⟨hsign, hwhole, -, -⟩ := h
  obtain ⟨hne, hdigits⟩ := hwhole.digits
  obtain ⟨d, ds, rfl⟩ := List.exists_cons_of_ne_nil hne
  have hd : d.isDigit = true := hdigits d List.mem_cons_self
  rcases hsign with rfl | rfl
  · exact ⟨_, _, rfl, .inl hd⟩
  · exact ⟨_, _, rfl, .inr ⟨rfl, _, _, rfl, hd⟩⟩

/-- What begins otherwise is no numeral. -/
theorem IsNumeral.ne_cons {numeral cs rest : List Char} {c : Char} (h : IsNumeral numeral)
    (hdigit : c.isDigit = false) (hminus : c ≠ '-') : c :: cs ≠ numeral ++ rest := by
  obtain ⟨c', rest', rfl, hc'⟩ := h.begins
  intro heq
  obtain ⟨rfl, -⟩ := List.cons.inj heq
  rcases hc' with hc' | ⟨hc', -⟩
  · rw [hdigit] at hc'
    cases hc'
  · exact hminus hc'

/-- A numeral is not the word for the negative infinity. -/
theorem IsNumeral.ne_minus_cons {numeral cs rest : List Char} {c : Char}
    (h : IsNumeral numeral) (hdigit : c.isDigit = false) :
    '-' :: c :: cs ≠ numeral ++ rest := by
  obtain ⟨c', rest', rfl, hc'⟩ := h.begins
  intro heq
  rw [List.cons_append, List.cons.injEq] at heq
  rcases hc' with hc' | ⟨-, d, ds, rfl, hd⟩
  · rw [← heq.1] at hc'
    cases hc'
  · obtain ⟨rfl, -⟩ := List.cons.inj heq.2
    rw [hdigit] at hd
    cases hd

theorem IsNumeral.unique {n n' rest rest' : List Char} (h : IsNumeral n) (h' : IsNumeral n')
    (hends : Ends rest) (hends' : Ends rest') (heq : n ++ rest = n' ++ rest') :
    n' = n ∧ rest' = rest := by
  obtain ⟨htake, hdrop⟩ := takeWhile_append_of_stops h.numeric hends
  obtain ⟨htake', hdrop'⟩ := takeWhile_append_of_stops h'.numeric hends'
  rw [← heq] at htake' hdrop'
  exact ⟨htake'.symm.trans htake, hdrop'.symm.trans hdrop⟩

/-! ## Strings -/

theorem Escape.unique {e c c' : Char} (h : Escape e c) (h' : Escape e c') : c' = c := by
  cases h <;> cases h' <;> rfl

theorem Escape.ne_u {c : Char} : ¬ Escape 'u' c := by
  intro h
  cases h

theorem Literal.unique {units units' : List Nat} {cs rest rest' : List Char}
    (h : Literal units cs rest) (h' : Literal units' cs rest') :
    units' = units ∧ rest' = rest := by
  induction h generalizing units' with
  | close rest =>
    cases h' with
    | close => exact ⟨rfl, rfl⟩
    | char hquote => exact absurd rfl hquote
  | char hquote hbackslash _ _ ih =>
    cases h' with
    | close => exact absurd rfl hquote
    | char _ _ _ h' =>
      obtain ⟨rfl, rfl⟩ := ih h'
      exact ⟨rfl, rfl⟩
    | escape => exact absurd rfl hbackslash
    | unit => exact absurd rfl hbackslash
  | escape he _ ih =>
    cases h' with
    | char _ hbackslash => exact absurd rfl hbackslash
    | escape he' h' =>
      obtain ⟨rfl, rfl⟩ := ih h'
      rw [he.unique he']
      exact ⟨rfl, rfl⟩
    | unit => exact absurd he Escape.ne_u
  | unit ha hb hc hd _ ih =>
    cases h' with
    | char _ hbackslash => exact absurd rfl hbackslash
    | escape he' => exact absurd he' Escape.ne_u
    | unit ha' hb' hc' hd' h' =>
      obtain ⟨rfl, rfl⟩ := ih h'
      simp_all

/-! ## Values -/

/-- A value begins with something that is neither a blank nor a bracket that
closes an array. -/
theorem Spelled.begins {d : Document} {cs rest : List Char}
    (h : Spelled (.value d) cs rest) :
    ∃ c cs', cs = c :: cs' ∧ isSpace c = false ∧ c ≠ ']' := by
  cases h with
  | @word w _ _ hcs =>
    cases w with
    | bool b => cases b <;> exact ⟨_, _, hcs, rfl, by decide⟩
    | infinite negative => cases negative <;> exact ⟨_, _, hcs, rfl, by decide⟩
    | _ => exact ⟨_, _, hcs, rfl, by decide⟩
  | number hcs hnumeral =>
    obtain ⟨c, cs', rfl, hc⟩ := hnumeral.begins
    refine ⟨c, _, hcs, ?_⟩
    rcases hc with hc | ⟨rfl, -⟩
    · constructor
      · simp only [isSpace, Bool.or_eq_false_iff, beq_eq_false_iff_ne]
        refine ⟨⟨⟨?_, ?_⟩, ?_⟩, ?_⟩ <;> (rintro rfl; cases hc)
      · rintro rfl
        cases hc
    · exact ⟨rfl, by decide⟩
  | _ => exact ⟨_, _, rfl, rfl, by decide⟩

/-- So does a row of items. -/
theorem Spelled.items_begins {ds : List Document} {cs rest : List Char}
    (h : Spelled (.items ds) cs rest) :
    ∃ c cs', cs = c :: cs' ∧ isSpace c = false ∧ c ≠ ']' := by
  cases h with
  | lastItem hitem => exact hitem.begins
  | items hitem => exact hitem.begins

/-- A row of members begins with the quote of a key. -/
theorem Spelled.members_begins {ms : List (List Nat × Document)} {cs rest : List Char}
    (h : Spelled (.members ms) cs rest) : ∃ cs', cs = '"' :: cs' := by
  cases h with
  | lastMember hmember =>
    cases hmember
    exact ⟨_, rfl⟩
  | members hmember =>
    cases hmember
    exact ⟨_, rfl⟩

/-- Every phrase begins with something that is not a blank. -/
theorem Spelled.begins_solid {p : Phrase} {cs rest : List Char} (h : Spelled p cs rest) :
    ∃ c cs', cs = c :: cs' ∧ isSpace c = false := by
  cases p with
  | value d =>
    obtain ⟨c, cs', rfl, hc, -⟩ := h.begins
    exact ⟨c, cs', rfl, hc⟩
  | items ds =>
    obtain ⟨c, cs', rfl, hc, -⟩ := h.items_begins
    exact ⟨c, cs', rfl, hc⟩
  | member m =>
    cases h
    exact ⟨_, _, rfl, rfl⟩
  | members ms =>
    obtain ⟨cs', rfl⟩ := h.members_begins
    exact ⟨_, cs', rfl, rfl⟩

/-- So the blanks in front of it end there. -/
theorem Spelled.start_unique {p p' : Phrase} {cs cs₁ cs₁' rest rest' : List Char}
    (h : Spelled p cs₁ rest) (h' : Spelled p' cs₁' rest') (hblanks : Blanks cs cs₁)
    (hblanks' : Blanks cs cs₁') : cs₁' = cs₁ := by
  obtain ⟨c, tail, rfl, hc⟩ := h.begins_solid
  obtain ⟨c', tail', rfl, hc'⟩ := h'.begins_solid
  obtain ⟨rfl, rfl⟩ := hblanks.unique hblanks' hc hc'
  rfl

/-- What a word does not begin with. -/
theorem Word.ne_cons {w : Word} {c : Char} {cs rest : List Char}
    (hc : c ∉ ['n', 't', 'f', 'N', 'I', '-']) : c :: cs ≠ w.chars ++ rest := by
  intro heq
  refine hc ?_
  cases w with
  | bool b => cases b <;> (cases heq; decide)
  | infinite negative => cases negative <;> (cases heq; decide)
  | _ => cases heq; decide

/-- No word is the beginning of another. -/
theorem Word.unique {w w' : Word} {rest rest' : List Char}
    (h : w.chars ++ rest = w'.chars ++ rest') : w' = w ∧ rest' = rest := by
  rcases w with _ | (_ | _) | _ | (_ | _) <;> rcases w' with _ | (_ | _) | _ | (_ | _) <;>
    simp_all [Word.chars]

/-- A word is no numeral: what begins it is no digit, nor is what follows its
minus. -/
theorem IsNumeral.ne_word {numeral rest rest' : List Char} (h : IsNumeral numeral) (w : Word) :
    w.chars ++ rest ≠ numeral ++ rest' := by
  rcases w with _ | (_ | _) | _ | (_ | _)
  · exact h.ne_cons rfl (by decide)
  · exact h.ne_cons rfl (by decide)
  · exact h.ne_cons rfl (by decide)
  · exact h.ne_cons rfl (by decide)
  · exact h.ne_cons rfl (by decide)
  · exact h.ne_minus_cons rfl

/-- Nothing else of its kind is spelled where the phrase is. -/
def Phrase.Unique (cs rest : List Char) : Phrase → Prop
  | .value d => ∀ d' rest', Spelled (.value d') cs rest' → d' = d ∧ rest' = rest
  | .items ds => ∀ ds' rest', Spelled (.items ds') cs rest' → ds' = ds ∧ rest' = rest
  | .member m => ∀ m' rest', Spelled (.member m') cs rest' → m' = m ∧ rest' = rest
  | .members ms => ∀ ms' rest', Spelled (.members ms') cs rest' → ms' = ms ∧ rest' = rest

/-- By induction on how the phrase is spelled: the first character decides
between the rules for a value, and the character after the blanks between
those for a row. -/
theorem Spelled.unique {p : Phrase} {cs rest : List Char} (h : Spelled p cs rest) :
    p.Unique cs rest := by
  induction h with
  | word hcs =>
    intro d' rest' h'
    cases h' with
    | word hcs' =>
      obtain ⟨rfl, rfl⟩ := Word.unique (hcs.symm.trans hcs')
      exact ⟨rfl, rfl⟩
    | number hcs' hnumeral => exact absurd (hcs.symm.trans hcs') (hnumeral.ne_word _)
    | _ => exact absurd hcs (Word.ne_cons (by decide))
  | number hcs hnumeral hends =>
    intro d' rest' h'
    cases h' with
    | word hcs' => exact absurd (hcs'.symm.trans hcs) (hnumeral.ne_word _)
    | number hcs' hnumeral' hends' =>
      obtain ⟨rfl, rfl⟩ := hnumeral.unique hnumeral' hends hends' (hcs.symm.trans hcs')
      exact ⟨rfl, rfl⟩
    | _ => exact absurd hcs (hnumeral.ne_cons rfl (by decide))
  | text h =>
    intro d' rest' h'
    cases h' with
    | word hcs => exact absurd hcs (Word.ne_cons (by decide))
    | number hcs hnumeral => exact absurd hcs (hnumeral.ne_cons rfl (by decide))
    | text h' =>
      obtain ⟨rfl, rfl⟩ := h.unique h'
      exact ⟨rfl, rfl⟩
  | emptyArray hclose =>
    intro d' rest' h'
    cases h' with
    | word hcs => exact absurd hcs (Word.ne_cons (by decide))
    | number hcs hnumeral => exact absurd hcs (hnumeral.ne_cons rfl (by decide))
    | emptyArray hclose' =>
      obtain ⟨-, rfl⟩ := hclose.unique hclose' rfl rfl
      exact ⟨rfl, rfl⟩
    | array hblanks hitems =>
      obtain ⟨c, cs', rfl, hc, hne⟩ := hitems.items_begins
      exact absurd (hclose.unique hblanks rfl hc).1 hne
  | array hblanks hitems ih =>
    intro d' rest' h'
    cases h' with
    | word hcs => exact absurd hcs (Word.ne_cons (by decide))
    | number hcs hnumeral => exact absurd hcs (hnumeral.ne_cons rfl (by decide))
    | emptyArray hclose =>
      obtain ⟨c, cs', rfl, hc, hne⟩ := hitems.items_begins
      exact absurd (hclose.unique hblanks rfl hc).1 hne
    | array hblanks' hitems' =>
      cases hitems.start_unique hitems' hblanks hblanks'
      obtain ⟨rfl, rfl⟩ := ih _ _ hitems'
      exact ⟨rfl, rfl⟩
  | emptyObject hclose =>
    intro d' rest' h'
    cases h' with
    | word hcs => exact absurd hcs (Word.ne_cons (by decide))
    | number hcs hnumeral => exact absurd hcs (hnumeral.ne_cons rfl (by decide))
    | emptyObject hclose' =>
      obtain ⟨-, rfl⟩ := hclose.unique hclose' rfl rfl
      exact ⟨rfl, rfl⟩
    | object hblanks hmembers =>
      obtain ⟨cs', rfl⟩ := hmembers.members_begins
      cases (hclose.unique hblanks rfl rfl).1
  | object hblanks hmembers ih =>
    intro d' rest' h'
    cases h' with
    | word hcs => exact absurd hcs (Word.ne_cons (by decide))
    | number hcs hnumeral => exact absurd hcs (hnumeral.ne_cons rfl (by decide))
    | emptyObject hclose =>
      obtain ⟨cs', rfl⟩ := hmembers.members_begins
      cases (hclose.unique hblanks rfl rfl).1
    | object hblanks' hmembers' =>
      cases hmembers.start_unique hmembers' hblanks hblanks'
      obtain ⟨rfl, rfl⟩ := ih _ _ hmembers'
      exact ⟨rfl, rfl⟩
  | lastItem _ hclose ih =>
    intro ds' rest' h'
    cases h' with
    | lastItem hitem' hclose' =>
      obtain ⟨rfl, rfl⟩ := ih _ _ hitem'
      obtain ⟨-, rfl⟩ := hclose.unique hclose' rfl rfl
      exact ⟨rfl, rfl⟩
    | items hitem' hcomma' =>
      obtain ⟨rfl, rfl⟩ := ih _ _ hitem'
      cases (hclose.unique hcomma' rfl rfl).1
  | items _ hcomma hblanks hitems ih ihs =>
    intro ds' rest' h'
    cases h' with
    | lastItem hitem' hclose' =>
      obtain ⟨rfl, rfl⟩ := ih _ _ hitem'
      cases (hcomma.unique hclose' rfl rfl).1
    | items hitem' hcomma' hblanks' hitems' =>
      obtain ⟨rfl, rfl⟩ := ih _ _ hitem'
      obtain ⟨-, rfl⟩ := hcomma.unique hcomma' rfl rfl
      cases hitems.start_unique hitems' hblanks hblanks'
      obtain ⟨rfl, rfl⟩ := ihs _ _ hitems'
      exact ⟨rfl, rfl⟩
  | member hkey hcolon hblanks hvalue ih =>
    intro m' rest' h'
    cases h' with
    | member hkey' hcolon' hblanks' hvalue' =>
      obtain ⟨rfl, rfl⟩ := hkey.unique hkey'
      obtain ⟨-, rfl⟩ := hcolon.unique hcolon' rfl rfl
      cases hvalue.start_unique hvalue' hblanks hblanks'
      obtain ⟨rfl, rfl⟩ := ih _ _ hvalue'
      exact ⟨rfl, rfl⟩
  | lastMember _ hclose ih =>
    intro ms' rest' h'
    cases h' with
    | lastMember hmember' hclose' =>
      obtain ⟨rfl, rfl⟩ := ih _ _ hmember'
      obtain ⟨-, rfl⟩ := hclose.unique hclose' rfl rfl
      exact ⟨rfl, rfl⟩
    | members hmember' hcomma' =>
      obtain ⟨rfl, rfl⟩ := ih _ _ hmember'
      cases (hclose.unique hcomma' rfl rfl).1
  | members _ hcomma hblanks hmembers ih ihs =>
    intro ms' rest' h'
    cases h' with
    | lastMember hmember' hclose' =>
      obtain ⟨rfl, rfl⟩ := ih _ _ hmember'
      cases (hcomma.unique hclose' rfl rfl).1
    | members hmember' hcomma' hblanks' hmembers' =>
      obtain ⟨rfl, rfl⟩ := ih _ _ hmember'
      obtain ⟨-, rfl⟩ := hcomma.unique hcomma' rfl rfl
      cases hmembers.start_unique hmembers' hblanks hblanks'
      obtain ⟨rfl, rfl⟩ := ihs _ _ hmembers'
      exact ⟨rfl, rfl⟩

/-- A text says one thing. -/
theorem IsText.unique {d d' : Document} {cs : List Char} (h : IsText d cs)
    (h' : IsText d' cs) : d' = d := by
  obtain ⟨cs₁, cs₂, hbefore, hvalue, -⟩ := h
  obtain ⟨cs₁', cs₂', hbefore', hvalue', -⟩ := h'
  cases hvalue.start_unique hvalue' hbefore hbefore'
  exact (hvalue.unique _ _ hvalue').1

/-- So whether it is strict is a matter of what it says. -/
theorem IsText.isStrict_iff {d : Document} {cs : List Char} (h : IsText d cs) :
    IsStrict cs ↔ d.Strict := by
  constructor
  · rintro ⟨d', h', hstrict⟩
    rw [← h.unique h']
    exact hstrict
  · intro hstrict
    exact ⟨d, h, hstrict⟩

end PushRelay.Json
