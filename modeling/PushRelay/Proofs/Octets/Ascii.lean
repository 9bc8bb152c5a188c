import PushRelay.Octets.Encoding

/-!
# Octets of ASCII text

A text of ASCII characters without the character zero is one octet for each
character in UTF-8, and its octets are taken for UTF-8 and decoded to the text
again.
-/

namespace PushRelay.Octets

/-- The octets of a text. -/
def ofText (s : String) : List UInt8 := s.toUTF8.data.toList

/-- All characters are of ASCII, and none is zero. -/
def IsAsciiText (cs : List Char) : Prop := ∀ c ∈ cs, 0 < c.toNat ∧ c.toNat < 0x80

/-- The octet of an ASCII character. -/
def octet (c : Char) : UInt8 := UInt8.ofNat c.toNat

theorem toNat_octet {c : Char} (h : c.toNat < 0x80) : (octet c).toNat = c.toNat := by
  simp [octet]
  omega

theorem ofText_of_ascii {s : String} (h : IsAsciiText s.toList) :
    ofText s = s.toList.map octet := by
  have hall : ∀ cs : List Char, IsAsciiText cs →
      cs.flatMap String.utf8EncodeChar = cs.map octet := by
    intro cs hcs
    induction cs with
    | nil => rfl
    | cons c cs ih =>
      obtain ⟨hc, hcs⟩ := List.forall_mem_cons.mp hcs
      have hle : c.val.toNat ≤ 127 := Nat.le_of_lt_succ hc.2
      have hchar : String.utf8EncodeChar c = [octet c] := by
        simp only [String.utf8EncodeChar, hle, if_true]
        rfl
      rw [List.flatMap_cons, hchar, ih hcs]
      rfl
  have hs : s.toUTF8 = s.toList.utf8Encode := by
    rw [← String.toByteArray_ofList, String.ofList_toList, String.toUTF8_eq_toByteArray]
  rw [ofText, hs, ← hall _ h]
  exact List.toList_data_toByteArray

theorem decodeFrom_ascii {cs : List Char} (h : IsAsciiText cs) (position : Nat) :
    Encoding.utf8.decodeFrom position (cs.map octet) = .ok cs := by
  induction cs generalizing position with
  | nil => rw [List.map_nil, Encoding.decodeFrom]
  | cons c cs ih =>
    obtain ⟨hc, hcs⟩ := List.forall_mem_cons.mp h
    have hpiece : Encoding.utf8.piece (octet c) (cs.map octet) = ⟨0, .ok c⟩ := by
      simp [Encoding.piece, utf8Piece, toNat_octet hc.2, hc.2, Char.ofNat_toNat]
    rw [List.map_cons, Encoding.decodeFrom, hpiece]
    show (do
      let cs ← Encoding.utf8.decodeFrom (position + 1) (cs.map octet)
      .ok (c :: cs)) = _
    rw [ih hcs]
    rfl

/-- Every byte order mark begins with an octet that is zero or not of ASCII. -/
theorem find_byteOrderMark_of_ascii {octets : List UInt8}
    (h : ∀ a ∈ octets, a ≠ 0 ∧ a.toNat < 0x80) :
    byteOrderMarks.find? (·.1.isPrefixOf octets) = none := by
  rw [List.find?_eq_none]
  cases octets with
  | nil => decide
  | cons a rest =>
    have hzero : 0 ≠ a := (h a List.mem_cons_self).1.symm
    have hhigh : ∀ n : UInt8, 0x80 ≤ n.toNat → n ≠ a := by
      rintro n hn rfl
      have hlow := (h n List.mem_cons_self).2
      omega
    simp [byteOrderMarks, hzero, hhigh]

/-- Without a zero and without what a mark begins with, octets are taken for
UTF-8. -/
theorem detect_of_ascii {octets : List UInt8} (h : ∀ a ∈ octets, a ≠ 0 ∧ a.toNat < 0x80) :
    detect octets = (.utf8, 0) := by
  have hzeros : detectByZeros octets = .utf8 := by
    unfold detectByZeros
    split <;> simp_all
  rw [detect, find_byteOrderMark_of_ascii h, hzeros]

/-- The octets of such a text are decoded to the text. -/
theorem decodeDetected_ofText {s : String} (h : IsAsciiText s.toList) :
    decodeDetected (ofText s) = .ok s.toList := by
  have hoctets : ∀ a ∈ s.toList.map octet, a ≠ 0 ∧ a.toNat < 0x80 := by
    refine List.forall_mem_map.mpr fun c hc => ?_
    obtain ⟨hpos, hlt⟩ := h c hc
    rw [toNat_octet hlt]
    refine ⟨?_, hlt⟩
    intro hzero
    have hnat := toNat_octet hlt
    rw [hzero] at hnat
    exact absurd hnat (Nat.ne_of_lt hpos)
  rw [ofText_of_ascii h, decodeDetected, detect_of_ascii hoctets]
  exact decodeFrom_ascii h 0

end PushRelay.Octets
