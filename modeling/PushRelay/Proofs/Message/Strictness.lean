import PushRelay.Proofs.Json.Strictness
import PushRelay.Proofs.Message.Body

/-!
# Strict bodies

The data rule asks the writer of bodies whether the data can be written, and
the writer has words for NaN and the infinities and takes any two keys. So an
accepted message may have a body that is no JSON text by the standard. Whether
it has is decided by the values that are written for it.
-/

namespace PushRelay

open Json (IsStrict Regular)

theorem WireMessage.isStrict_iff {w : WireMessage} {body : String} (h : w.encode = .ok body) :
    IsStrict body.toList ↔
      Regular w.token ∧ ∀ v ∈ w.optionalValues, v.truthy = true → Regular v := by
  have hwrite : Json.write w.envelope = .ok body := by
    unfold encode at h
    split at h
    · cases h
      assumption
    · cases h
  have hrecord : OfFields Regular := fun _ hnames => Json.regular_record_iff hnames
  rw [Json.isStrict_iff_regular hwrite, envelope_iff hrecord (.bool true)]

namespace Message

/-- The body for a target of an accepted message is a JSON text by the
standard just in case the target, the data and the values that no rule looks
at are regular, as far as they are written. -/
theorem body_isStrict_iff {m : Message} {config : Config} {target : Value} {w : WireMessage}
    {body : String} (hv : validate (some m) config = .ok m)
    (hw : translate (some m) target = .ok w) (hbody : w.encode = .ok body) :
    ∃ n, m.notification = .notification n ∧ (IsStrict body.toList ↔
      Regular target ∧ ∀ v ∈ m.data :: m.unchecked n, v.truthy = true → Regular v) := by
  obtain ⟨-, -, -, hpriority, -⟩ := validate_eq_ok_iff.mp hv
  obtain ⟨s, hs⟩ := checkPriority_ok hpriority
  have hpriority : Regular m.priority := hs ▸ .text s
  obtain ⟨n, hn, -⟩ := bind_eq_ok_iff.mp hw
  have hnotice : m.notification = .notification n := by
    unfold notificationOf at hn
    split at hn
    · rename_i hnotice
      cases hn
      exact hnotice
    · split at hn <;> cases hn
  refine ⟨n, hnotice, ?_⟩
  rw [translate_eq_wireFor hn] at hw
  cases hw
  rw [WireMessage.isStrict_iff hbody]
  simp only [wireFor, WireMessage.optionalValues, unchecked, List.forall_mem_cons]
  grind

/-- A tuple, a finite double and a key that is a number do no harm. -/
theorem body_isStrict_of_finite :
    let m := ofData (.dict [(.int 1, .tuple [.float (.finite false 1 (-1)), .null])])
      [.text "first"]
    ∃ body, validate (some m) {} = .ok m ∧ (m.wireFor {} (.text "first")).encode = .ok body ∧
      IsStrict body.toList := by
  intro m
  have hv : validate (some m) {} = .ok m := rfl
  have hw : translate (some m) (.text "first") = .ok (m.wireFor {} (.text "first")) := rfl
  obtain ⟨body, hbody⟩ : ∃ body, (m.wireFor {} (.text "first")).encode = .ok body := ⟨_, rfl⟩
  obtain ⟨n, hn, hstrict⟩ := body_isStrict_iff hv hw hbody
  refine ⟨body, hv, hbody, hstrict.mpr ⟨.text _, ?_⟩⟩
  have hdata : Regular m.data := by
    refine .dict (by decide) (List.forall_mem_singleton.mpr (.tuple ?_))
    exact List.forall_mem_cons.mpr ⟨.float _ _ _, List.forall_mem_singleton.mpr .null⟩
  cases hn
  simp only [unchecked, List.forall_mem_cons]
  exact ⟨fun _ => hdata, fun _ => .text _, fun _ => .text _, fun _ => .text _, fun _ => .text _,
    fun _ => .text _, fun _ => .text _, fun _ => .int _, List.forall_mem_nil _⟩

/-- Data that are not regular spoil the body that carries them. -/
theorem not_strict_of_data {m : Message} {n : Notification} {target : Value} {body : String}
    (hpresent : m.data.truthy = true) (hdata : ¬ Regular m.data)
    (hbody : (m.wireFor n target).encode = .ok body) : ¬ IsStrict body.toList := by
  rw [WireMessage.isStrict_iff hbody]
  rintro ⟨-, h⟩
  exact hdata (h m.data (by simp [WireMessage.optionalValues, wireFor]) hpresent)

/-- A NaN is accepted and written as a word, and so are two keys that are
written alike. -/
theorem bodies_not_strict :
    (let m := ofData (.record [("v", .float .nan)]) [.text "first"]
      ∃ body, validate (some m) {} = .ok m ∧
        (m.wireFor {} (.text "first")).encode = .ok body ∧ ¬ IsStrict body.toList) ∧
    (let m := ofData (.dict [(.int 1, .text "a"), (.text "1", .text "b")]) [.text "first"]
      ∃ body, validate (some m) {} = .ok m ∧
        (m.wireFor {} (.text "first")).encode = .ok body ∧ ¬ IsStrict body.toList) := by
  constructor
  · intro m
    obtain ⟨body, hbody⟩ : ∃ body, (m.wireFor {} (.text "first")).encode = .ok body := ⟨_, rfl⟩
    refine ⟨body, rfl, hbody, not_strict_of_data rfl ?_ hbody⟩
    intro hdata
    have hfields := (Json.regular_record_iff (by decide)).mp hdata
    cases hfields _ List.mem_cons_self
  · intro m
    obtain ⟨body, hbody⟩ : ∃ body, (m.wireFor {} (.text "first")).encode = .ok body := ⟨_, rfl⟩
    refine ⟨body, rfl, hbody, not_strict_of_data rfl ?_ hbody⟩
    intro hdata
    have hkeys := (Json.regular_dict_iff.mp hdata).1
    exact absurd hkeys (by decide)

end Message
end PushRelay
