import PushRelay.Proofs.Message.Fields
import PushRelay.Scope

/-!
# Bindings

What becomes of bindings as further ones are added: which names there are, and
which value each name has. A name keeps its place, and has the value that came
in last.
-/

namespace PushRelay
namespace Bindings

/-! ## Nothing is left out -/

theorem update_append (bindings first second : Bindings) :
    bindings.update (first ++ second) = (bindings.update first).update second := by
  induction first generalizing bindings with
  | nil => rfl
  | cons entry first ih => exact ih (put entry.1 entry.2 bindings)

theorem put_ne_nil (name : String) (v : Value) (bindings : Bindings) :
    put name v bindings ≠ [] := by
  cases bindings with
  | nil => simp [put]
  | cons entry rest =>
    simp only [put]
    split <;> simp

theorem update_eq_nil_iff {bindings values : Bindings} :
    bindings.update values = [] ↔ bindings = [] ∧ values = [] := by
  induction values generalizing bindings with
  | nil => simp [update]
  | cons entry values ih => simp [update, ih, put_ne_nil]

/-! ## New names -/

theorem put_of_fresh {bindings : Bindings} {name : String} (v : Value)
    (h : name ∉ bindings.map (·.1)) : put name v bindings = bindings ++ [(name, v)] := by
  induction bindings with
  | nil => rfl
  | cons f fs ih =>
    obtain ⟨n, w⟩ := f
    simp only [List.map_cons, List.mem_cons, not_or] at h
    simp [put, Ne.symm h.1, ih h.2]

/-- Names that are not there yet are put at the end, in their order. -/
theorem update_of_fresh {bindings values : Bindings} (h : DistinctNames (bindings ++ values)) :
    bindings.update values = bindings ++ values := by
  induction values generalizing bindings with
  | nil => simp [update]
  | cons f fs ih =>
    obtain ⟨name, v⟩ := f
    have hname : name ∉ bindings.map (·.1) := by
      intro hmem
      rw [DistinctNames, List.map_append, List.nodup_append] at h
      exact h.2.2 _ hmem _ List.mem_cons_self rfl
    rw [update, put_of_fresh v hname, ih (by simpa [DistinctNames] using h)]
    simp

/-! ## The values that there are -/

theorem forall_mem_put {P : String × Value → Prop} {name : String} {v : Value}
    {bindings : Bindings} (hv : P (name, v)) (h : ∀ f ∈ bindings, P f) :
    ∀ f ∈ put name v bindings, P f := by
  induction bindings with
  | nil => exact List.forall_mem_singleton.mpr hv
  | cons g gs ih =>
    obtain ⟨n, w⟩ := g
    obtain ⟨hg, hgs⟩ := List.forall_mem_cons.mp h
    rw [put]
    split
    · rename_i hn
      exact List.forall_mem_cons.mpr ⟨hn ▸ hv, hgs⟩
    · exact List.forall_mem_cons.mpr ⟨hg, ih hgs⟩

/-- What holds of all bindings, and of all that are added, holds of all
afterwards. -/
theorem forall_mem_update {P : String × Value → Prop} {bindings values : Bindings}
    (h : ∀ f ∈ bindings, P f) (hvalues : ∀ f ∈ values, P f) :
    ∀ f ∈ bindings.update values, P f := by
  induction values generalizing bindings with
  | nil => exact h
  | cons g gs ih =>
    obtain ⟨hg, hgs⟩ := List.forall_mem_cons.mp hvalues
    exact ih (forall_mem_put hg h) hgs

/-! ## The last value -/

theorem lookup_cons (name : String) (v : Value) (bindings : Bindings) (key : String) :
    ((name, v) :: bindings).lookup key = if key = name then some v else bindings.lookup key := by
  rw [List.lookup_cons]
  by_cases h : key = name
  · simp [h]
  · simp [h, beq_false_of_ne h]

theorem lookup_of_fresh {bindings : Bindings} {name : String}
    (h : name ∉ bindings.map (·.1)) : bindings.lookup name = none := by
  rw [List.lookup_eq_none_iff]
  intro f hf
  have hne : name ≠ f.1 := fun heq => h (heq ▸ List.mem_map_of_mem hf)
  simp [hne]

theorem lookup_of_named {names : List String} {bindings : Bindings} (h : Named names bindings)
    {name : String} (hname : name ∉ names) : bindings.lookup name = none :=
  lookup_of_fresh fun hmem => hname (h.subset hmem)

theorem lookup_of_mem {bindings : Bindings} (h : DistinctNames bindings) {f : String × Value}
    (hf : f ∈ bindings) : bindings.lookup f.1 = some f.2 := by
  induction bindings with
  | nil => cases hf
  | cons g gs ih =>
    obtain ⟨hg, hgs⟩ := List.nodup_cons.mp h
    rw [lookup_cons]
    rcases List.mem_cons.mp hf with rfl | hf
    · exact if_pos rfl
    · have hne : f.1 ≠ g.1 := fun heq => hg (List.mem_map.mpr ⟨f, hf, heq⟩)
      rw [if_neg hne, ih hgs hf]

theorem lookup_put (name : String) (v : Value) (bindings : Bindings) (key : String) :
    (put name v bindings).lookup key = if key = name then some v else bindings.lookup key := by
  induction bindings with
  | nil => exact lookup_cons name v [] key
  | cons f fs ih =>
    obtain ⟨n, w⟩ := f
    rw [put]
    split
    · rename_i hn
      rw [lookup_cons, lookup_cons, hn]
      split <;> rfl
    · rename_i hn
      rw [lookup_cons, lookup_cons, ih]
      split
      · rename_i hkey
        rw [if_neg (hkey ▸ hn)]
      · rfl

/-- Of values with different names each is found under its name. -/
theorem lookup_update {values : Bindings} (h : DistinctNames values) (bindings : Bindings)
    (key : String) :
    (bindings.update values).lookup key = (values.lookup key).or (bindings.lookup key) := by
  induction values generalizing bindings with
  | nil => rfl
  | cons f fs ih =>
    obtain ⟨name, v⟩ := f
    obtain ⟨hname, hfs⟩ := List.nodup_cons.mp h
    rw [update, ih hfs, lookup_put, lookup_cons]
    split
    · rename_i hkey
      rw [hkey, lookup_of_fresh hname]
      rfl
    · rfl

theorem names_put (name : String) (v : Value) (bindings : Bindings) :
    (put name v bindings).map (·.1) =
      if name ∈ bindings.map (·.1) then bindings.map (·.1) else bindings.map (·.1) ++ [name] := by
  induction bindings with
  | nil => rfl
  | cons f fs ih =>
    obtain ⟨n, w⟩ := f
    by_cases hn : n = name
    · simp [put, hn]
    · simp only [put, if_neg hn, List.map_cons, ih, List.mem_cons, Ne.symm hn, false_or]
      split <;> rfl

theorem distinct_put {bindings : Bindings} (h : DistinctNames bindings) (name : String)
    (v : Value) : DistinctNames (put name v bindings) := by
  unfold DistinctNames
  rw [names_put]
  split
  · exact h
  · rename_i hfresh
    rw [List.nodup_append]
    refine ⟨h, by simp, ?_⟩
    rintro n hn m hm rfl
    cases List.mem_singleton.mp hm
    exact hfresh hn

theorem distinct_update {bindings : Bindings} (h : DistinctNames bindings) (values : Bindings) :
    DistinctNames (bindings.update values) := by
  induction values generalizing bindings with
  | nil => exact h
  | cons f fs ih => exact ih (distinct_put h f.1 f.2)

end Bindings

theorem Tags.distinct_fields (tags : Tags) : DistinctNames tags.fields := by
  refine Bindings.distinct_update ?_ _
  unfold DistinctNames
  split <;> simp

/-- Only the id of a batch is no binding. -/
theorem Tags.forall_mem_fields {P : String × Value → Prop} {tags : Tags}
    (h : ∀ f ∈ tags.bindings, P f) : ∀ f ∈ tags.fields, f.1 = "batch_id" ∨ P f := by
  refine Bindings.forall_mem_update ?_ fun f hf => .inr (h f hf)
  intro f hf
  split at hf
  · cases List.mem_singleton.mp hf
    exact .inl rfl
  · cases hf

end PushRelay
