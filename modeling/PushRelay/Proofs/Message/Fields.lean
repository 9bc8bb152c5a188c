import PushRelay.Message.Translation

/-!
# The fields of a wire message

A wire message is written as records in records. Whatever holds of a record
just in case it holds of all its fields is decided for the whole by the values
of the message, of which those that hold nothing are left out.
-/

namespace PushRelay

/-! ## Fields that may be left out -/

section

variable (P : Value → Prop) (name : String) (v : Value)

theorem forall_mem_whenPresent_iff :
    (∀ f ∈ whenPresent name v, P f.2) ↔ (v.truthy = true → P v) := by
  unfold whenPresent
  split <;> simp_all

theorem forall_mem_whenSet_iff :
    (∀ f ∈ whenSet name v, P f.2) ↔ (v.truthy = true → P (.bool true)) := by
  unfold whenSet
  split <;> simp_all

theorem lookup_whenPresent (key : String) :
    (whenPresent name v).lookup key = if key = name ∧ v.truthy = true then some v else none := by
  unfold whenPresent
  by_cases hkey : key = name
  · subst hkey
    split <;> simp_all
  · split <;> simp [List.lookup_cons, beq_false_of_ne hkey, hkey]

theorem lookup_whenSet_iff (key : String) :
    (whenSet name v).lookup key =
      if key = name ∧ v.truthy = true then some (.bool true) else none := by
  unfold whenSet
  by_cases hkey : key = name
  · subst hkey
    split <;> simp_all
  · split <;> simp [List.lookup_cons, beq_false_of_ne hkey, hkey]

end

theorem lookup_whenSet {key name : String} (h : key ≠ name) (v : Value) :
    (whenSet name v).lookup key = none := by
  simp [lookup_whenSet_iff, h]

/-! ## Names -/

/-- The fields have some of the given names, in their order. -/
def Named (names : List String) (fields : List (String × Value)) : Prop :=
  (fields.map (·.1)).Sublist names

/-- No name comes twice among the fields. -/
def DistinctNames (fields : List (String × Value)) : Prop := (fields.map (·.1)).Nodup

theorem mem_of_lookup {fields : List (String × Value)} {name : String} {v : Value}
    (h : fields.lookup name = some v) : (name, v) ∈ fields := by
  obtain ⟨before, after, rfl, -⟩ := List.lookup_eq_some_iff.mp h
  simp

namespace Named

theorem one (name : String) (v : Value) : Named [name] [(name, v)] := .refl _

theorem whenPresent (name : String) (v : Value) : Named [name] (whenPresent name v) := by
  unfold Named PushRelay.whenPresent
  split <;> simp

theorem whenSet (name : String) (v : Value) : Named [name] (whenSet name v) := by
  unfold Named PushRelay.whenSet
  split <;> simp

theorem append {names names' : List String} {fields fields' : List (String × Value)}
    (h : Named names fields) (h' : Named names' fields') :
    Named (names ++ names') (fields ++ fields') := by
  unfold Named
  rw [List.map_append]
  exact List.Sublist.append h h'

theorem distinct {names : List String} {fields : List (String × Value)} (h : Named names fields)
    (hnames : names.Nodup) : DistinctNames fields := hnames.sublist h

end Named

/-! ## Records in records -/

/-- What holds of a record just in case it holds of its fields, if no name
comes twice among them. -/
def OfFields (P : Value → Prop) : Prop :=
  ∀ fields, DistinctNames fields → (P (.record fields) ↔ ∀ f ∈ fields, P f.2)

/-- The values that are written for a wire message if they hold something. -/
def WireMessage.optionalValues (w : WireMessage) : List Value := [
  w.collapseKey, w.notification.title, w.notification.body, w.data, w.timeToLive,
  w.packageName, w.android.notification.clickAction, w.android.notification.tag,
  w.android.priority]

section

variable {P : Value → Prop} (hrecord : OfFields P)

include hrecord

theorem WireNotification.toDict_iff (n : WireNotification) :
    P n.toDict ↔ (n.title.truthy = true → P n.title) ∧ (n.body.truthy = true → P n.body) := by
  have hnames := ((Named.whenPresent "title" n.title).append (.whenPresent "body" n.body)).distinct
    (by decide)
  rw [toDict, hrecord _ hnames, List.forall_mem_append]
  simp only [forall_mem_whenPresent_iff P]

theorem AndroidNotification.toDict_iff (n : AndroidNotification) :
    P n.toDict ↔
      (n.clickAction.truthy = true → P n.clickAction) ∧ (n.tag.truthy = true → P n.tag) := by
  have hnames := ((Named.whenPresent "click_action" n.clickAction).append
    (.whenPresent "tag" n.tag)).distinct (by decide)
  rw [toDict, hrecord _ hnames, List.forall_mem_append]
  simp only [forall_mem_whenPresent_iff P]

theorem AndroidBlock.toDict_iff (b : AndroidBlock) :
    P b.toDict ↔ P b.notification.toDict ∧ (b.priority.truthy = true → P b.priority) := by
  have hnames := ((Named.one "notification" b.notification.toDict).append
    (.whenPresent "priority" b.priority)).distinct (by decide)
  show P (.record ([("notification", b.notification.toDict)] ++
    whenPresent "priority" b.priority)) ↔ _
  rw [hrecord _ hnames, List.forall_mem_append, List.forall_mem_singleton]
  simp only [forall_mem_whenPresent_iff P]

namespace WireMessage

theorem toDict_iff (hflag : P (.bool true)) (w : WireMessage) :
    P w.toDict ↔ P w.token ∧ (w.collapseKey.truthy = true → P w.collapseKey) ∧
      P w.notification.toDict ∧ (w.data.truthy = true → P w.data) ∧
      (w.timeToLive.truthy = true → P w.timeToLive) ∧
      (w.packageName.truthy = true → P w.packageName) ∧ P w.android.toDict := by
  have hnames := ((Named.one "token" w.token).append (.whenPresent "collapse_key" w.collapseKey)
    |>.append (.one "notification" w.notification.toDict)
    |>.append (.whenPresent "data" w.data)
    |>.append (.whenSet "delay_while_idle" w.delayWhileIdle)
    |>.append (.whenPresent "time_to_live" w.timeToLive)
    |>.append (.whenPresent "restricted_package_name" w.packageName)
    |>.append (.whenSet "dry_run" w.dryRun)
    |>.append (.one "android" w.android.toDict)).distinct (by decide)
  rw [toDict, hrecord _ hnames]
  simp only [List.forall_mem_append, List.forall_mem_singleton, forall_mem_whenPresent_iff P,
    forall_mem_whenSet_iff P, hflag, implies_true, and_true, and_assoc]

/-- The whole that is written comes down to the values of the message. -/
theorem envelope_iff (hflag : P (.bool true)) (w : WireMessage) :
    P w.envelope ↔ P w.token ∧ ∀ v ∈ w.optionalValues, v.truthy = true → P v := by
  have hnames := (Named.one "message" w.toDict).distinct (by decide)
  rw [envelope, hrecord _ hnames, List.forall_mem_singleton, toDict_iff hrecord hflag,
    WireNotification.toDict_iff hrecord, AndroidBlock.toDict_iff hrecord,
    AndroidNotification.toDict_iff hrecord]
  simp only [optionalValues, List.forall_mem_cons]
  grind

end WireMessage

end

end PushRelay
