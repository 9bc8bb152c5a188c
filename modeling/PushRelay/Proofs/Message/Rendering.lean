import PushRelay.Proofs.Message.Records
import PushRelay.Proofs.Message.RoundTrip

/-!
# Renderings

The wire dictionary of a message leaves out what holds nothing, and moves some
fields into blocks. Nothing is lost by that: two messages of the declared types
have equal dictionaries just if they say the same. And every field stands in
its own block and nowhere else.
-/

namespace PushRelay

/-! ## Equal wire dictionaries -/

theorem WireNotification.toDict_equals_iff (n n' : WireNotification) :
    n.toDict.equals n'.toDict = true ↔
      EqualIfPresent n.title n'.title ∧ EqualIfPresent n.body n'.body :=
  ((Paired.whenPresent "title" n.title n'.title).append
    (.whenPresent "body" n.body n'.body) (by decide)).equals_iff

theorem AndroidNotification.toDict_equals_iff (n n' : AndroidNotification) :
    n.toDict.equals n'.toDict = true ↔
      EqualIfPresent n.clickAction n'.clickAction ∧ EqualIfPresent n.tag n'.tag :=
  ((Paired.whenPresent "click_action" n.clickAction n'.clickAction).append
    (.whenPresent "tag" n.tag n'.tag) (by decide)).equals_iff

theorem AndroidBlock.toDict_equals_iff (b b' : AndroidBlock) :
    b.toDict.equals b'.toDict = true ↔
      b.notification.toDict.equals b'.notification.toDict = true ∧
        EqualIfPresent b.priority b'.priority :=
  ((Paired.one "notification" b.notification.toDict b'.notification.toDict).append
    (.whenPresent "priority" b.priority b'.priority) (by decide)).equals_iff

/-- When two wire messages have equal dictionaries. -/
structure WireMessage.Alike (w w' : WireMessage) : Prop where
  token : w.token.equals w'.token = true
  collapseKey : EqualIfPresent w.collapseKey w'.collapseKey
  title : EqualIfPresent w.notification.title w'.notification.title
  body : EqualIfPresent w.notification.body w'.notification.body
  data : EqualIfPresent w.data w'.data
  delayWhileIdle : w.delayWhileIdle.truthy = w'.delayWhileIdle.truthy
  timeToLive : EqualIfPresent w.timeToLive w'.timeToLive
  packageName : EqualIfPresent w.packageName w'.packageName
  dryRun : w.dryRun.truthy = w'.dryRun.truthy
  clickAction :
    EqualIfPresent w.android.notification.clickAction w'.android.notification.clickAction
  tag : EqualIfPresent w.android.notification.tag w'.android.notification.tag
  priority : EqualIfPresent w.android.priority w'.android.priority

theorem WireMessage.toDict_equals_iff (w w' : WireMessage) :
    w.toDict.equals w'.toDict = true ↔ w.Alike w' := by
  have hpaired := (Paired.one "token" w.token w'.token)
    |>.append (.whenPresent "collapse_key" w.collapseKey w'.collapseKey) (by decide)
    |>.append (.one "notification" w.notification.toDict w'.notification.toDict) (by decide)
    |>.append (.whenPresent "data" w.data w'.data) (by decide)
    |>.append (.whenSet "delay_while_idle" w.delayWhileIdle w'.delayWhileIdle) (by decide)
    |>.append (.whenPresent "time_to_live" w.timeToLive w'.timeToLive) (by decide)
    |>.append (.whenPresent "restricted_package_name" w.packageName w'.packageName) (by decide)
    |>.append (.whenSet "dry_run" w.dryRun w'.dryRun) (by decide)
    |>.append (.one "android" w.android.toDict w'.android.toDict) (by decide)
  rw [toDict, toDict, hpaired.equals_iff, WireNotification.toDict_equals_iff,
    AndroidBlock.toDict_equals_iff, AndroidNotification.toDict_equals_iff]
  simp only [and_assoc]
  constructor
  · rintro ⟨htoken, hkey, htitle, hbody, hdata, hidle, httl, hpackage, hdry, haction, htag,
      hpriority⟩
    exact ⟨htoken, hkey, htitle, hbody, hdata, hidle, httl, hpackage, hdry, haction, htag,
      hpriority⟩
  · intro h
    exact ⟨h.token, h.collapseKey, h.title, h.body, h.data, h.delayWhileIdle, h.timeToLive,
      h.packageName, h.dryRun, h.clickAction, h.tag, h.priority⟩

/-! ## Blocks -/

theorem Value.at?_leaf {v : Value} (h : v.entries? = none) (path : List String) (name : String) :
    v.at? (path ++ [name]) = none := by
  cases path <;> simp [at?, h]

/-- A path that goes on through a field of a record goes nowhere if the field
is no dictionary. -/
theorem Value.at?_record_leaf {fields : List (String × Value)} {x : String}
    (h : ∀ f ∈ fields, f.1 = x → f.2.entries? = none) (path : List String) (name : String) :
    (Value.record fields).at? (x :: path ++ [name]) = none := by
  rw [List.cons_append, at?_record]
  cases hx : fields.lookup x with
  | none => rfl
  | some v => exact at?_leaf (h _ (mem_of_lookup hx) rfl) path name

theorem Value.at?_record_here (fields : List (String × Value)) (name : String) :
    (Value.record fields).at? ([] ++ [name]) = fields.lookup name := by
  rw [List.nil_append, at?_record]
  cases fields.lookup name <;> rfl

/-- In a record with no dictionary in it, only paths of one name lead anywhere. -/
theorem Value.at?_record_flat {fields : List (String × Value)}
    (h : ∀ f ∈ fields, f.2.entries? = none) (path : List String) (name : String) :
    (Value.record fields).at? (path ++ [name]) =
      if path = [] then fields.lookup name else none := by
  cases path with
  | nil => exact at?_record_here fields name
  | cons x path => exact at?_record_leaf (fun f hf _ => h f hf) path name

/-- The fields of the part that every platform shows. -/
def WireNotification.fields (n : WireNotification) : List (String × Value) :=
  whenPresent "title" n.title ++ whenPresent "body" n.body

/-- The fields of the part that only concerns one platform. -/
def AndroidNotification.fields (n : AndroidNotification) : List (String × Value) :=
  whenPresent "click_action" n.clickAction ++ whenPresent "tag" n.tag

/-- The fields of the block. -/
def AndroidBlock.fields (b : AndroidBlock) : List (String × Value) :=
  [("notification", b.notification.toDict)] ++ whenPresent "priority" b.priority

namespace WireMessage

/-- The fields of the whole. -/
def fields (m : WireMessage) : List (String × Value) :=
  [("token", m.token)] ++ whenPresent "collapse_key" m.collapseKey ++
  [("notification", m.notification.toDict)] ++ whenPresent "data" m.data ++
  whenSet "delay_while_idle" m.delayWhileIdle ++ whenPresent "time_to_live" m.timeToLive ++
  whenPresent "restricted_package_name" m.packageName ++ whenSet "dry_run" m.dryRun ++
  [("android", m.android.toDict)]

/-- The fields that stand at each path. -/
def blocks (w : WireMessage) : List (List String × List (String × Value)) := [
  ([], w.fields), (["notification"], w.notification.fields), (["android"], w.android.fields),
  (["android", "notification"], w.android.notification.fields)]

/-- The values that go into a dictionary as they are, the data apart. -/
structure Flat (w : WireMessage) : Prop where
  token : w.token.entries? = none
  collapseKey : w.collapseKey.entries? = none
  title : w.notification.title.entries? = none
  body : w.notification.body.entries? = none
  timeToLive : w.timeToLive.entries? = none
  packageName : w.packageName.entries? = none
  clickAction : w.android.notification.clickAction.entries? = none
  tag : w.android.notification.tag.entries? = none
  priority : w.android.priority.entries? = none

theorem flat_present {name : String} {v : Value} (h : v.entries? = none) :
    ∀ f ∈ whenPresent name v, f.2.entries? = none :=
  (forall_mem_whenPresent_iff (fun v => v.entries? = none) name v).mpr fun _ => h

theorem flat_set (name : String) (v : Value) : ∀ f ∈ whenSet name v, f.2.entries? = none :=
  (forall_mem_whenSet_iff (fun v => v.entries? = none) name v).mpr fun _ => rfl

/-- Of the whole, only the two blocks and the data go on. -/
theorem Flat.fields {w : WireMessage} (h : w.Flat) {x : String} (hnotification : x ≠ "notification")
    (handroid : x ≠ "android") (hdata : x ≠ "data") :
    ∀ f ∈ w.fields, f.1 = x → f.2.entries? = none := by
  have hleaf : ∀ {fields : List (String × Value)}, (∀ f ∈ fields, f.2.entries? = none) →
      ∀ f ∈ fields, f.1 = x → f.2.entries? = none := fun h f hf _ => h f hf
  have happlication : ∀ f ∈ whenPresent "data" w.data, f.1 = x → f.2.entries? = none := by
    intro f hf heq
    have hname := (Named.whenPresent "data" w.data).mem hf
    rw [heq, List.mem_singleton] at hname
    exact absurd hname hdata
  simp only [WireMessage.fields, List.forall_mem_append, List.forall_mem_singleton, and_assoc]
  exact ⟨fun _ => h.token, hleaf (flat_present h.collapseKey),
    fun heq => absurd heq.symm hnotification, happlication, hleaf (flat_set _ _),
    hleaf (flat_present h.timeToLive), hleaf (flat_present h.packageName), hleaf (flat_set _ _),
    fun heq => absurd heq.symm handroid⟩

theorem Flat.notification_at? {w : WireMessage} (h : w.Flat) (path : List String) (name : String) :
    w.notification.toDict.at? (path ++ [name]) =
      if path = [] then w.notification.fields.lookup name else none := by
  have hflat : ∀ f ∈ w.notification.fields, f.2.entries? = none :=
    List.forall_mem_append.mpr ⟨flat_present h.title, flat_present h.body⟩
  exact Value.at?_record_flat hflat path name

theorem Flat.platform_at? {w : WireMessage} (h : w.Flat) (path : List String) (name : String) :
    w.android.notification.toDict.at? (path ++ [name]) =
      if path = [] then w.android.notification.fields.lookup name else none := by
  have hflat : ∀ f ∈ w.android.notification.fields, f.2.entries? = none :=
    List.forall_mem_append.mpr ⟨flat_present h.clickAction, flat_present h.tag⟩
  exact Value.at?_record_flat hflat path name

theorem Flat.android_at? {w : WireMessage} (h : w.Flat) (path : List String) (name : String) :
    w.android.toDict.at? (path ++ [name]) =
      if path = [] then w.android.fields.lookup name
      else if path = ["notification"] then w.android.notification.fields.lookup name
      else none := by
  have hrecord : w.android.toDict = .record w.android.fields := rfl
  cases path with
  | nil =>
    rw [hrecord]
    exact Value.at?_record_here _ name
  | cons x path =>
    by_cases hx : x = "notification"
    · subst hx
      have hstep : w.android.toDict.at? ("notification" :: path ++ [name]) =
          w.android.notification.toDict.at? (path ++ [name]) := rfl
      rw [hstep, h.platform_at?]
      simp
    · have hleaf : ∀ f ∈ w.android.fields, f.1 = x → f.2.entries? = none := by
        refine List.forall_mem_append.mpr ⟨?_, fun f hf _ => flat_present h.priority f hf⟩
        exact List.forall_mem_singleton.mpr fun heq => absurd heq.symm hx
      rw [hrecord, Value.at?_record_leaf hleaf]
      simp [hx]

theorem toDict_at?_notification (w : WireMessage) (path : List String) :
    w.toDict.at? ("notification" :: path) = w.notification.toDict.at? path := by
  rw [toDict, Value.at?_record]
  simp [List.lookup_cons, List.lookup_append, lookup_whenPresent]

theorem toDict_at?_android (w : WireMessage) (path : List String) :
    w.toDict.at? ("android" :: path) = w.android.toDict.at? path := by
  rw [toDict, Value.at?_record]
  simp [List.lookup_cons, List.lookup_append, lookup_whenPresent, lookup_whenSet_iff]

/-- What a path leads to, unless it goes into the data, is the field of that
name at that path. -/
theorem Flat.toDict_at? {w : WireMessage} (h : w.Flat) {path : List String}
    (hpath : path.head? ≠ some "data") (name : String) :
    w.toDict.at? (path ++ [name]) = (w.blocks.lookup path).bind (·.lookup name) := by
  have htop : w.toDict = .record w.fields := rfl
  cases path with
  | nil =>
    rw [htop, Value.at?_record_here]
    rfl
  | cons x path =>
    by_cases hnotification : x = "notification"
    · subst hnotification
      rw [List.cons_append, toDict_at?_notification, h.notification_at?]
      cases path <;> simp [blocks, List.lookup_cons]
    by_cases handroid : x = "android"
    · subst handroid
      rw [List.cons_append, toDict_at?_android, h.android_at?]
      cases path with
      | nil => simp [blocks, List.lookup_cons]
      | cons y rest =>
        by_cases hinner : y :: rest = ["notification"]
        · simp [blocks, List.lookup_cons, hinner]
        · simp [blocks, List.lookup_cons, hinner, beq_false_of_ne hinner]
    -- no other field of the whole goes on
    have hdata : x ≠ "data" := fun heq => hpath (by rw [heq]; rfl)
    rw [htop, Value.at?_record_leaf (h.fields hnotification handroid hdata)]
    simp [blocks, List.lookup_cons, beq_false_of_ne hnotification, beq_false_of_ne handroid]

end WireMessage

/-! ## Messages -/

namespace Message

/-- Everything but the targets is of the declared types, and a truth value is
no time to live. -/
structure TypedContent (m : Message) (n : Notification) : Prop where
  collapseKey : m.collapseKey.isText = true
  notification : m.notification = .notification n
  texts : n.Declared
  data : m.data = .null ∨ m.data.entries?.isSome = true
  delayWhileIdle : ∃ b, m.delayWhileIdle = .bool b
  timeToLive : ∃ k, m.timeToLive = .int k
  priority : m.priority.isText = true
  packageName : m.packageName.isText = true
  dryRun : ∃ b, m.dryRun = .bool b

/-- The data, where an empty dictionary is as good as none. -/
def dataIfAny (m : Message) : Value :=
  match m.data with
  | .dict [] => .null
  | data => data

/-- The messages say the same, whoever they are for. -/
structure SameContent (m m' : Message) (n n' : Notification) : Prop where
  collapseKey : m.collapseKey = m'.collapseKey
  title : n.title = n'.title
  body : n.body = n'.body
  clickAction : n.clickAction = n'.clickAction
  tag : n.tag = n'.tag
  data : m.dataIfAny.equals m'.dataIfAny = true
  delayWhileIdle : m.delayWhileIdle = m'.delayWhileIdle
  timeToLive : m.timeToLive = m'.timeToLive
  priority : m.priority = m'.priority
  packageName : m.packageName = m'.packageName
  dryRun : m.dryRun = m'.dryRun

/-- Data are there, or count as none. -/
theorem dataIfAny_cases {m : Message} (h : m.data = .null ∨ m.data.entries?.isSome = true) :
    m.data.truthy = false ∧ m.dataIfAny = .null ∨
      m.data.truthy = true ∧ m.dataIfAny = m.data ∧ m.data.entries?.isSome = true := by
  unfold dataIfAny
  rcases Value.null_or_dict h with hm | ⟨entries, hm⟩ | ⟨values, k, e, es, hm, hes⟩ <;> rw [hm]
  · exact .inl ⟨rfl, rfl⟩
  · cases entries with
    | nil => exact .inl ⟨rfl, rfl⟩
    | cons e es => exact .inr ⟨rfl, rfl, rfl⟩
  · exact .inr ⟨rfl, rfl, by rw [Value.entries?_knot hes]; rfl⟩

theorem equalIfPresent_data_iff {m m' : Message}
    (h : m.data = .null ∨ m.data.entries?.isSome = true)
    (h' : m'.data = .null ∨ m'.data.entries?.isSome = true) :
    EqualIfPresent m.data m'.data ↔ m.dataIfAny.equals m'.dataIfAny = true := by
  have hnull : ∀ {v : Value}, v.entries?.isSome = true →
      Value.null.equals v = false ∧ v.equals .null = false := by
    intro v hv
    cases v with
    | dict entries => simp [Value.equals, Value.numbersEqual, Value.toInt?]
    | knot values k =>
      simp [Value.knot_equals_null, Value.equals, Value.numbersEqual, Value.toInt?]
    | _ => cases hv
  -- empty data count as null, which equals no dictionary
  unfold EqualIfPresent
  rcases dataIfAny_cases h with ⟨hpresent, hany⟩ | ⟨hpresent, hany, hdict⟩ <;>
  rcases dataIfAny_cases h' with ⟨hpresent', hany'⟩ | ⟨hpresent', hany', hdict'⟩
  · simp [hpresent, hpresent', hany, hany', Value.equals_refl]
  · simp [hpresent, hpresent', hany, hany', (hnull hdict').1]
  · simp [hpresent, hpresent', hany, hany', (hnull hdict).2]
  · simp [hpresent, hpresent', hany, hany']

/-- A field, and the block of the wire dictionary that it belongs to. -/
structure Placement where
  name : String
  block : List String
  value : Value

/-- Where the notification and the priority go. -/
def placements (m : Message) (n : Notification) : List Placement := [
  ⟨"title", ["notification"], n.title⟩, ⟨"body", ["notification"], n.body⟩,
  ⟨"click_action", ["android", "notification"], n.clickAction⟩,
  ⟨"tag", ["android", "notification"], n.tag⟩, ⟨"priority", ["android"], m.priority⟩]

/-- Outside the data, which are the application's own, each field stands in
its block and nowhere else, unless it holds nothing; the token and the blocks
are always there. -/
structure WellPlaced (m : Message) (n : Notification) (target : String) (dict : Value) : Prop where
  placed : ∀ p ∈ m.placements n, ∀ path : List String, path.head? ≠ some "data" →
    dict.at? (path ++ [p.name]) =
      if path = p.block ∧ p.value.truthy = true then some p.value else none
  token : dict.at? ["token"] = some (.text target)
  blocks : ∀ block ∈ [["notification"], ["android"], ["android", "notification"]],
    ∃ fields, dict.at? block = some (.record fields)

theorem TypedContent.flat {m : Message} {n : Notification} (h : m.TypedContent n)
    (target : String) : (m.wireFor n (.text target)).Flat := by
  have htext : ∀ v : Value, v.isText = true → v.entries? = none := by
    intro v hv
    obtain ⟨s, rfl⟩ := Value.isText_iff.mp hv
    rfl
  obtain ⟨k, hk⟩ := h.timeToLive
  exact ⟨rfl, htext _ h.collapseKey, htext _ h.texts.title, htext _ h.texts.body,
    by simp [wireFor, hk, Value.entries?, Value.opened], htext _ h.packageName,
    htext _ h.texts.clickAction, htext _ h.texts.tag, htext _ h.priority⟩

theorem TypedContent.wellPlaced {m : Message} {n : Notification} (h : m.TypedContent n)
    (target : String) : m.WellPlaced n target (m.wireFor n (.text target)).toDict where
  placed := by
    intro p hp path hpath
    rw [(h.flat target).toDict_at? hpath]
    simp only [placements, List.mem_cons, List.not_mem_nil, or_false] at hp
    by_cases htop : path = []
    · subst htop
      rcases hp with rfl | rfl | rfl | rfl | rfl <;>
        simp [WireMessage.blocks, WireMessage.fields, List.lookup_cons, List.lookup_append,
          lookup_whenPresent, lookup_whenSet]
    by_cases hnotification : path = ["notification"]
    · subst hnotification
      rcases hp with rfl | rfl | rfl | rfl | rfl <;>
        simp [WireMessage.blocks, WireNotification.fields, List.lookup_cons, List.lookup_append,
          lookup_whenPresent, wireFor]
    by_cases handroid : path = ["android"]
    · subst handroid
      rcases hp with rfl | rfl | rfl | rfl | rfl <;>
        simp [WireMessage.blocks, AndroidBlock.fields, List.lookup_cons, lookup_whenPresent,
          wireFor]
    by_cases hplatform : path = ["android", "notification"]
    · subst hplatform
      rcases hp with rfl | rfl | rfl | rfl | rfl <;>
        simp [WireMessage.blocks, AndroidNotification.fields, List.lookup_cons,
          List.lookup_append, lookup_whenPresent, wireFor]
    have hnone : (m.wireFor n (.text target)).blocks.lookup path = none := by
      rw [List.lookup_eq_none_iff]
      simp [WireMessage.blocks, htop, hnotification, handroid, hplatform]
    rw [hnone]
    rcases hp with rfl | rfl | rfl | rfl | rfl <;> simp [hnotification, handroid, hplatform]
  token := rfl
  blocks := by
    simp only [List.forall_mem_cons]
    refine ⟨⟨_, WireMessage.toDict_at?_notification _ []⟩, ⟨_, WireMessage.toDict_at?_android _ []⟩,
      ⟨_, WireMessage.toDict_at?_android _ ["notification"]⟩, List.forall_mem_nil _⟩

theorem TypedContent.alike_iff {m m' : Message} {n n' : Notification} (h : m.TypedContent n)
    (h' : m'.TypedContent n') (t t' : String) :
    (m.wireFor n (.text t)).Alike (m'.wireFor n' (.text t')) ↔ t = t' ∧ m.SameContent m' n n' := by
  have htoken := Value.text_equals_iff t t'
  have hkey := equalIfPresent_text_iff h.collapseKey h'.collapseKey
  have htitle := equalIfPresent_text_iff h.texts.title h'.texts.title
  have hbody := equalIfPresent_text_iff h.texts.body h'.texts.body
  have haction := equalIfPresent_text_iff h.texts.clickAction h'.texts.clickAction
  have htag := equalIfPresent_text_iff h.texts.tag h'.texts.tag
  have hdata := equalIfPresent_data_iff h.data h'.data
  have hidle := truthy_bool_iff h.delayWhileIdle h'.delayWhileIdle
  have httl := equalIfPresent_int_iff h.timeToLive h'.timeToLive
  have hpriority := equalIfPresent_text_iff h.priority h'.priority
  have hpackage := equalIfPresent_text_iff h.packageName h'.packageName
  have hdry := truthy_bool_iff h.dryRun h'.dryRun
  constructor
  · intro a
    exact ⟨htoken.mp a.token, hkey.mp a.collapseKey, htitle.mp a.title, hbody.mp a.body,
      haction.mp a.clickAction, htag.mp a.tag, hdata.mp a.data, hidle.mp a.delayWhileIdle,
      httl.mp a.timeToLive, hpriority.mp a.priority, hpackage.mp a.packageName, hdry.mp a.dryRun⟩
  · rintro ⟨hsame, c⟩
    exact ⟨htoken.mpr hsame, hkey.mpr c.collapseKey, htitle.mpr c.title, hbody.mpr c.body,
      hdata.mpr c.data, hidle.mpr c.delayWhileIdle, httl.mpr c.timeToLive,
      hpackage.mpr c.packageName, hdry.mpr c.dryRun, haction.mpr c.clickAction, htag.mpr c.tag,
      hpriority.mpr c.priority⟩

/-- Two wire dictionaries are equal just if they are for the same target and
from messages that say the same, and each has every field in its place. -/
theorem TypedContent.rendered_equals_iff {m m' : Message} {n n' : Notification}
    (h : m.TypedContent n) (h' : m'.TypedContent n') (t t' : String) :
    ∃ w w', translate (some m) (.text t) = .ok w ∧ translate (some m') (.text t') = .ok w' ∧
      (w.toDict.equals w'.toDict = true ↔ t = t' ∧ m.SameContent m' n n') ∧
      m.WellPlaced n t w.toDict := by
  have hn : notificationOf m.notification = .ok n := by
    rw [h.notification]
    rfl
  have hn' : notificationOf m'.notification = .ok n' := by
    rw [h'.notification]
    rfl
  refine ⟨_, _, translate_eq_wireFor hn _, translate_eq_wireFor hn' _, ?_, h.wellPlaced t⟩
  rw [WireMessage.toDict_equals_iff, h.alike_iff h']

/-- An urgent message that shows something. -/
def showing (n : Notification) (targets data : Value) : Message where
  targets
  notification := .notification n
  data
  priority := .text "high"

theorem typedContent_showing {n : Notification} {data : Value} (hn : n.Declared)
    (hdata : data = .null ∨ data.entries?.isSome = true) (targets : Value) :
    (showing n targets data).TypedContent n :=
  ⟨rfl, rfl, hn, hdata, ⟨false, rfl⟩, ⟨0, rfl⟩, rfl, rfl, ⟨false, rfl⟩⟩

/-- Empty data are like none, and the priority stands in its block; a title is
not like a body. -/
theorem showing_rendered :
    let titled : Notification := { title := .text "Hello" }
    let bodied : Notification := { body := .text "Hello" }
    (∃ w w', translate (some (showing titled .null (.dict []))) (.text "t1") = .ok w ∧
      translate (some (showing titled .null .null)) (.text "t1") = .ok w' ∧
      w.toDict.equals w'.toDict = true ∧ w.toDict.at? ["priority"] = none ∧
      w.toDict.at? ["android", "priority"] = some (.text "high")) ∧
    (∃ w w', translate (some (showing titled .null .null)) (.text "t1") = .ok w ∧
      translate (some (showing bodied .null .null)) (.text "t1") = .ok w' ∧
      w.toDict.equals w'.toDict = false) := by
  intro titled bodied
  have htitled : titled.Declared := ⟨rfl, rfl, rfl, rfl⟩
  have hbodied : bodied.Declared := ⟨rfl, rfl, rfl, rfl⟩
  have hnone : (showing titled .null .null).TypedContent titled :=
    typedContent_showing htitled (.inl rfl) .null
  constructor
  · have hempty : (showing titled .null (.dict [])).TypedContent titled :=
      typedContent_showing htitled (.inr rfl) .null
    obtain ⟨w, w', hw, hw', hequals, hplaced⟩ :=
      TypedContent.rendered_equals_iff hempty hnone "t1" "t1"
    have hpriority : ⟨"priority", ["android"], .text "high"⟩ ∈
        (showing titled .null (.dict [])).placements titled := by
      simp [placements, showing]
    refine ⟨w, w', hw, hw', hequals.mpr ⟨rfl, ?_⟩, ?_, ?_⟩
    · exact ⟨rfl, rfl, rfl, rfl, rfl, Value.equals_refl _, rfl, rfl, rfl, rfl, rfl⟩
    · exact hplaced.placed _ hpriority [] nofun
    · exact hplaced.placed _ hpriority ["android"] (by simp)
  · have hother : (showing bodied .null .null).TypedContent bodied :=
      typedContent_showing hbodied (.inl rfl) .null
    obtain ⟨w, w', hw, hw', hequals, -⟩ :=
      TypedContent.rendered_equals_iff hnone hother "t1" "t1"
    refine ⟨w, w', hw, hw', Bool.eq_false_iff.mpr fun h => ?_⟩
    exact absurd (hequals.mp h).2.title (by simp [titled, bodied])

end Message
end PushRelay
