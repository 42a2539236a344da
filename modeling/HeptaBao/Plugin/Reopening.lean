import HeptaBao.Plugin.Calls

namespace HeptaBao.Plugin

open Wire Std Durable Domain Exec List ExtTreeMap

theorem id_no_slash (id : Id) : (47 : UInt8) ∉ id.text := by
  intro member
  exact (id_byte_segment (all_eq_true.mp (id_text id).2.2 47 member)).2.1 rfl

theorem in_folder_injective (folder : Str) (a b : Id) (same : inFolder folder a = inFolder folder b) : a = b := by
  have tails := append_cancel_left same
  exact Domain.Id.ext (List.cons.inj tails).2

theorem lease_key_injective {a b : Id} (same : leaseKey a = leaseKey b) : a = b :=
  in_folder_injective leasePrefix a b (congrArg StorageKey.resource same)

theorem intent_key_injective {a b : Id} (same : intentKey a = intentKey b) : a = b :=
  in_folder_injective intentPrefix a b (congrArg StorageKey.resource same)

theorem keys_apart (a b : Id) : leaseKey a ≠ intentKey b := by
  intro same
  have resources : leaseResource a = intentResource b := congrArg StorageKey.resource same
  have first : (leaseResource a).head? = (intentResource b).head? := by rw [resources]
  have wrong : (some 108 : Option UInt8) = some 105 := first
  exact absurd wrong (by decide)

theorem folder_valid (folder : Str) (filled : folder ≠ []) (short : folder.length ≤ 64)
    (segment : validSegment folder = true)
    (plain : (47 : UInt8) ∉ folder) (ascii : folder.all (· < 128) = true) (id : Id) :
      validateResource (inFolder folder id) = .ok () := by
  obtain ⟨idFilled, _, idBytes⟩ := id_text id
  have idAscii : id.text.all (· < 128) = true := all_ascii (fun byte valid => segment_byte_ascii (id_byte_segment valid).1) idBytes
  have pieces : (inFolder folder id).splitOn 47 = [folder, id.text] := by
    have joined := @splitOn_intercalate _ [folder, id.text] _ _ 47 (by
      intro part listed
      rcases mem_cons.mp listed with rfl | later
      · exact plain
      · rw [mem_singleton.mp later]
        exact id_no_slash id) (by simp)
    simpa [intercalate, inFolder] using joined
  have idSegment : validSegment id.text = true := by
    have noDot : ∀ byte ∈ id.text, byte ≠ 46 := fun byte member => (id_byte_segment (all_eq_true.mp idBytes byte member)).2.2.2
    have one : id.text ≠ [46] := fun same => noDot 46 (by rw [same]; exact mem_singleton_self _) rfl
    have two : id.text ≠ [46, 46] := fun same => noDot 46 (by rw [same]; exact mem_cons_self) rfl
    have bytes : id.text.all segmentByte = true := all_eq_true.mpr fun byte member => (id_byte_segment (all_eq_true.mp idBytes byte member)).1
    simp [validSegment, idFilled, one, two, bytes]
  unfold validateResource validateSegmentedPath
  rw [if_neg, pieces]
  · simp [segment, idSegment, Except.mapError]
  · rintro (empty | long | slash | trailing | wide)
    · exact absurd (append_eq_nil_iff.mp empty).1 filled
    · simp only [inFolder, length_append, length_cons, maxStringBytes] at long
      omega
    · cases folder with
      | nil => exact filled rfl
      | cons head =>
        have isSlash : head = 47 := by simpa [inFolder] using slash
        exact plain (by rw [isSlash]; exact mem_cons_self)
    · have last : id.text.getLast? = some 47 := by
        have shape : inFolder folder id = (folder ++ [47]) ++ id.text := by simp [inFolder]
        rw [shape, getLast?_append_of_ne_nil _ idFilled] at trailing
        exact trailing
      exact id_no_slash id (mem_of_getLast? last)
    · simp only [inFolder, all_append, all_cons, ascii, idAscii] at wide
      exact absurd wide (by decide)

theorem lease_resource_valid (id : Id) : validateResource (leaseResource id) = .ok () :=
  folder_valid leasePrefix (by decide) (by decide) (by decide) (by decide) (by decide) id

theorem intent_resource_valid (id : Id) : validateResource (intentResource id) = .ok () :=
  folder_valid intentPrefix (by decide) (by decide) (by decide) (by decide) (by decide) id

theorem namespace_valid : validateNamespace durableNamespace = .ok () := by decide

theorem split_once_none (separator : UInt8) (text : Bytes) (absent : separator ∉ text) : splitOnce separator text =
    none := by
  induction text with
  | nil => rfl
  | cons _ _ ih =>
    simp only [mem_cons, not_or] at absent
    simp [splitOnce, Ne.symm absent.1, ih absent.2]

theorem child_in_folder (folder : Str) (id : Id) : Store.childOf (folder ++ [47]) (inFolder folder id) =
    some id.text := by
  have shape : inFolder folder id = (folder ++ [47]) ++ id.text := by simp [inFolder]
  unfold Store.childOf
  rw [shape, strip_prefix_append]
  simp only [split_once_none 47 id.text (id_no_slash id), if_neg (id_text id).1]

theorem child_elsewhere {folder other : Str} (id : Id) (differ : folder.head? ≠ other.head?) (filled : folder ≠ [])
    (otherFilled : other ≠ []) :
    Store.childOf (folder ++ [47]) (inFolder other id) = none := by
  unfold Store.childOf stripPrefix
  rw [if_neg]
  intro starts
  obtain ⟨_, same⟩ := isPrefixOf_iff_prefix.mp starts
  cases folder with
  | nil => exact filled rfl
  | cons =>
    cases other with
    | nil => exact otherFilled rfl
    | cons =>
      simp only [inFolder, cons_append, List.cons.injEq] at same
      exact differ (by simp [same.1])

variable (broker : DynamicSecretBroker) (leaseId : Id)

theorem doubt_lease_lookup (id : Id) : (broker.doubtLease leaseId).leases[id]? =
    if leaseId = id then broker.leases[id]?.map (fun view => { view with state := .reconciliationRequired })
    else broker.leases[id]? := by
  unfold DynamicSecretBroker.doubtLease
  cases found : broker.leases[leaseId]? with
  | none =>
    by_cases same : leaseId = id
    · subst same
      simp [found]
    · simp [same]
  | some =>
    simp only [lookup_insert]
    by_cases same : leaseId = id
    · subst same
      simp [found]
    · simp [same]

theorem doubt_lease_state : (broker.doubtLease leaseId).state = broker.state := by
  unfold DynamicSecretBroker.doubtLease
  split <;> rfl

theorem doubt_lease_entered : (broker.doubtLease leaseId).entered = broker.entered := by
  unfold DynamicSecretBroker.doubtLease
  split <;> rfl

-- A store of records that a reopen accepts, with one intent at most.
structure WellKept (store : Store) : Prop where
  each : ∀ (key : StorageKey) value, store.entries[key]? = some value →
    (∃ view, key = leaseKey view.leaseId ∧ value = leaseBytes view ∧ validateLeaseView view = .ok () ∧ view.state ≠ .reconciliationRequired) ∨
    ∃ intent, key = intentKey intent.leaseId ∧ value = intentBytes intent ∧ SoundIntent intent
  one : ∀ a b, store.entries[intentKey a]? ≠ none → store.entries[intentKey b]? ≠ none → a = b

variable (store : Store)

def StoredLease (view : DynamicLeaseView) : Prop := store.entries[leaseKey view.leaseId]? = some (leaseBytes view)

def StoredIntent (intent : DurablePluginIntent) : Prop :=
  store.entries[intentKey intent.leaseId]? = some (intentBytes intent)

section

variable (store : Store) (kept : WellKept store)

include kept

theorem kept_lease {id : Id} {value : Bytes} (found : store.entries[leaseKey id]? = some value) :
    ∃ view, view.leaseId = id ∧ value = leaseBytes view ∧ validateLeaseView view = .ok () ∧
      view.state ≠ .reconciliationRequired := by
  rcases kept.each (leaseKey id) value found with ⟨view, key, bytes, valid, certain⟩ | ⟨intent, key, _⟩
  · exact ⟨view, (lease_key_injective key).symm, bytes, valid, certain⟩
  · exact absurd key (keys_apart id intent.leaseId)

theorem kept_intent {id : Id} {value : Bytes} (found : store.entries[intentKey id]? = some value) :
    ∃ intent, intent.leaseId = id ∧ value = intentBytes intent ∧ SoundIntent intent := by
  rcases kept.each (intentKey id) value found with ⟨view, key, _⟩ | ⟨intent, key, bytes, sound⟩
  · exact absurd key.symm (keys_apart view.leaseId id)
  · exact ⟨intent, (intent_key_injective key).symm, bytes, sound⟩

omit kept in
theorem mem_children (folder other : Str) (differ : folder.head? ≠ other.head?) (filled : folder ≠ [])
    (otherFilled : other ≠ [])
    (folders : ∀ (key : StorageKey) value, store.entries[key]? = some value → key.nspace = durableNamespace ∧
      ∃ id, key.resource = inFolder folder id ∨ key.resource = inFolder other id) (name : Str) :
    name ∈ (store.children durableNamespace (folder ++ [47])).toList ↔
      ∃ id value, name = id.text ∧ store.entries[(⟨durableNamespace, inFolder folder id⟩ : StorageKey)]? =
        some value := by
  unfold Store.children
  rw [ExtTreeSet.mem_toList, ExtTreeSet.mem_ofList, List.contains_iff_mem, List.mem_filterMap]
  constructor
  · rintro ⟨key, listed, child⟩
    have present : key ∈ store.entries := ExtTreeMap.mem_keys.mp (List.mem_filter.mp listed).1
    obtain ⟨value, found⟩ := Option.isSome_iff_exists.mp (mem_iff_isSome_getElem?.mp present)
    obtain ⟨nspace, id, here | there⟩ := folders key value found
    · rw [here, child_in_folder] at child
      refine ⟨id, value, (Option.some.inj child).symm, ?_⟩
      rw [← nspace, ← here]
      exact found
    · rw [there, child_elsewhere id differ filled otherFilled] at child
      cases child
  · rintro ⟨id, value, rfl, found⟩
    refine ⟨⟨durableNamespace, inFolder folder id⟩, List.mem_filter.mpr ⟨?_, by simp⟩, child_in_folder folder id⟩
    exact ExtTreeMap.mem_keys.mpr (mem_iff_isSome_getElem?.mpr (by rw [found]; rfl))

theorem mem_lease_names (name : Str) : name ∈ (store.children durableNamespace (leasePrefix ++ [47])).toList ↔
    ∃ id value, name = id.text ∧ store.entries[leaseKey id]? = some value := by
  refine mem_children store leasePrefix intentPrefix (by decide) (by decide) (by decide) ?_ name
  intro key value found
  rcases kept.each key value found with ⟨view, rfl, _⟩ | ⟨intent, rfl, _⟩
  · exact ⟨rfl, view.leaseId, .inl rfl⟩
  · exact ⟨rfl, intent.leaseId, .inr rfl⟩

theorem mem_intent_names (name : Str) : name ∈ (store.children durableNamespace (intentPrefix ++ [47])).toList ↔
    ∃ id value, name = id.text ∧ store.entries[intentKey id]? = some value := by
  refine mem_children store intentPrefix leasePrefix (by decide) (by decide) (by decide) ?_ name
  intro key value found
  rcases kept.each key value found with ⟨view, rfl, _⟩ | ⟨intent, rfl, _⟩
  · exact ⟨rfl, view.leaseId, .inr rfl⟩
  · exact ⟨rfl, intent.leaseId, .inl rfl⟩

end

theorem names_nodup (nspace front : Str) : (store.children nspace front).toList.Nodup := by
  refine List.Pairwise.imp ?_ ExtTreeSet.distinct_toList
  intro a b distinct same
  subst same
  exact distinct ReflCmp.compare_self

theorem id_last (id : Id) : id.text.getLast? ≠ some 47 := fun last => id_no_slash id (mem_of_getLast? last)

section

variable (store : Store) (resolved : store.unresolved = false)

include resolved

theorem get_lease (id : Id) : store.get durableNamespace (leaseResource id) = .ok store.entries[leaseKey id]? := by
  unfold Store.get
  rw [namespace_valid, lease_resource_valid, resolved]
  rfl

theorem get_intent (id : Id) : store.get durableNamespace (intentResource id) = .ok store.entries[intentKey id]? := by
  unfold Store.get
  rw [namespace_valid, intent_resource_valid, resolved]
  rfl

theorem list_leases : store.list durableNamespace leasePrefix =
    .ok (store.children durableNamespace (leasePrefix ++ [47])).toList := by
  unfold Store.list
  rw [namespace_valid, resolved]
  rfl

theorem list_intents : store.list durableNamespace intentPrefix =
    .ok (store.children durableNamespace (intentPrefix ++ [47])).toList := by
  unfold Store.list
  rw [namespace_valid, resolved]
  rfl

theorem load_leases_all (names : List Str) (distinct : names.Nodup) (leases : ExtTreeMap Id DynamicLeaseView)
    (each : ∀ name ∈ names, ∃ view, name = view.leaseId.text ∧ StoredLease store view ∧ validateLeaseView view =
      .ok () ∧
      view.state ≠ .reconciliationRequired) (apart : ∀ id : Id, id.text ∈ names → leases[id]? = none) :
    ∃ loaded, loadLeases store names leases = .ok loaded ∧ ∀ (id : Id) view, loaded[id]? = some view ↔
      leases[id]? = some view ∨ (id.text ∈ names ∧ view.leaseId = id ∧ StoredLease store view) := by
  induction names generalizing leases with
  | nil => exact ⟨leases, rfl, fun id view => by simp⟩
  | cons name _ ih =>
    obtain ⟨view, rfl, stored, valid, certain⟩ := each name mem_cons_self
    obtain ⟨fresh, others⟩ := nodup_cons.mp distinct
    have absent : leases[view.leaseId]? = none := apart view.leaseId mem_cons_self
    obtain ⟨loaded, loads, same⟩ := ih others (leases.insert view.leaseId view)
      (fun name listed => each name (mem_cons_of_mem _ listed)) (by
        intro id listed
        rw [lookup_insert, if_neg]
        · exact apart id (mem_cons_of_mem _ listed)
        · rintro rfl
          exact fresh listed)
    refine ⟨loaded, ?_, ?_⟩
    · have missing : leases.contains view.leaseId = false := by
        rw [contains_eq_isSome_getElem?, absent]
        rfl
      rw [← loads]
      simp only [loadLeases, check_true _ (decide_eq_true (id_last view.leaseId)), parse_id, get_lease store resolved, inDomain, inService,
        Except.mapError, bind, Except.bind]
      rw [show store.entries[leaseKey view.leaseId]? = some (leaseBytes view) from stored]
      simp only [decode_lease_eq view valid, check, missing]
      simp [certain]
    · intro id other
      rw [same, lookup_insert]
      by_cases here : view.leaseId = id
      · subst here
        simp only [if_pos, absent, mem_cons, true_or, true_and]
        constructor
        · rintro (isView | ⟨listed, _⟩)
          · cases isView
            exact .inr ⟨rfl, stored⟩
          · exact absurd listed fresh
        · rintro (wrong | ⟨isLease, otherStored⟩)
          · cases wrong
          · left
            unfold StoredLease at otherStored stored
            rw [isLease, stored] at otherStored
            exact congrArg some (lease_bytes_injective _ _ (Option.some.inj otherStored))
      · have differ : id.text ≠ view.leaseId.text := fun texts => here (Domain.Id.ext texts.symm)
        simp [if_neg here, mem_cons, differ]

end

structure Reopens (manifest : PluginManifest) (store : Store) (live : Live) : Prop where
  opened : reopen manifest store = .ok live
  leases : ∀ (id : Id) view, live.broker.leases[id]? = some view ↔ ∃ stored, StoredLease store stored ∧
    stored.leaseId = id ∧
    view = if live.pending.any (fun intent => intent.leaseId = id) then { stored with state := .reconciliationRequired } else stored
  pending : ∀ intent, live.pending = some intent ↔ StoredIntent store intent
  state : live.broker.state = if live.pending = none then .active else .reconciliationRequired
  quiet : live.broker.entered = []

theorem load_intents_one (kept : WellKept store) (resolved : store.unresolved = false) :
    ∃ pending, loadIntents store (store.children durableNamespace (intentPrefix ++ [47])).toList none = .ok pending ∧
      ∀ intent, pending = some intent ↔ StoredIntent store intent := by
  have names := mem_intent_names store kept
  have distinct := names_nodup store durableNamespace (intentPrefix ++ [47])
  generalize (store.children durableNamespace (intentPrefix ++ [47])).toList = listed at names distinct
  cases listed with
  | nil =>
    refine ⟨none, rfl, fun intent => ⟨fun wrong => (nomatch wrong), fun stored => ?_⟩⟩
    exact absurd ((names intent.leaseId.text).mpr ⟨intent.leaseId, _, rfl, stored⟩) (not_mem_nil)
  | cons name rest =>
    obtain ⟨id, value, rfl, found⟩ := (names name).mp mem_cons_self
    obtain ⟨intent, rfl, rfl, sound⟩ := kept_intent store kept found
    have alone : rest = [] := by
      cases rest with
      | nil => rfl
      | cons other =>
        obtain ⟨otherId, _, rfl, otherFound⟩ := (names other).mp (mem_cons_of_mem _ mem_cons_self)
        have same := kept.one intent.leaseId otherId (by rw [found]; simp) (by rw [otherFound]; simp)
        rw [same] at distinct
        simp at distinct
    subst alone
    refine ⟨some intent, ?_, fun other => ⟨?_, ?_⟩⟩
    · have first : check (decide (intent.leaseId.text.getLast? ≠ some 47) && (none : Option DurablePluginIntent).isNone) = .ok () :=
        check_true _ (by simp [id_last])
      simp only [loadIntents, first, parse_id, get_intent store resolved, inDomain, inService, Except.mapError, bind, Except.bind, found,
        decode_intent_eq intent sound]
      simp [check]
    · intro same
      cases same
      exact found
    · intro stored
      change store.entries[intentKey other.leaseId]? = _ at stored
      have sameId := kept.one intent.leaseId other.leaseId (by rw [found]; simp) (by rw [stored]; simp)
      rw [← sameId, found] at stored
      exact congrArg some (intent_bytes_injective _ _ (Option.some.inj stored))

theorem reopen_kept (manifest : PluginManifest) {store : Store} (kept : WellKept store)
    (resolved : store.unresolved = false) :
    ∃ live, Reopens manifest store live := by
  obtain ⟨pending, loadsIntents, isPending⟩ := load_intents_one store kept resolved
  have names := mem_lease_names store kept
  obtain ⟨leases, loadsLeases, isLease⟩ := load_leases_all store resolved _ (names_nodup store durableNamespace (leasePrefix ++ [47])) ∅ (by
      intro name listed
      obtain ⟨id, value, rfl, found⟩ := (names name).mp listed
      obtain ⟨view, rfl, rfl, valid, certain⟩ := kept_lease store kept found
      exact ⟨view, rfl, found, valid, certain⟩) (fun id _ => by simp)
  have found : ∀ (id : Id) view, leases[id]? = some view ↔ view.leaseId = id ∧ StoredLease store view := by
    intro id view
    rw [isLease]
    constructor
    · rintro (wrong | ⟨_, same, stored⟩)
      · simp at wrong
      · exact ⟨same, stored⟩
    · rintro ⟨same, stored⟩
      refine .inr ⟨(names id.text).mpr ⟨id, leaseBytes view, rfl, ?_⟩, same, stored⟩
      rw [← same]
      exact stored
  have steps : reopen manifest store = .ok (takeOver manifest leases pending) := by
    simp only [reopen, list_leases store resolved, list_intents store resolved, inService, Except.mapError, bind, Except.bind, loadsLeases,
      loadsIntents]
    rfl
  cases pending with
  | none =>
    refine ⟨takeOver manifest leases none, ⟨steps, ?_, isPending, rfl, rfl⟩⟩
    · intro id view
      change leases[id]? = some view ↔ _
      rw [found]
      simp only [takeOver, Option.any_none, Bool.false_eq_true, if_false]
      constructor
      · exact fun ⟨same, stored⟩ => ⟨view, stored, same, rfl⟩
      · rintro ⟨view, stored, same, rfl⟩
        exact ⟨same, stored⟩
  | some intent =>
    refine ⟨takeOver manifest leases (some intent), ⟨steps, ?_, isPending, ?_, ?_⟩⟩
    · intro id view
      simp only [takeOver, Option.any_some, decide_eq_true_eq]
      rw [doubt_lease_lookup]
      change (if intent.leaseId = id then leases[id]?.map _ else leases[id]?) = some view ↔ _
      by_cases same : intent.leaseId = id
      · rw [if_pos same]
        simp only [if_pos same, Option.map_eq_some_iff, found]
        constructor
        · rintro ⟨stored, ⟨isId, kept⟩, rfl⟩
          exact ⟨stored, kept, isId, rfl⟩
        · rintro ⟨stored, kept, isId, rfl⟩
          exact ⟨stored, ⟨isId, kept⟩, rfl⟩
      · rw [if_neg same, found]
        simp only [if_neg same]
        constructor
        · exact fun ⟨isId, kept⟩ => ⟨view, kept, isId, rfl⟩
        · rintro ⟨view, kept, isId, rfl⟩
          exact ⟨isId, kept⟩
    · exact doubt_lease_state _ _
    · exact doubt_lease_entered _ _

end HeptaBao.Plugin
