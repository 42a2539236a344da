import HeptaBao.Raft.JsonForm

namespace HeptaBao.Raft

open Wire Durable Std Exec List ExtTreeMap

variable (index : Nat)

-- The entry appended there last, unless it was truncated or purged.
def heldAfter (before : Option Entry) : LogCall → Option Entry
  | .append entries => (entries.filter fun entry => entry.logId.index = index).getLast?.or before
  | .truncateAfter lastLogId => if truncateStart lastLogId ≤ index then none else before
  | .purge logId => if index ≤ logId.index then none else before
  | _ => before

def lastAppended (history : List LogCall) : Option Entry := history.foldl (heldAfter index) none

theorem last_appended_snoc (history : List LogCall) (call : LogCall) :
    lastAppended index (history ++ [call]) = heldAfter index (lastAppended index history) call := by
  simp [lastAppended]

-- The indices of a log: `count` of them from `first` on.
structure Contiguous (state : PersistentLogState) (first count : Nat) : Prop where
  indices : ∀ index, index ∈ state.log ↔ first ≤ index ∧ index < first + count
  purged : ∀ logId, state.lastPurgedLogId = some logId → first = logId.index + 1

theorem validate_keys_range (prev : Nat) (keys : List Nat) (valid : validateKeys (some prev) keys = .ok ()) :
    keys = range' (prev + 1) keys.length := by
  induction keys generalizing prev with
  | nil => rfl
  | cons index keys ih =>
    rw [validateKeys] at valid
    split at valid
    · cases valid
    · split at valid
      · cases valid
      · rename_i _ next
        have same : index = prev + 1 := by omega
        rw [length_cons, range'_succ, ← ih (prev + 1) (by rw [← same]; exact valid), same]

theorem valid_contiguous (state : PersistentLogState) (valid : state.validate = .ok ()) :
    ∃ first, Contiguous state first state.log.size := by
  have member : ∀ first, state.log.keys = range' first state.log.keys.length →
      ∀ index, index ∈ state.log ↔ first ≤ index ∧ index < first + state.log.size := by
    intro first range index
    rw [← ExtTreeMap.mem_keys, range, mem_range'_1, length_keys]
  unfold PersistentLogState.validate at valid
  cases purged : state.lastPurgedLogId with
  | some logId =>
    rw [purged] at valid
    refine ⟨logId.index + 1, member _ (validate_keys_range logId.index _ valid), ?_⟩
    intro other same
    rw [purged] at same
    cases same
    rfl
  | none =>
    rw [purged] at valid
    cases keys : state.log.keys with
    | nil => exact ⟨0, member 0 (by rw [keys]; rfl), fun other same => by rw [purged] at same; cases same⟩
    | cons index rest =>
      rw [keys] at valid
      have tail := validate_keys_range index rest valid
      refine ⟨index, member index ?_, fun other same => by rw [purged] at same; cases same⟩
      rw [keys, length_cons, range'_succ, ← tail]

variable (log : ExtTreeMap Nat Str)

theorem append_entries_held {serde : Serde Entry} {reached : ExtTreeMap Nat Str} {entries : List Entry}
    (appended : appendEntries serde log entries = .ok reached) (index : Nat) :
    reached[index]? = ((entries.filter fun entry => entry.logId.index = index).getLast?.map serde.toVec).or
      log[index]? := by
  induction entries generalizing log with
  | nil =>
    cases appended
    rfl
  | cons entry entries ih =>
    rw [appendEntries] at appended
    -- after this entry its index holds its text, whether it was there before or not
    have next : ∃ middle, appendEntries serde middle entries = .ok reached ∧
        middle[index]? = if entry.logId.index = index then some (serde.toVec entry) else log[index]? := by
      cases found : log[entry.logId.index]? with
      | none =>
        simp only [found] at appended
        exact ⟨_, appended, lookup_insert log _ index _⟩
      | some existing =>
        simp only [found] at appended
        split at appended
        · cases appended
        · rename_i same
          refine ⟨log, appended, ?_⟩
          split
          · rename_i here
            rw [← here, found, not_not.mp same]
          · rfl
    obtain ⟨middle, rest, now⟩ := next
    rw [ih middle rest, now]
    by_cases here : entry.logId.index = index
    · rw [if_pos here, filter_cons_of_pos (by simpa using here), getLast?_cons]
      cases (entries.filter fun entry => entry.logId.index = index).getLast? with
      | none | some => rfl
    · rw [if_neg here, filter_cons_of_neg (by simpa using here)]

theorem lookup_filter (keep : Nat → Bool) (index : Nat) : (log.filter fun key _ => keep key)[index]? =
    if keep index then log[index]? else none := by
  rw [getElem?_filter']
  cases log[index]? with
  | none => simp
  | some => rfl

structure LogHeld (serde : LogSerde) (store : DurableLogStore) (history : List LogCall) : Prop where
  files : store.files = ⟨some (jsonFile serde.marker initializationMagic logMarker),
    some (jsonFile serde.state logMagic store.state)⟩
  valid : store.state.validate = .ok ()
  held : ∀ index, store.state.log[index]? = (lastAppended index history).map serde.entry.toVec

variable {serde : LogSerde} {store : DurableLogStore}

theorem candidate_held {history : List LogCall} (call : LogCall) (fault : Bool)
    (holds : LogHeld serde store history) (succeeded : (store.perform serde fault call).1 = .ok ()) (index : Nat) :
    (candidateOf serde store.state call).log[index]? = (lastAppended index (history ++ [call])).map
      serde.entry.toVec := by
  have before := holds.held index
  rw [last_appended_snoc]
  cases call with
  | saveVote | saveCommitted => exact before
  | append entries =>
    simp only [DurableLogStore.perform, DurableLogStore.append] at succeeded
    simp only [candidateOf, heldAfter]
    cases appended : appendEntries serde.entry store.state.log entries with
    | error =>
      rw [appended] at succeeded
      cases succeeded
    | ok =>
      simp only
      rw [append_entries_held _ appended index, before]
      cases (entries.filter fun entry => entry.logId.index = index).getLast? with
      | none | some => rfl
  | truncateAfter lastLogId =>
    simp only [candidateOf, heldAfter]
    rw [lookup_filter store.state.log (fun key => key < truncateStart lastLogId) index, before]
    by_cases beyond : truncateStart lastLogId ≤ index
    · rw [if_pos beyond, if_neg (by simpa using beyond)]
      rfl
    · rw [if_neg beyond, if_pos (by simpa using beyond)]
  | purge logId =>
    simp only [candidateOf, heldAfter]
    rw [lookup_filter store.state.log (fun key => logId.index < key) index, before]
    by_cases gone : index ≤ logId.index
    · rw [if_pos gone, if_neg (by simpa using gone)]
      rfl
    · rw [if_neg gone, if_pos (by simpa using gone)]

def logStep (serde : LogSerde) (reached : DurableLogStore × List LogCall) (event : LogCall × Bool) :
    DurableLogStore × List LogCall :=
  match reached.1.perform serde event.2 event.1 with
  | (.ok (), next) => (next, reached.2 ++ [event.1])
  | (.error _, next) => (next, reached.2)

theorem log_step_held (serde : LogSerde) (reached : DurableLogStore × List LogCall) (event : LogCall × Bool)
    (holds : LogHeld serde reached.1 reached.2) : LogHeld serde (logStep serde reached event).1
      (logStep serde reached event).2 := by
  have performed := perform_performed serde reached.1 event.2 event.1
  have content := candidate_held event.1 event.2 holds
  unfold logStep
  generalize candidateOf serde reached.1.state event.1 = candidate at performed content
  generalize reached.1.perform serde event.2 event.1 = outcome at performed content
  cases performed with
  | failed => exact holds
  | written valid =>
    refine ⟨?_, valid, fun index => content rfl index⟩
    simp only [holds.files]

theorem created_held (serde : LogSerde) : LogHeld serde (DurableLogStore.create serde) [] := by
  refine ⟨rfl, ?_, ?_⟩
  · rw [PersistentLogState.validate, show (DurableLogStore.create serde).state.log.keys = [] from keys_eq_nil_iff.mpr rfl]
    rfl
  · intro index
    simp [DurableLogStore.create, PersistentLogState.default, lastAppended]

theorem run_held (serde : LogSerde) (events : List (LogCall × Bool)) :
    LogHeld serde (run (logStep serde) (DurableLogStore.create serde, []) events).1
      (run (logStep serde) (DurableLogStore.create serde, []) events).2 :=
  run_preserves (logStep serde) (fun reached => LogHeld serde reached.1 reached.2)
    (fun reached event holds => log_step_held serde reached event holds) _ events (created_held serde)

-- What a log store stands for, given the calls that succeeded.
structure LogRefines (serde : LogSerde) (store : DurableLogStore) (history : List LogCall) : Prop where
  decodes : ∃ file, store.files.data = some file ∧ readJson serde.state logMagic file = .ok store.state
  unchanged : ∀ call fault flaw next, store.perform serde fault call = (.error flaw, next) → next = store
  contiguous : ∃ first, Contiguous store.state first store.state.log.size
  held : ∀ index, store.state.log[index]? = (lastAppended index history).map serde.entry.toVec
  empty : store.state.log.size = 0 → store.getLogState serde =
    .ok ⟨store.state.lastPurgedLogId, store.state.lastPurgedLogId⟩
  last : ∀ index entry, (∀ other, other ∈ store.state.log → other ≤ index) → lastAppended index history = some entry →
    store.getLogState serde = .ok ⟨store.state.lastPurgedLogId, some entry.logId⟩
  reopens : DurableLogStore.openExisting serde store.files = .ok store

theorem perform_unchanged {next : DurableLogStore} {call : LogCall} {fault : Bool} {flaw : StoreError}
    (failed : store.perform serde fault call = (.error flaw, next)) : next = store := by
  have performed := perform_performed serde store fault call
  rw [failed] at performed
  cases performed
  rfl

theorem last_entry (index : Nat) (text : Str) (greatest : ∀ other, other ∈ log → other ≤ index)
    (found : log[index]? = some text) : log.toList.getLast? = some (index, text) := by
  have listed : (index, text) ∈ log.toList := mem_toList_iff_getElem?_eq_some.mpr found
  obtain ⟨_, after, shape⟩ := append_of_mem listed
  have ordered := ordered_keys_toList (t := log)
  rw [shape, pairwise_append, pairwise_cons] at ordered
  have nothing : after = [] := by
    cases after with
    | nil => rfl
    | cons entry =>
      have later : index < entry.1 := Nat.compare_eq_lt.mp (ordered.2.1.1 entry mem_cons_self)
      have stored : log[entry.1]? = some entry.2 := mem_toList_iff_getElem?_eq_some.mp (by rw [shape]; simp)
      have inside : entry.1 ∈ log := mem_iff_isSome_getElem?.mpr (by rw [stored]; rfl)
      exact absurd (greatest entry.1 inside) (by omega)
  rw [shape, nothing, getLast?_append, getLast?_singleton]
  rfl

theorem log_state_empty (serde : LogSerde) (store : DurableLogStore) (none : store.state.log.size = 0) :
    store.getLogState serde = .ok ⟨store.state.lastPurgedLogId, store.state.lastPurgedLogId⟩ := by
  have empty : store.state.log.toList = [] := by
    apply eq_nil_of_length_eq_zero
    rw [length_toList, none]
  simp [DurableLogStore.getLogState, empty]

theorem log_state_last (lawful : serde.Lawful) {history : List LogCall} {index : Nat}
    {entry : Entry} (holds : LogHeld serde store history) (greatest : ∀ other, other ∈ store.state.log → other ≤ index)
    (held : lastAppended index history = some entry) : store.getLogState serde =
      .ok ⟨store.state.lastPurgedLogId, some entry.logId⟩ := by
  have found := holds.held index
  rw [held] at found
  simp only [DurableLogStore.getLogState, last_entry _ index _ greatest found, lawful.entry entry]

theorem reopen_held (lawful : serde.Lawful) {history : List LogCall}
    (holds : LogHeld serde store history) (fits : (serde.state.toVec store.state).length + 20 ≤ safetyBound) :
    DurableLogStore.openExisting serde store.files = .ok store := by
  have mark := (read_written_iff lawful.marker initializationMagic logMarker).mpr lawful.short
  have state := (read_written_iff lawful.state logMagic store.state).mpr fits
  have accepted : logMarker.validate (str "raft-log") (str "raft-log.bin") = .ok () := rfl
  unfold DurableLogStore.openExisting readInitializationMarker
  simp only [holds.files, mark, state, bind, Except.bind, accepted, holds.valid]
  rw [← holds.files]
  rfl

/-- A store stands for its successful calls exactly when its file can be read. -/
theorem log_store_refines_iff (serde : LogSerde) (lawful : serde.Lawful) (events : List (LogCall × Bool)) :
    let reached := run (logStep serde) (DurableLogStore.create serde, []) events
    LogRefines serde reached.1 reached.2 ↔ (serde.state.toVec reached.1.state).length + 20 ≤ safetyBound := by
  intro reached
  have holds : LogHeld serde reached.1 reached.2 := run_held serde events
  have written := read_written_iff lawful.state logMagic reached.1.state
  constructor
  · intro refines
    obtain ⟨_, found, read⟩ := refines.decodes
    rw [holds.files] at found
    cases found
    exact written.mp read
  · intro fits
    exact ⟨⟨_, by rw [holds.files], written.mpr fits⟩, fun call fault flaw next failed => perform_unchanged failed,
      valid_contiguous _ holds.valid, holds.held, log_state_empty serde reached.1,
      fun index entry greatest held => log_state_last lawful holds greatest held,
      reopen_held lawful holds fits⟩

def sampleCalls : List (LogCall × Bool) :=
  [(.saveVote ⟨1, 1, true⟩, false), (.append [sampleEntry 0 (str "a"), sampleEntry 1 (str "b"), sampleEntry 2 (str "c")], false),
    (.append [sampleEntry 3 (str "d")], true), (.purge ⟨1, 1, 0⟩, false), (.truncateAfter (some ⟨1, 1, 1⟩), false)]

theorem log_store_refines_sample :
    let reached := run (logStep jsonLogSerde) (DurableLogStore.create jsonLogSerde, []) sampleCalls
    (jsonLogSerde.state.toVec reached.1.state).length + 20 ≤ safetyBound ∧ LogRefines jsonLogSerde reached.1 reached.2 := by
  have fits : (jsonLogSerde.state.toVec (run (logStep jsonLogSerde) (DurableLogStore.create jsonLogSerde, []) sampleCalls).1.state).length +
      20 ≤ safetyBound := by decide +kernel
  exact ⟨fits, (log_store_refines_iff jsonLogSerde json_log_serde_lawful sampleCalls).mpr fits⟩

variable (text : Nat → Str)

def stacked : Nat → ExtTreeMap Nat Str
  | 0 => ∅
  | count + 1 => (stacked count).insert count (text count)

theorem stacked_lookup (count index : Nat) : (stacked text count)[index]? = if index <
    count then some (text index) else none := by
  induction count with
  | zero => simp [stacked]
  | succ count ih =>
    rw [stacked, lookup_insert, ih]
    by_cases here : count = index
    · rw [if_pos here, if_pos (by omega), here]
    · rw [if_neg here]
      exact if_congr (by omega) rfl rfl

theorem stacked_keys (count : Nat) : (stacked text count).keys = range count := by
  have member : ∀ index, index ∈ (stacked text count).keys ↔ index ∈ range count := by
    intro index
    rw [ExtTreeMap.mem_keys, mem_range, mem_iff_isSome_getElem?, stacked_lookup]
    by_cases inside : index < count <;> simp [inside]
  have perm := (perm_ext_iff_of_nodup nodup_keys nodup_range).mpr member
  refine perm.eq_of_pairwise (fun _ _ _ _ => ?_) ((@ordered_keys _ _ _ (stacked text count) _).imp Nat.compare_eq_lt.mp) pairwise_lt_range
  omega

theorem validate_range (prev count : Nat) (room : prev + count < 2 ^ 64) : validateKeys (some prev)
    (range' (prev + 1) count) = .ok () := by
  induction count generalizing prev with
  | zero => rfl
  | succ count ih =>
    rw [range'_succ, validateKeys, if_neg (by omega), if_neg (by omega)]
    exact ih (prev + 1) (by omega)

theorem stacked_valid (count : Nat) (room : count < 2 ^ 64) :
    (PersistentLogState.mk none none none (stacked text count)).validate = .ok () := by
  rw [PersistentLogState.validate, stacked_keys, range_eq_range']
  cases count with
  | zero => rfl
  | succ count => exact validate_range 0 count (by omega)

-- Writes that a leader takes while it cannot commit: nothing is purged.
def pileUp (payload : EntryPayload) (count : Nat) : List (LogCall × Bool) :=
  (range count).map fun index => (.append [⟨⟨1, 1, index⟩, payload⟩], false)

theorem pile_up_log (serde : LogSerde) (payload : EntryPayload) (count : Nat) (room : count < 2 ^ 64) :
    (run (logStep serde) (DurableLogStore.create serde, []) (pileUp payload count)).1.state =
      ⟨none, none, none, stacked (fun index => serde.entry.toVec ⟨⟨1, 1, index⟩, payload⟩) count⟩ := by
  induction count with
  | zero => rfl
  | succ count ih =>
    have before := ih (by omega)
    rw [pileUp, range_succ, map_append, run_append, ← pileUp]
    generalize run (logStep serde) (DurableLogStore.create serde, []) (pileUp payload count) = reached at before ⊢
    have fresh : reached.1.state.log[count]? = none := by
      rw [before, stacked_lookup, if_neg (by omega)]
    have valid : ({ reached.1.state with
        log := reached.1.state.log.insert count (serde.entry.toVec ⟨⟨1, 1, count⟩, payload⟩) } : PersistentLogState).validate = .ok () := by
      rw [before]
      exact stacked_valid _ (count + 1) room
    simp only [run, map_cons, map_nil, foldl_cons, foldl_nil, logStep, DurableLogStore.perform, DurableLogStore.append, appendEntries,
      fresh, DurableLogStore.persist, valid]
    rw [before]
    rfl

theorem pile_up_lost {envelope : ReplicatedEnvelope}
    (large : 2 * maxSealedEnvelopeBytes ≤ envelope.encodedStatus.length) :
    let reached := run (logStep jsonLogSerde) (DurableLogStore.create jsonLogSerde, [])
      (pileUp (.normal ⟨productionClientId, 1, envelope.encodedStatus⟩) 64)
    ¬ LogRefines jsonLogSerde reached.1 reached.2 := by
  have state := pile_up_log jsonLogSerde (.normal ⟨productionClientId, 1, envelope.encodedStatus⟩) 64 (by decide)
  have holds := run_held jsonLogSerde (pileUp (.normal ⟨productionClientId, 1, envelope.encodedStatus⟩) 64)
  generalize run (logStep jsonLogSerde) (DurableLogStore.create jsonLogSerde, []) _ = reached at state holds ⊢
  intro _ refines
  have size : reached.1.state.log.size = 64 := by
    rw [state, ← length_keys, stacked_keys, length_range]
  have long := log_state_json_length reached.1.state (2 * maxSealedEnvelopeBytes) fun index content stored => by
    rw [state, stacked_lookup] at stored
    split at stored
    · cases stored
      exact large.trans (entry_json_length ⟨1, 1, index⟩ ⟨productionClientId, 1, envelope.encodedStatus⟩)
    · cases stored
  obtain ⟨_, found, read⟩ := refines.decodes
  rw [holds.files] at found
  cases found
  have fits : (logStateJson.write reached.1.state).length + 20 ≤ safetyBound :=
    (read_written_iff json_log_serde_lawful.state logMagic reached.1.state).mp read
  rw [size] at long
  unfold safetyBound at fits
  unfold maxSealedEnvelopeBytes at long
  omega

/-- Sixty-four full envelopes make the file longer than its reader allows. -/
theorem oversized_log_lost :
    let reached := run (logStep jsonLogSerde) (DurableLogStore.create jsonLogSerde, [])
      (pileUp (.normal ⟨productionClientId, 1, fullEnvelope.encodedStatus⟩) 64)
    ¬ LogRefines jsonLogSerde reached.1 reached.2 := pile_up_lost full_status_length

end HeptaBao.Raft
