import HeptaBao.Durable.TestBarrier

namespace HeptaBao.Durable

open Wire Std Exec List ExtTreeMap

def Checkpointed (events : List JournalEvent) : Prop := ∃ point, events.head? = some (.checkpoint point)

theorem checkpointed_append (events more : List JournalEvent) (checkpointed : Checkpointed events) :
    Checkpointed (events ++ more) := by
  obtain ⟨point, first⟩ := checkpointed
  refine ⟨point, ?_⟩
  rw [head?_append, first]
  rfl

variable {state : Committed} {events : List JournalEvent}

variable {env : Env} {inputs : List Bytes}

-- Behind a checkpoint intents have even sequence numbers, without one odd ones.
theorem settled_parity (settled : Settled env inputs state events) :
    (Checkpointed events ∧ events.length % 2 = 1) ∨ (¬ Checkpointed events ∧ events.length % 2 = 0) := by
  have grows : ∀ (before : List JournalEvent) (first second : JournalEvent),
      (Checkpointed before ∧ before.length % 2 = 1) ∨ (¬ Checkpointed before ∧ before.length % 2 = 0) → (∀ point, first ≠ .checkpoint point) →
          (Checkpointed (before ++ [first, second]) ∧ (before ++ [first, second]).length % 2 = 1) ∨
            (¬ Checkpointed (before ++ [first, second]) ∧ (before ++ [first, second]).length % 2 = 0) := by
    intro before first second known other
    rcases known with ⟨checkpointed, odd⟩ | ⟨plain, even⟩
    · exact .inl ⟨checkpointed_append _ _ checkpointed, by simp; omega⟩
    · refine .inr ⟨?_, by simp; omega⟩
      rintro ⟨point, head⟩
      cases before with
      | nil => exact other point (Option.some.inj head)
      | cons => exact plain ⟨point, head⟩
  induction settled with
  | fresh =>
    refine .inr ⟨?_, rfl⟩
    rintro ⟨_, wrong⟩
    cases wrong
  | checkpoint _ point => exact .inl ⟨⟨point, rfl⟩, rfl⟩
  | commit _ events _ _ _ _ _ ih | abort _ events _ _ _ ih => exact grows events _ _ ih nofun

structure AbortedIn (env : Env) (inputs : List Bytes) (state : Committed) (events : List JournalEvent) (mark : CommitMarker)
    (seq : Nat) : Prop where
  issued : Issued env inputs mark.bindingDigest mark.generation seq mark.recoveryReference
  inside : seq ≤ events.length
  odd : ¬ Checkpointed events → seq % 2 = 1
  generation : mark.generation ≤ state.snapshot.generation + 1
  overtaken : (∀ last, events.getLast? ≠ some (.abort last)) → mark.generation ≤ state.snapshot.generation

variable {mark : CommitMarker}

theorem settled_aborted (settled : Settled env inputs state events) (member : .abort mark ∈ events) :
    ∃ seq, AbortedIn env inputs state events mark seq := by
  induction settled with
  | fresh => cases member
  | checkpoint => simp at member
  | commit state _ latest entries _ legal _ ih =>
    simp only [mem_append, mem_cons, not_mem_nil, or_false, reduceCtorEq] at member
    obtain ⟨seq, known⟩ := ih member
    have next : (state.commit latest entries).snapshot.generation = state.snapshot.generation + 1 := legal.generation
    have gen := known.generation
    refine ⟨seq, known.issued, ?_, ?_, by omega, fun _ => by omega⟩
    · have inside := known.inside
      simp only [length_append]
      omega
    · exact fun plain => known.odd (fun checkpointed => plain (checkpointed_append _ _ checkpointed))
  | abort _ events latest before legal ih =>
    have last : (events ++ [JournalEvent.intent latest, .abort latest]).getLast? = some (.abort latest) := by simp
    simp only [mem_append, mem_cons, not_mem_nil, or_false, reduceCtorEq, false_or] at member
    rcases member with older | here
    · obtain ⟨seq, known⟩ := ih older
      have inside := known.inside
      refine ⟨seq, known.issued, by simp only [length_append]; omega, ?_, known.generation, fun none => absurd last (none latest)⟩
      exact fun plain => known.odd (fun checkpointed => plain (checkpointed_append _ _ checkpointed))
    · cases here
      have next := legal.generation
      refine ⟨events.length + 1, legal.issued, by simp, ?_, by omega, fun none => absurd last (none mark)⟩
      intro plain
      rcases settled_parity before with ⟨checkpointed, _⟩ | ⟨_, even⟩
      · exact absurd (checkpointed_append _ _ checkpointed) plain
      · omega

-- A reference that no later mutation can be given and no ledger will hold.
structure Retired (env : Env) (inputs : List Bytes) (state : Committed) (events : List JournalEvent) (ref : Str) : Prop where
  spent : ∃ digest gen seq, Issued env inputs digest gen seq ref ∧
    (gen ≤ state.snapshot.generation ∨ (Checkpointed events ∧ seq % 2 = 1) ∨
      ∃ mark, .abort mark ∈ events ∧ mark.recoveryReference = ref)
  unrecorded : ∀ (key : RequestKey) (record : LedgerRecord), state.ledger[key]? = some record →
    record.recoveryReference ≠ ref
  closed : ∀ mark, events.getLast? = some (.intent mark) → mark.recoveryReference ≠ ref

variable {ref : Str}

theorem retired_not_issued (free : CollisionFree env inputs) (retired : Retired env inputs state events ref)
    (settled : Settled env inputs state events)
    (legal : Admissible env inputs state events.length mark) : mark.recoveryReference ≠ ref := by
  intro same
  obtain ⟨_, _, _, issued, spent⟩ := retired.spent
  have again := legal.issued
  rw [same] at again
  obtain ⟨_, _, _⟩ := issued_injective free issued again
  have next := legal.generation
  rcases spent with overtaken | ⟨checkpointed, odd⟩ | ⟨aborted, member, matched⟩
  · omega
  · rcases settled_parity settled with ⟨_, parity⟩ | ⟨plain, _⟩
    · omega
    · exact plain checkpointed
  · obtain ⟨_, known⟩ := settled_aborted settled member
    have first := known.issued
    rw [matched] at first
    have sequences := (issued_injective free first again).2.2
    have inside := known.inside
    omega

-- A compaction that drops the only trace of an abort.
def ForgetsAbort (env : Env) (world : World) : Event → Prop
  | .compact _ => ∃ journal point mark, decodeJournalFrames env world.disk.journal = .ok journal ∧
      journal.events.head? = some (.checkpoint point) ∧ journal.events.getLast? = some (.abort mark)
  | _ => False

theorem retired_compacts (free : CollisionFree env inputs) (retired : Retired env inputs state events ref)
    (settled : Settled env inputs state events) (point : CheckpointMarker)
    (keeps : Checkpointed events → ∀ last, events.getLast? ≠ some (.abort last)) :
      Retired env inputs state [.checkpoint point] ref := by
  obtain ⟨digest, gen, seq, issued, spent⟩ := retired.spent
  refine ⟨⟨digest, gen, seq, issued, ?_⟩, retired.unrecorded, nofun⟩
  rcases spent with overtaken | ⟨_, odd⟩ | ⟨aborted, member, matched⟩
  · exact .inl overtaken
  · exact .inr (.inl ⟨⟨point, rfl⟩, odd⟩)
  · obtain ⟨_, known⟩ := settled_aborted settled member
    have first := known.issued
    rw [matched] at first
    obtain ⟨_, _, _⟩ := issued_injective free first issued
    by_cases checkpointed : Checkpointed events
    · have overtaken := known.overtaken (keeps checkpointed)
      exact .inl (by omega)
    · have odd := known.odd checkpointed
      exact .inr (.inl ⟨⟨point, rfl⟩, by omega⟩)

theorem retired_grows {more : List JournalEvent} (retired : Retired env inputs state events ref)
    (closed : ∀ mark, (events ++ more).getLast? = some (.intent mark) → mark.recoveryReference ≠ ref) :
    Retired env inputs state (events ++ more) ref := by
  obtain ⟨digest, gen, seq, issued, spent⟩ := retired.spent
  refine ⟨⟨digest, gen, seq, issued, ?_⟩, retired.unrecorded, closed⟩
  rcases spent with overtaken | ⟨checkpointed, odd⟩ | ⟨aborted, member, matched⟩
  · exact .inl overtaken
  · exact .inr (.inl ⟨checkpointed_append _ _ checkpointed, odd⟩)
  · exact .inr (.inr ⟨aborted, mem_append_left _ member, matched⟩)

theorem retired_commits (entries : Entries) {count : Nat} (retired : Retired env inputs state events ref)
    (legal : Admissible env inputs state count mark) (apart : mark.recoveryReference ≠ ref) :
    Retired env inputs (state.commit mark entries) events ref := by
  obtain ⟨digest, gen, seq, issued, spent⟩ := retired.spent
  refine ⟨⟨digest, gen, seq, issued, ?_⟩, ?_, retired.closed⟩
  · have next : (state.commit mark entries).snapshot.generation = state.snapshot.generation + 1 := legal.generation
    exact spent.imp_left (fun overtaken => by omega)
  · intro key record found
    simp only [Committed.commit, lookup_insert] at found
    by_cases same : mark.key = key
    · rw [if_pos same] at found
      cases found
      exact apart
    · rw [if_neg same] at found
      exact retired.unrecorded key record found

theorem retired_moves (free : CollisionFree env inputs) {event : Event} {after : Committed}
    {journal : List JournalEvent} {issued : Option CommitMarker} (ref : Str)
    (moves : Moves env inputs event state events issued after journal) (retired : Retired env inputs state events ref)
    (keeps : ∀ plan, event = .compact plan → Checkpointed events → ∀ last, events.getLast? ≠ some (.abort last)) :
    Retired env inputs after journal ref ∧ ∀ mark, issued = some mark → mark.recoveryReference ≠ ref := by
  cases moves with
  | stays => exact ⟨retired, nofun⟩
  | compacts plan point asked settled =>
    exact ⟨retired_compacts free retired settled point (keeps plan asked), nofun⟩
  | closes _ closes =>
    refine ⟨?_, nofun⟩
    rcases closes with rfl | ⟨published, mark, _, rfl⟩
    · exact retired
    · refine retired_grows retired ?_
      intro other last
      cases published <;> simp [closing] at last
  | issues mark entries _ _ settled legal outcome =>
    have apart := retired_not_issued free retired settled legal
    refine ⟨?_, fun other same => by cases same; exact apart⟩
    have intended : Retired env inputs state (events ++ [.intent mark]) ref := by
      refine retired_grows retired ?_
      intro other last
      simp only [getLast?_append, getLast?_singleton, Option.some_or, Option.some.injEq, JournalEvent.intent.injEq] at last
      rw [← last]
      exact apart
    rcases outcome with ⟨rfl, rfl | rfl⟩ | ⟨rfl, rfl | rfl⟩
    · exact retired
    · exact intended
    · exact retired_commits entries intended legal apart
    · refine retired_commits entries ?_ legal apart
      refine retired_grows retired ?_
      intro other last
      simp at last

theorem image_journal (laws : BarrierLaws env) (free : CollisionFree env inputs) {cap : Nat}
    {files : Files} {disk : Disk} (image : Image env inputs cap state files disk) :
    ∃ journal, decodeJournalFrames env disk.journal = .ok journal ∧ journal.events = files.events := by
  obtain ⟨body, tail, onDisk, _⟩ := image.stored
  have filesOk := stage_files_ok free image.stage
  have journalLength := onDisk.journalFits
  rw [onDisk.journal] at journalLength
  simp only [length_append] at journalLength
  have decoded := decode_journal laws files.events body tail onDisk.frames filesOk.events onDisk.torn (by omega) filesOk.count
  rw [← onDisk.journal] at decoded
  exact ⟨_, decoded, rfl⟩

theorem reconcile_committed_lookup {aborted : ExtTreeMap Str ReconciliationStatus}
    {status : ReconciliationStatus} (found : (reconcileCommitted (markersOf state.ledger) aborted)[ref]? =
      some status) :
    (∃ (key : RequestKey) (record : LedgerRecord), state.ledger[key]? = some record ∧ record.recoveryReference = ref ∧
        status = .committed record.generation) ∨
      (aborted[ref]? = some status ∧ ∀ (key : RequestKey) (record : LedgerRecord), state.ledger[key]? = some record →
        record.recoveryReference ≠ ref) := by
  rcases lookup_fold_insert _ _ _ _ _ _ found with ⟨⟨key, mark⟩, listed, sameReference, sameStatus⟩ | ⟨older, apart⟩
  · have present := mem_toList_iff_getElem?_eq_some.mp listed
    rw [markers_lookup] at present
    obtain ⟨record, recorded, rfl⟩ := Option.map_eq_some_iff.mp present
    exact .inl ⟨key, record, recorded, sameReference, sameStatus.symm⟩
  · refine .inr ⟨older, ?_⟩
    intro key record recorded
    have present : (markersOf state.ledger)[key]? = some (markerOf key record) := by
      rw [markers_lookup, recorded]
      rfl
    exact apart (key, markerOf key record) (mem_toList_iff_getElem?_eq_some.mpr present)

structure Truthful (env : Env) (inputs : List Bytes) (state : Committed) (events : List JournalEvent) (svc : Service) : Prop where
  aborted : ∀ ref, svc.reconcile ref = .aborted → Retired env inputs state events ref
  committed : ∀ ref gen, svc.reconcile ref = .committed gen →
    ∃ (key : RequestKey) (record : LedgerRecord), state.ledger[key]? = some record ∧ record.recoveryReference = ref

variable {svc : Service}

theorem reconcile_lookup {status : ReconciliationStatus} (known : svc.reconcile ref = status)
    (reported : status ≠ .unknown) :
    svc.reconciliation[ref]? = some status := by
  unfold Service.reconcile at known
  cases found : svc.reconciliation[ref]? with
  | none =>
    rw [found] at known
    exact absurd known.symm reported
  | some =>
    rw [found] at known
    rw [← known]
    rfl

theorem rebuilt_truthful (settled : Settled env inputs state events) (reconciles : Reconciles state events svc) :
    Truthful env inputs state events svc := by
  obtain ⟨_, aborts, same⟩ := reconciles
  refine ⟨?_, ?_⟩
  · intro ref reported
    have found := reconcile_lookup reported nofun
    rw [same] at found
    rcases reconcile_committed_lookup found with ⟨_, _, _, _, wrong⟩ | ⟨listed, unrecorded⟩
    · cases wrong
    · obtain ⟨_, mark, member, matched⟩ := (aborts ref _).mp listed
      obtain ⟨seq, known⟩ := settled_aborted settled member
      have issued := known.issued
      rw [matched] at issued
      refine ⟨⟨_, _, seq, issued, .inr (.inr ⟨mark, member, matched⟩)⟩, unrecorded, ?_⟩
      exact fun other last => absurd last (settled_no_intent settled other)
  · intro ref gen reported
    have found := reconcile_lookup reported nofun
    rw [same] at found
    rcases reconcile_committed_lookup found with ⟨key, record, recorded, matched, _⟩ | ⟨listed, _⟩
    · exact ⟨key, record, recorded, matched⟩
    · cases ((aborts ref _).mp listed).1

theorem moves_records {event : Event} {after : Committed} {journal : List JournalEvent}
    {issued : Option CommitMarker} (moves : Moves env inputs event state events issued after journal) (key : RequestKey)
    (record : LedgerRecord) (recorded : state.ledger[key]? = some record) : after.ledger[key]? = some record := by
  cases moves with
  | stays | compacts | closes => exact recorded
  | issues _ _ _ _ _ legal outcome =>
    rcases outcome with ⟨rfl, _⟩ | ⟨rfl, _⟩
    · exact recorded
    · simp only [Committed.commit, lookup_insert]
      rw [if_neg]
      · exact recorded
      · intro same
        have fresh := legal.fresh
        rw [same, recorded] at fresh
        cases fresh

theorem reports_truthful {event : Event} {after : Committed}
    {journal : List JournalEvent} {issued : Option CommitMarker} (before : Option Service) (svc : Service)
    (moves : Moves env inputs event state events issued after journal)
    (retires : ∀ ref, Retired env inputs state events ref → Retired env inputs after journal ref)
    (truthful : ∀ old, before = some old → Truthful env inputs state events old)
    (reports : Reports env inputs before issued after journal svc) : Truthful env inputs after journal svc := by
  have grows := moves_records moves
  cases reports with
  | rebuilt settled reconciles => exact rebuilt_truthful settled reconciles
  | kept old found same =>
    have known := truthful old found
    have sameReports : ∀ ref, svc.reconcile ref = old.reconcile ref := by
      intro ref
      unfold Service.reconcile
      rw [same]
    refine ⟨?_, ?_⟩
    · intro ref reported
      rw [sameReports] at reported
      exact retires ref (known.aborted ref reported)
    · intro ref gen reported
      rw [sameReports] at reported
      obtain ⟨key, record, recorded, matched⟩ := known.committed ref gen reported
      exact ⟨key, record, grows key record recorded, matched⟩
  | added old mark found _ recorded same =>
    have known := truthful old found
    have cases_on : ∀ ref, (mark.recoveryReference = ref ∧ svc.reconcile ref = .committed mark.generation) ∨
        svc.reconcile ref = old.reconcile ref := by
      intro ref
      unfold Service.reconcile
      rw [same, lookup_insert]
      by_cases here : mark.recoveryReference = ref
      · rw [if_pos here]
        exact .inl ⟨here, rfl⟩
      · rw [if_neg here]
        exact .inr rfl
    refine ⟨?_, ?_⟩
    · intro ref reported
      rcases cases_on ref with ⟨_, committed⟩ | older
      · rw [committed] at reported
        cases reported
      · rw [older] at reported
        exact retires ref (known.aborted ref reported)
    · intro ref gen reported
      rcases cases_on ref with ⟨here, _⟩ | older
      · exact ⟨mark.key, _, recorded, here⟩
      · rw [older] at reported
        obtain ⟨key, record, present, matched⟩ := known.committed ref gen reported
        exact ⟨key, record, grows key record present, matched⟩

theorem created_truthful (inputs : List Bytes) {cap nonce : Nat} {disk : Disk}
    (made : createNew env cap nonce = .ok (disk, svc)) :
    Truthful env inputs Committed.empty [] svc := by
  obtain ⟨_, made⟩ := unit_bind_ok made
  obtain ⟨_, _, made⟩ := bind_ok made
  obtain ⟨_, _, made⟩ := bind_ok made
  cases made
  have silent : ∀ (ref : Str) (status : ReconciliationStatus), (∅ : ExtTreeMap Str ReconciliationStatus)[ref]? ≠ some status := by simp
  refine ⟨?_, ?_⟩
  · intro ref reported
    exact absurd (reconcile_lookup reported nofun) (silent _ _)
  · intro ref gen reported
    exact absurd (reconcile_lookup reported nofun) (silent _ _)

variable {references : Str → Prop}

section

variable (env : Env) (inputs : List Bytes) (laws : BarrierLaws env) (free : CollisionFree env inputs) (cap : Nat)
  (validCap : validateCapacity cap = .ok ())

def Final (references : Str → Prop) (world : World) : Prop :=
  ∃ state files log, Tracks env inputs cap world state files log ∧ (∀ svc, world.live = some svc → Truthful env inputs state files.events svc) ∧
      ∀ ref, references ref → Retired env inputs state files.events ref

include laws free validCap

theorem final_step {world : World} {event : Event} (final : Final env inputs cap references world)
    (ordinary : Ordinary event) (keeps : ¬ ForgetsAbort env world event)
    (hashed : (step env cap world event).hashed ⊆ inputs) :
    Final env inputs cap references (step env cap world event) ∧
      ∀ mark, issuedBy env world event = some mark → ¬ references mark.recoveryReference := by
  obtain ⟨state, files, log, tracks, truthful, retired⟩ := final
  obtain ⟨after, files', log', _, next, moves, reports⟩ := step_continues laws free validCap tracks ordinary hashed
  have kept : ∀ plan, event = .compact plan → Checkpointed files.events → ∀ last, files.events.getLast? ≠ some (.abort last) := by
    intro plan asked checkpointed last newest
    subst asked
    obtain ⟨journal, decoded, same⟩ := image_journal laws free tracks.image
    obtain ⟨point, first⟩ := checkpointed
    exact keeps ⟨journal, point, last, decoded, by rw [same]; exact first, by rw [same]; exact newest⟩
  have moved := fun ref known => retired_moves free ref moves known
    kept
  refine ⟨⟨after, files', log', next, ?_, ?_⟩, ?_⟩
  · intro svc found
    exact reports_truthful world.live svc moves
      (fun ref known => (moved ref known).1) truthful (reports svc found)
  · exact fun ref listed => (moved ref (retired ref listed)).1
  · intro mark issued listed
    exact (moved _ (retired _ listed)).2 mark issued rfl

theorem final_run (world : World) {events : List Event} (final : Final env inputs cap references world)
    (allowed : Along (step env cap) (fun world event => Ordinary event ∧ ¬ ForgetsAbort env world event) world events)
    (hashed : (run (step env cap) world events).hashed ⊆ inputs) :
      Final env inputs cap references (run (step env cap) world events) := by
  induction events generalizing world with
  | nil => exact final
  | cons event events ih =>
    have stepHashed := List.Subset.trans (run_hashed_grows env cap (step env cap world event) events) hashed
    have next := final_step env inputs laws free cap validCap final allowed.1.1 allowed.1.2 stepHashed
    exact ih (step env cap world event) next.1 allowed.2 hashed

end

/-- A reference answered as aborted is neither issued again nor ever committed. -/
theorem aborted_reference_final (env : Env) (laws : BarrierLaws env) (cap nonce : Nat) (start : World)
    (created : Created env cap nonce start) (earlier later : List Event)
    (allowed : Along (step env cap) (fun world event => Ordinary event ∧ ¬ ForgetsAbort env world event) start
      (earlier ++ later))
    (free : CollisionFree env (run (step env cap) start (earlier ++ later)).hashed) (svc : Service) (ref : Str)
    (found : (run (step env cap) start earlier).live = some svc) (aborted : svc.reconcile ref = .aborted) :
    (∀ between event rest, later = between ++ event :: rest → ∀ mark,
      issuedBy env (run (step env cap) start (earlier ++ between)) event = some mark → mark.recoveryReference ≠ ref) ∧
    ∀ between rest, later = between ++ rest → ∀ service', (run (step env cap) start (earlier ++ between)).live =
      some service' →
        ∀ gen, service'.reconcile ref ≠ .committed gen := by
  obtain ⟨validCap, tracks, _⟩ := created_tracks (run (step env cap) start (earlier ++ later)).hashed
    created
  have empty : Final env (run (step env cap) start (earlier ++ later)).hashed cap (fun _ => False) start := by
    refine ⟨_, _, _, tracks, ?_, fun _ wrong => wrong.elim⟩
    intro other same
    obtain ⟨disk, _, made, rfl⟩ := created
    cases same
    exact created_truthful _ made
  obtain ⟨allowedEarlier, allowedLater⟩ := (along_append _ _ start earlier later).mp allowed
  have hashedEarlier := run_hashed_grows env cap (run (step env cap) start earlier) later
  rw [← run_append] at hashedEarlier
  obtain ⟨state, files, log, reached, truthful, _⟩ := final_run env _ laws free cap validCap start empty
    allowedEarlier hashedEarlier
  have retired : Final env (run (step env cap) start (earlier ++ later)).hashed cap (fun other => other = ref)
      (run (step env cap) start earlier) := by
    refine ⟨state, files, log, reached, truthful, ?_⟩
    rintro _ rfl
    exact (truthful svc found).aborted _ aborted
  have stays : ∀ between rest, later = between ++ rest → Along (step env cap) (fun world event => Ordinary event ∧ ¬ ForgetsAbort env world event)
        (run (step env cap) start (earlier ++ between)) rest ∧
      Final env (run (step env cap) start (earlier ++ later)).hashed cap (fun other => other = ref)
        (run (step env cap) start (earlier ++ between)) := by
    intro between rest split
    subst split
    obtain ⟨allowedBetween, allowedRest⟩ := (along_append _ _ _ between rest).mp allowedLater
    have hashed := run_hashed_grows env cap (run (step env cap) start (earlier ++ between)) rest
    rw [← run_append, append_assoc] at hashed
    rw [run_append]
    refine ⟨allowedRest, final_run env _ laws free cap validCap _ retired allowedBetween ?_⟩
    rw [← run_append]
    exact hashed
  refine ⟨?_, ?_⟩
  · intro between event rest split mark issued same
    obtain ⟨allowedRest, final⟩ := stays between (event :: rest) split
    have hashed := run_hashed_grows env cap (step env cap (run (step env cap) start (earlier ++ between)) event) rest
    have whole : run (step env cap) start (earlier ++ later) =
        run (step env cap) (step env cap (run (step env cap) start (earlier ++ between)) event) rest := by
      rw [split, ← append_assoc, run_append]
      rfl
    rw [← whole] at hashed
    exact (final_step env _ laws free cap validCap final allowedRest.1.1 allowedRest.1.2 hashed).2 mark issued same
  · intro between rest split service' live gen committed
    obtain ⟨_, _, _, _, _, truthful', retired'⟩ := stays between rest split
    obtain ⟨key, record, recorded, matched⟩ := (truthful' service' live).committed ref gen committed
    exact (retired' ref rfl).unrecorded key record recorded matched

-- In the crate's own retry scenario the abort and the retry share a journal.
theorem aborted_reference_final_retry : ∃ start svc, ∃ mark : CommitMarker, Created testEnv 4 0 start ∧
    (run (step testEnv 4) start [.submit firstRequest (some (1, 0)), .reopen none]).live = some svc ∧
    svc.reconcile mark.recoveryReference = .aborted ∧ ∀ between event rest, [.submit firstRequest none] =
      between ++ event :: rest → ∀ other,
      issuedBy testEnv (run (step testEnv 4) start ([.submit firstRequest (some (1, 0)), .reopen none] ++ between))
        event = some other →
        other.recoveryReference ≠ mark.recoveryReference := by
  obtain ⟨start, svc, mark, created, found, aborted, hashed⟩ := retry_run
  exact ⟨start, svc, mark, created, found, aborted,
    (aborted_reference_final testEnv test_barrier_laws 4 0 start created [.submit firstRequest (some (1, 0)), .reopen none]
      [.submit firstRequest none]
      ⟨⟨trivial, fun wrong => wrong⟩, ⟨trivial, fun wrong => wrong⟩, ⟨trivial, fun wrong => wrong⟩, trivial⟩
      (collision_free_subset hashed retry_inputs_free) svc _ found aborted).1⟩

-- Two compactions around the abort: its reference is given out again and committed.
theorem aborted_reference_reissued : ∃ start svc service', ∃ mark : CommitMarker, Created testEnv 4 0 start ∧
    (run (step testEnv 4) start [.compact none, .submit firstRequest (some (1, 0)), .reopen none]).live = some svc ∧
    svc.reconcile mark.recoveryReference = .aborted ∧
    issuedBy testEnv (run (step testEnv 4) start [.compact none, .submit firstRequest (some (1, 0)), .reopen none,
      .compact none])
      (.submit firstRequest none) = some mark ∧
    (run (step testEnv 4) start [.compact none, .submit firstRequest (some (1, 0)), .reopen none, .compact none,
      .submit firstRequest none]).live = some service' ∧ service'.reconcile mark.recoveryReference = .committed 1 := by
  have laws := test_barrier_laws
  have free := branch_inputs_free
  have validCap : validateCapacity 4 = .ok () := by decide
  obtain ⟨start, svc, created, stands, _⟩ := created_stands testEnv laws test_barrier_tight branchInputs 4 0 validCap
  obtain ⟨point, compacted, _, standsCompacted, _⟩ := compact_stands laws test_barrier_tight free stands
  have small : ∀ point, Small 4 Committed.empty [.checkpoint point] := fun _ => ⟨by decide, show 1 ≤ 32 by decide, by decide⟩
  have covered : hashedAt testEnv 1 2 firstRequest ⊆ branchInputs := subset_append_left _ _
  have hashed : hashedBy testEnv compacted firstRequest ⊆ branchInputs := by
    rw [standing_hashed testEnv branchInputs 4 _ _ _ compacted standsCompacted]
    exact covered
  obtain ⟨image, _⟩ := submit_leaves_intent laws test_barrier_tight free 4 _ Committed.empty _ compacted
    standsCompacted (small point) firstRequest sample_requests_valid.1 rfl hashed
  have legal := next_admissible free 4 Committed.empty _ compacted _ firstRequest standsCompacted.live
    sample_requests_valid.1 rfl (by decide) hashed (show 1 + 2 ≤ maxRecords by decide)
  obtain ⟨reopened, standsReopened, aborted, _⟩ := reopen_aborts laws free validCap _ Committed.empty _ _
    standsCompacted.live.settled legal image
  obtain ⟨again, recompacted, _, standsAgain, _⟩ := compact_stands laws test_barrier_tight free
    standsReopened
  have hashedAgain : hashedBy testEnv recompacted firstRequest ⊆ branchInputs := by
    rw [standing_hashed testEnv branchInputs 4 _ _ _ recompacted standsAgain]
    exact covered
  obtain ⟨_, _, _, issued⟩ := submit_issues laws test_barrier_tight free standsAgain (small again) sample_requests_valid.1 rfl hashedAgain none
  obtain ⟨final, standsFinal, reports, _⟩ := submit_stands laws test_barrier_tight free standsAgain
    validCap (small again) sample_requests_valid.1 rfl hashedAgain
  refine ⟨start, reopened, final, _, created, standsReopened.found, aborted, issued, standsFinal.found, ?_⟩
  have same : (nextMarkerOf testEnv Committed.empty [JournalEvent.checkpoint again].length firstRequest).recoveryReference =
    (nextMarkerOf testEnv Committed.empty [JournalEvent.checkpoint point].length firstRequest).recoveryReference := rfl
  unfold Service.reconcile
  rw [reports, lookup_insert, if_pos same]
  rfl

end HeptaBao.Durable
