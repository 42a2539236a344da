import HeptaBao.Durable.Compact
import HeptaBao.Durable.Submit

namespace HeptaBao.Durable

open Wire Std Exec List

structure Applied where
  request : Request
  reference : Str

def Committed.apply (env : Env) (state : Committed) (applied : Applied) : Committed :=
  state.commit ⟨applied.request.key, (applied.request.binding env).digest env, applied.reference, state.snapshot.generation + 1⟩
    (applied.request.apply state.snapshot.entries)

variable (env : Env) (log : List Applied)

-- What the store is for: one request after the other, each with its generation.
def applyAll : Committed := log.foldl (Committed.apply env) Committed.empty

theorem apply_all_snoc (applied : Applied) : applyAll env (log ++ [applied]) =
    (applyAll env log).apply env applied := by
  unfold applyAll
  rw [foldl_append]
  rfl

theorem apply_all_generation : (applyAll env log).snapshot.generation = log.length := by
  induction log using reverseRecOn with
  | nil => rfl
  | append_singleton _ _ ih =>
    rw [apply_all_snoc, length_append, ← ih]
    rfl

theorem apply_all_entries : (applyAll env log).snapshot.entries =
    log.foldl (fun entries applied => applied.request.apply entries) ∅ := by
  induction log using reverseRecOn with
  | nil => rfl
  | append_singleton _ _ ih =>
    rw [apply_all_snoc, foldl_append, ← ih]
    rfl

theorem apply_all_absent {env : Env} {log : List Applied} {key : RequestKey}
    (absent : (applyAll env log).ledger[key]? = none) : ∀ applied ∈ log, applied.request.key ≠ key := by
  induction log using reverseRecOn with
  | nil => simp
  | append_singleton _ applied ih =>
    simp only [apply_all_snoc, Committed.apply, Committed.commit, lookup_insert] at absent
    by_cases same : applied.request.key = key
    · simp [same] at absent
    · rw [if_neg same] at absent
      intro other member
      rcases mem_append.mp member with older | here
      · exact ih absent other older
      · rw [mem_singleton.mp here]
        exact same

-- The ledger keeps one record per request, numbered in order.
theorem apply_all_record {log : List Applied} (distinct : (log.map (fun applied => applied.request.key)).Nodup)
    {index : Nat} {applied : Applied} (found : log[index]? = some applied) :
      (applyAll env log).ledger[applied.request.key]? =
      some ⟨(applied.request.binding env).digest env, applied.reference, index + 1⟩ := by
  induction log using reverseRecOn with
  | nil => simp at found
  | append_singleton log _ ih =>
    simp only [map_append, map_cons, map_nil, nodup_append, mem_map, mem_singleton] at distinct
    obtain ⟨older, _, apart⟩ := distinct
    simp only [apply_all_snoc, Committed.apply, Committed.commit, lookup_insert]
    by_cases here : index < log.length
    · rw [getElem?_append_left here] at found
      have member : applied ∈ log := mem_of_getElem? found
      rw [if_neg (fun same => apart _ ⟨applied, member, rfl⟩ _ rfl same.symm)]
      exact ih older found
    · have bound := (List.getElem?_eq_some_iff.mp found).1
      have position : index = log.length := by
        simp only [length_append, length_singleton] at bound
        omega
      subst position
      rw [getElem?_concat_length] at found
      cases found
      rw [if_pos rfl, apply_all_generation]
      rfl

-- All acknowledged calls, and of the others only some whose outcome was unknown.
inductive Selection : List Call → List Applied → Prop
  | empty : Selection [] []
  | acknowledged (calls : List Call) (log : List Applied) (call : Call) (ref : Str) (before : Selection calls log)
      (reply : call.reply = .ok (.committed (log.length + 1) ref)) :
      Selection (calls ++ [call]) (log ++ [⟨call.request, ref⟩])
  | recovered (calls : List Call) (log : List Applied) (call : Call) (ref : Str) (before : Selection calls log)
      (reply : call.reply = .error (.outcomeUnknown ref)) :
      Selection (calls ++ [call]) (log ++ [⟨call.request, ref⟩])
  | skipped (calls : List Call) (log : List Applied) (call : Call) (before : Selection calls log)
      (reply : ∀ gen ref, call.reply ≠ .ok (.committed gen ref)) :
      Selection (calls ++ [call]) log

-- A committed state that comes from a log of requests, each key once.
structure History (env : Env) (inputs : List Bytes) (state : Committed) (log : List Applied) : Prop where
  applied : state = applyAll env log
  distinct : (log.map (fun applied => applied.request.key)).Nodup
  submitted : ∀ applied ∈ log, applied.request.validate = .ok () ∧ applied.request.valueInput ∈ inputs ∧
    digestInput bindingDomain (applied.request.binding env).encoded ∈ inputs

variable {inputs : List Bytes}

theorem history_extends {env : Env} {state : Committed} {log : List Applied} {svc : Service} (count : Nat)
    {req : Request} (history : History env inputs state log) (valid : req.validate = .ok ())
    (fresh : state.ledger[req.key]? = none) (hashed : hashedBy env svc req ⊆ inputs) :
    History env inputs (nextState env state count req)
    (log ++ [⟨req, (nextMarkerOf env state count req).recoveryReference⟩]) := by
  refine ⟨?_, ?_, ?_⟩
  · rw [apply_all_snoc, ← history.applied]
    rfl
  · rw [history.applied] at fresh
    have apart := apply_all_absent fresh
    simp only [map_append, map_cons, map_nil, nodup_append, mem_map, mem_singleton]
    refine ⟨history.distinct, nodup_singleton _, ?_⟩
    rintro _ ⟨applied, member, rfl⟩ _ rfl
    exact apart applied member
  · intro applied member
    rcases mem_append.mp member with older | here
    · exact history.submitted applied older
    · rw [mem_singleton.mp here]
      exact ⟨valid, hashed (by simp [hashedBy, hashedAt]), hashed (by simp [hashedBy, hashedAt])⟩

structure Tracks (env : Env) (inputs : List Bytes) (cap : Nat) (world : World) (state : Committed) (files : Files)
    (log : List Applied) : Prop where
  image : Image env inputs cap state files world.disk
  history : History env inputs state log
  selection : Selection world.calls log
  live : ∀ svc, world.live = some svc → svc.unresolved = false → Live env inputs cap state files.events svc world.disk

def Resolved (world : World) : Prop := ∀ svc, world.live = some svc → svc.unresolved = false

inductive Moves (env : Env) (inputs : List Bytes) (event : Event) (state : Committed) (events : List JournalEvent) :
    Option CommitMarker → Committed → List JournalEvent → Prop
  | stays : Moves env inputs event state events none state events
  | issues (mark : CommitMarker) (entries : Entries) (after : Committed) (journal : List JournalEvent)
      (settled : Settled env inputs state events) (legal : Admissible env inputs state events.length mark)
      (outcome : (after = state ∧ (journal = events ∨ journal = events ++ [.intent mark])) ∨ (after = state.commit mark entries ∧
          (journal = events ++ [.intent mark] ∨ journal = events ++ [.intent mark, .commit mark]))) :
      Moves env inputs event state events (some mark) after journal
  | compacts (plan : Plan) (point : CheckpointMarker) (asked : event = .compact plan) (settled : Settled env inputs state events)
      (taken : checkpointMarker env state.snapshot state.ledger = .ok point) :
      Moves env inputs event state events none state [.checkpoint point]
  | closes (journal : List JournalEvent) (closes : Closes events journal) : Moves env inputs event state events none state journal

-- Where the reconciliation map of a live handle comes from.
inductive Reports (env : Env) (inputs : List Bytes) (before : Option Service) (issued : Option CommitMarker) (after : Committed)
    (journal : List JournalEvent) (svc : Service) : Prop
  | kept (old : Service) (found : before = some old) (same : svc.reconciliation = old.reconciliation)
  | added (old : Service) (mark : CommitMarker) (found : before = some old) (issuedEq : issued = some mark)
      (recorded : after.ledger[mark.key]? = some (recordOf mark))
      (same : svc.reconciliation = old.reconciliation.insert mark.recoveryReference (.committed mark.generation))
  | rebuilt (settled : Settled env inputs after journal) (reconciles : Reconciles after journal svc)

def issuedBy (world : World) : Event → Option CommitMarker
  | .submit req _ => match world.live with
      | some svc => issuedMarker env svc world.nonce req
      | none => none
  | _ => none

def Ordinary : Event → Prop
  | .exportBackup => False
  | .restoreBackup _ _ _ => False
  | _ => True

section

variable (env : Env) (inputs : List Bytes) (laws : BarrierLaws env) (free : CollisionFree env inputs) (cap : Nat)
  (validCap : validateCapacity cap = .ok ()) (world : World) (state : Committed) (files : Files) (log : List Applied)
  (tracks : Tracks env inputs cap world state files log)

def Continued (event : Event) : Prop :=
  ∃ after files' log', log <+: log' ∧ Tracks env inputs cap (step env cap world event) after files' log' ∧
    Moves env inputs event state files.events (issuedBy env world event) after files'.events ∧ ∀ svc, (step env cap world event).live = some svc →
        Reports env inputs world.live (issuedBy env world event) after files'.events svc

include tracks

theorem crash_continues : Continued env inputs cap world state files log .crash := ⟨state, files, log, prefix_rfl,
    ⟨tracks.image, tracks.history, tracks.selection, nofun⟩, .stays, nofun⟩

variable {env inputs cap world state files log} in
theorem refused_continues {req : Request} {plan : Plan} {svc : Service} (found : world.live = some svc)
    (refused : Refused ⟨world.disk, plan, world.nonce, svc⟩ (issuedMarker env svc world.nonce req)
      (req.submit env ⟨world.disk, plan, world.nonce, svc⟩).1 (req.submit env ⟨world.disk, plan, world.nonce, svc⟩).2) :
    Continued env inputs cap world state files log (.submit req plan) := by
  refine ⟨state, files, log, prefix_rfl, ?_, ?_, ?_⟩
  · simp only [step, found]
    refine ⟨?_, tracks.history, .skipped _ _ _ tracks.selection refused.reply, ?_⟩
    · change Image env inputs cap state files (req.submit env _).2.disk
      rw [refused.disk]
      exact tracks.image
    · intro other same resolved
      cases same
      change Live env inputs cap state files.events (req.submit env _).2.service (req.submit env _).2.disk
      change (req.submit env _).2.service.unresolved = false at resolved
      rw [refused.service] at resolved ⊢
      rw [refused.disk]
      exact tracks.live svc found resolved
  · simp only [issuedBy, found, refused.issued]
    exact .stays
  · intro other same
    simp only [step, found] at same
    cases same
    exact .kept svc found (by rw [refused.service])

include laws free validCap

theorem reopen_continues (plan : Plan) : Continued env inputs cap world state files log (.reopen plan) := by
  obtain ⟨files', image, closes, _, reopened⟩ := reopen_recovers laws free plan world.nonce
    validCap tracks.image
  have opened : ∀ svc, (step env cap world (.reopen plan)).live = some svc → (reopen env cap world.disk plan world.nonce).1 = .ok svc := by
    intro svc found
    simp only [step] at found
    cases outcome : (reopen env cap world.disk plan world.nonce).1 with
    | error =>
      rw [outcome] at found
      cases found
    | ok =>
      rw [outcome] at found
      cases found
      rfl
  refine ⟨state, files', log, prefix_rfl, ⟨image, tracks.history, tracks.selection, ?_⟩, .closes _ closes, ?_⟩
  · intro svc found _
    exact (reopened svc (opened svc found)).live
  · intro svc found
    have known := reopened svc (opened svc found)
    exact .rebuilt known.live.settled known.reconciles

theorem submit_continues (req : Request) (plan : Plan)
    (hashed : (step env cap world (.submit req plan)).hashed ⊆ inputs) :
    Continued env inputs cap world state files log (.submit req plan) := by
  cases found : world.live with
  | none =>
    refine ⟨state, files, log, prefix_rfl, ?_, ?_, ?_⟩
    · simp only [step, found]
      exact tracks
    · simp only [issuedBy, found]
      exact .stays
    · simp only [step, found]
      exact nofun
  | some svc =>
    simp only [step, found] at hashed
    have requestHashed : hashedBy env svc req ⊆ inputs := fun input member => hashed (mem_append_right _ member)
    cases unresolved : svc.unresolved with
    | true =>
      exact refused_continues tracks found
        (submit_unresolved env req unresolved)
    | false =>
      have live := tracks.live svc found unresolved
      have ended := submit_ends env inputs laws free cap state files.events req ⟨world.disk, plan, world.nonce, svc⟩
        live unresolved validCap requestHashed
      unfold Action.Ends at ended
      generalize outcome : req.submit env ⟨world.disk, plan, world.nonce, svc⟩ = reached at ended
      obtain ⟨_, reached⟩ := reached
      cases ended with
      | refused _ _ refused =>
        refine refused_continues tracks
          found ?_
        rw [outcome]
        exact refused
      | committed mark _ markerEq issuedEq valid fresh legal next _ reconciliation =>
        have history := history_extends files.events.length tracks.history valid fresh
          requestHashed
        rw [← markerEq] at history
        have imageNow := live_image free next
        refine ⟨nextState env state files.events.length req, ⟨(nextState env state files.events.length req).snapshot,
          files.events ++ [.intent mark, .commit mark], (nextState env state files.events.length req).ledger⟩, log ++ [⟨req, mark.recoveryReference⟩], prefix_append _ _, ?_, ?_, ?_⟩
        · simp only [step, found, outcome]
          refine ⟨imageNow, history, .acknowledged _ _ _ _ tracks.selection ?_, ?_⟩
          · rw [← apply_all_generation env, ← tracks.history.applied, markerEq]
            rfl
          · intro other same _
            cases same
            exact next
        · simp only [issuedBy, found, issuedEq]
          exact .issues mark _ _ _ live.settled legal (.inr ⟨by rw [markerEq]; rfl, .inr rfl⟩)
        · intro other same
          simp only [step, found, outcome] at same
          cases same
          refine .added svc mark found (by simp only [issuedBy, found, issuedEq]) ?_ reconciliation
          simp only [nextState, Committed.commit, lookup_insert, ← markerEq, if_true]
      | unknown _ _ markerEq issuedEq valid fresh legal _ interrupted poisoned reconciliation =>
        have history := history_extends files.events.length tracks.history valid fresh
          requestHashed
        subst markerEq
        obtain ⟨after, files', image, choice⟩ := interrupted
        have dead : ∀ other, (step env cap world (.submit req plan)).live = some other → other.unresolved = false →
            Live env inputs cap after files'.events other (step env cap world (.submit req plan)).disk := by
          intro other same resolved
          simp only [step, found, outcome] at same
          cases same
          rw [poisoned] at resolved
          cases resolved
        have moves : Moves env inputs (.submit req plan) state files.events (issuedBy env world (.submit req plan)) after
            files'.events := by
          simp only [issuedBy, found, issuedEq]
          exact .issues _ _ _ _ live.settled legal choice
        have imageNow : Image env inputs cap after files' (step env cap world (.submit req plan)).disk := by
          simp only [step, found, outcome]
          exact image
        have reports : ∀ other, (step env cap world (.submit req plan)).live = some other →
            Reports env inputs world.live (issuedBy env world (.submit req plan)) after files'.events other := by
          intro other same
          simp only [step, found, outcome] at same
          cases same
          exact .kept svc found reconciliation
        rcases choice with ⟨rfl, _⟩ | ⟨rfl, _⟩
        · refine ⟨_, files', log, prefix_rfl, ⟨imageNow, tracks.history, ?_, dead⟩, moves, reports⟩
          simp only [step, found, outcome]
          refine .skipped _ _ _ tracks.selection ?_
          intro gen ref wrong
          cases wrong
        · refine ⟨_, files', _, prefix_append _ _, ⟨imageNow, history, ?_, dead⟩, moves, reports⟩
          simp only [step, found, outcome]
          exact .recovered _ _ _ _ tracks.selection rfl

omit laws validCap in
theorem compact_continues (plan : Plan) : Continued env inputs cap world state files log (.compact plan) := by
  cases found : world.live with
  | none =>
    refine ⟨state, files, log, prefix_rfl, ?_, .stays, ?_⟩
    · simp only [step, found]
      exact tracks
    · simp only [step, found]
      exact nofun
  | some svc =>
    cases unresolved : svc.unresolved with
    | true =>
      have refused : compact env ⟨world.disk, plan, world.nonce, svc⟩ = (.error .recoveryRequired, ⟨world.disk, plan, world.nonce, svc⟩) := by
        simp only [compact, Action.bind_apply, Action.read, unresolved, if_true]
        rfl
      refine ⟨state, files, log, prefix_rfl, ?_, .stays, ?_⟩
      · simp only [step, found, refused]
        refine ⟨tracks.image, tracks.history, tracks.selection, ?_⟩
        intro other same resolved
        cases same
        rw [unresolved] at resolved
        cases resolved
      · simp only [step, found, refused]
        intro other same
        cases same
        exact .kept svc rfl rfl
    | false =>
      have live := tracks.live svc found unresolved
      have ended := compact_ends free ⟨world.disk, plan, world.nonce, svc⟩ live unresolved
      unfold Action.Ends at ended
      generalize outcome : compact env ⟨world.disk, plan, world.nonce, svc⟩ = reached at ended
      obtain ⟨_, reached⟩ := reached
      cases ended with
      | refused _ _ disk same =>
        simp only at disk same
        refine ⟨state, files, log, prefix_rfl, ?_, .stays, ?_⟩
        · simp only [step, found, outcome, disk, same]
          refine ⟨tracks.image, tracks.history, tracks.selection, ?_⟩
          intro other equal _
          cases equal
          exact live
        · simp only [step, found, outcome, same]
          intro other equal
          cases equal
          exact .kept svc rfl rfl
      | compacted _ _ point taken next _ reconciliation =>
        have imageNow := live_image free next
        refine ⟨state, ⟨state.snapshot, [.checkpoint point], state.ledger⟩, log, prefix_rfl, ?_, .compacts plan point rfl live.settled taken, ?_⟩
        · simp only [step, found, outcome]
          refine ⟨imageNow, tracks.history, tracks.selection, ?_⟩
          intro other equal _
          cases equal
          exact next
        · simp only [step, found, outcome]
          intro other equal
          cases equal
          exact .kept svc rfl reconciliation
      | interrupted _ _ files' point taken _ image journal poisoned reconciliation =>
        refine ⟨state, files', log, prefix_rfl, ?_, ?_, ?_⟩
        · simp only [step, found, outcome]
          refine ⟨image, tracks.history, tracks.selection, ?_⟩
          intro other equal resolved
          cases equal
          rw [poisoned] at resolved
          cases resolved
        · rcases journal with same | replaced
          · rw [same]
            exact .stays
          · rw [replaced]
            exact .compacts plan point rfl live.settled taken
        · simp only [step, found, outcome]
          intro other equal
          cases equal
          exact .kept svc rfl reconciliation

variable {env inputs cap world state files log} in
theorem step_continues {event : Event} (ordinary : Ordinary event)
    (hashed : (step env cap world event).hashed ⊆ inputs) :
    Continued env inputs cap world state files log event := by
  cases event with
  | submit req plan => exact submit_continues env inputs laws free cap validCap world state files log tracks req plan hashed
  | compact plan => exact compact_continues env inputs free cap world state files log tracks plan
  | crash => exact crash_continues env inputs cap world state files log tracks
  | reopen plan => exact reopen_continues env inputs laws free cap validCap world state files log tracks plan
  | exportBackup | restoreBackup => cases ordinary

end

theorem created_tracks {env : Env} (inputs : List Bytes) {cap nonce : Nat} {world : World}
    (created : Created env cap nonce world) :
    validateCapacity cap = .ok () ∧ Tracks env inputs cap world Committed.empty ⟨emptySnapshot, [], ∅⟩ [] ∧
      Resolved world := by
  obtain ⟨_, _, made, rfl⟩ := created
  obtain ⟨validCap, made⟩ := @unit_bind_ok _ _ _ _ _ made
  obtain ⟨snap, snapshotMade, made⟩ := @bind_ok _ _ _ _ _ _ made
  obtain ⟨ledger, ledgerMade, made⟩ := @bind_ok _ _ _ _ _ _ made
  cases made
  obtain ⟨_, snapshotWritten, snapshotBounded⟩ := @bind_ok _ _ _ _ _ _ snapshotMade
  obtain ⟨snapshotFits, same⟩ := bounded_fits snapshotBounded
  rw [same] at snapshotWritten snapshotFits
  obtain ⟨_, ledgerWritten, ledgerBounded⟩ := @bind_ok _ _ _ _ _ _ ledgerMade
  obtain ⟨ledgerFits, same⟩ := bounded_fits ledgerBounded
  rw [same] at ledgerWritten ledgerFits
  have onDisk : OnDisk env ⟨emptySnapshot, [], ∅⟩ [] [] ⟨snap, journalMagic, ledger⟩ :=
    ⟨⟨nonce, snapshotWritten⟩, snapshotFits, ⟨nonce + 1, ledgerWritten⟩, ledgerFits, by simp, rfl, .inl rfl, show journalMagic.length ≤ maxFileBytes by decide⟩
  have within : Committed.empty.snapshot.generation ≤ cap := Nat.zero_le _
  refine ⟨validCap, ⟨⟨.quiet _ _ .fresh, ⟨[], [], onDisk, @settled_room env inputs _ _ .fresh _ _ _⟩,
    ⟨nonce + 1, ledger, ledgerWritten, ledgerFits⟩, within⟩, ⟨rfl, nodup_nil, by simp⟩, .empty, ?_⟩, ?_⟩
  · intro other same _
    cases same
    exact ⟨rfl, rfl, rfl, rfl, rfl, rfl, .fresh, ⟨[], onDisk⟩, within⟩
  · intro other same
    cases same
    rfl

theorem hashed_grows (cap : Nat) (world : World) (event : Event) :
    world.hashed ⊆ (step env cap world event).hashed := by
  cases event with
  | submit =>
    simp only [step]
    split
    · exact List.Subset.refl _
    · exact subset_append_left _ _
  | compact | exportBackup | restoreBackup =>
    simp only [step]
    split <;> exact List.Subset.refl _
  | crash | reopen => exact List.Subset.refl _

theorem run_hashed_grows (cap : Nat) (world : World) (events : List Event) :
    world.hashed ⊆ (run (step env cap) world events).hashed := by
  induction events generalizing world with
  | nil => exact List.Subset.refl _
  | cons event _ ih => exact List.Subset.trans (hashed_grows env cap world event) (ih (step env cap world event))

theorem run_continues {env : Env} (laws : BarrierLaws env) (free : CollisionFree env inputs) {cap : Nat}
    (validCap : validateCapacity cap = .ok ()) (world : World) (events : List Event)
    (ordinary : ∀ event ∈ events, Ordinary event) (hashed : (run (step env cap) world events).hashed ⊆ inputs)
    (state : Committed) (files : Files) (log : List Applied) (tracks : Tracks env inputs cap world state files log) :
    ∃ after files' log', log <+: log' ∧ Tracks env inputs cap (run (step env cap) world events) after files' log' := by
  induction events generalizing world state files log with
  | nil => exact ⟨state, files, log, prefix_rfl, tracks⟩
  | cons event events ih =>
    have stepHashed := List.Subset.trans (run_hashed_grows env cap (step env cap world event) events) hashed
    obtain ⟨middle, middleFiles, middleLog, longer, middleTracks, _⟩ := step_continues laws free validCap tracks (ordinary event (by simp)) stepHashed
    obtain ⟨after, files', log', longest, next⟩ := ih (step env cap world event)
      (fun other member => ordinary other (by simp [member])) hashed middle middleFiles middleLog middleTracks
    exact ⟨after, files', log', longer.trans longest, next⟩

theorem created_run_tracks {env : Env} (laws : BarrierLaws env) {cap nonce : Nat} {start : World}
    (created : Created env cap nonce start) (events : List Event) (ordinary : ∀ event ∈ events, Ordinary event)
    (free : CollisionFree env inputs) (hashed : (run (step env cap) start events).hashed ⊆ inputs) :
    ∃ state files log, Tracks env inputs cap (run (step env cap) start events) state files log := by
  obtain ⟨validCap, tracks, _⟩ := created_tracks inputs created
  obtain ⟨state, files, log, _, reached⟩ := run_continues laws free validCap start events ordinary hashed
    Committed.empty _ [] tracks
  exact ⟨state, files, log, reached⟩

end HeptaBao.Durable
