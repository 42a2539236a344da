import HeptaBao.Durable.TestBarrier

namespace HeptaBao.Durable

open Wire Std Exec Action List

theorem encode_string_split {a b : Str} {x y : Bytes} (smallA : a.length < 2 ^ 32) (smallB : b.length < 2 ^ 32)
    (same : encodeString a ++ x = encodeString b ++ y) : a = b ∧ x = y := by
  unfold encodeString at same
  rw [append_assoc, append_assoc] at same
  obtain ⟨sameLength, same⟩ := append_split (by simp) same
  have lengths := little_injective (by omega) (by omega) sameLength
  exact append_split (by omega) same

theorem binding_injective (a b : Binding) (validA : validateKey a.key = .ok ()) (validB : validateKey b.key = .ok ())
    (resourceA : validateResource a.resource = .ok ()) (resourceB : validateResource b.resource = .ok ())
    (same : a.encoded = b.encoded) : a = b := by
  have strings : maxStringBytes < 2 ^ 32 := by decide
  obtain ⟨principalA, nspaceA, requestIdA⟩ := validate_key_parts validA
  obtain ⟨principalB, nspaceB, requestIdB⟩ := validate_key_parts validB
  have boundA := (identifier_bounds principalA).1
  have boundB := (identifier_bounds principalB).1
  unfold Binding.encoded at same
  obtain ⟨samePrincipal, same⟩ := encode_string_split (by omega) (by omega) same
  have boundA := (namespace_bounds nspaceA).1
  have boundB := (namespace_bounds nspaceB).1
  obtain ⟨sameNamespace, same⟩ := encode_string_split (by omega) (by omega) same
  have boundA := (identifier_bounds requestIdA).1
  have boundB := (identifier_bounds requestIdB).1
  obtain ⟨sameRequestId, same⟩ := encode_string_split (by omega) (by omega) same
  have boundA := (resource_bounds _ resourceA).1
  have boundB := (resource_bounds _ resourceB).1
  obtain ⟨sameResource, same⟩ := encode_string_split (by omega) (by omega) same
  obtain ⟨sameKind, same⟩ := append_split (by simp) same
  obtain ⟨sameAuthorization, sameValue⟩ := append_split (by rw [a.authorizationDigest.size, b.authorizationDigest.size]) same
  obtain ⟨⟨_, _, _⟩, _, kind, _, _⟩ := a
  obtain ⟨⟨_, _, _⟩, _, kind', _, _⟩ := b
  simp only at samePrincipal sameNamespace sameRequestId sameResource sameAuthorization sameValue sameKind
  have kinds : kind = kind' := by cases kind <;> cases kind' <;> simp_all [MutationKind.code]
  rw [samePrincipal, sameNamespace, sameRequestId, sameResource, kinds, Digest.ext sameAuthorization, Digest.ext sameValue]

theorem request_valid_parts (env : Env) (req : Request) (valid : req.validate = .ok ()) :
    validateKey (req.binding env).key = .ok () ∧ validateResource (req.binding env).resource = .ok () := by
  cases req with
  | put req => exact put_validate_parts valid
  | delete req => exact delete_validate_parts valid

theorem request_injective {env : Env} {inputs : List Bytes} (free : CollisionFree env inputs) {a b : Request}
    (validA : a.validate = .ok ()) (validB : b.validate = .ok ()) (valueA : a.valueInput ∈ inputs)
    (valueB : b.valueInput ∈ inputs)
    (bindingA : digestInput bindingDomain (a.binding env).encoded ∈ inputs)
    (bindingB : digestInput bindingDomain (b.binding env).encoded ∈ inputs)
    (same : (a.binding env).digest env = (b.binding env).digest env) : a = b := by
  obtain ⟨keyA, resourceA⟩ := request_valid_parts env a validA
  obtain ⟨keyB, resourceB⟩ := request_valid_parts env b validB
  have sameInput := free.distinct _ bindingA _ bindingB (congrArg (fun digest => digest.bytes.take 16) same)
  have bindings := binding_injective _ _ keyA keyB resourceA resourceB (digest_input_injective _ _ _ sameInput)
  cases a with
  | put a =>
    cases b with
    | put b =>
      have digests : env.sha256 (digestInput valueDomain a.value.bytes) = env.sha256 (digestInput valueDomain b.value.bytes) :=
        congrArg Binding.valueDigest bindings
      have values := digest_input_injective _ _ _ (free.distinct _ valueA _ valueB
        (congrArg (fun digest => digest.bytes.take 16) digests))
      obtain ⟨who, nspace, requestId, resource, authorization, value⟩ := a
      obtain ⟨principal', nspace', requestId', resource', authorization', value'⟩ := b
      simp only [Request.binding, PutRequest.binding, Binding.mk.injEq, RequestKey.mk.injEq] at bindings
      obtain ⟨⟨rfl, rfl, rfl⟩, rfl, _, rfl, _⟩ := bindings
      have sameValue : value = value' := Secret.ext values
      rw [sameValue]
    | delete =>
      simp only [Request.binding, PutRequest.binding, DeleteRequest.binding, Binding.mk.injEq, reduceCtorEq, false_and, and_false] at bindings
  | delete a =>
    cases b with
    | put =>
      simp only [Request.binding, PutRequest.binding, DeleteRequest.binding, Binding.mk.injEq, reduceCtorEq, false_and, and_false] at bindings
    | delete b =>
      obtain ⟨_, _, _, _, _⟩ := a
      obtain ⟨_, _, _, _, _⟩ := b
      simp only [Request.binding, DeleteRequest.binding, Binding.mk.injEq, RequestKey.mk.injEq] at bindings
      obtain ⟨⟨rfl, rfl, rfl⟩, rfl, _, rfl, _⟩ := bindings
      rfl

def FaultsCrash : List Event → Prop
  | [] => True
  | .crash :: rest => FaultsCrash rest
  | .submit _ plan :: rest | .compact plan :: rest =>
    (plan = none ∨ rest.head? = some .crash) ∧ FaultsCrash rest
  | _ :: rest => FaultsCrash rest

-- What a resolved handle knows about the applied requests, and answers to them.
structure Answers (env : Env) (world : World) (svc : Service) (log : List Applied) : Prop where
  entries : svc.snapshot.entries = log.foldl (fun entries applied => applied.request.apply entries) ∅
  generation : svc.snapshot.generation = log.length
  numbered : ∀ n, (∃ (key : RequestKey) (record : LedgerRecord), svc.ledger[key]? = some record ∧
    record.generation = n) ↔
    1 ≤ n ∧ n ≤ svc.snapshot.generation
  once : ∀ (key key' : RequestKey) (record record' : LedgerRecord), svc.ledger[key]? = some record →
    svc.ledger[key']? = some record' → record.generation = record'.generation → key = key'
  known : ∀ index applied, log[index]? = some applied → ∀ plan (req : Request), req.key = applied.request.key →
    req.validate = .ok () → CollisionFree env (world.hashed ++ hashedBy env svc req) →
      Ends (req.submit env) ⟨world.disk, plan, world.nonce, svc⟩ (fun res reached =>
        reached.disk = world.disk ∧ reached.service = svc ∧ res = if req = applied.request then .ok (.duplicate (index + 1) applied.reference)
            else .error .requestBindingConflict)

theorem tracks_answers {env : Env} {cap : Nat} {world : World} (free : CollisionFree env world.hashed)
    {state : Committed}
    {files : Files} {log : List Applied} (tracks : Tracks env world.hashed cap world state files log) {svc : Service}
    (found : world.live = some svc) (resolved : svc.unresolved = false) : Answers env world svc log := by
  have live := tracks.live svc found resolved
  have valid := settled_ok free live.settled
  have history := tracks.history
  refine ⟨?_, ?_, ?_, ?_, ?_⟩
  · rw [live.snapshot, history.applied, apply_all_entries]
  · rw [live.snapshot, history.applied, apply_all_generation]
  · intro n
    rw [live.snapshot, live.ledger, ← ledger_complete n valid.ledger]
    constructor
    · rintro ⟨key, record, listed, same⟩
      exact ⟨(key, record), ExtTreeMap.mem_toList_iff_getElem?_eq_some.mpr listed, same⟩
    · rintro ⟨entry, listed, same⟩
      exact ⟨entry.1, entry.2, mem_ledger listed, same⟩
  · intro key key' record record' first second same
    rw [live.ledger] at first second
    exact valid.ledger.generations key key' record record' first second same
  · intro index applied listed plan req sameKey validRequest stillFree
    have member := mem_of_getElem? listed
    obtain ⟨validApplied, valueHashed, bindingHashed⟩ := history.submitted applied member
    have record := apply_all_record env history.distinct listed
    rw [← history.applied, ← sameKey] at record
    refine ends_weaken (submit_known env world.hashed cap state files.events req
      ⟨world.disk, plan, world.nonce, svc⟩ live validRequest resolved _ record) ?_
    intro res reached ended
    refine ⟨ended.1, ended.2.1, ?_⟩
    rw [ended.2.2]
    by_cases same : req = applied.request
    · rw [if_pos same, if_pos (by rw [same])]
    · rw [if_neg same, if_neg]
      intro digests
      refine same (request_injective stillFree validRequest validApplied ?_ ?_ ?_ ?_ digests.symm)
      · exact mem_append_right _ (by simp [hashedBy, hashedAt])
      · exact mem_append_left _ valueHashed
      · exact mem_append_right _ (by simp [hashedBy, hashedAt])
      · exact mem_append_left _ bindingHashed

section

variable (env : Env) (inputs : List Bytes) (laws : BarrierLaws env) (free : CollisionFree env inputs) (cap : Nat)
  (validCap : validateCapacity cap = .ok ()) (world : World) (state : Committed) (files : Files) (log : List Applied)
  (tracks : Tracks env inputs cap world state files log)

include laws free validCap tracks

theorem submit_stays_resolved {req : Request} (hashed : (step env cap world (.submit req none)).hashed ⊆ inputs)
    (resolved : Resolved world) : Resolved (step env cap world (.submit req none)) := by
  cases found : world.live with
  | none => simpa only [step, found] using resolved
  | some svc =>
    simp only [step, found] at hashed
    have unresolved := resolved svc found
    have live := tracks.live svc found unresolved
    have ended := submit_ends env inputs laws free cap state files.events req ⟨world.disk, none, world.nonce, svc⟩
      live unresolved validCap (fun input member => hashed (mem_append_right _ member))
    unfold Ends at ended
    generalize outcome : req.submit env ⟨world.disk, none, world.nonce, svc⟩ = reached at ended
    obtain ⟨_, reached⟩ := reached
    intro other same
    simp only [step, found, outcome] at same
    cases same
    cases ended with
    | refused _ _ refused =>
      rw [refused.service]
      exact unresolved
    | committed _ _ _ _ _ _ _ _ stays => exact stays
    | unknown _ _ _ _ _ _ _ planned => exact absurd rfl planned

omit laws validCap in
theorem compact_stays_resolved (resolved : Resolved world) : Resolved (step env cap world (.compact none)) := by
  cases found : world.live with
  | none => simpa only [step, found] using resolved
  | some svc =>
    have unresolved := resolved svc found
    have live := tracks.live svc found unresolved
    have ended := compact_ends free ⟨world.disk, none, world.nonce, svc⟩ live unresolved
    unfold Ends at ended
    generalize outcome : compact env ⟨world.disk, none, world.nonce, svc⟩ = reached at ended
    obtain ⟨_, reached⟩ := reached
    intro other same
    simp only [step, found, outcome] at same
    cases same
    cases ended with
    | refused _ _ _ unchanged =>
      rw [unchanged]
      exact unresolved
    | compacted _ _ _ _ _ stays => exact stays
    | interrupted _ _ _ _ _ planned => exact absurd rfl planned

theorem reopen_resolves (plan : Plan) : Resolved (step env cap world (.reopen plan)) := by
  obtain ⟨_, _, _, _, reopened⟩ := reopen_recovers laws free plan world.nonce
    validCap tracks.image
  intro svc same
  cases outcome : (reopen env cap world.disk plan world.nonce).1 with
  | error =>
    simp only [step, outcome] at same
    cases same
  | ok =>
    simp only [step, outcome] at same
    cases same
    exact (reopened svc outcome).resolved

end

theorem run_resolved {env : Env} {inputs : List Bytes} (laws : BarrierLaws env) (free : CollisionFree env inputs)
    {cap : Nat}
    (validCap : validateCapacity cap = .ok ()) (world : World) {events : List Event}
    (ordinary : ∀ event ∈ events, Ordinary event) (crash : FaultsCrash events)
    (hashed : (run (step env cap) world events).hashed ⊆ inputs) (state : Committed) (files : Files)
    (log : List Applied)
    (tracks : Tracks env inputs cap world state files log) (resolved : Resolved world ∨ events.head? = some .crash) :
    Resolved (run (step env cap) world events) := by
  induction events generalizing world state files log with
  | nil => exact resolved.resolve_right (by simp)
  | cons event events ih =>
    have stepHashed := List.Subset.trans (run_hashed_grows env cap (step env cap world event) events) hashed
    obtain ⟨after, files', log', _, next, _⟩ := step_continues laws free validCap tracks (ordinary event (by simp)) stepHashed
    have later : FaultsCrash events → (Resolved (step env cap world event) ∨ events.head? = some .crash) →
        Resolved (run (step env cap) world (event :: events)) := fun crash resolved =>
      ih (step env cap world event) (fun other member => ordinary other (by simp [member])) crash hashed after files' log' next
        resolved
    cases event with
    | crash => exact later crash (.inl nofun)
    | reopen plan =>
      exact later crash (.inl (reopen_resolves env inputs laws free cap validCap world state files log tracks plan))
    | submit req =>
      have before : Resolved world := resolved.resolve_right (by simp)
      rcases crash.1 with rfl | dies
      · exact later crash.2 (.inl (submit_stays_resolved env inputs laws free cap validCap world state files log tracks stepHashed before))
      · exact later crash.2 (.inr dies)
    | compact =>
      have before : Resolved world := resolved.resolve_right (by simp)
      rcases crash.1 with rfl | dies
      · exact later crash.2 (.inl (compact_stays_resolved env inputs free cap world state files log tracks before))
      · exact later crash.2 (.inr dies)
    | exportBackup => cases ordinary .exportBackup (by simp)
    | restoreBackup index allowRollback plan => cases ordinary (.restoreBackup index allowRollback plan) (by simp)

/-- The requests that take effect form a growing log with no key twice, which a resolved handle knows. -/
theorem mutates_exactly_once (env : Env) (laws : BarrierLaws env) (cap nonce : Nat) (start : World)
    (created : Created env cap nonce start) (earlier later : List Event)
    (ordinary : ∀ event ∈ earlier ++ later, Ordinary event)
    (free : CollisionFree env (run (step env cap) start (earlier ++ later)).hashed) :
    ∃ log log', log <+: log' ∧ Selection (run (step env cap) start earlier).calls log ∧
      Selection (run (step env cap) start (earlier ++ later)).calls log' ∧
        (log'.map (fun applied => applied.request.key)).Nodup ∧
      (∀ svc, (run (step env cap) start earlier).live = some svc → svc.unresolved = false → svc.snapshot.generation =
        log.length) ∧
      (∀ svc, (run (step env cap) start (earlier ++ later)).live = some svc → svc.unresolved = false →
        Answers env (run (step env cap) start (earlier ++ later)) svc log') ∧
      (FaultsCrash (earlier ++ later) → Resolved (run (step env cap) start (earlier ++ later))) := by
  obtain ⟨validCap, tracks, startResolved⟩ := created_tracks (run (step env cap) start (earlier ++ later)).hashed created
  have middleHashed := run_hashed_grows env cap (run (step env cap) start earlier) later
  rw [← run_append] at middleHashed
  obtain ⟨middle, middleFiles, log, _, middleTracks⟩ := run_continues laws free validCap start earlier
    (fun event member => ordinary event (by simp [member])) middleHashed Committed.empty _ [] tracks
  obtain ⟨_, _, log', longer, finalTracks⟩ := run_continues laws free validCap
    (run (step env cap) start earlier) later (fun event member => ordinary event (by simp [member]))
    (by rw [← run_append]; exact List.Subset.refl _) middle middleFiles log middleTracks
  rw [← run_append] at finalTracks
  refine ⟨log, log', longer, middleTracks.selection, finalTracks.selection, finalTracks.history.distinct, ?_, ?_, ?_⟩
  · intro svc found resolved
    rw [(middleTracks.live svc found resolved).snapshot, middleTracks.history.applied, apply_all_generation]
  · intro svc found resolved
    exact tracks_answers free finalTracks found resolved
  · intro crash
    exact run_resolved laws free validCap start ordinary crash (List.Subset.refl _)
      Committed.empty _ [] tracks (.inl startResolved)

theorem mutates_exactly_once_retry : ∃ start log log', Created testEnv 4 0 start ∧ log <+: log' ∧
    Selection (run (step testEnv 4) start [.submit firstRequest (some (1, 0)), .reopen none]).calls log ∧
      Selection (run (step testEnv 4) start
      ([.submit firstRequest (some (1, 0)), .reopen none] ++ [.submit firstRequest none])).calls log' := by
  obtain ⟨start, _, _, created, _, _, hashed⟩ := retry_run
  obtain ⟨log, log', longer, first, second, _⟩ := mutates_exactly_once testEnv test_barrier_laws 4 0 start created
    [.submit firstRequest (some (1, 0)), .reopen none] [.submit firstRequest none] (by simp [Ordinary])
    (collision_free_subset hashed retry_inputs_free)
  exact ⟨start, log, log', created, longer, first, second⟩

end HeptaBao.Durable
