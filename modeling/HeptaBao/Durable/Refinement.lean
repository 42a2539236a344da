import HeptaBao.Durable.TestBarrier

namespace HeptaBao.Durable

open Wire Std Exec

/-- Whatever fails, the directory reopens at the sequential outcome of the acknowledged
requests and of some that were never reported. -/
theorem crash_refinement (env : Env) (laws : BarrierLaws env) (cap nonce : Nat) (start : World)
    (created : Created env cap nonce start) (events : List Event) (ordinary : ∀ event ∈ events, Ordinary event)
    (free : CollisionFree env (run (step env cap) start events).hashed) (drawn : Nat) :
    ∃ svc log, (reopen env cap (run (step env cap) start events).disk none drawn).1 = .ok svc ∧
      Selection (run (step env cap) start events).calls log ∧
        svc.snapshot.entries = log.foldl (fun entries applied => applied.request.apply entries) ∅ ∧
          svc.snapshot.generation = log.length ∧ svc.ledger = (applyAll env log).ledger := by
  obtain ⟨validCap, _⟩ := created_tracks [] created
  obtain ⟨state, files, log, tracks⟩ := created_run_tracks laws created events ordinary free
    (List.Subset.refl _)
  obtain ⟨_, _, _, succeeds, reopened⟩ := reopen_recovers laws free none drawn validCap tracks.image
  obtain ⟨svc, opened⟩ := succeeds rfl
  have live := (reopened svc opened).live
  refine ⟨svc, log, opened, tracks.selection, ?_, ?_, ?_⟩
  · rw [live.snapshot, tracks.history.applied, apply_all_entries]
  · rw [live.snapshot, tracks.history.applied, apply_all_generation]
  · rw [live.ledger, tracks.history.applied]

theorem crash_refinement_retry : ∃ start svc, ∃ log : List Applied, Created testEnv 4 0 start ∧
    (reopen testEnv 4 (run (step testEnv 4) start
      ([.submit firstRequest (some (1, 0)), .reopen none] ++ [.submit firstRequest none])).disk none 0).1 = .ok svc ∧
    svc.snapshot.entries = log.foldl (fun entries applied => applied.request.apply entries) ∅ := by
  obtain ⟨start, _, _, created, _, _, hashed⟩ := retry_run
  obtain ⟨svc, log, opened, _, entries, _⟩ := crash_refinement testEnv test_barrier_laws 4 0 start created
    ([.submit firstRequest (some (1, 0)), .reopen none] ++ [.submit firstRequest none]) (by simp [Ordinary])
    (collision_free_subset hashed retry_inputs_free) 0
  exact ⟨start, svc, log, created, opened, entries⟩

end HeptaBao.Durable
