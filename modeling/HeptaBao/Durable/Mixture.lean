import HeptaBao.Durable.Lineage
import HeptaBao.Durable.Restore

namespace HeptaBao.Durable

open Wire Std Exec Action ExtTreeMap

theorem replay_pending {env : Env} {ledger : Ledger} {offset : Nat} {start final : Replay} {events : List JournalEvent}
    (initial : start.pending = none) (noIntent : ∀ mark, events.getLast? ≠ some (.intent mark))
    (replayed : replayFrom env ledger offset start events = .ok final) : final.pending = none := by
  cases events using List.reverseRecOn with
  | nil =>
    cases replayed
    exact initial
  | append_singleton events last _ =>
    rw [replay_append] at replayed
    obtain ⟨middle, _, replayed⟩ := bind_ok replayed
    obtain ⟨next, replayed, done⟩ := bind_ok replayed
    cases done
    cases last with
    | intent mark => exact absurd (by simp) (noIntent mark)
    | commit | abort =>
      simp only [replayEvent] at replayed
      split at replayed
      · cases replayed
      · cases replayed
        rfl
    | checkpoint point =>
      simp only [replayEvent, replayCheckpoint] at replayed
      split at replayed
      · cases replayed
      · rename_i accepted
        simp only [not_or] at accepted
        obtain ⟨_, _, replayed⟩ := bind_ok replayed
        obtain ⟨_, _, replayed⟩ := bind_ok replayed
        obtain ⟨_, _, replayed⟩ := bind_ok replayed
        cases replayed
        simpa using accepted.2.2.1

-- What the frontier checks establish where no intent is open.
structure Agreement (svc : Service) (ledgerGeneration : Nat) (replay : Replay) : Prop where
  size : replay.committed.size = replay.committedGeneration
  generation : svc.snapshot.generation = replay.committedGeneration
  lastCommit : svc.snapshot.lastCommit = replay.lastCommit
  agrees : ∀ (key : RequestKey) (mark : CommitMarker), replay.committed[key]? = some mark →
    ledgerAgrees svc.ledger ledgerGeneration (key, mark) = true
  covers : ∀ key, key ∈ svc.ledger → key ∈ replay.committed

theorem frontier_agreement {svc : Service} {ledgerGeneration : Nat} {replay : Replay} {published : Bool}
    (pending : replay.pending = none) (accepted : checkFrontier svc ledgerGeneration replay = .ok published) :
    Agreement svc ledgerGeneration replay := by
  unfold checkFrontier at accepted
  simp only [pending, publishedPending, Option.any_none] at accepted
  split at accepted
  · cases accepted
  · rename_i size
    split at accepted
    · cases accepted
    · rename_i frontier
      split at accepted
      · cases accepted
      · split at accepted
        · cases accepted
        · split at accepted
          · cases accepted
          · rename_i agrees
            split at accepted
            · cases accepted
            · rename_i covers
              simp only [true_and, not_or, ne_eq, not_not] at size frontier
              rw [Bool.not_eq_false, List.all_eq_true] at agrees covers
              refine ⟨size, frontier.1, frontier.2, ?_, ?_⟩
              · intro key mark found
                exact agrees (key, mark) (mem_toList_iff_getElem?_eq_some.mpr found)
              · intro key present
                obtain ⟨record, found⟩ := Option.isSome_iff_exists.mp (mem_iff_isSome_getElem?.mp present)
                have contained := covers (key, record) (mem_toList_iff_getElem?_eq_some.mpr found)
                exact ExtTreeMap.contains_iff_mem.mp contained

theorem agreement_ledger (svc : Service) (ledgerGeneration : Nat) (replay : Replay)
    (agreement : Agreement svc ledgerGeneration replay) (complete : svc.ledger.size = svc.snapshot.generation) :
    replay.committed.map (fun _ mark => recordOf mark) = svc.ledger := by
  have sizes : replay.committed.size ≤ svc.ledger.size := by
    rw [agreement.size, complete, agreement.generation]
  have covered := keys_covered sizes agreement.covers
  apply ExtTreeMap.ext_getElem?
  intro key
  rw [ExtTreeMap.getElem?_map]
  cases found : replay.committed[key]? with
  | none =>
    have absent : key ∉ replay.committed := by simp [mem_iff_isSome_getElem?, found]
    cases other : svc.ledger[key]? with
    | none => rfl
    | some => exact absurd (agreement.covers key (by simp [mem_iff_isSome_getElem?, other])) absent
  | some mark =>
    have present := covered key (by simp [mem_iff_isSome_getElem?, found])
    have agrees := agreement.agrees key mark found
    unfold ledgerAgrees at agrees
    split at agrees
    · simpa using (of_decide_eq_true agrees).symm
    · rw [ExtTreeMap.contains_iff_mem.mpr present] at agrees
      cases agrees

theorem repair_tail_service (incompleteTail : Bool) (m : Machine) :
    Ends (repairTail incompleteTail) m (fun _ reached => reached.service = m.service) := by
  unfold repairTail
  apply ends_read
  cases incompleteTail with
  | false => exact rfl
  | true =>
    exact ends_weaken (journal_step_ends m _ _) (fun _ _ ended => ended.1)

theorem persist_ledger_service (env : Env) (m : Machine) :
    Ends (persistLedger env) m (fun _ reached => reached.service = m.service) := by
  unfold persistLedger
  apply ends_read
  refine ends_lift_cases (fun _ _ => rfl) (fun encoded _ => ?_)
  apply ends_modify
  by_cases fits : encoded.length ≤ maxFileBytes
  · exact ends_weaken (atomic_write_ends _ .ledger fits) (fun _ _ ended => ended.1)
  · unfold atomicWrite
    rw [if_pos (by omega)]
    exact rfl

structure Recovered (env : Env) (m : Machine) (events : List JournalEvent) (ledgerGeneration : Nat) (svc : Service) (replay : Replay)
    (published : Bool) : Prop where
  replayed : replayFrom env m.service.ledger 0 (.start m.service.reconciliation) events = .ok replay
  accepted : checkFrontier m.service ledgerGeneration replay = .ok published
  snapshot : svc.snapshot = m.service.snapshot
  ledger : replay.pending = none → svc.ledger = replay.committed.map fun _ mark => recordOf mark

theorem append_event_snapshot (env : Env) (event : JournalEvent) (m : Machine) :
    Ends (appendEvent env event) m (fun _ reached => reached.service.snapshot = m.service.snapshot) := by
  unfold appendEvent
  apply ends_read
  refine ends_lift_cases (fun _ _ => rfl) (fun seq _ => ?_)
  refine ends_lift_cases (fun _ _ => rfl) (fun frame _ => ?_)
  apply ends_modify
  unfold appendFrame
  apply ends_read
  refine ends_lift_cases (fun _ _ => rfl) (fun next _ => ?_)
  refine ends_lift_cases (fun _ _ => rfl) (fun size _ => ?_)
  split
  · exact rfl
  · refine ends_bind _ (journal_step_ends _ _ _) (fun _ _ ended => by rw [ended.1]) (fun _ reached ended => ?_)
    change reached.service.snapshot = _
    rw [ended.1]

theorem settle_pending_snapshot (env : Env) (replay : Replay) (published : Bool) (m : Machine) :
    Ends (settlePending env replay published) m (fun res reached =>
      reached.service.snapshot = m.service.snapshot ∧ (replay.pending = none → res = .ok replay)) := by
  cases pending : replay.pending with
  | none =>
    unfold settlePending
    rw [pending]
    exact ⟨rfl, fun _ => rfl⟩
  | some mark =>
    rw [settle_pending_closing env published pending]
    refine ends_bind _ (append_event_snapshot env _ m) (fun _ _ kept => ?_) (fun _ _ kept => ?_)
    · exact ⟨kept, nofun⟩
    · exact ⟨kept, nofun⟩

theorem recover_inversion (env : Env) (events : List JournalEvent) (ledgerGeneration : Nat) (incompleteTail : Bool)
    (m : Machine) :
    Ends (recover env events ledgerGeneration incompleteTail) m (fun res reached => res = .ok () →
      ∃ replay published, Recovered env m events ledgerGeneration reached.service replay published) := by
  unfold recover
  apply ends_read
  refine ends_lift_cases nofun (fun _ _ => ?_)
  refine ends_lift_cases nofun (fun replay replayed => ?_)
  refine ends_lift_cases nofun (fun published accepted => ?_)
  refine ends_bind _ (repair_tail_service incompleteTail m) nofun (fun _ repaired same => ?_)
  refine ends_bind _ (settle_pending_snapshot env replay published repaired) nofun (fun settled reached ended => ?_)
  apply ends_modify
  refine ends_bind _ (persist_ledger_service env _) nofun (fun _ last kept => ?_)
  intro _
  refine ⟨replay, published, replayed, accepted, ?_, ?_⟩
  · change last.service.snapshot = _
    rw [kept]
    exact ended.1.trans (congrArg Service.snapshot same)
  · intro pending
    change last.service.ledger = _
    cases ended.2 pending
    rw [kept]

theorem reopen_inversion {env : Env} {cap : Nat} {disk : Disk} {plan : Plan} {nonce : Nat} {loaded : Loaded}
    {svc : Service}
    (loads : load env cap disk = .ok loaded) (opened : (reopen env cap disk plan nonce).1 = .ok svc) :
    ∃ replay published, Recovered env ⟨disk, plan, nonce, loaded.service⟩ loaded.events loaded.ledgerGeneration svc
      replay published := by
  have ended := recover_inversion env loaded.events loaded.ledgerGeneration loaded.incompleteTail ⟨disk, plan, nonce, loaded.service⟩
  simp only [reopen, loads] at opened
  unfold Ends at ended
  generalize recover env loaded.events loaded.ledgerGeneration loaded.incompleteTail ⟨disk, plan, nonce, loaded.service⟩ = outcome
    at ended opened
  obtain ⟨res, _⟩ := outcome
  cases res with
  | error => cases opened
  | ok =>
    cases opened
    exact ended rfl

end HeptaBao.Durable
