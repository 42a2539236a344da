import HeptaBao.Ha.Cluster
import HeptaBao.Ha.StandIn

namespace HeptaBao.Ha

open Wire Durable Raft Exec List

variable {committed : Nat} {log : List Entry} {cluster : Cluster} {envelope : ReplicatedEnvelope}
  {envelopes : List ReplicatedEnvelope} {base : Digest} {opId : Str}

section

variable (lib : Library) (codec : ClusterStateCodec)

-- The base digest is that of the last application entry applied at the read.
def FollowsFrom (log : List Entry) (seen : Nat) (base : Digest) : Prop :=
  ∀ envelope : ReplicatedEnvelope,
    (writesOf productionClientId (log.take seen)).getLast?.map (·.status) = some envelope.encodedStatus → envelope.digest = base

def CallOk (log : List Entry) (committed : Nat) (call : Call) : Prop :=
  match call.stage with
  | .based seen => seen ≤ committed ∧ FollowsFrom log seen call.expectedBaseDigest
  | .ready seen envelope _ =>
    seen ≤ committed ∧ FollowsFrom log seen call.expectedBaseDigest ∧ sealedBase envelope = .ok call.expectedBaseDigest
  | _ => True

structure NodeOk (log : List Entry) (committed : Nat) (node : Node) : Prop where
  applied : node.applied ≤ committed
  machine : node.machine = MemStoreStateMachine.default.applyLog (log.take node.applied)
  calls : ∀ call, node.call = some call → CallOk log committed call

structure Sound (cluster : Cluster) : Prop where
  bounded : cluster.committed ≤ cluster.log.length
  chained : ∃ envelopes, Chained cluster.log envelopes
  nodes : ∀ id, NodeOk cluster.log cluster.committed (cluster.nodes id)

theorem take_agrees {α : Type} {log other : List α} {seen : Nat} (same : other.take committed = log.take committed)
    (inside : seen ≤ committed) : other.take seen = log.take seen := by
  have shorter : ∀ list : List α, list.take seen = (list.take committed).take seen := fun list => by
    rw [take_take, Nat.min_eq_left inside]
  rw [shorter, shorter log, same]

theorem node_ok_stable {other : List Entry} {later : Nat} {node : Node}
    (same : other.take committed = log.take committed) (grows : committed ≤ later)
    (holds : NodeOk log committed node) : NodeOk other later node := by
  refine ⟨holds.applied.trans grows, ?_, ?_⟩
  · rw [holds.machine, take_agrees same holds.applied]
  · intro call inCall
    have before := holds.calls call inCall
    unfold CallOk FollowsFrom at before ⊢
    cases stage : call.stage with
    | based | ready =>
      simp only [stage] at before ⊢
      rw [take_agrees same before.1]
      exact ⟨before.1.trans grows, before.2⟩
    | leading | awaiting | linearized | proposed => trivial

theorem sound_log (term : Nat) (leader : Option Nat) (sound : Sound cluster)
    (same : log.take cluster.committed = cluster.log.take cluster.committed) (grows : cluster.committed ≤ committed)
    (bounded : committed ≤ log.length) (chained : ∃ envelopes, Chained log envelopes) :
      Sound ⟨log, committed, term, leader, cluster.nodes⟩ :=
  ⟨bounded, chained, fun id => node_ok_stable same grows (sound.nodes id)⟩

theorem sound_node {cluster : Cluster} (id : Nat) {node : Node} (sound : Sound cluster)
    (holds : NodeOk cluster.log cluster.committed node) : Sound (cluster.setNode id node) := by
  refine ⟨sound.bounded, sound.chained, ?_⟩
  intro other
  simp only [Cluster.setNode, Function.update_apply]
  by_cases same : other = id
  · rw [if_pos same]
    exact holds
  · rw [if_neg same]
    exact sound.nodes other

theorem node_stays {log : List Entry} {committed : Nat} {node : Node} {call : Call} {stage : Stage}
    (holds : NodeOk log committed node) (ok : CallOk log committed { call with stage := stage }) :
    NodeOk log committed (node.stay call stage) := by
  refine ⟨holds.applied, holds.machine, ?_⟩
  intro other inCall
  cases inCall
  exact ok

theorem node_quits {node : Node} (holds : NodeOk log committed node) :
    NodeOk log committed node.quit := ⟨holds.applied, holds.machine, fun _ inCall => nomatch inCall⟩

theorem latest_envelope_last (log : List Entry) (envelope : ReplicatedEnvelope)
    (last : (writesOf productionClientId log).getLast?.map (·.status) = some envelope.encodedStatus) :
    (MemStoreStateMachine.default.applyLog log).latestEnvelope = .ok (some envelope) := by
  have status := client_status_apply_log MemStoreStateMachine.default productionClientId log
  rw [last] at status
  simp only [MemStoreStateMachine.latestEnvelope, status, Option.some_or, decode_encoded_status]
  rfl

theorem latest_envelope_none (log : List Entry) (none : writesOf productionClientId log = []) :
    (MemStoreStateMachine.default.applyLog log).latestEnvelope = .ok .none := by
  have status := client_status_apply_log MemStoreStateMachine.default productionClientId log
  have fresh : MemStoreStateMachine.default.clientStatus[productionClientId]? = Option.none := by
    simp [MemStoreStateMachine.default]
  rw [none, fresh] at status
  simp only [getLast?_nil, Option.map_none, Option.or_none] at status
  simp only [MemStoreStateMachine.latestEnvelope, status]

theorem read_step_ok (log : List Entry) (committed : Nat) (node : Node) (call : Call)
    (holds : NodeOk log committed node) :
    NodeOk log committed (node.readStep call) := by
  unfold Node.readStep
  cases read : node.machine.latestEnvelope with
  | error => exact node_quits holds
  | ok latest =>
    rw [holds.machine] at read
    cases latest with
    | none =>
      refine node_stays holds ⟨holds.applied, ?_⟩
      intro envelope last
      rw [latest_envelope_last _ envelope last] at read
      cases read
    | some envelope =>
      by_cases conflict : envelope.digest ≠ call.expectedBaseDigest
      · simp only [if_pos conflict]
        exact node_quits holds
      · simp only [if_neg conflict]
        refine node_stays holds ⟨holds.applied, ?_⟩
        intro other last
        rw [latest_envelope_last _ other last] at read
        cases read
        exact not_not.mp conflict

theorem next_envelope_base {nonce : Option Nonce} {call : Call}
    (built : nextEnvelope lib codec nonce call = some envelope) :
    sealedBase envelope = .ok call.expectedBaseDigest ∧ envelope.digest = lib.sha256 call.bytes := by
  unfold nextEnvelope at built
  cases accepted : codec.sealState lib nonce call.operationId call.expectedBaseDigest call.bytes with
  | error => simp [accepted] at built
  | ok proposal =>
    simp only [accepted] at built
    cases made : ReplicatedEnvelope.new proposal.operationId proposal.digest proposal.sealedBytes with
    | error => simp [made, Except.toOption] at built
    | ok =>
      simp only [made, Except.toOption, Option.some.injEq] at built
      subst built
      obtain ⟨operation, digest, sealedBytes⟩ := envelope_fields made
      obtain ⟨_, _, _, _, isSealed⟩ := seal_state_ok accepted
      refine ⟨?_, digest.trans isSealed.digest⟩
      rw [sealedBase, operation, digest, sealedBytes, proposal_new_self]
      exact base_digest_sealed accepted

theorem seal_step_ok (log : List Entry) (committed : Nat) (node : Node) (nonce : Option Nonce) (opId : Str)
    (base : Digest)
    (bytes : Bytes) (seen : Nat) (holds : NodeOk log committed node)
    (inCall : node.call = some ⟨opId, base, bytes, .based seen⟩) :
    NodeOk log committed (node.sealStep lib codec nonce ⟨opId, base, bytes, .based seen⟩ seen) := by
  have before := holds.calls _ inCall
  unfold Node.sealStep
  cases built : nextEnvelope lib codec nonce ⟨opId, base, bytes, .based seen⟩ with
  | none => exact node_quits holds
  | some envelope =>
    cases numbered : node.machine.nextProductionClientSerial with
    | error => exact node_quits holds
    | ok =>
      exact node_stays holds
        ⟨before.1, before.2, (next_envelope_base lib codec built).1⟩

theorem chained_take (count : Nat) (chained : Chained log envelopes) : ∃ kept, Chained (log.take count) kept := by
  obtain ⟨rest, split⟩ : ∃ rest, writesOf productionClientId log = writesOf productionClientId (log.take count) ++ rest :=
    ⟨writesOf productionClientId (log.drop count), by rw [← writes_of_append, take_append_drop]⟩
  have statuses := congrArg (List.take (writesOf productionClientId (log.take count)).length) chained.statuses
  rw [split, map_append, take_left' (by simp), ← map_take] at statuses
  exact ⟨_, statuses, chained.bases.take _⟩

theorem chained_other (log : List Entry) (envelopes : List ReplicatedEnvelope) (entry : Entry)
    (apart : writesOf productionClientId [entry] = []) (chained : Chained log envelopes) :
      Chained (log ++ [entry]) envelopes :=
  ⟨by rw [writes_of_append, apart, append_nil]; exact chained.statuses, chained.bases⟩

theorem chained_snoc (logId : LogId) (serial : Nat) (chained : Chained log envelopes)
    (based : sealedBase envelope = .ok base)
    (follows : FollowsFrom log log.length base) : Chained (log ++ [⟨logId, .normal (writeRequest envelope serial)⟩])
    (envelopes ++ [envelope]) := by
  refine ⟨?_, ?_⟩
  · rw [writes_of_append, map_append, chained.statuses, map_append]
    simp [writesOf, writeRequest]
  · refine List.IsChain.append chained.bases (List.IsChain.singleton envelope) ?_
    intro last isLast other isOther
    have only : other = envelope := by simpa using isOther.symm
    have digest : last.digest = base := by
      apply follows last
      rw [take_length, ← getLast?_map, chained.statuses, getLast?_map, Option.mem_def.mp isLast]
      rfl
    rw [only, based, digest]

theorem sound_append (writer : Nat) (payload : EntryPayload) (sound : Sound cluster)
    (chained : ∃ envelopes, Chained (cluster.appendEntry writer payload).log envelopes) :
      Sound (cluster.appendEntry writer payload) := by
  refine sound_log cluster.term cluster.leader sound ?_ (Nat.le_refl _) ?_ chained
  · exact take_append_of_le_length sound.bounded
  · have bounded := sound.bounded
    simp only [length_append, length_singleton]
    omega

theorem sound_write {id seen serial : Nat} {bytes : Bytes} (sound : Sound cluster)
    (inCall : (cluster.nodes id).call = some ⟨opId, base, bytes, .ready seen envelope serial⟩)
    (undisturbed : writesOf productionClientId (cluster.log.drop seen) = []) :
    Sound (cluster.appendEntry id (.normal (writeRequest envelope serial))) := by
  obtain ⟨envelopes, chained⟩ := sound.chained
  obtain ⟨_, follows, based⟩ := (sound.nodes id).calls _ inCall
  refine sound_append id _ sound ⟨_, chained_snoc _ serial chained based ?_⟩
  intro last isLast
  apply follows last
  rwa [take_length, ← take_append_drop seen cluster.log, writes_of_append, undisturbed, append_nil] at isLast

theorem sound_apply {id : Nat} {entry : Entry} (sound : Sound cluster)
    (behind : (cluster.nodes id).applied < cluster.committed)
    (found : cluster.log[(cluster.nodes id).applied]? = some entry) :
    Sound (cluster.setNode id { cluster.nodes id with
      machine := ((cluster.nodes id).machine.applyEntry entry).1, applied := (cluster.nodes id).applied + 1 }) := by
  have before := sound.nodes id
  refine sound_node id sound ⟨behind, ?_, before.calls⟩
  rw [before.machine, take_add_one, found, Option.toList_some, apply_log_snoc]

theorem sound_step (cluster : Cluster) (event : Event) (undisturbed : Undisturbed cluster event)
    (sound : Sound cluster) :
    Sound (step lib codec cluster event) := by
  obtain ⟨envelopes, chained⟩ := sound.chained
  have bounded := sound.bounded
  cases event with
  | elect =>
    refine sound_log _ _ sound ?_ (Nat.le_refl _) ?_ (chained_take _ chained)
    · rw [take_take, Nat.min_eq_left (Nat.le_max_left _ _)]
    · rw [length_take]
      omega
  | commit => exact sound_log _ _ sound rfl (Nat.le_max_left _ _) (by omega) ⟨_, chained⟩
  | appendBlank | appendMembership => exact sound_append _ _ sound ⟨_, chained_other _ _ _ rfl chained⟩
  | applyNext id =>
    simp only [step]
    by_cases behind : (cluster.nodes id).applied < cluster.committed
    · rw [if_pos behind]
      cases found : cluster.log[(cluster.nodes id).applied]? with
      | none => exact sound
      | some entry => exact sound_apply sound behind found
    · rw [if_neg behind]
      exact sound
  | installSnapshot id source =>
    simp only [step]
    by_cases behind : (cluster.nodes id).applied < (cluster.nodes source).applied
    · rw [if_pos behind]
      exact sound_node id sound
        ⟨(sound.nodes source).applied, (sound.nodes source).machine, (sound.nodes id).calls⟩
    · rw [if_neg behind]
      exact sound
  | checkLeader id believed opId expectedBaseDigest bytes =>
    simp only [step]
    cases (cluster.nodes id).call with
    | some => exact sound
    | none =>
      by_cases leads : believed = some id
      · simp only [if_pos leads]
        exact @sound_node cluster id _ sound
          (@node_stays _ _ (cluster.nodes id) ⟨opId, expectedBaseDigest, bytes, .leading⟩ .leading (sound.nodes id) trivial)
      · simp only [if_neg leads]
        exact sound
  | startBarrier id =>
    simp only [step]
    split
    · exact sound_node id sound (node_stays (sound.nodes id) trivial)
    · exact sound
  | finishBarrier id =>
    simp only [step]
    split
    · split
      · exact sound_node id sound (node_stays (sound.nodes id) trivial)
      · exact sound
    · exact sound
  | readLatest id =>
    simp only [step]
    split
    · exact sound_node id sound (read_step_ok _ _ _ _ (sound.nodes id))
    · exact sound
  | sealNext id nonce =>
    simp only [step]
    split
    · rename_i inCall
      exact sound_node id sound (seal_step_ok lib codec _ _ _ nonce _ _ _ _ (sound.nodes id) inCall)
    · exact sound
  | clientWrite id =>
    simp only [step]
    split
    · rename_i opId base bytes seen envelope serial inCall
      by_cases leads : cluster.leader = some id
      · rw [if_pos leads]
        simp only [Undisturbed, inCall] at undisturbed
        have written := sound_write sound inCall (undisturbed leads)
        exact sound_node id written (node_stays (written.nodes id) trivial)
      · rw [if_neg leads]
        exact sound_node id sound (node_quits (sound.nodes id))
    · exact sound
  | finish id =>
    simp only [step]
    split
    · split
      · exact sound_node id sound (node_quits (sound.nodes id))
      · exact sound
    · exact sound
  | abandon id => exact sound_node id sound (node_quits (sound.nodes id))

theorem initial_sound : Sound Cluster.initial :=
  ⟨Nat.le_refl _, ⟨[], rfl, List.IsChain.nil⟩, fun _ => ⟨Nat.le_refl _, rfl, fun _ inCall => nomatch inCall⟩⟩

def prepareEvents (id : Nat) (nonce : Nonce) (opId : Str) (base : Digest) (bytes : Bytes) : List Event :=
  [.checkLeader id (some id) opId base bytes, .startBarrier id, .finishBarrier id, .readLatest id, .sealNext id (some nonce)]

variable {lib codec} in
theorem prepare_run (cluster : Cluster) (id serial : Nat) {nonce : Nonce} {bytes : Bytes}
    (machine : MemStoreStateMachine)
    (idle : cluster.nodes id = ⟨machine, cluster.committed, none⟩)
    (latest : machine.latestEnvelope = .ok none ∨ ∃ last, machine.latestEnvelope = .ok (some last) ∧ last.digest = base)
    (built : nextEnvelope lib codec (some nonce) ⟨opId, base, bytes, .based cluster.committed⟩ = some envelope)
    (numbered : machine.nextProductionClientSerial = .ok serial) :
      run (step lib codec) cluster (prepareEvents id nonce opId base bytes) =
      cluster.setNode id ⟨machine, cluster.committed,
        some ⟨opId, base, bytes, .ready cluster.committed envelope serial⟩⟩ := by
  have read : (⟨machine, cluster.committed, some ⟨opId, base, bytes, .linearized⟩⟩ : Node).readStep
      ⟨opId, base, bytes, .linearized⟩ =
      ⟨machine, cluster.committed, some ⟨opId, base, bytes, .based cluster.committed⟩⟩ := by
    rcases latest with none | ⟨last, found, same⟩
    · simp [Node.readStep, none, Node.stay]
    · simp [Node.readStep, found, same, Node.stay]
  simp [run, prepareEvents, step, idle, Cluster.setNode, Node.stay, read, Node.sealStep, built, numbered]

structure Submission where
  operationId : Str
  base : Digest
  bytes : Bytes
  nonce : Nonce

variable (first : Submission)

def firstEvents : List Event :=
  .elect (some 1) 0 :: (prepareEvents 1 first.nonce first.operationId first.base first.bytes ++
    [.clientWrite 1, .commit 1, .applyNext 1, .finish 1, .applyNext 2])

def firstEntry (envelope : ReplicatedEnvelope) : Entry := ⟨⟨1, 1, 0⟩, .normal (writeRequest envelope 1)⟩

def afterFirst (envelope : ReplicatedEnvelope) : Cluster :=
  ⟨[firstEntry envelope], 1, 1, some 1,
    Function.update (Function.update Cluster.initial.nodes 1 ⟨(MemStoreStateMachine.default.applyEntry (firstEntry envelope)).1, 1, none⟩)
      2 ⟨(MemStoreStateMachine.default.applyEntry (firstEntry envelope)).1, 1, none⟩⟩

theorem first_run (built : nextEnvelope lib codec (some first.nonce) ⟨first.operationId, first.base, first.bytes,
    .based 0⟩ = some envelope) :
    run (step lib codec) Cluster.initial (firstEvents first) = afterFirst envelope := by
  have elected : step lib codec Cluster.initial (.elect (some 1) 0) = ⟨[], 0, 1, some 1, Cluster.initial.nodes⟩ := rfl
  have prepared := prepare_run ⟨[], 0, 1, some 1, Cluster.initial.nodes⟩ 1 1
    .default rfl (.inl (latest_envelope_none [] rfl)) built rfl
  have split : run (step lib codec) Cluster.initial (firstEvents first) =
      run (step lib codec) (run (step lib codec) (step lib codec Cluster.initial (.elect (some 1) 0))
        (prepareEvents 1 first.nonce first.operationId first.base first.bytes))
        [.clientWrite 1, .commit 1, .applyNext 1, .finish 1, .applyNext 2] := by
    rw [firstEvents, ← run_append]
    rfl
  rw [split, elected, prepared]
  simp [run, step, Cluster.setNode, Cluster.appendEntry, Node.stay, Node.quit, afterFirst, firstEntry, Cluster.initial]

theorem first_machine (envelope : ReplicatedEnvelope) :
    (MemStoreStateMachine.default.applyEntry (firstEntry envelope)).1.latestEnvelope = .ok (some envelope) ∧
      (MemStoreStateMachine.default.applyEntry (firstEntry envelope)).1.nextProductionClientSerial = .ok 1 := by
  refine ⟨latest_envelope_last [firstEntry envelope] envelope ?_, rfl⟩
  simp [writesOf, firstEntry, writeRequest]

variable (left right : Submission)

-- Node 1 reads and seals, node 2 leads and commits, node 1 leads again and writes.
def staleEvents : List Event :=
  prepareEvents 1 left.nonce left.operationId left.base left.bytes ++ (.elect (some 2) 1 ::
    (prepareEvents 2 right.nonce right.operationId right.base right.bytes ++
      [.clientWrite 2, .commit 2, .elect (some 1) 2, .clientWrite 1, .commit 3]))

theorem stale_run (first leftEnvelope rightEnvelope : ReplicatedEnvelope)
    (leftBase : left.base = first.digest) (rightBase : right.base = first.digest)
    (leftBuilt : nextEnvelope lib codec (some left.nonce) ⟨left.operationId, left.base, left.bytes, .based 1⟩ =
      some leftEnvelope)
    (rightBuilt : nextEnvelope lib codec (some right.nonce) ⟨right.operationId, right.base, right.bytes, .based 1⟩ =
      some rightEnvelope) :
    let reached := run (step lib codec) (afterFirst first) (staleEvents left right)
    (writesOf productionClientId (reached.log.take reached.committed)).map (·.status) =
      [first.encodedStatus, rightEnvelope.encodedStatus, leftEnvelope.encodedStatus] := by
  obtain ⟨latest, numbered⟩ := first_machine first
  have leftReady := prepare_run (afterFirst first) 1 1 _
    rfl (.inr ⟨first, latest, leftBase.symm⟩) leftBuilt numbered
  have rightReady := prepare_run
    (step lib codec ((afterFirst first).setNode 1 ⟨(MemStoreStateMachine.default.applyEntry (firstEntry first)).1,
      (afterFirst first).committed, some ⟨left.operationId, left.base, left.bytes,
        .ready (afterFirst first).committed leftEnvelope 1⟩⟩) (.elect (some 2) 1))
    2 1 _
    rfl (.inr ⟨first, latest, rightBase.symm⟩) rightBuilt numbered
  rw [staleEvents, run_append, leftReady, run_cons, run_append, rightReady]
  simp [run, step, Cluster.setNode, Cluster.appendEntry, Node.stay, afterFirst, writesOf, firstEntry, writeRequest]

theorem next_envelope_builds (call : Call) (nonce : Nonce)
    (tagged : ∀ aad, ∃ ciphertext, lib.sealInPlaceAppendTag codec.key nonce.bytes aad call.bytes = some ciphertext ∧
      ciphertext.length = call.bytes.length + tagBytes) (operation : operationIdAccepted call.operationId = true)
        (filled : call.bytes ≠ [])
    (bounded : call.bytes.length ≤ maxStateBytes) (digest : lib.sha256 call.bytes ≠ zeroDigest) :
    ∃ envelope, nextEnvelope lib codec (some nonce) call = some envelope := by
  obtain ⟨proposal, accepted, _, _⟩ := seal_state_accepts lib codec nonce call.operationId call.expectedBaseDigest call.bytes
    tagged operation filled bounded digest
  obtain ⟨envelope, enveloped⟩ := proposal_enveloped proposal
  exact ⟨envelope, by simp only [nextEnvelope, accepted, enveloped, Except.toOption]⟩

/-- If at every write the log holds no application entry beyond those the node had
applied at its read, the committed ones form a chain. -/
theorem no_lost_update (events : List Event) (undisturbed : Along (step lib codec) Undisturbed Cluster.initial events) :
    let reached := run (step lib codec) Cluster.initial events
    ∃ envelopes, Chained (reached.log.take reached.committed) envelopes := by
  have sound := @run_invariant _ _ (step lib codec) Undisturbed Sound (sound_step lib codec) Cluster.initial events
    initial_sound undisturbed
  obtain ⟨envelopes, chained⟩ := sound.chained
  exact chained_take _ chained

variable (second : Submission)

def orderlyEvents : List Event :=
  prepareEvents 1 second.nonce second.operationId second.base second.bytes ++ [.clientWrite 1, .commit 2]

theorem orderly_along (firstEnvelope secondEnvelope : ReplicatedEnvelope)
    (secondBase : second.base = firstEnvelope.digest)
    (firstBuilt : nextEnvelope lib codec (some first.nonce) ⟨first.operationId, first.base, first.bytes, .based 0⟩ =
      some firstEnvelope)
    (secondBuilt : nextEnvelope lib codec (some second.nonce) ⟨second.operationId, second.base, second.bytes,
      .based 1⟩ = some secondEnvelope) :
    Along (step lib codec) Undisturbed Cluster.initial (firstEvents first ++ orderlyEvents second) := by
  obtain ⟨latest, numbered⟩ := first_machine firstEnvelope
  have firstReady := prepare_run ⟨[], 0, 1, some 1, Cluster.initial.nodes⟩ 1 1 .default rfl (.inl (latest_envelope_none [] rfl)) firstBuilt rfl
  have secondReady := prepare_run (afterFirst firstEnvelope) 1 1
    _ rfl (.inr ⟨firstEnvelope, latest, secondBase.symm⟩) secondBuilt numbered
  rw [along_append, first_run lib codec first firstBuilt]
  refine ⟨⟨trivial, ?_⟩, ?_⟩
  · rw [along_append]
    refine ⟨⟨trivial, trivial, trivial, trivial, trivial, trivial⟩, ?_, trivial, trivial, trivial, trivial, trivial⟩
    rw [show step lib codec Cluster.initial (.elect (some 1) 0) = ⟨[], 0, 1, some 1, Cluster.initial.nodes⟩ from rfl, firstReady]
    simp [Undisturbed, Cluster.setNode, writesOf]
  · rw [orderlyEvents, along_append, secondReady]
    refine ⟨⟨trivial, trivial, trivial, trivial, trivial, trivial⟩, ?_, trivial, trivial⟩
    simp [Undisturbed, Cluster.setNode, writesOf, afterFirst]

end

theorem stand_in_tagged (nonce : Nonce) (text aad : Bytes) :
    ∃ ciphertext, standIn.sealInPlaceAppendTag standInCodec.key nonce.bytes aad text = some ciphertext ∧
      ciphertext.length = text.length + tagBytes :=
  ⟨_, rfl, by rw [length_append, stand_in_tag_length]⟩

def submission (name : String) (base : Digest) (text : String) : Submission := ⟨str name, base, str text, standInNonce⟩

def firstState : Submission := submission "op-1" zeroDigest "a"
def leftState : Submission := submission "op-2" (standIn.sha256 (str "a")) "b"
def rightState : Submission := submission "op-3" (standIn.sha256 (str "a")) "c"

theorem states_build (name : String) (base : Digest) (text : String) (seen : Nat)
    (operation : operationIdAccepted (str name) = true) (filled : str text ≠ [])
    (bounded : (str text).length ≤ maxStateBytes)
    (digest : standIn.sha256 (str text) ≠ zeroDigest) :
    ∃ envelope, nextEnvelope standIn standInCodec (some standInNonce) ⟨str name, base, str text, .based seen⟩ =
      some envelope ∧
      sealedBase envelope = .ok base ∧ envelope.digest = standIn.sha256 (str text) := by
  obtain ⟨envelope, built⟩ := next_envelope_builds standIn standInCodec ⟨str name, base, str text, .based seen⟩ standInNonce
    (stand_in_tagged standInNonce (str text)) operation filled bounded digest
  exact ⟨envelope, built, next_envelope_base standIn standInCodec built⟩

theorem no_lost_update_orderly : ∃ events, Along (step standIn standInCodec) Undisturbed Cluster.initial events ∧
      (∃ envelopes, Chained ((run (step standIn standInCodec) Cluster.initial events).log.take
        (run (step standIn standInCodec) Cluster.initial events).committed) envelopes) := by
  obtain ⟨first, firstBuilt, _, firstDigest⟩ := states_build "op-1" zeroDigest "a" 0 (by decide) (by decide) (by decide) (by decide +kernel)
  obtain ⟨second, secondBuilt, _, _⟩ := states_build "op-2" (standIn.sha256 (str "a")) "b" 1 (by decide) (by decide) (by decide) (by decide +kernel)
  have along := orderly_along standIn standInCodec firstState leftState first second firstDigest.symm firstBuilt secondBuilt
  exact ⟨_, along, no_lost_update standIn standInCodec _ along⟩

-- What node 2 committed in between is overwritten.
theorem stale_leader_overwrites : ∃ events, ¬ ∃ envelopes,
    Chained ((run (step standIn standInCodec) Cluster.initial events).log.take
      (run (step standIn standInCodec) Cluster.initial events).committed) envelopes := by
  obtain ⟨first, firstBuilt, _, firstDigest⟩ := states_build "op-1" zeroDigest "a" 0 (by decide) (by decide) (by decide) (by decide +kernel)
  obtain ⟨left, leftBuilt, leftBase, _⟩ :=
    states_build "op-2" (standIn.sha256 (str "a")) "b" 1 (by decide) (by decide) (by decide) (by decide +kernel)
  obtain ⟨right, rightBuilt, _, rightDigest⟩ :=
    states_build "op-3" (standIn.sha256 (str "a")) "c" 1 (by decide) (by decide) (by decide) (by decide +kernel)
  have distinct : standIn.sha256 (str "a") ≠ standIn.sha256 (str "c") := by decide +kernel
  refine ⟨firstEvents firstState ++ staleEvents leftState rightState, ?_⟩
  rw [run_append, first_run standIn standInCodec firstState firstBuilt]
  have statuses := stale_run standIn standInCodec leftState rightState first left right firstDigest.symm firstDigest.symm
    leftBuilt rightBuilt
  rintro ⟨envelopes, chained⟩
  have exactly : envelopes = [first, right, left] := by
    apply map_injective_iff.mpr encoded_status_injective
    rw [← chained.statuses, statuses]
    rfl
  have bases := chained.bases
  rw [exactly] at bases
  have based := (isChain_cons_cons.mp (isChain_cons_cons.mp bases).2).1
  rw [leftBase, rightDigest] at based
  exact distinct (Except.ok.inj based)

end HeptaBao.Ha
