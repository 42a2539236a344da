import HeptaBao.Durable.Progress
import HeptaBao.Hash.Digests

namespace HeptaBao.Durable

open Wire Std Exec List

-- The crate's own barrier: a repeated key xored over the text, behind a keyed digest.
def testKey : Bytes := replicate 32 0x5a

def testMask (bytes : Bytes) : Bytes := bytes.mapIdx fun index byte => byte ^^^ testKey.getD (index % testKey.length) 0

def testTag (ctx ciphertext : Bytes) : Bytes :=
  (sha256Digest (digestInput (str "heptabao.test-barrier.v1") (testKey ++ (ctx ++ ciphertext)))).bytes

def testEnv : Env where
  sha256 := sha256Digest
  sealBytes := fun _ ctx plaintext => some (testTag ctx (testMask plaintext) ++ testMask plaintext)
  openBytes := fun ctx sealed =>
    if sealed.length < 32 then none
    else if sealed.take 32 ≠ testTag ctx (sealed.drop 32) then none
    else some (testMask (sealed.drop 32))

theorem test_mask_involutive (bytes : Bytes) : testMask (testMask bytes) = bytes := by
  unfold testMask
  apply ext_getElem?
  intro index
  simp only [getElem?_mapIdx]
  cases bytes[index]? with
  | none => rfl
  | some => simp

theorem test_mask_length (bytes : Bytes) : (testMask bytes).length = bytes.length := length_mapIdx

theorem test_seal_length {nonce : Nat} {ctx plaintext sealed : Bytes}
    (done : testEnv.sealBytes nonce ctx plaintext = some sealed) : sealed.length = 32 + plaintext.length := by
  cases done
  rw [length_append, test_mask_length, testTag, Digest.size]

theorem test_barrier_tight (nonce : Nat) (ctx plaintext sealed : Bytes)
    (done : testEnv.sealBytes nonce ctx plaintext = some sealed) : sealed.length ≤ 64 + plaintext.length := by
  rw [test_seal_length done]
  omega

theorem test_barrier_laws : BarrierLaws testEnv := by
  refine ⟨?_, ?_⟩
  · intro nonce ctx plaintext
    refine ⟨_, rfl, ?_⟩
    have tagLength : (testTag ctx (testMask plaintext)).length = 32 := Digest.size _
    simp only [testEnv]
    rw [take_left' tagLength, drop_left' tagLength, if_neg (by simp [tagLength]), if_neg (by simp), test_mask_involutive]
  · intro nonce nonce' ctx context' plaintext plaintext' sealed sealed' same first second
    rw [test_seal_length first, test_seal_length second, same]

theorem collision_free_heads (env : Env) (inputs : List Bytes) (heads : List UInt8)
    (computed : inputs.map (fun input => (env.sha256 input).bytes.head?) = heads.map some) (distinct : heads.Nodup)
    (nonzero : 0 ∉ heads) : CollisionFree env inputs := by
  refine ⟨?_, ?_⟩
  · intro a memberA b memberB same
    have nodup : (inputs.map (fun input => (env.sha256 input).bytes.head?)).Nodup := by
      rw [computed]
      exact distinct.map (Option.some_injective _)
    refine inj_on_of_nodup_map nodup memberA memberB ?_
    have heads := congrArg List.head? same
    rwa [head?_take, head?_take] at heads
  · intro a member zero
    have listed : some (0 : UInt8) ∈ heads.map some := by
      rw [← computed]
      exact mem_map.mpr ⟨a, member, by rw [zero]; rfl⟩
    obtain ⟨_, known, same⟩ := mem_map.mp listed
    cases same
    exact nonzero known

def sampleRequest (requestId resource : String) (value : Secret) : Request :=
  .put ⟨str "principal-a", str "root/team-a", str requestId, str resource, ⟨replicate 32 7, by decide⟩, value⟩

def firstRequest : Request := sampleRequest "request-1" "secret/application" ⟨str "first", by decide, by decide⟩

def secondRequest : Request := sampleRequest "request-2" "secret/other" ⟨str "second", by decide, by decide⟩

def thirdRequest : Request := sampleRequest "request-3" "secret/application" ⟨str "another", by decide, by decide⟩

theorem sample_requests_valid : firstRequest.validate = .ok () ∧ secondRequest.validate = .ok () ∧
    thirdRequest.validate = .ok () := by
  decide

def retryInputs : List Bytes :=
  hashedAt testEnv 1 1 firstRequest ++ [digestInput recoveryDomain (recoveryInput ((firstRequest.binding testEnv).digest testEnv) 1 3)]

set_option maxRecDepth 100000 in
theorem retry_inputs_free : CollisionFree testEnv retryInputs :=
  collision_free_heads testEnv _ [114, 147, 98, 22] (by decide +kernel) (by decide) (by decide)

theorem retry_inputs_cover : hashedAt testEnv 1 1 firstRequest ⊆ retryInputs ∧
    hashedAt testEnv 1 3 firstRequest ⊆ retryInputs := by
  refine ⟨subset_append_left _ _, ?_⟩
  simp [retryInputs, hashedAt]

theorem retry_run : ∃ start svc, ∃ mark : CommitMarker, Created testEnv 4 0 start ∧
    (run (step testEnv 4) start [.submit firstRequest (some (1, 0)), .reopen none]).live = some svc ∧
    svc.reconcile mark.recoveryReference = .aborted ∧
    (run (step testEnv 4) start ([.submit firstRequest (some (1, 0)), .reopen none] ++
      [.submit firstRequest none])).hashed ⊆ retryInputs := by
  have laws := test_barrier_laws
  have free := retry_inputs_free
  have validCap : validateCapacity 4 = .ok () := by decide
  obtain ⟨start, svc, created, stands, hashed, _, _⟩ := created_stands testEnv laws test_barrier_tight retryInputs 4 0 validCap
  have small : Small 4 Committed.empty [] := ⟨by decide, by decide, by decide⟩
  have firstHashed : hashedBy testEnv svc firstRequest ⊆ retryInputs := by
    rw [standing_hashed testEnv retryInputs 4 start _ [] svc stands]
    exact retry_inputs_cover.1
  obtain ⟨image, hashedOnce⟩ := submit_leaves_intent laws test_barrier_tight free 4 start Committed.empty [] svc
    stands small firstRequest sample_requests_valid.1 rfl firstHashed
  have legal := next_admissible free 4 Committed.empty [] svc start.disk firstRequest stands.live
    sample_requests_valid.1 rfl (by decide) firstHashed (by decide)
  obtain ⟨reopened, standsAgain, aborted, hashedSame⟩ := reopen_aborts laws free validCap _ Committed.empty []
    _ .fresh legal image
  have secondHashed : hashedBy testEnv reopened firstRequest ⊆ retryInputs := by
    rw [standing_hashed testEnv retryInputs 4 _ _ _ reopened standsAgain]
    exact retry_inputs_cover.2
  refine ⟨start, reopened, _, created, standsAgain.found, aborted, ?_⟩
  change (step testEnv 4 (step testEnv 4 (step testEnv 4 start (.submit firstRequest (some (1, 0)))) (.reopen none))
    (.submit firstRequest none)).hashed ⊆ retryInputs
  have last : (step testEnv 4 (step testEnv 4 (step testEnv 4 start (.submit firstRequest (some (1, 0)))) (.reopen none))
      (.submit firstRequest none)).hashed = (step testEnv 4 (step testEnv 4 start (.submit firstRequest (some (1, 0))))
        (.reopen none)).hashed ++ hashedBy testEnv reopened firstRequest := by
    generalize step testEnv 4 (step testEnv 4 start (.submit firstRequest (some (1, 0)))) (.reopen none) = world at standsAgain
    simp only [step, standsAgain.found]
  rw [last, hashedSame, hashedOnce, hashed]
  exact append_subset.mpr ⟨append_subset.mpr ⟨nil_subset _, firstHashed⟩, secondHashed⟩

def branchInputs : List Bytes :=
  hashedAt testEnv 1 2 firstRequest ++ (hashedAt testEnv 2 4 secondRequest ++ hashedAt testEnv 1 2 thirdRequest)

set_option maxRecDepth 100000 in
theorem branch_inputs_free : CollisionFree testEnv branchInputs :=
  collision_free_heads testEnv _ [114, 147, 198, 224, 16, 157, 201, 86, 94] (by decide +kernel) (by decide) (by decide)

end HeptaBao.Durable
