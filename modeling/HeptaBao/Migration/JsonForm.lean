import HeptaBao.Hash.Digests
import HeptaBao.Migration.Journal

namespace HeptaBao.Migration

open Wire Wire.Json Tail Durable Std List

-- The compact texts serde_json writes for the stored types.

def optionTextJson : Format (Option Str) := text.option (begins_with (by decide) fun _ => ⟨_, rfl⟩)

def generationJson : Format UInt64 := number.map UInt64.ofNat UInt64.toNat (fun _ => UInt64.ofNat_toNat)

def optionGenerationJson : Format (Option UInt64) := generationJson.option fun value => number_apart value.toNat

def attemptJson : Format UInt32 := number.map UInt32.ofNat UInt32.toNat (fun _ => UInt32.ofNat_toNat)

def phaseNames : List (DurableMigrationPhase × Str) := [
  (.planned, str "PLANNED"), (.sourceFenced, str "SOURCE_FENCED"), (.copying, str "COPYING"), (.cutoverReady, str "CUTOVER_READY"),
  (.targetActive, str "TARGET_ACTIVE"), (.targetFenced, str "TARGET_FENCED"), (.rolledBack, str "ROLLED_BACK"),
  (.failedClosed, str "FAILED_CLOSED")]

def phaseJson : Format DurableMigrationPhase :=
  text.among (fun name => (phaseNames.find? fun entry => entry.2 = name).map Prod.fst) (fun phase => (phaseNames.lookup phase).getD [])
    (fun phase => by cases phase <;> decide +kernel)

def classNames : List (MigrationObjectClass × Str) := [
  (.policy, str "policy"), (.mount, str "mount"), (.authMethod, str "auth-method"), (.identity, str "identity"), (.token, str "token"),
  (.lease, str "lease"), (.kvHistory, str "kv-history"), (.transit, str "transit"), (.pki, str "pki"), (.ssh, str "ssh"),
  (.database, str "database"), (.audit, str "audit"), (.pluginCatalog, str "plugin-catalog"), (.systemMetadata, str "system-metadata")]

def classJson : Format MigrationObjectClass :=
  text.among (fun name => (classNames.find? fun entry => entry.2 = name).map Prod.fst) (fun value => (classNames.lookup value).getD [])
    (fun value => by cases value <;> decide +kernel)

def textsJson : Format (List Str) := brackets text (begins_with (by decide) fun _ => ⟨_, rfl⟩)

def objectJson : Format MigrationObject :=
  (first (str "object_id") text (later (str "class") classJson
    (later (str "source_path") text (later (str "source_sha256") text
      (later (str "expected_target_sha256") text (later (str "dependencies") textsJson
        closing)))))).toFormat.map
    (fun (oid, kind, path, source, target, dependencies, _) => ⟨oid, kind, path, source, target, dependencies⟩)
    (fun object => (object.objectId, object.objectClass, object.sourcePath, object.sourceSha256, object.expectedTargetSha256,
      object.dependencies, ())) (fun _ => rfl)

def objectsJson : Format (List MigrationObject) := brackets objectJson (begins_with (by decide) fun _ => ⟨_, rfl⟩)

def operationJson : Format (Str × UInt32) :=
  (later (str "operation_id") text (later (str "attempt") attemptJson
    closing)).toFormat.map (fun (opId, attempt, _) => (opId, attempt))
    (fun (opId, attempt) => (opId, attempt, ())) (fun _ => rfl)

def pendingJson : Format (Option Str × UInt32) :=
  (later (str "last_operation_id") optionTextJson (later (str "attempts") attemptJson
    closing)).toFormat.map (fun (last, attempts, _) => (last, attempts))
    (fun (last, attempts) => (last, attempts, ())) (fun _ => rfl)

def verifiedJson : Format (Str × UInt32 × Str) :=
  (later (str "operation_id") text (later (str "attempt") attemptJson
    (later (str "target_sha256") text closing))).toFormat.map
    (fun (opId, attempt, target, _) => (opId, attempt, target))
    (fun (opId, attempt, target) => (opId, attempt, target, ())) (fun _ => rfl)

def failedJson : Format (Option Str × Str) :=
  (later (str "operation_id") optionTextJson (later (str "reason_code") text
    closing)).toFormat.map (fun (opId, reason, _) => (opId, reason))
    (fun (opId, reason) => (opId, reason, ())) (fun _ => rfl)

def pendingTag : Str := str "\x7b\"state\":\"PENDING\""
def intentTag : Str := str "\x7b\"state\":\"INTENT_PERSISTED\""
def unknownTag : Str := str "\x7b\"state\":\"OUTCOME_UNKNOWN_AFTER_ENTRY\""
def verifiedTag : Str := str "\x7b\"state\":\"VERIFIED\""
def failedTag : Str := str "\x7b\"state\":\"FAILED_CLOSED\""

-- The state is told by its tag, the first member.
def settledJson : Format ((Str × UInt32 × Str) ⊕ (Option Str × Str)) :=
  Format.either verifiedTag failedTag (fun rest => expect_conflict _ _ rest (by decide +kernel)) verifiedJson failedJson

theorem settled_conflict (lead : Bytes) (verified : conflict lead verifiedTag = true)
    (failed : conflict lead failedTag = true)
    (value : (Str × UInt32 × Str) ⊕ (Option Str × Str)) (rest : Bytes) :
      expect lead (settledJson.write value ++ rest) = .error () := by
  cases value with
  | inl =>
    change expect lead ((verifiedTag ++ _) ++ rest) = _
    rw [append_assoc]
    exact expect_conflict _ _ _ verified
  | inr =>
    change expect lead ((failedTag ++ _) ++ rest) = _
    rw [append_assoc]
    exact expect_conflict _ _ _ failed

def uncertainJson : Format ((Str × UInt32) ⊕ (Str × UInt32 × Str) ⊕ (Option Str × Str)) :=
  Format.orElse unknownTag operationJson settledJson (settled_conflict unknownTag (by decide +kernel) (by decide +kernel))

theorem uncertain_conflict (lead : Bytes) (unknown : conflict lead unknownTag = true)
    (verified : conflict lead verifiedTag = true)
    (failed : conflict lead failedTag = true) (value : (Str × UInt32) ⊕ (Str × UInt32 × Str) ⊕ (Option Str × Str))
    (rest : Bytes) :
    expect lead (uncertainJson.write value ++ rest) = .error () := by
  cases value with
  | inl =>
    change expect lead ((unknownTag ++ _) ++ rest) = _
    rw [append_assoc]
    exact expect_conflict _ _ _ unknown
  | inr value => exact settled_conflict lead verified failed value rest

def startedJson : Format ((Str × UInt32) ⊕ (Str × UInt32) ⊕ (Str × UInt32 × Str) ⊕ (Option Str × Str)) :=
  Format.orElse intentTag operationJson uncertainJson
    (uncertain_conflict intentTag (by decide +kernel) (by decide +kernel) (by decide +kernel))

theorem started_conflict (value : (Str × UInt32) ⊕ (Str × UInt32) ⊕ (Str × UInt32 × Str) ⊕ (Option Str × Str))
    (rest : Bytes) :
    expect pendingTag (startedJson.write value ++ rest) = .error () := by
  cases value with
  | inl =>
    change expect pendingTag ((intentTag ++ _) ++ rest) = _
    rw [append_assoc]
    exact expect_conflict _ _ _ (by decide +kernel)
  | inr value => exact uncertain_conflict pendingTag (by decide +kernel) (by decide +kernel) (by decide +kernel) value rest

def stateJson : Format MigrationObjectState :=
  (Format.orElse pendingTag pendingJson startedJson started_conflict).map
    (fun value =>
      match value with
      | .inl (last, attempts) => .pending last attempts
      | .inr (.inl (opId, attempt)) => .intentPersisted opId attempt
      | .inr (.inr (.inl (opId, attempt))) => .outcomeUnknownAfterEntry opId attempt
      | .inr (.inr (.inr (.inl (opId, attempt, target)))) => .verified opId attempt target
      | .inr (.inr (.inr (.inr (opId, reason)))) => .failedClosed opId reason)
    (fun state =>
      match state with
      | .pending last attempts => .inl (last, attempts)
      | .intentPersisted opId attempt => .inr (.inl (opId, attempt))
      | .outcomeUnknownAfterEntry opId attempt => .inr (.inr (.inl (opId, attempt)))
      | .verified opId attempt target => .inr (.inr (.inr (.inl (opId, attempt, target))))
      | .failedClosed opId reason => .inr (.inr (.inr (.inr (opId, reason)))))
    (fun state => by cases state <;> rfl)

def entryJson : Format (Str × MigrationObjectState) := Format.pair [] (str ":") rfl text stateJson

def recordJson : Format JournalRecord :=
  (first (str "schema") text (later (str "migration_id") text
    (later (str "source_id") text (later (str "target_id") text
    (later (str "profile") text (later (str "inventory_sha256") text
    (later (str "generation") generationJson (later (str "phase") phaseJson
    (later (str "source_writer") boolJson (later (str "target_writer") boolJson
    (later (str "source_fence_sha256") optionTextJson
    (later (str "source_fence_generation") optionGenerationJson
    (later (str "target_activation_sha256") optionTextJson
    (later (str "target_activation_generation") optionGenerationJson
    (later (str "target_fence_sha256") optionTextJson
    (later (str "target_fence_generation") optionGenerationJson
    (later (str "source_reactivation_sha256") optionTextJson
    (later (str "source_reactivation_generation") optionGenerationJson
    (later (str "cutover_anchor_sha256") optionTextJson
    (later (str "rollback_anchor_sha256") optionTextJson
    (later (str "objects") (braces entryJson (begins_with (by decide) fun _ => ⟨_, rfl⟩))
    (later (str "used_operation_ids") (elements text (begins_with (by decide) fun _ => ⟨_, rfl⟩))
    closing)))))))))))))))))))))).toFormat.map
    (fun (a, b, c, d, e, f, g, h, i, j, k, l, m, n, o, p, q, r, s, t, u, v, _) =>
      ⟨a, b, c, d, e, f, g, h, i, j, k, l, m, n, o, p, q, r, s, t, u, v⟩)
    (fun record => (record.schema, record.migrationId, record.sourceId, record.targetId, record.profile, record.inventorySha256,
      record.generation, record.phase, record.sourceWriter, record.targetWriter, record.sourceFenceSha256, record.sourceFenceGeneration,
      record.targetActivationSha256, record.targetActivationGeneration, record.targetFenceSha256, record.targetFenceGeneration,
      record.sourceReactivationSha256, record.sourceReactivationGeneration, record.cutoverAnchorSha256, record.rollbackAnchorSha256,
      record.objects, record.usedOperationIds, ())) (fun _ => rfl)

def envelopeJson : Format JournalEnvelope :=
  (first (str "schema") text (later (str "payload_sha256") text
    (later (str "payload") recordJson closing))).toFormat.map
    (fun (schema, digest, payload, _) => ⟨schema, digest, payload⟩)
    (fun envelope => (envelope.schema, envelope.payloadSha256, envelope.payload, ())) (fun _ => rfl)

def unsignedJson : Format AuthenticatedPayload :=
  (first (str "schema") text (later (str "key_id") text
    (later (str "payload_sha256") text (later (str "payload") recordJson
      closing)))).toFormat.map
    (fun (schema, keyId, digest, payload, _) => ⟨schema, keyId, digest, payload⟩)
    (fun payload => (payload.schema, payload.keyId, payload.payloadSha256, payload.payload, ())) (fun _ => rfl)

def authenticatedJson : Format AuthenticatedEnvelope :=
  (first (str "unsigned") unsignedJson (later (str "hmac_sha256") text
    closing)).toFormat.map (fun (unsigned, tag, _) => ⟨unsigned, tag⟩)
    (fun envelope => (envelope.unsigned, envelope.hmacSha256, ())) (fun _ => rfl)

def journalEnv : JournalEnv where
  sha256 := sha256Digest
  hmac := hmacSha256
  objects := objectsJson.toVec
  record := recordJson.toVec
  unsigned := unsignedJson.toVec
  envelope := serdeOf envelopeJson
  authenticated := serdeOf authenticatedJson

theorem journal_env_lawful : journalEnv.Lawful :=
  ⟨serde_of_round_trips _, serde_of_round_trips _, by rintro _ ⟨⟩, by rintro _ ⟨⟩⟩

def sampleObjects : List MigrationObject :=
  [⟨str "x", .policy, str "/p", replicate 64 97, replicate 64 98, []⟩, ⟨str "y", .policy, str "/q", replicate 64 97, replicate 64 99, [str "x"]⟩]

def sampleInventory : MigrationInventory := ⟨sampleObjects, hexBytes (journalEnv.sha256 (journalEnv.objects sampleObjects)).bytes⟩

def sampleBinding : MigrationBinding := ⟨str "m", str "a", str "b", str "v1", sampleInventory.sha256⟩

def fenceWith (digit : UInt8) : Transition := .fenceSource ⟨str "a", false, 7, replicate 64 digit⟩

def startWorld : World :=
  ⟨⟨⟨some (JournalAuthentication.encode journalEnv (initialRecord sampleBinding sampleInventory) .legacyChecksum), none, ∅⟩, []⟩,
    some ⟨sampleInventory, initialRecord sampleBinding sampleInventory, false, .legacyChecksum⟩⟩

def worldAfter (events : List Event) : World := Exec.run (step journalEnv sampleBinding sampleInventory .legacyChecksum) startWorld events

def reopened (world : World) : Checked DurableMigrationJournal :=
  openWithAuthentication journalEnv sampleBinding sampleInventory .legacyChecksum world.disk.folder

example : journalEnv.objects (sampleObjects.take 1) = str "[\x7b\"object_id\":\"x\",\"class\":\"policy\",\"source_path\":\"/p\",\"source_sha256\":\"" ++
    (replicate 64 97 ++ (str "\",\"expected_target_sha256\":\"" ++ (replicate 64 98 ++ str "\",\"dependencies\":[]\x7d]"))) := by
  decide +kernel

end HeptaBao.Migration
