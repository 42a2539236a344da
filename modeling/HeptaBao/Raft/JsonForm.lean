import HeptaBao.Raft.LogStore

namespace HeptaBao.Raft

open Wire Wire.Json Tail Durable Std List

-- The compact texts serde_json writes for the stored types.

def leaderIdJson : Format (Nat × Nat) :=
  (first (str "term") number (later (str "node_id") number
    closing)).toFormat.map (fun (term, node, _) => (term, node)) (fun (term, node) => (term, node, ()))
    (fun _ => rfl)

def logIdJson : Format LogId :=
  (first (str "leader_id") leaderIdJson (later (str "index") number
    closing)).toFormat.map (fun ((term, node), index, _) => ⟨term, node, index⟩)
    (fun logId => ((logId.term, logId.nodeId), logId.index, ())) (fun _ => rfl)

theorem log_id_begins (accepts : UInt8 → Bool) (brace : accepts 123 = true) : logIdJson.Begins accepts :=
  begins_with brace fun _ => ⟨_, rfl⟩

def optionLogIdJson : Format (Option LogId) := logIdJson.option (log_id_begins _ (by decide))

def voteJson : Format Vote :=
  (first (str "leader_id") leaderIdJson (later (str "committed") boolJson
    closing)).toFormat.map (fun ((term, node), committed, _) => ⟨term, node, committed⟩)
    (fun vote => ((vote.term, vote.nodeId), vote.committed, ())) (fun _ => rfl)

def optionVoteJson : Format (Option Vote) :=
  voteJson.option (begins_with (by decide) fun _ => ⟨_, rfl⟩)

def numbersJson : Format (List Nat) :=
  brackets number (number_begins _ (by decide +kernel))

-- The nodes of a membership carry no data: a map from identifiers to null.
def nodeJson : Format Nat :=
  (Format.pair (str "\"") (str "\":null") (by decide) number unit).map (fun (node, _) => node) (fun node => (node, ())) (fun _ => rfl)

def nodesJson : Format (List Nat) :=
  nodeJson.list 123 125 rfl (by simp) (begins_with (by decide) fun _ => ⟨_, rfl⟩)

def membershipJson : Format Membership :=
  (first (str "configs") (brackets numbersJson (begins_with (by decide) fun _ => ⟨_, rfl⟩))
    (later (str "nodes") nodesJson closing)).toFormat.map
    (fun (configs, nodes, _) => ⟨configs, nodes⟩) (fun membership => (membership.configs, membership.nodes, ())) (fun _ => rfl)

def clientRequestJson : Format ClientRequest :=
  (first (str "client") text (later (str "serial") number
    (later (str "status") text closing))).toFormat.map
    (fun (client, serial, status, _) => ⟨client, serial, status⟩)
    (fun req => (req.client, req.serial, req.status, ())) (fun _ => rfl)

def payloadJson : Format EntryPayload :=
  (Format.either (str "\"Blank\"") (str "\x7b\"") (fun _ => rfl) unit
    (Format.either (str "Normal\":") (str "Membership\":") (fun _ => rfl) (Format.pair [] (str "\x7d") (by decide) clientRequestJson unit)
      (Format.pair [] (str "\x7d") (by decide) membershipJson unit))).map
    (fun value =>
      match value with
      | .inl _ => .blank
      | .inr (.inl (req, _)) => .normal req
      | .inr (.inr (membership, _)) => .membership membership)
    (fun payload =>
      match payload with
      | .blank => .inl ()
      | .normal req => .inr (.inl (req, ()))
      | .membership membership => .inr (.inr (membership, ())))
    (fun payload => by cases payload <;> rfl)

def entryJson : Format Entry :=
  (first (str "log_id") logIdJson (later (str "payload") payloadJson
    closing)).toFormat.map (fun (logId, payload, _) => ⟨logId, payload⟩)
    (fun entry => (entry.logId, entry.payload, ())) (fun _ => rfl)

def indexedTextJson : Format (Nat × Str) := Format.pair (str "\"") (str "\":") (by decide) number text

def logStateJson : Format PersistentLogState :=
  (first (str "last_purged_log_id") optionLogIdJson
    (later (str "committed") optionLogIdJson (later (str "vote") optionVoteJson
      (later (str "log")
        (braces indexedTextJson (begins_with (by decide) fun _ => ⟨_, rfl⟩))
        closing)))).toFormat.map
    (fun (purged, committed, vote, log, _) => ⟨purged, committed, vote, log⟩)
    (fun state => (state.lastPurgedLogId, state.committed, state.vote, state.log, ())) (fun _ => rfl)

def markerJson : Format PersistentInitializationMarker :=
  (first (str "format_version") number (later (str "domain") text
    (later (str "authoritative_file") text closing))).toFormat.map
    (fun (version, domain, file, _) => ⟨version, domain, file⟩)
    (fun mark => (mark.formatVersion, mark.domain, mark.authoritativeFile, ())) (fun _ => rfl)

def jsonLogSerde : LogSerde := ⟨serdeOf logStateJson, serdeOf entryJson, serdeOf markerJson⟩

theorem json_log_serde_lawful : jsonLogSerde.Lawful :=
  ⟨serde_of_round_trips _, serde_of_round_trips _, serde_of_round_trips _, by decide +kernel⟩

example : (serdeOf markerJson).toVec logMarker =
    str "\x7b\"format_version\":1,\"domain\":\"raft-log\",\"authoritative_file\":\"raft-log.bin\"\x7d" := by decide +kernel

theorem client_request_write (req : ClientRequest) :
    clientRequestJson.write req = str "\x7b\"client\":" ++ (text.write req.client ++ (str ",\"serial\":" ++
      (decimal req.serial ++ (str ",\"status\":" ++ (text.write req.status ++ str "\x7d"))))) := rfl

theorem normal_payload_write (req : ClientRequest) :
    payloadJson.write (.normal req) = str "\x7b\"" ++
      (str "Normal\":" ++ (clientRequestJson.write req ++ (str "\x7d" ++ []))) :=
  rfl

theorem entry_write (entry : Entry) : entryJson.write entry = str "\x7b\"log_id\":" ++
    (logIdJson.write entry.logId ++ (str ",\"payload\":" ++
      (payloadJson.write entry.payload ++ str "\x7d"))) := rfl

theorem entry_json_length (logId : LogId) (req : ClientRequest) :
    req.status.length ≤ (entryJson.write ⟨logId, .normal req⟩).length := by
  have inner := text_write_length req.status
  rw [entry_write, normal_payload_write, client_request_write]
  simp only [length_append]
  omega

theorem log_state_json_length (state : PersistentLogState) (least : Nat)
    (each : ∀ (index : Nat) (content : Str), state.log[index]? = some content → least ≤ content.length) :
    state.log.size * least ≤ (logStateJson.write state).length := by
  have items := write_items_least indexedTextJson 125 least state.log.toList fun item listed => by
    have inner := text_write_length item.2
    have long := each item.1 item.2 (ExtTreeMap.mem_toList_iff_getElem?_eq_some.mp listed)
    rw [show indexedTextJson.write item = str "\"" ++ (decimal item.1 ++ (str "\":" ++ text.write item.2)) from rfl]
    simp only [length_append]
    omega
  rw [ExtTreeMap.length_toList] at items
  rw [show logStateJson.write state = str "\x7b\"last_purged_log_id\":" ++ (optionLogIdJson.write state.lastPurgedLogId ++
    (str ",\"committed\":" ++ (optionLogIdJson.write state.committed ++ (str ",\"vote\":" ++ (optionVoteJson.write state.vote ++
      (str ",\"log\":" ++ ((123 :: writeItems indexedTextJson 125 state.log.toList) ++ str "\x7d"))))))) from rfl]
  simp only [length_append, length_cons]
  omega

theorem full_operation_accepted : operationIdAccepted (str "request") = true := by decide

theorem full_digest_length : (replicate 32 (1 : UInt8)).length = 32 := rfl

theorem full_digest_nonzero : (⟨replicate 32 1, full_digest_length⟩ : Digest) ≠ zeroDigest := by decide

theorem full_bytes_sealed :
    replicate maxSealedEnvelopeBytes (0 : UInt8) ≠ [] ∧
      (replicate maxSealedEnvelopeBytes (0 : UInt8)).length ≤ maxSealedEnvelopeBytes := by
  refine ⟨?_, (length_replicate ..).le⟩
  rw [ne_eq, replicate_eq_nil_iff]
  decide

-- An envelope of the size that ReplicatedEnvelope::new still accepts.
def fullEnvelope : ReplicatedEnvelope :=
  ⟨str "request", ⟨replicate 32 1, full_digest_length⟩, replicate maxSealedEnvelopeBytes 0,
    full_operation_accepted, full_digest_nonzero, full_bytes_sealed⟩

theorem full_status_length : 2 * maxSealedEnvelopeBytes ≤ fullEnvelope.encodedStatus.length := by
  rw [encoded_status_length, show fullEnvelope.sealedBytes.length = maxSealedEnvelopeBytes from length_replicate ..]
  omega

def sampleEntry (index : Nat) (status : Str) : Entry := ⟨⟨1, 1, index⟩, .normal ⟨str "client", index, status⟩⟩

end HeptaBao.Raft
