import HeptaBao.Plugin.Codec

namespace HeptaBao.Plugin

open Wire Std Durable Domain Exec Reader List

theorem mem_intercalate (separator byte : UInt8) (segments : List Str)
    (member : byte ∈ [separator].intercalate segments) :
    byte = separator ∨ ∃ segment ∈ segments, byte ∈ segment := by
  induction segments with
  | nil => simp [intercalate] at member
  | cons first rest ih =>
    cases rest with
    | nil =>
      refine .inr ⟨first, mem_singleton_self first, ?_⟩
      simpa [intercalate] using member
    | cons =>
      simp only [intercalate, intersperse_cons_cons, flatten_cons, mem_append, mem_singleton] at member ih
      rcases member with here | same | later
      · exact .inr ⟨first, mem_cons_self, here⟩
      · exact .inl same
      · rcases ih later with same | ⟨segment, listed, inside⟩
        · exact .inl same
        · exact .inr ⟨segment, mem_cons_of_mem first listed, inside⟩

theorem check_segments_bytes (segments : List Str) (checked : checkSegments segments = .ok ()) (segment : Str)
    (listed : segment ∈ segments) : segment.all identifierByte = true := by
  induction segments with
  | nil => cases listed
  | cons first rest ih =>
    unfold checkSegments at checked
    split at checked
    · cases checked
    · split at checked
      · cases checked
      · rename_i bytes
        rcases mem_cons.mp listed with rfl | later
        · simpa using bytes
        · exact ih checked later

theorem identifier_byte_ascii (byte : UInt8) (valid : identifierByte byte = true) : byte < 128 := by
  simp only [identifierByte, Bool.or_eq_true, beq_iff_eq] at valid
  rcases valid with segment | rfl
  · exact segment_byte_ascii segment
  · decide

theorem path_utf8 (path : CanonicalPath) : utf8Valid path.text = true := by
  apply ascii_utf8
  rw [all_eq_true]
  intro byte member
  apply decide_eq_true
  have parsed := path.parsed
  unfold checkPath at parsed
  split at parsed
  · cases parsed
  · split at parsed
    · cases parsed
    · split at parsed
      · cases parsed
      · rename_i rooted
        split at parsed
        · rename_i root
          rw [root, mem_singleton] at member
          subst member
          decide
        · split at parsed
          · cases parsed
          · have whole : byte ∈ [47].intercalate (path.text.splitOn 47) := by rwa [intercalate_splitOn]
            rcases mem_intercalate 47 byte _ whole with rfl | ⟨segment, listed, inside⟩
            · decide
            · cases split : path.text.splitOn 47 with
              | nil =>
                rw [split] at listed
                cases listed
              | cons =>
                rw [split] at listed parsed
                rcases mem_cons.mp listed with rfl | later
                · -- The part in front of the leading slash is empty.
                  cases text : path.text with
                  | nil => simp [text] at rooted
                  | cons head =>
                    have slash : head = 47 := by simpa [text] using rooted
                    subst slash
                    have empty : segment = [] := by
                      have shape := split
                      rw [text] at shape
                      simp only [List.splitOn, splitOnP_cons_eq_if_modifyHead, BEq.rfl, if_true] at shape
                      exact (List.cons.inj shape).1.symm
                    rw [empty] at inside
                    cases inside
                · have bytes := check_segments_bytes _ parsed segment later
                  exact identifier_byte_ascii byte (all_eq_true.mp bytes byte inside)

theorem id_utf8 (id : Id) : utf8Valid id.text = true := by
  apply ascii_utf8
  apply all_ascii _ (id_text id).2.2
  exact fun byte valid => segment_byte_ascii (id_byte_segment valid).1

theorem check_true (condition : Bool) (holds : condition = true) : check condition = .ok () := if_pos holds

theorem reads_number {width value : Nat} (bounded : value < 256 ^ width) : Reads (readNumber width)
    (big width value) value := by
  have read := reads_map (take width) fromBig (big width value) _ (reads_exact _ width _ (big_length width value))
  rwa [from_big bounded] at read

theorem reads_byte (byte : UInt8) : Reads (readNumber 1) [byte] byte.toNat := by
  have value : fromBig [byte] = byte.toNat := by simp [fromBig, fromLittle]
  rw [← value]
  exact reads_map (take 1) fromBig [byte] _ (reads_exact _ 1 _ rfl)

theorem reads_u64 (value : UInt64) : Reads readU64 (big 8 value.toNat) value := by
  have read := reads_map (readNumber 8) UInt64.ofNat _ _ (@reads_number 8 value.toNat (by have := value.toNat_lt; norm_num at this ⊢; omega))
  rwa [UInt64.ofNat_toNat] at read

theorem reads_array32 (digest : Digest) : Reads readArray32 digest.bytes digest := by
  rw [← append_nil digest.bytes]
  refine reads_bind (reads_exact _ 32 _ (by simp [digest.size])) ?_
  exact reads_lift _ digest (dif_pos digest.size)

theorem write_text_ok (value : Str) (short : value.length < 2 ^ 16) :
    writeText value = .ok (big 2 value.length ++ value) :=
  if_pos short

theorem reads_text {maximum : Nat} {value : Str} (filled : value ≠ []) (short : value.length ≤ maximum)
    (small : maximum < 2 ^ 16)
    (valid : utf8Valid value = true) : Reads (readText maximum) (big 2 value.length ++ value) value := by
  have positive : value.length ≠ 0 := by simpa using filled
  refine reads_bind (reads_number (by norm_num at small ⊢; omega)) ?_
  refine reads_check (check_true _ (by simp [positive, short])) ?_
  rw [← append_nil value]
  refine reads_bind (reads_exact _ _ value (by simp)) ?_
  simp only [append_nil]
  exact reads_check (check_true _ valid) (reads_pure value)

theorem reads_id (id : Id) : Reads readId (big 2 id.text.length ++ id.text) id := by
  obtain ⟨filled, short, _⟩ := id_text id
  rw [← append_nil (big 2 id.text.length ++ id.text)]
  refine reads_bind (reads_text filled short (by norm_num) (id_utf8 id)) ?_
  exact reads_lift _ id (by rw [parse_id]; rfl)

theorem reads_path (path : CanonicalPath) : Reads readPath (big 2 path.text.length ++ path.text) path := by
  obtain ⟨filled, short⟩ := path_text path
  rw [← append_nil (big 2 path.text.length ++ path.text)]
  refine reads_bind (reads_text filled short (by norm_num) (path_utf8 path)) ?_
  exact reads_lift _ path (by rw [parse_path]; rfl)

theorem reads_header (magic : Bytes) (size : magic.length = 4) : Reads (readHeader magic)
    (magic ++ big 2 durableSchemaVersion) () := by
  refine reads_bind (reads_exact _ 4 magic size) ?_
  refine reads_check (check_true _ (by simp)) ?_
  rw [← append_nil (big 2 durableSchemaVersion)]
  refine reads_bind (reads_number (by decide)) ?_
  exact reads_lift _ () (check_true _ (by simp))

theorem decode_lease_state_tag (state : DynamicLeaseState) : decodeLeaseState (leaseStateTag state).toNat =
    .ok state := by
  cases state <;> rfl

theorem decode_bool_byte (value : Bool) : decodeBool (boolByte value).toNat = .ok value := by cases value <;> rfl

theorem decode_operation_tag (op : PluginOperation) : decodeOperation op.tag.toNat = .ok op := by
  cases op <;> rfl

def leaseBytes (view : DynamicLeaseView) : Bytes :=
  leaseMagic ++ (big 2 durableSchemaVersion ++ ((big 2 view.leaseId.text.length ++ view.leaseId.text) ++
    ((big 2 view.ownerEntity.text.length ++ view.ownerEntity.text) ++ ((big 2 view.scope.text.length ++ view.scope.text) ++
      ([leaseStateTag view.state] ++ (big 8 view.issuedAt.toNat ++ (big 8 view.expiresAt.toNat ++ ([boolByte view.renewable] ++
        (big 8 view.generation.toNat ++ view.secretDigest.bytes)))))))))

theorem lease_bytes_length (view : DynamicLeaseView) : (leaseBytes view).length ≤ 1300 := by
  have lease := (id_text view.leaseId).2.1
  have owner := (id_text view.ownerEntity).2.1
  have scope := (path_text view.scope).2
  have magic : leaseMagic.length = 4 := rfl
  simp only [leaseBytes, length_append, big_length, length_singleton, magic, view.secretDigest.size]
  omega

theorem encode_lease_eq (view : DynamicLeaseView) : encodeLease view = .ok (leaseBytes view) := by
  have lease := (id_text view.leaseId).2.1
  have owner := (id_text view.ownerEntity).2.1
  have scope := (path_text view.scope).2
  have length := lease_bytes_length view
  unfold encodeLease
  rw [write_text_ok _ (by norm_num; omega), write_text_ok _ (by norm_num; omega), write_text_ok _ (by norm_num; omega)]
  exact if_neg (by change ¬16 * 1024 < (leaseBytes view).length; omega)

theorem reads_lease (view : DynamicLeaseView) : Reads leaseFields (leaseBytes view) view := by
  unfold leaseBytes
  rw [← append_assoc]
  refine reads_bind (reads_header leaseMagic rfl) ?_
  refine reads_bind (reads_id view.leaseId) ?_
  refine reads_bind (reads_id view.ownerEntity) ?_
  refine reads_bind (reads_path view.scope) ?_
  refine reads_bind (reads_byte _) ?_
  refine reads_check (decode_lease_state_tag view.state) ?_
  refine reads_bind (reads_u64 view.issuedAt) ?_
  refine reads_bind (reads_u64 view.expiresAt) ?_
  refine reads_bind (reads_byte _) ?_
  refine reads_check (decode_bool_byte view.renewable) ?_
  refine reads_bind (reads_u64 view.generation) ?_
  exact reads_map readArray32 _ _ _ (reads_array32 view.secretDigest)

theorem decode_lease_eq (view : DynamicLeaseView) (valid : validateLeaseView view = .ok ()) :
    decodeLease (leaseBytes view) = .ok view := by
  unfold decodeLease
  rw [complete_reads _ _ _ _ (reads_lease view)]
  change (validateLeaseView view >>= fun _ => pure view) = .ok view
  rw [valid]
  rfl

def previousBytes : Option DynamicLeaseView → Bytes
  | none => big 4 0
  | some view => big 4 (leaseBytes view).length ++ leaseBytes view

variable (prev : Option DynamicLeaseView)

theorem previous_bytes_length : (previousBytes prev).length ≤ 1304 := by
  cases prev with
  | none => simp [previousBytes]
  | some view =>
    have length := lease_bytes_length view
    simp only [previousBytes, length_append, big_length]
    omega

theorem encode_previous_eq : encodePrevious prev = .ok (previousBytes prev) := by
  cases prev with
  | none => rfl
  | some view =>
    have length := lease_bytes_length view
    simp only [encodePrevious, encode_lease_eq, bind, Except.bind]
    exact if_pos (by norm_num; omega)

theorem reads_previous (valid : ∀ view, prev = some view → validateLeaseView view = .ok ()) :
    Reads readPrevious (previousBytes prev) prev := by
  cases prev with
  | none =>
    rw [previousBytes, ← append_nil (big 4 0)]
    exact reads_bind (reads_number (by norm_num)) (reads_pure none)
  | some view =>
    have length := lease_bytes_length view
    have filled : (leaseBytes view).length ≠ 0 := by
      simp [leaseBytes, big_length]
    refine reads_bind (reads_number (by norm_num; omega)) ?_
    rw [if_neg filled, ← append_nil (leaseBytes view)]
    refine reads_bind (reads_exact _ _ (leaseBytes view) (by simp)) ?_
    exact reads_check (decode_lease_eq view (valid view rfl)) (reads_pure (some view))

variable (intent : DurablePluginIntent)

def intentBytes : Bytes :=
  intentMagic ++ (big 2 durableSchemaVersion ++ ((big 2 intent.leaseId.text.length ++ intent.leaseId.text) ++ ([intent.operation.tag] ++
    (big 8 intent.generation.toNat ++ ((big 2 intent.ownerEntity.text.length ++ intent.ownerEntity.text) ++
      ((big 2 intent.scope.text.length ++ intent.scope.text) ++ (big 8 intent.issuedAt.toNat ++ (big 8 intent.proposedExpiresAt.toNat ++
        ([boolByte intent.renewable] ++ (intent.requestDigest.bytes ++ previousBytes intent.previous))))))))))

theorem intent_bytes_length : (intentBytes intent).length ≤ 3000 := by
  have lease := (id_text intent.leaseId).2.1
  have owner := (id_text intent.ownerEntity).2.1
  have scope := (path_text intent.scope).2
  have prev := previous_bytes_length intent.previous
  have magic : intentMagic.length = 4 := rfl
  simp only [intentBytes, length_append, big_length, length_singleton, magic, intent.requestDigest.size]
  omega

theorem encode_intent_eq : encodeIntent intent = .ok (intentBytes intent) := by
  have lease := (id_text intent.leaseId).2.1
  have owner := (id_text intent.ownerEntity).2.1
  have scope := (path_text intent.scope).2
  have length := intent_bytes_length intent
  unfold encodeIntent
  rw [write_text_ok _ (by norm_num; omega), write_text_ok _ (by norm_num; omega), write_text_ok _ (by norm_num; omega), encode_previous_eq]
  exact if_neg (by change ¬16 * 1024 < (intentBytes intent).length; omega)

theorem lease_bytes_injective (a b : DynamicLeaseView) (same : leaseBytes a = leaseBytes b) : a = b :=
  (@reads_peel _ _ _ _ _ [] [] _ _ (reads_lease a) (reads_lease b) (by rw [same])).1

theorem previous_bytes_injective (a b : Option DynamicLeaseView) (same : previousBytes a = previousBytes b) :
    a = b := by
  have longer : ∀ view, previousBytes none ≠ previousBytes (some view) := by
    intro view equal
    have lengths := congrArg List.length equal
    simp only [previousBytes, length_append, big_length, leaseBytes] at lengths
    omega
  cases a with
  | none =>
    cases b with
    | none => rfl
    | some view => exact absurd same (longer view)
  | some first =>
    cases b with
    | none => exact absurd same.symm (longer first)
    | some second =>
      have tails := (append_split (by simp) same).2
      rw [lease_bytes_injective first second tails]

theorem operation_tag_injective (a b : PluginOperation) (same : a.tag = b.tag) : a = b := by
  cases a <;> cases b <;> first | rfl | exact absurd same (by decide)

theorem bool_byte_injective (a b : Bool) (same : boolByte a = boolByte b) : a = b := by
  cases a <;> cases b <;> first | rfl | exact absurd same (by decide)

theorem intent_bytes_injective (a b : DurablePluginIntent) (same : intentBytes a = intentBytes b) : a = b := by
  unfold intentBytes at same
  have rest := append_cancel_left (append_cancel_left same)
  obtain ⟨_, rest⟩ := reads_peel (reads_id a.leaseId) (reads_id b.leaseId) rest
  obtain ⟨tag, rest⟩ := @append_split [a.operation.tag] [b.operation.tag] _ _ rfl rest
  obtain ⟨_, rest⟩ := reads_peel (reads_u64 a.generation) (reads_u64 b.generation) rest
  obtain ⟨_, rest⟩ := reads_peel (reads_id a.ownerEntity) (reads_id b.ownerEntity) rest
  obtain ⟨_, rest⟩ := reads_peel (reads_path a.scope) (reads_path b.scope) rest
  obtain ⟨_, rest⟩ := reads_peel (reads_u64 a.issuedAt) (reads_u64 b.issuedAt) rest
  obtain ⟨_, rest⟩ := reads_peel (reads_u64 a.proposedExpiresAt) (reads_u64 b.proposedExpiresAt) rest
  obtain ⟨renewable, rest⟩ := @append_split [boolByte a.renewable] [boolByte b.renewable] _ _ rfl rest
  obtain ⟨_, rest⟩ := reads_peel (reads_array32 a.requestDigest) (reads_array32 b.requestDigest) rest
  have op := operation_tag_injective _ _ (singleton_inj.mp tag)
  have isRenewable := bool_byte_injective _ _ (singleton_inj.mp renewable)
  have prev := previous_bytes_injective _ _ rest
  cases a
  cases b
  simp_all

-- An intent the decoder takes, and whose lease was certain before.
structure SoundIntent (intent : DurablePluginIntent) : Prop where
  dynamic : intent.operation ≠ .read ∧ intent.operation ≠ .write
  fields : validateIntent intent = .ok ()
  previous : ∀ view, intent.previous = some view → validateLeaseView view = .ok ()
  certain : ∀ view, intent.previous = some view → view.state ≠ .reconciliationRequired

theorem reads_intent (sound : SoundIntent intent) : Reads intentFields (intentBytes intent) intent := by
  unfold intentBytes
  rw [← append_assoc]
  refine reads_bind (reads_header intentMagic rfl) ?_
  refine reads_bind (reads_id intent.leaseId) ?_
  refine reads_bind (reads_byte _) ?_
  refine reads_check (decode_operation_tag intent.operation) ?_
  refine reads_check (check_true _ (by simp [sound.dynamic])) ?_
  refine reads_bind (reads_u64 intent.generation) ?_
  refine reads_bind (reads_id intent.ownerEntity) ?_
  refine reads_bind (reads_path intent.scope) ?_
  refine reads_bind (reads_u64 intent.issuedAt) ?_
  refine reads_bind (reads_u64 intent.proposedExpiresAt) ?_
  refine reads_bind (reads_byte _) ?_
  refine reads_check (decode_bool_byte intent.renewable) ?_
  refine reads_bind (reads_array32 intent.requestDigest) ?_
  exact reads_map readPrevious _ _ _ (reads_previous intent.previous sound.previous)

theorem decode_intent_eq (sound : SoundIntent intent) : decodeIntent (intentBytes intent) = .ok intent := by
  unfold decodeIntent
  rw [complete_reads _ _ _ _ (reads_intent intent sound)]
  change (validateIntent intent >>= fun _ => pure intent) = .ok intent
  rw [sound.fields]
  rfl

end HeptaBao.Plugin
