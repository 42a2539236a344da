import HeptaBao.P0.Server

namespace HeptaBao.P0

open Wire Std Durable List

variable {credentials : Credentials} {state after : ServerState} {call : RequestEnvelope} {now : Nat} {audit : AuditEvent → Bool}
  {op : Operation} {response : P0Response}

theorem slice_framed (inner : Bytes) : slice (123 :: (inner ++ [125])) 1 ((123 :: (inner ++ [125])).length - 1) =
    some inner := by
  simp [slice]

theorem framed {body : Bytes} (first : body.head? = some 123) (last : body.getLast? = some 125) :
    ∃ inner, body = 123 :: (inner ++ [125]) := by
  obtain ⟨rest, rfl⟩ := head?_eq_some_iff.mp first
  obtain ⟨front, same⟩ := getLast?_eq_some_iff.mp last
  cases front with
  | nil => cases same
  | cons _ inner =>
    cases same
    exact ⟨inner, rfl⟩

-- Only where the opening quote is the closing one is there no range between them.
theorem parse_none {body : Bytes} {key : String} (panics : parseSecretField body key = none) :
    body = 123 :: (opening key ++ [125]) := by
  unfold parseSecretField at panics
  split at panics
  · cases panics
  · split at panics
    · cases panics
    · rename_i shape
      simp only [not_or, not_not] at shape
      obtain ⟨inner, rfl⟩ := framed shape.2.1 shape.2.2
      rw [slice_framed] at panics
      simp only [Option.bind_eq_bind, Option.bind_some] at panics
      split at panics
      · cases panics
      · rename_i fits
        simp only [not_or, not_not] at fits
        obtain ⟨rest, rfl⟩ := fits.1
        cases rest with
        | nil => rw [append_nil]
        | cons => simp [slice] at panics

theorem decode_escape {byte : UInt8} (plain : byte ∈ [34, 92, 10, 13, 9] ∨ 32 ≤ byte ∧ byte ≤ 126) (rest : Bytes) :
    decodeBytes (escapeByte byte ++ rest) = (decodeBytes rest).map (byte :: ·) := by
  unfold escapeByte
  split_ifs with quote slash line back tab inside
  · rw [quote]; rfl
  · rw [slash]; rfl
  · rw [line]; rfl
  · rw [back]; rfl
  · rw [tab]; rfl
  · rw [singleton_append, decodeBytes.eq_def]
    simp only [slash, quote, if_false, or_false]
    rw [if_neg]
    simp only [UInt8.lt_iff_toNat_lt, UInt8.le_iff_toNat_le] at inside ⊢
    change 32 ≤ _ ∧ _ ≤ 126 at inside
    change ¬ (_ < 32 ∨ 127 ≤ _)
    omega
  · simp [quote, slash, line, back, tab, inside] at plain

theorem decoded_cons {byte : UInt8} {rest value : Bytes} (plain : byte ∈ [34, 92, 10, 13, 9] ∨ 32 ≤ byte ∧ byte ≤ 126)
    (ih : ∀ {value}, decodeBytes rest = .ok value → decodeBytes (escapeJson value) = .ok value)
    (decoded : (decodeBytes rest).map (byte :: ·) = .ok value) : decodeBytes (escapeJson value) = .ok value := by
  cases run : decodeBytes rest with
  | error => rw [run] at decoded; cases decoded
  | ok tail =>
    rw [run] at decoded
    cases decoded
    change decodeBytes (escapeByte byte ++ escapeJson tail) = _
    rw [decode_escape plain, ih run]
    rfl

theorem escape_decoded {source value : Bytes} (decoded : decodeBytes source = .ok value) :
    decodeBytes (escapeJson value) = .ok value := by
  fun_induction decodeBytes source generalizing value with
  | case1 => cases decoded; rfl
  | case4 _ _ plain found ih =>
    refine decoded_cons (.inl ?_) ih decoded
    unfold unescape at found
    split_ifs at found <;> cases found <;> simp
  | case6 byte _ _ allowed ih =>
    refine decoded_cons (.inr ?_) ih decoded
    simp only [not_or, UInt8.lt_iff_toNat_lt, UInt8.le_iff_toNat_le] at allowed ⊢
    change ¬ _ < 32 ∧ ¬ 127 ≤ _ ∧ _ at allowed
    change 32 ≤ _ ∧ _ ≤ 126
    omega
  | _ => cases decoded

theorem parsed_reads_back {body value : Bytes} {key : String} (parsed : parseSecretField body key = some (.ok value)) :
    decodeJsonString (escapeJson value) = .ok value := by
  unfold parseSecretField at parsed
  split at parsed
  · cases parsed
  · split at parsed
    · cases parsed
    · obtain ⟨inner, _, parsed⟩ := Option.bind_eq_some_iff.mp parsed
      split at parsed
      · cases parsed
      · obtain ⟨encoded, _, parsed⟩ := Option.bind_eq_some_iff.mp parsed
        obtain ⟨decoded, read, small⟩ := bind_ok (Option.some.inj parsed)
        obtain ⟨output, bytes, some⟩ := bind_ok read
        split at some
        · cases some
        · rename_i full
          cases some
          split at small
          · cases small
          · cases small
            rw [decodeJsonString, escape_decoded bytes]
            exact if_neg full

theorem admission_valid (admitted : admission credentials state call now audit = .ok op) :
    call.validateAt now = .ok op := by
  unfold admission at admitted
  split at admitted
  · cases admitted
  · dsimp only at admitted
    split_ifs at admitted
    cases admitted
    assumption

theorem admission_refuses (valid : call.validateAt now = .ok op)
    (refused : admission credentials state call now audit = .error response) :
    response.committed = false ∧ 400 ≤ response.statusCode ∧ response.statusCode ≠ 404 := by
  unfold admission reject at refused
  rw [valid] at refused
  dsimp only at refused
  split_ifs at refused <;> cases refused <;> simp [errors, json]

theorem kv_path (valid : call.validateAt now = .ok op) (kv : op = .kvWrite ∨ op = .kvDelete) :
    call.path = str "/v1/secret/" ++ kvKey call.path := by
  have isKey : isKvPath call.path = true := by
    by_contra wrong
    unfold RequestEnvelope.validateAt classifyOperation at valid
    split_ifs at valid <;> cases valid <;> simp at kv
  obtain ⟨key, stripped, _⟩ := (Option.any_eq_true _ _).mp isKey
  rw [kvKey, stripped]
  exact strip_prefix_some stripped

theorem dispatch_none : dispatch credentials state call op = none ↔
    op = .kvWrite ∧ parseSecretField call.body "value" = none ∨ op = .sysUnseal ∧ parseSecretField call.body "key" =
      none := by
  cases op with
  | kvWrite =>
    rcases parsed : parseSecretField call.body "value" with _ | _ | _ <;> simp [dispatch, kvWrite, parsed]
  | sysUnseal =>
    rcases parsed : parseSecretField call.body "key" with _ | _ | key
    · simp [dispatch, unsealServer, parsed]
    · simp [dispatch, unsealServer, parsed]
    · by_cases right : constantTimeEq credentials.unsealKey key = true <;> simp [dispatch, unsealServer, parsed, right]
  | _ => simp [dispatch]

-- What a dispatched call does to the state and to one secret of it.
structure Effect (call : RequestEnvelope) (op : Operation) (state : ServerState) (response : P0Response) (after : ServerState) : Prop where
  refused : response.committed = false → after = state
  status : response.committed = false → op = .kvWrite ∨ op = .sysUnseal → 400 ≤ response.statusCode
  others : ∀ key, after.kv[key]? = state.kv[key]? ∨ response.committed = true ∧ (op = .kvWrite ∨ op = .kvDelete) ∧
    kvKey call.path = key
  stored : op = .kvWrite → response.committed = true →
    ∃ value, parseSecretField call.body "value" = some (.ok value) ∧ after.kv[kvKey call.path]? = some value

theorem dispatch_effect (done : dispatch credentials state call op = some (response, after)) :
    Effect call op state response after := by
  cases op with
  | kvWrite =>
    rcases parsed : parseSecretField call.body "value" with _ | _ | value <;> simp [dispatch, kvWrite, parsed] at done
    · obtain ⟨rfl, rfl⟩ := done
      exact ⟨fun _ => rfl, fun _ _ => le_rfl, fun _ => .inl rfl, nofun⟩
    · obtain ⟨rfl, rfl⟩ := done
      refine ⟨nofun, nofun, fun key => ?_, fun _ _ => ⟨value, parsed, by simp [ServerState.next]⟩⟩
      by_cases same : kvKey call.path = key
      · exact .inr ⟨rfl, .inl rfl, same⟩
      · exact .inl (by simp [ServerState.next, lookup_insert, same])
  | sysUnseal =>
    rcases parsed : parseSecretField call.body "key" with _ | _ | key <;> simp [dispatch, unsealServer, parsed] at done
    · obtain ⟨rfl, rfl⟩ := done
      exact ⟨fun _ => rfl, fun _ _ => le_rfl, fun _ => .inl rfl, nofun⟩
    · split at done <;> cases done
      · exact ⟨fun _ => rfl, fun _ _ => le_rfl, fun _ => .inl rfl, nofun⟩
      · exact ⟨nofun, nofun, fun _ => .inl rfl, nofun⟩
  | kvDelete =>
    simp only [dispatch, kvDelete, Option.some.injEq] at done
    split at done <;> cases done
    · refine ⟨nofun, nofun, fun key => ?_, nofun⟩
      by_cases same : kvKey call.path = key
      · exact .inr ⟨rfl, .inr rfl, same⟩
      · exact .inl (by simp [ServerState.next, ExtTreeMap.getElem?_erase, same])
    · exact ⟨fun _ => rfl, by simp, fun _ => .inl rfl, nofun⟩
  | sysInit =>
    simp only [dispatch, initializeServer, Option.some.injEq] at done
    split at done <;> cases done
    · exact ⟨fun _ => rfl, by simp, fun _ => .inl rfl, nofun⟩
    · exact ⟨nofun, nofun, fun _ => .inl rfl, nofun⟩
  | sysSeal => cases done; exact ⟨nofun, nofun, fun _ => .inl rfl, nofun⟩
  | _ => cases done; exact ⟨fun _ => rfl, by simp, fun _ => .inl rfl, nofun⟩

theorem audited_committed : (audited call audit op response after).committed = response.committed := by
  unfold audited
  dsimp only
  split_ifs with _ committed <;> simp_all

theorem audited_cases : audited call audit op response after = response ∨
    (audited call audit op response after).statusCode = 503 := by
  unfold audited
  dsimp only
  split_ifs <;> simp

theorem handle_cases (handled : handle credentials state call now audit = some (response, after)) :
    admission credentials state call now audit = .error response ∧ after = state ∨
      ∃ op prepared, call.validateAt now = .ok op ∧ dispatch credentials state call op = some (prepared, after) ∧
        response = audited call audit op prepared after := by
  unfold handle at handled
  split at handled
  · cases handled
    exact .inl ⟨by assumption, rfl⟩
  · rename_i op admitted
    obtain ⟨⟨prepared, reached⟩, done, same⟩ := Option.map_eq_some_iff.mp handled
    cases same
    exact .inr ⟨op, prepared, admission_valid admitted, done, rfl⟩

-- Calls that commit no write and no removal of one path.
inductive Undisturbed (credentials : Credentials) (path : Str) : ServerState → ServerState → Prop
  | refl (state : ServerState) : Undisturbed credentials path state state
  | step {state after final : ServerState} {call : RequestEnvelope} {now : Nat} {audit : AuditEvent → Bool} {response : P0Response}
      (handled : handle credentials state call now audit = some (response, after))
      (other : ∀ op, call.validateAt now = .ok op → op = .kvWrite ∨ op = .kvDelete → call.path = path → response.committed = false)
      (later : Undisturbed credentials path after final) : Undisturbed credentials path state final

theorem undisturbed_keeps {path : Str} {final : ServerState} (written : path = str "/v1/secret/" ++ kvKey path)
    (run : Undisturbed credentials path state final) : final.kv[kvKey path]? = state.kv[kvKey path]? := by
  induction run with
  | refl => rfl
  | step handled other _ ih =>
    rw [ih]
    rcases handle_cases handled with ⟨_, rfl⟩ | ⟨op, prepared, valid, done, rfl⟩
    · rfl
    · rcases (dispatch_effect done).others (kvKey path) with same | ⟨committed, kv, key⟩
      · exact same
      · have same := other op valid kv (by rw [kv_path valid kv, key, ← written])
        rw [audited_committed, committed] at same
        cases same

/-- Which bodies panic, what a refused request leaves, and what a read returns after a write. -/
theorem p0_secret_bodies (credentials : Credentials) :
    (∀ state call now audit, handle credentials state call now audit = none ↔
      ∃ op, admission credentials state call now audit = .ok op ∧
        (op = .kvWrite ∧ call.body = str "\x7b\"value\":\"\x7d" ∨ op = .sysUnseal ∧
          call.body = str "\x7b\"key\":\"\x7d")) ∧
    (∀ state call now audit op response after, call.validateAt now = .ok op → op = .kvWrite ∨ op = .sysUnseal →
      handle credentials state call now audit = some (response, after) → response.committed = true ∨
        400 ≤ response.statusCode ∧ after = state) ∧
    ∀ state call now audit response after final, call.validateAt now = .ok .kvWrite →
      handle credentials state call now audit = some (response, after) → response.committed = true →
        Undisturbed credentials call.path after final → ∃ value, parseSecretField call.body "value" = some (.ok value) ∧
          ∀ read time sink answer reached, read.validateAt time = .ok .kvRead → read.path = call.path →
            handle credentials final read time sink = some (answer, reached) → answer.statusCode ≠ 404 ∧
              (answer.statusCode = 200 → ∃ text, answer.body = valueHead ++ text ++ valueTail ∧
                decodeJsonString text = .ok value) := by
  refine ⟨fun state call now audit => ?_, fun state call now audit op response after valid kind handled => ?_,
    fun state call now audit response after final valid handled committed run => ?_⟩
  · have value : parseSecretField call.body "value" = none ↔ call.body = str "\x7b\"value\":\"\x7d" :=
      ⟨parse_none, fun same => by rw [same]; exact Option.isNone_iff_eq_none.mp (by decide +kernel)⟩
    have key : parseSecretField call.body "key" = none ↔ call.body = str "\x7b\"key\":\"\x7d" :=
      ⟨parse_none, fun same => by rw [same]; exact Option.isNone_iff_eq_none.mp (by decide +kernel)⟩
    rw [← value, ← key]
    unfold handle
    cases admission credentials state call now audit with
    | error => simp
    | ok op => simp [dispatch_none]
  · rcases handle_cases handled with ⟨refused, same⟩ | ⟨other, prepared, also, done, rfl⟩
    · exact .inr ⟨(admission_refuses valid refused).2.1, same⟩
    · cases valid.symm.trans also
      have effect := dispatch_effect done
      rw [audited_committed]
      cases committed : prepared.committed with
      | true => exact .inl rfl
      | false =>
        have high := effect.status committed kind
        rcases audited_cases with same | same <;> exact .inr ⟨by rw [same]; omega, effect.refused committed⟩
  · rcases handle_cases handled with ⟨refused, _⟩ | ⟨other, prepared, also, done, rfl⟩
    · rw [(admission_refuses valid refused).1] at committed
      cases committed
    · cases valid.symm.trans also
      rw [audited_committed] at committed
      obtain ⟨value, parsed, stored⟩ := (dispatch_effect done).stored rfl committed
      refine ⟨value, parsed, fun read time sink answer reached reads here handled => ?_⟩
      have found := (undisturbed_keeps (kv_path valid (.inl rfl)) run).trans stored
      rcases handle_cases handled with ⟨refused, _⟩ | ⟨other, prepared, also, done, rfl⟩
      · obtain ⟨_, high, apart⟩ := admission_refuses reads refused
        exact ⟨apart, fun success => by omega⟩
      · cases reads.symm.trans also
        simp only [dispatch, kvRead, here, found, Option.some.injEq, Prod.mk.injEq] at done
        obtain ⟨rfl, rfl⟩ := done
        rcases audited_cases with same | same
        · rw [same]
          exact ⟨nofun, fun _ => ⟨_, rfl, parsed_reads_back parsed⟩⟩
        · rw [same]
          exact ⟨nofun, nofun⟩

def ready : ServerState := ⟨true, false, ∅, 2⟩

def developer : Credentials := ⟨str "development-root-token-1", str "development-unseal-key-1", by decide +kernel⟩

def putSecret (body : Bytes) : RequestEnvelope :=
  ⟨str "request-1", .put, str "/v1/secret/app", [], some developer.rootToken, body, 0, 10⟩

def getSecret : RequestEnvelope := { putSecret [] with requestId := str "request-2", method := .get }

theorem p0_secret_bodies_written : ∃ response after answer reached,
    handle developer ready (putSecret (str "\x7b\"value\":\"s3cret\"\x7d")) 5 (fun _ => true) =
      some (response, after) ∧ response.committed = true ∧
    handle developer after getSecret 6 (fun _ => true) = some (answer, reached) ∧ answer.statusCode ≠ 404 ∧
      (answer.statusCode = 200 → ∃ text, answer.body = valueHead ++ text ++ valueTail ∧
        decodeJsonString text = .ok (str "s3cret")) := by
  have stored : (handle developer ready (putSecret (str "\x7b\"value\":\"s3cret\"\x7d")) 5 fun _ => true).any
      (fun done => done.1.committed && (handle developer done.2 getSecret 6 fun _ => true).isSome) = true := by
    decide +kernel
  obtain ⟨⟨response, after⟩, handled, done⟩ := (Option.any_eq_true _ _).mp stored
  obtain ⟨committed, reads⟩ := Bool.and_eq_true_iff.mp done
  obtain ⟨⟨answer, reached⟩, answered⟩ := Option.isSome_iff_exists.mp reads
  obtain ⟨value, parsed, shown⟩ := (p0_secret_bodies developer).2.2 ready _ 5 (fun _ => true) response after after
    (by decide +kernel) handled committed (.refl after)
  have same : value = str "s3cret" := by
    have other : parseSecretField (str "\x7b\"value\":\"s3cret\"\x7d") "value" = some (.ok (str "s3cret")) := by decide +kernel
    cases parsed.symm.trans other
    rfl
  rw [same] at shown
  exact ⟨response, after, answer, reached, handled, committed, answered,
    shown getSecret 6 (fun _ => true) answer reached (by decide +kernel) rfl answered⟩

def openQuote : RequestEnvelope := putSecret (str "\x7b\"value\":\"\x7d")

theorem open_quote_panics : (handle developer ready openQuote 5 fun _ => true).isNone = true := by decide +kernel

end HeptaBao.P0
