import HeptaBao.P0.Bodies

namespace HeptaBao.P0

open Wire Std Durable List

theorem fold_or_zero (differ : Nat → Nat) (start : Nat) (indices : List Nat) :
    indices.foldl (fun difference index => difference ||| differ index) start = 0 ↔ start = 0 ∧ ∀ index ∈ indices,
      differ index = 0 := by
  induction indices generalizing start with
  | nil => simp
  | cons index indices ih => simp [ih, Nat.or_eq_zero_iff, and_assoc]

theorem constant_time_eq_iff (secret candidate : Bytes) : constantTimeEq secret candidate = true ↔
    secret = candidate := by
  rw [constantTimeEq, decide_eq_true_iff, fold_or_zero, Nat.xor_eq_zero_iff]
  constructor
  · intro ⟨length, bytes⟩
    refine ext_getElem length fun index inside other => ?_
    have byte := bytes index (mem_range.mpr (lt_max_of_lt_left inside))
    rw [getD_eq_getElem _ _ inside, getD_eq_getElem _ _ other] at byte
    exact UInt8.toNat_inj.mp (by simpa using byte)
  · intro same
    simp [same]

structure Turn where
  call : RequestEnvelope
  now : Nat
  audit : AuditEvent → Bool

-- A panic ends the run.
def serve (credentials : Credentials) (state : ServerState) : List Turn → List P0Response × ServerState
  | [] => ([], state)
  | turn :: turns =>
    match handle credentials state turn.call turn.now turn.audit with
    | none => ([], state)
    | some (response, after) => (response :: (serve credentials after turns).1, (serve credentials after turns).2)

variable {credentials : Credentials} {state : ServerState} {call : RequestEnvelope} {now : Nat} {audit : AuditEvent → Bool} {op : Operation}

theorem stranger_confined (stranger : call.token ≠ some credentials.rootToken)
    (admitted : admission credentials state call now audit = .ok op) :
    allowedWhileSealed op = true := by
  unfold admission at admitted
  split at admitted
  · cases admitted
  · dsimp only at admitted
    split_ifs at admitted with _ _ _ denied
    cases admitted
    by_contra closed
    refine denied ⟨by simp [requiresAuthentication, closed], fun shown => stranger ?_⟩
    rcases given : call.token with _ | token <;> rw [given] at shown
    · cases shown
    · rw [(constant_time_eq_iff _ token).mp shown]

-- The operations a stranger reaches neither read nor write the secrets.
theorem stranger_blind (stranger : call.token ≠ some credentials.rootToken) (kv : ExtTreeMap Str Bytes) :
    handle credentials { state with kv } call now audit =
      (handle credentials state call now audit).map fun (response, after) => (response, { after with kv }) := by
  have same : admission credentials { state with kv } call now audit = admission credentials state call now audit := rfl
  unfold handle
  rw [same]
  split
  · rfl
  · rename_i op admitted
    have reached := stranger_confined stranger admitted
    cases op with
    | sysHealth => rfl
    | sysSealStatus => rfl
    | sysInit =>
      simp only [dispatch, initializeServer]
      split <;> rfl
    | sysUnseal =>
      rcases parsed : parseSecretField call.body "key" with _ | _ | key <;> simp [dispatch, unsealServer, parsed]
      · rfl
      · split <;> rfl
    | _ => cases reached

theorem serve_blind (turns : List Turn)
    (strangers : ∀ turn ∈ turns, turn.call.token ≠ some credentials.rootToken) (state : ServerState)
    (kv : ExtTreeMap Str Bytes) :
    serve credentials { state with kv } turns =
      ((serve credentials state turns).1, { (serve credentials state turns).2 with kv }) := by
  induction turns generalizing state with
  | nil => rfl
  | cons turn turns ih =>
    rw [serve, serve, stranger_blind (strangers turn mem_cons_self)]
    rcases handle credentials state turn.call turn.now turn.audit with _ | ⟨response, after⟩
    · rfl
    · dsimp only [Option.map_some]
      rw [ih fun other listed => strangers other (mem_cons_of_mem _ listed)]

/-- Only the stored token passes the comparison, and requests without it are answered
the same whatever the secrets are, and leave them as they are. -/
theorem secrets_need_root_token (credentials : Credentials) :
    (∀ candidate, constantTimeEq credentials.rootToken candidate = true ↔ credentials.rootToken = candidate) ∧
      ∀ turns, (∀ turn ∈ turns, turn.call.token ≠ some credentials.rootToken) → ∀ state kv,
        serve credentials { state with kv } turns =
          ((serve credentials state turns).1, { (serve credentials state turns).2 with kv }) :=
  ⟨constant_time_eq_iff _, fun turns strangers state kv => serve_blind turns strangers state kv⟩

def strangerRead : Turn := ⟨{ getSecret with token := none }, 5, fun _ => true⟩

theorem stranger_read_denied : (serve developer ready [strangerRead]).1.map (·.statusCode) = [403] ∧
    ∀ kv, (serve developer { ready with kv } [strangerRead]).1 = (serve developer ready [strangerRead]).1 :=
  ⟨by decide +kernel, fun kv => by rw [(secrets_need_root_token _).2 _ (by simp [strangerRead])]⟩

end HeptaBao.P0
