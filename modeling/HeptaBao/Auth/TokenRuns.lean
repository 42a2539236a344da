import HeptaBao.Auth.Holdings
import HeptaBao.Auth.StandIn
import HeptaBao.Exec.Runs

namespace HeptaBao.Auth

open Wire Std Durable Exec Forest List

-- What a stored token can turn into under its identifier at a time.
inductive Evolves (now : Nat) (token : Token) : Token → Prop where
  | kept : Evolves now token token
  | spent (usable : token.usable now = true) : Evolves now token token.spend
  | renewed (expiresAt : Nat) (fresh : token.expired now = false) (later : now < expiresAt)
      (capped : ∀ maximum, token.maxExpiresAt = some maximum → expiresAt ≤ maximum) : Evolves now token (token.renewed expiresAt)

-- A token as it was when issued, whatever was spent or renewed since.
structure SameIssue (first later : Token) : Prop where
  accessor : later.accessor = first.accessor
  nspace : later.nspace = first.nspace
  policies : later.policies = first.policies
  root : later.root = first.root
  parent : later.parent = first.parent
  maxExpiresAt : later.maxExpiresAt = first.maxExpiresAt
  authMount : later.authMount = first.authMount
  known : later.authOriginKnown = first.authOriginKnown

variable {token later : Token}

theorem SameIssue.trans {first next last : Token} (start : SameIssue first next) (rest : SameIssue next last) :
    SameIssue first last := by
  cases start; cases rest
  constructor <;> simp_all

theorem evolves_same_issue {now : Nat} (evolves : Evolves now token later) : SameIssue token later := by
  cases evolves <;> exact ⟨rfl, rfl, rfl, rfl, rfl, rfl, rfl, rfl⟩

inductive Issuance (lib : Library) (draws : Draws) (who : Option Principal) (nspace path : Str) (now : Nat)
    (state : AuthState) : Token → Prop where
  | created (actor : Principal) (body : Value) (parent : Token) (noParent : Bool) (token : Token)
      (permitted : Permitted state who nspace now actor)
      (created : Created lib draws state actor nspace body now parent noParent token) (asked : createAt state nspace path = true) :
      Issuance lib draws who nspace path now state token
  | userLogin (mount name : Str) (body : Value) (user : User) (counter : Option Nat) (token : Token)
      (login : UserLogin lib draws state ⟨nspace, mount⟩ name body now user counter token)
      (asked : loginAt state nspace path = some (⟨nspace, mount⟩, .userpass name)) :
      Issuance lib draws who nspace path now state token
  | roleLogin (mount name secretId : Str) (body : Value) (old role : Role) (token : Token)
      (login : RoleLogin lib draws state ⟨nspace, mount⟩ name secretId body now old role token)
      (asked : loginAt state nspace path = some (⟨nspace, mount⟩, .approle)) :
      Issuance lib draws who nspace path now state token
  | jwtLogin (mount roleName jwt : Str) (config : JwtConfig) (role : JwtRole) (verified : VerifiedPrincipal) (token : Token)
      (login : JwtLogin lib draws state ⟨nspace, mount⟩ roleName jwt now config role verified token)
      (asked : loginAt state nspace path = some (⟨nspace, mount⟩, .jwt)) :
      Issuance lib draws who nspace path now state token

section

variable (lib : Library) (draws : Draws) (who : Option Principal) (nspace path : Str) (now : Nat) (state : AuthState)

theorem insert_token_cases {id other : Str} {stored : Token}
    (found : (state.insertToken id token).lookup other = some stored) :
    (id = other ∧ stored = token) ∨ (id ≠ other ∧ state.lookup other = some stored) := by
  rw [state.insert_token_lookup] at found
  by_cases same : id = other
  · exact .inl ⟨same, by simpa [same] using found.symm⟩
  · exact .inr ⟨same, by simpa [same] using found⟩

variable {lib draws who nspace path now state} in
theorem change_tokens {after : AuthState} (change : Change lib draws who nspace path now state after) {id : Str}
    (found : after.lookup id = some later) : (∃ token, state.lookup id = some token ∧ Evolves now token later) ∨
      ∃ raw, rawToken lib draws = .ok raw ∧ id = hash lib raw ∧ Issuance lib draws who nspace path now state later := by
  have unchanged : state.lookup id = some later → (∃ token, state.lookup id = some token ∧ Evolves now token later) ∨
      ∃ raw, rawToken lib draws = .ok raw ∧ id = hash lib raw ∧
        Issuance lib draws who nspace path now state later := fun kept => .inl ⟨later, kept, .kept⟩
  cases change with
  | same | mountEnabled | mountMissing | policyWritten | jwtConfigured | jwtRoleWritten | jwtRoleRemoved | jwtTouched => exact unchanged found
  | mountDisabled =>
    exact unchanged (AuthState.disable_lookup (state.withMounts nspace _) _ id later found)
  | policyRemoved | rolesTidied => exact unchanged (by simpa [AuthState.lookup] using found)
  | tokenCreated actor body parent noParent raw _ permitted created drawn asked =>
    rcases insert_token_cases state found with ⟨same, rfl⟩ | ⟨_, kept⟩
    · exact .inr ⟨raw, drawn, same.symm, .created actor body parent noParent later permitted created asked⟩
    · exact unchanged kept
  | tidied => exact unchanged ((state.tidied_lookup nspace now id later).mp found).1
  | revoked _ target => exact unchanged (state.revoke_kept target id later found)
  | renewed _ target token limit increment expiresAt _ _ active _ granted =>
    rcases insert_token_cases state found with ⟨rfl, rfl⟩ | ⟨_, kept⟩
    · obtain ⟨stored, fresh, _, _⟩ := (state.active_token_ok target now false token).mp active
      obtain ⟨later, capped, _⟩ := renewal_ok granted
      exact .inl ⟨token, stored, .renewed expiresAt fresh later capped⟩
    · exact unchanged kept
  | userWritten =>
    exact unchanged (by simpa [AuthState.lookup, AuthState.insertUser] using found)
  | userRemoved => exact unchanged (by simpa [AuthState.lookup, AuthState.removeUser] using found)
  | userLogin mount name body user counter raw _ login drawn asked =>
    rcases insert_token_cases _ found with ⟨same, rfl⟩ | ⟨_, kept⟩
    · exact .inr ⟨raw, drawn, same.symm, .userLogin mount name body user counter later login asked⟩
    · exact unchanged (by simpa [AuthState.lookup, AuthState.insertUser] using kept)
  | roleWritten =>
    exact unchanged (by simpa [AuthState.lookup, AuthState.insertRole] using found)
  | roleRemoved => exact unchanged (by simpa [AuthState.lookup, AuthState.removeRole] using found)
  | roleLogin mount name secretId body old role raw token login drawn asked =>
    have issued : (state.insertToken (hash lib raw) token).lookup id = some later := by
      simpa [AuthState.lookup, AuthState.insertRole] using found
    rcases insert_token_cases state issued with ⟨same, rfl⟩ | ⟨_, kept⟩
    · exact .inr ⟨raw, drawn, same.symm, .roleLogin mount name secretId body old role later login asked⟩
    · exact unchanged kept
  | jwtLogin mount roleName jwt config role verified raw _ login drawn asked =>
    rcases insert_token_cases _ found with ⟨same, rfl⟩ | ⟨_, kept⟩
    · exact .inr ⟨raw, drawn, same.symm, .jwtLogin mount roleName jwt config role verified later login asked⟩
    · exact unchanged kept

end

variable {lib : Library} {state : AuthState}

theorem admitted_tokens {admitted : AuthState} {req : Request} {who : Option Principal}
    (entered : Admitted lib state req who admitted) {id : Str}
    (found : admitted.lookup id = some later) : ∃ token, state.lookup id = some token ∧
      Evolves req.now token later := by
  cases entered with
  | anonymous => exact ⟨later, found, .kept⟩
  | authenticated token _ active =>
    rcases insert_token_cases state found with ⟨rfl, rfl⟩ | ⟨_, kept⟩
    · obtain ⟨stored, fresh, unspent, _⟩ := (state.active_token_ok _ _ true token).mp active
      exact ⟨token, stored, .spent (by simp [Token.usable, fresh, unspent rfl])⟩
    · exact ⟨later, kept, .kept⟩

def drawnId (lib : Library) (req : Request) : Option Str :=
  (rawToken lib req.draws).toOption.map (hash lib)

theorem step_tokens {req : Request} {id : Str} (found : (step lib state req).lookup id = some later) :
    (∃ token middle, state.lookup id = some token ∧ Evolves req.now token middle ∧ Evolves req.now middle later) ∨
      (drawnId lib req = some id ∧ ∃ who admitted, Admitted lib state req who admitted ∧
        Issuance lib req.draws who req.nspace req.path req.now admitted later) := by
  rcases serve_ends lib state req with ⟨_, same⟩ | ⟨who, admitted, entered, _, change⟩
  · rw [same] at found
    exact .inl ⟨later, later, found, .kept, .kept⟩
  · rcases change_tokens change found with ⟨middle, stored, second⟩ | ⟨raw, drawn, rfl, issued⟩
    · obtain ⟨token, original, first⟩ := admitted_tokens entered stored
      exact .inl ⟨token, middle, original, first, second⟩
    · exact .inr ⟨by simp [drawnId, drawn, Except.toOption], who, admitted, entered, issued⟩

-- Every identifier the state stores or points at is one of the known ones.
def Known (known : Str → Prop) (state : AuthState) : Prop :=
  ∀ id token, state.lookup id = some token → known id ∧ ∀ above, token.parent = some above → known above

def withDrawn (lib : Library) (known : Str → Prop) (req : Request) (id : Str) : Prop :=
  known id ∨ drawnId lib req = some id

-- No request draws an identifier that is known when it is served.
def FreshAlong (lib : Library) : (Str → Prop) → List Request → Prop
  | _, [] => True
  | known, req :: rest =>
    (∀ id, drawnId lib req = some id → ¬known id) ∧ FreshAlong lib (withDrawn lib known req) rest

def afterDraws (lib : Library) : (Str → Prop) → List Request → Str → Prop
  | known, [] => known
  | known, req :: rest => afterDraws lib (withDrawn lib known req) rest

theorem fresh_along_append (lib : Library) (known : Str → Prop) (first second : List Request) :
    FreshAlong lib known (first ++ second) ↔
      FreshAlong lib known first ∧ FreshAlong lib (afterDraws lib known first) second := by
  induction first generalizing known with
  | nil => simp [FreshAlong, afterDraws]
  | cons _ _ ih => simp only [cons_append, FreshAlong, afterDraws, ih, and_assoc]

variable {requests : List Request}

theorem fresh_run_invariant {γ : Type} {grow : AuthState → Request → γ → γ}
    {invariant : (Str → Prop) → γ → AuthState → Prop}
    (preserves : ∀ known ghost state req, (∀ id, drawnId lib req = some id → ¬known id) → invariant known ghost state →
      invariant (withDrawn lib known req) (grow state req ghost) (step lib state req))
    (known : Str → Prop) (ghost : γ) (state : AuthState) (holds : invariant known ghost state)
    (fresh : FreshAlong lib known requests) :
    invariant (afterDraws lib known requests) (history (step lib) grow state ghost requests)
    (run (step lib) state requests) := by
  induction requests generalizing known ghost state with
  | nil => exact holds
  | cons req _ ih => exact ih _ _ _ (preserves known ghost state req fresh.1 holds) fresh.2

theorem fresh_of_nodup (known : List Str) (distinct : (known ++ requests.filterMap (drawnId lib)).Nodup) :
    FreshAlong lib (· ∈ known) requests := by
  induction requests generalizing known with
  | nil => trivial
  | cons req _ ih =>
    rw [filterMap_cons] at distinct
    cases drawn : drawnId lib req with
    | none =>
      simp only [drawn] at distinct
      refine ⟨by simp [drawn], ?_⟩
      have same : withDrawn lib (· ∈ known) req = (· ∈ known) := by
        funext id
        simp [withDrawn, drawn]
      rw [same]
      exact ih known distinct
    | some id =>
      simp only [drawn] at distinct
      refine ⟨fun other same member => ?_, ?_⟩
      · obtain rfl : id = other := by simpa [drawn] using same
        exact (nodup_append.mp distinct).2.2 id member id (mem_cons_self) rfl
      · have same : withDrawn lib (· ∈ known) req = (· ∈ known ++ [id]) := by
          funext other
          simp [withDrawn, drawn, eq_comm]
        rw [same]
        exact ih (known ++ [id]) (by simpa using distinct)

theorem issuance_parent {draws : Draws} {who : Option Principal} {nspace path : Str} {now : Nat}
    (issued : Issuance lib draws who nspace path now state token) {above : Str} (points : token.parent = some above) :
    ∃ actor parent, who = some actor ∧ above = actor.digest ∧ state.checkPrincipal actor nspace now = .ok parent := by
  cases issued with
  | created actor _ parent noParent _ permitted created =>
    refine ⟨actor, parent, permitted.1, ?_, created.checked⟩
    rw [created.under] at points
    cases noParent with
    | true => cases points
    | false => exact (Option.some.inj points).symm
  | userLogin _ _ _ _ _ _ login | roleLogin _ _ _ _ _ _ _ login =>
    have orphan := (login_token_ok lib draws login.made).1.orphan
    rw [orphan] at points
    cases points
  | jwtLogin _ _ _ _ _ _ _ login =>
    have orphan := (jwt_token_ok lib draws login.bound login.made).1.orphan
    rw [orphan] at points
    cases points

theorem step_known (lib : Library) {known : Str → Prop} (req : Request) (holds : Known known state) :
    Known (withDrawn lib known req) (step lib state req) := by
  intro id later found
  rcases step_tokens found with ⟨token, middle, stored, first, second⟩ | ⟨drawn, who, admitted, entered, issued⟩
  · obtain ⟨here, above⟩ := holds id token stored
    refine ⟨.inl here, fun next points => .inl (above next ?_)⟩
    rw [← (evolves_same_issue first).parent, ← (evolves_same_issue second).parent]
    exact points
  · refine ⟨.inr drawn, fun above points => .inl ?_⟩
    obtain ⟨actor, parent, _, rfl, checked⟩ := issuance_parent issued points
    have active := (admitted.check_principal_ok actor _ _ parent checked).1
    have stored := ((admitted.active_token_ok _ _ _ parent).mp active).1
    obtain ⟨token, original, _⟩ := admitted_tokens entered stored
    exact (holds _ token original).1

theorem run_known (lib : Library) (known : Str → Prop) (state : AuthState) (requests : List Request)
    (holds : Known known state) :
    Known (afterDraws lib known requests) (run (step lib) state requests) := by
  induction requests generalizing known state with
  | nil => exact holds
  | cons req _ ih => exact ih _ _ (step_known lib req holds)

theorem bootstrap_known {draws : Draws} {now : Nat} {start : AuthState} {raw : Str}
    (booted : bootstrap lib draws now = .ok (start, raw)) : Known (· ∈ [hash lib raw]) start := by
  obtain ⟨accessor, _, booted⟩ := bind_ok booted
  obtain ⟨_, _, booted⟩ := bind_ok booted
  cases booted
  intro id token found
  rw [AuthState.lookup, lookup_insert] at found
  by_cases same : hash lib raw = id
  · obtain rfl : rootToken accessor now = token := by simpa [same] using found
    exact ⟨by simp [same], fun above points => by cases points⟩
  · simp [same] at found

/-- Under an identifier that is not drawn again a token keeps what it was issued with, or is gone for good. -/
theorem token_issue_final (lib : Library) (start : AuthState) (requests : List Request) (id : Str)
    (fresh : ∀ req ∈ requests, drawnId lib req ≠ some id) (later : Token)
    (found : (run (step lib) start requests).lookup id = some later) :
    ∃ token, start.lookup id = some token ∧ SameIssue token later := by
  refine @run_invariant _ _ (step lib) (fun _ req => drawnId lib req ≠ some id)
    (fun state => ∀ later, state.lookup id = some later → ∃ token, start.lookup id = some token ∧ SameIssue token later) ?_ start requests
    (fun later found => ⟨later, found, ⟨rfl, rfl, rfl, rfl, rfl, rfl, rfl, rfl⟩⟩) (along_all _ _ _ _ fresh) later found
  intro state req other kept later found
  rcases step_tokens found with ⟨token, middle, stored, first, second⟩ | ⟨drawn, _⟩
  · obtain ⟨issued, listed, same⟩ := kept token stored
    have spent := same.trans (evolves_same_issue first)
    exact ⟨issued, listed, spent.trans (evolves_same_issue second)⟩
  · exact absurd drawn other

def delegatingState : AuthState := stateWith 7 (serviceToken ["default", "dev"]) "auth/token/create" ["update"]

def delegation : Request :=
  requestBy 7 "POST" "auth/token/create" [("policies", .array [.string (str "default")])] 100 (drawn 8 9)

theorem caller_issue_final : ((run (step plainLibrary) delegatingState [delegation]).lookup (idOf 7)).isSome = true ∧
    ∀ later, (run (step plainLibrary) delegatingState [delegation]).lookup (idOf 7) = some later →
      ∃ token, delegatingState.lookup (idOf 7) = some token ∧ SameIssue token later :=
  ⟨by decide +kernel, token_issue_final plainLibrary delegatingState [delegation] (idOf 7) (by decide +kernel)⟩

end HeptaBao.Auth
