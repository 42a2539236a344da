import HeptaBao.Auth.TokenRuns
import HeptaBao.Auth.StandIn

namespace HeptaBao.Auth

open Wire Std Durable Exec

def callerToken (lib : Library) (state : AuthState) (req : Request) : Option Token :=
  if req.token = [] then none else (state.activeToken (hash lib req.token) req.now true).toOption

def NonRootCaller (lib : Library) (state : AuthState) (req : Request) : Prop :=
  (callerToken lib state req).all (fun token => !token.root) = true

instance (lib : Library) (state : AuthState) (req : Request) : Decidable (NonRootCaller lib state req) :=
  inferInstanceAs (Decidable (_ = true))

def Token.rootly (token : Token) : Prop := token.root = true ∨ str "root" ∈ token.policies

variable (before : AuthState)

-- Every set of policy names a namespace carries is part of one it carried.
def Within (after : AuthState) : Prop :=
  ∀ nspace holder record, after.held nspace holder = some record →
    ∃ source old, before.held nspace source = some old ∧ ∀ name ∈ record.policies, name ∈ old.policies

def RootsKept (after : AuthState) : Prop :=
  ∀ id token, after.lookup id = some token → token.rootly → ∃ old, before.lookup id = some old ∧ old.root = token.root ∧ old.policies = token.policies

variable (first second third : AuthState)

theorem within_trans (start : Within first second) (rest : Within second third) : Within first third := by
  intro nspace holder record found
  obtain ⟨middle, mid, foundMid, insideMid⟩ := rest nspace holder record found
  obtain ⟨source, old, foundOld, insideOld⟩ := start nspace middle mid foundMid
  exact ⟨source, old, foundOld, fun name member => insideOld name (insideMid name member)⟩

theorem roots_kept_trans (start : RootsKept first second) (rest : RootsKept second third) : RootsKept first third := by
  intro id token found rootly
  obtain ⟨middle, foundMid, sameRoot, samePolicies⟩ := rest id token found rootly
  have rootlyMid : middle.rootly := by rwa [Token.rootly, sameRoot, samePolicies]
  obtain ⟨old, foundOld, oldRoot, oldPolicies⟩ := start id middle foundMid rootlyMid
  exact ⟨old, foundOld, oldRoot.trans sameRoot, oldPolicies.trans samePolicies⟩

-- Both follow when each record was there before or carries no more than one that was.
structure Confined (before after : AuthState) : Prop where
  tokens : ∀ id token, after.lookup id = some token →
    (∃ old, before.lookup id = some old ∧ old.nspace = token.nspace ∧ old.root = token.root ∧ old.policies = token.policies) ∨
    (¬token.rootly ∧ ∃ source old, before.held token.nspace source = some old ∧ ∀ name ∈ token.policies, name ∈ old.policies)
  users : ∀ scope name user, after.user scope name = some user →
    ∃ source old, before.held scope.nspace source = some old ∧ ∀ name ∈ user.policies, name ∈ old.policies
  roles : ∀ scope name role, after.role scope name = some role →
    ∃ source old, before.held scope.nspace source = some old ∧ ∀ name ∈ role.policies, name ∈ old.policies
  jwtRoles : ∀ scope name role, after.jwtRole scope name = some role →
    ∃ source old, before.held scope.nspace source = some old ∧ ∀ name ∈ role.policies, name ∈ old.policies

theorem confined_within {before after : AuthState} (confined : Confined before after) : Within before after := by
  intro nspace holder record found
  cases holder with
  | token id =>
    simp only [AuthState.held, Option.map_eq_some_iff, Option.filter_eq_some_iff, beq_iff_eq] at found
    obtain ⟨token, ⟨stored, rfl⟩, rfl⟩ := found
    rcases confined.tokens id token stored with ⟨old, storedOld, sameNspace, _, samePolicies⟩ | ⟨_, covered⟩
    · refine ⟨.token id, .token old, ?_, fun name member => ?_⟩
      · simp [AuthState.held, storedOld, sameNspace]
      · rwa [Holding.policies, samePolicies]
    · exact covered
  | user mount name =>
    obtain ⟨user, stored, rfl⟩ := Option.map_eq_some_iff.mp found
    exact confined.users ⟨nspace, mount⟩ name user stored
  | role mount name =>
    obtain ⟨role, stored, rfl⟩ := Option.map_eq_some_iff.mp found
    exact confined.roles ⟨nspace, mount⟩ name role stored
  | jwtRole mount name =>
    obtain ⟨role, stored, rfl⟩ := Option.map_eq_some_iff.mp found
    exact confined.jwtRoles ⟨nspace, mount⟩ name role stored

theorem confined_roots {before after : AuthState} (confined : Confined before after) : RootsKept before after := by
  intro id token found rootly
  rcases confined.tokens id token found with ⟨old, stored, _, sameRoot, samePolicies⟩ | ⟨plain, _⟩
  · exact ⟨old, stored, sameRoot, samePolicies⟩
  · exact absurd rootly plain

variable {token : Token}

section

variable (state : AuthState)

theorem token_itself {id : Str} (found : state.lookup id = some token) :
    ∃ old, state.lookup id = some old ∧ old.nspace = token.nspace ∧ old.root = token.root ∧
      old.policies = token.policies :=
  ⟨token, found, rfl, rfl, rfl⟩

variable {scope : AuthScope} {name : Str}

theorem user_itself {user : User} (found : state.user scope name = some user) :
    ∃ source old, state.held scope.nspace source = some old ∧ ∀ policy ∈ user.policies, policy ∈ old.policies :=
  ⟨.user scope.mount name, .user user, by simp [AuthState.held, found], fun _ member => member⟩

theorem role_itself {role : Role} (found : state.role scope name = some role) :
    ∃ source old, state.held scope.nspace source = some old ∧ ∀ policy ∈ role.policies, policy ∈ old.policies :=
  ⟨.role scope.mount name, .role role, by simp [AuthState.held, found], fun _ member => member⟩

theorem jwt_role_itself {role : JwtRole} (found : state.jwtRole scope name = some role) :
    ∃ source old, state.held scope.nspace source = some old ∧ ∀ policy ∈ role.policies, policy ∈ old.policies :=
  ⟨.jwtRole scope.mount name, .jwtRole role, by simp [AuthState.held, found], fun _ member => member⟩

theorem confined_refl : Confined state state :=
  ⟨fun _ _ found => .inl (token_itself state found), fun _ _ _ => user_itself state, fun _ _ _ => role_itself state,
    fun _ _ _ => jwt_role_itself state⟩

end

def PlainCaller (state : AuthState) (who : Option Principal) : Prop :=
  ∀ actor, who = some actor → state.lookup actor.digest = some actor.token ∧ actor.token.root = false

variable {actor : Principal} {name : Str} {scope : AuthScope}

section

variable (lib : Library) (draws : Draws) (who : Option Principal) (nspace path : Str) (now : Nat) (state : AuthState)

variable {who nspace now state} in
theorem permitted_token (plain : PlainCaller state who) (permitted : Permitted state who nspace now actor)
    (checked : state.checkPrincipal actor nspace now = .ok token) : token = actor.token ∧ token.root = false ∧
      token.nspace = nspace := by
  obtain ⟨stored, unprivileged⟩ := plain actor permitted.1
  obtain ⟨active, _, placed⟩ := state.check_principal_ok actor nspace now token checked
  have found := ((state.active_token_ok actor.digest now false token).mp active).1
  obtain rfl : actor.token = token := Option.some.inj (stored.symm.trans found)
  refine ⟨rfl, unprivileged, ?_⟩
  rcases placed with root | same
  · rw [unprivileged] at root
    cases root
  · exact same

variable {who nspace now state} in
theorem permitted_held (plain : PlainCaller state who) (permitted : Permitted state who nspace now actor) :
    state.held nspace (.token actor.digest) = some (.token actor.token) := by
  obtain ⟨token, checked⟩ := permitted.2
  obtain ⟨rfl, _, placed⟩ := permitted_token plain permitted checked
  simp [AuthState.held, (plain actor permitted.1).1, placed]

variable {who nspace now state} in
theorem assigned_within {requested : Names} (plain : PlainCaller state who)
    (permitted : Permitted state who nspace now actor) (assigned : validateAssignment actor requested = .ok ()) :
    ∃ source old, state.held nspace source = some old ∧ ∀ name ∈ requested, name ∈ old.policies := by
  refine ⟨_, _, permitted_held plain permitted, ?_⟩
  rcases (validate_assignment_ok assigned).2 with root | inside
  · rw [(plain actor permitted.1).2] at root
    cases root
  · exact inside

theorem kept_confined (id : Str) (token changed : Token) (found : state.lookup id = some token)
    (sameNspace : token.nspace = changed.nspace) (sameRoot : token.root = changed.root)
    (samePolicies : token.policies = changed.policies) : Confined state (state.insertToken id changed) := by
  refine ⟨fun other stored looked => .inl ?_, fun _ _ _ => user_itself state, fun _ _ _ => role_itself state, fun _ _ _ => jwt_role_itself state⟩
  rw [state.insert_token_lookup] at looked
  by_cases same : id = other
  · subst same
    obtain rfl : changed = stored := by simpa using looked
    exact ⟨token, found, sameNspace, sameRoot, samePolicies⟩
  · rw [if_neg same] at looked
    exact token_itself state looked

theorem user_written_confined {mount : Str} {user : User} (plain : PlainCaller state who)
    (permitted : Permitted state who nspace now actor)
    (cause : UserCause lib draws actor (state.user ⟨nspace, mount⟩ name) user) :
    ∃ source old, state.held nspace source = some old ∧ ∀ policy ∈ user.policies, policy ∈ old.policies := by
  cases cause with
  | mfaRemoved _ found | mfaEnrolled _ _ found => exact user_itself state found
  | updated body _ made =>
    exact assigned_within plain permitted
      (updated_user_ok made).1

theorem role_written_confined {mount : Str} {role : Role} (plain : PlainCaller state who)
    (permitted : Permitted state who nspace now actor)
    (cause : RoleCause lib draws actor (state.role ⟨nspace, mount⟩ name) now role) :
    ∃ source old, state.held nspace source = some old ∧ ∀ policy ∈ role.policies, policy ∈ old.policies := by
  cases cause with
  | renamed _ _ found | secretAdded _ _ _ found | secretDestroyed _ _ found => exact role_itself state found
  | updated body _ made =>
    exact assigned_within plain permitted
      (updated_role_ok made).1

variable {lib draws now} in
theorem logged_in_plain {names : Names} {uses : Nat} (login : LoggedIn lib draws scope names uses now token) :
    ¬token.rootly := by
  rintro (root | member)
  · rw [login.root] at root
    cases root
  · exact login.plain member

theorem issuance_confined (plain : PlainCaller state who)
    (issuance : Issuance lib draws who nspace path now state token) :
    ¬token.rootly ∧ ∃ source old, state.held token.nspace source = some old ∧ ∀ name ∈ token.policies,
      name ∈ old.policies := by
  cases issuance with
  | created actor body parent noParent _ permitted created =>
    obtain ⟨rfl, unprivileged, placed⟩ := permitted_token plain permitted created.checked
    have inside := created.within.resolve_left (by simp [unprivileged])
    refine ⟨?_, ?_⟩
    · rintro (root | member)
      · exact inside.2 (created.root ▸ root : token.policies.contains (str "root") = true)
      · exact inside.2 member
    · rw [created.nspaced]
      exact ⟨_, _, permitted_held plain permitted, inside.1⟩
  | userLogin mount name body user counter _ login =>
    obtain ⟨issued, _⟩ := login_token_ok lib draws login.made
    refine ⟨logged_in_plain issued, ?_⟩
    rw [issued.nspaced, issued.policies]
    exact user_itself state login.found
  | roleLogin mount name secretId body old role _ login =>
    obtain ⟨issued, _⟩ := login_token_ok lib draws login.made
    obtain ⟨_, _, _, rfl⟩ := spent_role_ok lib login.spent
    refine ⟨logged_in_plain issued, ?_⟩
    rw [issued.nspaced, issued.policies]
    exact (role_itself state login.found :)
  | jwtLogin mount roleName jwt config role verified _ login =>
    obtain ⟨issued, _⟩ := jwt_token_ok lib draws login.bound login.made
    refine ⟨logged_in_plain issued, ?_⟩
    rw [issued.nspaced, issued.policies]
    exact jwt_role_itself state login.found

theorem change_jwt_role {after : AuthState} (change : Change lib draws who nspace path now state after)
    {role : JwtRole} (found : after.jwtRole scope name = some role) : state.jwtRole scope name = some role ∨
      (scope.nspace = nspace ∧ ∃ actor body,
      Permitted state who nspace now actor ∧ readJwtRole actor body = .ok role) := by
  cases change with
  | mountDisabled actor mount =>
    rw [AuthState.jwtRole, AuthState.disable_jwt] at found
    by_cases same : (⟨nspace, mount⟩ : AuthScope) = scope
    · simp [same] at found
    · exact .inl (by simpa [same, AuthState.jwtRole] using found)
  | jwtRoleWritten actor mount written body record permitted made =>
    rcases state.jwt_at_mut_role _ scope _ name role found with old | ⟨rfl, fresh⟩
    · exact .inl old
    · rw [JwtMountState.insertRole, lookup_insert] at fresh
      by_cases same : written = name
      · obtain rfl : record = role := by simpa [same] using fresh
        exact .inr ⟨rfl, actor, body, permitted, made⟩
      · rw [if_neg same, state.jwt_roles_getD] at fresh
        exact .inl fresh
  | jwtRoleRemoved actor mount removed =>
    exact .inl (state.jwt_roles_kept ⟨nspace, mount⟩ scope (·.removeRole removed) name role
      (fun _ _ kept => AuthState.erased_read _ kept) found)
  | jwtConfigured actor mount config =>
    exact .inl (state.jwt_roles_kept ⟨nspace, mount⟩ scope (·.withConfig config) name role (fun _ _ kept => kept) found)
  | jwtTouched mount => exact .inl (state.jwt_roles_kept ⟨nspace, mount⟩ scope id name role (fun _ _ kept => kept) found)
  | jwtLogin mount _ _ _ _ verified =>
    exact .inl (state.jwt_roles_kept ⟨nspace, mount⟩ scope (fun mount =>
      (mount.admitted (lib.encodeBase64 (replayFingerprint lib verified)) verified.expiresAt now).insertIdentity
        (hash lib (verified.issuer ++ 0 :: verified.subject)) (externalIdentity nspace verified now)) name role
      (fun _ _ kept => kept) found)
  | same | mountEnabled | mountMissing | policyWritten | tokenCreated | tidied | revoked | renewed => exact .inl found
  | policyRemoved | userWritten | userRemoved | userLogin | roleWritten | roleRemoved | rolesTidied | roleLogin =>
    exact .inl (by simpa [AuthState.jwtRole, AuthState.insertUser, AuthState.removeUser, AuthState.insertRole,
      AuthState.removeRole, AuthState.insertToken] using found)

variable {lib draws who nspace path now state} in
theorem change_confined {after : AuthState} (plain : PlainCaller state who)
    (change : Change lib draws who nspace path now state after) : Confined state after where
  tokens id token found := by
    rcases change_tokens change found with
      ⟨old, stored, evolves⟩ | ⟨_, _, _, issuance⟩
    · have same := evolves_same_issue evolves
      exact .inl ⟨old, stored, same.nspace.symm, same.root.symm, same.policies.symm⟩
    · exact .inr (issuance_confined lib draws who nspace path now state plain issuance)
  users scope name user found := by
    cases change_user change found with
    | kept _ stored => exact user_itself state stored
    | written actor _ permitted here routed cause =>
      subst here
      exact user_written_confined lib draws who _ now state plain permitted cause
    | loggedIn body old counter token here login =>
      have kept : (old.accept counter).policies = old.policies := by cases counter <;> rfl
      rw [kept]
      exact user_itself state login.found
  roles scope name role found := by
    cases change_role change found with
    | kept _ stored => exact role_itself state stored
    | written actor _ permitted here routed cause =>
      subst here
      exact role_written_confined lib draws who _ now state plain permitted cause
    | tidied old stored => exact (role_itself state stored :)
    | loggedIn secretId body old _ token here login =>
      obtain ⟨_, _, _, rfl⟩ := spent_role_ok lib login.spent
      exact (role_itself state login.found :)
  jwtRoles scope name role found := by
    rcases change_jwt_role lib draws who nspace path now state change found with stored | ⟨rfl, actor, body, permitted, made⟩
    · exact jwt_role_itself state stored
    · exact assigned_within plain permitted (read_jwt_role_ok actor body role made)

end

variable {lib : Library} {who : Option Principal}

theorem admitted_confined {state admitted : AuthState} {req : Request}
    (entered : Admitted lib state req who admitted) : Confined state admitted := by
  cases entered with
  | anonymous => exact confined_refl state
  | authenticated token _ active =>
    exact kept_confined state _ token _ ((state.active_token_ok _ _ true token).mp active).1 rfl rfl rfl

theorem admitted_plain {state admitted : AuthState} {req : Request}
    (caller : NonRootCaller lib state req) (entered : Admitted lib state req who admitted) :
      PlainCaller admitted who := by
  intro actor same
  cases entered with
  | anonymous => cases same
  | authenticated token presented active =>
    cases same
    have unprivileged : token.root = false := by
      simpa [NonRootCaller, callerToken, presented, active, Except.toOption] using caller
    exact ⟨by simp [state.insert_token_lookup], unprivileged⟩

theorem step_confined {state : AuthState} {req : Request} (caller : NonRootCaller lib state req) :
    Within state (step lib state req) ∧ RootsKept state (step lib state req) := by
  rcases serve_ends lib state req with ⟨_, same⟩ | ⟨who, admitted, entered, _, change⟩
  · rw [same]
    exact ⟨confined_within (confined_refl state), confined_roots (confined_refl state)⟩
  · have first := admitted_confined entered
    have second := change_confined
      (admitted_plain caller entered) change
    exact ⟨within_trans _ _ _ (confined_within first) (confined_within second), roots_kept_trans _ _ _ (confined_roots first) (confined_roots second)⟩

/-- Without a root caller no record gets policies that no earlier record of its namespace held. -/
theorem policies_never_escalate (lib : Library) (start : AuthState) (requests : List Request)
    (callers : Along (step lib) (NonRootCaller lib) start requests) :
    (∀ nspace holder record, (run (step lib) start requests).held nspace holder = some record →
      start.held nspace holder ≠ some record →
      ∃ source old, start.held nspace source = some old ∧ ∀ name ∈ record.policies, name ∈ old.policies) ∧
    ∀ id token, (run (step lib) start requests).lookup id = some token →
      (token.root = true ∨ str "root" ∈ token.policies) →
      ∃ old, start.lookup id = some old ∧ old.root = token.root ∧ old.policies = token.policies := by
  have kept : Within start (run (step lib) start requests) ∧ RootsKept start (run (step lib) start requests) := by
    refine @run_invariant _ _ (step lib) (NonRootCaller lib) (fun state => Within start state ∧ RootsKept start state) ?_ start
      requests ⟨confined_within (confined_refl start), confined_roots (confined_refl start)⟩ callers
    rintro state req caller ⟨within, roots⟩
    obtain ⟨next, nextRoots⟩ := step_confined caller
    exact ⟨within_trans _ _ _ within next, roots_kept_trans _ _ _ roots nextRoots⟩
  exact ⟨fun nspace holder record found _ => kept.1 nspace holder record found, kept.2⟩

theorem delegated_token_confined : ((run (step plainLibrary) delegatingState [delegation]).lookup (idOf 9)).isSome =
    true ∧
    ∀ nspace holder record, (run (step plainLibrary) delegatingState [delegation]).held nspace holder = some record →
      delegatingState.held nspace holder ≠ some record →
      ∃ source old, delegatingState.held nspace source = some old ∧ ∀ name ∈ record.policies, name ∈ old.policies :=
  ⟨by decide +kernel, (policies_never_escalate plainLibrary delegatingState [delegation] ⟨by decide +kernel, trivial⟩).1⟩

end HeptaBao.Auth
