import HeptaBao.Auth.Change

namespace HeptaBao.Auth

open Wire Std Durable Exec Action List ExtTreeMap

variable {mount suffix : Str}

theorem find_mount_member (mounts : Table AuthMount) {authPath : Str} {entry : AuthMount}
    (found : findMount mounts authPath = some (mount, entry, suffix)) : mounts[mount]? = some entry ∧
      authPath = mount ++ str "/" ++ suffix := by
  obtain ⟨⟨_, _⟩, listed, stripped⟩ := exists_of_findSome?_eq_some found
  obtain ⟨_, cut, same⟩ := Option.map_eq_some_iff.mp stripped
  cases same
  exact ⟨mem_toList_iff_getElem?_eq_some.mp listed, strip_prefix_some cut⟩

variable {state : AuthState} {nspace path : Str}

theorem mount_at_path {entry : AuthMount} (found : mountAt state nspace path = some (mount, entry, suffix)) :
    (state.effectiveAuthMounts nspace)[mount]? = some entry ∧ path = str "auth/" ++ (mount ++ str "/" ++ suffix) := by
  obtain ⟨authPath, stripped, listed⟩ := Option.bind_eq_some_iff.mp found
  obtain ⟨stored, rfl⟩ := find_mount_member _ listed
  exact ⟨stored, strip_prefix_some stripped⟩

theorem mount_at_member {entry : AuthMount}
    (found : mountAt state nspace path = some (mount, entry, suffix)) : mount ∈ state.effectiveAuthMounts nspace := by
  rw [mem_iff_isSome_getElem?, (mount_at_path found).1]
  rfl

variable {scope : AuthScope}

theorem login_at_cases {login : Login} (asked : loginAt state nspace path = some (scope, login)) :
    ∃ entry suffix, mountAt state nspace path = some (scope.mount, entry, suffix) ∧ scope.nspace = nspace ∧
      ((entry.kind = str "userpass" ∧ (str "login/").isPrefixOf suffix = true ∧ login = .userpass (suffix.drop 6)) ∨
        (entry.kind = str "approle" ∧ suffix = str "login" ∧ login = .approle) ∨
          (entry.kind = str "jwt" ∧ suffix = str "login" ∧ login = .jwt)) := by
  obtain ⟨⟨mount, entry, suffix⟩, found, kinds⟩ := Option.bind_eq_some_iff.mp asked
  dsimp only at kinds
  split at kinds
  · rename_i userpass
    cases kinds
    exact ⟨entry, suffix, found, rfl, .inl ⟨userpass.1, userpass.2, rfl⟩⟩
  · split at kinds
    · rename_i approle
      cases kinds
      exact ⟨entry, suffix, found, rfl, .inr (.inl ⟨approle.1, approle.2, rfl⟩)⟩
    · split at kinds
      · rename_i jwt
        cases kinds
        exact ⟨entry, suffix, found, rfl, .inr (.inr ⟨jwt.1, jwt.2, rfl⟩)⟩
      · cases kinds

section

variable (lib : Library) (draws : Draws) (who : Option Principal) (nspace path : Str) (now : Nat) (state : AuthState)

theorem issue_ends (token : Token) : Ends (issue lib draws token now) state fun res reached =>
      (∃ flaw, res = .error flaw ∧ reached = state) ∨ ∃ raw answer, res = .ok answer ∧ rawToken lib draws = .ok raw ∧
        reached = state.insertToken (hash lib raw) token := by
  refine ends_lift_cases (fun flaw _ => .inl ⟨flaw, rfl, rfl⟩) fun prepared made => ?_
  cases drawn : rawToken lib draws with
  | error => simp [prepareIssue, drawn, Except.map] at made
  | ok raw =>
    simp only [prepareIssue, drawn, Except.map, Except.ok.injEq] at made
    subst made
    exact .inr ⟨raw, _, rfl, rfl, rfl⟩

variable (actor : Principal)

theorem create_token_ends (path : Str) (body : Value) (forceOrphan : Bool) :
    Ends (createToken lib draws actor nspace path body now forceOrphan) state fun res reached =>
      (∃ flaw, res = .error flaw ∧ reached = state) ∨
      ∃ parent noParent raw token answer, res = .ok answer ∧ rawToken lib draws = .ok raw ∧
        Created lib draws state actor nspace body now parent noParent token ∧
        (forceOrphan = true → noParent = true) ∧ (forceOrphan = false → boolean body "no_parent" false = .ok noParent) ∧
        reached = state.insertToken (hash lib raw) token := by
  refine ends_lift_cases (fun flaw _ => .inl ⟨flaw, rfl, rfl⟩) fun _ _ => ?_
  refine ends_refuse (fun _ => .inl ⟨_, rfl, rfl⟩) fun _ => ?_
  refine ends_query (fun flaw _ => .inl ⟨flaw, rfl, rfl⟩) fun parent checked => ?_
  refine ends_refuse (fun _ => .inl ⟨_, rfl, rfl⟩) fun unlimited => ?_
  refine ends_lift_cases (fun flaw _ => .inl ⟨flaw, rfl, rfl⟩) fun noDefault without => ?_
  refine ends_lift_cases (fun flaw _ => .inl ⟨flaw, rfl, rfl⟩) fun requested named => ?_
  refine ends_refuse (fun _ => .inl ⟨_, rfl, rfl⟩) fun within => ?_
  refine ends_refuse (fun _ => .inl ⟨_, rfl, rfl⟩) fun exclusive => ?_
  refine ends_lift_cases (fun flaw _ => .inl ⟨flaw, rfl, rfl⟩) fun noParent orphan => ?_
  refine ends_lift_cases (fun flaw _ => .inl ⟨flaw, rfl, rfl⟩) fun period asked => ?_
  refine ends_query (fun flaw _ => .inl ⟨flaw, rfl, rfl⟩) fun _ _ => ?_
  refine ends_refuse (fun _ => .inl ⟨_, rfl, rfl⟩) fun _ => ?_
  refine ends_lift_cases (fun flaw _ => .inl ⟨flaw, rfl, rfl⟩) fun times timed => ?_
  refine ends_lift_cases (fun flaw _ => .inl ⟨flaw, rfl, rfl⟩) fun name _ => ?_
  refine ends_refuse (fun _ => .inl ⟨_, rfl, rfl⟩) fun _ => ?_
  refine ends_lift_cases (fun flaw _ => .inl ⟨flaw, rfl, rfl⟩) fun accessor drawn => ?_
  refine ends_lift_cases (fun flaw _ => .inl ⟨flaw, rfl, rfl⟩) fun renewable _ => ?_
  refine ends_lift_cases (fun flaw _ => .inl ⟨flaw, rfl, rfl⟩) fun uses counted => ?_
  refine ends_weaken (issue_ends lib draws now state _) fun res reached ended => ?_
  rcases ended with failed | ⟨raw, answer, answered, drawnRaw, rfl⟩
  · exact .inl failed
  · refine .inr ⟨parent, noParent, raw, _, answer, answered, drawnRaw, ?_, ?_, ?_, rfl⟩
    · refine ⟨checked, by simpa using unlimited, ?_, ⟨noDefault, without, named⟩, rfl, ?_, rfl, rfl, ⟨period, times, timed, asked, rfl, rfl, rfl⟩,
        rfl, rfl, drawn, ⟨uses, counted, rfl⟩⟩
      · cases isRoot : parent.root with
        | true => exact .inl rfl
        | false =>
          simp only [isRoot, true_and, not_or, Bool.not_eq_false] at within
          exact .inr ⟨(is_subset_iff _ _).mp within.1, within.2⟩
      · intro isRoot
        by_contra inside
        exact exclusive ⟨isRoot, .inr inside⟩
    · intro forced
      simpa [forced] using orphan.symm
    · intro free
      simpa [free] using orphan

theorem target_token_ok {body : Value} {accessor : Bool} {id : Str}
    (targeted : AuthState.targetToken lib state nspace body accessor = .ok id) :
    ∃ token, state.lookup id = some token ∧ token.nspace = nspace := by
  unfold AuthState.targetToken at targeted
  cases named : AuthState.targetId lib state nspace body accessor with
  | error => simp [named, bind, Except.bind] at targeted
  | ok candidate =>
    simp only [named, bind, Except.bind] at targeted
    by_cases outside : (state.lookup candidate).all (fun token => token.nspace != nspace) = true
    · simp [outside] at targeted
    · simp only [outside] at targeted
      obtain rfl : candidate = id := by simpa using targeted
      cases found : state.lookup candidate with
      | none => simp [found] at outside
      | some token => exact ⟨token, rfl, by simpa [found] using outside⟩

theorem renew_target_ends (op : Str) (body : Value) : Ends (renewTarget lib actor nspace op body) state fun res
    reached =>
      reached = state ∧ ∀ id, res = .ok id → id = actor.digest ∨ ∃ stored, state.lookup id = some stored ∧
        stored.nspace = nspace := by
  unfold renewTarget
  split
  · refine ends_lift_cases (fun _ _ => ⟨rfl, nofun⟩) fun _ _ => ⟨rfl, fun id same => ?_⟩
    exact .inl (Except.ok.inj same).symm
  · refine ends_lift_cases (fun _ _ => ⟨rfl, nofun⟩) fun _ _ => ⟨rfl, fun id same => ?_⟩
    exact .inr (target_token_ok lib nspace state same)

variable (method : Str)

theorem token_route_changes (path : Str) (body : Value)
    (asked : ∀ op, path = str "auth/token/" ++ op → op = str "create" ∨ op = str "create-orphan" →
      createAt state nspace path = true) :
    Changes lib draws who nspace path now state (tokenRoute lib draws who nspace method path body now) := by
  refine changes_lift fun op named => ?_
  refine changes_refuse fun _ => ?_
  refine changes_query fun actor granted => ?_
  have permitted := permitted_of granted
  split
  · rename_i create
    refine ends_weaken (create_token_ends lib draws nspace now state actor path body _) fun res reached ended => ?_
    rcases ended with ⟨_, _, rfl⟩ | ⟨parent, noParent, raw, token, _, _, drawn, created, _, _, rfl⟩
    · exact .same
    · refine .tokenCreated actor body parent noParent raw token permitted created drawn (asked op ?_ create)
      split at named
      · rename_i stripped
        rw [← Except.ok.inj named]
        exact strip_prefix_some stripped
      · cases named
  split
  · refine changes_lift fun _ _ => ?_
    refine changes_query fun _ _ => changes_pure
  split
  · refine changes_lift fun _ _ => ?_
    refine changes_query fun _ _ => ?_
    refine changes_query fun _ _ => changes_pure
  split
  · refine changes_query fun _ _ => ?_
    refine changes_query fun _ _ => changes_pure
  split
  · refine changes_lift fun _ _ => ?_
    refine changes_query fun _ _ => ?_
    refine changes_query fun _ _ => ?_
    exact ends_modify (.tidied actor permitted)
  split
  · refine changes_lift fun _ _ => ?_
    exact ends_modify (.revoked actor actor.digest permitted (.inl rfl))
  split
  · refine changes_lift fun _ _ => ?_
    refine changes_query fun id targeted => ?_
    exact ends_modify (.revoked actor id permitted (.inr (target_token_ok lib nspace state targeted)))
  split
  · refine ends_bind _ (renew_target_ends lib nspace state actor op body) ?_ ?_
    · rintro flaw reached ⟨rfl, _⟩
      exact .same
    · rintro id reached ⟨rfl, target⟩
      refine changes_query fun token active => ?_
      refine changes_query fun limit limited => ?_
      refine changes_lift fun increment _ => ?_
      refine changes_lift fun expiresAt granted => ?_
      exact ends_modify (.renewed actor id token limit increment expiresAt permitted (target id rfl) active limited granted)
  · exact changes_fail

theorem policy_route_changes (path : Str) (body : Value) :
    Changes lib draws who nspace path now state (policyRoute lib who nspace method path body now) := by
  refine changes_lift fun suffix _ => ?_
  refine changes_lift fun power _ => ?_
  refine changes_query fun actor granted => ?_
  have permitted := permitted_of granted
  split
  · refine changes_refuse fun _ => ?_
    refine changes_query fun _ _ => changes_pure
  refine changes_refuse fun _ => ?_
  refine changes_refuse fun _ => ?_
  split
  · refine changes_query fun _ _ => changes_pure
  refine changes_query fun _ _ => ?_
  split
  · refine changes_refuse fun _ => ?_
    exact ends_modify (.policyRemoved actor _ permitted)
  · refine changes_refuse fun _ => ?_
    refine changes_lift fun _ _ => ?_
    refine changes_lift fun _ _ => ?_
    refine changes_lift fun policy _ => ?_
    exact ends_modify (.policyWritten actor _ policy permitted)

theorem user_mfa_route_changes (mount path power name : Str) (user : User) (body : Value)
    (routed : mount ∈ state.effectiveAuthMounts nspace) (permitted : Permitted state who nspace now actor)
    (found : state.user ⟨nspace, mount⟩ name = some user) :
    Changes lib draws who nspace path now state
      (userMfaRoute draws actor ⟨nspace, mount⟩ path power name user body now) := by
  unfold userMfaRoute
  split
  · refine changes_lift fun _ _ => ?_
    refine changes_lift fun _ _ => changes_pure
  split
  · refine changes_lift fun _ _ => ?_
    refine changes_query fun _ _ => ?_
    exact ends_modify (.userWritten actor mount name _ permitted (.mfaRemoved user found) routed)
  split
  · refine changes_lift fun _ _ => ?_
    refine changes_query fun _ _ => ?_
    refine changes_lift fun _ _ => ?_
    refine changes_refuse fun _ => ?_
    refine changes_lift fun secret _ => ?_
    exact ends_modify (.userWritten actor mount name _ permitted (.mfaEnrolled user secret found) routed)
  · exact changes_fail

theorem user_route_changes (mount method path : Str) (body : Value)
    (routed : mount ∈ state.effectiveAuthMounts nspace) :
    Changes lib draws who nspace path now state (userRoute lib draws who ⟨nspace, mount⟩ method path body now) := by
  refine changes_lift fun rest _ => ?_
  refine changes_lift fun power _ => ?_
  refine changes_query fun actor granted => ?_
  have permitted := permitted_of granted
  split
  · refine changes_query fun _ _ => changes_pure
  refine changes_refuse fun _ => ?_
  refine changes_query fun existing looked => ?_
  obtain rfl := Except.ok.inj looked
  split
  · refine changes_lift fun user present => ?_
    refine user_mfa_route_changes lib draws who nspace now state actor mount path power _ user body routed permitted ?_
    split at present
    · rename_i stored found
      rw [found, Except.ok.inj present]
    · cases present
  split
  · refine changes_lift fun _ _ => changes_pure
  split
  · exact ends_modify (.userRemoved actor mount _ permitted routed)
  · refine changes_refuse fun _ => ?_
    refine changes_lift fun _ _ => ?_
    refine changes_refuse fun _ => ?_
    refine changes_refuse fun _ => ?_
    refine changes_lift fun user made => ?_
    exact ends_modify (.userWritten actor mount _ user permitted (.updated body user made) routed)

theorem prepare_issue_ok {token : Token} {prepared : Str × AuthResponse}
    (made : prepareIssue lib draws token now = .ok prepared) :
    ∃ raw, rawToken lib draws = .ok raw ∧ prepared = (hash lib raw, ⟨200, issuedBody raw token now, true⟩) := by
  cases drawn : rawToken lib draws with
  | error => simp [prepareIssue, drawn, Except.map] at made
  | ok raw =>
    simp only [prepareIssue, drawn, Except.map, Except.ok.injEq] at made
    exact ⟨raw, rfl, made.symm⟩

theorem verified_user_ok {existing : Option User} {password : Str} {user : User}
    (verified : verifiedUser lib existing password = .ok user) : existing = some user := by
  cases existing with
  | none =>
    simp only [verifiedUser] at verified
    split at verified <;> cases verified
  | some =>
    simp only [verifiedUser] at verified
    split at verified
    · cases verified
    · split at verified
      · rw [Except.ok.inj verified]
      · cases verified

theorem login_userpass_ends (scope : AuthScope) (method name : Str) (body : Value) :
    Ends (loginUserpass lib draws scope method name body now) state fun res reached => (∃ flaw, res = .error flaw ∧
      reached = state) ∨
      ∃ user counter raw token answer, res = .ok answer ∧ rawToken lib draws = .ok raw ∧
        UserLogin lib draws state scope name body now user counter token ∧
        reached = (state.insertUser scope name (user.accept counter)).insertToken (hash lib raw) token := by
  refine ends_refuse (fun _ => .inl ⟨_, rfl, rfl⟩) fun _ => ?_
  refine ends_refuse (fun _ => .inl ⟨_, rfl, rfl⟩) fun _ => ?_
  refine ends_lift_cases (fun flaw _ => .inl ⟨flaw, rfl, rfl⟩) fun _ _ => ?_
  refine ends_lift_cases (fun flaw _ => .inl ⟨flaw, rfl, rfl⟩) fun password _ => ?_
  refine ends_refuse (fun _ => .inl ⟨_, rfl, rfl⟩) fun _ => ?_
  refine ends_query (fun flaw _ => .inl ⟨flaw, rfl, rfl⟩) fun existing looked => ?_
  obtain rfl := Except.ok.inj looked
  refine ends_lift_cases (fun flaw _ => .inl ⟨flaw, rfl, rfl⟩) fun user verified => ?_
  refine ends_lift_cases (fun flaw _ => .inl ⟨flaw, rfl, rfl⟩) fun counter accepted => ?_
  refine ends_lift_cases (fun flaw _ => .inl ⟨flaw, rfl, rfl⟩) fun token made => ?_
  refine ends_lift_cases (fun flaw _ => .inl ⟨flaw, rfl, rfl⟩) fun prepared issued => ?_
  obtain ⟨raw, drawn, rfl⟩ := prepare_issue_ok lib draws now issued
  exact .inr ⟨user, counter, raw, token, _, rfl, drawn, ⟨verified_user_ok lib verified, accepted, made⟩, rfl⟩

theorem plain_role_route_changes (mount power name : Str) (body : Value)
    (routed : mount ∈ state.effectiveAuthMounts nspace) (permitted : Permitted state who nspace now actor) :
    Changes lib draws who nspace path now state
      (plainRoleRoute lib draws actor ⟨nspace, mount⟩ power name (state.role ⟨nspace, mount⟩ name) body) := by
  unfold plainRoleRoute
  split
  · refine changes_lift fun _ _ => changes_pure
  split
  · exact ends_modify (.roleRemoved actor mount name permitted routed)
  · refine changes_refuse fun _ => ?_
    refine changes_lift fun _ _ => ?_
    refine changes_lift fun role made => ?_
    exact ends_modify (.roleWritten actor mount name role permitted (.updated body role made) routed)

theorem role_operation_changes (mount op power name : Str) (role : Role) (body : Value)
    (routed : mount ∈ state.effectiveAuthMounts nspace) (permitted : Permitted state who nspace now actor)
    (found : state.role ⟨nspace, mount⟩ name = some role) :
    Changes lib draws who nspace path now state
      (roleOperation lib draws ⟨nspace, mount⟩ op power name role body now) := by
  unfold roleOperation
  split
  · exact changes_pure
  split
  · refine changes_lift fun _ _ => ?_
    refine changes_lift fun value _ => ?_
    refine changes_query fun _ _ => ?_
    refine changes_refuse fun _ => ?_
    exact ends_modify (.roleWritten actor mount name _ permitted (.renamed role value found) routed)
  split
  · exact changes_pure
  split
  · refine changes_lift fun _ _ => ?_
    refine changes_lift fun made drawn => ?_
    exact ends_modify (.roleWritten actor mount name _ permitted (.secretAdded role body made found drawn) routed)
  split
  · refine changes_lift fun _ _ => changes_pure
  split
  · refine changes_lift fun target _ => ?_
    exact ends_modify (.roleWritten actor mount name _ permitted (.secretDestroyed role target.1 found) routed)
  · exact changes_fail

theorem role_route_changes (mount method path : Str) (body : Value)
    (routed : mount ∈ state.effectiveAuthMounts nspace) :
    Changes lib draws who nspace path now state (roleRoute lib draws who ⟨nspace, mount⟩ method path body now) := by
  refine changes_lift fun rest _ => ?_
  refine changes_lift fun power _ => ?_
  refine changes_query fun actor granted => ?_
  have permitted := permitted_of granted
  split
  · refine changes_query fun _ _ => changes_pure
  refine changes_refuse fun _ => ?_
  refine changes_query fun existing looked => ?_
  obtain rfl := Except.ok.inj looked
  split
  · exact plain_role_route_changes lib draws who nspace path now state actor mount power _ body routed permitted
  · refine changes_lift fun role present => ?_
    refine role_operation_changes lib draws who nspace path now state actor mount _ power _ role body routed permitted ?_
    split at present
    · rename_i stored found
      rw [found, Except.ok.inj present]
    · cases present

theorem tidy_secret_ids_changes (mount method path : Str) (body : Value)
    (routed : mount ∈ state.effectiveAuthMounts nspace) :
    Changes lib draws who nspace path now state (tidySecretIds who ⟨nspace, mount⟩ method path body now) := by
  refine changes_refuse fun _ => ?_
  refine changes_lift fun _ _ => ?_
  refine changes_query fun actor granted => ?_
  refine changes_query fun _ _ => ?_
  refine changes_query fun _ _ => ?_
  exact ends_modify (.rolesTidied actor mount (permitted_of granted) routed)

theorem find_role_stored {roleId : Str} {found : Str × Role}
    (looked : findRole (state.rolesAt scope) roleId = some found) : state.role scope found.1 = some found.2 := by
  unfold findRole at looked
  unfold AuthState.role
  cases roles : state.rolesAt scope with
  | none => simp [roles] at looked
  | some =>
    simp only [roles, Option.bind_some] at looked ⊢
    exact mem_toList_iff_getElem?_eq_some.mp (mem_of_find?_eq_some looked)

theorem login_approle_ends (scope : AuthScope) (method : Str) (body : Value) :
    Ends (loginApprole lib draws scope method body now) state fun res reached => (∃ flaw, res = .error flaw ∧
      reached = state) ∨
      ∃ name secretId old role raw token answer, res = .ok answer ∧ rawToken lib draws = .ok raw ∧
        RoleLogin lib draws state scope name secretId body now old role token ∧
        reached = (state.insertToken (hash lib raw) token).insertRole scope name role := by
  refine ends_refuse (fun _ => .inl ⟨_, rfl, rfl⟩) fun _ => ?_
  refine ends_lift_cases (fun flaw _ => .inl ⟨flaw, rfl, rfl⟩) fun _ _ => ?_
  refine ends_lift_cases (fun flaw _ => .inl ⟨flaw, rfl, rfl⟩) fun roleId named => ?_
  refine ends_lift_cases (fun flaw _ => .inl ⟨flaw, rfl, rfl⟩) fun secretId presented => ?_
  refine ends_refuse (fun _ => .inl ⟨_, rfl, rfl⟩) fun _ => ?_
  refine ends_query (fun flaw _ => .inl ⟨flaw, rfl, rfl⟩) fun found looked => ?_
  have listed : findRole (state.rolesAt scope) roleId = some found := by
    split at looked
    · rename_i entry listed
      rw [listed, Except.ok.inj looked]
    · cases looked
  have stored := find_role_stored state listed
  refine ends_lift_cases (fun flaw _ => .inl ⟨flaw, rfl, rfl⟩) fun role spent => ?_
  refine ends_lift_cases (fun flaw _ => .inl ⟨flaw, rfl, rfl⟩) fun token made => ?_
  refine ends_bind _ (issue_ends lib draws now state token) ?_ ?_
  · rintro flaw reached (⟨_, _, rfl⟩ | ⟨_, _, impossible, _⟩)
    · exact .inl ⟨flaw, rfl, rfl⟩
    · cases impossible
  · rintro issued reached (⟨_, impossible, _⟩ | ⟨raw, answer, same, drawn, rfl⟩)
    · cases impossible
    · exact .inr ⟨found.1, secretId, found.2, role, raw, token, issued, rfl, drawn, ⟨⟨roleId, named, listed⟩, presented, stored, spent, made⟩, rfl⟩

theorem login_jwt_ends (scope : AuthScope) (method : Str) (body : Value) :
    Ends (loginJwt lib draws scope method body now) state fun res reached =>
      (∃ flaw, res = .error flaw ∧ (reached = state ∨ (∃ config, state.jwtConfig scope = some config) ∧
        reached = state.jwtAtMut scope id)) ∨
      ∃ roleName jwt config role verified raw token answer, res = .ok answer ∧ rawToken lib draws = .ok raw ∧
        stringField body "jwt" = .ok jwt ∧
        JwtLogin lib draws state scope roleName jwt now config role verified token ∧
        reached = afterJwtLogin lib state scope verified (hash lib raw) token now := by
  refine ends_refuse (fun _ => .inl ⟨_, rfl, .inl rfl⟩) fun _ => ?_
  refine ends_lift_cases (fun flaw _ => .inl ⟨flaw, rfl, .inl rfl⟩) fun _ _ => ?_
  refine ends_lift_cases (fun flaw _ => .inl ⟨flaw, rfl, .inl rfl⟩) fun roleName _ => ?_
  refine ends_refuse (fun _ => .inl ⟨_, rfl, .inl rfl⟩) fun _ => ?_
  refine ends_lift_cases (fun flaw _ => .inl ⟨flaw, rfl, .inl rfl⟩) fun jwt read => ?_
  refine ends_query (fun flaw _ => .inl ⟨flaw, rfl, .inl rfl⟩) fun config looked => ?_
  have configured : state.jwtConfig scope = some config := by
    split at looked
    · rename_i stored found
      rw [found, Except.ok.inj looked]
    · cases looked
  refine ends_query (fun flaw _ => .inl ⟨flaw, rfl, .inl rfl⟩) fun role lookedRole => ?_
  have found : state.jwtRole scope roleName = some role := by
    split at lookedRole
    · rename_i stored listed
      rw [listed, Except.ok.inj lookedRole]
    · cases lookedRole
  refine ends_lift_cases (fun flaw _ => .inl ⟨flaw, rfl, .inl rfl⟩) fun verified verifies => ?_
  refine ends_refuse (fun _ => .inl ⟨_, rfl, .inl rfl⟩) fun bound => ?_
  refine ends_lift_cases (fun flaw _ => .inl ⟨flaw, rfl, .inl rfl⟩) fun token made => ?_
  refine ends_lift_cases (fun flaw _ => .inl ⟨flaw, rfl, .inl rfl⟩) fun prepared issued => ?_
  obtain ⟨raw, drawn, rfl⟩ := prepare_issue_ok lib draws now issued
  have touched : ∃ config, state.jwtConfig scope = some config := ⟨config, configured⟩
  -- the admission leaves the mount touched when it refuses
  have admission : Ends (admitExternalReplay lib scope (replayFingerprint lib verified) verified.expiresAt now) state
      fun res reached => (∃ flaw, res = .error flaw ∧ reached = state.jwtAtMut scope id) ∨
        res = .ok () ∧ ((state.jwtAt scope).getD .default).lastAdmissionTime ≤ now ∧
        ¬((state.jwtAt scope).getD .default).replay[lib.encodeBase64 (replayFingerprint lib verified)]?.any (now < ·) = true ∧
        reached = state.jwtAtMut scope
          (·.admitted (lib.encodeBase64 (replayFingerprint lib verified)) verified.expiresAt now) := by
    refine ends_modify ?_
    refine ends_query (fun flaw _ => .inl ⟨flaw, rfl, rfl⟩) fun mount lookedMount => ?_
    have same : mount = (state.jwtAt scope).getD .default := by
      rw [← Except.ok.inj lookedMount, AuthState.jwt_at_mut_read, if_pos rfl]
      rfl
    subst same
    refine ends_refuse (fun _ => .inl ⟨_, rfl, rfl⟩) fun timely => ?_
    refine ends_refuse (fun _ => .inl ⟨_, rfl, rfl⟩) fun unseen => ?_
    refine ends_refuse (fun _ => .inl ⟨_, rfl, rfl⟩) fun _ => ?_
    refine .inr ⟨rfl, ?_, unseen, ?_⟩
    · omega
    · exact AuthState.jwt_at_mut_twice state scope id _
  refine ends_bind _ admission ?_ ?_
  · rintro flaw reached (⟨_, _, rfl⟩ | ⟨impossible, _⟩)
    · exact .inl ⟨flaw, rfl, .inr ⟨touched, rfl⟩⟩
    · cases impossible
  · rintro _ reached (⟨_, impossible, _⟩ | ⟨_, current, unseen, rfl⟩)
    · cases impossible
    · refine .inr ⟨roleName, jwt, config, role, verified, raw, token, _, rfl, drawn, read,
        ⟨configured, found, verifies, by simpa using bound, made, current, unseen⟩, ?_⟩
      exact congrArg (AuthState.insertToken · (hash lib raw) token) (AuthState.jwt_at_mut_twice state scope _ _)

theorem jwt_config_route_changes (mount method : Str) (body : Value)
    (routed : mount ∈ state.effectiveAuthMounts nspace) :
    Changes lib draws who nspace path now state (jwtConfigRoute lib who ⟨nspace, mount⟩ method body now) := by
  unfold jwtConfigRoute
  split
  · refine changes_query fun _ _ => ?_
    refine changes_lift fun _ _ => ?_
    refine changes_query fun _ _ => changes_pure
  split
  · refine changes_query fun actor granted => ?_
    refine changes_query fun _ _ => ?_
    refine changes_lift fun config _ => ?_
    refine changes_query fun _ _ => ?_
    exact ends_modify (.jwtConfigured actor mount config (permitted_of granted) routed)
  · exact changes_fail

theorem jwt_role_route_changes (mount method name : Str) (body : Value)
    (routed : mount ∈ state.effectiveAuthMounts nspace) :
    Changes lib draws who nspace path now state (jwtRoleRoute who ⟨nspace, mount⟩ method name body now) := by
  unfold jwtRoleRoute
  split
  · refine changes_query fun _ _ => ?_
    refine changes_lift fun _ _ => ?_
    refine changes_query fun _ _ => changes_pure
  split
  · refine changes_query fun actor granted => ?_
    refine changes_query fun _ _ => ?_
    refine changes_lift fun role made => ?_
    refine changes_query fun _ _ => ?_
    exact ends_modify
      (.jwtRoleWritten actor mount name body role (permitted_of granted) made routed)
  split
  · refine changes_query fun actor granted => ?_
    refine changes_query fun _ _ => ?_
    refine changes_lift fun _ _ => ?_
    refine changes_query fun _ _ => ?_
    have removed : Change lib draws who nspace path now state (state.jwtAtMut ⟨nspace, mount⟩ (·.removeRole name)) :=
      .jwtRoleRemoved actor mount name (permitted_of granted) routed
    exact ends_modify (ends_refuse (fun _ => removed) fun _ => removed)
  · exact changes_fail

theorem jwt_route_changes (mount method path : Str) (body : Value) (routed : mount ∈ state.effectiveAuthMounts nspace)
    (asked : path = str "auth/" ++ mount ++ str "/login" → loginAt state nspace path = some (⟨nspace, mount⟩, .jwt)) :
    Changes lib draws who nspace path now state (jwtRoute lib draws who ⟨nspace, mount⟩ method path body now) := by
  unfold jwtRoute
  split
  · exact jwt_config_route_changes lib draws who nspace path now state mount method body routed
  split
  · rename_i login
    refine ends_weaken (login_jwt_ends lib draws now state ⟨nspace, mount⟩ method body) fun res reached ended => ?_
    rcases ended with ⟨_, _, rfl | ⟨present, rfl⟩⟩ | ⟨roleName, jwt, config, role, verified, raw, token, _, _, drawn, _, made, rfl⟩
    · exact .same
    · exact .jwtTouched mount present routed
    · exact .jwtLogin mount roleName jwt config role verified raw token made drawn (asked login)
  split
  · refine changes_refuse fun _ => ?_
    refine changes_query fun _ _ => ?_
    refine changes_lift fun _ _ => ?_
    refine changes_query fun _ _ => changes_pure
  · split
    · refine changes_refuse fun _ => ?_
      exact jwt_role_route_changes lib draws who nspace path now state mount method _ body routed
    · exact changes_fail

theorem enable_mount_changes (mount : Str) (body : Value) (permitted : Permitted state who nspace now actor) :
    Changes lib draws who nspace path now state (enableMount nspace mount body) := by
  refine changes_lift fun _ _ => ?_
  refine changes_lift fun kind _ => ?_
  refine changes_refuse fun known => ?_
  refine changes_lift fun description _ => ?_
  refine changes_refuse fun _ => ?_
  refine changes_query fun entries looked => ?_
  obtain rfl := Except.ok.inj looked
  refine changes_refuse fun free => ?_
  refine changes_refuse fun apart => ?_
  refine ends_modify (.mountEnabled actor mount ⟨kind, description⟩ permitted (not_not.mp known) ?_ ?_ (by simpa using apart))
  · exact fun reserved => free (.inl reserved)
  · intro old found
    by_contra different
    exact free (.inr (by simp [found, different]))

theorem disable_mount_changes (mount : Str) (body : Value) (permitted : Permitted state who nspace now actor) :
    Changes lib draws who nspace path now state (disableMount nspace mount body) := by
  refine changes_lift fun _ _ => ?_
  refine changes_refuse fun reserved => ?_
  refine changes_query fun entries looked => ?_
  obtain rfl := Except.ok.inj looked
  refine ends_modify (ends_refuse (fun absent => .mountMissing actor mount permitted absent) fun present => ?_)
  exact ends_modify (.mountDisabled actor mount permitted reserved (by simpa using present))

theorem auth_mount_route_changes (path : Str) (body : Value) :
    Changes lib draws who nspace path now state (authMountRoute who nspace method path body now) := by
  refine changes_lift fun suffix _ => ?_
  split
  · refine changes_refuse fun _ => ?_
    refine changes_query fun _ _ => ?_
    refine changes_lift fun _ _ => ?_
    refine changes_query fun _ _ => changes_pure
  refine changes_refuse fun _ => ?_
  split
  · refine changes_query fun _ _ => ?_
    refine changes_lift fun _ _ => ?_
    refine changes_query fun _ _ => changes_pure
  split
  · refine changes_query fun actor granted => ?_
    refine changes_query fun _ _ => ?_
    exact enable_mount_changes lib draws who nspace path now state actor _ body
      (permitted_of granted)
  split
  · refine changes_query fun actor granted => ?_
    refine changes_query fun _ _ => ?_
    exact disable_mount_changes lib draws who nspace path now state actor _ body
      (permitted_of granted)
  · exact changes_fail

theorem mounted_route_changes (path : Str) (body : Value) (mount : Str) (entry : AuthMount) (suffix : Str)
    (found : mountAt state nspace path = some (mount, entry, suffix)) : Changes lib draws who nspace path now state
      (mountedRoute lib draws who nspace method path body now mount entry.kind suffix) := by
  have routed := mount_at_member found
  have place := (mount_at_path found).2
  unfold mountedRoute
  split
  · rename_i tokens
    refine token_route_changes lib draws who nspace now state method path body fun op named create => ?_
    obtain rfl : suffix = op := by
      rw [place, tokens.2] at named
      have cut : str "auth/token/" ++ suffix = str "auth/token/" ++ op := named
      exact append_cancel_left cut
    simpa [createAt, found, tokens.1, tokens.2] using create
  split
  · rename_i userpass
    have asked : loginAt state nspace path = some (⟨nspace, mount⟩, .userpass (suffix.drop 6)) := by
      rw [loginAt, found, Option.bind_some]
      exact if_pos userpass
    refine ends_weaken (login_userpass_ends lib draws now state ⟨nspace, mount⟩ method _ body) fun res reached ended => ?_
    rcases ended with ⟨_, _, rfl⟩ | ⟨user, counter, raw, token, _, _, drawn, login, rfl⟩
    · exact .same
    · exact .userLogin mount _ body user counter raw token login drawn asked
  split
  · exact user_route_changes lib draws who nspace now state mount method path body routed
  split
  · rename_i approle
    have asked : loginAt state nspace path = some (⟨nspace, mount⟩, .approle) := by
      have other : str "approle" ≠ str "userpass" := by decide
      simp [loginAt, found, approle.1, approle.2, other]
    refine ends_weaken (login_approle_ends lib draws now state ⟨nspace, mount⟩ method body) fun res reached ended => ?_
    rcases ended with ⟨_, _, rfl⟩ | ⟨name, secretId, old, role, raw, token, _, _, drawn, login, rfl⟩
    · exact .same
    · exact .roleLogin mount name secretId body old role raw token login drawn asked
  split
  · exact tidy_secret_ids_changes lib draws who nspace now state mount method path body routed
  split
  · exact role_route_changes lib draws who nspace now state mount method path body routed
  split
  · rename_i jwt
    refine jwt_route_changes lib draws who nspace now state mount method path body routed fun login => ?_
    obtain rfl : suffix = str "login" := by
      rw [place, append_assoc, append_assoc] at login
      exact append_cancel_left (append_cancel_left (append_cancel_left login))
    have others : str "jwt" ≠ str "userpass" ∧ str "jwt" ≠ str "approle" := by decide
    simp [loginAt, found, jwt, others.1, others.2]
  · exact changes_fail

theorem changes_some {α : Type} {action : AuthAction α} (changes : Changes lib draws who nspace path now state action) :
    Changes lib draws who nspace path now state (action >>= fun answer => pure (some answer)) :=
  ends_bind _ changes (fun _ _ changed => changed) fun _ _ changed => changed

theorem handle_changes (path : Str) (body : Value) :
    Changes lib draws who nspace path now state (handle lib draws who nspace method path body now) := by
  refine changes_lift fun _ _ => ?_
  refine changes_lift fun _ _ => ?_
  split
  · exact changes_some _ _ _ _ _ _ _ (auth_mount_route_changes lib draws who nspace now state method path body)
  · split
    · rename_i authPath stripped
      refine changes_query fun found looked => ?_
      have listed : mountAt state nspace path = some found := by
        split at looked
        · rename_i entry listed
          simp [mountAt, stripped, listed, Except.ok.inj looked]
        · cases looked
      exact changes_some _ _ _ _ _ _ _ (mounted_route_changes lib draws who nspace now state method path body _ _ _ listed)
    · split
      · exact changes_some _ _ _ _ _ _ _ (policy_route_changes lib draws who nspace now state method path body)
      · exact changes_pure

end

-- The caller of a request, and the state its authentication leaves.
inductive Admitted (lib : Library) (state : AuthState) (req : Request) : Option Principal → AuthState → Prop where
  | anonymous (silent : req.token = []) : Admitted lib state req none state
  | authenticated (token : Token) (presented : req.token ≠ [])
      (active : state.activeToken (hash lib req.token) req.now true = .ok token) :
      Admitted lib state req (some ⟨hash lib req.token, token.spend⟩)
        (state.insertToken (hash lib req.token) token.spend)

variable (lib : Library)

theorem caller_ends (state : AuthState) (req : Request) : Ends (caller lib req) state fun res reached =>
      (res = .error denied ∧ reached = state) ∨ ∃ who, res = .ok who ∧ Admitted lib state req who reached := by
  unfold caller
  split
  · rename_i anonymous
    exact .inr ⟨none, rfl, .anonymous anonymous⟩
  · rename_i presented
    refine ends_bind (fun res reached => (res = .error denied ∧ reached = state) ∨
      ∃ who, res = .ok who ∧ Admitted lib state req (some who) reached) ?_ ?_ ?_
    · refine ends_refuse (fun _ => .inl ⟨rfl, rfl⟩) fun _ => ?_
      refine ends_query (fun flaw refused => .inl ⟨?_, rfl⟩) fun token active => ?_
      · rw [state.active_token_error _ _ _ flaw refused]
      · exact .inr ⟨_, rfl, .authenticated token presented active⟩
    · rintro flaw reached (⟨same, rfl⟩ | ⟨_, impossible, _⟩)
      · exact .inl ⟨by rw [Except.error.inj same], rfl⟩
      · cases impossible
    · rintro who reached (⟨impossible, _⟩ | ⟨other, same, admitted⟩)
      · cases impossible
      · cases same
        exact .inr ⟨some who, rfl, admitted⟩

theorem serve_ends (state : AuthState) (req : Request) :
    ((serve lib req state).1 = .error denied ∧ step lib state req = state) ∨
    ∃ who admitted, Admitted lib state req who admitted ∧
      serve lib req state = handle lib req.draws who req.nspace req.method req.path req.body req.now admitted ∧
      Change lib req.draws who req.nspace req.path req.now admitted (step lib state req) := by
  have called := caller_ends lib state req
  unfold step serve
  rw [bind_apply]
  unfold Ends at called
  generalize caller lib req state = outcome at called ⊢
  obtain ⟨res, reached⟩ := outcome
  rcases called with ⟨same, rfl⟩ | ⟨who, same, admitted⟩
  · obtain rfl : res = .error denied := same
    exact .inl ⟨rfl, rfl⟩
  · obtain rfl : res = .ok who := same
    exact .inr ⟨who, reached, admitted, rfl, handle_changes lib req.draws who req.nspace req.now reached req.method req.path req.body⟩

end HeptaBao.Auth
