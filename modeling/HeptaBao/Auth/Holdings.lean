import HeptaBao.Auth.Inversion

namespace HeptaBao.Auth

open Wire Std Durable Exec ExtTreeMap

-- Where a namespace keeps something that carries policy names.
inductive Holder where
  | token (id : Str)
  | user (mount name : Str)
  | role (mount name : Str)
  | jwtRole (mount name : Str)
deriving DecidableEq

inductive Holding where
  | token (record : Token)
  | user (record : User)
  | role (record : Role)
  | jwtRole (record : JwtRole)
deriving DecidableEq

def Holding.policies : Holding → Names
  | token record => record.policies
  | user record => record.policies
  | role record => record.policies
  | jwtRole record => record.policies

variable {scope other : AuthScope} {name : Str}

namespace AuthState

def held (state : AuthState) (nspace : Str) : Holder → Option Holding
  | .token id => ((state.lookup id).filter fun token => token.nspace == nspace).map .token
  | .user mount name => (state.user ⟨nspace, mount⟩ name).map .user
  | .role mount name => (state.role ⟨nspace, mount⟩ name).map .role
  | .jwtRole mount name => (state.jwtRole ⟨nspace, mount⟩ name).map .jwtRole

theorem users_at_mut_user {state : AuthState} {change : Table User → Table User} {user : User}
    (found : (state.usersAtMut scope change).user other name = some user) :
    state.user other name = some user ∨ scope = other ∧ (change ((state.usersAt scope).getD ∅))[name]? = some user := by
  unfold AuthState.user at found ⊢
  rw [users_at_mut_read] at found
  by_cases same : scope = other
  · exact .inr ⟨same, by simpa [same] using found⟩
  · exact .inl (by simpa [same] using found)

theorem roles_at_mut_role {state : AuthState} {change : Table Role → Table Role} {role : Role}
    (found : (state.rolesAtMut scope change).role other name = some role) :
    state.role other name = some role ∨ scope = other ∧ (change ((state.rolesAt scope).getD ∅))[name]? = some role := by
  unfold AuthState.role at found ⊢
  rw [roles_at_mut_read] at found
  by_cases same : scope = other
  · exact .inr ⟨same, by simpa [same] using found⟩
  · exact .inl (by simpa [same] using found)

variable (state : AuthState) (scope other : AuthScope)

theorem jwt_at_mut_role (change : JwtMountState → JwtMountState) (name : Str)
    (role : JwtRole) (found : (state.jwtAtMut scope change).jwtRole other name = some role) :
      state.jwtRole other name = some role ∨
      scope = other ∧ (change ((state.jwtAt scope).getD .default)).roles[name]? = some role := by
  unfold AuthState.jwtRole at found ⊢
  rw [jwt_at_mut_read] at found
  by_cases same : scope = other
  · exact .inr ⟨same, by simpa [same] using found⟩
  · exact .inl (by simpa [same] using found)

theorem users_getD (name : Str) : ((state.usersAt scope).getD ∅)[name]? = state.user scope name := by
  unfold AuthState.user
  cases state.usersAt scope <;> simp

theorem roles_getD (name : Str) : ((state.rolesAt scope).getD ∅)[name]? = state.role scope name := by
  unfold AuthState.role
  cases state.rolesAt scope <;> simp

theorem jwt_roles_getD (name : Str) : ((state.jwtAt scope).getD .default).roles[name]? = state.jwtRole scope name := by
  unfold AuthState.jwtRole
  cases state.jwtAt scope <;> simp [JwtMountState.default]

theorem insert_user_user (name at_ : Str) (user found : User)
    (read : (state.insertUser scope name user).user other at_ = some found) :
    state.user other at_ = some found ∨ scope = other ∧ name = at_ ∧ found = user := by
  rcases users_at_mut_user read with old | ⟨same, fresh⟩
  · exact .inl old
  · rw [lookup_insert] at fresh
    by_cases named : name = at_
    · exact .inr ⟨same, named, by simpa [named] using fresh.symm⟩
    · rw [if_neg named, users_getD] at fresh
      exact .inl (same ▸ fresh)

theorem insert_role_role (name at_ : Str) (role found : Role)
    (read : (state.insertRole scope name role).role other at_ = some found) :
    state.role other at_ = some found ∨ scope = other ∧ name = at_ ∧ found = role := by
  rcases roles_at_mut_role read with old | ⟨same, fresh⟩
  · exact .inl old
  · rw [lookup_insert] at fresh
    by_cases named : name = at_
    · exact .inr ⟨same, named, by simpa [named] using fresh.symm⟩
    · rw [if_neg named, roles_getD] at fresh
      exact .inl (same ▸ fresh)

theorem erased_read {β : Type} (table : Table β) {key other : Str} {value : β}
    (found : (table.erase key)[other]? = some value) :
    table[other]? = some value := by
  rw [getElem?_erase] at found
  split at found
  · cases found
  · exact found

theorem remove_user_user (name at_ : Str) (found : User)
    (read : (state.removeUser scope name).user other at_ = some found) : state.user other at_ = some found := by
  rcases users_at_mut_user read with old | ⟨same, kept⟩
  · exact old
  · rw [← same, ← users_getD]
    exact erased_read _ kept

theorem remove_role_role (name at_ : Str) (found : Role)
    (read : (state.removeRole scope name).role other at_ = some found) : state.role other at_ = some found := by
  rcases roles_at_mut_role read with old | ⟨same, kept⟩
  · exact old
  · rw [← same, ← roles_getD]
    exact erased_read _ kept

theorem tidied_role (now : Nat) (at_ : Str) (found : Role)
    (read : (state.rolesAtMut scope (·.map fun _ role => role.tidied now)).role other at_ = some found) :
    ∃ old, state.role other at_ = some old ∧ (found = old ∨ found = old.tidied now) := by
  rcases roles_at_mut_role read with kept | ⟨same, fresh⟩
  · exact ⟨found, kept, .inl rfl⟩
  · rw [ExtTreeMap.getElem?_map, Option.map_eq_some_iff] at fresh
    obtain ⟨old, stored, rfl⟩ := fresh
    rw [roles_getD] at stored
    exact ⟨old, same ▸ stored, .inr rfl⟩

theorem jwt_roles_kept (change : JwtMountState → JwtMountState) (name : Str)
    (role : JwtRole) (keeps : ∀ mount found, (change mount).roles[name]? = some found → mount.roles[name]? = some found)
    (found : (state.jwtAtMut scope change).jwtRole other name = some role) : state.jwtRole other name = some role := by
  rcases jwt_at_mut_role state scope other change name role found with old | ⟨same, fresh⟩
  · exact old
  · rw [← same, ← jwt_roles_getD]
    exact keeps _ _ fresh

theorem revoke_kept (id other : Str) (token : Token) (found : (state.revoke id).lookup other = some token) :
    state.lookup other = some token := ((state.revoke_lookup id other token).mp found).1

theorem tidied_lookup (nspace : Str) (now : Nat) (id : Str) (token : Token) :
    (state.tidied nspace now).lookup id = some token ↔ state.lookup id = some token ∧
      state.stale nspace now id token = false := by
  simp only [tidied, lookup, with_tokens_tokens, getElem?_filter']
  cases state.tokens[id]? with
  | none => simp
  | some stored =>
    simp only [Option.filter_some, Option.some.injEq, Bool.not_eq_true']
    by_cases gone : state.stale nspace now id stored = true
    · simp only [gone]
      constructor
      · intro impossible
        simp at impossible
      · rintro ⟨rfl, kept⟩
        simp [gone] at kept
    · have kept : state.stale nspace now id stored = false := by simpa using gone
      simp only [kept]
      constructor
      · intro same
        obtain rfl : stored = token := by simpa using same
        exact ⟨rfl, kept⟩
      · rintro ⟨rfl, _⟩
        simp

theorem revoke_fold_lookup (ids : List Str) (state : AuthState) (id : Str) (token : Token)
    (found : (ids.foldl revoke state).lookup id = some token) : state.lookup id = some token := by
  induction ids generalizing state with
  | nil => exact found
  | cons first _ ih => exact revoke_kept state first id token (ih (state.revoke first) found)

theorem revoke_fold_tables (ids : List Str) (state : AuthState) : ∃ tokens, ids.foldl revoke state =
    state.withTokens tokens := by
  induction ids generalizing state with
  | nil => exact ⟨state.tokens, rfl⟩
  | cons first _ ih =>
    obtain ⟨tokens, same⟩ := ih (state.revoke first)
    exact ⟨tokens, same⟩

theorem disable_users : (state.disableAuthMount scope).usersAt other = if scope = other then some ∅ else state.usersAt
    other := by
  obtain ⟨_, same⟩ := revoke_fold_tables (state.issuedIds scope) (state.clearMount scope)
  rw [disableAuthMount, same, with_tokens_users, clearMount, drop_jwt_users, roles_at_mut_users, users_at_mut_read]

theorem disable_roles : (state.disableAuthMount scope).rolesAt other = if scope = other then some ∅ else state.rolesAt
    other := by
  obtain ⟨_, same⟩ := revoke_fold_tables (state.issuedIds scope) (state.clearMount scope)
  rw [disableAuthMount, same, with_tokens_roles, clearMount, drop_jwt_roles, roles_at_mut_read, users_at_mut_roles]

theorem disable_jwt : (state.disableAuthMount scope).jwtAt other = if scope = other then none else state.jwtAt
    other := by
  obtain ⟨_, same⟩ := revoke_fold_tables (state.issuedIds scope) (state.clearMount scope)
  rw [disableAuthMount, same, with_tokens_jwt, clearMount, drop_jwt_read, roles_at_mut_jwt, users_at_mut_jwt]

theorem disable_mounts : (state.disableAuthMount scope).authMounts = state.authMounts := by
  obtain ⟨_, same⟩ := revoke_fold_tables (state.issuedIds scope) (state.clearMount scope)
  rw [disableAuthMount, same]
  simp [withTokens, clearMount]

theorem disable_lookup (id : Str) (token : Token) (found : (state.disableAuthMount scope).lookup id = some token) :
    state.lookup id = some token := by
  have kept := revoke_fold_lookup (state.issuedIds scope) (state.clearMount scope) id token found
  simpa [lookup, clearMount] using kept

end AuthState

variable (lib : Library) (draws : Draws) (who : Option Principal) (nspace path : Str) (now : Nat) (state : AuthState)

inductive UserAfter (scope : AuthScope) (name : Str) : User → Prop where
  | kept (user : User) (stored : state.user scope name = some user) : UserAfter scope name user
  | written (actor : Principal) (user : User) (permitted : Permitted state who nspace now actor) (here : scope.nspace = nspace)
      (routed : scope.mount ∈ state.effectiveAuthMounts nspace)
      (cause : UserCause lib draws actor (state.user scope name) user) : UserAfter scope name user
  | loggedIn (body : Value) (user : User) (counter : Option Nat) (token : Token) (here : scope.nspace = nspace)
      (login : UserLogin lib draws state scope name body now user counter token) : UserAfter scope name (user.accept counter)

variable {lib draws who nspace path now state} in
theorem change_user {after : AuthState} (change : Change lib draws who nspace path now state after)
    {user : User} (found : after.user scope name = some user) :
      UserAfter lib draws who nspace now state scope name user := by
  cases change with
  | userWritten actor _ _ _ permitted cause routed =>
    rcases state.insert_user_user _ scope _ name _ user found with old | ⟨rfl, rfl, rfl⟩
    · exact .kept user old
    · exact .written actor user permitted rfl routed cause
  | userRemoved => exact .kept user (state.remove_user_user _ scope _ name user found)
  | userLogin _ _ body record counter _ token login =>
    rcases state.insert_user_user _ scope _ name _ user found with old | ⟨rfl, rfl, rfl⟩
    · exact .kept user old
    · exact .loggedIn body record counter token rfl login
  | mountDisabled _ mount =>
    refine .kept user ?_
    rw [AuthState.user, AuthState.disable_users] at found
    by_cases same : (⟨nspace, mount⟩ : AuthScope) = scope
    · simp [same] at found
    · simpa [same, AuthState.user] using found
  | same | mountEnabled | mountMissing | policyWritten | tokenCreated | tidied | revoked | renewed | jwtConfigured
  | jwtRoleWritten | jwtRoleRemoved | jwtTouched | jwtLogin => exact .kept user found
  | policyRemoved | rolesTidied => exact .kept user (by simpa [AuthState.user] using found)
  | roleWritten =>
    exact .kept user (by simpa [AuthState.user, AuthState.insertRole] using found)
  | roleRemoved => exact .kept user (by simpa [AuthState.user, AuthState.removeRole] using found)
  | roleLogin =>
    exact .kept user (by simpa [AuthState.user, AuthState.insertRole, AuthState.insertToken] using found)

inductive RoleAfter (scope : AuthScope) (name : Str) : Role → Prop where
  | kept (role : Role) (stored : state.role scope name = some role) : RoleAfter scope name role
  | written (actor : Principal) (role : Role) (permitted : Permitted state who nspace now actor) (here : scope.nspace = nspace)
      (routed : scope.mount ∈ state.effectiveAuthMounts nspace)
      (cause : RoleCause lib draws actor (state.role scope name) now role) : RoleAfter scope name role
  | tidied (role : Role) (stored : state.role scope name = some role) : RoleAfter scope name (role.tidied now)
  | loggedIn (secretId : Str) (body : Value) (old role : Role) (token : Token) (here : scope.nspace = nspace)
      (login : RoleLogin lib draws state scope name secretId body now old role token) : RoleAfter scope name role

variable {lib draws who nspace path now state} in
theorem change_role {after : AuthState} (change : Change lib draws who nspace path now state after)
    {role : Role} (found : after.role scope name = some role) :
      RoleAfter lib draws who nspace now state scope name role := by
  cases change with
  | roleWritten actor _ _ _ permitted cause routed =>
    rcases state.insert_role_role _ scope _ name _ role found with old | ⟨rfl, rfl, rfl⟩
    · exact .kept role old
    · exact .written actor role permitted rfl routed cause
  | roleRemoved => exact .kept role (state.remove_role_role _ scope _ name role found)
  | rolesTidied =>
    obtain ⟨old, stored, rfl | rfl⟩ := state.tidied_role _ scope now name role found
    · exact .kept role stored
    · exact .tidied old stored
  | roleLogin _ _ secretId body old _ _ token login =>
    rcases AuthState.insert_role_role _ _ scope _ name _ role found with kept | ⟨rfl, rfl, rfl⟩
    · exact .kept role kept
    · exact .loggedIn secretId body old role token rfl login
  | mountDisabled _ mount =>
    refine .kept role ?_
    rw [AuthState.role, AuthState.disable_roles] at found
    by_cases same : (⟨nspace, mount⟩ : AuthScope) = scope
    · simp [same] at found
    · simpa [same, AuthState.role] using found
  | same | mountEnabled | mountMissing | policyWritten | tokenCreated | tidied | revoked | renewed | jwtConfigured
  | jwtRoleWritten | jwtRoleRemoved | jwtTouched | jwtLogin => exact .kept role found
  | policyRemoved => exact .kept role (by simpa [AuthState.role] using found)
  | userWritten =>
    exact .kept role (by simpa [AuthState.role, AuthState.insertUser] using found)
  | userRemoved => exact .kept role (by simpa [AuthState.role, AuthState.removeUser] using found)
  | userLogin =>
    exact .kept role (by simpa [AuthState.role, AuthState.insertUser, AuthState.insertToken] using found)

theorem change_jwt_at (after : AuthState) (change : Change lib draws who nspace path now state after)
    (scope : AuthScope) :
    after.jwtAt scope = state.jwtAt scope ∨ after.jwtAt scope = none ∨
      (scope.nspace = nspace ∧ scope.mount ∈ state.effectiveAuthMounts nspace) := by
  have written : ∀ mount change', mount ∈ state.effectiveAuthMounts nspace →
      (state.jwtAtMut ⟨nspace, mount⟩ change').jwtAt scope = state.jwtAt scope ∨
        (scope.nspace = nspace ∧ scope.mount ∈ state.effectiveAuthMounts nspace) := by
    intro mount change' routed
    rw [AuthState.jwt_at_mut_read]
    by_cases same : (⟨nspace, mount⟩ : AuthScope) = scope
    · subst same
      exact .inr ⟨rfl, routed⟩
    · exact .inl (if_neg same)
  cases change with
  | mountDisabled _ mount =>
    rw [AuthState.disable_jwt]
    by_cases same : (⟨nspace, mount⟩ : AuthScope) = scope
    · exact .inr (.inl (if_pos same))
    · exact .inl (if_neg same)
  | jwtConfigured _ mount _ _ routed | jwtRoleWritten _ mount _ _ _ _ _ routed | jwtRoleRemoved _ mount _ _ routed
  | jwtTouched mount _ routed => exact (written mount _ routed).imp_right .inr
  | jwtLogin mount _ _ _ _ _ _ _ _ _ asked =>
    obtain ⟨_, _, found, _⟩ := login_at_cases asked
    exact (written mount _ (mount_at_member found)).imp_right .inr
  | same | mountEnabled | mountMissing | policyWritten | tokenCreated | tidied | revoked | renewed => exact .inl rfl
  | policyRemoved | rolesTidied => exact .inl (by simp)
  | userWritten => exact .inl (by simp [AuthState.insertUser])
  | userRemoved => exact .inl (by simp [AuthState.removeUser])
  | userLogin =>
    exact .inl (by simp [AuthState.insertUser, AuthState.insertToken])
  | roleWritten => exact .inl (by simp [AuthState.insertRole])
  | roleRemoved => exact .inl (by simp [AuthState.removeRole])
  | roleLogin =>
    exact .inl (by simp [AuthState.insertRole, AuthState.insertToken])

end HeptaBao.Auth
