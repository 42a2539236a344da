import HeptaBao.Auth.Inversion

namespace HeptaBao.Auth

open Wire Std Durable Exec Action List

abbrev mountOf (state : AuthState) (req : Request) : Option (Str × AuthMount × Str) := mountAt state req.nspace req.path

abbrev loginOf (state : AuthState) (req : Request) : Option (AuthScope × Login) := loginAt state req.nspace req.path

abbrev createAsked (state : AuthState) (req : Request) : Bool := createAt state req.nspace req.path

variable {answer : Option AuthResponse} {scope : AuthScope}

variable (lib : Library) (state : AuthState) (req : Request)

variable {lib state req} in
theorem admitted_mounts {admitted : AuthState} {who : Option Principal} (entered : Admitted lib state req who admitted)
    (nspace : Str) : admitted.effectiveAuthMounts nspace = state.effectiveAuthMounts nspace := by
  cases entered <;> rfl

variable {lib state req} in
theorem served_mounted {mount : Str} {entry : AuthMount} {suffix : Str}
    (found : mountOf state req = some (mount, entry, suffix))
    (served : (serve lib req state).1 = .ok answer) : ∃ who admitted inner, Admitted lib state req who admitted ∧
      mountedRoute lib req.draws who req.nspace req.method req.path req.body req.now mount
        entry.kind suffix admitted = (.ok inner, step lib state req) := by
  rcases serve_ends lib state req with ⟨refused, _⟩ | ⟨who, admitted, entered, handled, _⟩
  · rw [refused] at served
    cases served
  · obtain ⟨_, stripped, listed⟩ := Option.bind_eq_some_iff.mp found
    have path := strip_prefix_some stripped
    have elsewhere : ¬(req.path = str "sys/auth" ∨ (str "sys/auth/").isPrefixOf req.path) := by
      rw [path]
      rintro (same | under)
      · cases same
      · cases under
    have ends : Ends (handle lib req.draws who req.nspace req.method req.path req.body req.now)
        admitted fun res reached => res = .ok answer → ∃ inner, mountedRoute lib req.draws who req.nspace
          req.method req.path req.body req.now mount entry.kind suffix admitted = (.ok inner, reached) := by
      refine ends_lift_cases (by rintro _ _ ⟨⟩) fun _ _ => ?_
      refine ends_lift_cases (by rintro _ _ ⟨⟩) fun _ _ => ?_
      rw [if_neg elsewhere, stripped]
      refine ends_query (by rintro _ _ ⟨⟩) fun other looked => ?_
      simp only [admitted_mounts entered, listed, Except.ok.injEq] at looked
      subst looked
      generalize route : mountedRoute lib req.draws who req.nspace req.method req.path req.body
        req.now mount entry.kind suffix admitted = outcome
      obtain ⟨res, reached⟩ := outcome
      simp only [Ends, bind_apply, route]
      cases res with
      | error => rintro ⟨⟩
      | ok inner => exact fun _ => ⟨inner, rfl⟩
    have reached : step lib state req = (handle lib req.draws who req.nspace req.method req.path
        req.body req.now admitted).2 := congrArg Prod.snd handled
    obtain ⟨inner, routed⟩ := ends (by rw [← handled]; exact served)
    exact ⟨who, admitted, inner, entered, by rw [reached]; exact routed⟩

variable {lib state req} in
theorem userpass_served {name : Str} (asked : loginOf state req = some (scope, .userpass name))
    (served : (serve lib req state).1 = .ok answer) : ∃ who admitted user counter raw token,
      Admitted lib state req who admitted ∧
      rawToken lib req.draws = .ok raw ∧ UserLogin lib req.draws admitted scope name req.body req.now user counter
        token ∧
      step lib state req = (admitted.insertUser scope name (user.accept counter)).insertToken (hash lib raw) token := by
  obtain ⟨_, suffix, found, here, kinds⟩ := login_at_cases asked
  obtain ⟨nspace, mount⟩ := scope
  obtain rfl : nspace = req.nspace := here
  obtain ⟨who, admitted, _, entered, routed⟩ := served_mounted found served
  rcases kinds with ⟨kind, under, same⟩ | ⟨_, _, impossible⟩ | ⟨_, _, impossible⟩
  · cases same
    have ends := login_userpass_ends lib req.draws req.now admitted ⟨req.nspace, mount⟩ req.method (suffix.drop 6)
      req.body
    rw [mountedRoute, kind, if_neg (fun token => nomatch token.1), if_pos ⟨rfl, under⟩] at routed
    rw [Ends, routed] at ends
    rcases ends with ⟨_, impossible, _⟩ | ⟨user, counter, raw, token, _, _, drawn, login, reached⟩
    · cases impossible
    · exact ⟨who, admitted, user, counter, raw, token, entered, drawn, login, reached⟩
  · cases impossible
  · cases impossible

variable {lib state req} in
theorem approle_served (asked : loginOf state req = some (scope, .approle))
    (served : (serve lib req state).1 = .ok answer) :
    ∃ who admitted name secretId old role raw token, Admitted lib state req who admitted ∧ rawToken lib req.draws =
      .ok raw ∧
      RoleLogin lib req.draws admitted scope name secretId req.body req.now old role token ∧
      step lib state req = (admitted.insertToken (hash lib raw) token).insertRole scope name role := by
  obtain ⟨_, _, found, here, kinds⟩ := login_at_cases asked
  obtain ⟨nspace, mount⟩ := scope
  obtain rfl : nspace = req.nspace := here
  obtain ⟨who, admitted, _, entered, routed⟩ := served_mounted found served
  rcases kinds with ⟨_, _, impossible⟩ | ⟨kind, rfl, _⟩ | ⟨_, _, impossible⟩
  · cases impossible
  · have ends := login_approle_ends lib req.draws req.now admitted ⟨req.nspace, mount⟩ req.method req.body
    rw [mountedRoute, kind, if_neg (fun token => nomatch token.1), if_neg (fun userpass => nomatch userpass.1),
      if_neg (fun userpass => nomatch userpass.1), if_pos ⟨rfl, rfl⟩] at routed
    rw [Ends, routed] at ends
    rcases ends with ⟨_, impossible, _⟩ | ⟨name, secretId, old, role, raw, token, _, _, drawn, login, reached⟩
    · cases impossible
    · exact ⟨who, admitted, name, secretId, old, role, raw, token, entered, drawn, login, reached⟩
  · cases impossible

variable {lib state req} in
theorem jwt_served (asked : loginOf state req = some (scope, .jwt)) (served : (serve lib req state).1 = .ok answer) :
    ∃ who admitted roleName jwt config role verified raw token, Admitted lib state req who admitted ∧
      rawToken lib req.draws = .ok raw ∧ stringField req.body "jwt" = .ok jwt ∧
      JwtLogin lib req.draws admitted scope roleName jwt req.now config role verified token ∧
      step lib state req = afterJwtLogin lib admitted scope verified (hash lib raw) token req.now := by
  obtain ⟨_, _, found, here, kinds⟩ := login_at_cases asked
  obtain ⟨nspace, mount⟩ := scope
  obtain rfl : nspace = req.nspace := here
  obtain ⟨who, admitted, _, entered, routed⟩ := served_mounted found served
  rcases kinds with ⟨_, _, impossible⟩ | ⟨_, _, impossible⟩ | ⟨kind, rfl, _⟩
  · cases impossible
  · cases impossible
  · have path : req.path = str "auth/" ++ mount ++ str "/login" := by
      rw [(mount_at_path found).2, append_assoc, append_assoc]
      rfl
    have other : ¬req.path = str "auth/" ++ mount ++ str "/config" := by
      rw [path, append_cancel_left_eq]
      decide
    have ends := login_jwt_ends lib req.draws req.now admitted ⟨req.nspace, mount⟩ req.method req.body
    rw [mountedRoute, kind, if_neg (fun token => nomatch token.1), if_neg (fun userpass => nomatch userpass.1),
      if_neg (fun userpass => nomatch userpass.1), if_neg (fun approle => nomatch approle.1),
      if_neg (fun approle => nomatch approle.1), if_neg (fun approle => nomatch approle.1), if_pos rfl, jwtRoute, if_neg other,
      if_pos path] at routed
    rw [Ends, routed] at ends
    rcases ends with ⟨_, impossible, _⟩ | ⟨roleName, jwt, config, role, verified, raw, token, _, _, drawn, read, login, reached⟩
    · cases impossible
    · exact ⟨who, admitted, roleName, jwt, config, role, verified, raw, token, entered, drawn, read, login, reached⟩

theorem create_served (asked : createAsked state req = true) (answer : Option AuthResponse)
    (served : (serve lib req state).1 = .ok answer) :
    ∃ actor admitted parent noParent raw token, Admitted lib state req (some actor) admitted ∧
      rawToken lib req.draws = .ok raw ∧
      Created lib req.draws admitted actor req.nspace req.body req.now parent noParent token ∧
      step lib state req = admitted.insertToken (hash lib raw) token := by
  obtain ⟨⟨_, _, suffix⟩, found, named⟩ := (Option.any_eq_true _ _).mp asked
  simp only [Bool.and_eq_true, Bool.or_eq_true, beq_iff_eq] at named
  obtain ⟨⟨rfl, kind⟩, op⟩ := named
  obtain ⟨who, admitted, inner, entered, routed⟩ := served_mounted found served
  have path : req.path = str "auth/token/" ++ suffix := (mount_at_path found).2
  rw [mountedRoute, kind, if_pos ⟨rfl, rfl⟩] at routed
  have ends : Ends (tokenRoute lib req.draws who req.nspace req.method req.path req.body req.now)
      admitted fun res reached => res = .ok inner → ∃ actor parent noParent raw token, who = some actor ∧ rawToken lib req.draws = .ok raw ∧
        Created lib req.draws admitted actor req.nspace req.body req.now parent noParent token ∧
        reached = admitted.insertToken (hash lib raw) token := by
    refine ends_lift_cases nofun fun named same => ?_
    rw [path, strip_prefix_append] at same
    obtain rfl : suffix = named := Except.ok.inj same
    refine ends_refuse nofun fun _ => ?_
    refine ends_query nofun fun actor granted => ?_
    rw [if_pos op]
    refine ends_weaken (create_token_ends lib req.draws req.nspace req.now admitted actor _ req.body _)
      fun res reached ended answered => ?_
    rcases ended with ⟨_, impossible, _⟩ | ⟨parent, noParent, raw, token, _, _, drawn, created, _, _, same⟩
    · rw [answered] at impossible
      cases impossible
    · exact ⟨actor, parent, noParent, raw, token, (permitted_of granted).1, drawn, created, same⟩
  rw [Ends, routed] at ends
  obtain ⟨actor, parent, noParent, raw, token, rfl, drawn, created, same⟩ := ends rfl
  exact ⟨actor, admitted, parent, noParent, raw, token, entered, drawn, created, same⟩

def DeletesMount (scope : AuthScope) : Prop :=
  req.method = str "DELETE" ∧ req.nspace = scope.nspace ∧
    (∃ rest, req.path = str "sys/auth/" ++ rest ∧ trimEndMatches 47 (trimStartMatches 47 rest) = scope.mount) ∧
    ∃ answer, (serve lib req state).1 = .ok answer

theorem delete_served (scope : AuthScope) (deleted : DeletesMount lib state req scope) :
    ∃ who admitted, Admitted lib state req who admitted ∧ scope.mount ∈ admitted.effectiveAuthMounts scope.nspace ∧
      step lib state req =
        (admitted.withMounts scope.nspace
          ((admitted.effectiveAuthMounts scope.nspace).erase scope.mount)).disableAuthMount scope := by
  obtain ⟨method, nspaced, ⟨rest, path, named⟩, answer, served⟩ := deleted
  obtain ⟨nspace, mount⟩ := scope
  obtain rfl : req.nspace = nspace := nspaced
  rcases serve_ends lib state req with ⟨refused, _⟩ | ⟨who, admitted, entered, handled, _⟩
  · rw [refused] at served
    cases served
  · refine ⟨who, admitted, entered, ?_⟩
    have ends : Ends (handle lib req.draws who req.nspace req.method req.path req.body req.now)
        admitted fun res reached => res = .ok answer → mount ∈ admitted.effectiveAuthMounts req.nspace ∧ reached =
          (admitted.withMounts req.nspace ((admitted.effectiveAuthMounts req.nspace).erase mount)).disableAuthMount
            ⟨req.nspace, mount⟩ := by
      have here : req.path = str "sys/auth" ∨ (str "sys/auth/").isPrefixOf req.path := by
        rw [path]
        exact .inr <| isPrefixOf_iff_prefix.mpr (prefix_append _ _)
      refine ends_lift_cases (by rintro _ _ ⟨⟩) fun _ _ => ?_
      refine ends_lift_cases (by rintro _ _ ⟨⟩) fun _ _ => ?_
      rw [if_pos here]
      refine ends_bind (fun res reached => ∀ inner, res = .ok inner → mount ∈ admitted.effectiveAuthMounts req.nspace ∧
        reached = (admitted.withMounts req.nspace ((admitted.effectiveAuthMounts req.nspace).erase mount)).disableAuthMount
          ⟨req.nspace, mount⟩) ?_ (by rintro _ _ _ ⟨⟩) fun inner reached done _ => done inner rfl
      refine ends_lift_cases (by rintro _ _ _ ⟨⟩) fun suffix stripped => ?_
      obtain rfl : suffix = str "/" ++ rest := by
        rw [path, show str "sys/auth/" ++ rest = str "sys/auth" ++ (str "/" ++ rest) from rfl, strip_prefix_append] at stripped
        exact (Except.ok.inj stripped).symm
      have trimmed : trimEndMatches 47 (trimStartMatches 47 (str "/" ++ rest)) = mount := named
      rw [method]
      split
      · exact ends_refuse (by rintro _ _ ⟨⟩) fun listed => absurd (by decide) listed
      · refine ends_refuse (by rintro _ _ ⟨⟩) fun _ => ?_
        rw [if_neg (by decide), if_neg (by decide), if_pos rfl, trimmed]
        refine ends_query (by rintro _ _ _ ⟨⟩) fun actor _ => ?_
        refine ends_query (by rintro _ _ _ ⟨⟩) fun _ _ => ?_
        refine ends_lift_cases (by rintro _ _ _ ⟨⟩) fun _ _ => ?_
        refine ends_refuse (by rintro _ _ ⟨⟩) fun _ => ?_
        refine ends_query (by rintro _ _ _ ⟨⟩) fun entries looked => ?_
        obtain rfl := Except.ok.inj looked
        refine ends_modify (ends_refuse (by rintro _ _ ⟨⟩) fun present => ?_)
        exact fun _ _ => ⟨not_not.mp present, rfl⟩
    have reached : step lib state req = (handle lib req.draws who req.nspace req.method req.path
        req.body req.now admitted).2 := congrArg Prod.snd handled
    rw [reached]
    exact ends (by rw [← handled]; exact served)

end HeptaBao.Auth
