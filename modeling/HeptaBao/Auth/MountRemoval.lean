import HeptaBao.Auth.DeadTokens
import HeptaBao.Auth.Requests
import HeptaBao.Auth.StandIn

namespace HeptaBao.Auth

open Wire Std Durable Exec Forest List ExtTreeMap

namespace AuthState

variable (state : AuthState)

theorem revoke_up (id child above : Str) (link : Up (state.revoke id).lookup Token.parent child above) :
    Up state.lookup Token.parent child above := by
  obtain ⟨token, found, points⟩ := link
  exact ⟨token, state.revoke_kept id child token found, points⟩

theorem revoke_descends (id other ancestor : Str) (apart : ¬state.Descends other id) :
    (state.revoke id).Descends other ancestor ↔ state.Descends other ancestor := by
  constructor
  · intro descends
    exact Relation.ReflTransGen.mono (fun child above link => state.revoke_up id child above link) _ _ descends
  · intro descends
    induction descends using Relation.ReflTransGen.head_induction_on with
    | refl => exact .refl
    | head link _ ih =>
      obtain ⟨token, found, points⟩ := link
      refine (ih fun reaches => apart (reaches.head ⟨token, found, points⟩)).head ⟨token, ?_, points⟩
      exact (state.revoke_lookup id _ token).mpr ⟨found, apart⟩

theorem revoke_fold_iff (ids : List Str) (state : AuthState) (id : Str) (token : Token) :
    (ids.foldl revoke state).lookup id = some token ↔ state.lookup id = some token ∧
      ∀ other ∈ ids, ¬state.Descends id other := by
  induction ids generalizing state with
  | nil => simp
  | cons first _ ih =>
    rw [foldl_cons, ih, state.revoke_lookup]
    constructor
    · rintro ⟨⟨found, apart⟩, others⟩
      refine ⟨found, fun other member descends => ?_⟩
      rcases mem_cons.mp member with rfl | later
      · exact apart descends
      · exact others other later ((state.revoke_descends first id other apart).mpr descends)
    · rintro ⟨found, apart⟩
      have first_apart := apart first mem_cons_self
      refine ⟨⟨found, first_apart⟩, fun other member descends => ?_⟩
      exact apart other (mem_cons_of_mem _ member) ((state.revoke_descends first id other first_apart).mp descends)

variable (scope : AuthScope)

theorem mem_issued_ids (id : Str) : id ∈ state.issuedIds scope ↔ ∃ token, state.lookup id = some token ∧
    issuedAt scope token = true := by
  simp only [issuedIds, List.mem_map, List.mem_filter, Prod.exists, exists_and_right, exists_eq_right]
  constructor
  · rintro ⟨token, listed, issued⟩
    exact ⟨token, mem_toList_iff_getElem?_eq_some.mp listed, issued⟩
  · rintro ⟨token, found, issued⟩
    exact ⟨token, mem_toList_iff_getElem?_eq_some.mpr found, issued⟩

theorem clear_mount_lookup : (state.clearMount scope).lookup = state.lookup := by
  funext id
  simp [lookup, clearMount]

theorem disable_lookup_iff (id : Str) (token : Token) : (state.disableAuthMount scope).lookup id = some token ↔
      state.lookup id = some token ∧ ∀ other issued, state.lookup other = some issued → issuedAt scope issued = true →
        ¬state.Descends id other := by
  unfold disableAuthMount
  rw [revoke_fold_iff, clear_mount_lookup]
  have same : ∀ other, (state.clearMount scope).Descends id other ↔ state.Descends id other := by
    intro other
    unfold Descends
    rw [clear_mount_lookup]
  simp only [mem_issued_ids, same]
  constructor
  · rintro ⟨found, apart⟩
    exact ⟨found, fun other issued stored from_ => apart other ⟨issued, stored, from_⟩⟩
  · rintro ⟨found, apart⟩
    exact ⟨found, fun other ⟨issued, stored, from_⟩ => apart other issued stored from_⟩

end AuthState

variable (lib : Library)

def CreatedBy (state : AuthState) (req : Request) (family : Str → Prop) (id : Str) : Prop :=
  drawnId lib req = some id ∧ (∃ token, (step lib state req).lookup id = some token) ∧ createAsked state req = true ∧ family (hash lib req.token)

variable (scope : AuthScope)

def LoggedInAt (scope : AuthScope) (state : AuthState) (req : Request) (id : Str) : Prop :=
  drawnId lib req = some id ∧ (∃ token, (step lib state req).lookup id = some token) ∧ ∃ login, loginOf state req = some (scope, login)

def withCreated (state : AuthState) (req : Request) (family : Str → Prop) (id : Str) : Prop :=
  family id ∨ CreatedBy lib state req family id

def withDerived (scope : AuthScope) (state : AuthState) (req : Request) (family : Str → Prop) (id : Str) : Prop :=
  withCreated lib state req family id ∨ LoggedInAt lib scope state req id

variable (token : Token)

def FromMount : Prop := token.nspace = scope.nspace ∧ token.authMount = some scope.mount

def Recorded : Prop := token.authOriginKnown = true ∧ (token.root = true → token.authMount = none)

-- The recorded origin of a token says whether it derives from the mount.
structure OriginTracked (scope : AuthScope) (known family : Str → Prop) (state : AuthState) : Prop where
  holds : Known known state
  inside : ∀ id, family id → known id
  recorded : ∀ id token, state.lookup id = some token → Recorded token
  tracked : ∀ id token, state.lookup id = some token → (family id ↔ FromMount scope token)

theorem issued_at_iff (recorded : Recorded token) : AuthState.issuedAt scope token = true ↔ FromMount scope token := by
  obtain ⟨known, rootless⟩ := recorded
  unfold AuthState.issuedAt FromMount
  cases isRoot : token.root with
  | true => simp [rootless isRoot]
  | false => simp [known]

theorem create_no_login (state : AuthState) (nspace path : Str) (create : createAt state nspace path = true) :
    loginAt state nspace path = none := by
  obtain ⟨⟨_, _, _⟩, found, named⟩ := (Option.any_eq_true _ _).mp create
  simp only [Bool.and_eq_true, Bool.or_eq_true, beq_iff_eq] at named
  have kinds : str "token" ≠ str "userpass" ∧ str "token" ≠ str "approle" ∧ str "token" ≠ str "jwt" := by decide
  simp [loginAt, found, named.1.2, kinds.1, kinds.2.1, kinds.2.2]

variable {draws : Draws} {now : Nat} {token : Token}

variable {lib : Library}

variable {state : AuthState}

theorem login_from_mount {nspace path mount : Str} {login : Login} {names : Names} {uses : Nat}
    (logged : LoggedIn lib draws ⟨nspace, mount⟩ names uses now token)
    (asked : loginAt state nspace path = some (⟨nspace, mount⟩, login)) (scope : AuthScope) :
    (∃ kind, loginAt state nspace path = some (scope, kind)) ↔ FromMount scope token := by
  unfold FromMount
  rw [logged.nspaced, logged.mounted, asked]
  constructor
  · rintro ⟨kind, same⟩
    cases same
    exact ⟨rfl, rfl⟩
  · rintro ⟨here, there⟩
    obtain ⟨_, _⟩ := scope
    cases here
    cases there
    exact ⟨login, rfl⟩

theorem logged_recorded {scope : AuthScope} {names : Names} {uses : Nat}
    (logged : LoggedIn lib draws scope names uses now token) : Recorded token := by
  refine ⟨logged.known, fun root => ?_⟩
  rw [logged.root] at root
  cases root

variable {who : Option Principal}

theorem issuance_origin {admitted : AuthState} {req : Request} (entered : Admitted lib state req who admitted)
    (issued : Issuance lib req.draws who req.nspace req.path req.now admitted token)
    (recorded : ∀ id stored, state.lookup id = some stored → Recorded stored) (scope : AuthScope) : Recorded token ∧
      (FromMount scope token ↔ (∃ login, loginOf state req = some (scope, login)) ∨ createAsked state req = true ∧
        ∃ stored, state.lookup (hash lib req.token) = some stored ∧ FromMount scope stored) := by
  have mounts : ∀ nspace path, loginAt admitted nspace path = loginAt state nspace path ∧
      createAt admitted nspace path = createAt state nspace path := by
    intro nspace path
    cases entered <;> exact ⟨rfl, rfl⟩
  have noCreate : ∀ scope kind, loginAt state req.nspace req.path = some (scope, kind) → createAsked state req = false := by
    intro scope kind asked
    by_contra create
    rw [create_no_login state _ _ (by simpa using create)] at asked
    cases asked
  cases issued with
  | created actor _ parent _ _ permitted created asked =>
    rw [(mounts _ _).2] at asked
    have noLogin := create_no_login state _ _ asked
    -- the parent is the caller's own token, spent by one use
    have own : ∃ stored, state.lookup (hash lib req.token) = some stored ∧ stored.root = parent.root ∧
        stored.nspace = parent.nspace ∧ stored.authMount = parent.authMount ∧ stored.authOriginKnown = parent.authOriginKnown := by
      have active := (AuthState.check_principal_ok _ actor _ _ parent created.checked).1
      cases entered with
      | anonymous => cases permitted.1
      | authenticated stored _ live =>
        cases permitted.1
        have held := ((AuthState.active_token_ok _ _ _ _ parent).mp active).1
        rw [state.insert_token_lookup, if_pos rfl] at held
        cases held
        exact ⟨stored, ((state.active_token_ok _ _ true stored).mp live).1, rfl, rfl, rfl, rfl⟩
    obtain ⟨stored, held, sameRoot, sameNspace, sameMount, sameKnown⟩ := own
    obtain ⟨known, rootless⟩ := recorded _ stored held
    have placed := (AuthState.check_principal_ok _ actor _ _ parent created.checked).2.2
    refine ⟨⟨?_, fun root => ?_⟩, ?_⟩
    · rw [created.known, ← sameKnown, known, Bool.or_true]
    · rcases created.within with above | ⟨_, plain⟩
      · rw [created.mounted, ← sameMount, rootless (sameRoot.trans above)]
      · rw [created.root] at root
        exact absurd root plain
    · simp only [noLogin, reduceCtorEq, exists_false, false_or]
      constructor
      · rintro ⟨here, there⟩
        refine ⟨asked, stored, held, ?_, sameMount.trans (created.mounted.symm.trans there)⟩
        rcases placed with root | nspaced
        · rw [created.mounted, ← sameMount, rootless (sameRoot.trans root)] at there
          cases there
        · rw [sameNspace, nspaced, ← created.nspaced, here]
      · rintro ⟨_, other, found, here, there⟩
        rw [held] at found
        cases found
        refine ⟨?_, created.mounted.trans (sameMount.symm.trans there)⟩
        rcases placed with root | nspaced
        · rw [rootless (sameRoot.trans root)] at there
          cases there
        · rw [created.nspaced, ← nspaced, ← sameNspace, here]
  | userLogin _ _ _ _ _ _ login asked | roleLogin _ _ _ _ _ _ _ login asked =>
    rw [(mounts _ _).1] at asked
    have logged := (login_token_ok lib _ login.made).1
    refine ⟨logged_recorded logged, ?_⟩
    rw [← login_from_mount logged asked scope]
    simp [noCreate _ _ asked]
  | jwtLogin _ _ _ _ _ _ _ login asked =>
    rw [(mounts _ _).1] at asked
    have logged := (jwt_token_ok lib _ login.bound login.made).1
    refine ⟨logged_recorded logged, ?_⟩
    rw [← login_from_mount logged asked scope]
    simp [noCreate _ _ asked]

theorem create_caller {admitted : AuthState} {req : Request} (entered : Admitted lib state req who admitted)
    (issued : Issuance lib req.draws who req.nspace req.path req.now admitted token)
    (create : createAsked state req = true) : ∃ stored, state.lookup (hash lib req.token) = some stored := by
  cases entered with
  | authenticated stored _ live => exact ⟨stored, ((state.active_token_ok _ _ true stored).mp live).1⟩
  | anonymous =>
    have noLogin := create_no_login state _ _ create
    cases issued with
    | created _ _ _ _ _ permitted => cases permitted.1
    | userLogin _ _ _ _ _ _ _ asked | roleLogin _ _ _ _ _ _ _ _ asked | jwtLogin _ _ _ _ _ _ _ _ asked => rw [noLogin] at asked; cases asked

theorem from_mount_evolved {later : Token} (evolves : Evolves now token later) :
    (FromMount scope later ↔ FromMount scope token) ∧ (Recorded token → Recorded later) := by
  have same := evolves_same_issue evolves
  unfold FromMount Recorded
  rw [same.nspace, same.authMount, same.known, same.root]
  exact ⟨Iff.rfl, id⟩

theorem step_origin_tracked (lib : Library) (scope : AuthScope) (known family : Str → Prop) (state : AuthState)
    (req : Request)
    (fresh : ∀ id, drawnId lib req = some id → ¬known id) (tracked : OriginTracked scope known family state) :
    OriginTracked scope (withDrawn lib known req) (withDerived lib scope state req family) (step lib state req) := by
  refine ⟨step_known lib req tracked.holds, ?_, ?_, ?_⟩
  · rintro id ((old | ⟨drawn, _⟩) | ⟨drawn, _⟩)
    · exact .inl (tracked.inside id old)
    · exact .inr drawn
    · exact .inr drawn
  · intro id later found
    rcases step_tokens found with ⟨token, middle, stored, first, second⟩ | ⟨_, who, admitted, entered, issued⟩
    · exact (from_mount_evolved scope second).2 ((from_mount_evolved scope first).2 (tracked.recorded id token stored))
    · exact (issuance_origin entered issued tracked.recorded scope).1
  · intro id later found
    rcases step_tokens found with ⟨token, middle, stored, first, second⟩ | ⟨drawn, who, admitted, entered, issued⟩
    · have undrawn : ¬drawnId lib req = some id := fun drawn => fresh id drawn (tracked.holds id token stored).1
      rw [(from_mount_evolved scope second).1, (from_mount_evolved scope first).1, ← tracked.tracked id token stored]
      simp [withDerived, withCreated, CreatedBy, LoggedInAt, undrawn]
    · have outside : ¬family id := fun member => fresh id drawn (tracked.inside id member)
      rw [(issuance_origin entered issued tracked.recorded scope).2]
      have caller : ∀ stored, state.lookup (hash lib req.token) = some stored →
          (family (hash lib req.token) ↔ FromMount scope stored) := tracked.tracked _
      constructor
      · rintro ((old | ⟨_, _, create, member⟩) | ⟨_, _, login⟩)
        · exact absurd old outside
        · obtain ⟨stored, held⟩ := create_caller entered issued create
          exact .inr ⟨create, stored, held, (caller stored held).mp member⟩
        · exact .inl login
      · rintro (login | ⟨create, stored, held, origin⟩)
        · exact .inr ⟨drawn, ⟨later, found⟩, login⟩
        · exact .inl (.inr ⟨drawn, ⟨later, found⟩, create, (caller stored held).mpr origin⟩)

-- What derives from the mount when it is removed is gone, for good.
structure Gone (known family : Str → Prop) (state : AuthState) : Prop where
  holds : Known known state
  inside : ∀ id, family id → known id
  absent : ∀ id, family id → state.lookup id = none

theorem step_gone (lib : Library) (known family : Str → Prop) (state : AuthState) (req : Request)
    (fresh : ∀ id, drawnId lib req = some id → ¬known id) (gone : Gone known family state) :
    Gone (withDrawn lib known req) (withCreated lib state req family) (step lib state req) := by
  -- a member cannot create: it would have to be stored
  have none_joins : ∀ id, ¬CreatedBy lib state req family id := by
    rintro id ⟨drawn, ⟨token, found⟩, create, member⟩
    rcases step_tokens found with ⟨old, _, stored, _⟩ | ⟨_, who, admitted, entered, issued⟩
    · exact fresh id drawn (gone.holds id old stored).1
    · obtain ⟨stored, held⟩ := create_caller entered issued create
      rw [gone.absent _ member] at held
      cases held
  refine ⟨step_known lib req gone.holds, ?_, ?_⟩
  · rintro id (old | joins)
    · exact .inl (gone.inside id old)
    · exact absurd joins (none_joins id)
  · rintro id (old | joins)
    · cases found : (step lib state req).lookup id with
      | none => rfl
      | some =>
        rcases step_tokens found with ⟨stored, _, held, _⟩ | ⟨drawn, _⟩
        · rw [gone.absent id old] at held
          cases held
        · exact absurd (gone.inside id old) (fresh id drawn)
    · exact absurd joins (none_joins id)

theorem admitted_descends {admitted : AuthState} {req : Request}
    (entered : Admitted lib state req who admitted) {id above : Str} (descends : admitted.Descends id above) :
      state.Descends id above := by
  refine Relation.ReflTransGen.mono (fun child next link => ?_) _ _ descends
  obtain ⟨_, found, points⟩ := link
  obtain ⟨token, stored, evolves⟩ := admitted_tokens entered found
  exact ⟨token, stored, (evolves_same_issue evolves).parent ▸ points⟩

section

variable (lib : Library) (scope : AuthScope) (known family : Str → Prop) (state admitted : AuthState) (req : Request)
  (who : Option Principal) (entered : Admitted lib state req who admitted)
  (tracked : OriginTracked scope known family state)

include entered tracked

variable {lib scope known family state admitted req who} in
theorem admitted_issued_at {id : Str} (found : admitted.lookup id = some token) : AuthState.issuedAt scope token =
    true ↔ family id := by
  obtain ⟨old, stored, evolves⟩ := admitted_tokens entered found
  have same := from_mount_evolved scope evolves
  rw [issued_at_iff scope token (same.2 (tracked.recorded id old stored)), same.1, tracked.tracked id old stored]

theorem removed_absent (entries : Table AuthMount) (id : Str) (member : family id) :
    ((admitted.withMounts scope.nspace entries).disableAuthMount scope).lookup id = none := by
  cases found : ((admitted.withMounts scope.nspace entries).disableAuthMount scope).lookup id with
  | none => rfl
  | some token =>
    obtain ⟨stored, apart⟩ := (AuthState.disable_lookup_iff _ scope id token).mp found
    exact absurd .refl (apart id token stored ((admitted_issued_at entered
      tracked stored).mpr member))

variable {lib scope known family state admitted req who} in
theorem removed_unaffected (entries : Table AuthMount) (id : Str)
    (clean : ∀ above, state.Descends id above → ¬family above) :
    ((admitted.withMounts scope.nspace entries).disableAuthMount scope).lookup id = admitted.lookup id := by
  apply Option.ext
  intro token
  rw [AuthState.disable_lookup_iff]
  constructor
  · exact fun kept => kept.1
  · intro found
    refine ⟨found, fun other issued stored origin descends => ?_⟩
    have member := (admitted_issued_at entered tracked stored).mp origin
    exact clean other (admitted_descends entered descends) member

theorem removed_alive (entries : Table AuthMount) (id : Str)
    (clean : ∀ above, state.Descends id above → ¬family above) (time : Nat) :
    ((admitted.withMounts scope.nspace entries).disableAuthMount scope).Alive time id ↔ admitted.Alive time id := by
  have along : ∀ above, admitted.Descends id above →
      ((admitted.withMounts scope.nspace entries).disableAuthMount scope).lookup above = admitted.lookup above := by
    intro above descends
    have reaches := admitted_descends entered descends
    exact removed_unaffected entered tracked entries above
      fun further beyond => clean further (reaches.trans beyond)
  constructor
  · intro alive
    refine lineage_transfer _ id alive fun above descends => ?_
    symm
    apply along
    refine Relation.ReflTransGen.mono (fun child next link => ?_) _ _ descends
    obtain ⟨token, found, points⟩ := link
    exact ⟨token, ((AuthState.disable_lookup_iff _ scope child token).mp found).1, points⟩
  · intro alive
    exact lineage_transfer _ id alive along

end

def Unconfigured (state : AuthState) : Prop :=
  (∀ name, state.user scope name = none) ∧ (∀ name, state.role scope name = none) ∧ state.jwtConfig scope = none

def Mounted (state : AuthState) : Prop := scope.mount ∈ state.effectiveAuthMounts scope.nspace

theorem change_unconfigured {nspace path : Str}
    {after : AuthState} (change : Change lib draws who nspace path now state after) {scope : AuthScope}
    (absent : ¬Mounted scope state) (bare : Unconfigured scope state) : Unconfigured scope after := by
  obtain ⟨users, roles, config⟩ := bare
  refine ⟨fun name => ?_, fun name => ?_, ?_⟩
  · cases found : after.user scope name with
    | none => rfl
    | some =>
      cases change_user change found with
      | kept _ stored => rw [users name] at stored; cases stored
      | written _ _ _ here routed => subst here; exact absurd routed absent
      | loggedIn _ _ _ _ _ login =>
        have stored := login.found
        rw [users name] at stored
        cases stored
  · cases found : after.role scope name with
    | none => rfl
    | some =>
      cases change_role change found with
      | kept _ stored | tidied _ stored => rw [roles name] at stored; cases stored
      | written _ _ _ here routed => subst here; exact absurd routed absent
      | loggedIn _ _ _ _ _ _ login =>
        have stored := login.found
        rw [roles name] at stored
        cases stored
  · rcases change_jwt_at lib draws who nspace path now state after change scope with same | cleared | ⟨here, routed⟩
    · unfold AuthState.jwtConfig at config ⊢
      rw [same]
      exact config
    · unfold AuthState.jwtConfig
      rw [cleared]
      rfl
    · subst here
      exact absurd routed absent

theorem step_unconfigured (lib : Library) (scope : AuthScope) (state : AuthState) (req : Request)
    (absent : ¬Mounted scope state) (bare : Unconfigured scope state) : Unconfigured scope (step lib state req) := by
  rcases serve_ends lib state req with ⟨_, same⟩ | ⟨who, admitted, entered, _, change⟩
  · rw [same]
    exact bare
  · refine change_unconfigured change ?_ ?_
    · unfold Mounted at absent ⊢
      rw [admitted_mounts entered]
      exact absent
    · cases entered <;> exact bare

theorem login_needs_mount {req : Request} {scope : AuthScope} {login : Login}
    (asked : loginOf state req = some (scope, login)) {answer : Option AuthResponse}
    (served : (serve lib req state).1 = .ok answer) : Mounted scope state ∧ ¬Unconfigured scope state := by
  constructor
  · obtain ⟨_, _, found, here, _⟩ := login_at_cases asked
    unfold Mounted
    rw [here]
    exact mount_at_member found
  · rintro ⟨users, roles, config⟩
    cases login with
    | userpass name =>
      obtain ⟨who, admitted, _, _, _, _, entered, _, logged, _⟩ := userpass_served asked served
      have found := logged.found
      rw [show admitted.user scope name = state.user scope name by cases entered <;> rfl, users name] at found
      cases found
    | approle =>
      obtain ⟨who, admitted, name, _, _, _, _, _, entered, _, logged, _⟩ := approle_served asked served
      have found := logged.found
      rw [show admitted.role scope name = state.role scope name by cases entered <;> rfl, roles name] at found
      cases found
    | jwt =>
      obtain ⟨_, admitted, _, _, _, _, _, _, _, entered, _, _, logged, _⟩ := jwt_served asked served
      have found := logged.configured
      rw [show admitted.jwtConfig scope = state.jwtConfig scope by cases entered <;> rfl, config] at found
      cases found

theorem removed_unmounted (admitted : AuthState) :
    ¬Mounted scope ((admitted.withMounts scope.nspace
      ((admitted.effectiveAuthMounts scope.nspace).erase scope.mount)).disableAuthMount scope) ∧
    Unconfigured scope
      ((admitted.withMounts scope.nspace ((admitted.effectiveAuthMounts scope.nspace).erase
        scope.mount)).disableAuthMount scope) := by
  refine ⟨?_, fun name => ?_, fun name => ?_, ?_⟩
  · simp [Mounted, AuthState.effectiveAuthMounts, AuthState.disable_mounts, AuthState.withMounts]
  · simp [AuthState.user, AuthState.disable_users]
  · simp [AuthState.role, AuthState.disable_roles]
  · simp [AuthState.jwtConfig, AuthState.disable_jwt]

theorem login_after_removal {scope : AuthScope} {requests : List Request}
    (absent : ¬Mounted scope state) (bare : Unconfigured scope state)
    (mounted : Mounted scope (run (step lib) state requests))
    (configured : ¬Unconfigured scope (run (step lib) state requests)) :
    ∃ first enable second configure third, requests = first ++ enable :: (second ++ configure :: third) ∧
      (¬Mounted scope (run (step lib) state first) ∧ Mounted scope (run (step lib) state (first ++ [enable]))) ∧
      Unconfigured scope (run (step lib) state (first ++ enable :: second)) ∧
      ¬Unconfigured scope (run (step lib) state (first ++ enable :: second ++ [configure])) := by
  obtain ⟨first, enable, rest, rfl, along, enabled⟩ :=
    @run_leaves _ _ (step lib) (fun reached => ¬Mounted scope reached) state requests absent (not_not.mpr mounted)
  have still : Unconfigured scope (run (step lib) state (first ++ [enable])) :=
    run_invariant (fun reached req => step_unconfigured lib scope reached req) state
      bare along
  rw [append_cons, run_append] at configured
  obtain ⟨second, configure, third, rfl, within, left⟩ := run_leaves _ still configured
  have before := ((along_append _ _ _ _ _).mp within).2.1
  refine ⟨first, enable, second, configure, third, rfl, ⟨((along_append _ _ _ _ _).mp along).2.1, ?_⟩, ?_, ?_⟩
  · rw [run_append]
    exact not_not.mp enabled
  · rw [append_cons, run_append]
    exact before
  · rw [run_append, append_cons, run_append]
    exact left

-- The tokens that derive from a login at the mount, as issued so far.
def mountFamily (lib : Library) (scope : AuthScope) (start : AuthState) (requests : List Request) : Str → Prop :=
  history (step lib) (withDerived lib scope) start (fun _ => False) requests

theorem bootstrap_tracked {start : AuthState} {raw : Str} (booted : bootstrap lib draws now = .ok (start, raw))
    (scope : AuthScope) :
    OriginTracked scope (· ∈ [hash lib raw]) (fun _ => False) start := by
  have holds := bootstrap_known booted
  obtain ⟨accessor, _, booted⟩ := bind_ok booted
  obtain ⟨_, _, booted⟩ := bind_ok booted
  cases booted
  have only : ∀ id token, AuthState.lookup ⟨(∅ : Table Token).insert (hash lib raw) (rootToken accessor now), ∅, ∅, ∅, ∅, ∅, ∅, ∅⟩ id =
      some token → token = rootToken accessor now := by
    intro id token found
    rw [AuthState.lookup, lookup_insert] at found
    by_cases same : hash lib raw = id
    · simpa [same] using found.symm
    · simp [same] at found
  refine ⟨holds, fun _ impossible => impossible.elim, fun id token found => ?_, fun id token found => ?_⟩
  · rw [only id token found]
    exact ⟨rfl, fun _ => rfl⟩
  · rw [only id token found]
    exact ⟨fun impossible => impossible.elim, fun origin => by cases origin.2⟩

/-- Removing a mount ends what derives from it, keeps logins out, and touches no other token. -/
theorem mount_removal_complete (lib : Library) (draws : Draws) (origin : Nat) (start : AuthState) (raw : Str)
    (booted : bootstrap lib draws origin = .ok (start, raw)) (scope : AuthScope) (before : List Request) (req : Request)
    (after : List Request) (distinct : (hash lib raw :: (before ++ req :: after).filterMap (drawnId lib)).Nodup)
    (deleted : DeletesMount lib (run (step lib) start before) req scope) :
    (∀ presented time, history (step lib) (withCreated lib) (run (step lib) start (before ++ [req]))
        (mountFamily lib scope start before) after (hash lib presented) →
      (authenticate lib presented time (run (step lib) start (before ++ req :: after))).1 = .error denied) ∧
    (∀ login attempt answer, loginOf (run (step lib) start (before ++ req :: after)) attempt = some (scope, login) →
      (serve lib attempt (run (step lib) start (before ++ req :: after))).1 = .ok answer →
      ∃ first enable second configure third, after = first ++ enable :: (second ++ configure :: third) ∧
        (¬Mounted scope (run (step lib) start (before ++ req :: first)) ∧
          Mounted scope (run (step lib) start (before ++ req :: (first ++ [enable])))) ∧
        Unconfigured scope (run (step lib) start (before ++ req :: (first ++ enable :: second))) ∧
        ¬Unconfigured scope (run (step lib) start (before ++ req :: (first ++ enable :: second ++ [configure])))) ∧
    ∃ who admitted, Admitted lib (run (step lib) start before) req who admitted ∧
      ∀ presented, (∀ above, (run (step lib) start before).Descends (hash lib presented) above →
        ¬mountFamily lib scope start before above) →
        (run (step lib) start (before ++ [req])).lookup (hash lib presented) = admitted.lookup (hash lib presented) ∧
        ∀ time, (authenticate lib presented time (run (step lib) start (before ++ [req]))).1 =
          (authenticate lib presented time admitted).1 := by
  have fresh := fresh_of_nodup [hash lib raw] distinct
  rw [fresh_along_append] at fresh
  have tracked := fresh_run_invariant (step_origin_tracked lib scope) _ _ start (bootstrap_tracked booted scope) fresh.1
  obtain ⟨who, admitted, entered, _, reached⟩ := delete_served lib _ req scope deleted
  have next : run (step lib) start (before ++ [req]) = step lib (run (step lib) start before) req := by
    rw [run_append]
    rfl
  have onward : ∀ requests, run (step lib) start (before ++ req :: requests) = run (step lib) (run (step lib) start (before ++ [req])) requests := by
    intro requests
    rw [append_cons, run_append]
  obtain ⟨unmounted, bare⟩ := removed_unmounted scope admitted
  rw [← reached, ← next] at unmounted bare
  refine ⟨fun presented time member => ?_, fun login attempt answer asked served => ?_, who, admitted, entered, fun presented clean => ?_⟩
  · have gone : Gone (withDrawn lib (afterDraws lib (· ∈ [hash lib raw]) before) req)
        (mountFamily lib scope start before) (run (step lib) start (before ++ [req])) := by
      refine ⟨?_, fun id member => .inl (tracked.inside id member), fun id member => ?_⟩
      · rw [next]
        exact step_known lib req tracked.holds
      · rw [next, reached]
        exact removed_absent lib scope _ _ _ admitted req who entered tracked _ id member
    have still := fresh_run_invariant (step_gone lib) _ _ _ gone fresh.2.2
    rw [onward]
    refine authenticate_dead fun alive => ?_
    obtain ⟨_, stored, _⟩ := lineage_record _ _ alive
    rw [still.absent _ member] at stored
    cases stored
  · obtain ⟨mounted, configured⟩ := login_needs_mount asked served
    rw [onward] at mounted configured
    obtain ⟨first, enable, second, configure, third, split, enabled, stillBare, configures⟩ := login_after_removal unmounted bare mounted configured
    refine ⟨first, enable, second, configure, third, split, ?_⟩
    rw [onward first, onward (first ++ [enable]), onward (first ++ enable :: second), onward (first ++ enable :: second ++ [configure])]
    exact ⟨enabled, stillBare, configures⟩
  · rw [next, reached]
    have record := removed_unaffected entered tracked
      ((admitted.effectiveAuthMounts scope.nspace).erase scope.mount) (hash lib presented) clean
    refine ⟨record, fun time => authenticate_same time record ?_⟩
    exact removed_alive lib scope _ _ _ admitted req who entered tracked _ _ clean time

def approleRequests : List Request := [
  requestBy 2 "POST" "auth/approle/role/dev" [] 10 (drawn 3 4),
  requestBy 2 "POST" "auth/approle/role/dev/secret-id" [] 20 (drawn 5 6),
  { requestBy 0 "POST" "auth/approle/login" [
      ("role_id", .string (str "role." ++ encodeUrlSafe (replicate 32 3))),
      ("secret_id", .string (str "secret." ++ encodeUrlSafe (replicate 32 5)))] 30 (drawn 7 8) with token := [] }]

def approleRemoval : Request := requestBy 2 "DELETE" "sys/auth/approle" [] 40 (drawn 1 9)

def approleScope : AuthScope := ⟨[], str "approle"⟩

theorem approle_login_removed : (authenticate plainLibrary (rawOf 8) 50
    (run (step plainLibrary) bootedState approleRequests)).1.isOk = true ∧
    (authenticate plainLibrary (rawOf 8) 50
      (run (step plainLibrary) bootedState (approleRequests ++ [approleRemoval]))).1 = .error denied := by
  refine ⟨by decide +kernel, ?_⟩
  have deleted : DeletesMount plainLibrary (run (step plainLibrary) bootedState approleRequests) approleRemoval approleScope :=
    ⟨by decide +kernel, rfl, ⟨str "approle", by decide +kernel, by decide +kernel⟩, answered _ (by decide +kernel)⟩
  have issued : ((run (step plainLibrary) bootedState approleRequests).lookup (idOf 8)).isSome = true := by decide +kernel
  exact (mount_removal_complete plainLibrary (drawn 1 2) 0 bootedState (rawOf 2) booted_state approleScope approleRequests approleRemoval []
    (by decide +kernel) deleted).1 (rawOf 8) 50
    (.inr ⟨by decide +kernel, Option.isSome_iff_exists.mp issued, .approle, by decide +kernel⟩)

end HeptaBao.Auth
