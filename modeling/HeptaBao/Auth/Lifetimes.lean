import HeptaBao.Auth.Requests
import HeptaBao.Auth.StandIn
import HeptaBao.Auth.DeadTokens

namespace HeptaBao.Auth

open Wire Std Durable Exec Forest

-- Users and roles whose tokens start within their maximum.
structure TtlOrdered (state : AuthState) : Prop where
  users : ∀ scope name user, state.user scope name = some user → user.tokenTtl ≤ user.tokenMaxTtl
  roles : ∀ scope name role, state.role scope name = some role → role.tokenTtl ≤ role.tokenMaxTtl

variable {lib : Library} {who : Option Principal} {now : Nat} {state : AuthState}

theorem change_ttl_ordered {draws : Draws} {nspace path : Str}
    {after : AuthState} (change : Change lib draws who nspace path now state after) (ordered : TtlOrdered state) :
    TtlOrdered after where
  users scope name user found := by
    cases change_user change found with
    | kept _ stored => exact ordered.users scope name user stored
    | written actor _ _ _ _ cause =>
      cases cause with
      | mfaRemoved old stored | mfaEnrolled old _ stored => exact ordered.users scope name old stored
      | updated body _ made => exact (updated_user_ok made).2.1
    | loggedIn _ old counter _ _ login =>
      have kept : (old.accept counter).tokenTtl = old.tokenTtl ∧ (old.accept counter).tokenMaxTtl = old.tokenMaxTtl := by
        cases counter <;> exact ⟨rfl, rfl⟩
      rw [kept.1, kept.2]
      exact ordered.users scope name old login.found
  roles scope name role found := by
    cases change_role change found with
    | kept _ stored => exact ordered.roles scope name role stored
    | written actor _ _ _ _ cause =>
      cases cause with
      | renamed old _ stored | secretAdded old _ _ stored | secretDestroyed old _ stored => exact ordered.roles scope name old stored
      | updated body _ made => exact (updated_role_ok made).2.1
    | tidied old stored => exact ordered.roles scope name old stored
    | loggedIn _ _ old _ _ _ login =>
      obtain ⟨_, _, _, rfl⟩ := spent_role_ok lib login.spent
      exact ordered.roles scope name old login.found

theorem admitted_ttl_ordered {admitted : AuthState} {req : Request}
    (entered : Admitted lib state req who admitted) (ordered : TtlOrdered state) : TtlOrdered admitted := by
  cases entered <;> exact ⟨ordered.users, ordered.roles⟩

theorem step_ttl_ordered (lib : Library) (state : AuthState) (req : Request) (ordered : TtlOrdered state) :
    TtlOrdered (step lib state req) := by
  rcases serve_ends lib state req with ⟨_, same⟩ | ⟨who, admitted, entered, _, change⟩
  · rw [same]
    exact ordered
  · exact change_ttl_ordered change
      (admitted_ttl_ordered entered ordered)

theorem bootstrap_ttl_ordered {draws : Draws} {start : AuthState} {raw : Str}
    (booted : bootstrap lib draws now = .ok (start, raw)) : TtlOrdered start := by
  obtain ⟨_, _, booted⟩ := bind_ok booted
  obtain ⟨_, _, booted⟩ := bind_ok booted
  cases booted
  constructor
  · intro scope name user found
    simp [AuthState.user, AuthState.usersAt] at found
  · intro scope name role found
    simp [AuthState.role, AuthState.rolesAt] at found

-- The end that request, user, role or assertion sets for the issued token.
inductive Capped (lib : Library) (state : AuthState) (req : Request) : Nat → Prop where
  | created (maximum : Nat) (asked : createAsked state req = true)
      (explicit : duration req.body "explicit_max_ttl" 0 = .ok maximum) (positive : 0 < maximum) :
      Capped lib state req (req.now + maximum)
  | userpass (scope : AuthScope) (name : Str) (user : User) (asked : loginOf state req = some (scope, .userpass name))
      (stored : state.user scope name = some user) : Capped lib state req (req.now + user.tokenMaxTtl)
  | approle (scope : AuthScope) (roleId name : Str) (role : Role) (asked : loginOf state req = some (scope, .approle))
      (identified : stringField req.body "role_id" = .ok roleId)
      (stored : findRole (state.rolesAt scope) roleId = some (name, role)) :
      Capped lib state req (req.now + role.tokenMaxTtl)
  | jwt (scope : AuthScope) (jwt : Str) (claims : AssertedClaims) (asked : loginOf state req = some (scope, .jwt))
      (presented : stringField req.body "jwt" = .ok jwt) (claimed : assertedClaims lib jwt = some claims) :
      Capped lib state req claims.verified.expiresAt

def endlessRoot (lib : Library) (state : AuthState) (req : Request) : Bool :=
  createAsked state req && ((do
    let parent ← state.lookup (hash lib req.token)
    let noDefault ← (boolean req.body "no_default_policy" false).toOption
    let requested ← (policies req.body "policies" parent.policies !noDefault).toOption
    let ttl ← (duration req.body "ttl" defaultTtl).toOption
    let period ← (duration req.body "period" 0).toOption
    some (requested.contains (str "root") && ttl == 0 && period == 0)) : Option Bool).getD false

-- The token ends by then, and no renewal can take it further.
def EndsBy (cap : Nat) (token : Token) : Prop :=
  (∃ expiry, token.expiresAt = some expiry ∧ expiry ≤ cap) ∧ ∃ limit, token.maxExpiresAt = some limit ∧ limit ≤ cap

variable {token : Token}

theorem evolves_ends_by (cap : Nat) {later : Token} (evolves : Evolves now token later) (ends : EndsBy cap token) :
    EndsBy cap later := by
  cases evolves with
  | kept | spent => exact ends
  | renewed expiresAt _ _ capped =>
    obtain ⟨_, limit, same, within⟩ := ends
    exact ⟨⟨expiresAt, rfl, (capped limit same).trans within⟩, limit, same, within⟩

variable {noParent : Bool}

theorem token_times_capped {body : Value} {parent : Token} {root : Bool} {period maximum : Nat} {times : TokenTimes}
    (timed : tokenTimes body parent root noParent period now = .ok times)
    (explicit : duration body "explicit_max_ttl" 0 = .ok maximum) (positive : 0 < maximum)
    (expires : ¬(root = true ∧ duration body "ttl" defaultTtl = .ok 0 ∧ period = 0)) :
    (∃ expiry, times.expiresAt = some expiry ∧ expiry ≤ now + maximum) ∧ times.maxExpiresAt = some (now + maximum) := by
  obtain ⟨asked, askedTtl, timed⟩ := bind_ok timed
  have expiring : ¬(root = true ∧ (if 0 < period then period else if asked = 0 ∧ root = false then defaultTtl else asked) = 0) := by
    rintro ⟨isRoot, zero⟩
    have never : period = 0 := by
      by_contra periodic
      rw [if_pos (Nat.pos_of_ne_zero periodic)] at zero
      exact periodic zero
    subst never
    simp only [Nat.lt_irrefl, isRoot, if_false, Bool.true_eq_false, and_false] at zero
    exact expires ⟨isRoot, by rw [askedTtl, zero], rfl⟩
  dsimp only at timed
  generalize (if 0 < period then period else if asked = 0 ∧ root = false then defaultTtl else asked) = ttl at timed expiring
  by_cases long : maxTtl < ttl
  · rw [if_pos long] at timed
    cases timed
  rw [if_neg long] at timed
  obtain ⟨_, same, timed⟩ := bind_ok timed
  rw [explicit] at same
  cases same
  by_cases longMax : maxTtl < maximum
  · rw [if_pos longMax] at timed
    cases timed
  rw [if_neg longMax, if_pos positive] at timed
  obtain ⟨_, limited, timed⟩ := bind_ok timed
  rw [if_neg expiring] at timed
  obtain ⟨_, expired, timed⟩ := bind_ok timed
  obtain ⟨limit, checkedLimit, rfl⟩ := map_ok limited
  obtain ⟨instant, _, rfl⟩ := map_ok expired
  have within := checked_expiry_ok checkedLimit
  cases timed
  refine ⟨?_, by rw [within]⟩
  -- with a parent that expires, the earlier of the two instants counts
  cases noParent with
  | true => exact ⟨min instant limit, rfl, by omega⟩
  | false =>
    cases parent.expiresAt with
    | none => exact ⟨min instant limit, rfl, by omega⟩
    | some above => exact ⟨min (min instant limit) above, rfl, by omega⟩

theorem created_ends_by {admitted : AuthState} {req : Request} {actor : Principal} {parent : Token}
    {maximum : Nat} (asked : createAsked state req = true) (entered : Admitted lib state req (some actor) admitted)
    (created : Created lib req.draws admitted actor req.nspace req.body req.now parent noParent token)
    (explicit : duration req.body "explicit_max_ttl" 0 = .ok maximum) (positive : 0 < maximum)
    (expires : endlessRoot lib state req = false) : EndsBy (req.now + maximum) token := by
  obtain ⟨_, _, timed, periodic, _, expiry, limit⟩ := created.timed
  obtain ⟨_, defaulted, named⟩ := created.named
  -- the token create_token reads as the parent is the caller's own
  have own : ∃ stored, state.lookup (hash lib req.token) = some stored ∧ stored.policies = parent.policies := by
    have active := (admitted.check_principal_ok actor _ _ parent created.checked).1
    cases entered with
    | authenticated stored _ live =>
      have held := ((AuthState.active_token_ok _ _ _ _ parent).mp active).1
      rw [state.insert_token_lookup, if_pos rfl] at held
      cases held
      exact ⟨stored, ((state.active_token_ok _ _ true stored).mp live).1, rfl⟩
  obtain ⟨_, held, same⟩ := own
  have capped := token_times_capped timed explicit positive (by
    rintro ⟨isRoot, unasked, rfl⟩
    rw [created.root] at isRoot
    simp [endlessRoot, asked, held, defaulted, same, named, unasked, periodic, isRoot, Except.toOption] at expires)
  rw [← expiry, ← limit] at capped
  exact ⟨capped.1, req.now + maximum, capped.2, Nat.le_refl _⟩

variable {cap : Nat}

theorem capped_issue {req : Request} (capped : Capped lib state req cap)
    (ordered : TtlOrdered state) (expires : endlessRoot lib state req = false) {answer : Option AuthResponse}
    (served : (serve lib req state).1 = .ok answer) :
    ∃ id token, drawnId lib req = some id ∧ (step lib state req).lookup id = some token ∧ EndsBy cap token := by
  have draws : ∀ raw, rawToken lib req.draws = .ok raw → drawnId lib req = some (hash lib raw) := by
    intro raw drawn
    simp [drawnId, drawn, Except.toOption]
  cases capped with
  | created _ asked explicit positive =>
    obtain ⟨actor, admitted, parent, noParent, raw, token, entered, drawn, created, reached⟩ := create_served lib state req asked answer served
    refine ⟨hash lib raw, token, draws raw drawn, ?_, ?_⟩
    · rw [reached, AuthState.insert_token_lookup, if_pos rfl]
    · exact created_ends_by asked entered created explicit
        positive expires
  | userpass scope name user asked stored =>
    obtain ⟨who, admitted, other, counter, raw, token, entered, drawn, login, reached⟩ := userpass_served asked served
    have sameUser : other = user := by
      have found := login.found
      rw [show admitted.user scope name = state.user scope name by cases entered <;> rfl, stored] at found
      exact (Option.some.inj found).symm
    subst sameUser
    obtain ⟨_, expiry, limit⟩ := login_token_ok lib _ login.made
    refine ⟨hash lib raw, token, draws raw drawn, ?_, ⟨_, expiry, ?_⟩, _, limit, Nat.le_refl _⟩
    · rw [reached, AuthState.insert_token_lookup, if_pos rfl]
    · have := ordered.users scope name other stored
      omega
  | approle scope _ name role asked identified stored =>
    obtain ⟨who, admitted, otherName, secretId, old, role', raw, token, entered, drawn, login, reached⟩ := approle_served asked served
    have sameRole : old = role ∧ state.role scope otherName = some old := by
      obtain ⟨named, given, found⟩ := login.identified
      rw [identified] at given
      cases given
      rw [show admitted.rolesAt scope = state.rolesAt scope by cases entered <;> rfl, stored] at found
      cases found
      refine ⟨rfl, ?_⟩
      rw [show state.role scope name = admitted.role scope name by cases entered <;> rfl]
      exact login.found
    obtain ⟨rfl, held⟩ := sameRole
    obtain ⟨_, _, _, rfl⟩ := spent_role_ok lib login.spent
    obtain ⟨_, expiry, limit⟩ := login_token_ok lib _ login.made
    refine ⟨hash lib raw, token, draws raw drawn, ?_, ⟨_, expiry, ?_⟩, _, limit, Nat.le_refl _⟩
    · rw [reached]
      simp [AuthState.lookup, AuthState.insertRole, AuthState.insertToken]
    · have := ordered.roles scope otherName old held
      exact Nat.add_le_add_left this req.now
  | jwt scope _ claims asked presented claimed =>
    obtain ⟨who, admitted, roleName, text, config, role, verified, raw, token, entered, drawn, read, login, reached⟩ := jwt_served asked served
    rw [presented] at read
    cases read
    have sameClaims := (verify_jwt_claims lib login.verifies).1
    rw [claimed] at sameClaims
    obtain rfl : claims.verified = verified := by simpa using sameClaims
    obtain ⟨_, expiry, limit, expires, limits, first, second⟩ := jwt_token_ok lib _ login.bound login.made
    refine ⟨hash lib raw, token, draws raw drawn, ?_, ⟨expiry, expires, first.trans second⟩, limit, limits, second⟩
    rw [reached]
    simp [AuthState.lookup, afterJwtLogin, AuthState.insertToken]

def withChildren (lib : Library) (state : AuthState) (req : Request) (family : Str → Prop) (id : Str) : Prop :=
  family id ∨ drawnId lib req = some id ∧ ∃ token above, (step lib state req).lookup id = some token ∧ token.parent = some above ∧ family above

structure FamilyBounded (cap : Nat) (known family : Str → Prop) (state : AuthState) : Prop where
  holds : Known known state
  inside : ∀ id, family id → known id
  bounded : ∀ id token, family id → state.lookup id = some token → EndsBy cap token ∨
    ∃ above, token.parent = some above ∧ family above

theorem step_family_bounded (lib : Library) (cap : Nat) (known family : Str → Prop) (state : AuthState) (req : Request)
    (fresh : ∀ id, drawnId lib req = some id → ¬known id) (bounded : FamilyBounded cap known family state) :
    FamilyBounded cap (withDrawn lib known req) (withChildren lib state req family) (step lib state req) where
  holds := step_known lib req bounded.holds
  inside id member := by
    rcases member with old | ⟨drawn, _⟩
    · exact .inl (bounded.inside id old)
    · exact .inr drawn
  bounded id later member found := by
    rcases step_tokens found with ⟨token, middle, stored, first, second⟩ | ⟨drawn, _⟩
    · have old : family id := by
        rcases member with old | ⟨drawn, _⟩
        · exact old
        · exact absurd (bounded.holds id token stored).1 (fresh id drawn)
      rcases bounded.bounded id token old stored with ends | ⟨above, points, joined⟩
      · exact .inl (evolves_ends_by cap second (evolves_ends_by cap first ends))
      · refine .inr ⟨above, ?_, .inl joined⟩
        rw [(evolves_same_issue second).parent, (evolves_same_issue first).parent, points]
    · rcases member with old | ⟨_, token, above, held, points, joined⟩
      · exact absurd (bounded.inside id old) (fresh id drawn)
      · rw [held] at found
        cases found
        exact .inr ⟨above, points, .inl joined⟩

theorem ends_by_unusable {time : Nat} (ends : EndsBy cap token) (late : cap ≤ time) : token.usable time = false := by
  obtain ⟨⟨expiry, same, within⟩, _⟩ := ends
  have past : expiry ≤ time := within.trans late
  simp [Token.usable, Token.expired, same, past]

theorem family_dead {known family : Str → Prop} (bounded : FamilyBounded cap known family state)
    {time : Nat} (late : cap ≤ time) {id : Str} (member : family id) : ¬state.Alive time id := by
  intro alive
  -- up the lineage: the first token with an end is reached before the top
  induction alive with
  | top id token found usable top =>
    rcases bounded.bounded id token member found with ends | ⟨above, points, _⟩
    · rw [ends_by_unusable ends late] at usable
      cases usable
    · rw [top] at points
      cases points
  | under id _ token found usable points _ ih =>
    rcases bounded.bounded id token member found with ends | ⟨next, pointsNext, joined⟩
    · rw [ends_by_unusable ends late] at usable
      cases usable
    · rw [points] at pointsNext
      cases pointsNext
      exact ih joined

/-- Neither a token issued with an end nor any that derives from it gets past that end. -/
theorem lifetime_capped (lib : Library) (draws : Draws) (origin : Nat) (start : AuthState) (raw : Str)
    (booted : bootstrap lib draws origin = .ok (start, raw)) (before : List Request) (req : Request)
    (after : List Request)
    (distinct : (hash lib raw :: (before ++ req :: after).filterMap (drawnId lib)).Nodup) (cap : Nat)
    (capped : Capped lib (run (step lib) start before) req cap)
    (expires : endlessRoot lib (run (step lib) start before) req = false) (answer : Option AuthResponse)
    (served : (serve lib req (run (step lib) start before)).1 = .ok answer) (presented : Str)
    (derived : history (step lib) (withChildren lib) (run (step lib) start (before ++ [req]))
      (drawnId lib req = some ·) after (hash lib presented)) (time : Nat) (late : cap ≤ time) :
    (authenticate lib presented time (run (step lib) start (before ++ req :: after))).1 = .error denied := by
  have fresh := fresh_of_nodup [hash lib raw] distinct
  rw [fresh_along_append] at fresh
  have holds := run_known lib _ start before (bootstrap_known booted)
  have ordered := run_preserves (step lib) TtlOrdered (step_ttl_ordered lib) start before
    (bootstrap_ttl_ordered booted)
  obtain ⟨_, _, drawn, stored, ends⟩ := capped_issue capped ordered expires served
  have base : FamilyBounded cap (withDrawn lib (afterDraws lib (· ∈ [hash lib raw]) before) req)
      (drawnId lib req = some ·) (step lib (run (step lib) start before) req) := by
    refine ⟨step_known lib req holds, fun other same => .inr same, fun other later same found => .inl ?_⟩
    rw [drawn] at same
    cases same
    rw [stored] at found
    cases found
    exact ends
  rw [run_append] at derived ⊢
  have reached := fresh_run_invariant (step_family_bounded lib cap) _ _ _
    base fresh.2.2
  exact authenticate_dead (family_dead reached late derived)

def rootCreate (ttl : Nat) : Request :=
  requestBy 2 "POST" "auth/token/create"
    [("policies", .array [.string (str "root")]), ("ttl", .ofNat ttl), ("explicit_max_ttl", .ofNat 60)] 100 (drawn 3 4)

def childCreate : Request :=
  requestBy 4 "POST" "auth/token/create" [("policies", .array [.string (str "default")]), ("ttl", .ofNat 600)] 110 (drawn 5 6)

-- The child of a root token with a maximum is refused at that maximum.
theorem child_ends_with_parent :
    (authenticate plainLibrary (rawOf 6) 120
      (run (step plainLibrary) bootedState [rootCreate 30, childCreate])).1.isOk = true ∧
    (authenticate plainLibrary (rawOf 6) 160 (run (step plainLibrary) bootedState [rootCreate 30, childCreate])).1 =
      .error denied := by
  refine ⟨by decide +kernel, ?_⟩
  obtain ⟨answer, served⟩ := answered (serve plainLibrary (rootCreate 30) bootedState).1 (by decide +kernel)
  have parented : ((run (step plainLibrary) bootedState [rootCreate 30, childCreate]).lookup (idOf 6)).bind Token.parent = some (idOf 4) := by
    decide +kernel
  obtain ⟨token, stored, points⟩ := Option.bind_eq_some_iff.mp parented
  exact lifetime_capped plainLibrary (drawn 1 2) 0 bootedState (rawOf 2) booted_state [] (rootCreate 30) [childCreate] (by decide +kernel)
    160 (.created 60 (by decide +kernel) rfl (by decide)) (by decide +kernel) answer served (rawOf 6)
    (.inr ⟨by decide +kernel, token, idOf 4, stored, points, by decide +kernel⟩) 160 (Nat.le_refl _)

-- A root token created without a ttl never expires, whatever its maximum.
theorem root_outlives_maximum : bootstrap plainLibrary (drawn 1 2) 0 = .ok (bootedState, rawOf 2) ∧
    (hash plainLibrary (rawOf 2) :: [rootCreate 0].filterMap (drawnId plainLibrary)).Nodup ∧
      Capped plainLibrary bootedState (rootCreate 0) 160 ∧
    (serve plainLibrary (rootCreate 0) bootedState).1.isOk = true ∧ drawnId plainLibrary (rootCreate 0) =
      some (hash plainLibrary (rawOf 4)) ∧
    (authenticate plainLibrary (rawOf 4) 160 (run (step plainLibrary) bootedState [rootCreate 0])).1.isOk = true :=
  ⟨booted_state, by decide +kernel, .created 60 (by decide +kernel) rfl (by decide), by decide +kernel, by decide +kernel, by decide +kernel⟩

end HeptaBao.Auth
