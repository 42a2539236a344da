import HeptaBao.Auth.State
import HeptaBao.Exec.Forest

namespace HeptaBao.Auth

open Wire Std Durable Exec Forest List ExtTreeMap

variable (token : Token) (now : Nat)

namespace Token

def expired : Bool := token.expiresAt.any (· ≤ now)

def exhausted : Bool := token.usesRemaining == some 0

def usable (token : Token) : Bool := !token.expired now && !token.exhausted

def spend : Token := { token with usesRemaining := token.usesRemaining.map (· - 1) }

def renewed (expiresAt : Nat) : Token := { token with expiresAt := some expiresAt }

end Token

variable (state : AuthState)

namespace AuthState

def lookup (id : Str) : Option Token := state.tokens[id]?

-- Each round meets another stored token, so as many rounds as tokens are enough.
def activeToken (id : Str) (now : Nat) (consumeCheck : Bool) : Except AuthError Token :=
  match state.tokens[id]? with
  | none => .error denied
  | some token =>
    if token.expired now = true ∨ consumeCheck = true ∧ token.exhausted = true then .error denied
    else if climb state.lookup Token.parent (Token.usable now) state.tokens.size [id] token.parent then .ok token
    else .error denied

abbrev Alive (now : Nat) (id : Str) : Prop :=
  Lineage state.lookup Token.parent (Token.usable now · = true) id

def ids : Finset Str := state.tokens.keys.toFinset

theorem mem_ids (id : Str) : id ∈ state.ids ↔ ∃ token, state.lookup id = some token := by
  simp only [ids, mem_toFinset, ExtTreeMap.mem_keys, lookup, mem_iff_isSome_getElem?, Option.isSome_iff_exists]

theorem ids_card : state.ids.card ≤ state.tokens.size := by
  rw [← length_keys]
  exact toFinset_card_le _

theorem climb_parents {state : AuthState} {id : Str} {token : Token} (found : state.lookup id = some token) :
    climb state.lookup Token.parent (Token.usable now) state.tokens.size [id] token.parent = true ↔
      ∀ above, token.parent = some above → state.Alive now above := by
  constructor
  · intro climbs above points
    rw [points] at climbs
    exact climb_lineage _ _ _ _ climbs
  · intro alive
    cases points : token.parent with
    | none => cases state.tokens.size <;> rfl
    | some above =>
      have link : Up state.lookup Token.parent id above := ⟨token, found, points⟩
      have lineage := alive above points
      have covers : ∀ other record, state.lookup other = some record → other ∈ state.ids :=
        fun other record stored => (state.mem_ids other).mpr ⟨record, stored⟩
      refine lineage_climb _ state.ids covers above lineage _ [id] (nodup_singleton id) ?_ ?_ ?_
      · intro other member
        rw [mem_singleton.mp member]
        exact covers id token found
      · have bound := state.ids_card
        simp only [length_singleton]
        omega
      · intro other member reaches
        rw [mem_singleton.mp member] at reaches
        exact lineage_acyclic lineage (Relation.TransGen.tail' reaches link)

theorem active_token_ok (id : Str) (now : Nat) (consumeCheck : Bool) (token : Token) :
    state.activeToken id now consumeCheck = .ok token ↔
      state.lookup id = some token ∧ token.expired now = false ∧ (consumeCheck = true → token.exhausted = false) ∧
        ∀ above, token.parent = some above → state.Alive now above := by
  unfold activeToken
  cases found : state.tokens[id]? with
  | none => simp [lookup, found]
  | some stored =>
    have held : state.lookup id = some stored := found
    rw [held]
    by_cases refused : stored.expired now = true ∨ consumeCheck = true ∧ stored.exhausted = true
    · simp only [refused, if_true]
      constructor
      · intro same
        cases same
      · rintro ⟨same, fresh, unspent, _⟩
        cases same
        rcases refused with late | ⟨check, spent⟩
        · simp [late] at fresh
        · simp [unspent check] at spent
    · simp only [refused, if_false]
      by_cases climbs : climb state.lookup Token.parent (Token.usable now) state.tokens.size [id] stored.parent = true
      · have above := (climb_parents now held).mp climbs
        have fresh : stored.expired now = false := by
          by_contra late
          exact refused (.inl (by simpa using late))
        have unspent : consumeCheck = true → stored.exhausted = false := by
          intro check
          by_contra spent
          exact refused (.inr ⟨check, by simpa using spent⟩)
        simp only [climbs, if_true]
        constructor
        · intro same
          cases same
          exact ⟨rfl, fresh, unspent, above⟩
        · rintro ⟨same, _⟩
          cases same
          rfl
      · have broken := mt (climb_parents now held).mpr climbs
        simp only [climbs]
        constructor
        · intro same
          cases same
        · rintro ⟨same, _, _, above⟩
          cases same
          exact absurd above broken

theorem active_token_alive (id : Str) (now : Nat) (token : Token) :
    state.activeToken id now true = .ok token ↔ state.lookup id = some token ∧ state.Alive now id := by
  rw [active_token_ok]
  constructor
  · rintro ⟨found, fresh, unspent, above⟩
    have sound : token.usable now = true := by simp [Token.usable, fresh, unspent rfl]
    refine ⟨found, ?_⟩
    cases points : token.parent with
    | none => exact .top id token found sound points
    | some next => exact .under id next token found sound points (above next points)
  · rintro ⟨found, alive⟩
    obtain ⟨_, foundRecord, sound⟩ := lineage_record _ id alive
    rw [found] at foundRecord
    cases foundRecord
    simp only [Token.usable, Bool.and_eq_true, Bool.not_eq_true'] at sound
    exact ⟨found, sound.1, fun _ => sound.2, fun above points => lineage_above _ id above alive ⟨token, found, points⟩⟩

theorem active_token_error (id : Str) (now : Nat) (consumeCheck : Bool) (flaw : AuthError)
    (refused : state.activeToken id now consumeCheck = .error flaw) : flaw = denied := by
  unfold activeToken at refused
  split at refused
  · exact (Except.error.inj refused).symm
  · split at refused
    · exact (Except.error.inj refused).symm
    · split at refused
      · cases refused
      · exact (Except.error.inj refused).symm

def children (removed : Finset Str) : Finset Str :=
  ((state.tokens.toList.filter fun entry => entry.2.parent.any (· ∈ removed)).map (·.1)).toFinset

def revokedIds (id : Str) : Finset Str := saturate state.children (state.tokens.size + 1) {id}

def revoke (id : Str) : AuthState :=
  state.withTokens (state.tokens.filter fun other _ => decide (other ∉ state.revokedIds id))

abbrev Descends (id ancestor : Str) : Prop :=
  Relation.ReflTransGen (Up state.lookup Token.parent) id ancestor

theorem mem_children (removed : Finset Str) (id : Str) : id ∈ state.children removed ↔ ∃ above ∈ removed,
    Up state.lookup Token.parent id above := by
  simp only [children, mem_toFinset, List.mem_map, List.mem_filter, Prod.exists, exists_and_right, exists_eq_right]
  constructor
  · rintro ⟨token, stored, points⟩
    cases same : token.parent with
    | none => simp [same] at points
    | some above =>
      have member : above ∈ removed := by simpa [same] using points
      exact ⟨above, member, token, mem_toList_iff_getElem?_eq_some.mp stored, same⟩
  · rintro ⟨above, member, token, found, points⟩
    refine ⟨token, mem_toList_iff_getElem?_eq_some.mpr found, ?_⟩
    simp [points, member]

theorem mem_revoked_ids (id other : Str) : other ∈ state.revokedIds id ↔ state.Descends other id := by
  constructor
  · intro member
    refine saturate_within state.children (state.Descends · id) ?_ _ {id} ?_ other member
    · intro members inside child grown
      obtain ⟨above, listed, link⟩ := (state.mem_children members child).mp grown
      exact (inside above listed).head link
    · intro start listed
      rw [Finset.mem_singleton.mp listed]
  · intro descends
    have closed : state.children (state.revokedIds id) ⊆ state.revokedIds id := by
      refine saturate_closed state.children state.ids ?_ _ {id} ?_
      · intro members child grown
        obtain ⟨_, _, token, found, _⟩ := (state.mem_children members child).mp grown
        exact (state.mem_ids child).mpr ⟨token, found⟩
      · have bound := state.ids_card
        have smaller := Finset.card_le_card (Finset.sdiff_subset : state.ids \ {id} ⊆ state.ids)
        omega
    induction descends using Relation.ReflTransGen.head_induction_on with
    | refl => exact saturate_start state.children _ {id} (Finset.mem_singleton_self id)
    | head link _ ih => exact closed ((state.mem_children _ _).mpr ⟨_, ih, link⟩)

theorem revoke_lookup (id other : Str) (token : Token) :
    (state.revoke id).lookup other = some token ↔ state.lookup other = some token ∧ ¬state.Descends other id := by
  rw [← state.mem_revoked_ids]
  simp only [revoke, lookup, with_tokens_tokens, getElem?_filter']
  cases found : state.tokens[other]? with
  | none => simp
  | some =>
    by_cases member : other ∈ state.revokedIds id <;> simp [member]

end AuthState

def authenticate (lib : Library) (raw : Str) (now : Nat) : AuthAction Principal := do
  Action.refuse (256 < raw.length ∨ (str "hvs.").isPrefixOf raw = false) denied
  let token ← Action.query fun state => state.activeToken (hash lib raw) now true
  Action.modify fun state => state.withTokens (state.tokens.insert (hash lib raw) token.spend)
  pure ⟨hash lib raw, token.spend⟩

end HeptaBao.Auth
