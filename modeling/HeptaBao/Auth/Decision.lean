import HeptaBao.Auth.Patterns
import HeptaBao.Auth.StandIn

namespace HeptaBao.Auth

open Wire Std Durable Exec List

def defaultRules : List Rule :=
  [⟨str "auth/token/lookup-self", ExtTreeSet.ofList [str "read"]⟩, ⟨str "auth/token/renew-self", ExtTreeSet.ofList [str "update"]⟩,
    ⟨str "auth/token/revoke-self", ExtTreeSet.ofList [str "update"]⟩]

def namedRules (policies : Option (Table Policy)) (name : Str) : List Rule :=
  match policies.bind (·[name]?) with
  | some policy => policy.rules
  | none => if name = str "default" then defaultRules else []

def hits (path name : Str) (rule : Rule) : Bool := pathMatches rule.path path && rule.capabilities.contains name

def anyHit (policies : Option (Table Policy)) (names : List Str) (path name : Str) : Bool :=
  names.any fun policy => (namedRules policies policy).any (hits path name)

theorem match_segments_plain (segments parts : List Str) (plain : ∀ segment ∈ segments, segment ≠ str "+")
    (same : segments.length = parts.length) : matchSegments false segments parts = true ↔ parts = segments := by
  induction segments generalizing parts with
  | nil => simp [length_eq_zero_iff.mp same.symm, matchSegments]
  | cons segment _ ih =>
    cases parts with
    | nil => cases same
    | cons actual more =>
      have later := ih more (fun other listed => plain other (mem_cons_of_mem _ listed)) (Nat.succ.inj same)
      rw [match_segments_cons segment actual more (by simp), Bool.and_eq_true, later, segmentMatches,
        if_neg (plain segment mem_cons_self), decide_eq_true_iff, List.cons.injEq, eq_comm]

theorem path_matches_plain (pattern path : Str) (open' : stripSuffix (str "*") pattern = none)
    (plain : ∀ segment ∈ pattern.splitOn 47, segment ≠ str "+") : pathMatches pattern path = true ↔ path = pattern := by
  unfold pathMatches
  simp only [open', Option.getD_none, Option.isSome_none, true_and]
  by_cases same : (pattern.splitOn 47).length = (path.splitOn 47).length
  · rw [if_neg (not_not.mpr same), if_neg (by rw [same]; exact Nat.lt_irrefl _), match_segments_plain _ _ plain same]
    constructor
    · intro parts
      have joined : [47].intercalate (path.splitOn 47) = path := intercalate_splitOn 47
      rw [← joined, parts, intercalate_splitOn]
    · rintro rfl
      rfl
  · rw [if_pos same]
    constructor
    · intro wrong
      cases wrong
    · rintro rfl
      exact absurd rfl same

theorem default_matches (rule : Rule) (listed : rule ∈ defaultRules) (path : Str) : pathMatches rule.path path =
    true ↔ path = rule.path := by
  have checked : ∀ rule ∈ defaultRules, stripSuffix (str "*") rule.path = none ∧ ∀ segment ∈ rule.path.splitOn 47, segment ≠ str "+" := by
    simp only [defaultRules, forall_mem_cons]
    decide +kernel
  exact path_matches_plain rule.path path (checked rule listed).1 (checked rule listed).2

theorem default_grants_eq (path power : Str) : defaultGrants path power = defaultRules.any (hits path power) := by
  have matched : ∀ rule ∈ defaultRules, pathMatches rule.path path = (path == rule.path) := by
    intro rule listed
    rw [Bool.eq_iff_iff, default_matches rule listed path, beq_iff_eq]
  have one : ∀ name : Str, (ExtTreeSet.ofList [name]).contains power = (power == name) := by
    intro name
    rw [Bool.eq_iff_iff, ExtTreeSet.contains_iff_mem, ExtTreeSet.mem_ofList, contains_iff_mem, mem_singleton, beq_iff_eq]
  simp only [defaultRules, forall_mem_cons] at matched
  obtain ⟨lookup, renew, revoke, _⟩ := matched
  simp only [defaultGrants, defaultRules, any_cons, any_nil, hits, lookup, renew, revoke, one, Bool.or_false, Bool.or_assoc]

theorem default_never_denies (path : Str) : defaultRules.any (hits path (str "deny")) = false := by
  have checked : ∀ rule ∈ defaultRules, rule.capabilities.contains (str "deny") = false := by decide +kernel
  rw [any_eq_false]
  intro rule listed
  rw [hits, checked rule listed, Bool.and_false]
  decide

theorem scan_rules_eq (path power : Str) (rules : List Rule) (granted : Bool) : scanRules path power rules granted =
    if rules.any (hits path (str "deny")) then .error denied else .ok (granted || rules.any (hits path power)) := by
  induction rules generalizing granted with
  | nil => simp [scanRules]
  | cons rule _ ih =>
    rw [scanRules, any_cons, any_cons, hits, hits]
    by_cases matched : pathMatches rule.path path = true
    · by_cases denies : str "deny" ∈ rule.capabilities
      · rw [if_pos matched, if_pos denies, matched, ExtTreeSet.contains_iff_mem.mpr denies, Bool.true_and, Bool.true_or, if_pos rfl]
      · have silent : rule.capabilities.contains (str "deny") = false := by
          rw [← Bool.not_eq_true, ExtTreeSet.contains_iff_mem]
          exact denies
        rw [if_pos matched, if_neg denies, ih, matched, silent, Bool.and_false, Bool.false_or, Bool.true_and, Bool.or_assoc]
    · rw [if_neg matched, ih, (Bool.not_eq_true _).mp matched, Bool.false_and, Bool.false_or, Bool.false_and, Bool.false_or]

theorem scan_policies_eq (policies : Option (Table Policy)) (path power : Str) (names : List Str) (granted : Bool) :
    scanPolicies policies path power names granted =
      if anyHit policies names path (str "deny") then .error denied else .ok
        (granted || anyHit policies names path power) := by
  induction names generalizing granted with
  | nil => simp [scanPolicies, anyHit]
  | cons name rest ih =>
    have split : ∀ wanted, anyHit policies (name :: rest) path wanted =
        ((namedRules policies name).any (hits path wanted) || anyHit policies rest path wanted) := fun _ => any_cons
    rw [scanPolicies, split, split, namedRules]
    cases policies.bind (·[name]?) with
    | some policy =>
      simp only [scan_rules_eq]
      by_cases denies : policy.rules.any (hits path (str "deny")) = true
      · simp only [denies, Bool.true_or, if_true]
        rfl
      · rw [Bool.not_eq_true] at denies
        simp only [denies, Bool.false_or]
        exact (ih _).trans (by rw [Bool.or_assoc])
    | none =>
      by_cases isDefault : name = str "default"
      · simp only [isDefault, true_and, if_true, default_never_denies, Bool.false_or, default_grants_eq]
        by_cases grants : defaultRules.any (hits path power) = true
        · rw [if_pos grants, ih, grants]
          simp
        · rw [if_neg grants, ih, (Bool.not_eq_true _).mp grants, Bool.false_or]
      · simp only [isDefault, false_and, if_false, any_nil, Bool.false_or]
        exact ih granted

theorem any_hit_iff (policies : Option (Table Policy)) (names : List Str) (path name : Str) :
    anyHit policies names path name = true ↔
    ∃ policy ∈ names, ∃ rule ∈ namedRules policies policy, pathMatches rule.path path = true ∧
      name ∈ rule.capabilities := by
  simp only [anyHit, any_eq_true, hits, Bool.and_eq_true, ExtTreeSet.contains_iff_mem]

theorem any_hit_order (policies others : Option (Table Policy)) (names listed : List Str) (path name : Str)
    (sameNames : ∀ policy, policy ∈ names ↔ policy ∈ listed)
    (sameRules : ∀ policy ∈ names, (namedRules policies policy).Perm (namedRules others policy)) :
    anyHit policies names path name = anyHit others listed path name := by
  rw [Bool.eq_iff_iff, any_hit_iff, any_hit_iff]
  constructor
  · rintro ⟨policy, isNamed, rule, stands, rest⟩
    exact ⟨policy, (sameNames policy).mp isNamed, rule, (sameRules policy isNamed).mem_iff.mp stands, rest⟩
  · rintro ⟨policy, isNamed, rule, stands, rest⟩
    exact ⟨policy, (sameNames policy).mpr isNamed, rule, (sameRules policy ((sameNames policy).mpr isNamed)).mem_iff.mpr stands, rest⟩

theorem authorize_request_eq {state : AuthState} {who : Principal} {nspace path power : Str} {now : Nat} {token : Token}
    (validPath : validatePath path false = .ok ()) (known : power ∈ capabilities) (usable : power ≠ str "deny")
    (checked : state.checkPrincipal who nspace now = .ok token) (notRoot : token.root = false) :
    state.authorizeRequest who nspace path power now = if anyHit state.policies[nspace]? token.policies.toList path
      (str "deny") = false ∧
          anyHit state.policies[nspace]? token.policies.toList path power = true then .ok () else .error denied := by
  have listed : capabilities.contains power = true := contains_iff_mem.mpr known
  unfold AuthState.authorizeRequest
  simp only [validPath, checked, scan_policies_eq, listed, usable, notRoot, bind, Except.bind, not_true_eq_false, or_self, if_false,
    Bool.false_eq_true, Bool.false_or]
  cases anyHit state.policies[nspace]? token.policies.toList path (str "deny") with
  | true => rfl
  | false => cases anyHit state.policies[nspace]? token.policies.toList path power <;> rfl

/-- What a set of policies decides for a path, in terms of the rules that match it. -/
theorem acl_decision (state : AuthState) (who : Principal) (nspace path power : Str) (now : Nat) (token : Token)
    (validPath : validatePath path false = .ok ()) (known : power ∈ capabilities) (usable : power ≠ str "deny")
    (checked : state.checkPrincipal who nspace now = .ok token) (notRoot : token.root = false) :
    (state.authorizeRequest who nspace path power now = .ok () ↔
      (∃ policy ∈ token.policies, ∃ rule ∈ namedRules state.policies[nspace]? policy,
        pathMatches rule.path path = true ∧ power ∈ rule.capabilities) ∧
      ∀ policy ∈ token.policies, ∀ rule ∈ namedRules state.policies[nspace]? policy,
        pathMatches rule.path path = true → str "deny" ∉ rule.capabilities) ∧
          (∀ pattern actual, validatePath pattern true = .ok () →
      (pathMatches pattern actual = true ↔ actual ∈ (patternExpression pattern).matches')) ∧
    ∀ (other : AuthState) (otherToken : Token), other.checkPrincipal who nspace now = .ok otherToken →
      otherToken.root = false →
      (∀ policy, policy ∈ token.policies ↔ policy ∈ otherToken.policies) →
      (∀ policy ∈ token.policies, (namedRules state.policies[nspace]? policy).Perm
        (namedRules other.policies[nspace]? policy)) →
        other.authorizeRequest who nspace path power now = state.authorizeRequest who nspace path power now := by
  have here := authorize_request_eq validPath known usable checked notRoot
  refine ⟨?_, fun pattern actual valid => path_matches_iff pattern actual valid, ?_⟩
  · have decided : state.authorizeRequest who nspace path power now = .ok () ↔
        anyHit state.policies[nspace]? token.policies.toList path (str "deny") = false ∧
          anyHit state.policies[nspace]? token.policies.toList path power = true := by
      rw [here]
      constructor
      · intro passes
        by_contra refused
        rw [if_neg refused] at passes
        cases passes
      · exact fun both => if_pos both
    rw [decided, ← Bool.not_eq_true, any_hit_iff, any_hit_iff, and_comm]
    simp only [ExtTreeSet.mem_toList, not_exists, not_and]
  · intro other otherToken otherChecked otherNotRoot sameNames sameRules
    have there := authorize_request_eq validPath known usable otherChecked otherNotRoot
    have listed : ∀ policy, policy ∈ token.policies.toList ↔ policy ∈ otherToken.policies.toList := by
      intro policy
      rw [ExtTreeSet.mem_toList, ExtTreeSet.mem_toList]
      exact sameNames policy
    have ordered := fun name => any_hit_order state.policies[nspace]? other.policies[nspace]? token.policies.toList
      otherToken.policies.toList path name listed fun policy isNamed => sameRules policy (ExtTreeSet.mem_toList.mp isNamed)
    rw [here, there, ordered, ordered]

def wildcardRule : Rule := ⟨str "secret/+/data*", ExtTreeSet.ofList [str "read"]⟩

-- A token with one policy that opens a pattern with both wildcards.
def wildcardState : AuthState := { stateWith 0 (serviceToken ["dev"]) "secret/+/data*" ["read"] with
  tokens := (∅ : Table Token).insert (str "t") (serviceToken ["dev"]) }

theorem acl_decision_wildcard :
    wildcardState.authorizeRequest ⟨str "t", serviceToken ["dev"]⟩ [] (str "secret/x/data/y")
    (str "read") 0 = .ok () := by
  have checked : wildcardState.checkPrincipal ⟨str "t", serviceToken ["dev"]⟩ [] 0 = .ok (serviceToken ["dev"]) := rfl
  have decision := acl_decision wildcardState ⟨str "t", serviceToken ["dev"]⟩ [] (str "secret/x/data/y") (str "read") 0 (serviceToken ["dev"])
    (by decide +kernel) (by decide) (by decide) checked rfl
  have named : ∀ policy, policy ∈ (serviceToken ["dev"]).policies → policy = str "dev" := by
    intro policy listed
    have member := ExtTreeSet.mem_ofList.mp listed
    simpa using member
  have rules : namedRules wildcardState.policies[([] : Str)]? (str "dev") = [wildcardRule] := rfl
  refine decision.1.mpr ⟨⟨str "dev", ExtTreeSet.mem_ofList.mpr (by decide), wildcardRule, by rw [rules]; exact mem_cons_self, by decide +kernel,
    ExtTreeSet.mem_ofList.mpr (by decide)⟩, fun policy listed rule stands _ denies => ?_⟩
  rw [named policy listed, rules, mem_singleton] at stands
  subst stands
  exact absurd (ExtTreeSet.mem_ofList.mp denies) (by decide)

end HeptaBao.Auth
