import HeptaBao.Auth.TokenRuns

namespace HeptaBao.Auth

open Wire Std Durable Exec Forest Action

theorem authenticate_result (lib : Library) (presented : Str) (now : Nat) (state : AuthState) :
    (authenticate lib presented now state).1 =
      if 256 < presented.length ∨ (str "hvs.").isPrefixOf presented = false then .error denied
      else (state.activeToken (hash lib presented) now true).map fun token => ⟨hash lib presented, token.spend⟩ := by
  unfold authenticate
  rw [bind_apply]
  by_cases malformed : 256 < presented.length ∨ (str "hvs.").isPrefixOf presented = false
  · simp only [refuse, lift, if_pos malformed]
  · simp only [refuse, lift, if_neg malformed]
    rw [bind_apply]
    cases active : state.activeToken (hash lib presented) now true with
    | error => simp only [query, active, Except.map]
    | ok => simp only [query, active, Except.map]; rfl

theorem authenticate_dead {lib : Library} {presented : Str} {now : Nat} {state : AuthState}
    (dead : ¬state.Alive now (hash lib presented)) : (authenticate lib presented now state).1 = .error denied := by
  rw [authenticate_result]
  split
  · rfl
  · cases active : state.activeToken (hash lib presented) now true with
    | error flaw => rw [state.active_token_error _ _ _ flaw active]; rfl
    | ok token => exact absurd ((state.active_token_alive _ _ token).mp active).2 dead

theorem authenticate_same {lib : Library} {presented : Str} (now : Nat) {left right : AuthState}
    (record : left.lookup (hash lib presented) = right.lookup (hash lib presented))
    (life : left.Alive now (hash lib presented) ↔ right.Alive now (hash lib presented)) :
    (authenticate lib presented now left).1 = (authenticate lib presented now right).1 := by
  by_cases alive : left.Alive now (hash lib presented)
  · obtain ⟨token, stored, _⟩ := lineage_record _ _ alive
    rw [authenticate_result, authenticate_result, (left.active_token_alive _ _ token).mpr ⟨stored, alive⟩,
      (right.active_token_alive _ _ token).mpr ⟨record ▸ stored, life.mp alive⟩]
  · rw [authenticate_dead alive, authenticate_dead (mt life.mpr alive)]

end HeptaBao.Auth
