import Mathlib.Data.List.Basic

namespace Exec

-- A step that may fail. Failing does not roll back what was done by then.
def Action (σ ε α : Type) := σ → Except ε α × σ

namespace Action

variable {σ ε α β : Type}

instance : Monad (Action σ ε) where
  pure value := fun state => (.ok value, state)
  bind first next := fun state =>
    match first state with
    | (.error flaw, reached) => (.error flaw, reached)
    | (.ok value, reached) => next value reached

theorem bind_apply (first : Action σ ε α) (next : α → Action σ ε β) (state : σ) : (first >>= next) state =
    match first state with
      | (.error flaw, reached) => (.error flaw, reached)
      | (.ok value, reached) => next value reached := rfl

def fail (flaw : ε) : Action σ ε α := fun state => (.error flaw, state)

def lift (res : Except ε α) : Action σ ε α := fun state => (res, state)

def read : Action σ ε σ := fun state => (.ok state, state)

def modify (change : σ → σ) : Action σ ε Unit := fun state => (.ok (), change state)

-- Looks at the state and may fail on what it sees, but changes nothing.
def query (look : σ → Except ε α) : Action σ ε α := fun state => (look state, state)

def refuse (condition : Prop) [Decidable condition] (flaw : ε) : Action σ ε Unit :=
  lift (if condition then .error flaw else .ok ())

-- Runs an action to its end and hands its failure on as a value.
def attempt (action : Action σ ε α) : Action σ ε (Except ε α) := fun state => (.ok (action state).1, (action state).2)

-- Both ways an action can end, under one postcondition.
def Ends (action : Action σ ε α) (state : σ) (post : Except ε α → σ → Prop) : Prop := post (action state).1 (action state).2

theorem ends_weaken {action : Action σ ε α} {state : σ} {strong weak : Except ε α → σ → Prop}
    (ends : Ends action state strong) (implies : ∀ res reached, strong res reached → weak res reached) :
    Ends action state weak := implies _ _ ends

theorem ends_bind {first : Action σ ε α} {next : α → Action σ ε β} {state : σ} (middle : Except ε α → σ → Prop)
    {post : Except ε β → σ → Prop} (ends : Ends first state middle)
    (failed : ∀ flaw reached, middle (.error flaw) reached → post (.error flaw) reached)
    (continues : ∀ value reached, middle (.ok value) reached → Ends (next value) reached post) :
      Ends (first >>= next) state post := by
  unfold Ends at ends ⊢
  rw [bind_apply]
  generalize first state = outcome at ends ⊢
  obtain ⟨res, reached⟩ := outcome
  cases res with
  | error flaw => exact failed flaw reached ends
  | ok value => exact continues value reached ends

theorem ends_attempt {action : Action σ ε α} {state : σ} {post : Except ε α → σ → Prop}
    (ends : Ends action state post) :
    Ends (attempt action) state (fun res reached => ∃ value, res = .ok value ∧ post value reached) :=
  ⟨_, rfl, ends⟩

theorem ends_read (next : σ → Action σ ε β) (state : σ) (post : Except ε β → σ → Prop)
    (ends : Ends (next state) state post) : Ends (read >>= next) state post := ends

theorem ends_modify {change : σ → σ} {next : Unit → Action σ ε β} {state : σ} {post : Except ε β → σ → Prop}
    (ends : Ends (next ()) (change state) post) : Ends (modify change >>= next) state post := ends

theorem ends_lift (res : Except ε α) (value : α) (next : α → Action σ ε β) (state : σ) (post : Except ε β → σ → Prop)
    (succeeds : res = .ok value) (ends : Ends (next value) state post) : Ends (lift res >>= next) state post := by
  subst succeeds
  exact ends

theorem ends_lift_cases {res : Except ε α} {next : α → Action σ ε β} {state : σ} {post : Except ε β → σ → Prop}
    (fails : ∀ flaw, res = .error flaw → post (.error flaw) state)
    (continues : ∀ value, res = .ok value → Ends (next value) state post) : Ends (lift res >>= next) state post := by
  cases res with
  | error flaw => exact fails flaw rfl
  | ok value => exact continues value rfl

theorem ends_query {look : σ → Except ε α} {next : α → Action σ ε β} {state : σ} {post : Except ε β → σ → Prop}
    (fails : ∀ flaw, look state = .error flaw → post (.error flaw) state)
    (continues : ∀ value, look state = .ok value → Ends (next value) state post) :
      Ends (query look >>= next) state post := by
  cases seen : look state with
  | error flaw => simpa only [Ends, bind_apply, query, seen] using fails flaw seen
  | ok value => simpa only [Ends, bind_apply, query, seen] using continues value seen

theorem ends_refuse {condition : Prop} [Decidable condition] {flaw : ε} {next : Unit → Action σ ε β} {state : σ}
    {post : Except ε β → σ → Prop} (fails : condition → post (.error flaw) state)
    (continues : ¬condition → Ends (next ()) state post) : Ends (refuse condition flaw >>= next) state post := by
  by_cases met : condition
  · simpa only [Ends, bind_apply, refuse, lift, if_pos met] using fails met
  · simpa only [Ends, bind_apply, refuse, lift, if_neg met] using continues met

end Action

end Exec
