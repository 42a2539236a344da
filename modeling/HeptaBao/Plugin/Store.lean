import HeptaBao.Contracts.Domain
import HeptaBao.Durable.Lineage
import HeptaBao.Wire.Text

namespace HeptaBao.Plugin

open Wire Std Durable Domain Exec

-- What callers see: the committed state, and whether the handle waits for a reopen.
structure Store where
  state : Committed
  unresolved : Bool

-- A mutation that is let pass is turned away, committed, or left to the next reopen.
inductive Fate where
  | refused (flaw : ServiceError)
  | committed (ref : Str)
  | unknown (ref : Str) (landed : Bool)

namespace Store

def empty : Store := ⟨Committed.empty, false⟩

def entries (store : Store) : Entries := store.state.snapshot.entries

def ledger (store : Store) : Ledger := store.state.ledger

def reopened (store : Store) : Store := { store with unresolved := false }

def applied (env : Env) (store : Store) (req : Request) (ref : Str) : Store :=
  { store with state := store.state.apply env ⟨req, ref⟩ }

def execute (env : Env) (cap : Nat) (req : Request) (fate : Fate) (store : Store) :
    Except ServiceError MutationOutcome × Store :=
  if store.unresolved then (.error .recoveryRequired, store)
  else match store.ledger[req.key]? with
    | some existing =>
      if existing.bindingDigest ≠ (req.binding env).digest env then (.error .requestBindingConflict, store)
      else (.ok (.duplicate existing.generation existing.recoveryReference), store)
    | none =>
      if cap ≤ store.ledger.size then (.error .requestCapacityExhausted, store)
      else match fate with
        | .refused flaw => (.error flaw, store)
        | .committed ref =>
          (.ok (.committed (store.state.snapshot.generation + 1) ref), store.applied env req ref)
        | .unknown ref landed =>
          (.error (.outcomeUnknown ref),
            { (if landed then store.applied env req ref else store) with unresolved := true })

def get (store : Store) (nspace resource : Str) : Except ServiceError (Option Bytes) := do
  validateNamespace nspace
  validateResource resource
  if store.unresolved then .error .recoveryRequired else .ok store.entries[(⟨nspace, resource⟩ : StorageKey)]?

def childOf (front resource : Str) : Option Str :=
  match stripPrefix front resource with
  | none => none
  | some suffix => match splitOnce 47 suffix with
      | some (child, _) => some (child ++ [47])
      | none => if suffix = [] then none else some suffix

def children (store : Store) (nspace front : Str) : ExtTreeSet Str :=
  ExtTreeSet.ofList ((store.entries.keys.filter fun key => key.nspace = nspace).filterMap fun key => childOf front key.resource)

def list (store : Store) (nspace front : Str) : Except ServiceError (List Str) := do
  validateNamespace nspace
  let front := (stripSuffix [47] front).getD front
  if front ≠ [] then validateResource front else .ok ()
  if store.unresolved then .error .recoveryRequired
  else .ok (store.children nspace (if front = [] then [] else front ++ [47])).toList

end Store

end HeptaBao.Plugin
