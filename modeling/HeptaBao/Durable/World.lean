import HeptaBao.Exec.Runs
import HeptaBao.Durable.Backup
import HeptaBao.Durable.Committed

namespace HeptaBao.Durable

open Wire Std Exec

inductive Request where
  | put (req : PutRequest)
  | delete (req : DeleteRequest)
deriving DecidableEq

namespace Request

def validate : Request → Except ServiceError Unit
  | put req => req.validate
  | delete req => req.validate

def binding (env : Env) : Request → Binding
  | put req => req.binding env
  | delete req => req.binding env

def value : Request → Option Bytes
  | put req => some req.value.bytes
  | delete _ => none

def key : Request → RequestKey
  | put req => ⟨req.principal, req.nspace, req.requestId⟩
  | delete req => ⟨req.principal, req.nspace, req.requestId⟩

def submit (env : Env) : Request → Method MutationOutcome
  | put req => Durable.put env req
  | delete req => Durable.delete env req

-- What the request is for, in terms of the entries alone.
def apply : Request → Entries → Entries
  | put req, entries => entries.insert ⟨req.nspace, req.resource⟩ req.value.bytes
  | delete req, entries => entries.erase ⟨req.nspace, req.resource⟩

def valueInput : Request → Bytes
  | put req => digestInput valueDomain req.value.bytes
  | delete _ => digestInput deleteDomain (str "delete")

end Request

variable (env : Env)

-- Everything a submission feeds to SHA-256 to tell requests apart.
def hashedAt (gen seq : Nat) (req : Request) : List Bytes :=
  [req.valueInput, digestInput bindingDomain (req.binding env).encoded,
    digestInput recoveryDomain (recoveryInput ((req.binding env).digest env) gen seq)]

variable (svc : Service)

def hashedBy (req : Request) : List Bytes :=
  hashedAt env (svc.snapshot.generation + 1) (svc.journalSequence + 1) req

-- The marker under which a submission enters its durable steps, if it does.
def issuedMarker (nonce : Nat) (req : Request) : Option CommitMarker :=
  match req.validate with
  | .error _ => none
  | .ok _ =>
    if svc.unresolved then none
    else match svc.examine env nonce (req.binding env) req.value with
      | .ok (.inr admission) => some admission.marker
      | _ => none

structure Call where
  request : Request
  issued : Option CommitMarker
  reply : Except ServiceError MutationOutcome

-- The directory, its process, and what was asked, hashed and exported so far.
structure World where
  disk : Disk
  nonce : Nat
  live : Option Service
  calls : List Call
  hashed : List Bytes
  backups : List Bytes

inductive Event where
  | submit (req : Request) (plan : Plan)
  | compact (plan : Plan)
  | crash
  | reopen (plan : Plan)
  | exportBackup
  | restoreBackup (index : Nat) (allowRollback : Bool) (plan : Plan)

-- A reopen ends the old process first; a fault in recovery leaves only the files.
def step (cap : Nat) (world : World) : Event → World
  | .crash => { world with live := none }
  | .reopen plan =>
    let outcome := reopen env cap world.disk plan world.nonce
    { world with
      disk := outcome.2.1
      nonce := outcome.2.2
      live := outcome.1.toOption }
  | .submit req plan =>
    match world.live with
    | none => world
    | some svc =>
      let outcome := req.submit env ⟨world.disk, plan, world.nonce, svc⟩
      { world with
        disk := outcome.2.disk
        nonce := outcome.2.nonce
        live := some outcome.2.service
        calls := world.calls ++ [⟨req, issuedMarker env svc world.nonce req, outcome.1⟩]
        hashed := world.hashed ++ hashedBy env svc req }
  | .compact plan =>
    match world.live with
    | none => world
    | some svc =>
      let outcome := compact env ⟨world.disk, plan, world.nonce, svc⟩
      { world with
        disk := outcome.2.disk
        nonce := outcome.2.nonce
        live := some outcome.2.service }
  | .exportBackup =>
    match world.live with
    | none => world
    | some svc =>
      let outcome := exportBackup env ⟨world.disk, none, world.nonce, svc⟩
      { world with
        nonce := outcome.2.nonce
        backups := world.backups ++ outcome.1.toOption.toList }
  | .restoreBackup index allowRollback plan =>
    match world.live, world.backups[index]? with
    | some svc, some backup =>
      let outcome := restoreBackup env backup allowRollback ⟨world.disk, plan, world.nonce, svc⟩
      { world with
        disk := outcome.2.disk
        nonce := outcome.2.nonce
        live := some outcome.2.service }
    | _, _ => world

def Created (cap nonce : Nat) (world : World) : Prop :=
  ∃ disk svc, createNew env cap nonce = .ok (disk, svc) ∧ world = ⟨disk, nonce + 2, some svc, [], [], []⟩

end HeptaBao.Durable
