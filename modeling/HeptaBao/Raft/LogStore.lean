import HeptaBao.Raft.StoreFile
import HeptaBao.Exec.Runs

namespace HeptaBao.Raft

open Wire Durable Std Exec

structure Vote where
  term : Nat
  nodeId : Nat
  committed : Bool
deriving DecidableEq

-- Every entry is stored under its index as the JSON text it was appended with.
structure PersistentLogState where
  lastPurgedLogId : Option LogId
  committed : Option LogId
  vote : Option Vote
  log : ExtTreeMap Nat Str

def PersistentLogState.default : PersistentLogState := ⟨none, none, none, ∅⟩

-- The loop of validate over the keys in order; `previous` is its variable.
def validateKeys : Option Nat → List Nat → Except StoreError Unit
  | _, [] => .ok ()
  | none, index :: keys => validateKeys (some index) keys
  | some prev, index :: keys =>
    if 2 ^ 64 ≤ prev + 1 then .error .indexOverflow
    else if index ≠ prev + 1 then .error .logHole
    else validateKeys (some index) keys

def PersistentLogState.validate (state : PersistentLogState) : Except StoreError Unit :=
  validateKeys (state.lastPurgedLogId.map (·.index)) state.log.keys

structure PersistentInitializationMarker where
  formatVersion : Nat
  domain : Str
  authoritativeFile : Str
deriving DecidableEq

def PersistentInitializationMarker.validate (mark : PersistentInitializationMarker)
    (expectedDomain expectedFile : Str) :
    Except StoreError Unit :=
  if mark.formatVersion ≠ 1 then .error .markerVersion
  else if mark.domain ≠ expectedDomain then .error .markerDomain
  else if mark.authoritativeFile ≠ expectedFile then .error .markerFile
  else .ok ()

def logMagic : Magic := ⟨str "HBRLOG01", by decide⟩
def initializationMagic : Magic := ⟨str "HBRINI01", by decide⟩
def logMarker : PersistentInitializationMarker := ⟨1, str "raft-log", str "raft-log.bin"⟩

structure StoreFiles where
  marker : Option Bytes
  data : Option Bytes
deriving DecidableEq

structure LogSerde where
  state : Serde PersistentLogState
  entry : Serde Entry
  marker : Serde PersistentInitializationMarker

structure LogSerde.Lawful (serde : LogSerde) : Prop where
  state : serde.state.RoundTrips
  entry : serde.entry.RoundTrips
  marker : serde.marker.RoundTrips
  -- the marker is a text of some eighty bytes
  short : (serde.marker.toVec logMarker).length + 20 ≤ safetyBound

structure DurableLogStore where
  state : PersistentLogState
  files : StoreFiles

variable (serde : LogSerde)

def DurableLogStore.create : DurableLogStore :=
  ⟨.default, ⟨some (jsonFile serde.marker initializationMagic logMarker), some (jsonFile serde.state logMagic .default)⟩⟩

def readInitializationMarker (serde : Serde PersistentInitializationMarker) (files : StoreFiles) (domain file : Str) :
    Except StoreError Unit :=
  match files.marker with
  | none => .error .notInitialized
  | some bytes => do
    let mark ← readJson serde initializationMagic bytes
    mark.validate domain file

def DurableLogStore.openExisting (files : StoreFiles) : Except StoreError DurableLogStore := do
  readInitializationMarker serde.marker files (str "raft-log") (str "raft-log.bin")
  match files.data with
  | none => .error .missingGeneration
  | some bytes =>
    let state ← readJson serde.state logMagic bytes
    state.validate
    return ⟨state, files⟩

-- `fault` is a write_json that fails before it takes effect.
def DurableLogStore.persist (store : DurableLogStore) (fault : Bool) (candidate : PersistentLogState) :
    Except StoreError Unit × DurableLogStore :=
  match candidate.validate with
  | .error flaw => (.error flaw, store)
  | .ok () =>
    if fault then (.error .io, store)
    else (.ok (), ⟨candidate, { store.files with data := some (jsonFile serde.state logMagic candidate) }⟩)

def DurableLogStore.saveVote (store : DurableLogStore) (fault : Bool) (vote : Vote) :=
  store.persist serde fault { store.state with vote := some vote }

def DurableLogStore.saveCommitted (store : DurableLogStore) (fault : Bool) (committed : Option LogId) :=
  store.persist serde fault { store.state with committed := committed }

-- An entry may repeat what its index holds, but not replace it.
def appendEntries (serde : Serde Entry) : ExtTreeMap Nat Str → List Entry → Except StoreError (ExtTreeMap Nat Str)
  | log, [] => .ok log
  | log, entry :: entries =>
    let index := entry.logId.index
    let serialized := serde.toVec entry
    match log[index]? with
    | some existing => if existing ≠ serialized then .error (.overwritten index) else appendEntries serde log entries
    | none => appendEntries serde (log.insert index serialized) entries

def DurableLogStore.append (store : DurableLogStore) (fault : Bool) (entries : List Entry) :
    Except StoreError Unit × DurableLogStore :=
  match appendEntries serde.entry store.state.log entries with
  | .error flaw => (.error flaw, store)
  | .ok log => store.persist serde fault { store.state with log := log }

def truncateStart (lastLogId : Option LogId) : Nat :=
  match lastLogId with
  | some logId => logId.index + 1
  | none => 0

def DurableLogStore.truncateAfter (store : DurableLogStore) (fault : Bool) (lastLogId : Option LogId) :
    Except StoreError Unit × DurableLogStore :=
  if 2 ^ 64 ≤ truncateStart lastLogId then (.error .truncateOverflow, store)
  else store.persist serde fault
    { store.state with log := store.state.log.filter fun index _ => index < truncateStart lastLogId }

def DurableLogStore.purge (store : DurableLogStore) (fault : Bool) (logId : LogId) :
    Except StoreError Unit × DurableLogStore :=
  if store.state.lastPurgedLogId.any (·.after logId) then (.error .purgeRegressed, store)
  else store.persist serde fault
    { store.state with log := store.state.log.filter (fun index _ => logId.index < index), lastPurgedLogId := some logId }

structure LogState where
  lastPurgedLogId : Option LogId
  lastLogId : Option LogId
deriving DecidableEq

def DurableLogStore.getLogState (store : DurableLogStore) : Except StoreError LogState :=
  match store.state.log.toList.getLast? with
  | none => .ok ⟨store.state.lastPurgedLogId, store.state.lastPurgedLogId⟩
  | some (_, serialized) =>
    match serde.entry.fromSlice serialized with
    | none => .error .malformedJson
    | some entry => .ok ⟨store.state.lastPurgedLogId, some entry.logId⟩

inductive LogCall where
  | saveVote (vote : Vote)
  | saveCommitted (committed : Option LogId)
  | append (entries : List Entry)
  | truncateAfter (lastLogId : Option LogId)
  | purge (logId : LogId)

def DurableLogStore.perform (store : DurableLogStore) (fault : Bool) :
    LogCall → Except StoreError Unit × DurableLogStore
  | .saveVote vote => store.saveVote serde fault vote
  | .saveCommitted committed => store.saveCommitted serde fault committed
  | .append entries => store.append serde fault entries
  | .truncateAfter lastLogId => store.truncateAfter serde fault lastLogId
  | .purge logId => store.purge serde fault logId

-- A call changes nothing or leaves a validated candidate in memory and in the file.
inductive Performed (serde : LogSerde) (store : DurableLogStore) : PersistentLogState → Except StoreError Unit × DurableLogStore → Prop
  | failed (candidate : PersistentLogState) (flaw : StoreError) : Performed serde store candidate (.error flaw, store)
  | written (candidate : PersistentLogState) (valid : candidate.validate = .ok ()) :
      Performed serde store candidate (.ok (), ⟨candidate, { store.files with data := some (jsonFile serde.state logMagic candidate) }⟩)

theorem persist_performed (store : DurableLogStore) (fault : Bool) (candidate : PersistentLogState) :
    Performed serde store candidate (store.persist serde fault candidate) := by
  unfold DurableLogStore.persist
  cases valid : candidate.validate with
  | error flaw => exact .failed candidate flaw
  | ok =>
    by_cases faulty : fault = true
    · simp only [if_pos faulty]
      exact .failed candidate .io
    · simp only [if_neg faulty]
      exact .written candidate valid

def candidateOf (state : PersistentLogState) : LogCall → PersistentLogState
  | .saveVote vote => { state with vote := some vote }
  | .saveCommitted committed => { state with committed := committed }
  | .append entries =>
    match appendEntries serde.entry state.log entries with
    | .error _ => state
    | .ok log => { state with log := log }
  | .truncateAfter lastLogId => { state with log := state.log.filter fun index _ => index < truncateStart lastLogId }
  | .purge logId =>
    { state with log := state.log.filter (fun index _ => logId.index < index), lastPurgedLogId := some logId }

theorem perform_performed (store : DurableLogStore) (fault : Bool) (call : LogCall) :
    Performed serde store (candidateOf serde store.state call) (store.perform serde fault call) := by
  cases call with
  | saveVote | saveCommitted => exact persist_performed serde store fault _
  | append entries =>
    simp only [DurableLogStore.perform, DurableLogStore.append, candidateOf]
    cases appended : appendEntries serde.entry store.state.log entries with
    | error flaw => exact .failed _ flaw
    | ok => exact persist_performed serde store fault _
  | truncateAfter lastLogId =>
    simp only [DurableLogStore.perform, DurableLogStore.truncateAfter, candidateOf]
    by_cases overflow : 2 ^ 64 ≤ truncateStart lastLogId
    · rw [if_pos overflow]
      exact .failed _ .truncateOverflow
    · rw [if_neg overflow]
      exact persist_performed serde store fault _
  | purge logId =>
    simp only [DurableLogStore.perform, DurableLogStore.purge, candidateOf]
    by_cases regressed : store.state.lastPurgedLogId.any (·.after logId) = true
    · rw [if_pos regressed]
      exact .failed _ .purgeRegressed
    · rw [if_neg regressed]
      exact persist_performed serde store fault _

end HeptaBao.Raft
