import HeptaBao.Durable.Validate
import HeptaBao.Wire.Text

namespace HeptaBao.P0

open Wire Std Durable List

inductive Method where
  | get | post | put | delete | list
deriving DecidableEq

inductive Operation where
  | sysHealth | sysInit | sysSealStatus | sysSeal | sysUnseal | kvRead | kvWrite | kvList | kvDelete
deriving DecidableEq

inductive ProtocolError where
  | unsupportedQuery | unknownOperation | invalidDeadline | deadlineBudgetTooLarge | clockRegression | deadlineExceeded
deriving DecidableEq

inductive BodyError where
  | invalidUtf8 | invalidObject | unexpectedShape | invalidEscape | invalidCharacter | emptyValue
deriving DecidableEq

structure RequestEnvelope where
  requestId : Str
  method : Method
  path : Str
  query : List (Str × Str)
  token : Option Bytes
  body : Bytes
  receivedAt : Nat
  deadline : Nat

def isKvPath (path : Str) : Bool := (stripPrefix (str "/v1/secret/") path).any (· ≠ [])

def classifyOperation (method : Method) (path : Str) (query : List (Str × Str)) : Except ProtocolError Operation :=
  if query ≠ [] then .error .unsupportedQuery
  else if method = .get ∧ path = str "/v1/sys/health" then .ok .sysHealth
  else if method ∈ [.put, .post] ∧ path = str "/v1/sys/init" then .ok .sysInit
  else if method = .get ∧ path = str "/v1/sys/seal-status" then .ok .sysSealStatus
  else if method ∈ [.put, .post] ∧ path = str "/v1/sys/seal" then .ok .sysSeal
  else if method ∈ [.put, .post] ∧ path = str "/v1/sys/unseal" then .ok .sysUnseal
  else if isKvPath path then
    .ok (match method with | .get => .kvRead | .list => .kvList | .put | .post => .kvWrite | .delete => .kvDelete)
  else .error .unknownOperation

def RequestEnvelope.validateAt (call : RequestEnvelope) (now : Nat) : Except ProtocolError Operation :=
  if call.deadline ≤ call.receivedAt then .error .invalidDeadline
  else if 60000000000 < call.deadline - call.receivedAt then .error .deadlineBudgetTooLarge
  else if now < call.receivedAt then .error .clockRegression
  else if call.deadline ≤ now then .error .deadlineExceeded
  else classifyOperation call.method call.path call.query

def escapeByte (byte : UInt8) : Bytes :=
  if byte = 34 then [92, 34]
  else if byte = 92 then [92, 92]
  else if byte = 10 then [92, 110]
  else if byte = 13 then [92, 114]
  else if byte = 9 then [92, 116]
  else if 32 ≤ byte ∧ byte ≤ 126 then [byte]
  else str "\\uFFFD"

-- escape_json is given ASCII only here, where the two escapes are the same.
def escapeJson (text : Bytes) : Bytes := text.flatMap escapeByte

def unescape (byte : UInt8) : Option UInt8 :=
  if byte = 34 then some 34
  else if byte = 92 then some 92
  else if byte = 110 then some 10
  else if byte = 114 then some 13
  else if byte = 116 then some 9
  else none

def decodeBytes : Bytes → Except BodyError Bytes
  | [] => .ok []
  | byte :: rest =>
    if byte = 92 then
      match rest with
      | [] => .error .invalidEscape
      | escape :: rest =>
        match unescape escape with
        | none => .error .invalidEscape
        | some plain => (decodeBytes rest).map (plain :: ·)
    else if byte < 32 ∨ 127 ≤ byte ∨ byte = 34 then .error .invalidCharacter
    else (decodeBytes rest).map (byte :: ·)

def decodeJsonString (source : Bytes) : Except BodyError Bytes := do
  let output ← decodeBytes source
  if output = [] then .error .emptyValue else .ok output

-- A range whose start lies behind its end, or that leaves the text, panics.
def slice (text : Bytes) (start stop : Nat) : Option Bytes :=
  if start ≤ stop ∧ stop ≤ text.length then some ((text.take stop).drop start) else none

def opening (key : String) : Bytes := 34 :: str key ++ [34, 58, 34]

def parseSecretField (body : Bytes) (key : String) : Option (Except BodyError Bytes) :=
  if utf8Valid body = false then some (.error .invalidUtf8)
  else if 64 * 1024 < body.length ∨ body.head? ≠ some 123 ∨ body.getLast? ≠ some 125 then some (.error .invalidObject)
  else do
    let inner ← slice body 1 (body.length - 1)
    if ¬ opening key <+: inner ∨ inner.getLast? ≠ some 34 then some (.error .unexpectedShape)
    else
      let encoded ← slice inner (opening key).length (inner.length - 1)
      some do
        let decoded ← decodeJsonString encoded
        if decoded = [] ∨ 1024 * 1024 < decoded.length then .error .invalidObject else .ok decoded

structure ServerState where
  initialized : Bool
  sealed : Bool
  kv : ExtTreeMap Str Bytes
  generation : Nat

structure P0Response where
  statusCode : Nat
  body : Bytes
  committed : Bool
  recoveryReference : Option Str

-- DevelopmentCredentials::new refuses short or equal secrets.
structure Credentials where
  rootToken : Bytes
  unsealKey : Bytes
  strong : 24 ≤ rootToken.length ∧ 24 ≤ unsealKey.length ∧ rootToken ≠ unsealKey

inductive AuditPhase where
  | requestAccepted | requestRejected | responsePrepared | responseCommitted

inductive CommitDisposition where
  | notAttempted | notCommitted | committed

structure AuditEvent where
  requestId : Str
  operation : Option Operation
  phase : AuditPhase
  commit : CommitDisposition
  statusCode : Nat
  detailCode : Str

def json (statusCode : Nat) (body : Bytes) : P0Response := ⟨statusCode, body, false, none⟩
def noContent (committed : Bool) : P0Response := ⟨204, [], committed, none⟩
def errors (statusCode : Nat) (text : Str) : P0Response := json statusCode (str "\x7b\"errors\":[\"" ++ text ++ str "\"]\x7d")

def protocolError : ProtocolError → Nat × Str × Str
  | .unsupportedQuery => (400, str "query is unsupported for this operation", str "protocol-unsupported-query")
  | .unknownOperation => (404, str "operation is not registered", str "protocol-unknown-operation")
  | .invalidDeadline => (400, str "deadline is not after receipt", str "protocol-invalid-deadline")
  | .deadlineBudgetTooLarge => (400, str "deadline budget exceeds the bound", str "protocol-deadline-budget-too-large")
  | .clockRegression => (400, str "monotonic clock regressed", str "protocol-clock-regression")
  | .deadlineExceeded => (408, str "request deadline is exceeded", str "protocol-deadline-exceeded")

def bodyErrorResponse (flaw : BodyError) : P0Response :=
  errors 400 (escapeJson (match flaw with
    | .invalidUtf8 => str "body is not UTF-8"
    | .invalidObject => str "body is not a bounded single-field JSON object"
    | .unexpectedShape => str "body has an unexpected single-field JSON shape"
    | .invalidEscape => str "body contains an invalid escape"
    | .invalidCharacter => str "body contains an invalid character"
    | .emptyValue => str "body value is empty"))

def flag (value : Bool) : Str := if value then str "true" else str "false"

def constantTimeEq (secret candidate : Bytes) : Bool :=
  (range (max secret.length candidate.length)).foldl
    (fun difference index => difference ||| (secret.getD index 0 ^^^ candidate.getD index 0).toNat) (secret.length ^^^ candidate.length) = 0

def operationBodyIsValid (body : Bytes) : Operation → Bool
  | .sysInit => body = str "\x7b\x7d"
  | .sysUnseal | .kvWrite => body ≠ []
  | _ => body = []

def allowedWhileSealed (op : Operation) : Bool := op ∈ [.sysHealth, .sysInit, .sysSealStatus, .sysUnseal]

def requiresAuthentication (op : Operation) : Bool := !allowedWhileSealed op

def kvKey (target : Str) : Str := (stripPrefix (str "/v1/secret/") target).getD []

def ServerState.next (state : ServerState) : ServerState := { state with generation := min (state.generation + 1) (2 ^ 64 - 1) }

def valueHead : Bytes := str "\x7b\"data\":\x7b\"value\":\""
def valueTail : Bytes := str "\"\x7d,\"production_supported\":false\x7d"

variable (credentials : Credentials) (state : ServerState) (call : RequestEnvelope) (now : Nat) (audit : AuditEvent → Bool)

def health : P0Response :=
  json (if ¬ state.initialized then 501 else if state.sealed then 503 else 200)
    (str "\x7b\"initialized\":" ++ flag state.initialized ++ str ",\"sealed\":" ++ flag state.sealed ++
      str ",\"active\":true,\"standby\":false,\"performance_standby\":false,\"replication_performance_mode\":\"disabled\",\"replication_dr_mode\":\"disabled\",\"server_time_utc\":0,\"version\":\"0.0.0-p0-dev\",\"cluster_name\":\"heptabao-p0-development\",\"cluster_id\":\"development-only\",\"production_supported\":false\x7d")

def initializeServer : P0Response × ServerState :=
  if state.initialized then (errors 400 (str "already initialized"), state)
  else
    ({ json 200 (str "\x7b\"initialized\":true,\"sealed\":true,\"development_credentials_returned\":false,\"production_supported\":false\x7d") with
      committed := true }, { state with initialized := true, sealed := true }.next)

def sealStatus : P0Response :=
  json 200 (str "\x7b\"initialized\":" ++ flag state.initialized ++ str ",\"sealed\":" ++ flag state.sealed ++
    str ",\"t\":1,\"n\":1,\"progress\":0,\"nonce\":\"\",\"type\":\"development-injected\",\"production_supported\":false\x7d")

def unsealServer : Option (P0Response × ServerState) := do
  match ← parseSecretField call.body "key" with
  | .error flaw => return (bodyErrorResponse flaw, state)
  | .ok key =>
    if ¬ constantTimeEq credentials.unsealKey key then return (errors 400 (str "invalid unseal key"), state)
    return ({ json 200 (str "\x7b\"sealed\":false,\"t\":1,\"n\":1,\"progress\":0,\"production_supported\":false\x7d") with
      committed := true }, { state with sealed := false }.next)

def kvRead : P0Response :=
  match state.kv[kvKey call.path]? with
  | some value => json 200 (valueHead ++ escapeJson value ++ valueTail)
  | none => errors 404 (str "secret not found")

def kvWrite : Option (P0Response × ServerState) := do
  match ← parseSecretField call.body "value" with
  | .error flaw => return (bodyErrorResponse flaw, state)
  | .ok secret => return (noContent true, { state with kv := state.kv.insert (kvKey call.path) secret }.next)

def kvDelete : P0Response × ServerState :=
  if kvKey call.path ∈ state.kv then (noContent true, { state with kv := state.kv.erase (kvKey call.path) }.next) else (noContent false, state)

def kvList : P0Response :=
  let keys := ((state.kv.keys.filterMap (stripPrefix (kvKey call.path))).filterMap (stripPrefix [47])).filter (· ≠ [])
  let names := (ExtTreeSet.ofList (keys.map (·.takeWhile (· ≠ 47)))).toList
  json 200 (str "\x7b\"data\":\x7b\"keys\":[" ++ intercalate [44] (names.map fun name => 34 :: escapeJson name ++ [34]) ++
    str "]\x7d,\"production_supported\":false\x7d")

def dispatch : Operation → Option (P0Response × ServerState)
  | .sysHealth => some (health state, state)
  | .sysInit => some (initializeServer state)
  | .sysSealStatus => some (sealStatus state, state)
  | .sysSeal => some (noContent true, { state with sealed := true }.next)
  | .sysUnseal => unsealServer credentials state call
  | .kvRead => some (kvRead state call, state)
  | .kvWrite => kvWrite state call
  | .kvList => some (kvList state call, state)
  | .kvDelete => some (kvDelete state call)

def reject (op : Option Operation) (response : P0Response) (detail : Str) : P0Response :=
  if audit ⟨call.requestId, op, .requestRejected, .notAttempted, response.statusCode, detail⟩ then response
  else errors 503 (str "rejection audit unavailable")

-- The checks of handle before it dispatches.
def admission : Except P0Response Operation :=
  match call.validateAt now with
  | .error flaw =>
    let (status, text, detail) := protocolError flaw
    .error (reject call audit none (errors status (escapeJson text)) detail)
  | .ok op =>
    let refuse (status : Nat) (detail text : String) := .error (reject call audit (some op) (errors status (str text)) (str detail))
    if ¬ operationBodyIsValid call.body op then refuse 400 "operation-body-forbidden" "request body is not valid for this operation"
    else if state.sealed ∧ ¬ allowedWhileSealed op then refuse 503 "sealed" "server is sealed"
    else if ¬ state.initialized ∧ op ∉ [.sysHealth, .sysInit, .sysSealStatus] then refuse 503 "not-initialized" "server is not initialized"
    else if requiresAuthentication op ∧ ¬ call.token.any (constantTimeEq credentials.rootToken) then
      refuse 403 "authentication-failed" "permission denied"
    else if ¬ audit ⟨call.requestId, some op, .requestAccepted, .notAttempted, 0, str "dispatch-authorized"⟩ then
      .error (errors 503 (str "request audit unavailable"))
    else .ok op

def audited (op : Operation) (response : P0Response) (after : ServerState) : P0Response :=
  let event : AuditEvent := if response.committed then
      ⟨call.requestId, some op, .responseCommitted, .committed, response.statusCode, str "response-committed"⟩
    else ⟨call.requestId, some op, .responsePrepared, .notCommitted, response.statusCode, str "response-prepared"⟩
  if audit event then response
  else if response.committed then
    let reference := str "p0-audit-reconcile-" ++ call.requestId ++ [45] ++ decimal after.generation
    ⟨503, str "\x7b\"errors\":[\"response audit failed after commit\"],\"committed\":true,\"recovery_reference\":\"" ++ escapeJson reference ++
      str "\"\x7d", true, some reference⟩
  else { response with statusCode := 503, body := (errors 503 (str "response audit unavailable")).body }

-- No result stands for a panic.
def handle : Option (P0Response × ServerState) :=
  match admission credentials state call now audit with
  | .error response => some (response, state)
  | .ok op => (dispatch credentials state call op).map fun (response, after) => (audited call audit op response after, after)

end HeptaBao.P0
