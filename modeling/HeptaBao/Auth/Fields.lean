import HeptaBao.Durable.Validate
import HeptaBao.Wire.Value

namespace HeptaBao.Auth

open Wire Std Durable

def defaultTtl : Nat := 3600
def maxTtl : Nat := 32 * 24 * 3600
def passwordRounds : Nat := 600000
def mfaSeedBytes : Nat := 32
def mfaPeriodSeconds : Nat := 30
def mfaDigits : Nat := 6
def mfaDriftSteps : Nat := 1
def maxExternalReplayEntries : Nat := 32000

def capabilities : List Str := ["create", "read", "update", "delete", "list", "patch", "sudo", "deny"].map str

structure AuthError where
  status : Nat
  message : Str
deriving DecidableEq

def err (status : Nat) (message : String) : AuthError := ⟨status, str message⟩
def bad (message : String) : AuthError := err 400 message
def denied : AuthError := err 403 "permission denied"

structure AuthResponse where
  status : Nat
  body : Value
  mutated : Bool

def response (data : Value) (mutated : Bool) : AuthResponse := ⟨200, .object [(str "data", data)], mutated⟩
def empty (mutated : Bool) : AuthResponse := ⟨204, .null, mutated⟩

inductive JwtAlgorithm where
  | ed25519
  | es256
deriving DecidableEq

-- Signature checks, key derivation and text codecs come from other crates.
structure Library where
  sha256 : Bytes → Digest
  hmac : Bytes → Bytes → Digest
  pbkdf2 : Nat → Bytes → Bytes → Nat → Bytes
  encodeBase64 : Bytes → Str
  decodeBase64 : Str → Option Bytes
  verifySignature : JwtAlgorithm → Bytes → Bytes → Bytes → Bool
  -- reads a JSON text with every object's members in the text's order
  readJson : Bytes → Option Value
  writeJson : Value → Str

-- The random bytes one request draws, in order; a draw may fail.
abbrev Draws := Nat → Option Bytes

def drawBytes (draws : Draws) (index : Nat) : Except AuthError Bytes :=
  match draws index with
  | some bytes => .ok bytes
  | none => .error (err 500 "secure randomness unavailable")

def randomId (lib : Library) (draws : Draws) (index : Nat) (front : String) : Except AuthError Str :=
  (drawBytes draws index).map fun bytes => str front ++ lib.encodeBase64 bytes

def hash (lib : Library) (value : Str) : Str := lib.encodeBase64 (lib.sha256 value).bytes

def checkedExpiry (now ttl : Nat) : Except AuthError Nat :=
  if u64Max < now + ttl then .error (bad "TTL overflows timestamp") else .ok (now + ttl)

def unlimitedZero (value : Nat) : Option Nat := if value = 0 then none else some value

theorem checked_expiry_ok {now ttl expiry : Nat} (checked : checkedExpiry now ttl = .ok expiry) :
    expiry = now + ttl := by
  unfold checkedExpiry at checked
  by_cases beyond : u64Max < now + ttl
  · simp [beyond] at checked
  · simpa [beyond] using checked.symm

def validName (name : Str) : Bool :=
  name ≠ [] && name.length ≤ 128 && name ≠ str "." && name ≠ str ".." && name.all segmentByte

def validateNamespace (nspace : Str) : Except AuthError Unit :=
  if nspace = [] then .ok ()
  else if 512 < nspace.length ∨ (nspace.splitOn 47).all validName = false then .error (bad "invalid namespace")
  else .ok ()

def validatePath (path : Str) (pattern : Bool) : Except AuthError Unit :=
  if path = [] ∨ 2048 < path.length ∨ path.head? = some 47 ∨ containsText (str "//") path = true ∨
      path.any (fun byte => byte < 33 || byte == 127 || byte == 92 || byte == 37) = true ∨
      (path.splitOn 47).any (fun segment => segment == str "." || segment == str "..") = true then
    .error (bad "invalid ACL path")
  else if pattern then
    if containsText [123, 123] path = true ∨ containsText [36, 123] path = true ∨ 1 < path.count 42 ∨ (42 ∈ path ∧ path.getLast? ≠ some 42) ∨
        (path.splitOn 47).any (fun segment => segment.contains 43 && segment != str "+") = true then
      .error (bad "only whole-segment + and terminal * ACL wildcards are supported")
    else .ok ()
  else if 42 ∈ path ∨ 43 ∈ path then .error (bad "wildcards are not permitted in request paths")
  else .ok ()

def stringField (body : Value) (field : String) : Except AuthError Str :=
  match (body.get (str field)).bind Value.asStr with
  | some text => .ok text
  | none => .error (bad "required string field missing or invalid")

def number (body : Value) (field : String) (default : Nat) : Except AuthError Nat :=
  match body.get (str field) with
  | none => .ok default
  | some value =>
    match value.asU64 with
    | some read => .ok read
    | none => .error (bad "expected nonnegative integer")

def boolean (body : Value) (field : String) (default : Bool) : Except AuthError Bool :=
  match body.get (str field) with
  | none => .ok default
  | some value =>
    match value.asBool with
    | some read => .ok read
    | none => .error (bad "expected boolean")

def durationUnit : UInt8 → Option Nat
  | 115 => some 1
  | 109 => some 60
  | 104 => some 3600
  | 100 => some 86400
  | _ => none

def durationText (text : Str) : Except AuthError Nat :=
  match parseU64 text with
  | some seconds => .ok seconds
  | none =>
    match text.getLast?.bind durationUnit with
    | none => .error (bad "duration must be whole seconds or integer s/m/h/d")
    | some multiplier =>
      match parseU64 text.dropLast with
      | none => .error (bad "invalid duration")
      | some count => if u64Max < count * multiplier then .error (bad "invalid duration") else .ok (count * multiplier)

def duration (body : Value) (field : String) (default : Nat) : Except AuthError Nat :=
  match body.get (str field) with
  | none => .ok default
  | some (.natural seconds) => .ok seconds.toNat
  | some (.string text) => durationText text
  | some _ => .error (bad "invalid duration")

def rejectUnknown (body : Value) (allowed : List String) : Except AuthError Unit :=
  match body.asObject with
  | none => .error (bad "request body must be an object")
  | some members =>
    if members.any (fun member => !(allowed.map str).contains member.1) then .error (bad "unsupported request field")
    else .ok ()

def rejectAliasPair (body : Value) (a b : String) : Except AuthError Unit :=
  if (body.get (str a)).isSome ∧ (body.get (str b)).isSome then .error (bad "conflicting aliases") else .ok ()

def aliased (body : Value) (preferred other : String) : String :=
  if (body.get (str preferred)).isSome then preferred else other

abbrev Names := ExtTreeSet Str

def strings (flaw : AuthError) : List Value → Except AuthError (List Str)
  | [] => .ok []
  | value :: rest =>
    match value.asStr with
    | none => .error flaw
    | some text => (strings flaw rest).map (text :: ·)

def policyNames (body : Value) (field : String) (default : Names) : Except AuthError Names :=
  match body.get (str field) with
  | none => .ok default
  | some (.string value) => .ok (ExtTreeSet.ofList (((value.splitOn 44).map trim).filter (· ≠ [])))
  | some (.array values) => (strings (bad "policies must contain strings") values).map fun names => ExtTreeSet.ofList names
  | some _ => .error (bad "policies must be an array or comma-separated string")

def policies (body : Value) (field : String) (default : Names) (addDefault : Bool) : Except AuthError Names := do
  let res ← policyNames body field default
  if res.toList.any (fun name => !validName name) then .error (bad "invalid policy name")
  else if addDefault = true ∧ str "root" ∉ res then .ok (res.insert (str "default"))
  else .ok res

def isSubset (inner outer : Names) : Bool := inner.toList.all outer.contains

def isDisjoint (left right : Names) : Bool := left.toList.all fun name => !right.contains name

def claimTexts (body : Value) (name : String) : Except AuthError (List Str) :=
  match body.get (str name) with
  | none => .ok []
  | some (.string value) => .ok ((value.splitOn 44).map trim)
  | some (.array values) => strings (bad "claim bindings must be strings") values
  | some _ => .error (bad "claim bindings must be a string or array")

def claimValues (body : Value) (name : String) : Except AuthError Names := do
  let values ← claimTexts body name
  if 64 < values.length ∨ values.any (fun value => value == [] || decide (1024 < value.length) || anyControl value) = true then
    .error (bad "claim bindings exceed bounds or contain invalid strings")
  else .ok (ExtTreeSet.ofList values)

def normalizeTtl (ttl maximum : Nat) : Except AuthError (Nat × Nat) :=
  let ttl := if ttl = 0 then defaultTtl else ttl
  let maximum := if maximum = 0 then maxTtl else maximum
  if maximum < ttl ∨ maxTtl < maximum then .error (bad "invalid token TTL limits") else .ok (ttl, maximum)

theorem normalize_ttl_ok {ttl maximum low high : Nat} (normal : normalizeTtl ttl maximum = .ok (low, high)) :
    low ≤ high ∧ high ≤ maxTtl := by
  simp only [normalizeTtl] at normal
  generalize (if ttl = 0 then defaultTtl else ttl) = a at normal
  generalize (if maximum = 0 then maxTtl else maximum) = b at normal
  by_cases outside : b < a ∨ maxTtl < b
  · simp [outside] at normal
  · simp only [outside, if_false, Except.ok.injEq, Prod.mk.injEq] at normal
    omega

theorem is_subset_iff (inner outer : Names) : isSubset inner outer = true ↔ ∀ name ∈ inner, name ∈ outer := by
  simp [isSubset, List.all_eq_true]

end HeptaBao.Auth
