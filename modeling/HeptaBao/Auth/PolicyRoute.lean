import HeptaBao.Auth.Acl

namespace HeptaBao.Auth

open Wire Std Durable Exec Action

inductive Lex where
  | word (text : Str)
  | string (text : Str)
  | symbol (byte : UInt8)
deriving DecidableEq

def asciiWhitespace (byte : UInt8) : Bool := byte == 32 || byte == 9 || byte == 10 || byte == 12 || byte == 13

def asciiAlphabetic (byte : UInt8) : Bool := (65 ≤ byte && byte ≤ 90) || (97 ≤ byte && byte ≤ 122)

def hclSymbols : Bytes := [123, 125, 91, 93, 61, 44]

def skipComment : Bytes → Option Bytes
  | 42 :: 47 :: rest => some rest
  | _ :: second :: rest => skipComment (second :: rest)
  | _ => none

def quoted : Bool → Bytes → Option (Bytes × Bytes)
  | _, [] => none
  | escaped, byte :: rest =>
    if byte = 34 ∧ escaped = false then some ([34], rest)
    else (quoted (byte == 92 && !escaped) rest).map fun parts => (byte :: parts.1, parts.2)

def lexHcl (lib : Library) : Nat → Bytes → Except AuthError (List Lex)
  | 0, _ => .ok []
  | _ + 1, [] => .ok []
  | fuel + 1, byte :: rest =>
    if asciiWhitespace byte then lexHcl lib fuel rest
    else if byte = 35 ∨ (byte = 47 ∧ rest.head? = some 47) then lexHcl lib fuel (rest.dropWhile (· != 10))
    else if byte = 47 ∧ rest.head? = some 42 then
      match skipComment rest.tail with
      | none => .error (bad "unterminated HCL comment")
      | some after => lexHcl lib fuel after
    else if byte ∈ hclSymbols then (lexHcl lib fuel rest).map (.symbol byte :: ·)
    else if byte = 34 then
      match quoted false rest with
      | none => .error (bad "unterminated HCL string")
      | some (body, after) =>
        match (lib.readJson (34 :: body)).bind Value.asStr with
        | none => .error (bad "invalid HCL string escape")
        | some text => (lexHcl lib fuel after).map (.string text :: ·)
    else if asciiAlphabetic byte ∨ byte = 95 then
      let inWord := fun other : UInt8 => asciiAlphanumeric other || other == 95
      (lexHcl lib fuel (rest.dropWhile inWord)).map (.word (byte :: rest.takeWhile inWord) :: ·)
    else .error (bad "unsupported character in HCL policy")

def takeLex (wanted : Lex) : List Lex → Except AuthError (List Lex)
  | [] => .error (bad "unsupported or malformed HCL policy")
  | lexeme :: rest => if lexeme = wanted then .ok rest else .error (bad "unsupported or malformed HCL policy")

def takeText : List Lex → Except AuthError (Str × List Lex)
  | .string text :: rest => .ok (text, rest)
  | _ => .error (bad "quoted string required in HCL policy")

def takeCapabilities : Nat → List Lex → Names → Except AuthError (Names × List Lex)
  | 0, lexemes, names => .ok (names, lexemes)
  | fuel + 1, lexemes, names => do
    let taken ← takeText lexemes
    let names := names.insert taken.1
    if taken.2.head? ≠ some (.symbol 44) then .ok (names, taken.2)
    else if taken.2.tail.head? = some (.symbol 93) then .ok (names, taken.2.tail)
    else takeCapabilities fuel taken.2.tail names

def takeList (lexemes : List Lex) : Except AuthError (Names × List Lex) :=
  if lexemes.head? = some (.symbol 93) then .ok (∅, lexemes) else takeCapabilities (lexemes.length + 1) lexemes ∅

def rule (path : Str) (names : Names) : Except AuthError Rule := do
  validatePath path true
  if names.toList.any (fun name => !capabilities.contains name) then .error (bad "unsupported ACL capability") else .ok ⟨path, names⟩

def hclRules : Nat → List Lex → List Str → Except AuthError (List Rule)
  | 0, _, _ => .ok []
  | _ + 1, [], _ => .ok []
  | fuel + 1, lexemes, seen => do
    let lexemes ← takeLex (.word (str "path")) lexemes
    let named ← takeText lexemes
    if named.1 ∈ seen then .error (bad "duplicate ACL path")
    else do
      let lexemes ← takeLex (.symbol 123) named.2
      let lexemes ← takeLex (.word (str "capabilities")) lexemes
      let lexemes ← takeLex (.symbol 61) lexemes
      let lexemes ← takeLex (.symbol 91) lexemes
      let taken ← takeList lexemes
      let lexemes ← takeLex (.symbol 93) taken.2
      let lexemes ← takeLex (.symbol 125) lexemes
      let first ← rule named.1 taken.1
      let rest ← hclRules fuel lexemes (named.1 :: seen)
      .ok (first :: rest)

variable (lib : Library)

def parseStrictJson (text : Bytes) : Except AuthError Value :=
  match (lib.readJson text).bind strict with
  | some value => .ok value
  | none => .error (bad "invalid JSON or duplicate object key")

def jsonRules : List (Bytes × Value) → Except AuthError (List Rule)
  | [] => .ok []
  | (path, config) :: rest => do
    rejectUnknown config ["capabilities"]
    match (config.get (str "capabilities")).bind Value.asArray with
    | none => .error (bad "capabilities array is required")
    | some values => do
      let names ← strings (bad "capability must be a string") values
      let first ← rule path (ExtTreeSet.ofList names)
      let others ← jsonRules rest
      .ok (first :: others)

def jsonPolicy (text : Bytes) : Except AuthError (List Rule) := do
  let parsed ← parseStrictJson lib text
  rejectUnknown parsed ["path"]
  match (parsed.get (str "path")).bind Value.asObject with
  | none => .error (bad "policy path object is required")
  | some paths => jsonRules paths

def hclPolicy (text : Bytes) : Except AuthError (List Rule) := do
  let lexemes ← lexHcl lib (text.length + 1) text
  hclRules (lexemes.length + 1) lexemes []

def parsePolicy (input : Value) : Except AuthError Policy :=
  let source := input.asStr.getD (lib.writeJson input)
  if 256 * 1024 < source.length then .error (bad "policy too large")
  else do
    let rules ← if (trim source).head? = some 123 then jsonPolicy lib (trim source) else hclPolicy lib (trim source)
    if 4096 < rules.length then .error (bad "too many policy rules") else .ok ⟨source, rules⟩

def defaultPolicySource : Str :=
  str "path \"auth/token/lookup-self\" \x7b capabilities = [\"read\"] \x7d\n" ++
  str "path \"auth/token/renew-self\" \x7b capabilities = [\"update\"] \x7d\n" ++
  str "path \"auth/token/revoke-self\" \x7b capabilities = [\"update\"] \x7d\n"

def policyCapability (method name : Str) : Except AuthError Str :=
  if method = str "GET" then .ok (if name = [] then str "list" else str "read")
  else if method = str "LIST" then .ok (str "list")
  else if method = str "DELETE" then .ok (str "delete")
  else if method = str "POST" ∨ method = str "PUT" then .ok (str "update")
  else .error (err 405 "method not allowed")

def policyKeys (state : AuthState) (nspace : Str) : List Str :=
  let stored : Names := ExtTreeSet.ofList ((state.policies[nspace]?.map (·.keys)).getD [])
  let keys := stored.insert (str "default")
  (if nspace = [] then keys.insert (str "root") else keys).toList

def policyRoute (who : Option Principal) (nspace method path : Str) (body : Value) (now : Nat) :
    AuthAction AuthResponse := do
  let suffix ← lift (match (stripPrefix (str "sys/policies/acl") path).or (stripPrefix (str "sys/policy") path) with
    | some suffix => .ok suffix
    | none => .error (bad "invalid policy route"))
  let name := (stripPrefix (str "/") suffix).getD suffix
  let power ← lift (policyCapability method name)
  let actor ← query fun state => state.permission who nspace path power now
  if name = [] then do
    refuse (power ≠ str "list") (bad "policy name required")
    let keys ← query fun state => .ok (policyKeys state nspace)
    pure (response (.object [(str "keys", .ofStrings keys), (str "policies", .ofStrings keys)]) false)
  else do
    refuse (validName name = false) (bad "invalid policy name")
    refuse (name = str "root") (bad "root policy cannot be read, changed, or deleted")
    if power = str "read" then do
      let source ← query fun state => match state.policies[nspace]?.bind (·[name]?) with
        | some policy => .ok policy.source
        | none => if name = str "default" then .ok defaultPolicySource else .error (err 404 "policy not found")
      pure (response (.object [(str "name", .string name), (str "policy", .string source), (str "rules", .string source)]) false)
    else do
      query fun state => state.authorizeRequest actor nspace path (str "sudo") now
      if power = str "delete" then do
        refuse (name = str "default") (bad "default policy cannot be deleted")
        Action.modify fun state => state.removePolicy nspace name
        pure (empty true)
      else do
        refuse (power ≠ str "update") (err 405 "method not allowed")
        lift (rejectUnknown body ["policy"])
        let input ← lift (match body.get (str "policy") with
          | some input => .ok input
          | none => .error (bad "policy is required"))
        let policy ← lift (parsePolicy lib input)
        Action.modify fun state => state.insertPolicy nspace name policy
        pure (empty true)

end HeptaBao.Auth
