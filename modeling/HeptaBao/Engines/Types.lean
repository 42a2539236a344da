import HeptaBao.Durable.Types
import HeptaBao.Wire.Value

namespace HeptaBao.Engines

open Wire Wire.Json Std Durable

structure EngineError where
  status : Nat
  message : Str
deriving DecidableEq

structure EngineResponse where
  status : Nat
  body : Value
  mutated : Bool

def err (status : Nat) (message : String) : EngineError := ⟨status, str message⟩
def bad (message : String) : EngineError := err 400 message
def notFound : EngineError := err 404 "no value found"
def unsupported : EngineError := err 405 "operation is not supported by this engine"

def ok (data : Value) (mutated : Bool) : EngineResponse := ⟨200, .object [(str "data", data)], mutated⟩
def empty (mutated : Bool) : EngineResponse := ⟨204, .null, mutated⟩

-- A handler answers and leaves a candidate, which counts only without an error.
abbrev Answer (σ : Type) := EngineResponse × σ

-- The candidate replaces the state only when the response says that it changed.
def commit {σ : Type} (state : σ) : Except EngineError (Answer σ) → σ
  | .ok (response, candidate) => if response.mutated then candidate else state
  | .error _ => state

def orFail {α : Type} (flaw : EngineError) : Option α → Except EngineError α
  | some value => .ok value
  | none => .error flaw

def refuse (condition : Prop) [Decidable condition] (flaw : EngineError) : Except EngineError Unit :=
  if condition then .error flaw else .ok ()

theorem or_fail_ok {α : Type} {flaw : EngineError} {value : Option α} {found : α}
    (passed : orFail flaw value = .ok found) : value = some found := by
  cases value with
  | none => cases passed
  | some => cases passed; rfl

theorem refuse_ok {condition : Prop} [Decidable condition] {flaw : EngineError} {done : Unit}
    (passed : refuse condition flaw = .ok done) :
    ¬ condition := by
  intro holds
  rw [refuse, if_pos holds] at passed
  cases passed

def setMember (name : Str) (value : Value) : List (Str × Value) → List (Str × Value)
  | [] => [(name, value)]
  | (other, old) :: rest =>
    match compare name other with
    | .lt => (name, value) :: (other, old) :: rest
    | .eq => (name, value) :: rest
    | .gt => (other, old) :: setMember name value rest

def among (method : Str) (names : List String) : Bool := (names.map str).contains method

def writeMethod (method : Str) : Bool := among method ["POST", "PUT"]

def validPath (path : Str) : Except EngineError Unit :=
  refuse (path = [] ∨ 1024 < path.length ∨ anyControl path = true ∨ path.any (fun byte => [92, 37, 63, 35].contains byte) = true ∨
    (path.splitOn 47).any (fun segment => segment == [] || segment == str "." || segment == str "..") = true)
    (bad "path must contain canonical, nonempty path segments")

def optionalU64 (body : Value) (name : String) : Except EngineError (Option Nat) :=
  match body.get (str name) with
  | none => .ok none
  | some value => (orFail (bad "expected a nonnegative integer parameter") (value.asU64 <|> value.asStr.bind parseU64)).map some

def optionalBool (body : Value) (name : String) : Except EngineError (Option Bool) :=
  match body.get (str name) with
  | none => .ok none
  | some value => (orFail (bad "expected a boolean parameter") value.asBool).map some

def string (body : Value) (name : String) : Except EngineError Str :=
  orFail (bad "required string parameter is missing or invalid") ((body.get (str name)).bind Value.asStr)

def rejectUnknown (body : Value) (allowed : List String) : Except EngineError Unit := do
  let members ← orFail (bad "request body must be an object") body.asObject
  refuse (members.any (fun member => !among member.1 allowed) = true) (bad "unsupported parameter; no state was changed")

def folder (front : Str) : Str := if front = [] then [] else trimEndMatches 47 front ++ [47]

def listedName (recursive : Bool) (rest : Str) : Str :=
  if recursive then rest else
    match splitOnce 47 rest with
    | none => rest
    | some (first, _) => first ++ [47]

def listKeys (keys : List Str) (front : Str) (recursive : Bool) (body : Value) : Except EngineError (List Str) := do
  let limit ← optionalU64 body "limit"
  let found := ExtTreeSet.ofList (((keys.filterMap (stripPrefix (folder front))).filter (· ≠ [])).map (listedName recursive))
  let after := ((body.get (str "after")).bind Value.asStr).getD []
  let listed := found.toList.filter fun name => compare after name == .lt
  return if limit.getD 0 = 0 then listed else listed.take (limit.getD 0)

def padded (width value : Nat) : Str := List.replicate (width - (decimal value).length) 48 ++ decimal value

-- RFC 3339 UTC by the civil calendar counted in eras of 400 years.
def timestamp (seconds : Nat) : Str :=
  let seconds := min seconds 253402300799
  let z := seconds / 86400 + 719468
  let era := z / 146097
  let doe := z - era * 146097
  let yoe := (doe - doe / 1460 + doe / 36524 - doe / 146096) / 365
  let doy := doe - (365 * yoe + yoe / 4 - yoe / 100)
  let mp := (5 * doy + 2) / 153
  let day := doy - (153 * mp + 2) / 5 + 1
  let month := if mp < 10 then mp + 3 else mp - 9
  let year := yoe + era * 400 + if month ≤ 2 then 1 else 0
  let time := seconds % 86400
  padded 4 year ++ [45] ++ padded 2 month ++ [45] ++ padded 2 day ++ [84] ++ padded 2 (time / 3600) ++ [58] ++
    padded 2 (time / 60 % 60) ++ [58] ++ padded 2 (time % 60) ++ [90]

def durationUnit : UInt8 → Option Nat
  | 115 => some 1
  | 109 => some 60
  | 104 => some 3600
  | _ => none

def durationStep (state : Str × Nat) (byte : UInt8) : Except EngineError (Str × Nat) :=
  if asciiDigit byte then .ok (state.1 ++ [byte], state.2)
  else do
    let multiplier ← orFail (bad "duration supports integer s, m and h units") (durationUnit byte)
    let count ← orFail (bad "invalid duration") (parseU64 state.1)
    refuse (u64Max < count * multiplier ∨ u64Max < state.2 + count * multiplier) (bad "duration overflow")
    return ([], state.2 + count * multiplier)

def durationSeconds (value : Value) : Except EngineError Nat := do
  let text ← orFail (bad "duration must be a string") value.asStr
  if text = str "0" then return 0
  let (number, total) ← text.foldlM durationStep ([], 0)
  refuse (number ≠ [] ∨ text = [] ∨ 315360000 < total) (bad "invalid duration or duration exceeds ten years")
  return total

end HeptaBao.Engines
