import HeptaBao.Auth.Handle
import HeptaBao.Hash.Digests

namespace HeptaBao.Auth

open Wire Std Durable

-- For runs on fixed inputs: digests and base64 are computed, the rest are tables.
def base64Digit (value : Nat) : UInt8 :=
  if value < 26 then UInt8.ofNat (65 + value)
  else if value < 52 then UInt8.ofNat (97 + (value - 26))
  else if value < 62 then UInt8.ofNat (48 + (value - 52))
  else if value = 62 then 45
  else 95

def encodeUrlSafe : Bytes → Str
  | [] => []
  | [a] => [base64Digit (a.toNat / 4), base64Digit (a.toNat % 4 * 16)]
  | [a, b] => [base64Digit (a.toNat / 4), base64Digit (a.toNat % 4 * 16 + b.toNat / 16), base64Digit (b.toNat % 16 * 4)]
  | a :: b :: c :: rest =>
    base64Digit (a.toNat / 4) :: base64Digit (a.toNat % 4 * 16 + b.toNat / 16) ::
      base64Digit (b.toNat % 16 * 4 + c.toNat / 64) :: base64Digit (c.toNat % 64) :: encodeUrlSafe rest

def rawOf (byte : UInt8) : Str := str "hvs." ++ encodeUrlSafe (List.replicate 32 byte)

-- The digests of the raw tokens those runs draw, computed once.
def rawDigests : List (Str × Digest) := [
  (rawOf 1, ⟨[180, 173, 214, 66, 138, 184, 141, 170, 98, 28, 75, 234, 220, 134, 92, 158,
      52, 8, 150, 83, 153, 79, 118, 252, 230, 219, 66, 59, 251, 139, 69, 251], rfl⟩),
  (rawOf 2, ⟨[104, 244, 110, 102, 150, 177, 214, 6, 22, 174, 19, 40, 6, 188, 40, 43,
      0, 4, 8, 90, 125, 8, 182, 21, 219, 3, 111, 249, 79, 147, 251, 125], rfl⟩),
  (rawOf 3, ⟨[30, 171, 72, 17, 7, 192, 138, 30, 188, 70, 29, 106, 4, 125, 237, 58,
      242, 243, 195, 244, 173, 9, 46, 184, 231, 35, 91, 179, 192, 181, 168, 221], rfl⟩),
  (rawOf 4, ⟨[172, 163, 69, 189, 222, 102, 222, 127, 249, 128, 115, 182, 120, 178, 62, 169,
      22, 118, 119, 105, 161, 193, 70, 26, 82, 81, 219, 254, 105, 64, 140, 104], rfl⟩),
  (rawOf 5, ⟨[136, 21, 243, 251, 221, 9, 172, 14, 91, 134, 37, 161, 5, 233, 166, 179,
      100, 25, 245, 8, 105, 53, 244, 223, 25, 75, 12, 88, 65, 164, 182, 167], rfl⟩),
  (rawOf 6, ⟨[116, 7, 123, 119, 205, 129, 220, 3, 201, 135, 124, 63, 193, 34, 17, 9,
      244, 24, 173, 167, 212, 32, 182, 224, 201, 174, 190, 33, 103, 196, 182, 42], rfl⟩),
  (rawOf 7, ⟨[235, 168, 230, 118, 1, 71, 46, 203, 9, 114, 218, 134, 177, 250, 98, 172,
      12, 81, 60, 147, 4, 255, 227, 211, 103, 209, 132, 146, 61, 201, 160, 8], rfl⟩),
  (rawOf 8, ⟨[205, 164, 172, 210, 83, 151, 153, 128, 128, 22, 159, 176, 148, 219, 85, 74,
      242, 8, 171, 217, 236, 127, 53, 255, 8, 240, 153, 3, 9, 0, 33, 168], rfl⟩),
  (rawOf 9, ⟨[118, 223, 250, 50, 116, 99, 214, 228, 149, 212, 26, 218, 177, 202, 165, 215,
      51, 23, 185, 83, 244, 44, 213, 92, 74, 67, 143, 188, 0, 106, 153, 170], rfl⟩)]

def sha256Known (message : Bytes) : Digest := (rawDigests.lookup message).getD (sha256Digest message)

structure Tables where
  passwords : List ((Bytes × Bytes) × Bytes)
  encoded : List (Str × Bytes)
  texts : List (Bytes × Value)
  signatures : List (Bytes × Bytes)

def standIn (tables : Tables) : Library where
  sha256 := sha256Known
  hmac := hmacSha256
  pbkdf2 := fun _ salt password length => ((tables.passwords.lookup (salt, password)).getD []).take length
  encodeBase64 := encodeUrlSafe
  decodeBase64 := fun text => tables.encoded.lookup text
  verifySignature := fun _ _ message signature => tables.signatures.contains (message, signature)
  readJson := fun text => (tables.texts.find? (·.1 == text)).map (·.2)
  writeJson := fun _ => []

def plainLibrary : Library := standIn ⟨[], [], [], []⟩

def drawn (first second : UInt8) : Draws
  | 0 => some (List.replicate 32 first)
  | 1 => some (List.replicate 32 second)
  | _ => none

def idOf (byte : UInt8) : Str := hash plainLibrary (rawOf byte)

def serviceToken (names : List String) : Token where
  accessor := str "a.fixed"
  nspace := []
  policies := ExtTreeSet.ofList (names.map str)
  root := names.contains "root"
  parent := none
  createdAt := 0
  expiresAt := if names.contains "root" then none else some 3600
  maxExpiresAt := if names.contains "root" then none else some 7200
  period := 0
  renewable := true
  usesRemaining := none
  displayName := str "token"
  authMount := none
  authOriginKnown := true

def grantingPolicy (path : String) (granted : List String) : Policy :=
  ⟨[], [⟨str path, ExtTreeSet.ofList (granted.map str)⟩]⟩

def stateWith (byte : UInt8) (token : Token) (path : String) (granted : List String) : AuthState where
  tokens := (∅ : Table Token).insert (idOf byte) token
  policies := (∅ : Table (Table Policy)).insert [] ((∅ : Table Policy).insert (str "dev") (grantingPolicy path granted))
  users := ∅
  roles := ∅
  mountedUsers := ∅
  mountedRoles := ∅
  authMounts := ∅
  jwtMounts := ∅

def requestBy (byte : UInt8) (method path : String) (body : List (String × Value)) (now : Nat) (draws : Draws) :
    Request where
  token := rawOf byte
  nspace := []
  method := str method
  path := str path
  body := .object (body.map fun member => (str member.1, member.2))
  now := now
  draws := draws

def bootedState : AuthState where
  tokens := (∅ : Table Token).insert (idOf 2) (rootToken (str "a." ++ encodeUrlSafe (List.replicate 32 1)) 0)
  policies := ∅
  users := ∅
  roles := ∅
  mountedUsers := ∅
  mountedRoles := ∅
  authMounts := ∅
  jwtMounts := ∅

theorem booted_state : bootstrap plainLibrary (drawn 1 2) 0 = .ok (bootedState, rawOf 2) := rfl

theorem answered {ε α : Type} (res : Except ε α) (succeeds : res.isOk = true) : ∃ answer, res = .ok answer := by
  cases res with
  | error => cases succeeds
  | ok answer => exact ⟨answer, rfl⟩

end HeptaBao.Auth
