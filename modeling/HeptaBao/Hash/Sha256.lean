import HeptaBao.Wire.Bytes

namespace Sha256

open Wire

-- SHA-256 on naturals below 2^32, so that the kernel can run it.
def wordLimit : Nat := 4294967296

def rotateRight (count word : Nat) : Nat := (word >>> count) ||| ((word <<< (32 - count)) % wordLimit)

def roundConstants : List Nat := [
  0x428a2f98, 0x71374491, 0xb5c0fbcf, 0xe9b5dba5, 0x3956c25b, 0x59f111f1, 0x923f82a4, 0xab1c5ed5,
  0xd807aa98, 0x12835b01, 0x243185be, 0x550c7dc3, 0x72be5d74, 0x80deb1fe, 0x9bdc06a7, 0xc19bf174,
  0xe49b69c1, 0xefbe4786, 0x0fc19dc6, 0x240ca1cc, 0x2de92c6f, 0x4a7484aa, 0x5cb0a9dc, 0x76f988da,
  0x983e5152, 0xa831c66d, 0xb00327c8, 0xbf597fc7, 0xc6e00bf3, 0xd5a79147, 0x06ca6351, 0x14292967,
  0x27b70a85, 0x2e1b2138, 0x4d2c6dfc, 0x53380d13, 0x650a7354, 0x766a0abb, 0x81c2c92e, 0x92722c85,
  0xa2bfe8a1, 0xa81a664b, 0xc24b8b70, 0xc76c51a3, 0xd192e819, 0xd6990624, 0xf40e3585, 0x106aa070,
  0x19a4c116, 0x1e376c08, 0x2748774c, 0x34b0bcb5, 0x391c0cb3, 0x4ed8aa4a, 0x5b9cca4f, 0x682e6ff3,
  0x748f82ee, 0x78a5636f, 0x84c87814, 0x8cc70208, 0x90befffa, 0xa4506ceb, 0xbef9a3f7, 0xc67178f2]

structure Words where
  a : Nat
  b : Nat
  c : Nat
  d : Nat
  e : Nat
  f : Nat
  g : Nat
  h : Nat

def initial : Words :=
  ⟨0x6a09e667, 0xbb67ae85, 0x3c6ef372, 0xa54ff53a, 0x510e527f, 0x9b05688c, 0x1f83d9ab, 0x5be0cd19⟩

def round (s : Words) (constant word : Nat) : Words :=
  let big1 := rotateRight 6 s.e ^^^ rotateRight 11 s.e ^^^ rotateRight 25 s.e
  let choice := (s.e &&& s.f) ^^^ ((wordLimit - 1 - s.e) &&& s.g)
  let first := (s.h + big1 + choice + constant + word) % wordLimit
  let big0 := rotateRight 2 s.a ^^^ rotateRight 13 s.a ^^^ rotateRight 22 s.a
  let majority := (s.a &&& s.b) ^^^ (s.a &&& s.c) ^^^ (s.b &&& s.c)
  let second := (big0 + majority) % wordLimit
  ⟨(first + second) % wordLimit, s.a, s.b, s.c, (s.d + first) % wordLimit, s.e, s.f, s.g⟩

def small0 (word : Nat) : Nat := rotateRight 7 word ^^^ rotateRight 18 word ^^^ (word >>> 3)
def small1 (word : Nat) : Nat := rotateRight 17 word ^^^ rotateRight 19 word ^^^ (word >>> 10)

-- The message schedule is a window of sixteen words that moves with the rounds.
def rounds : List Nat → List Nat → Words → Words
  | constant :: constants, w0 :: w1 :: w2 :: w3 :: w4 :: w5 :: w6 :: w7 :: w8 :: w9 :: w10 :: w11 :: w12 :: w13 :: w14 :: w15 :: _, s =>
      rounds constants
        [w1, w2, w3, w4, w5, w6, w7, w8, w9, w10, w11, w12, w13, w14, w15,
          (w0 + small0 w1 + w9 + small1 w14) % wordLimit]
        (round s constant w0)
  | _, _, s => s

def compress (s : Words) (block : List Nat) : Words :=
  let t := rounds roundConstants block s
  ⟨(s.a + t.a) % wordLimit, (s.b + t.b) % wordLimit, (s.c + t.c) % wordLimit, (s.d + t.d) % wordLimit,
    (s.e + t.e) % wordLimit, (s.f + t.f) % wordLimit, (s.g + t.g) % wordLimit, (s.h + t.h) % wordLimit⟩

def bigEndian : Bytes → List Nat
  | a :: b :: c :: d :: rest => (a.toNat * 16777216 + b.toNat * 65536 + c.toNat * 256 + d.toNat) :: bigEndian rest
  | _ => []

def absorb : Nat → List Nat → Words → Words
  | 0, _, s => s
  | count + 1, words, s => absorb count (words.drop 16) (compress s (words.take 16))

def word (value : Nat) : Bytes :=
  [UInt8.ofNat (value >>> 24), UInt8.ofNat (value >>> 16), UInt8.ofNat (value >>> 8), UInt8.ofNat value]

def padded (message : Bytes) : Bytes :=
  message ++ ((0x80 : UInt8) :: (List.replicate ((119 - message.length % 64) % 64) (0 : UInt8) ++
    (word ((8 * message.length) >>> 32) ++ word (8 * message.length))))

def hash (message : Bytes) : Bytes :=
  let s := absorb ((padded message).length / 64) (bigEndian (padded message)) initial
  word s.a ++ (word s.b ++ (word s.c ++ (word s.d ++ (word s.e ++ (word s.f ++ (word s.g ++ word s.h))))))

theorem hash_length (message : Bytes) : (hash message).length = 32 := rfl

-- FIPS 180-4, one block.
set_option maxRecDepth 100000 in
example : hash [0x61, 0x62, 0x63] = [
    0xba, 0x78, 0x16, 0xbf, 0x8f, 0x01, 0xcf, 0xea, 0x41, 0x41, 0x40, 0xde, 0x5d, 0xae, 0x22, 0x23,
    0xb0, 0x03, 0x61, 0xa3, 0x96, 0x17, 0x7a, 0x9c, 0xb4, 0x10, 0xff, 0x61, 0xf2, 0x00, 0x15, 0xad] := by decide +kernel

end Sha256
