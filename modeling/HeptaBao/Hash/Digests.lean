import HeptaBao.Durable.Types
import HeptaBao.Hash.Sha256

namespace HeptaBao

open Wire Durable

def sha256Digest (message : Bytes) : Digest := ⟨Sha256.hash message, Sha256.hash_length message⟩

-- HMAC under a key of at most one block.
def hmacSha256 (key message : Bytes) : Digest :=
  let block := key ++ List.replicate (64 - key.length) 0
  sha256Digest (block.map (· ^^^ 0x5c) ++ (sha256Digest (block.map (· ^^^ 0x36) ++ message)).bytes)

end HeptaBao
