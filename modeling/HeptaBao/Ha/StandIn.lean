import HeptaBao.Ha.StateCodec
import HeptaBao.Hash.Digests

namespace HeptaBao.Ha

open Wire Durable

-- A seal of the shape of AES-256-GCM: the text, then a tag over everything.
def standInTag (key nonce aad text : Bytes) : Bytes := (Sha256.hash (key ++ (nonce ++ (aad ++ text)))).take 16

theorem stand_in_tag_length (key nonce aad text : Bytes) : (standInTag key nonce aad text).length = tagBytes := by
  rw [standInTag, List.length_take, Sha256.hash_length]
  rfl

def standIn : Library where
  sha256 := sha256Digest
  sealInPlaceAppendTag := fun key nonce aad text => some (text ++ standInTag key nonce aad text)
  openInPlace := fun key nonce aad ciphertext =>
    let text := ciphertext.take (ciphertext.length - tagBytes)
    if ciphertext.drop (ciphertext.length - tagBytes) = standInTag key nonce aad text then some text else none
  base64Decode := fun _ => none
  base64Encode := fun _ => []

def standInCodec : ClusterStateCodec :=
  ⟨str "cluster-a", List.replicate 32 7, by decide, by decide⟩

def standInNonce : Nonce := ⟨List.replicate 12 1, rfl⟩

end HeptaBao.Ha
