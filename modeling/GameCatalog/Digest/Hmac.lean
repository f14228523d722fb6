import GameCatalog.Digest.Sha256

/-!
Message authentication with SHA-256, and the keys that are expanded from a secret
with it.
-/

namespace GameCatalog.Hmac

def blockKey (key : Bytes) : Bytes :=
  let short := if key.length ≤ 64 then key else Sha256.digest key
  short ++ List.replicate (64 - short.length) 0

def code (key message : Bytes) : Bytes :=
  let block := blockKey key
  Sha256.digest
    (block.map (· ^^^ 0x5C) ++ Sha256.digest (block.map (· ^^^ 0x36) ++ message))

/-- The first 32 octets expanded from a secret for the given purpose. -/
def expand (secret purpose : Bytes) : Bytes :=
  code secret (purpose ++ [1])

end GameCatalog.Hmac
