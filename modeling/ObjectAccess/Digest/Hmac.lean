import ObjectAccess.Digest.Sha256

/-!
# Keyed digests

HMAC over SHA-256: the key, brought to the size of a block, is mixed into the
message twice, with one mask inside and one outside.
-/

namespace ObjectAccess.Digest.Hmac

set_option autoImplicit false

open ObjectAccess.Digest

/-- The key as one block: a longer key is digested first, a shorter one filled with zeros. -/
def blockKey (key : List UInt8) : List UInt8 :=
  let short := if key.length > 64 then Sha256.digest key else key
  short ++ List.replicate (64 - short.length) 0

/-- The keyed digest of a message: thirty-two octets. -/
def sha256 (key message : List UInt8) : List UInt8 :=
  let block := blockKey key
  Sha256.digest (block.map (· ^^^ 0x5c) ++ Sha256.digest (block.map (· ^^^ 0x36) ++ message))

end ObjectAccess.Digest.Hmac
