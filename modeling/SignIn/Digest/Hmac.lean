-- The keyed digest HMAC over SHA-256.
import SignIn.Digest.Sha2

namespace SignIn.Digest

/-- The key as one block of 64 bytes: a longer key by its digest, a shorter one with zeros. -/
def hmacBlock (key : List UInt8) : List UInt8 :=
  let short := if key.length ≤ 64 then key else sha256 key
  short ++ List.replicate (64 - short.length) 0

/-- The keyed digest of a message. -/
def hmacSha256 (key message : List UInt8) : List UInt8 :=
  let block := hmacBlock key
  let inner := sha256 (block.map (· ^^^ 0x36) ++ message)
  sha256 (block.map (· ^^^ 0x5C) ++ inner)

end SignIn.Digest
