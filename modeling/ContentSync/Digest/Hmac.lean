import ContentSync.Digest.Sha256

/-!
# Keyed digests

The HMAC of a message: the message is digested behind the key combined with one pad, and that digest
behind the key combined with another.  A key longer than a block is digested first.
-/

namespace ContentSync.Digest

/-- A key brought to the length of a block. -/
def blockKey (key : ByteArray) : List UInt8 :=
  let k := (if 64 < key.size then sha256 key else key).toList
  k ++ List.replicate (64 - k.length) 0

/-- The key combined with a pad. -/
def paddedKey (key : ByteArray) (octet : UInt8) : ByteArray :=
  ByteArray.mk ((blockKey key).map (· ^^^ octet)).toArray

/-- **The HMAC** of a message under SHA-256. -/
def hmacSha256 (key message : ByteArray) : ByteArray :=
  sha256 (paddedKey key 0x5c ++ sha256 (paddedKey key 0x36 ++ message))

end ContentSync.Digest
