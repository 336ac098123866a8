import Lockstep.Digest.Ripemd160
import Lockstep.Digest.Sha1
import Lockstep.Digest.Sha256

namespace Lockstep.Digest

def sha256 (message : Bytes) : Bytes :=
  Sha256.digest message

def doubleSha256 (message : Bytes) : Bytes :=
  sha256 (sha256 message)

def sha1 (message : Bytes) : Bytes :=
  Sha1.digest message

def ripemd160 (message : Bytes) : Bytes :=
  Ripemd160.digest message

/-- RIPEMD-160 of SHA-256, 20 bytes: what an address stands for. -/
def hash160 (message : Bytes) : Bytes :=
  ripemd160 (sha256 message)

@[simp]
theorem length_sha256 (message : Bytes) : (sha256 message).length = 32 := rfl

@[simp]
theorem length_doubleSha256 (message : Bytes) : (doubleSha256 message).length = 32 := rfl

@[simp]
theorem length_sha1 (message : Bytes) : (sha1 message).length = 20 := rfl

@[simp]
theorem length_ripemd160 (message : Bytes) : (ripemd160 message).length = 20 := rfl

@[simp]
theorem length_hash160 (message : Bytes) : (hash160 message).length = 20 := rfl

end Lockstep.Digest
