import Lockstep.Bytes.Hex
import Lockstep.Wallet.Base58

namespace Lockstep.Address

/-- The version byte of an address for which none is given. -/
def defaultVersion : Bytes := [0]

def ofKey [Base58.Codec] (version key : Bytes) : String :=
  Base58.encodeChecked (version ++ Digest.hash160 key)

inductive AddressError where
  | base58 (error : Base58.Base58Error)
  /-- The text is Base58 with a checksum, but of another length. -/
  | notKeyHash (address : String)
deriving DecidableEq

def AddressError.message : AddressError → String
  | base58 error => error.message
  | notKeyHash address => "Not a pubkey-hash address: " ++ address

/-- The digest that hexadecimal text of 40 characters writes. -/
def hexHash? (address : String) : Option Bytes :=
  if address.length = 40 then Bytes.ofSpacedHex? address.toList else none

/-- The digest of a public key that an address stands for: the address is hexadecimal text of 40
characters, or Base58 of a version byte and the digest with a checksum. -/
def hash160 [Base58.Codec] (address : String) : Except AddressError Bytes :=
  match hexHash? address with
  | some bytes => .ok bytes
  | none =>
    match Base58.decodeChecked address with
    | .error e => .error (.base58 e)
    | .ok decoded =>
      if decoded.length = 21 then .ok (decoded.drop 1) else .error (.notKeyHash address)

/-- The locking script that asks for a signature by the key with a given digest. -/
def lockingScript (hash : Bytes) : String :=
  "OP_DUP OP_HASH160 " ++ hash.toHex ++ " OP_EQUALVERIFY OP_CHECKSIG"

def lockingScriptFor [Base58.Codec] (address : String) : Except AddressError String :=
  (hash160 address).map lockingScript

end Lockstep.Address
