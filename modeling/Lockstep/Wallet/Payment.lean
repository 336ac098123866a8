import Lockstep.Transaction.Sighash
import Lockstep.Wallet.Address

namespace Lockstep.Wallet

/-- An output that can be spent. -/
structure Coin where
  id : String
  index : Int
  value : Int
deriving DecidableEq

inductive PaymentError where
  | insufficientFunds (amount total : Int)
  | address (error : Address.AddressError)
deriving DecidableEq

def PaymentError.message : PaymentError → String
  | insufficientFunds amount total =>
    if Decimal.isWritable amount && Decimal.isWritable total then
      s!"Insufficient funds: {amount} > {total}"
    else Decimal.writeRefusal
  | address error => error.message

/-- A transaction that spends coins to pay an amount to an address; what is left goes back to the
payer's key. -/
def pay [Base58.Codec] (coins : List Coin) (address : String) (amount : Int) (key : Bytes)
    (timestamp : Timestamp) : Except PaymentError Transaction :=
  let total := totalValue (coins.map Coin.value)
  if total < amount then .error (.insufficientFunds amount total)
  else
    match Address.lockingScriptFor address with
    | .error e => .error (.address e)
    | .ok locking =>
      let change := total - amount
      let outputs : List TxOutput :=
        if change = 0 then [⟨amount, locking⟩]
        else [⟨amount, locking⟩, ⟨change, Address.lockingScript (Digest.hash160 key)⟩]
      .ok {
        version := 1
        inputs := coins.map fun coin => ⟨coin.id, coin.index, "", TxInput.finalSequence⟩
        outputs
        lockTime := 0
        timestamp }

inductive SigningError where
  | abort (cause : Abort)
  | key (error : Curve.PrivateKeyError)
  | badNonce
deriving DecidableEq

/-- The unlocking script with a signature and a public key. -/
def unlockingScript (signature key : Bytes) : String :=
  signature.toHex ++ " " ++ key.toHex

/-- Signs an input with a private key and a nonce that must be used for nothing else, and puts the
signature and the public key into its unlocking script. -/
def signInput [Curve.Ecdsa] (tx : Transaction) (secret key : Bytes) (index : Int) (nonce : Nat) :
    Except SigningError Transaction :=
  match tx.sighash index with
  | .error cause => .error (.abort cause)
  | .ok hash =>
    match Curve.Ecdsa.readSecret secret with
    | .error e => .error (.key e)
    | .ok number =>
      match Curve.Ecdsa.sign number hash Digest.sha256 nonce with
      | none => .error .badNonce
      | some signature =>
        if index.toNat < tx.inputs.length then
          let unlocking := unlockingScript signature key
          .ok { tx with
            inputs := tx.inputs.modify index.toNat fun input => { input with unlocking } }
        else .error (.abort .outsideTransaction)

/-- A private key and its public key, as bytes. -/
structure KeyPair where
  secret : Bytes
  key : Bytes
deriving DecidableEq

/-- The key pair of a secret number between one and the order of the curve. -/
def KeyPair.ofSecret? [Curve.Ecdsa] (secret : Nat) : Option KeyPair :=
  (Curve.Ecdsa.keyOf? secret).map fun key => ⟨Bytes.ofNatBE 32 secret, key⟩

end Lockstep.Wallet
