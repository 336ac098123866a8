import Lockstep.Digest
import Lockstep.Machine.Stacks

namespace Lockstep

/-- Decides whether a signature, the first argument, was made with the key that belongs to the
second. -/
abbrev SignatureCheck := Bytes → Bytes → Except Abort Bool

inductive DigestKind where
  | ripemd160
  | sha1
  | sha256
  | hash160
  | hash256
deriving DecidableEq

namespace DigestKind

def ofName? (name : String) : Option DigestKind :=
  if name = "OP_RIPEMD160" then some ripemd160
  else if name = "OP_SHA1" then some sha1
  else if name = "OP_SHA256" then some sha256
  else if name = "OP_HASH160" then some hash160
  else if name = "OP_HASH256" then some hash256
  else none

def needsRipemd160 : DigestKind → Bool
  | ripemd160 | hash160 => true
  | sha1 | sha256 | hash256 => false

def digest : DigestKind → Bytes → Bytes
  | ripemd160 => Digest.ripemd160
  | sha1 => Digest.sha1
  | sha256 => Digest.sha256
  | hash160 => Digest.hash160
  | hash256 => Digest.doubleSha256

end DigestKind

/-- Checks a signature; without a check all signatures are good. -/
def checkWith (check? : Option SignatureCheck) (signature key : Bytes) : Except Abort Bool :=
  match check? with
  | none => .ok true
  | some check => check signature key

/-- Matches signatures to keys in order: each signature takes the next key that it goes with. Gives
up as soon as more signatures than keys are left. -/
def matchInOrder (check : SignatureCheck) : List Bytes → List Bytes → Except Abort Bool
  | [], _ => .ok true
  | _ :: _, [] => .ok false
  | signature :: signatures, key :: keys =>
    match check signature key with
    | .error cause => .error cause
    | .ok good =>
      let left := if good then signatures else signature :: signatures
      if keys.length < left.length then .ok false else matchInOrder check left keys

/-- Matches signatures to keys; without a check all signatures are good. -/
def matchWith (check? : Option SignatureCheck) (signatures keys : List Bytes) :
    Except Abort Bool :=
  match check? with
  | none => .ok true
  | some check => matchInOrder check signatures keys

namespace Effect

def digest (rules : Rules) (name : String) : List Bytes → Outcome (List Bytes)
  | [] => .fault (.stackUnderflow name)
  | item :: rest =>
    match DigestKind.ofName? name with
    | none => .abort (.unknownDigest name) rest
    | some kind =>
      if kind.needsRipemd160 && !rules.hasRipemd160 then .fault (.digestUnavailable name)
      else .done (kind.digest item :: rest)

/-- Replaces a signature and a key by whether they belong together; under the name
`OP_CHECKSIGVERIFY` they must. -/
def checkSignature (check? : Option SignatureCheck) (name : String) :
    List Bytes → Outcome (List Bytes)
  | key :: signature :: rest =>
    match checkWith check? signature key with
    | .error cause => .abort cause rest
    | .ok good =>
      if name = "OP_CHECKSIGVERIFY" then
        if good then .done rest else .fault .signatureRefused
      else .done (ScriptNum.ofBool good :: rest)
  | _ => .fault (.stackUnderflow name)

/-- Replaces a list of signatures and a list of keys, each below its length, and one more item by
whether the signatures match the keys in order; under the name `OP_CHECKMULTISIGVERIFY` they
must. -/
def checkMultisignature (rules : Rules) (check? : Option SignatureCheck) (name : String)
    (stack : List Bytes) : Outcome (List Bytes) :=
  match popNumber rules name stack with
  | .error cause => .fault cause
  | .ok (keyCount, belowCount) =>
    if keyCount < 0 then .fault (.negativeKeyCount name)
    else if (belowCount.length : Int) < keyCount + 1 then .fault (.stackUnderflow name)
    else
      let keys := (belowCount.take keyCount.toNat).reverse
      match popNumber rules name (belowCount.drop keyCount.toNat) with
      | .error cause => .fault cause
      | .ok (signatureCount, belowKeys) =>
        if signatureCount < 0 ∨ keyCount < signatureCount then
          .refuse (.badSignatureCount name signatureCount) belowKeys
        else if (belowKeys.length : Int) < signatureCount + 1 then .fault (.stackUnderflow name)
        else
          let signatures := (belowKeys.take signatureCount.toNat).reverse
          let rest := belowKeys.drop (signatureCount.toNat + 1)
          match matchWith check? signatures keys with
          | .error cause => .abort cause rest
          | .ok good =>
            if name = "OP_CHECKMULTISIGVERIFY" then
              if good then .done rest else .fault .multisignatureRefused
            else .done (ScriptNum.ofBool good :: rest)

end Effect

end Lockstep
