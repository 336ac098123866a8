import Lockstep.Bytes.Basic

namespace Lockstep.Text

def continuation? (byte : UInt8) : Option Nat :=
  if 0x80 ≤ byte.toNat ∧ byte.toNat < 0xc0 then some (byte.toNat - 0x80) else none

/-- A code point that took as many bytes as it needs: it is at least `least`, and no surrogate. -/
def scalar? (least code : Nat) : Option Char :=
  if least ≤ code ∧ code.isValidChar then some (Char.ofNat code) else none

/-- Reads characters behind those that were read before, last one first. -/
def readUtf8 (seen : List Char) : Bytes → Option (List Char)
  | [] => some seen.reverse
  | a :: rest =>
    let lead := a.toNat
    if lead < 0x80 then readUtf8 (Char.ofNat lead :: seen) rest
    else if lead < 0xc0 then none
    else
      match rest with
      | [] => none
      | b :: rest =>
        match continuation? b with
        | none => none
        | some x =>
          if lead < 0xe0 then
            match scalar? 0x80 ((lead - 0xc0) * 64 + x) with
            | none => none
            | some c => readUtf8 (c :: seen) rest
          else
            match rest with
            | [] => none
            | c :: rest =>
              match continuation? c with
              | none => none
              | some y =>
                if lead < 0xf0 then
                  match scalar? 0x800 (((lead - 0xe0) * 64 + x) * 64 + y) with
                  | none => none
                  | some c => readUtf8 (c :: seen) rest
                else
                  match rest with
                  | [] => none
                  | d :: rest =>
                    match continuation? d with
                    | none => none
                    | some z =>
                      match scalar? 0x10000 ((((lead - 0xf0) * 64 + x) * 64 + y) * 64 + z) with
                      | none => none
                      | some c => readUtf8 (c :: seen) rest

def ofUtf8? (bytes : Bytes) : Option (List Char) :=
  readUtf8 [] bytes

end Lockstep.Text
