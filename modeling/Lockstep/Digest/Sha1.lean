import Lockstep.Digest.Block

namespace Lockstep.Digest.Sha1

/-- The five words that are carried from block to block. -/
structure State where
  a : UInt32
  b : UInt32
  c : UInt32
  d : UInt32
  e : UInt32

def start : State :=
  ⟨0x67452301, 0xefcdab89, 0x98badcfe, 0x10325476, 0xc3d2e1f0⟩

/-- The word that the schedule gains after the words from position `i` on. -/
def nextWord (words : Array UInt32) (i : Nat) : UInt32 :=
  rotateLeft (words.getD (i + 13) 0 ^^^ words.getD (i + 8) 0 ^^^ words.getD (i + 2) 0 ^^^
    words.getD i 0) 1

/-- The 80 words that a block gives to the rounds. -/
def schedule (block : Bytes) : Array UInt32 :=
  Nat.fold 64 (fun i _ words => words.push (nextWord words i)) (wordsBE block).toArray

/-- The mixing function and the constant of the round at a position, added up. -/
def mix (i : Nat) (b c d : UInt32) : UInt32 :=
  if i < 20 then ((b &&& c) ||| (~~~b &&& d)) + 0x5a827999
  else if i < 40 then (b ^^^ c ^^^ d) + 0x6ed9eba1
  else if i < 60 then ((b &&& c) ||| (b &&& d) ||| (c &&& d)) + 0x8f1bbcdc
  else (b ^^^ c ^^^ d) + 0xca62c1d6

def round (i : Nat) (s : State) (input : UInt32) : State :=
  ⟨rotateLeft s.a 5 + mix i s.b s.c s.d + s.e + input, s.a, rotateLeft s.b 30, s.c, s.d⟩

def compress (s : State) (block : Bytes) : State :=
  let words := schedule block
  let t := Nat.fold 80 (fun i _ t => round i t (words.getD i 0)) s
  ⟨s.a + t.a, s.b + t.b, s.c + t.c, s.d + t.d, s.e + t.e⟩

def State.toBytes (s : State) : Bytes :=
  [s.a, s.b, s.c, s.d, s.e].flatMap wordBytesBE

def digest (message : Bytes) : Bytes :=
  let padded := pad (Bytes.ofNatBE 8) message
  (absorb compress (padded.length / 64) start padded).toBytes

end Lockstep.Digest.Sha1
