import Lockstep.Digest.Block

namespace Lockstep.Digest.Sha256

/-- The eight words that are carried from block to block. -/
structure State where
  a : UInt32
  b : UInt32
  c : UInt32
  d : UInt32
  e : UInt32
  f : UInt32
  g : UInt32
  h : UInt32
deriving DecidableEq

/-- The words before the first block: fractional parts of the square roots of the first eight
primes. -/
def start : State :=
  ⟨0x6a09e667, 0xbb67ae85, 0x3c6ef372, 0xa54ff53a, 0x510e527f, 0x9b05688c, 0x1f83d9ab, 0x5be0cd19⟩

/-- The constants of the rounds: fractional parts of the cube roots of the first 64 primes. -/
def constants : Array UInt32 := #[
  0x428a2f98, 0x71374491, 0xb5c0fbcf, 0xe9b5dba5, 0x3956c25b, 0x59f111f1, 0x923f82a4, 0xab1c5ed5,
  0xd807aa98, 0x12835b01, 0x243185be, 0x550c7dc3, 0x72be5d74, 0x80deb1fe, 0x9bdc06a7, 0xc19bf174,
  0xe49b69c1, 0xefbe4786, 0x0fc19dc6, 0x240ca1cc, 0x2de92c6f, 0x4a7484aa, 0x5cb0a9dc, 0x76f988da,
  0x983e5152, 0xa831c66d, 0xb00327c8, 0xbf597fc7, 0xc6e00bf3, 0xd5a79147, 0x06ca6351, 0x14292967,
  0x27b70a85, 0x2e1b2138, 0x4d2c6dfc, 0x53380d13, 0x650a7354, 0x766a0abb, 0x81c2c92e, 0x92722c85,
  0xa2bfe8a1, 0xa81a664b, 0xc24b8b70, 0xc76c51a3, 0xd192e819, 0xd6990624, 0xf40e3585, 0x106aa070,
  0x19a4c116, 0x1e376c08, 0x2748774c, 0x34b0bcb5, 0x391c0cb3, 0x4ed8aa4a, 0x5b9cca4f, 0x682e6ff3,
  0x748f82ee, 0x78a5636f, 0x84c87814, 0x8cc70208, 0x90befffa, 0xa4506ceb, 0xbef9a3f7, 0xc67178f2]

/-- The word that the schedule gains after the words from position `i` on. -/
def nextWord (words : Array UInt32) (i : Nat) : UInt32 :=
  let near := words.getD (i + 1) 0
  let far := words.getD (i + 14) 0
  let mixNear := rotateRight near 7 ^^^ rotateRight near 18 ^^^ near >>> 3
  let mixFar := rotateRight far 17 ^^^ rotateRight far 19 ^^^ far >>> 10
  words.getD i 0 + mixNear + words.getD (i + 9) 0 + mixFar

/-- The 64 words that a block gives to the rounds. -/
def schedule (block : Bytes) : Array UInt32 :=
  Nat.fold 48 (fun i _ words => words.push (nextWord words i)) (wordsBE block).toArray

def round (s : State) (input : UInt32) : State :=
  let mixE := rotateRight s.e 6 ^^^ rotateRight s.e 11 ^^^ rotateRight s.e 25
  let choice := (s.e &&& s.f) ^^^ (~~~s.e &&& s.g)
  let first := s.h + mixE + choice + input
  let mixA := rotateRight s.a 2 ^^^ rotateRight s.a 13 ^^^ rotateRight s.a 22
  let majority := (s.a &&& s.b) ^^^ (s.a &&& s.c) ^^^ (s.b &&& s.c)
  ⟨first + mixA + majority, s.a, s.b, s.c, s.d + first, s.e, s.f, s.g⟩

def compress (s : State) (block : Bytes) : State :=
  let words := schedule block
  let t := Nat.fold 64 (fun i _ t => round t (constants.getD i 0 + words.getD i 0)) s
  ⟨s.a + t.a, s.b + t.b, s.c + t.c, s.d + t.d, s.e + t.e, s.f + t.f, s.g + t.g, s.h + t.h⟩

def State.toBytes (s : State) : Bytes :=
  [s.a, s.b, s.c, s.d, s.e, s.f, s.g, s.h].flatMap wordBytesBE

def digest (message : Bytes) : Bytes :=
  let padded := pad (Bytes.ofNatBE 8) message
  (absorb compress (padded.length / 64) start padded).toBytes

/-- The whole blocks at the front of a message, with the words that are carried after them. -/
structure Midstate where
  front : Bytes
  blocks : Nat
  state : State
  length_front : front.length = 64 * blocks
  absorb_front : absorb compress blocks start front = state

namespace Midstate

def extend (midstate : Midstate) (more : Bytes) (blocks : Nat) (state : State)
    (hlength : more.length = 64 * blocks)
    (hstate : absorb compress blocks midstate.state more = state) : Midstate where
  front := midstate.front ++ more
  blocks := midstate.blocks + blocks
  state := state
  length_front := by rw [List.length_append, midstate.length_front, hlength, Nat.mul_add]
  absorb_front := by rw [absorb_append compress midstate.length_front, midstate.absorb_front, hstate]

theorem digest_append (midstate : Midstate) (rest : Bytes) :
    digest (midstate.front ++ rest) =
      let padded := pad (fun _ => Bytes.ofNatBE 8 (8 * (64 * midstate.blocks + rest.length))) rest
      (absorb compress (padded.length / 64) midstate.state padded).toBytes := by
  have hfront := midstate.length_front
  dsimp only [digest]
  rw [pad_append _ hfront, List.length_append, hfront, Nat.mul_add_div (by decide),
    absorb_append compress hfront, midstate.absorb_front]

end Midstate

end Lockstep.Digest.Sha256
