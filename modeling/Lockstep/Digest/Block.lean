import Lockstep.Bytes.Basic

namespace Lockstep.Digest

/-- A message with its padding: a one bit, zeros, and the eight bytes of its length in bits, up to
a whole number of blocks. -/
def pad (lengthField : Nat → Bytes) (message : Bytes) : Bytes :=
  message ++ 0x80 :: (List.replicate ((119 - message.length % 64) % 64) 0 ++
    lengthField (8 * message.length))

def absorb {State : Type} (compress : State → Bytes → State) : Nat → State → Bytes → State
  | 0, state, _ => state
  | blocks + 1, state, bytes =>
    absorb compress blocks (compress state (bytes.take 64)) (bytes.drop 64)

theorem pad_append (lengthField : Nat → Bytes) {blocks : Nat} {front : Bytes}
    (hfront : front.length = 64 * blocks) (rest : Bytes) :
    pad lengthField (front ++ rest) =
      front ++ pad (fun _ => lengthField (8 * (64 * blocks + rest.length))) rest := by
  have hzeros : (119 - (64 * blocks + rest.length) % 64) % 64 = (119 - rest.length % 64) % 64 := by
    rw [Nat.mul_add_mod]
  rw [pad, pad, List.length_append, hfront, hzeros, List.append_assoc]

theorem absorb_append {State : Type} (compress : State → Bytes → State) {blocks : Nat}
    {front : Bytes} (hfront : front.length = 64 * blocks) (more : Nat) (state : State)
    (rest : Bytes) :
    absorb compress (blocks + more) state (front ++ rest) =
      absorb compress more (absorb compress blocks state front) rest := by
  induction blocks generalizing front state with
  | zero =>
      rw [List.eq_nil_of_length_eq_zero hfront, Nat.zero_add]
      rfl
  | succ blocks ih =>
      have hlength : (front.drop 64).length = 64 * blocks := by
        rw [List.length_drop]
        omega
      rw [Nat.succ_add, absorb, absorb, List.take_append_of_le_length (by omega),
        List.drop_append_of_le_length (by omega), ih hlength]

/-- The words of a block, most significant byte first. -/
def wordsBE : Bytes → List UInt32
  | a :: b :: c :: d :: rest =>
    (a.toUInt32 <<< 24 ||| b.toUInt32 <<< 16 ||| c.toUInt32 <<< 8 ||| d.toUInt32) :: wordsBE rest
  | _ => []

/-- The words of a block, least significant byte first. -/
def wordsLE : Bytes → List UInt32
  | a :: b :: c :: d :: rest =>
    (d.toUInt32 <<< 24 ||| c.toUInt32 <<< 16 ||| b.toUInt32 <<< 8 ||| a.toUInt32) :: wordsLE rest
  | _ => []

def wordBytesBE (word : UInt32) : Bytes :=
  [(word >>> 24).toUInt8, (word >>> 16).toUInt8, (word >>> 8).toUInt8, word.toUInt8]

def wordBytesLE (word : UInt32) : Bytes :=
  [word.toUInt8, (word >>> 8).toUInt8, (word >>> 16).toUInt8, (word >>> 24).toUInt8]

def rotateLeft (word count : UInt32) : UInt32 :=
  word <<< count ||| word >>> (32 - count)

def rotateRight (word count : UInt32) : UInt32 :=
  word >>> count ||| word <<< (32 - count)

end Lockstep.Digest
