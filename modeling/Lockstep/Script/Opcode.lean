import Lockstep.Text.UpperCase

namespace Lockstep.Opcode

/-- The code that pushes the empty item. -/
def zero : Int := 0x00

/-- The code that pushes data whose length takes one byte. -/
def pushData1 : Int := 0x4c

/-- The code that pushes data whose length takes two bytes. -/
def pushData2 : Int := 0x4d

/-- The code that pushes data whose length takes four bytes. -/
def pushData4 : Int := 0x4e

def oneNegate : Int := 0x4f

/-- The one code up to `sixteen` that pushes nothing. -/
def reserved : Int := 0x50

/-- The code that pushes one; those of the next numbers follow. -/
def one : Int := 0x51

def sixteen : Int := 0x60

/-- The code of the instruction that marks a place to pause. -/
def marker : Int := 0xb9

/-- The longest data that a code of its own can push. -/
def maxDirectPush : Int := 0x4b

def table : List (String × Int) := [
  -- constants
  ("OP_0", 0x00), ("OP_PUSHDATA1", 0x4c), ("OP_PUSHDATA2", 0x4d), ("OP_PUSHDATA4", 0x4e),
  ("OP_1NEGATE", 0x4f), ("OP_RESERVED", 0x50),
  ("OP_1", 0x51), ("OP_2", 0x52), ("OP_3", 0x53), ("OP_4", 0x54), ("OP_5", 0x55), ("OP_6", 0x56),
  ("OP_7", 0x57), ("OP_8", 0x58), ("OP_9", 0x59), ("OP_10", 0x5a), ("OP_11", 0x5b),
  ("OP_12", 0x5c), ("OP_13", 0x5d), ("OP_14", 0x5e), ("OP_15", 0x5f), ("OP_16", 0x60),
  -- control
  ("OP_NOP", 0x61), ("OP_VER", 0x62), ("OP_IF", 0x63), ("OP_NOTIF", 0x64), ("OP_VERIF", 0x65),
  ("OP_VERNOTIF", 0x66), ("OP_ELSE", 0x67), ("OP_ENDIF", 0x68), ("OP_VERIFY", 0x69),
  ("OP_RETURN", 0x6a),
  -- stack
  ("OP_TOALTSTACK", 0x6b), ("OP_FROMALTSTACK", 0x6c), ("OP_2DROP", 0x6d), ("OP_2DUP", 0x6e),
  ("OP_3DUP", 0x6f), ("OP_2OVER", 0x70), ("OP_2ROT", 0x71), ("OP_2SWAP", 0x72),
  ("OP_IFDUP", 0x73), ("OP_DEPTH", 0x74), ("OP_DROP", 0x75), ("OP_DUP", 0x76), ("OP_NIP", 0x77),
  ("OP_OVER", 0x78), ("OP_PICK", 0x79), ("OP_ROLL", 0x7a), ("OP_ROT", 0x7b), ("OP_SWAP", 0x7c),
  ("OP_TUCK", 0x7d),
  -- splice
  ("OP_CAT", 0x7e), ("OP_SPLIT", 0x7f), ("OP_NUM2BIN", 0x80), ("OP_BIN2NUM", 0x81),
  ("OP_SIZE", 0x82),
  -- bits
  ("OP_INVERT", 0x83), ("OP_AND", 0x84), ("OP_OR", 0x85), ("OP_XOR", 0x86), ("OP_EQUAL", 0x87),
  ("OP_EQUALVERIFY", 0x88), ("OP_RESERVED1", 0x89), ("OP_RESERVED2", 0x8a),
  -- numbers
  ("OP_1ADD", 0x8b), ("OP_1SUB", 0x8c), ("OP_2MUL", 0x8d), ("OP_2DIV", 0x8e),
  ("OP_NEGATE", 0x8f), ("OP_ABS", 0x90), ("OP_NOT", 0x91), ("OP_0NOTEQUAL", 0x92),
  ("OP_ADD", 0x93), ("OP_SUB", 0x94), ("OP_MUL", 0x95), ("OP_DIV", 0x96), ("OP_MOD", 0x97),
  ("OP_LSHIFT", 0x98), ("OP_RSHIFT", 0x99), ("OP_BOOLAND", 0x9a), ("OP_BOOLOR", 0x9b),
  ("OP_NUMEQUAL", 0x9c), ("OP_NUMEQUALVERIFY", 0x9d), ("OP_NUMNOTEQUAL", 0x9e),
  ("OP_LESSTHAN", 0x9f), ("OP_GREATERTHAN", 0xa0), ("OP_LESSTHANOREQUAL", 0xa1),
  ("OP_GREATERTHANOREQUAL", 0xa2), ("OP_MIN", 0xa3), ("OP_MAX", 0xa4), ("OP_WITHIN", 0xa5),
  -- digests and signatures
  ("OP_RIPEMD160", 0xa6), ("OP_SHA1", 0xa7), ("OP_SHA256", 0xa8), ("OP_HASH160", 0xa9),
  ("OP_HASH256", 0xaa), ("OP_CODESEPARATOR", 0xab), ("OP_CHECKSIG", 0xac),
  ("OP_CHECKSIGVERIFY", 0xad), ("OP_CHECKMULTISIG", 0xae), ("OP_CHECKMULTISIGVERIFY", 0xaf),
  -- expansion
  ("OP_NOP1", 0xb0), ("OP_NOP2", 0xb1), ("OP_NOP3", 0xb2), ("OP_NOP4", 0xb3), ("OP_NOP5", 0xb4),
  ("OP_NOP6", 0xb5), ("OP_NOP7", 0xb6), ("OP_NOP8", 0xb7), ("OP_NOP9", 0xb8),
  ("OP_NOP10", 0xb9)]

def aliases : List (String × String) := [
  ("OP_FALSE", "OP_0"), ("OP_TRUE", "OP_1"), ("OP_CHECKLOCKTIMEVERIFY", "OP_NOP2"),
  ("OP_CHECKSEQUENCEVERIFY", "OP_NOP3"), ("OP_BREAKPOINT", "OP_NOP10")]

/-- The spelling of a mnemonic in the table: upper case, with `OP_` in front, aliases resolved. -/
def normalize (mnemonic : String) : String :=
  let capital := Text.upper mnemonic
  let name := if "OP_".toList.isPrefixOf capital.toList then capital else "OP_" ++ capital
  (aliases.lookup name).getD name

/-- The code of a mnemonic that is spelled as in the table. -/
def codeOf? (name : String) : Option Int :=
  table.lookup name

/-- The code of a mnemonic in any accepted spelling. -/
def find? (mnemonic : String) : Option Int :=
  codeOf? (normalize mnemonic)

/-- The name of a code. Direct pushes are named for their length, and codes outside the table for
their number. -/
def nameOf (code : Int) : String :=
  match table.find? (·.2 == code) with
  | some entry => entry.1
  | none =>
    if 1 ≤ code ∧ code ≤ maxDirectPush then s!"OP_PUSHBYTES_{code}" else s!"OP_UNKNOWN_{code}"

def isPush (code : Int) : Bool :=
  code ≤ sixteen && code != reserved

/-- The longest data that a code with an explicit length can carry. -/
def pushDataLimit? (code : Int) : Option Nat :=
  if code = pushData1 then some 0xff
  else if code = pushData2 then some 0xffff
  else if code = pushData4 then some 0xffffffff
  else none

/-- Why no code was found for what should be pushed. -/
inductive RangeError where
  | negativeLength
  | noSmallNumber (n : Int)

def RangeError.message : RangeError → String
  | .negativeLength => "negative push length"
  | .noSmallNumber n => s!"no small integer opcode for {n}"

/-- The smallest code that can push data of a length. -/
def forLength (length : Nat) : Int :=
  if (length : Int) ≤ maxDirectPush then length
  else if length ≤ 0xff then pushData1
  else if length ≤ 0xffff then pushData2
  else pushData4

/-- The smallest code that can push data of a length, which must not be negative. -/
def forPush (length : Int) : Except RangeError Int :=
  if length < 0 then .error .negativeLength else .ok (forLength length.toNat)

/-- The code that pushes a number between minus one and sixteen. -/
def forNumber (n : Int) : Except RangeError Int :=
  if n = 0 then .ok zero
  else if n = -1 then .ok oneNegate
  else if 1 ≤ n ∧ n ≤ 16 then .ok (one + n - 1)
  else .error (.noSmallNumber n)

end Lockstep.Opcode
