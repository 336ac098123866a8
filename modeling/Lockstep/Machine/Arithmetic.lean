import Lockstep.Machine.Stacks

namespace Lockstep

inductive Unary where
  | increment
  | decrement
  | negate
  | abs
  | isZero
  | isNotZero
deriving DecidableEq

/-- The computation that a name stands for; other names test for a number that is not zero. -/
def Unary.ofName (name : String) : Unary :=
  if name = "OP_1ADD" then .increment
  else if name = "OP_1SUB" then .decrement
  else if name = "OP_NEGATE" then .negate
  else if name = "OP_ABS" then .abs
  else if name = "OP_NOT" then .isZero
  else .isNotZero

/-- The item that a computation with one number leaves. -/
def Unary.result (op : Unary) (a : Int) : Bytes :=
  match op with
  | increment => ScriptNum.encode (a + 1)
  | decrement => ScriptNum.encode (a - 1)
  | negate => ScriptNum.encode (-a)
  | abs => ScriptNum.encode a.natAbs
  | isZero => ScriptNum.ofBool (a == 0)
  | isNotZero => ScriptNum.ofBool (a != 0)

inductive Binary where
  | add
  | sub
  | mul
  | div
  | mod
  | both
  | either
  | equal
  | equalVerify
  | notEqual
  | less
  | greater
  | lessOrEqual
  | greaterOrEqual
  | minimum
  | maximum
deriving DecidableEq

def Binary.names : List (String × Binary) := [
  ("OP_ADD", add), ("OP_SUB", sub), ("OP_MUL", mul), ("OP_DIV", div), ("OP_MOD", mod),
  ("OP_BOOLAND", both), ("OP_BOOLOR", either), ("OP_NUMEQUAL", equal),
  ("OP_NUMEQUALVERIFY", equalVerify), ("OP_NUMNOTEQUAL", notEqual), ("OP_LESSTHAN", less),
  ("OP_GREATERTHAN", greater), ("OP_LESSTHANOREQUAL", lessOrEqual),
  ("OP_GREATERTHANOREQUAL", greaterOrEqual), ("OP_MIN", minimum), ("OP_MAX", maximum)]

/-- The computation that a name stands for; other names take the larger number. -/
def Binary.ofName (name : String) : Binary :=
  (names.lookup name).getD maximum

/-- The items, at most one, that a computation with two numbers leaves. Division rounds toward
zero, and the remainder has the sign of the dividend. -/
def Binary.result (op : Binary) (a b : Int) : Except Fault (List Bytes) :=
  match op with
  | add => .ok [ScriptNum.encode (a + b)]
  | sub => .ok [ScriptNum.encode (a - b)]
  | mul => .ok [ScriptNum.encode (a * b)]
  | div =>
    if b = 0 then .error (.divisionByZero "OP_DIV") else .ok [ScriptNum.encode (a.tdiv b)]
  | mod =>
    if b = 0 then .error (.divisionByZero "OP_MOD") else .ok [ScriptNum.encode (a.tmod b)]
  | both => .ok [ScriptNum.ofBool (a != 0 && b != 0)]
  | either => .ok [ScriptNum.ofBool (a != 0 || b != 0)]
  | equal => .ok [ScriptNum.ofBool (a == b)]
  | equalVerify => if a = b then .ok [] else .error (.numbersDiffer a b)
  | notEqual => .ok [ScriptNum.ofBool (a != b)]
  | less => .ok [ScriptNum.ofBool (a < b)]
  | greater => .ok [ScriptNum.ofBool (a > b)]
  | lessOrEqual => .ok [ScriptNum.ofBool (a ≤ b)]
  | greaterOrEqual => .ok [ScriptNum.ofBool (a ≥ b)]
  | minimum => .ok [ScriptNum.encode (if b < a then b else a)]
  | maximum => .ok [ScriptNum.encode (if a < b then b else a)]

namespace Effect

/-- Replaces the top item by the result of a computation with its number. -/
def unary (rules : Rules) (name : String) (stack : List Bytes) : Outcome (List Bytes) :=
  match popNumber rules name stack with
  | .error cause => .fault cause
  | .ok (a, rest) => .done ((Unary.ofName name).result a :: rest)

/-- Replaces the two top items by the result of a computation with their numbers. -/
def binary (rules : Rules) (name : String) (stack : List Bytes) : Outcome (List Bytes) :=
  if stack.length < 2 then .fault (.stackUnderflow name)
  else
    match popNumber rules name stack with
    | .error cause => .fault cause
    | .ok (b, below) =>
      match popNumber rules name below with
      | .error cause => .fault cause
      | .ok (a, rest) =>
        match (Binary.ofName name).result a b with
        | .ok items => .done (items ++ rest)
        | .error cause => .refuse cause rest

/-- Replaces three items by whether the lowest is at least the second and less than the top one. -/
def within (rules : Rules) (name : String) (stack : List Bytes) : Outcome (List Bytes) :=
  if stack.length < 3 then .fault (.stackUnderflow name)
  else
    match popNumber rules name stack with
    | .error cause => .fault cause
    | .ok (upper, below) =>
      match popNumber rules name below with
      | .error cause => .fault cause
      | .ok (lower, lowest) =>
        match popNumber rules name lowest with
        | .error cause => .fault cause
        | .ok (x, rest) => .done (ScriptNum.ofBool (lower ≤ x && x < upper) :: rest)

end Effect

end Lockstep
