import Lockstep.Decimal.Double
import Lockstep.Decimal.Integer
import Lockstep.Text.CodePoints

namespace Lockstep

inductive Json where
  | null
  | bool (value : Bool)
  | int (value : Int)
  | double (value : Double)
  | str (text : CodePoints)
  | arr (items : List Json)
  | obj (fields : List (CodePoints × Json))

namespace Json

def string (text : String) : Json :=
  str (CodePoints.ofString text)

def object (fields : List (String × Json)) : Json :=
  obj (fields.map fun field => (CodePoints.ofString field.1, field.2))

/-- The escape of a code unit: four hexadecimal digits. -/
def unitEscape (unit : Nat) : List Char :=
  let digits := Nat.toDigits 16 unit
  '\\' :: 'u' :: (List.replicate (4 - digits.length) '0' ++ digits)

/-- How a code point stands in a string: visible ASCII only, with a surrogate pair beyond 16 bits. -/
def escape (code : Nat) : List Char :=
  if code = 0x22 then ['\\', '"']
  else if code = 0x5c then ['\\', '\\']
  else if code = 0x0a then ['\\', 'n']
  else if code = 0x0d then ['\\', 'r']
  else if code = 0x09 then ['\\', 't']
  else if code = 0x08 then ['\\', 'b']
  else if code = 0x0c then ['\\', 'f']
  else if 0x20 ≤ code ∧ code < 0x7f then [Char.ofNat code]
  else if code < 0x10000 then unitEscape code
  else
    unitEscape (0xd800 + (code - 0x10000) / 0x400) ++ unitEscape (0xdc00 + (code - 0x10000) % 0x400)

def writeString (text : CodePoints) : List Char :=
  '"' :: (text.flatMap escape ++ ['"'])

/-- The text of a value other than an array or an object. -/
def writeScalar : Json → List Char
  | null => "null".toList
  | bool value => if value then "true".toList else "false".toList
  | int value => (toString value).toList
  | double value => value.toText
  | str text => writeString text
  | arr _ | obj _ => []

def separated (separator : List Char) : List (List Char) → List Char
  | [] => []
  | [text] => text
  | text :: rest => text ++ separator ++ separated separator rest

def byName (fields : List (CodePoints × List Char)) : List (CodePoints × List Char) :=
  fields.mergeSort fun a b => CodePoints.precedes a.1 b.1

mutual

/-- A value on one line, with the fields of objects in the order of their names. -/
def write : Json → List Char
  | arr items => '[' :: (separated ", ".toList (writeItems items) ++ [']'])
  | obj fields =>
    '\x7b' :: (separated ", ".toList ((byName (writeFields fields)).map fun field =>
      writeString field.1 ++ ": ".toList ++ field.2) ++ ['\x7d'])
  | scalar => writeScalar scalar

def writeItems : List Json → List (List Char)
  | [] => []
  | item :: rest => write item :: writeItems rest

/-- The names and texts of the fields of an object. -/
def writeFields : List (CodePoints × Json) → List (CodePoints × List Char)
  | [] => []
  | (name, value) :: rest => (name, write value) :: writeFields rest

end

/-- A line break and the indentation of a level. -/
def lineBreak (level : Nat) : List Char :=
  '\n' :: List.replicate (2 * level) ' '

/-- Entries between brackets, one a line, or nothing between them if there are none. -/
def indentedBlock (opening closing : Char) (level : Nat) (entries : List (List Char)) :
    List Char :=
  if entries.isEmpty then [opening, closing]
  else
    opening :: (lineBreak (level + 1) ++ separated (',' :: lineBreak (level + 1)) entries ++
      lineBreak level ++ [closing])

mutual

def writeAt (level : Nat) : Json → List Char
  | arr items => indentedBlock '[' ']' level (writeItemsAt (level + 1) items)
  | obj fields => indentedBlock '\x7b' '\x7d' level (writeFieldsAt (level + 1) fields)
  | scalar => writeScalar scalar

/-- The items of an array at a level of indentation. -/
def writeItemsAt (level : Nat) : List Json → List (List Char)
  | [] => []
  | item :: rest => writeAt level item :: writeItemsAt level rest

/-- The fields of an object at a level of indentation. -/
def writeFieldsAt (level : Nat) : List (CodePoints × Json) → List (List Char)
  | [] => []
  | (name, value) :: rest =>
    (writeString name ++ ": ".toList ++ writeAt level value) :: writeFieldsAt level rest

end

def writeIndented (value : Json) : String :=
  String.ofList (writeAt 0 value)

mutual

/-- Whether all integers in a value have few enough digits to be written. -/
def isWritable : Json → Bool
  | int value => Decimal.isWritable value
  | arr items => itemsWritable items
  | obj fields => fieldsWritable fields
  | _ => true

/-- Whether all items of an array can be written. -/
def itemsWritable : List Json → Bool
  | [] => true
  | item :: rest => isWritable item && itemsWritable rest

/-- Whether all fields of an object can be written. -/
def fieldsWritable : List (CodePoints × Json) → Bool
  | [] => true
  | (_, value) :: rest => isWritable value && fieldsWritable rest

end

mutual

/-- How many levels it takes to write a value: one for each array or object inside another, and
one to bring fields into order where an object has at least two. -/
def levels : Json → Nat
  | arr items => itemLevels items + 1
  | obj fields => Nat.max (if fields.length < 2 then 0 else 1) (fieldLevels fields) + 1
  | _ => 0

/-- How many levels it takes to write the items of an array. -/
def itemLevels : List Json → Nat
  | [] => 0
  | item :: rest => Nat.max (levels item) (itemLevels rest)

/-- How many levels it takes to write the fields of an object. -/
def fieldLevels : List (CodePoints × Json) → Nat
  | [] => 0
  | (_, value) :: rest => Nat.max (levels value) (fieldLevels rest)

end

mutual

/-- Whether two values are equal, numbers by their value. -/
def sameValue : Json → Json → Bool
  | null, null => true
  | bool a, bool b => a == b
  | int a, int b => a == b
  | double a, double b => a.sameValue b
  | str a, str b => a == b
  | arr a, arr b => sameItems a b
  | obj a, obj b => sameFields a b
  | _, _ => false

def sameItems : List Json → List Json → Bool
  | [], [] => true
  | a :: s, b :: t => sameValue a b && sameItems s t
  | _, _ => false

/-- Whether two lists of fields are equal, in the same order. -/
def sameFields : List (CodePoints × Json) → List (CodePoints × Json) → Bool
  | [], [] => true
  | (n, a) :: s, (m, b) :: t => n == m && sameValue a b && sameFields s t
  | _, _ => false

end

end Json

end Lockstep
