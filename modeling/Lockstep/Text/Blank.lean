
namespace Lockstep.Text

/-- The characters that divide fields: white space of all scripts and the ASCII separators. -/
def isBlank (c : Char) : Bool :=
  let code := c.toNat
  (0x09 ≤ code && code ≤ 0x0d) || (0x1c ≤ code && code ≤ 0x20) || code == 0x85 || code == 0xa0 ||
    code == 0x1680 || (0x2000 ≤ code && code ≤ 0x200a) || code == 0x2028 || code == 0x2029 ||
    code == 0x202f || code == 0x205f || code == 0x3000

/-- The characters that end a line; all of them are blank. -/
def isLineBreak (c : Char) : Bool :=
  let code := c.toNat
  (0x0a ≤ code && code ≤ 0x0d) || (0x1c ≤ code && code ≤ 0x1e) || code == 0x85 ||
    code == 0x2028 || code == 0x2029

/-- The longest runs of characters that are not blank. -/
def fields (text : String) : List String :=
  ((text.toList.splitOnP isBlank).filter (!·.isEmpty)).map String.ofList

def lines (text : String) : List String :=
  (text.toList.splitOnP isLineBreak).map String.ofList

def trimEnd (text : List Char) : List Char :=
  (text.reverse.dropWhile isBlank).reverse

end Lockstep.Text
