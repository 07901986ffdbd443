import Workbench.Unicode.Ranges

/-!
White space of every script, and texts without it at their ends.
-/

namespace Workbench.Unicode

def whiteSpaceBorders : List Nat :=
  [0x9, 0xe, 0x20, 0x21, 0x85, 0x86, 0xa0, 0xa1, 0x1680, 0x1681, 0x2000, 0x200b, 0x2028, 0x202a,
   0x202f, 0x2030, 0x205f, 0x2060, 0x3000, 0x3001]

/-- Blanks, line breaks and the other characters with the property White_Space. -/
def isWhiteSpace (c : Char) : Bool :=
  within whiteSpaceBorders c.toNat

end Workbench.Unicode
