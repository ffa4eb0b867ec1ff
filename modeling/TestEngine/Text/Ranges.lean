/-
TestEngine/Text/Ranges.lean

Classes of characters given as a table of ranges of code points.
-/
namespace TestEngine

namespace Text

/-- A range of code points, both ends included. -/
abbrev CodeRange := Nat × Nat

/-- Is the character in one of the ranges? -/
def inRanges (table : List CodeRange) (c : Char) : Bool :=
  table.any fun r => r.1 ≤ c.toNat && c.toNat ≤ r.2

end Text

end TestEngine
