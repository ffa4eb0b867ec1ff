/-
TestEngine/Pattern/CharSet.lean

Sets of characters, as patterns use them: a sorted list of ranges of code points
with a gap between any two neighbours.  The set operations all go through `ofRanges`,
which sorts a list of ranges and joins those that touch, and through `complement`.
-/
import TestEngine.Text.Blank
import TestEngine.Text.Word
import TestEngine.Text.Fold
import TestEngine.Text.Category

namespace TestEngine

open Text

/-- A set of characters: sorted ranges of code points with gaps between them. -/
structure CharSet where
  ranges : List CodeRange
  deriving DecidableEq, Repr

namespace CharSet

/-- The largest code point. -/
def maxCode : Nat := 0x10ffff

def contains (s : CharSet) (c : Char) : Bool := inRanges s.ranges c

/-! ### Building sets -/

/-- Join `current` with those of the sorted ranges that touch it, and so on. -/
def joinFrom (current : CodeRange) : List CodeRange → List CodeRange
  | [] => [current]
  | r :: rs =>
    if r.1 ≤ current.2 + 1 then joinFrom (current.1, max current.2 r.2) rs
    else current :: joinFrom r rs

/-- Join the ranges that touch in a sorted list. -/
def joinTouching : List CodeRange → List CodeRange
  | [] => []
  | r :: rs => joinFrom r rs

/-- The set of the characters in any of the ranges. -/
def ofRanges (rs : List CodeRange) : CharSet :=
  ⟨joinTouching (rs.mergeSort fun a b => a.1 ≤ b.1)⟩

def none : CharSet := ⟨[]⟩

def all : CharSet := ⟨[(0, maxCode)]⟩

def single (c : Char) : CharSet := ⟨[(c.toNat, c.toNat)]⟩

/-- The characters from `a` to `b`. -/
def range (a b : Char) : CharSet := ⟨[(a.toNat, b.toNat)]⟩

/-- The set of the listed characters. -/
def ofChars (cs : List Char) : CharSet := ofRanges (cs.map fun c => (c.toNat, c.toNat))

/-! ### Set operations -/

/-- The gaps of sorted ranges, from the code point `start` on. -/
def gaps (start : Nat) : List CodeRange → List CodeRange
  | [] => if start ≤ maxCode then [(start, maxCode)] else []
  | r :: rs => if start < r.1 then (start, r.1 - 1) :: gaps (r.2 + 1) rs else gaps (r.2 + 1) rs

def complement (s : CharSet) : CharSet := ⟨gaps 0 s.ranges⟩

def union (a b : CharSet) : CharSet := ofRanges (a.ranges ++ b.ranges)

def inter (a b : CharSet) : CharSet := (a.complement.union b.complement).complement

def diff (a b : CharSet) : CharSet := a.inter b.complement

/-- The characters in exactly one of the sets. -/
def symmDiff (a b : CharSet) : CharSet := (a.diff b).union (b.diff a)

/-- Does the set hold ASCII characters only? -/
def isAscii (s : CharSet) : Bool := s.ranges.all fun r => r.2 < 128

/-- Is the code point in the set? -/
def hasCode (s : CharSet) (n : Nat) : Bool := s.ranges.any fun r => r.1 ≤ n && n ≤ r.2

/-- The set with the `new` code points added. -/
def addCodes (s : CharSet) (new : List Nat) : CharSet :=
  if new.isEmpty then s else ofRanges (new.map (fun n => (n, n)) ++ s.ranges)

/-- The set with every character that differs from a member in case only: first
the folded forms of the members come in, then all that fold to a member. -/
def foldCase (s : CharSet) : CharSet :=
  let folded := s.addCodes ((foldPairs.filter fun p => s.hasCode p.1).map Prod.snd)
  folded.addCodes ((foldPairs.filter fun p => folded.hasCode p.2).map Prod.fst)

/-- The same for the letters of ASCII alone. -/
def foldAsciiCase (s : CharSet) : CharSet :=
  let upper := (List.range 26).map (· + 0x41)
  (s.addCodes ((upper.filter s.hasCode).map (· + 32))).addCodes
    (upper.filter fun n => s.hasCode (n + 32))

/-! ### Named sets -/

/-- Decimal digits. -/
def digit (unicode : Bool) : CharSet :=
  if unicode then ⟨digitRanges⟩ else range '0' '9'

/-- Word characters. -/
def word (unicode : Bool) : CharSet :=
  if unicode then ⟨wordRanges⟩
  else ofRanges [(0x30, 0x39), (0x41, 0x5a), (0x5f, 0x5f), (0x61, 0x7a)]

/-- White space. -/
def space (unicode : Bool) : CharSet :=
  if unicode then
    ofRanges [(9, 13), (0x20, 0x20), (0x85, 0x85), (0xa0, 0xa0), (0x1680, 0x1680),
      (0x2000, 0x200a), (0x2028, 0x2029), (0x202f, 0x202f), (0x205f, 0x205f), (0x3000, 0x3000)]
  else ofRanges [(9, 13), (0x20, 0x20)]

/-- The assigned characters. -/
def assigned : CharSet :=
  let categories : List Category :=
    [.lu, .ll, .lt, .lm, .lo, .mn, .mc, .me, .nd, .nl, .no, .pc, .pd, .ps, .pe, .pi, .pf, .po,
      .sm, .sc, .sk, .so, .zs, .zl, .zp, .cc, .cf, .cs, .co]
  ofRanges (categories.flatMap Category.ranges)

/-- The characters of some general categories. -/
def ofCategories (cs : List Category) : CharSet :=
  let listed := ofRanges (cs.flatMap Category.ranges)
  if cs.contains .cn then listed.union assigned.complement else listed

/-- The Unicode class with this name, given in lower case and without `_`, `-` and blanks. -/
def ofUnicodeName? (name : String) : Option CharSet :=
  match name with
  | "any" => some all
  | "assigned" => some assigned
  | "ascii" => some ⟨[(0, 0x7f)]⟩
  | "whitespace" => some (space true)
  | _ => (categoriesOfName? name).map ofCategories

/-- The ASCII class with this name, as it is written between `[:` and `:]`. -/
def ofAsciiName? (name : String) : Option CharSet :=
  match name with
  | "alnum" => some (ofRanges [(0x30, 0x39), (0x41, 0x5a), (0x61, 0x7a)])
  | "alpha" => some (ofRanges [(0x41, 0x5a), (0x61, 0x7a)])
  | "ascii" => some ⟨[(0, 0x7f)]⟩
  | "blank" => some (ofRanges [(9, 9), (0x20, 0x20)])
  | "cntrl" => some (ofRanges [(0, 0x1f), (0x7f, 0x7f)])
  | "digit" => some (digit false)
  | "graph" => some ⟨[(0x21, 0x7e)]⟩
  | "lower" => some (range 'a' 'z')
  | "print" => some ⟨[(0x20, 0x7e)]⟩
  | "punct" => some (ofRanges [(0x21, 0x2f), (0x3a, 0x40), (0x5b, 0x60), (0x7b, 0x7e)])
  | "space" => some (ofRanges [(9, 13), (0x20, 0x20)])
  | "upper" => some (range 'A' 'Z')
  | "word" => some (word false)
  | "xdigit" => some (ofRanges [(0x30, 0x39), (0x41, 0x46), (0x61, 0x66)])
  | _ => Option.none

end CharSet

end TestEngine
