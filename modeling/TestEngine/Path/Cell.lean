/-
TestEngine/Path/Cell.lean

A path that remembers the text that it was last written as, so that writing it again
costs nothing.  A path that is put together anew has no text yet.
-/
import TestEngine.Path

namespace TestEngine

/-- A path together with its written form, once that has been asked for. -/
structure PathCell where
  path : Path
  text : Option String
  deriving DecidableEq, Repr

namespace PathCell

/-- A cell that has not been written yet. -/
def ofPath (p : Path) : PathCell := ⟨p, none⟩

/-- The remembered text, or else the written form. -/
def render (c : PathCell) : String := c.text.getD c.path.render

/-- Write the path and remember the text. -/
def written (c : PathCell) : PathCell := ⟨c.path, some c.render⟩

end PathCell

end TestEngine
