/-
TestEngine/Path.lean

Paths of test objects.  A path is a sequence of elements and is written with
`/` before each of them, as in `/suite/case`.  An element is not empty and holds
neither `/` nor a blank (`isElement`); every operation that takes an element
refuses any other string, so paths built by these operations hold valid elements
only.

Reading (`Path.parse`) reports the first fault of a text with its byte offset.
The scan looks at the characters in order: the text has to start with `/`, a
blank is refused where it stands, as is a `/` right after another one, and a `/`
at the very end is refused last.
-/
import TestEngine.Text.Blank
import TestEngine.Text.Lines

namespace TestEngine

open Text

/-- A valid path element: not empty, without `/` and without blanks. -/
def isElement (s : String) : Bool :=
  s.toList != [] && s.toList.all fun c => c != '/' && !isBlank c

/-- The elements of a path, outermost first. -/
structure Path where
  elements : List String
  deriving DecidableEq, Repr, Inhabited

namespace Path

/-! ### Access -/

/-- The path without elements. -/
def empty : Path := ⟨[]⟩

def length (p : Path) : Nat := p.elements.length

def isEmpty (p : Path) : Bool := p.elements.isEmpty

/-- The last element. -/
def name? (p : Path) : Option String := p.elements.getLast?

/-- Does `p` start with all elements of `q`? -/
def startsWith (p q : Path) : Bool := q.elements.isPrefixOf p.elements

/-- The written form of a list of elements: `/` before each of them. -/
def renderChars : List String → List Char
  | [] => []
  | e :: es => '/' :: (e.toList ++ renderChars es)

/-- The written form: `/` before each element. -/
def render (p : Path) : String := String.ofList (renderChars p.elements)

@[simp] theorem toList_render (p : Path) : p.render.toList = renderChars p.elements := by
  simp [render]

/-! ### Changes -/

/-- An element that no path takes. -/
structure InvalidElement where
  text : String
  deriving DecidableEq, Repr

def InvalidElement.message (e : InvalidElement) : String :=
  "invalid path element `" ++ e.text ++ "`"

/-- The path with one more element at its end. -/
def push (p : Path) (e : String) : Except InvalidElement Path :=
  if isElement e then .ok ⟨p.elements ++ [e]⟩ else .error ⟨e⟩

/-- The path with one more element at its front. -/
def prepend (p : Path) (e : String) : Except InvalidElement Path :=
  if isElement e then .ok ⟨e :: p.elements⟩ else .error ⟨e⟩

/-- The path with a single element. -/
def ofElement (e : String) : Except InvalidElement Path := empty.push e

/-- `p` followed by the elements of `q`. -/
def append (p q : Path) : Path := ⟨p.elements ++ q.elements⟩

/-! ### Reading -/

/-- Why a text is no path. -/
inductive Flaw
  | noLeadingSlash
  | blank
  | emptyElement
  | trailingSlash
  deriving DecidableEq, Repr

/-- The flaw in words. -/
def Flaw.message : Flaw → String
  | .noLeadingSlash => "path must start with '/'"
  | .blank => "whitespace is not allowed"
  | .emptyElement => "empty path element"
  | .trailingSlash => "trailing '/'"

/-- A text that is no path: the text, the flaw, and the bytes to point at. -/
structure ParseError where
  input : String
  flaw : Flaw
  offset : Nat
  length : Nat
  deriving DecidableEq, Repr

namespace ParseError

def message (e : ParseError) : String := "invalid test path: " ++ e.flaw.message

def code : String := "tapline::path::invalid"

def help : String :=
  "test paths look like `/suite/case`: a leading '/', no empty elements, no whitespace"

end ParseError

/-- The first flaw of `cs` and its byte offset.  `cs` starts at `offset`;
`afterSlash` tells whether the character before it is a `/`. -/
def scan (offset : Nat) (afterSlash : Bool) : List Char → Option (Flaw × Nat)
  | [] => if afterSlash then some (.trailingSlash, offset - 1) else none
  | c :: cs =>
    if isBlank c then some (.blank, offset)
    else if c == '/' && afterSlash then some (.emptyElement, offset)
    else scan (offset + c.utf8Size) (c == '/') cs

/-- Read a path. -/
def parse (input : String) : Except ParseError Path :=
  match input.toList with
  | '/' :: cs =>
    -- the leading slash, which is one byte, has been read
    match scan 1 true cs with
    | some (flaw, offset) => .error ⟨input, flaw, offset, 1⟩
    | none => .ok ⟨(splitWhere (· == '/') cs).map String.ofList⟩
  | _ => .error ⟨input, .noLeadingSlash, 0, 1⟩

end Path

end TestEngine
