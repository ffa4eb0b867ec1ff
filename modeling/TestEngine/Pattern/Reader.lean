/-
TestEngine/Pattern/Reader.lean

Reading patterns.  The syntax has literals and escapes, `.`, classes in brackets
with ranges, nested classes and set operations, groups with names or flags,
alternation, the assertions `^ $ \A \z \b \B`, and repetition by `* + ?` and counts.
Look-around and back-references are refused.

The reader goes through the pattern once.  Its state holds the alternatives and
items of the group being read and one frame for each group around it; every step
takes at least one character, so the length of the pattern bounds the steps.
Flags change how the items that follow are understood, up to the end of the group
in which they are set.
-/
import TestEngine.Pattern.Expr

namespace TestEngine

namespace Pattern

open Text

/-! ### Errors and flags -/

/-- Why a text is no pattern. -/
inductive Flaw
  | nothingToRepeat
  | badCount
  | unclosedGroup
  | unopenedGroup
  | badGroupName
  | badFlags
  | lookAround
  | unclosedClass
  | badRange
  | badClassItem
  | backReference
  | badEscape
  | unknownClass
  | tooDeep
  | tooLarge
  | notText
  deriving DecidableEq, Repr

/-- How items are understood. -/
structure Flags where
  ignoreCase : Bool
  multiLine : Bool
  dotAll : Bool
  spaced : Bool
  crlf : Bool
  unicode : Bool
  deriving Repr

def Flags.initial : Flags := ⟨false, false, false, false, false, true⟩

/-- The flags with one of them set; the second `none` is for letters that are no
flag. -/
def Flags.set (f : Flags) (letter : Char) (value : Bool) : Option Flags :=
  match letter with
  | 'i' => some { f with ignoreCase := value }
  | 'm' => some { f with multiLine := value }
  | 's' => some { f with dotAll := value }
  | 'x' => some { f with spaced := value }
  | 'R' => some { f with crlf := value }
  | 'u' => some { f with unicode := value }
  | 'U' => some f
  | _ => none

/-- A step of the reader on the rest of the pattern. -/
abbrev Read (α : Type) := Except Flaw (α × List Char)

/-! ### Blanks and comments -/

/-- Drop blanks, and comments from `#` to the end of the line. -/
def dropSpaced (inComment : Bool) : List Char → List Char
  | [] => []
  | c :: cs =>
    if inComment then dropSpaced (c != '\n') cs
    else if isBlank c then dropSpaced false cs
    else if c == '#' then dropSpaced true cs
    else c :: cs

/-- Where the next item starts: blanks and comments count for nothing if the
pattern is spaced. -/
def Flags.next (f : Flags) (cs : List Char) : List Char :=
  if f.spaced then dropSpaced false cs else cs

/-! ### Case and the end of a set -/

/-- The set that a literal or class stands for under the flags. -/
def Flags.cased (f : Flags) (s : CharSet) : CharSet :=
  if f.ignoreCase then (if f.unicode then s.foldCase else s.foldAsciiCase) else s

/-- A set as an item; without Unicode it may hold ASCII only, since anything else
would match a part of a character. -/
def Flags.checked (f : Flags) (s : CharSet) : Except Flaw CharSet :=
  if f.unicode || s.isAscii then .ok s else .error .notText

/-! ### Escapes -/

/-- What an escape stands for. -/
inductive Primitive
  | literal (c : Char)
  | set (s : CharSet)
  | look (a : Assertion)

def hexValue? (c : Char) : Option Nat :=
  let n := c.toNat
  if 0x30 ≤ n && n ≤ 0x39 then some (n - 0x30)
  else if 0x41 ≤ n && n ≤ 0x46 then some (n - 0x41 + 10)
  else if 0x61 ≤ n && n ≤ 0x66 then some (n - 0x61 + 10)
  else none

/-- The character with this code point, if it is one. -/
def charOfCode? (n : Nat) : Option Char :=
  if n.isValidChar then some (Char.ofNat n) else none

/-- Exactly `count` hexadecimal digits. -/
def readHexFixed (f : Flags) (value : Nat) : Nat → List Char → Read Nat
  | 0, cs => .ok (value, cs)
  | n + 1, cs =>
    match f.next cs with
    | [] => .error .badEscape
    | c :: rest =>
      match hexValue? c with
      | some d => readHexFixed f (16 * value + d) n rest
      | none => .error .badEscape

/-- Hexadecimal digits up to a closing brace; `seen` tells that there was one. -/
def readHexBraced (seen : Bool) (value : Nat) (spaced : Bool) : List Char → Read Nat
  | [] => .error .badEscape
  | c :: cs =>
    if c == '\x7d' then (if seen then .ok (value, cs) else .error .badEscape)
    else if spaced && isBlank c then readHexBraced seen value spaced cs
    else
      match hexValue? c with
      | some d => readHexBraced true (16 * value + d) spaced cs
      | none => .error .badEscape

/-- A code point after `\x`, `\u` or `\U`: that many digits, or braces. -/
def readHex (f : Flags) (digits : Nat) (cs : List Char) : Read Primitive :=
  let number : Read Nat :=
    match f.next cs with
    | '\x7b' :: rest => readHexBraced false 0 f.spaced rest
    | rest => readHexFixed f 0 digits rest
  match number with
  | .error e => .error e
  | .ok (n, rest) =>
    match charOfCode? n with
    | none => .error .badEscape
    | some c =>
      if !f.unicode && digits == 2 && 0x80 ≤ n then .error .notText else .ok (.literal c, rest)

/-- The assertion of a word boundary with this name. -/
def boundaryOfName? (ascii : Bool) (name : String) : Option Assertion :=
  match name with
  | "start" => some (.wordStart ascii)
  | "end" => some (.wordEnd ascii)
  | "start-half" => some (.wordStartHalf ascii)
  | "end-half" => some (.wordEndHalf ascii)
  | _ => none

def isBoundaryLetter (c : Char) : Bool := c.isAlpha || c == '-'

/-- After `\b`: a name in braces, or else nothing.  Braces that start with
anything but a letter belong to a count. -/
def readBoundary (f : Flags) (cs : List Char) : Read Primitive :=
  let plain : Read Primitive := .ok (.look (.wordBoundary !f.unicode), cs)
  match cs with
  | '\x7b' :: rest =>
    match f.next rest with
    | [] => .error .badCount
    | c :: more =>
      if isBoundaryLetter c then
        let letters := (c :: more).filter fun d => !(f.spaced && isBlank d)
        match letters.dropWhile isBoundaryLetter with
        | '\x7d' :: after =>
          match boundaryOfName? (!f.unicode) (String.ofList (letters.takeWhile isBoundaryLetter)) with
          | some a =>
            let taken := ((c :: more).takeWhile (· != '\x7d')).length + 1
            if after.isEmpty then .ok (.look a, []) else .ok (.look a, (c :: more).drop taken)
          | none => .error .badEscape
        | _ => .error .badEscape
      else plain
  | _ => plain

/-- The characters that a backslash may stand before to mean themselves: ASCII
other than letters, digits and the angle brackets. -/
def isEscapable (c : Char) : Bool :=
  c.toNat < 128 && !c.isAlphanum && c != '<' && c != '>'

/-- A named class such as `\d`; the upper-case letter is its complement. -/
def readNamedSet (f : Flags) (s : CharSet) (negated : Bool) (cs : List Char) : Read Primitive :=
  match f.checked (if negated then s.complement else s) with
  | .ok s => .ok (.set s, cs)
  | .error e => .error e

/-- A name of a Unicode class in lower case, without `_`, `-` and blanks, and without
`is` at its front. -/
def plainName (cs : List Char) : String :=
  let letters := (cs.filter fun c => c != '_' && c != '-' && !isBlank c).map Char.toLower
  match letters with
  | 'i' :: 's' :: rest => if rest == ['c'] then "isc" else String.ofList rest
  | _ => String.ofList letters

/-- The Unicode class that stands between braces: a name, or the general category after
`=`, `:` or `!=`.  Tells also whether the complement is meant. -/
def unicodeClass? (cs : List Char) : Option (CharSet × Bool) :=
  let isSign (c : Char) := c == '=' || c == ':' || c == '!'
  let property := plainName (cs.takeWhile fun c => !isSign c)
  let isCategory := property == "gc" || property == "generalcategory"
  let category (value : List Char) (negated : Bool) : Option (CharSet × Bool) :=
    if isCategory then
      (categoriesOfName? (plainName value)).map fun c => (CharSet.ofCategories c, negated)
    else none
  match cs.dropWhile fun c => !isSign c with
  | [] => (CharSet.ofUnicodeName? property).map fun s => (s, false)
  | '!' :: '=' :: value => category value true
  | '!' :: _ => none
  | _ :: value => category value false

/-- A Unicode class after `\p`, or after `\P` if it is `negated`. -/
def readUnicodeClass (f : Flags) (negated : Bool) (cs : List Char) : Read Primitive :=
  let finish (name rest : List Char) : Read Primitive :=
    match unicodeClass? name with
    | none => .error .unknownClass
    | some (s, flipped) =>
      let s := f.cased s
      if !f.unicode then .error .notText
      else .ok (.set (if negated != flipped then s.complement else s), rest)
  match f.next cs with
  | [] => .error .badEscape
  | '\x7b' :: rest =>
    match rest.dropWhile (· != '\x7d') with
    | [] => .error .badEscape
    | _ :: after => finish (rest.takeWhile (· != '\x7d')) after
  | c :: rest => if c == '\\' then .error .unknownClass else finish [c] rest

/-- What stands after a backslash. -/
def readEscape (f : Flags) : List Char → Read Primitive
  | [] => .error .badEscape
  | c :: cs =>
    match c with
    | 'd' => readNamedSet f (.digit f.unicode) false cs
    | 'D' => readNamedSet f (.digit f.unicode) true cs
    | 's' => readNamedSet f (.space f.unicode) false cs
    | 'S' => readNamedSet f (.space f.unicode) true cs
    | 'w' => readNamedSet f (.word f.unicode) false cs
    | 'W' => readNamedSet f (.word f.unicode) true cs
    | 'p' => readUnicodeClass f false cs
    | 'P' => readUnicodeClass f true cs
    | 'x' => readHex f 2 cs
    | 'u' => readHex f 4 cs
    | 'U' => readHex f 8 cs
    | 'a' => .ok (.literal '\x07', cs)
    | 'f' => .ok (.literal '\x0c', cs)
    | 't' => .ok (.literal '\t', cs)
    | 'n' => .ok (.literal '\n', cs)
    | 'r' => .ok (.literal '\r', cs)
    | 'v' => .ok (.literal '\x0b', cs)
    | 'A' => .ok (.look .textStart, cs)
    | 'z' => .ok (.look .textEnd, cs)
    | 'b' => readBoundary f cs
    | 'B' => .ok (.look (.notWordBoundary !f.unicode), cs)
    | '<' => .ok (.look (.wordStart !f.unicode), cs)
    | '>' => .ok (.look (.wordEnd !f.unicode), cs)
    | _ =>
      if c.isDigit then .error .backReference
      else if isEscapable c then .ok (.literal c, cs)
      else .error .badEscape

/-! ### Classes -/

/-- The set operations of classes. -/
inductive SetOp
  | inter
  | diff
  | symmDiff

/-- A class whose closing bracket has not been read: whether it is negated, the
left operand of a set operation that waits for its right one, and what has been
read since. -/
structure ClassFrame where
  negated : Bool
  waiting : Option (SetOp × CharSet)
  items : CharSet

/-- The class so far, the waiting operation carried out. -/
def ClassFrame.settle (f : Flags) (k : ClassFrame) : CharSet :=
  match k.waiting with
  | none => k.items
  | some (op, left) =>
    let left := f.cased left
    let right := f.cased k.items
    match op with
    | .inter => left.inter right
    | .diff => left.diff right
    | .symmDiff => left.symmDiff right

/-- The finished class. -/
def ClassFrame.close (f : Flags) (k : ClassFrame) : CharSet :=
  let s := f.cased (k.settle f)
  if k.negated then s.complement else s

/-- The operation whose sign starts here. -/
def setOp? : List Char → Option (SetOp × List Char)
  | '&' :: '&' :: cs => some (.inter, cs)
  | '-' :: '-' :: cs => some (.diff, cs)
  | '~' :: '~' :: cs => some (.symmDiff, cs)
  | _ => none

/-- Hyphens at the front of a class stand for themselves. -/
def readHyphens (f : Flags) (seen : Bool) : List Char → Bool × List Char
  | [] => (seen, [])
  | c :: cs =>
    if c == '-' then readHyphens f true cs
    else if f.spaced && isBlank c then readHyphens f seen cs
    else (seen, c :: cs)

/-- What follows the opening bracket of a class: `^`, hyphens, or a bracket that
stands for itself. -/
def openClass (f : Flags) (cs : List Char) : Read ClassFrame :=
  let (negated, cs) := match f.next cs with
    | '^' :: rest => (true, f.next rest)
    | rest => (false, rest)
  let (hyphen, cs) := readHyphens f false cs
  let cs := f.next cs
  if hyphen then .ok (⟨negated, none, .single '-'⟩, cs)
  else
    match cs with
    | ']' :: rest => .ok (⟨negated, none, .single ']'⟩, rest)
    | _ => .ok (⟨negated, none, .none⟩, cs)

/-- A named ASCII class after `[`, as in `[:alpha:]` or `[:^alpha:]`. -/
def asciiClass? (cs : List Char) : Option (CharSet × List Char) :=
  match cs with
  | ':' :: rest =>
    let (negated, rest) := match rest with
      | '^' :: more => (true, more)
      | more => (false, more)
    match rest.dropWhile (· != ':') with
    | ':' :: ']' :: after =>
      (CharSet.ofAsciiName? (String.ofList (rest.takeWhile (· != ':')))).map fun s =>
        (if negated then s.complement else s, after)
    | _ => none
  | _ => none

/-- A single item of a class. -/
def readClassItem (f : Flags) : List Char → Read Primitive
  | [] => .error .unclosedClass
  | '\\' :: cs => readEscape f cs
  | c :: cs => .ok (.literal c, cs)

/-- The set of a class item; assertions are none. -/
def Primitive.asSet (f : Flags) : Primitive → Except Flaw CharSet
  | .literal c => f.checked (.single c)
  | .set s => .ok s
  | .look _ => .error .badClassItem

/-- An item of a class or a range of characters. -/
def readClassRange (f : Flags) (cs : List Char) : Read CharSet :=
  match readClassItem f cs with
  | .error e => .error e
  | .ok (first, rest) =>
    match f.next rest with
    | [] => .error .unclosedClass
    | '-' :: more =>
      let single : Read CharSet := (first.asSet f).map fun s => (s, '-' :: more)
      match f.next more with
      | [] => .error .unclosedClass
      | ']' :: _ => single
      | '-' :: _ => single
      | other =>
        match readClassItem f other with
        | .error e => .error e
        | .ok (second, after) =>
          match first, second with
          | .literal a, .literal b =>
            if a ≤ b then (f.checked (.range a b)).map fun s => (s, after) else .error .badRange
          | _, _ => .error .badRange
    | other => (first.asSet f).map fun s => (s, other)

/-- Read a class from after its opening bracket.  `outer` are the classes around
the one being read. -/
def readClass (f : Flags) : Nat → ClassFrame → List ClassFrame → List Char → Read CharSet
  | 0, _, _, _ => .error .unclosedClass
  | fuel + 1, k, outer, cs =>
    match f.next cs with
    | [] => .error .unclosedClass
    | '[' :: rest =>
      match asciiClass? rest with
      | some (s, after) => readClass f fuel { k with items := k.items.union s } outer after
      | none =>
        match openClass f rest with
        | .error e => .error e
        | .ok (inner, after) => readClass f fuel inner (k :: outer) after
    | ']' :: rest =>
      match outer with
      | [] => .ok (k.close f, rest)
      | parent :: outer =>
        readClass f fuel { parent with items := parent.items.union (k.close f) } outer rest
    | other =>
      match setOp? other with
      | some (op, rest) =>
        readClass f fuel { k with waiting := some (op, k.settle f), items := .none } outer rest
      | none =>
        match readClassRange f other with
        | .error e => .error e
        | .ok (s, rest) => readClass f fuel { k with items := k.items.union s } outer rest

/-! ### Groups -/

/-- An item of a sequence: an expression, or a change of flags, which cannot be
repeated. -/
inductive Item
  | expr (e : Expr)
  | directive

/-- A group around the one being read. -/
structure GroupFrame where
  alternatives : List Expr
  items : List Item
  flags : Flags

/-- The state of the reader; alternatives and items have the last one in front. -/
structure ReaderState where
  frames : List GroupFrame
  alternatives : List Expr
  items : List Item
  flags : Flags
  names : List String

namespace ReaderState

def initial : ReaderState := ⟨[], [], [], .initial, []⟩

/-- The items of the sequence being read as one expression. -/
def sequence (st : ReaderState) : Expr :=
  .seqAll <| st.items.reverse.filterMap fun
    | .expr e => some e
    | .directive => none

/-- What has been read of the group as one expression. -/
def group (st : ReaderState) : Expr := .altAll (st.sequence :: st.alternatives).reverse

def addItem (st : ReaderState) (e : Expr) : ReaderState := { st with items := .expr e :: st.items }

/-- Start a group, in which `flags` hold. -/
def openGroup (st : ReaderState) (flags : Flags) : ReaderState :=
  { st with
    frames := ⟨st.alternatives, st.items, st.flags⟩ :: st.frames
    alternatives := []
    items := []
    flags }

end ReaderState

/-- The deepest nesting of groups. -/
def depthLimit : Nat := 250

/-- The flags up to `)` or `:`, which is given back with them: those set before
`-`, those cleared after it. -/
def readFlags (f : Flags) (value : Bool) (seen : List Char) : List Char → Read (Flags × Char)
  | [] => .error .badFlags
  | c :: cs =>
    if c == ')' || c == ':' then
      if seen.head? == some '-' then .error .badFlags
      else if c == ')' && seen.isEmpty then .error .nothingToRepeat
      else .ok ((f, c), cs)
    else if seen.contains c then .error .badFlags
    else if c == '-' then readFlags f false (c :: seen) cs
    else
      match f.set c value with
      | some f => readFlags f value (c :: seen) cs
      | none => .error .badFlags

/-- A group name up to `>`: a letter or `_`, then letters, digits and some signs. -/
def readGroupName (names : List String) (cs : List Char) : Read String :=
  let isFirst (c : Char) := c == '_' || (isWord c && !inRanges digitRanges c)
  let isLater (c : Char) := isWord c || c == '.' || c == '[' || c == ']'
  match cs.takeWhile (· != '>'), cs.dropWhile (· != '>') with
  | c :: more, _ :: rest =>
    let name := String.ofList (c :: more)
    if isFirst c && more.all isLater && !names.contains name then .ok (name, rest)
    else .error .badGroupName
  | _, _ => .error .badGroupName

/-- What follows an opening parenthesis. -/
def readGroup (st : ReaderState) (cs : List Char) : Read ReaderState :=
  if depthLimit ≤ st.frames.length then .error .tooDeep
  else
    let named (rest : List Char) : Read ReaderState :=
      match readGroupName st.names rest with
      | .error e => .error e
      | .ok (name, rest) =>
        .ok ({ st.openGroup st.flags with names := name :: st.names }, rest)
    match st.flags.next cs with
    | '?' :: '=' :: _ => .error .lookAround
    | '?' :: '!' :: _ => .error .lookAround
    | '?' :: '<' :: '=' :: _ => .error .lookAround
    | '?' :: '<' :: '!' :: _ => .error .lookAround
    | '?' :: 'P' :: '<' :: rest => named rest
    | '?' :: '<' :: rest => named rest
    | '?' :: rest =>
      match readFlags st.flags true [] rest with
      | .error e => .error e
      | .ok ((flags, c), rest) =>
        if c == ')' then .ok ({ st with flags, items := .directive :: st.items }, rest)
        else .ok (st.openGroup flags, rest)
    | rest => .ok (st.openGroup st.flags, rest)

/-! ### Repetition -/

/-- The most nodes that an expression may have. -/
def weightLimit : Nat := 436906

/-- Repeat the last item. -/
def repeatLast (st : ReaderState) (min : Nat) (max : Option Nat) : Except Flaw ReaderState :=
  match st.items with
  | .expr e :: items =>
    if weightLimit < e.weight * (Nat.max min (max.getD 0) + 1) then .error .tooLarge
    else .ok { st with items := .expr (e.times min max) :: items }
  | _ => .error .nothingToRepeat

/-- A `?` after a repetition makes it lazy, which changes no answer. -/
def dropLazy (f : Flags) (cs : List Char) : List Char :=
  match f.next cs with
  | '?' :: rest => rest
  | _ => cs

/-- The largest count. -/
def countLimit : Nat := 4294967295

/-- A number with blanks around it. -/
def readCount (cs : List Char) : Read Nat :=
  let cs := cs.dropWhile isBlank
  let digits := cs.takeWhile Char.isDigit
  let rest := (cs.dropWhile Char.isDigit).dropWhile isBlank
  let value := digits.foldl (fun n d => 10 * n + (d.toNat - 0x30)) 0
  if digits.isEmpty || countLimit < value then .error .badCount else .ok (value, rest)

/-- The counts of a repetition, after its opening brace. -/
def readCounts (f : Flags) (cs : List Char) : Read (Nat × Option Nat) :=
  match readCount (f.next cs) with
  | .error e => .error e
  | .ok (min, rest) =>
    match rest with
    | '\x7d' :: rest => .ok ((min, some min), rest)
    | ',' :: rest =>
      match f.next rest with
      | '\x7d' :: rest => .ok ((min, none), rest)
      | rest =>
        match readCount rest with
        | .error e => .error e
        | .ok (max, '\x7d' :: rest) =>
          if min ≤ max then .ok ((min, some max), rest) else .error .badCount
        | .ok _ => .error .badCount
    | _ => .error .badCount

/-! ### The reader -/

/-- The expression of a literal, set or assertion. -/
def Primitive.asExpr (f : Flags) : Primitive → Except Flaw Expr
  | .literal c =>
    if f.ignoreCase && !f.unicode && 128 ≤ c.toNat then .error .notText
    else .ok (.chars (f.cased (.single c)))
  | .set s => .ok (.chars s)
  | .look a => .ok (.look a)

/-- What `.` matches. -/
def dotSet (f : Flags) : CharSet :=
  if f.dotAll then .all
  else (CharSet.ofChars (if f.crlf then ['\n', '\r'] else ['\n'])).complement

/-- Read one item at the front of the pattern, whose first character is `c`. -/
def readItem (st : ReaderState) (c : Char) (cs : List Char) : Read ReaderState :=
  let f := st.flags
  let add (p : Except Flaw Expr) (rest : List Char) : Read ReaderState :=
    p.map fun e => (st.addItem e, rest)
  let repeated (min : Nat) (max : Option Nat) (rest : List Char) : Read ReaderState :=
    (repeatLast st min max).map fun st => (st, dropLazy f rest)
  match c with
  | '(' => readGroup st cs
  | ')' =>
    match st.frames with
    | [] => .error .unopenedGroup
    | frame :: frames =>
      let inner := st.group
      .ok (⟨frames, frame.alternatives, .expr inner :: frame.items, frame.flags, st.names⟩, cs)
  | '|' => .ok ({ st with alternatives := st.sequence :: st.alternatives, items := [] }, cs)
  | '[' =>
    match openClass f cs with
    | .error e => .error e
    | .ok (k, rest) =>
      match readClass f (cs.length + 1) k [] rest with
      | .error e => .error e
      | .ok (s, rest) => add ((f.checked s).map .chars) rest
  | '*' => repeated 0 none cs
  | '+' => repeated 1 none cs
  | '?' => repeated 0 (some 1) cs
  | '\x7b' =>
    match readCounts f cs with
    | .error e => .error e
    | .ok ((min, max), rest) => repeated min max rest
  | '\\' =>
    match readEscape f cs with
    | .error e => .error e
    | .ok (p, rest) => add (p.asExpr f) rest
  | '.' => add ((f.checked (dotSet f)).map .chars) cs
  | '^' => add (.ok (.look (if f.multiLine then .lineStart f.crlf else .textStart))) cs
  | '$' => add (.ok (.look (if f.multiLine then .lineEnd f.crlf else .textEnd))) cs
  | _ => add (Primitive.asExpr f (.literal c)) cs

/-- Read items to the end of the pattern. -/
def readItems : Nat → ReaderState → List Char → Except Flaw Expr
  | 0, _, _ => .error .tooDeep
  | fuel + 1, st, cs =>
    match st.flags.next cs with
    | [] => if st.frames.isEmpty then .ok st.group else .error .unclosedGroup
    | c :: rest =>
      match readItem st c rest with
      | .error e => .error e
      | .ok (st, rest) => readItems fuel st rest

/-- The expression that a text denotes. -/
def parse (source : String) : Except Flaw Expr :=
  match readItems (source.toList.length + 1) .initial source.toList with
  | .error e => .error e
  | .ok e => if weightLimit < e.weight then .error .tooLarge else .ok e

end Pattern

/-- A pattern: its text and the expression that the text denotes. -/
structure Pattern where
  source : String
  expr : Expr
  deriving Repr

/-- Read a pattern. -/
def Pattern.ofSource (source : String) : Except Pattern.Flaw Pattern :=
  match Pattern.parse source with
  | .ok expr => .ok ⟨source, expr⟩
  | .error e => .error e

/-- Does the pattern match some part of the text? -/
def Pattern.isMatch (p : Pattern) (text : String) : Bool := p.expr.search text

end TestEngine
