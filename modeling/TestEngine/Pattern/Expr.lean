/-
TestEngine/Pattern/Expr.lean

Regular expressions with assertions, and how they match.

An assertion looks at the two characters around a position.  Matching goes
through a text from left to right and keeps the expressions that the rest still
has to match: `accepts` tells whether an expression matches the empty text at a
position, and `after` gives the expressions that are left when one character has
been matched (partial derivatives).  A search starts the whole expression anew
at every position.
-/
import TestEngine.Pattern.CharSet

namespace TestEngine

/-- A condition on the characters around a position.  `ascii` limits word
characters to those of ASCII; `crlf` makes `\r\n` a line end as well. -/
inductive Assertion
  | textStart
  | textEnd
  | lineStart (crlf : Bool)
  | lineEnd (crlf : Bool)
  | wordBoundary (ascii : Bool)
  | notWordBoundary (ascii : Bool)
  | wordStart (ascii : Bool)
  | wordEnd (ascii : Bool)
  | wordStartHalf (ascii : Bool)
  | wordEndHalf (ascii : Bool)
  deriving DecidableEq, Repr

namespace Assertion

/-- Is there a word character? -/
def isWordAt (ascii : Bool) : Option Char → Bool
  | none => false
  | some c => (CharSet.word !ascii).contains c

/-- Does the assertion hold between `prev` and `next`? -/
def holds (a : Assertion) (prev next : Option Char) : Bool :=
  match a with
  | textStart => prev.isNone
  | textEnd => next.isNone
  | lineStart false => prev.isNone || prev == some '\n'
  | lineStart true =>
    prev.isNone || prev == some '\n' || (prev == some '\r' && next != some '\n')
  | lineEnd false => next.isNone || next == some '\n'
  | lineEnd true =>
    next.isNone || next == some '\r' || (next == some '\n' && prev != some '\r')
  | wordBoundary ascii => isWordAt ascii prev != isWordAt ascii next
  | notWordBoundary ascii => isWordAt ascii prev == isWordAt ascii next
  | wordStart ascii => !isWordAt ascii prev && isWordAt ascii next
  | wordEnd ascii => isWordAt ascii prev && !isWordAt ascii next
  | wordStartHalf ascii => !isWordAt ascii prev
  | wordEndHalf ascii => !isWordAt ascii next

end Assertion

/-- A regular expression. -/
inductive Expr
  | empty
  | chars (set : CharSet)
  | look (assertion : Assertion)
  | seq (a b : Expr)
  | alt (a b : Expr)
  | star (a : Expr)
  deriving DecidableEq, Repr

namespace Expr

/-! ### Building expressions -/

/-- `a` and then `b`, without a needless `empty`. -/
def andThen : Expr → Expr → Expr
  | .empty, b => b
  | a, .empty => a
  | a, b => .seq a b

/-- The expressions one after the other. -/
def seqAll (es : List Expr) : Expr := es.foldr andThen .empty

/-- Any of the expressions; `empty` if there is none. -/
def altAll : List Expr → Expr
  | [] => .empty
  | [e] => e
  | e :: es => .alt e (altAll es)

/-- `a` as often as `n` says. -/
def power (a : Expr) : Nat → Expr
  | 0 => .empty
  | n + 1 => a.andThen (a.power n)

/-- `a` at most `n` times. -/
def upTo (a : Expr) : Nat → Expr
  | 0 => .empty
  | n + 1 => .alt .empty (a.andThen (a.upTo n))

/-- `a` from `min` to `max` times, or any number of times from `min` on. -/
def times (a : Expr) (min : Nat) : Option Nat → Expr
  | none => (a.power min).andThen (.star a)
  | some max => (a.power min).andThen (a.upTo (max - min))

/-- The number of nodes. -/
def weight : Expr → Nat
  | .empty => 1
  | .chars _ => 1
  | .look _ => 1
  | .seq a b => a.weight + b.weight
  | .alt a b => a.weight + b.weight + 1
  | .star a => a.weight + 1

/-! ### Matching -/

/-- Does the expression match the empty text between `prev` and `next`? -/
def accepts (prev next : Option Char) : Expr → Bool
  | .empty => true
  | .chars _ => false
  | .look a => a.holds prev next
  | .seq a b => a.accepts prev next && b.accepts prev next
  | .alt a b => a.accepts prev next || b.accepts prev next
  | .star _ => true

/-- What is left to match of the expression when it matches `c`, which stands
after `prev`: one expression for each way to do so. -/
def after (prev : Option Char) (c : Char) : Expr → List Expr
  | .empty => []
  | .chars set => if set.contains c then [.empty] else []
  | .look _ => []
  | .seq a b =>
    (a.after prev c).map (·.andThen b) ++
      if a.accepts prev (some c) then b.after prev c else []
  | .alt a b => a.after prev c ++ b.after prev c
  | .star a => (a.after prev c).map (·.andThen (.star a))

/-- Does the expression `e`, or one of the `states` that are being matched,
match some text at the front of the rest, or `e` one further on? -/
def searchFrom (e : Expr) (prev : Option Char) (states : List Expr) : List Char → Bool
  | [] => (e :: states).any (accepts prev none)
  | c :: cs =>
    (e :: states).any (accepts prev (some c)) ||
      searchFrom e (some c) ((e :: states).flatMap (after prev c)).eraseDups cs

/-- Does the expression match some part of the text? -/
def search (e : Expr) (text : String) : Bool := searchFrom e none [] text.toList

end Expr

end TestEngine
