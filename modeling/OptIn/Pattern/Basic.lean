/-!
# Line patterns

The regular expressions that recognise directives, as trees. A pattern is matched from the start of
a line (`OptIn.Pattern.Match`); its written form is read by `OptIn.Pattern.Parser`.
-/

namespace OptIn

/-- The classes of characters that patterns name with an escape. -/
inductive CharClass where
  | digit
  | space
  | word
  deriving DecidableEq, Repr

/-- One member of a set of characters in a pattern. -/
inductive SetMember where
  | range (low high : Char)
  | ofClass (c : CharClass) (complement : Bool)
  deriving DecidableEq, Repr

/-- The places that a pattern can ask for without consuming a character. -/
inductive Spot where
  | textStart
  | lineStart
  | textEnd
  | lastLineEnd
  | lineEnd
  | wordEdge
  | insideWord
  deriving DecidableEq, Repr

/-- How a repetition chooses between more and fewer turns. -/
inductive Appetite where
  | greedy
  | lazy
  | possessive
  deriving DecidableEq, Repr

/-- A regular expression. -/
inductive Pattern where
  | empty
  | never
  | char (c : Char)
  | anyChar
  | anyButNewline
  | set (complement : Bool) (members : List SetMember)
  | spot (s : Spot)
  | seq (a b : Pattern)
  | alt (a b : Pattern)
  | capture (group : Nat) (p : Pattern)
  | again (group : Nat)
  | many (least : Nat) (most : Option Nat) (appetite : Appetite) (p : Pattern)
  | atomic (p : Pattern)
  | ahead (wanted : Bool) (p : Pattern)
  | behind (wanted : Bool) (width : Nat) (p : Pattern)
  | ifCaptured (group : Nat) (yes no : Pattern)
  deriving DecidableEq, Repr

namespace Pattern

/-- The least and the greatest number of characters that a pattern consumes; the greatest is
missing where there is no bound. -/
abbrev Width := Nat × Option Nat

/-- No repetition takes as many turns as this, and no pattern of one width is as wide. -/
def repeatLimit : Nat := 4294967295

/-- Whether a pattern always consumes the same number of characters. -/
def Width.isFixed (w : Width) : Bool := w.2 = some w.1 && w.1 < repeatLimit

/-- The width of two patterns in a row. -/
def Width.add (a b : Width) : Width := (a.1 + b.1, do return (← a.2) + (← b.2))

/-- The width of one of two patterns. -/
def Width.join (a b : Width) : Width := (min a.1 b.1, do return max (← a.2) (← b.2))

/-- The width of a pattern, given the widths of the groups it refers to. -/
def width (groups : Nat → Width) : Pattern → Width
  | empty | never | spot _ | ahead _ _ | behind _ _ _ => (0, some 0)
  | char _ | anyChar | anyButNewline | set _ _ => (1, some 1)
  | seq a b => (a.width groups).add (b.width groups)
  | alt a b => (a.width groups).join (b.width groups)
  | capture _ p | atomic p => p.width groups
  | again g => groups g
  | many least most _ p =>
    let w := p.width groups
    (w.1 * least, if w.2 = some 0 ∨ most = some 0 then some 0 else do return (← w.2) * (← most))
  | ifCaptured _ yes no => (yes.width groups).join (no.width groups)

end Pattern

end OptIn
