import OptIn.Pattern.Basic
import OptIn.Text.Blank

/-!
# Matching a pattern from the start of a line

`Pattern.run` tries the ways in which a pattern can match at a cursor, in order of preference, and
hands the cursor behind each to a continuation until one succeeds. `Pattern.matchLine?` starts at
the beginning of a line and gives the captured groups.
-/

namespace OptIn

/-- A place in a text: what lies before it, nearest character first, what follows, and the groups
captured on the way, latest first. -/
structure Cursor where
  before : List Char
  rest : List Char
  groups : List (Nat × List Char)
  deriving DecidableEq, Repr

/-- What a group has captured, if it took part. -/
def Cursor.captured? (s : Cursor) (group : Nat) : Option (List Char) := s.groups.lookup group

/-- The characters between two places, the second behind the first. -/
def Cursor.between (s t : Cursor) : List Char :=
  (t.before.take (t.before.length - s.before.length)).reverse

/-- Whether a character is a letter, a digit or the underscore, of ASCII: no other letters are asked
for by the patterns in use. -/
def isWordChar (c : Char) : Bool := c.isAlphanum || c = '_'

/-- Whether a character belongs to a class. Digits and word characters are those of ASCII. -/
def CharClass.contains : CharClass → Char → Bool
  | digit, c => c.isDigit
  | space, c => Text.isBlank c
  | word, c => isWordChar c

/-- Whether a character is one of those that a member of a set stands for. -/
def SetMember.contains : SetMember → Char → Bool
  | range low high, c => low ≤ c && c ≤ high
  | ofClass k complement, c => k.contains c != complement

/-- Whether a place is between a word character and none. -/
def Cursor.atWordEdge (s : Cursor) : Bool :=
  s.before.head?.any isWordChar != s.rest.head?.any isWordChar

/-- Whether a place is of the kind asked for. -/
def Spot.holds : Spot → Cursor → Bool
  | textStart, s => s.before.isEmpty
  | lineStart, s => s.before.isEmpty || s.before.head? = some '\n'
  | textEnd, s => s.rest.isEmpty
  | lastLineEnd, s => s.rest.isEmpty || s.rest = ['\n']
  | lineEnd, s => s.rest.isEmpty || s.rest.head? = some '\n'
  | wordEdge, s => s.atWordEdge
  | insideWord, s => !s.atWordEdge

namespace Pattern

/-- What is tried with the cursor behind a match. -/
abbrev Continuation := Cursor → Option Cursor

/-- Consumes one character that satisfies `p`. -/
def takeOne (p : Char → Bool) (k : Continuation) (s : Cursor) : Option Cursor :=
  match s.rest with
  | [] => none
  | c :: cs => if p c then k { s with before := c :: s.before, rest := cs } else none

/-- Consumes a given text. -/
def takeText : List Char → Continuation → Cursor → Option Cursor
  | [], k, s => k s
  | c :: cs, k, s => takeOne (· = c) (takeText cs k) s

/-- Repeats a step: `least` times at any rate, then as often as wanted while each turn consumes
something and `most` allows it. The first argument bounds the number of turns. -/
def repeated (step : Continuation → Continuation) (eager : Bool) :
    Nat → Nat → Option Nat → Continuation → Continuation
  | 0, _, _, k, s => k s
  | fuel + 1, least + 1, most, k, s =>
    step (repeated step eager fuel least (most.map (· - 1)) k) s
  | fuel + 1, 0, most, k, s =>
    let more := fun (_ : Unit) =>
      if most = some 0 then none
      else step (fun t =>
        if t.rest.length < s.rest.length then
          repeated step eager fuel 0 (most.map (· - 1)) k t
        else none) s
    if eager then (more ()).or (k s) else (k s).or (more ())

/-- Tries the matches of a pattern at a cursor, preferred ones first, until the continuation
succeeds behind one. -/
def run : Pattern → Continuation → Continuation
  | empty, k => k
  | never, _ => fun _ => none
  | char c, k => takeOne (· = c) k
  | anyChar, k => takeOne (fun _ => true) k
  | anyButNewline, k => takeOne (· ≠ '\n') k
  | set complement members, k =>
    takeOne (fun c => members.any (·.contains c) != complement) k
  | spot p, k => fun s => if p.holds s then k s else none
  | seq a b, k => a.run (b.run k)
  | alt a b, k => fun s => (a.run k s).or (b.run k s)
  | capture g p, k => fun s =>
    p.run (fun t => k { t with groups := (g, s.between t) :: t.groups }) s
  | again g, k => fun s =>
    match s.captured? g with
    | some text => takeText text k s
    | none => none
  | many least most .possessive p, k => fun s =>
    (repeated p.run true (least + s.rest.length + 1) least most some s).bind k
  | many least most .greedy p, k => fun s =>
    repeated p.run true (least + s.rest.length + 1) least most k s
  | many least most .lazy p, k => fun s =>
    repeated p.run false (least + s.rest.length + 1) least most k s
  | atomic p, k => fun s => (p.run some s).bind k
  | ahead wanted p, k => fun s =>
    match p.run some s with
    | some t => if wanted then k { s with groups := t.groups } else none
    | none => if wanted then none else k s
  | behind wanted width p, k => fun s =>
    let back : Cursor :=
      { s with
        before := s.before.drop width
        rest := (s.before.take width).reverse ++ s.rest }
    let here := fun t : Cursor => if t.rest.length = s.rest.length then some t else none
    match if s.before.length < width then none else p.run here back with
    | some t => if wanted then k { s with groups := t.groups } else none
    | none => if wanted then none else k s
  | ifCaptured g yes no, k => fun s =>
    if (s.captured? g).isSome then yes.run k s else no.run k s

/-- The cursor behind the preferred match of a pattern at the start of a line. -/
def matchLine? (p : Pattern) (line : List Char) : Option Cursor :=
  p.run some ⟨[], line, []⟩

/-- Whether a line starts with a match of the pattern. -/
def matchesLine (p : Pattern) (line : List Char) : Bool := (p.matchLine? line).isSome

end Pattern

end OptIn
