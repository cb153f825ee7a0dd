/-!
# Wildcards

Shell wildcards against whole names, upper and lower case apart. `*` stands for any run of
characters, `?` for one character, and `[...]` for one character of a set, or outside it after a
leading `!`. In a set `a-z` is a range, a reversed range stands for nothing, and a bracket that is
not closed is an ordinary character.
-/

namespace OptIn.Text

/-- One item of a set of characters: a character, or the mark between the ends of a range. -/
inductive SetToken where
  | char (c : Char)
  | dash
  deriving DecidableEq, Repr

/-- A set of characters by single characters and ranges, ends included. -/
structure CharSet where
  negated : Bool
  ranges : List (Char × Char)
  deriving DecidableEq, Repr

/-- Whether a character belongs to the set. -/
def CharSet.contains (s : CharSet) (c : Char) : Bool :=
  (s.ranges.any fun r => r.1 ≤ c && c ≤ r.2) != s.negated

/-- One part of a wildcard pattern. -/
inductive WildPart where
  | star
  | one
  | char (c : Char)
  | set (s : CharSet)
  deriving DecidableEq, Repr

namespace Wildcard

/-- The body of a set cut at the hyphens that make ranges. A hyphen makes one when a character
precedes it that is not itself the end of a range; `fresh` counts the characters since the last
cut. -/
def chunks (fresh : Nat) (chunk : List Char) : List Char → List (List Char)
  | [] => [chunk.reverse]
  | c :: cs =>
    if c = '-' && fresh = 0 then chunk.reverse :: chunks 2 [] cs
    else chunks (fresh - 1) (c :: chunk) cs

/-- The last chunk of a set that ends in a hyphen is empty: the hyphen then belongs to the chunk
before it. -/
def closeChunks : List (List Char) → List (List Char)
  | [] => []
  | [a] => [a]
  | [a, []] => [a ++ ['-']]
  | a :: rest => a :: closeChunks rest

/-- The chunks with each reversed range taken out: both its ends go, and the chunks become one. -/
def dropReversed : List (List Char) → List (List Char)
  | [] => []
  | a :: rest =>
    match dropReversed rest with
    | [] => [a]
    | b :: more =>
      match a.getLast?, b.head? with
      | some hi, some lo =>
        if lo < hi then (a.dropLast ++ b.tail) :: more else a :: b :: more
      | _, _ => a :: b :: more

/-- The tokens of a set: its chunks with a range mark between any two. -/
def setTokens : List (List Char) → List SetToken
  | [] => []
  | [a] => a.map .char
  | a :: rest => a.map .char ++ .dash :: setTokens rest

/-- The ranges that tokens denote. A mark with a character on both sides makes a range. -/
def tokenRanges : List SetToken → List (Char × Char)
  | .char a :: .dash :: .char b :: rest => (a, b) :: tokenRanges rest
  | .char a :: rest => (a, a) :: tokenRanges rest
  | .dash :: rest => ('-', '-') :: tokenRanges rest
  | [] => []

/-- The part that a set stands for, from its body between the brackets. A set with nothing in it
matches no character, and its complement every character. -/
def setPart (body : List Char) : WildPart :=
  let first := if body.head? = some '!' then 2 else 1
  match setTokens (dropReversed (closeChunks (chunks first [] body))) with
  | [] => .set ⟨false, []⟩
  | [.char '!'] => .one
  | .char '!' :: rest => .set ⟨true, tokenRanges rest⟩
  | tokens => .set ⟨false, tokenRanges tokens⟩

/-- The body of a set and what follows its closing bracket. A `]` at the start of the body, or
behind a leading `!`, belongs to the body. -/
def takeSet (cs : List Char) : Option (List Char × List Char) :=
  let (lead, rest) := match cs with
    | '!' :: ']' :: r => (['!', ']'], r)
    | '!' :: r => (['!'], r)
    | ']' :: r => ([']'], r)
    | r => ([], r)
  match rest.dropWhile (· ≠ ']') with
  | [] => none
  | _ :: after => some (lead ++ rest.takeWhile (· ≠ ']'), after)

/-- The parts of a pattern; `skip` counts the characters that a set has already used up. Stars in a
row are one. -/
def partsFrom : Nat → List Char → List WildPart
  | _, [] => []
  | skip + 1, _ :: cs => partsFrom skip cs
  | 0, c :: cs =>
    if c = '*' then
      match partsFrom 0 cs with
      | .star :: ps => .star :: ps
      | ps => .star :: ps
    else if c = '?' then .one :: partsFrom 0 cs
    else if c = '[' then
      match takeSet cs with
      | some (body, _) => setPart body :: partsFrom (body.length + 1) cs
      | none => .char '[' :: partsFrom 0 cs
    else .char c :: partsFrom 0 cs

/-- The parts of a pattern. -/
def parts (pattern : List Char) : List WildPart := partsFrom 0 pattern

/-- Whether some suffix of a text satisfies `k`. -/
def anySuffix (k : List Char → Bool) : List Char → Bool
  | [] => k []
  | c :: cs => k (c :: cs) || anySuffix k cs

/-- Whether the parts match the whole text. -/
def matchParts : List WildPart → List Char → Bool
  | [], cs => cs.isEmpty
  | .star :: ps, cs => anySuffix (matchParts ps) cs
  | .one :: _, [] => false
  | .one :: ps, _ :: cs => matchParts ps cs
  | .char _ :: _, [] => false
  | .char a :: ps, c :: cs => a = c && matchParts ps cs
  | .set _ :: _, [] => false
  | .set s :: ps, c :: cs => s.contains c && matchParts ps cs

/-! ### Matching by rows

What all the ends of a pattern say about a text is a row of answers, the longest end first. The row
of a text follows from the row of the text without its first character, so a match takes no more
steps than there are parts times characters.
-/

/-- The first answer of a row. -/
def firstAnswer : List Bool → Bool
  | [] => false
  | b :: _ => b

@[simp] theorem firstAnswer_cons (b : Bool) (row : List Bool) : firstAnswer (b :: row) = b := rfl

/-- What the ends of the parts say about the empty text. -/
def emptyRow : List WildPart → List Bool
  | [] => [true]
  | p :: ps =>
    let row := emptyRow ps
    (p = .star && firstAnswer row) :: row

/-- What the ends of the parts say about a text, from what they say about the text without its first
character. -/
def stepRow (c : Char) : List WildPart → List Bool → List Bool
  | [], _ => [false]
  | p :: ps, old =>
    let row := stepRow c ps old.tail
    let next := firstAnswer old.tail
    let here := match p with
      | .star => firstAnswer row || firstAnswer old
      | .one => next
      | .char a => a = c && next
      | .set s => s.contains c && next
    here :: row

/-- What the ends of the parts say about a text. -/
def matchRow (ps : List WildPart) (cs : List Char) : List Bool :=
  cs.foldr (fun c row => stepRow c ps row) (emptyRow ps)

/-- The answers of all ends of the parts, each found by itself. -/
def answers : List WildPart → List Char → List Bool
  | [], cs => [matchParts [] cs]
  | p :: ps, cs => matchParts (p :: ps) cs :: answers ps cs

@[simp] theorem firstAnswer_answers (ps : List WildPart) (cs : List Char) :
    firstAnswer (answers ps cs) = matchParts ps cs := by
  cases ps <;> rfl

theorem emptyRow_eq_answers (ps : List WildPart) : emptyRow ps = answers ps [] := by
  induction ps with
  | nil => rfl
  | cons p ps ih => cases p <;> simp [emptyRow, answers, matchParts, anySuffix, ih]

theorem stepRow_answers (c : Char) (ps : List WildPart) (cs : List Char) :
    stepRow c ps (answers ps cs) = answers ps (c :: cs) := by
  induction ps with
  | nil => rfl
  | cons p ps ih => cases p <;> simp [stepRow, answers, matchParts, anySuffix, ih]

/-- The row of a text holds the answers that the ends of the parts give. -/
theorem matchRow_eq_answers (ps : List WildPart) (cs : List Char) :
    matchRow ps cs = answers ps cs := by
  induction cs with
  | nil => exact emptyRow_eq_answers ps
  | cons c cs ih =>
    rw [matchRow, List.foldr_cons, ← matchRow, ih, stepRow_answers]

end Wildcard

/-- Whether a name matches a wildcard pattern as a whole. -/
def wildcardMatches (pattern name : String) : Bool :=
  Wildcard.firstAnswer (Wildcard.matchRow (Wildcard.parts pattern.toList) name.toList)

/-- A name matches a pattern exactly when the parts of the pattern match the name. -/
theorem wildcardMatches_eq (pattern name : String) :
    wildcardMatches pattern name =
      Wildcard.matchParts (Wildcard.parts pattern.toList) name.toList := by
  rw [wildcardMatches, Wildcard.matchRow_eq_answers, Wildcard.firstAnswer_answers]

end OptIn.Text
