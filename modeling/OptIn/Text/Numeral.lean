import OptIn.Text.Blank

/-!
# Whole numbers in fields

A field for a whole number takes a text as well. A plain numeral is an optional minus and digits
without a zero in front. Other texts are made plain first: white space around them, one plus in
front, a point with zeros behind it, zeros in front and single underscores between digits are taken
away.
-/

namespace OptIn.Text

/-- Why a text writes no whole number. -/
inductive NumeralFlaw where
  | unread
  /-- There are too many digits. -/
  | oversized
  deriving DecidableEq, Repr

/-- How long a numeral may be, its sign included. -/
def numeralLimit : Nat := 4300

/-- Whether a character is a digit, but not zero. -/
def isNonzeroDigit (c : Char) : Bool := c.isDigit && c ≠ '0'

/-- The value of a plain numeral without a sign. -/
def plainNatural? (cs : List Char) : Option Nat :=
  match cs with
  | ['0'] => some 0
  | c :: ds =>
    if isNonzeroDigit c && ds.all Char.isDigit then
      some (cs.foldl (fun n d => n * 10 + (d.toNat - 48)) 0)
    else none
  | [] => none

/-- The value of a plain numeral. -/
def plain? (cs : List Char) : Option Int :=
  if numeralLimit < cs.length then none
  else
    match cs with
    | '-' :: ds => (plainNatural? ds).map fun n => -(n : Int)
    | ds => (plainNatural? ds).map Int.ofNat

/-- Whether a text begins with a plain numeral that is too long. -/
def isOversized (cs : List Char) : Bool :=
  let sign := cs.takeWhile (· = '-')
  let digits := (cs.dropWhile (· = '-')).takeWhile Char.isDigit
  sign.length ≤ 1 && digits.head?.any isNonzeroDigit && numeralLimit < sign.length + digits.length

/-- A text without a point and at least one zero at its end. -/
def dropZeroPlaces (cs : List Char) : List Char :=
  let before := cs.takeWhile (· ≠ '.')
  match cs.dropWhile (· ≠ '.') with
  | '.' :: z :: zs => if (z :: zs).all (· = '0') then before else cs
  | _ => cs

/-- A text from its first nonzero digit on. Only zeros and underscores may stand before that digit,
or before a minus in its place; of zeros alone the last one stays. -/
def fromNonzero? : List Char → Option (List Char)
  | [] => none
  | [c] => if c = '0' || c = '_' || c = '-' || isNonzeroDigit c then some [c] else none
  | c :: cs =>
    if isNonzeroDigit c || c = '-' then some (c :: cs)
    else if c = '0' || c = '_' then fromNonzero? cs
    else none

/-- A text without the zeros in front, where it begins like a number. -/
def dropLeadingZeros? (cs : List Char) : Option (List Char) :=
  if cs.head? = some '_' then none else fromNonzero? cs

/-- A text without its underscores, each of which stands between other characters. -/
def dropUnderscores? (cs : List Char) : Option (List Char) :=
  if (pieces (· = '_') cs).any (·.isEmpty) then none else some (cs.filter (· ≠ '_'))

/-- A text made plain. -/
def madePlain? (cs : List Char) : Option (List Char) := do
  let body := trimRightBy isWhiteSpace (cs.dropWhile isWhiteSpace)
  let body ← match body with
    | '+' :: '-' :: _ => none
    | '+' :: rest => some rest
    | rest => some rest
  let body ← match dropZeroPlaces body with
    | '-' :: rest => (dropLeadingZeros? rest).map ('-' :: ·)
    | rest => dropLeadingZeros? rest
  if body.contains '_' then dropUnderscores? body else return body

/-- The whole number that a text writes. -/
def wholeNumber (cs : List Char) : Except NumeralFlaw Int :=
  match plain? cs with
  | some n => .ok n
  | none =>
    if isOversized cs then .error .oversized
    else
      match madePlain? cs >>= plain? with
      | some n => .ok n
      | none => .error .unread

/-- A plain numeral is read as it stands. -/
theorem wholeNumber_of_plain? {cs : List Char} {n : Int} (h : plain? cs = some n) :
    wholeNumber cs = .ok n := by
  rw [wholeNumber, h]

end OptIn.Text
