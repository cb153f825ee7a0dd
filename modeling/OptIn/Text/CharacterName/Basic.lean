import OptIn.Text.Blank

/-!
# Runs of character names

Names of characters are kept in runs: code points that follow one another and whose names begin
alike. `NameRun.find?` gives the code point that a run has for a name.
-/

namespace OptIn.Text

/-- A **run of names**: the names of the code points from `first` on begin with `beginning`, and
their endings stand in order, between commas and on several lines. An empty ending marks a code
point without a name. -/
structure NameRun where
  first : Nat
  beginning : String
  endings : List String
  deriving Repr

/-- The endings of a run in order, one for each code point. -/
def NameRun.all (r : NameRun) : List (List Char) :=
  r.endings.flatMap fun line => pieces (· = ',') line.toList

/-- What is left of a text behind the given beginning. -/
def afterBeginning? : List Char → List Char → Option (List Char)
  | [], cs => some cs
  | _ :: _, [] => none
  | b :: bs, c :: cs => if b = c then afterBeginning? bs cs else none

/-- A text has a rest behind a beginning exactly when it is the beginning and then the rest. -/
theorem afterBeginning?_eq_some {bs cs rest : List Char} :
    afterBeginning? bs cs = some rest ↔ cs = bs ++ rest := by
  induction bs generalizing cs with
  | nil => simp [afterBeginning?]
  | cons b bs ih =>
    cases cs with
    | nil => simp [afterBeginning?]
    | cons c cs =>
      rw [afterBeginning?]
      split
      · next h => simp [ih, h]
      · next h => simp [Ne.symm h]

/-- The code point that a run has for a name. -/
def NameRun.find? (r : NameRun) (name : List Char) : Option Nat :=
  match afterBeginning? r.beginning.toList name with
  | none | some [] => none
  | some ending => (r.all.findIdx? (· = ending)).map (r.first + ·)

end OptIn.Text
