import OptIn.Text.Quoted

/-!
# What can be wrong with a written pattern

The faults of a pattern's text as causes, with the one function that words them. A problem knows
the character that it was found at; in a pattern of several lines the line and the column are told
as well.
-/

namespace OptIn.Pattern

/-- Why a text is no pattern. -/
inductive Cause where
  | unterminatedGroup
  | unterminatedSet
  | unterminatedComment
  | unterminatedName (closing : String)
  | unbalancedParenthesis
  | nothingToRepeat
  | multipleRepeat
  | reversedRepeat
  | danglingEscape
  | badEscape (text : String)
  | incompleteEscape (text : String)
  | octalOutOfRange (text : String)
  | badRange (low high : String)
  | invalidReference (group : Nat)
  | openReference
  | referenceInsideLookBehind
  | badGroupNumber
  | missing (what : String)
  | badGroupName (name : String)
  | unknownGroupName (name : String)
  | unknownCharacterName (name : String)
  | repeatedGroupName (name : String) (later first : Nat)
  | unknownExtension (text : String)
  | unexpectedEnd
  | tooManyBranches
  | lateFlags
  | unknownFlag
  | badFlags (why : String)
  | looseLookBehind
  | hugeRepeat
  | overlongNumber (digits : Nat)
  deriving DecidableEq, Repr

/-- The wording of a cause. -/
def Cause.message : Cause → String
  | unterminatedGroup => "missing ), unterminated subpattern"
  | unterminatedSet => "unterminated character set"
  | unterminatedComment => "missing ), unterminated comment"
  | unterminatedName closing => "missing " ++ closing ++ ", unterminated name"
  | unbalancedParenthesis => "unbalanced parenthesis"
  | nothingToRepeat => "nothing to repeat"
  | multipleRepeat => "multiple repeat"
  | reversedRepeat => "min repeat greater than max repeat"
  | danglingEscape => "bad escape (end of pattern)"
  | badEscape text => "bad escape " ++ text
  | incompleteEscape text => "incomplete escape " ++ text
  | octalOutOfRange text => "octal escape value " ++ text ++ " outside of range 0-0o377"
  | badRange low high => "bad character range " ++ low ++ "-" ++ high
  | invalidReference group => "invalid group reference " ++ toString group
  | openReference => "cannot refer to an open group"
  | referenceInsideLookBehind =>
    "cannot refer to group defined in the same lookbehind subpattern"
  | badGroupNumber => "bad group number"
  | missing what => "missing " ++ what
  | badGroupName name => "bad character in group name " ++ Text.quoted name
  | unknownGroupName name => "unknown group name " ++ Text.quoted name
  | unknownCharacterName name => "undefined character name " ++ Text.quoted name
  | repeatedGroupName name later first =>
    "redefinition of group name " ++ Text.quoted name ++ " as group " ++ toString later ++
      "; was group " ++ toString first
  | unknownExtension text => "unknown extension ?" ++ text
  | unexpectedEnd => "unexpected end of pattern"
  | tooManyBranches => "conditional backref with more than two branches"
  | lateFlags => "global flags not at the start of the expression"
  | unknownFlag => "unknown flag"
  | badFlags why => "bad inline flags: " ++ why
  | looseLookBehind => "look-behind requires fixed-width pattern"
  | hugeRepeat => "the repetition number is too large"
  | overlongNumber digits =>
    "Exceeds the limit (4300 digits) for integer string conversion: value has " ++
      toString digits ++ " digits; use sys.set_int_max_str_digits() to increase the limit"

/-- A **problem** is a cause and the index of the character where it was noticed, if it belongs to
one. -/
structure Problem where
  cause : Cause
  position : Option Nat
  deriving DecidableEq, Repr

/-- The wording of a problem in a given pattern. -/
def Problem.message (p : Problem) (source : String) : String :=
  match p.position with
  | none => p.cause.message
  | some i =>
    let seen := source.toList.take i
    let text := p.cause.message ++ " at position " ++ toString i
    if source.toList.contains '\n' then
      let column := (seen.reverse.takeWhile (· ≠ '\n')).length + 1
      text ++ " (line " ++ toString (seen.count '\n' + 1) ++ ", column " ++ toString column ++ ")"
    else text

end OptIn.Pattern
