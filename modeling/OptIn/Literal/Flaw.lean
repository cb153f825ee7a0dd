/-!
# What can be wrong with a literal

The faults of a text that should write a literal value, as causes, with the one function that words
them. Most are faults of its form; the last three are those of an expression that is well formed and
yet no literal.
-/

namespace OptIn.Literal

/-- Why a text writes no literal. -/
inductive Flaw where
  | unreadable
  | indented
  | missingComma
  | missingElse
  | missingParentheses (command : String)
  /-- A name is followed by a sign of assignment. -/
  | assignment
  /-- Something that is no name is followed by a sign of assignment. -/
  | assignmentTo (what : String)
  | argumentAssignment
  | constantAssignment (constant : String)
  | namedExpression (what : String)
  | starred
  | emptyStar
  | doubleStarred
  | missingColon
  | missingValue
  | starredValue
  | lateArgument
  | lateUnpackedArgument
  | unclosed (opening : Char)
  | unmatched (closing : Char)
  /-- A bracket is closed by one of another kind; the line of the first one, if it is another. -/
  | mismatched (closing opening : Char) (line : Option Nat)
  | tooDeep
  | openText (line : Nat)
  | openLongText (line : Nat)
  | badNumber (kind : String)
  | badDigit (digit : Char) (kind : String)
  | leadingZeros
  | overlongNumber (digits : Nat)
  | badCharacter (c : Char)
  | hiddenCharacter (c : Char)
  | embeddedNull
  | strayBackslash
  | mixedTexts
  | wideBytes
  /-- An expression that is no literal. -/
  | computed
  /-- A table that takes in another one. -/
  | spread
  /-- A set or the keys of a table hold a value of this kind, which can change. -/
  | changeable (kind : String)
  deriving DecidableEq, Repr

/-- A code point in capital hexadecimal digits, at least four. -/
def codePointText (c : Char) : String :=
  let digits := (Nat.toDigits 16 c.toNat).map Char.toUpper
  String.ofList (List.replicate (4 - digits.length) '0' ++ digits)

/-- Whether the fault is one of the text's form. -/
def Flaw.isFormal : Flaw → Bool
  | computed | spread | changeable _ => false
  | _ => true

/-- The wording of a flaw. -/
def Flaw.message : Flaw → String
  | unreadable => "invalid syntax"
  | indented => "unexpected indent"
  | missingComma => "invalid syntax. Perhaps you forgot a comma?"
  | missingElse => "expected 'else' after 'if' expression"
  | missingParentheses command =>
    "Missing parentheses in call to '" ++ command ++ "'. Did you mean " ++ command ++ "(...)?"
  | assignment => "invalid syntax. Maybe you meant '==' or ':=' instead of '='?"
  | assignmentTo what =>
    "cannot assign to " ++ what ++ " here. Maybe you meant '==' instead of '='?"
  | argumentAssignment => "expression cannot contain assignment, perhaps you meant \"==\"?"
  | constantAssignment constant => "cannot assign to " ++ constant
  | namedExpression what => "cannot use assignment expressions with " ++ what
  | emptyStar => "Invalid star expression"
  | starred => "cannot use starred expression here"
  | doubleStarred => "cannot use double starred expression here"
  | missingColon => "':' expected after dictionary key"
  | missingValue => "expression expected after dictionary key and ':'"
  | starredValue => "cannot use a starred expression in a dictionary value"
  | lateArgument => "positional argument follows keyword argument"
  | lateUnpackedArgument => "positional argument follows keyword argument unpacking"
  | unclosed opening => "'" ++ opening.toString ++ "' was never closed"
  | unmatched closing => "unmatched '" ++ closing.toString ++ "'"
  | mismatched closing opening line =>
    "closing parenthesis '" ++ closing.toString ++ "' does not match opening parenthesis '" ++
      opening.toString ++ "'" ++
      match line with
      | some n => " on line " ++ toString n
      | none => ""
  | tooDeep => "too many nested parentheses"
  | openText line => "unterminated string literal (detected at line " ++ toString line ++ ")"
  | openLongText line =>
    "unterminated triple-quoted string literal (detected at line " ++ toString line ++ ")"
  | badNumber kind => "invalid " ++ kind ++ " literal"
  | badDigit digit kind => "invalid digit '" ++ digit.toString ++ "' in " ++ kind ++ " literal"
  | leadingZeros =>
    "leading zeros in decimal integer literals are not permitted; " ++
      "use an 0o prefix for octal integers"
  | overlongNumber digits =>
    "Exceeds the limit (4300 digits) for integer string conversion: value has " ++
      toString digits ++ " digits; use sys.set_int_max_str_digits() to increase the limit" ++
      " - Consider hexadecimal for huge integer literals to avoid decimal conversion limits."
  | badCharacter c => "invalid character '" ++ c.toString ++ "' (U+" ++ codePointText c ++ ")"
  | hiddenCharacter c => "invalid non-printable character U+" ++ codePointText c
  | embeddedNull => "source code string cannot contain null bytes"
  | strayBackslash => "unexpected character after line continuation character"
  | mixedTexts => "cannot mix bytes and nonbytes literals"
  | wideBytes => "bytes can only contain ASCII literal characters"
  | computed => "malformed node or string"
  | spread => "malformed node or string: None"
  | changeable kind => "unhashable type: '" ++ kind ++ "'"

end OptIn.Literal
