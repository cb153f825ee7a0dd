import OptIn.Literal.Flaw
import OptIn.Text.DecimalDigit
import OptIn.Text.Identifier
import OptIn.Text.Quoted

/-!
# The tokens of an expression

`tokens` cuts a text into names, numbers, quoted texts and signs. Blanks, comments and, inside of
brackets, ends of lines only separate them. The last token tells how the text ends: it is `finish`,
or `broken` with the flaw at which the cutting stopped.
-/

namespace OptIn.Literal

/-- A **token** of an expression. -/
inductive Token where
  | name (text : String)
  | number (imaginary : Bool) (flaw : Option Flaw)
  /-- A quoted text: whether it is one of bytes, whether it holds expressions, and what is wrong
  with its content. -/
  | quoted (bytes formatted : Bool) (flaw : Option Flaw)
  | sign (text : String)
  | lineEnd
  /-- Blanks at the beginning of a line that is not the first one. -/
  | indent
  | finish
  | broken (flaw : Flaw)
  deriving DecidableEq, Repr

/-! ### Numbers -/

/-- Whether a character continues a name; beyond ASCII that is settled later. -/
def continuesName (c : Char) : Bool := c.isAlphanum || c = '_' || 128 ≤ c.toNat

/-- Whether a character starts a name. -/
def startsName (c : Char) : Bool := continuesName c && !c.isDigit

/-- Whether one of the words that may follow a number without a blank stands next. -/
def isWordBehindNumber (cs : List Char) : Bool :=
  ["if", "in", "is"].any (fun w => w.toList.isPrefixOf cs) ||
    ["and", "else", "for", "or", "not"].any fun w =>
      w.toList.isPrefixOf cs && !(cs.drop w.length).head?.any continuesName

/-- The rest of a text behind a number of some kind, unless a letter or digit of ASCII stands there.
-/
def endNumber (kind : String) (cs : List Char) : Except Flaw (List Char) :=
  if cs.head?.any (fun c => continuesName c && c.toNat < 128) && !isWordBehindNumber cs then
    .error (.badNumber kind)
  else .ok cs

/-- The rest of a text behind digits with single underscores between them; the first one has been
taken. -/
def dropDigits : List Char → Except Flaw (List Char)
  | [] => .ok []
  | '_' :: cs =>
    match cs with
    | d :: rest => if d.isDigit then dropDigits rest else .error (.badNumber "decimal")
    | [] => .error (.badNumber "decimal")
  | c :: cs => if c.isDigit then dropDigits cs else .ok (c :: cs)

/-- The rest of a text behind digits of another base, each perhaps behind one underscore; at least
one of them is there. -/
def dropBaseDigits (kind : String) (isDigit : Char → Bool) (first : Bool) :
    List Char → Except Flaw (List Char)
  | [] => if first then .error (.badNumber kind) else .ok []
  | '_' :: cs =>
    match cs with
    | d :: rest =>
      if isDigit d then dropBaseDigits kind isDigit false rest
      else if d.isDigit then .error (.badDigit d kind)
      else .error (.badNumber kind)
    | [] => .error (.badNumber kind)
  | c :: cs =>
    if isDigit c then dropBaseDigits kind isDigit false cs
    else if c.isDigit then .error (.badDigit c kind)
    else if first then .error (.badNumber kind)
    else .ok (c :: cs)

/-- Whether a character is a hexadecimal digit. -/
def isHexDigit (c : Char) : Bool :=
  c.isDigit || ('a' ≤ c && c ≤ 'f') || ('A' ≤ c && c ≤ 'F')

/-- The end of a number with or without the mark of an imaginary one. -/
def endDecimal (flaw : Option Flaw) : List Char → Except Flaw (Token × List Char)
  | c :: cs => do
    if c = 'j' || c = 'J' then
      let rest ← endNumber "imaginary" cs
      return (.number true none, rest)
    let rest ← endNumber "decimal" (c :: cs)
    return (.number false flaw, rest)
  | [] => .ok (.number false flaw, [])

/-- A number whose digits and point have been taken: the exponent, if there is one, and the end. -/
def endFraction (flaw : Option Flaw) (cs : List Char) : Except Flaw (Token × List Char) :=
  match cs with
  | e :: rest =>
    if e = 'e' || e = 'E' then
      match rest with
      | d :: more =>
        if d.isDigit then do endDecimal none (← dropDigits more)
        else if d = '+' || d = '-' then
          match more with
          | d :: more =>
            if d.isDigit then do endDecimal none (← dropDigits more)
            else .error (.badNumber "decimal")
          | [] => .error (.badNumber "decimal")
        else do return (.number false flaw, ← endNumber "decimal" cs)
      | [] => do return (.number false flaw, ← endNumber "decimal" cs)
    else endDecimal flaw cs
  | [] => endDecimal flaw cs

/-- A number behind its point. -/
def afterPoint (cs : List Char) : Except Flaw (Token × List Char) :=
  match cs with
  | d :: rest => if d.isDigit then do endFraction none (← dropDigits rest) else endFraction none cs
  | [] => endFraction none cs

/-- A decimal number; the text begins with a digit. -/
def decimalToken (cs : List Char) : Except Flaw (Token × List Char) := do
  let rest ← dropDigits cs
  let digits := (cs.take (cs.length - rest.length)).filter (· ≠ '_')
  match rest with
  | '.' :: more => afterPoint more
  | _ =>
    let mark := rest.head?.any fun c => c = 'e' || c = 'E' || c = 'j' || c = 'J'
    if digits.head? = some '0' && !digits.all (· = '0') && !mark then throw .leadingZeros
    endFraction (if Text.digitLimit < digits.length then some (.overlongNumber digits.length)
      else none) rest

/-- A number; the text begins with a digit. -/
def numberToken (cs : List Char) : Except Flaw (Token × List Char) :=
  let based (kind : String) (isDigit : Char → Bool) (rest : List Char) := do
    let rest ← dropBaseDigits kind isDigit true rest
    return (Token.number false none, ← endNumber kind rest)
  match cs with
  | '0' :: mark :: rest =>
    if mark = 'x' || mark = 'X' then based "hexadecimal" isHexDigit rest
    else if mark = 'o' || mark = 'O' then based "octal" (fun c => '0' ≤ c && c ≤ '7') rest
    else if mark = 'b' || mark = 'B' then based "binary" (fun c => c = '0' || c = '1') rest
    else decimalToken cs
  | _ => decimalToken cs

/-! ### Quoted texts -/

/-- The content of a quoted text up to its closing quotes, of which `size` are needed and `met` were
just met, and the rest behind them; `none` if they are missing. A short text ends at the end of its
line. -/
def quotedBody? (quote : Char) (size : Nat) : Nat → List Char → Option (List Char × List Char)
  | _, [] => none
  | _, '\x5c' :: c :: cs =>
    (quotedBody? quote size 0 cs).map fun (body, rest) => ('\x5c' :: c :: body, rest)
  | met, c :: cs =>
    if c = quote then
      if met + 1 = size then some ([c], cs)
      else (quotedBody? quote size (met + 1) cs).map fun (body, rest) => (c :: body, rest)
    else if c = '\n' && size = 1 then none
    else (quotedBody? quote size 0 cs).map fun (body, rest) => (c :: body, rest)

/-- The lines that a text goes over. -/
def lineCount (cs : List Char) : Nat := cs.count '\n'

/-- A quoted text behind its prefix; the number of its lines but one, and the rest. -/
def quotedToken (letters : List Char) (line : Nat) (quote : Char) (cs : List Char) :
    Except Flaw (Token × Nat × List Char) :=
  let has (c : Char) := letters.any fun l => l.toLower = c
  let done (body rest : List Char) :=
    let flaw := if has 'b' && body.any (128 ≤ ·.toNat) then some Flaw.wideBytes else none
    Except.ok (Token.quoted (has 'b') (has 'f') flaw, lineCount body, rest)
  match cs with
  | a :: b :: rest =>
    if a = quote && b = quote then
      match quotedBody? quote 3 0 rest with
      | some (body, rest) => done body rest
      | none => .error (.openLongText (line + lineCount rest))
    else if a = quote then done [] (b :: rest)
    else
      match quotedBody? quote 1 0 cs with
      | some (body, rest) => done body rest
      | none => .error (.openText line)
  | _ =>
    match quotedBody? quote 1 0 cs with
    | some (body, rest) => done body rest
    | none => .error (.openText line)

/-- Whether letters can stand before a quoted text. -/
def isQuotePrefix (letters : List Char) : Bool :=
  ["", "b", "r", "u", "f", "br", "rb", "fr", "rf"].contains
    (String.ofList (letters.map Char.toLower))

/-! ### Signs -/

/-- The signs of several characters, longest first. -/
def longSigns : List String := [
  "**=", "//=", ">>=", "<<=", "...", "!=", "%=", "&=", "**", "*=", "+=", "-=", "->", "//", "/=",
  ":=", "<<", "<=", "<>", "==", ">=", ">>", "@=", "^=", "|="]

/-- The sign at the beginning of a text. -/
def signAt (c : Char) (cs : List Char) : String :=
  (longSigns.find? fun s => s.toList.isPrefixOf (c :: cs)).getD c.toString

/-- The bracket that closes another one. -/
def closingOf : Char → Char
  | '(' => ')'
  | '[' => ']'
  | _ => '\x7d'

/-- How deep brackets may be nested. -/
def depthLimit : Nat := 200

/-! ### Cutting -/

/-- The first character of a name that does not belong there. -/
def badInName? : List Char → Option Char
  | [] => none
  | c :: cs => if Text.isInitial c || c = '_' then cs.find? fun d => !Text.isMedial d else some c

/-- The flaw of a character that stands where it should not. -/
def strayFlaw (c : Char) : Flaw :=
  if Text.isPrintable c then .badCharacter c else .hiddenCharacter c

/-- Whether a character is a blank between tokens. -/
def isGap (c : Char) : Bool := c = ' ' || c = '\t' || c = '\x0c'

/-- Whether a line begins with blanks and goes on with something else than a comment. -/
def isIndented (cs : List Char) : Bool :=
  cs.head?.any isGap && (cs.dropWhile isGap).head?.any fun c => c ≠ '\n' && c ≠ '#'

/-- The tokens of a text, cut in so many steps, on a line and inside of brackets that were opened on
their lines. -/
def tokensFrom : Nat → Nat → List (Char × Nat) → List Char → List Token
  | 0, _, _, _ => [.finish]
  | _ + 1, _, opened, [] =>
    match opened with
    | (opening, _) :: _ => [.broken (.unclosed opening)]
    | [] => [.finish]
  | steps + 1, line, opened, c :: cs =>
    if isGap c then tokensFrom steps line opened cs
    else if c = '\n' then
      let rest := tokensFrom steps (line + 1) opened cs
      if !opened.isEmpty then rest
      else if isIndented cs then .lineEnd :: .indent :: rest
      else .lineEnd :: rest
    else if c = '#' then tokensFrom steps line opened (cs.dropWhile (· ≠ '\n'))
    else if c = '\x5c' then
      match cs with
      | '\n' :: rest => tokensFrom steps (line + 1) opened rest
      | _ => [.broken .strayBackslash]
    else if c.isDigit || (c = '.' && cs.head?.any Char.isDigit) then
      match if c = '.' then afterPoint cs else numberToken (c :: cs) with
      | .ok (token, rest) => token :: tokensFrom steps line opened rest
      | .error flaw => [.broken flaw]
    else if startsName c || c = '"' || c = '\'' then
      let letters := (c :: cs).takeWhile continuesName
      match (c :: cs).drop letters.length with
      | quote :: rest =>
        if (quote = '"' || quote = '\'') && isQuotePrefix letters then
          match quotedToken letters line quote rest with
          | .ok (token, lines, rest) => token :: tokensFrom steps (line + lines) opened rest
          | .error flaw => [.broken flaw]
        else
          match badInName? letters with
          | some bad => [.broken (strayFlaw bad)]
          | none => .name (String.ofList letters) :: tokensFrom steps line opened (quote :: rest)
      | [] =>
        match badInName? letters with
        | some bad => [.broken (strayFlaw bad)]
        | none => .name (String.ofList letters) :: tokensFrom steps line opened []
    else if c = '(' || c = '[' || c = '\x7b' then
      if depthLimit ≤ opened.length then [.broken .tooDeep]
      else .sign c.toString :: tokensFrom steps line ((c, line) :: opened) cs
    else if c = ')' || c = ']' || c = '\x7d' then
      match opened with
      | [] => [.broken (.unmatched c)]
      | (opening, since) :: outer =>
        if closingOf opening = c then .sign c.toString :: tokensFrom steps line outer cs
        else [.broken (.mismatched c opening (if since = line then none else some since))]
    else if !Text.isPrintable c then [.broken (.hiddenCharacter c)]
    else
      let s := signAt c cs
      .sign s :: tokensFrom steps line opened (cs.drop (s.length - 1))

/-- A text with every end of a line written as a line feed. -/
def unifyLineEnds : List Char → List Char
  | [] => []
  | '\r' :: '\n' :: cs => '\n' :: unifyLineEnds cs
  | '\r' :: cs => '\n' :: unifyLineEnds cs
  | c :: cs => c :: unifyLineEnds cs

/-- The **tokens** of a text. -/
def tokens (cs : List Char) : List Token :=
  if cs.contains '\x00' then [.broken .embeddedNull]
  else tokensFrom (cs.length + 1) 1 [] (unifyLineEnds cs)

/-- The flaw at which the cutting of tokens stopped, an open bracket at the end and a stray
backslash aside. -/
def cuttingFlaw? (ts : List Token) : Option Flaw :=
  match ts.getLast? with
  | some (.broken (.unclosed _)) | some (.broken .strayBackslash) => none
  | some (.broken flaw) => some flaw
  | _ => none

end OptIn.Literal
