import OptIn.Text.Blank

/-!
# Shell-style words

`shellWords` splits a text the way a POSIX shell splits a command line, without expansions and
without comments. Blank, tab, CR and LF separate words; single quotes keep everything, double
quotes keep everything but a backslash in front of a double quote or a backslash; outside quotes a
backslash keeps the next character. A text that ends inside quotes or after an escaping backslash
has no such reading, and `optionWords` then takes the words between blanks.
-/

namespace OptIn.Text

/-- The characters that separate shell words. -/
def isShellBlank (c : Char) : Bool := c = ' ' || c = '\t' || c = '\r' || c = '\n'

/-- Where the reader of shell words stands. A word that has been opened carries what it holds so
far, last character first. -/
inductive ShellState where
  | between
  | plain (word : List Char)
  | escaped (word : List Char)
  | single (word : List Char)
  | double (word : List Char)
  | doubleEscaped (word : List Char)
  deriving DecidableEq, Repr

/-- One character outside quotes, in a word that may be empty but has been opened by it. -/
def openWith (word : List Char) (c : Char) : ShellState :=
  if c = '\x5c' then .escaped word
  else if c = '\x27' then .single word
  else if c = '\x22' then .double word
  else .plain (c :: word)

/-- The words that remain to be read from a text; `none` when it ends inside quotes or after an
escaping backslash. -/
def shellWordsFrom : ShellState → List Char → Option (List (List Char))
  | .between, [] => some []
  | .plain word, [] => some [word.reverse]
  | .escaped _, [] | .single _, [] | .double _, [] | .doubleEscaped _, [] => none
  | .between, c :: cs =>
    if isShellBlank c then shellWordsFrom .between cs else shellWordsFrom (openWith [] c) cs
  | .plain word, c :: cs =>
    if isShellBlank c then (shellWordsFrom .between cs).map (word.reverse :: ·)
    else shellWordsFrom (openWith word c) cs
  | .escaped word, c :: cs => shellWordsFrom (.plain (c :: word)) cs
  | .single word, c :: cs =>
    if c = '\x27' then shellWordsFrom (.plain word) cs else shellWordsFrom (.single (c :: word)) cs
  | .double word, c :: cs =>
    if c = '\x22' then shellWordsFrom (.plain word) cs
    else if c = '\x5c' then shellWordsFrom (.doubleEscaped word) cs
    else shellWordsFrom (.double (c :: word)) cs
  | .doubleEscaped word, c :: cs =>
    if c = '\x22' || c = '\x5c' then shellWordsFrom (.double (c :: word)) cs
    else shellWordsFrom (.double (c :: '\x5c' :: word)) cs

/-- The shell-style words of a text, or `none` when a quote or an escape is left open. -/
def shellWords (cs : List Char) : Option (List (List Char)) := shellWordsFrom .between cs

/-- The arguments written in a text: its shell-style words, or the words between blanks when the
text has no shell-style reading. -/
def optionWords (cs : List Char) : List String :=
  ((shellWords cs).getD (words cs)).map String.ofList

end OptIn.Text
