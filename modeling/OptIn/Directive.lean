import OptIn.Pattern.Match
import OptIn.Text.Lines
import OptIn.Text.ShellWords

/-!
# Directives in file headers

A file asks for its linter in its header: the lines before the first one that is blank or holds
only a comment mark. `Directive.scan` reads the lines of a header once, from the top, and tells
whether one of them carries the driver's mark, and which arguments the header gives to the tool.
What stands below the header has no say.
-/

namespace OptIn

/-- What a header says about linting. -/
inductive DirectiveState where
  | absent
  | present
  | presentWithOptions
  deriving DecidableEq, Repr

/-- The name of a state. -/
def DirectiveState.name : DirectiveState → String
  | absent => "absent"
  | present => "present"
  | presentWithOptions => "present-with-options"

/-- What a header asks for. -/
structure Directive where
  state : DirectiveState := .absent
  options : List String := []
  deriving DecidableEq, Repr

/-- Whether a directive asks for linting. -/
def Directive.enabled (d : Directive) : Bool := d.state ≠ .absent

/-- Whether a line ends the header: it is blank, or a comment mark stands alone on it. -/
def isHeaderBoundary (line : List Char) : Bool :=
  let t := Text.trim line
  t = [] || t = ['#']

/-- A line without the newline characters at its end. -/
def withoutNewline (line : List Char) : List Char :=
  Text.trimRightBy (fun c => c = '\r' || c = '\n') line

/-- The **header** of a sequence of lines: those before the first boundary. -/
def headerLines (lines : List (List Char)) : List (List Char) :=
  (lines.map withoutNewline).takeWhile fun l => !isHeaderBoundary l

namespace Directive

/-- The arguments that a line gives to the tool, if it matches the options pattern: those written
in the first group, none if that group took no part. -/
def optionsOn (pattern : Pattern) (line : List Char) : Option (List String) :=
  (pattern.matchLine? line).map fun c => Text.optionWords ((c.captured? 1).getD [])

/-- What has been found in the lines read so far. -/
structure Findings where
  enabled : Bool := false
  sawOptions : Bool := false
  options : List String := []
  deriving DecidableEq, Repr

/-- Reads the lines of a header. Without an options pattern the first mark settles the matter; with
one, a line that gives options is not looked at for the mark. -/
def readLines (mark : Pattern) (options : Option Pattern) :
    Findings → List (List Char) → Findings
  | f, [] => f
  | f, line :: rest =>
    match options.bind (optionsOn · line) with
    | some found =>
      readLines mark options { f with sawOptions := true, options := f.options ++ found } rest
    | none =>
      if mark.matchesLine line then
        if options.isNone then { f with enabled := true }
        else readLines mark options { f with enabled := true } rest
      else readLines mark options f rest

/-- The directive that findings amount to. -/
def ofFindings (f : Findings) : Directive :=
  if f.sawOptions then ⟨.presentWithOptions, f.options⟩
  else if f.enabled then ⟨.present, []⟩
  else {}

/-- The directive in the header of some lines. -/
def scanLines (mark : Pattern) (options : Option Pattern) (lines : List (List Char)) : Directive :=
  ofFindings (readLines mark options {} (headerLines lines))

/-- The directive in the header of a text. -/
def scanText (mark : Pattern) (options : Option Pattern) (text : String) : Directive :=
  scanLines mark options (Text.splitLines text.toList)

/-- The directive in the header of a file's text, whichever newline convention it uses. -/
def scanFileText (mark : Pattern) (options : Option Pattern) (cs : List Char) : Directive :=
  scanLines mark options (Text.fileLines cs)

end Directive

end OptIn
