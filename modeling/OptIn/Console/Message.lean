import OptIn.Text.Blank
import OptIn.Text.CellWidth

/-!
# Messages on a console

How a text is printed: some control characters are dropped, a tab goes on to the next multiple of
eight cells, and each line ends with a line feed. A styled span is put between escape sequences,
which are cut at the ends of lines and behind expanded tabs; nothing else about the text depends on
its style.
-/

namespace OptIn.Console

/-- The styles in use. -/
inductive Style where
  | red
  | green
  | yellow
  | cyan
  | boldRed
  | dim
  | brightGreen
  deriving DecidableEq, Repr

/-- The code of a style in escape sequences. -/
def Style.code : Style → String
  | red => "31"
  | green => "32"
  | yellow => "33"
  | cyan => "36"
  | boldRed => "1;31"
  | dim => "2"
  | brightGreen => "92"

/-- The characters in style; nothing if there are none. -/
def Style.wrap (s : Style) (cs : List Char) : List Char :=
  if cs.isEmpty then []
  else '\x1b' :: '[' :: s.code.toList ++ 'm' :: cs ++ "\x1b[0m".toList

/-- The characters in a style, if there is one. -/
def wrapIf : Option Style → List Char → List Char
  | none, cs => cs
  | some s, cs => s.wrap cs

/-- The control characters that are not printed: bell, backspace, vertical tab, form feed and
carriage return. -/
def isDropped (c : Char) : Bool := [7, 8, 11, 12, 13].contains c.toNat

/-- The characters of a text that are printed. -/
def shown (s : String) : List Char := s.toList.filter fun c => !isDropped c

/-- The distance between tab stops in cells. -/
def tabSize : Nat := 8

/-- The pieces of a line that ended at tabs, each but the last filled up to a tab stop; the first
argument is the cell at which the first piece starts. -/
def fillTabs : Nat → List (List Char) → List (List Char)
  | _, [] => []
  | _, [last] => [last]
  | cell, p :: rest =>
    let reached := cell + Text.cellWidth (p ++ [' '])
    let pad := (tabSize - reached % tabSize) % tabSize
    (p ++ [' '] ++ List.replicate pad ' ') :: fillTabs (reached + pad) rest

/-- The pieces of a line, cut behind expanded tabs. -/
def linePieces (line : List Char) : List (List Char) :=
  fillTabs 0 (Text.pieces (· = '\t') line)

/-- A line as it is printed. -/
def printedLine (style : Option Style) (line : List Char) : List Char :=
  (linePieces line).flatMap (wrapIf style) ++ ['\n']

/-- A line as it is printed with only its first `n` characters in style; there is no tab among
them. -/
def printedLabelled (style : Option Style) (n : Nat) (line : List Char) : List Char :=
  match linePieces line with
  | [] => ['\n']
  | p :: ps => wrapIf style (p.take n) ++ p.drop n ++ ps.flatten ++ ['\n']

/-- A text as it is printed, all of it in one style. -/
def message (style : Option Style) (s : String) : String :=
  String.ofList ((Text.pieces (· = '\n') (shown s)).flatMap (printedLine style))

/-- A label and a text as they are printed, the label in a style. -/
def labelled (style : Option Style) (label value : String) : String :=
  String.ofList <| match Text.pieces (· = '\n') (shown (label ++ " " ++ value)) with
    | [] => []
    | first :: rest =>
      printedLabelled style label.length first ++ rest.flatMap (printedLine none)

/-- The tones of a message. -/
inductive Tone where
  | info
  | success
  | warning
  | failure
  deriving DecidableEq, Repr

/-- The style of a tone. -/
def Tone.style : Tone → Style
  | info => .cyan
  | success => .green
  | warning => .yellow
  | failure => .red

/-- The emblem of a tone. -/
def Tone.emblem : Tone → String
  | info => "\u2139\ufe0f "
  | success => "\u2705 "
  | warning => "\u26a0\ufe0f "
  | failure => "\u274c "

/-- A message as it is printed in a tone. -/
def spoken (tone : Tone) (emoji color : Bool) (s : String) : String :=
  message (if color then some tone.style else none) ((if emoji then tone.emblem else "") ++ s)

end OptIn.Console
