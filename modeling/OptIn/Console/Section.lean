import OptIn.Console.Markup

/-!
# Section headers

A header sets what follows apart. Without colour it is a line with the title between dashes, which
is read as marked-up text; with colour it is a rule across the console with the title in its middle.
-/

namespace OptIn.Console

/-- The width of the console in cells. -/
def width : Nat := 80

/-- The cells that a rule keeps for itself on both sides of its title. -/
def ruleMargin : Nat := 4

/-- The characters of a text up to a number of cells. -/
def takeCells : Nat → List Char → List Char
  | _, [] => []
  | room, c :: cs =>
    let w := Text.charWidth c
    if w ≤ room then c :: takeCells (room - w) cs else []

/-- A title cut to a number of cells, the last of them an ellipsis if something is missing. Where
half of a wide character would be left there is a blank. -/
def shorten (room : Nat) (title : List Char) : List Char :=
  if Text.cellWidth title ≤ room then title
  else
    let kept := takeCells (room - 1) title
    kept ++ List.replicate (room - 1 - Text.cellWidth kept) ' ' ++ ['\u2026']

/-- A line of so many cells. -/
def dashes (n : Nat) : List Char := List.replicate n '\u2500'

/-- The title of a rule on one line. -/
def ruleTitle (title : List Char) : List Char :=
  shorten (width - ruleMargin)
    (linePieces (title.map fun c => if c = '\n' then ' ' else c)).flatten

/-- A rule across the console. -/
def plainRule : List Char := Style.brightGreen.wrap (dashes width) ++ ['\n']

/-- A rule across the console with a title. -/
def rule (title : List Char) : List Char :=
  let t := ruleTitle title
  let w := Text.cellWidth t
  let side := (width - w) / 2
  let left := dashes (side - 1) ++ [' ']
  let right := ' ' :: dashes (width - side - w - 1)
  Style.brightGreen.wrap left ++ t ++ Style.brightGreen.wrap right ++ ['\n']

/-- A section header as it is printed. -/
def sectionHeader (color : Bool) (title : String) : Except Fault String := do
  if color then
    if title.isEmpty then return String.ofList ('\n' :: plainRule)
    else return String.ofList ('\n' :: rule (← plainText title).toList)
  else
    let t ← plainText ("\n--- " ++ title ++ " ---")
    return message none t

end OptIn.Console
