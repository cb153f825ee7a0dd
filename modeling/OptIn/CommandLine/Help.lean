import OptIn.CommandLine.Options

/-!
# Help texts

What the program says about a command: how it is called, what it does, and what its arguments and
options are, each in a framed table with columns as wide as their entries need.
-/

namespace OptIn.CommandLine

/-- A text in the style of a code. -/
def inked (code s : String) : String := "\x1b[" ++ code ++ "m" ++ s ++ "\x1b[0m"

/-- The width of a help text in cells. -/
def helpWidth : Nat := 80

/-- So many blanks. -/
def blank (n : Nat) : String := String.ofList (List.replicate n ' ')

/-- A text filled up with blanks. -/
def padTo (n : Nat) (s : String) : String := s ++ blank (n - s.length)

/-- Words put into lines of a given width; `line` is the line that is being filled. -/
def fillLines (width : Nat) (line : String) : List String → List String
  | [] => [line]
  | w :: ws =>
    if line.isEmpty then fillLines width w ws
    else if line.length + 1 + w.length ≤ width then fillLines width (line ++ " " ++ w) ws
    else line :: fillLines width w ws

/-- A text in lines of a given width, cut between words. -/
def wrapWords (width : Nat) (s : String) : List String :=
  fillLines width "" ((Text.words s.toList).map String.ofList)

namespace Command

/-- What a command does. -/
def summary : Command → String
  | all => "Run every driver over the files git lists and exit with the highest status."
  | one d =>
    match d.kind with
    | .python =>
      "Run pylint on Python files whose header carries a \x60\x60# pylint:\x60\x60 directive."
    | .shell =>
      "Run shellcheck on shell scripts whose header carries a " ++
        "\x60\x60# shellcheck\x60\x60 directive."
    | .yaml =>
      "Run yamllint on YAML files whose header carries a \x60\x60# yamllint\x60\x60 directive."

/-- How a command is called. -/
def usage (c : Command) : String :=
  "optlint " ++ c.name ++ " [OPTIONS]" ++ (if c.takesPaths then " [paths]..." else "")

end Command

/-- What an option's value is called. -/
def Takes.kindName : Takes → String
  | nothing => "bool"
  | path => "path"
  | texts => "list[str]"

/-- The kind of a value between angle brackets. -/
def inkedKind (s : String) : String := inked "1;2;33" "<" ++ inked "1;33" s ++ inked "1;2;33" ">"

/-- The name of a long option, its hyphens apart from its words. -/
def inkedLong (long : String) : String :=
  let words := (Text.pieces (· = '-') (long.toList.drop 2)).map String.ofList
  inked "1;36" "-" ++ String.join (words.map fun w => inked "1;36" ("-" ++ w))

/-- A row of a framed table: the start of its first line with its width, and the lines of its last
column. -/
def tableRow (start : String) (startWidth : Nat) (lines : List String) : List String :=
  let room := helpWidth - startWidth - 2
  let framed (front s : String) :=
    inked "2" "│" ++ front ++ padTo room s ++ " " ++ inked "2" "│"
  match lines with
  | [] => []
  | l :: ls => framed start l :: ls.map (framed (blank (startWidth - 1)))

/-- A framed table with a title. -/
def framedTable (title : String) (rows : List String) : List String :=
  let line (n : Nat) := String.ofList (List.replicate n '\u2500')
  let top := inked "2" "╭─" ++ inked "2" (" " ++ title ++ " ") ++
    inked "2" (line (helpWidth - title.length - 6)) ++ inked "2" "─╮"
  top :: rows ++ [inked "2" ("╰" ++ line (helpWidth - 2) ++ "╯")]

/-- What is said about the paths that a command takes. -/
def pathsHelp : String := "Files to consider; read from stdin or git when omitted."

/-- The table of positional arguments. -/
def argumentTable : List String :=
  let kind := "list[Path]"
  let start := blank 3 ++ "paths..." ++ blank 6 ++ inkedKind kind ++ blank 2
  let width := 3 + 8 + 6 + (kind.length + 2) + 2 + 1
  framedTable "Arguments" (tableRow start width (wrapWords (helpWidth - width - 2) pathsHelp))

/-- The table of options. -/
def optionTable (options : List OptionSpec) : List String :=
  let widest (f : OptionSpec → Nat) := (options.map f).max?.getD 0
  let long := widest (·.long.length)
  let kind := widest (·.takes.kindName.length) + 2
  let width := 1 + 1 + long + 2 + 2 + 6 + kind + 2
  framedTable "Options" <| options.flatMap fun o =>
    let short := match o.short with
      | some c => inked "1;32" ("-" ++ String.singleton c)
      | none => blank 2
    let start := " " ++ inkedLong o.long ++ blank (long - o.long.length + 2) ++ short ++ blank 6 ++
      inkedKind o.takes.kindName ++ blank (kind - o.takes.kindName.length - 2 + 2)
    tableRow start width (wrapWords (helpWidth - width - 2) o.help)

/-- The head of a help text: how the program is called, between two empty lines. -/
def usageBlock (usage : String) : List String :=
  let label := "Usage: "
  let room := helpWidth - 2 - label.length - usage.length
  let empty := inked "1" (blank helpWidth)
  [empty,
    inked "1" " " ++ inked "1;33" label ++ inked "1" usage ++ inked "1" (blank room) ++
      inked "1" " ",
    empty]

/-- The help text of a command. -/
def commandHelp (c : Command) : String :=
  let described := (wrapWords (helpWidth - 2) c.summary).map fun l => padTo helpWidth (" " ++ l)
  let lines := usageBlock c.usage ++ described ++ [blank helpWidth] ++
    (if c.takesPaths then argumentTable else []) ++ optionTable c.options ++ [""]
  "\n".intercalate lines ++ "\n"

/-- What the program is for. -/
def programSummary : String :=
  "Opt-in lint harness: runs pylint, shellcheck, and yamllint on files that ask for it."

/-- The table of commands. -/
def commandTable : List String :=
  let widest := ((Command.named.map (·.1.length)).max?).getD 0
  let width := 1 + 1 + widest + 2
  framedTable "Commands" <| Command.named.flatMap fun (name, c) =>
    let start := " " ++ inked "1;36" name ++ blank (widest - name.length + 2)
    tableRow start width (wrapWords (helpWidth - width - 2) c.summary)

/-- The help text of the program. -/
def programHelp : String :=
  let described :=
    (wrapWords (helpWidth - 2) programSummary).map fun l => padTo helpWidth (" " ++ l)
  let lines := usageBlock "optlint [OPTIONS] COMMAND [ARGS]..." ++ described ++ [blank helpWidth] ++
    optionTable frontOptions ++ commandTable ++ [""]
  "\n".intercalate lines ++ "\n"

end OptIn.CommandLine
