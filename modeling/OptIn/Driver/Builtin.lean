import OptIn.Driver.Basic

/-!
# The drivers that come with the library

Python files with `pylint`, shell scripts with `shellcheck` and YAML files with `yamllint`. Their
patterns are given as trees; `parse_…` says which text writes each.
-/

namespace OptIn

namespace Pattern

/-- Patterns in a row. -/
def row : List Pattern → Pattern
  | [] => .empty
  | [p] => p
  | p :: ps => .seq p (row ps)

/-- The pattern of a given text. -/
def literals (s : String) : List Pattern := s.toList.map .char

/-- Any number of blanks. -/
def blanks : Pattern := .many 0 none .greedy (.set false [.ofClass .space false])

/-- A comment mark at the start of a line, blanks, and a word. -/
def commentWord (word : String) : List Pattern :=
  [.spot .textStart, .char '#', blanks] ++ literals word

/-- A blank, or the end of the line. -/
def wordEnd : Pattern := .alt (.set false [.ofClass .space false]) (.spot .lastLineEnd)

end Pattern

namespace Driver

/-- The mark of Python files. -/
def pythonMark : Pattern := .row (Pattern.commentWord "pylint:")

/-- The lines of Python files that give arguments to the tool. -/
def pythonOptions : Pattern :=
  .row (Pattern.commentWord "pylint-options:" ++
    [.blanks, .capture 1 (.many 0 none .greedy .anyButNewline), .spot .lastLineEnd])

/-- The mark of shell scripts. -/
def shellMark : Pattern := .row (Pattern.commentWord "shellcheck" ++ [.wordEnd])

/-- The mark of YAML files. -/
def yamlMark : Pattern := .row (Pattern.commentWord "yamllint" ++ [.wordEnd])

/-- Python files, also those known by their first line alone. -/
def python : Driver where
  name := "python"
  kind := .python
  tool := "pylint"
  mark := pythonMark
  optionsPattern := some pythonOptions
  suffixes := [".py"]
  sniffKind := some .python
  useCache := true
  configVariable := some "PYLINTRC"
  configFlag := some "--rcfile="

/-- Shell scripts. -/
def shell : Driver where
  name := "shell"
  kind := .shell
  tool := "shellcheck"
  mark := shellMark
  suffixes := [".sh", ".bash"]
  configVariable := some "SHELLCHECK_RC"
  configFlag := some "--rcfile="

/-- YAML files. -/
def yaml : Driver where
  name := "yaml"
  kind := .yaml
  tool := "yamllint"
  mark := yamlMark
  wildcards := ["*.y*ml"]
  configVariable := some "YAMLLINT_CONFIG_FILE"
  configFlag := some "-c"

/-- The drivers that come with the library, in the order in which they run. -/
def builtins : List Driver := [python, shell, yaml]

/-! ### What the patterns are written as -/

theorem eq_ok_of_toOption {ε α : Type} {x : Except ε α} {a : α} (h : x.toOption = some a) :
    x = .ok a := by
  cases x with
  | error e => exact nomatch h
  | ok b => exact congrArg Except.ok (Option.some.inj h)

theorem parse_pythonMark : Pattern.parse "^#\\s*pylint:" = .ok pythonMark :=
  eq_ok_of_toOption (by decide +kernel)

theorem parse_pythonOptions :
    Pattern.parse "^#\\s*pylint-options:\\s*(.*)$" = .ok pythonOptions :=
  eq_ok_of_toOption (by decide +kernel)

theorem parse_shellMark : Pattern.parse "^#\\s*shellcheck(?:\\s|$)" = .ok shellMark :=
  eq_ok_of_toOption (by decide +kernel)

theorem parse_yamlMark : Pattern.parse "^#\\s*yamllint(?:\\s|$)" = .ok yamlMark :=
  eq_ok_of_toOption (by decide +kernel)

end Driver

end OptIn
