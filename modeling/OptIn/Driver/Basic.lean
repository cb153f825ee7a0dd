import OptIn.Directive
import OptIn.Fault
import OptIn.Path
import OptIn.Pattern.Parser
import OptIn.Text.Wildcard

/-!
# Drivers

A driver joins a kind of file with the tool that lints it: which files it considers by name, the
mark by which a file asks for it, and how the tool is told about its configuration.
-/

namespace OptIn

/-- The families of files. -/
inductive LinterKind where
  | python
  | shell
  | yaml
  deriving DecidableEq, Repr

namespace LinterKind

/-- The name of a family. -/
def name : LinterKind → String
  | python => "python"
  | shell => "shell"
  | yaml => "yaml"

/-- The family of a name. -/
def ofName? (s : String) : Option LinterKind := [python, shell, yaml].find? (·.name = s)

@[simp] theorem ofName?_name (k : LinterKind) : ofName? k.name = some k := by
  cases k <;> decide

end LinterKind

/-- A **driver**: what it considers, what it looks for in headers, and what it runs. -/
structure Driver where
  name : String
  kind : LinterKind
  tool : String
  /-- The mark in a header that asks for the tool. -/
  mark : Pattern
  /-- Lines of a header whose first group gives arguments to the tool. -/
  optionsPattern : Option Pattern := none
  /-- Extensions of the names that the driver considers, with their dots. -/
  suffixes : List String := []
  /-- Wildcards for names that the driver considers. -/
  wildcards : List String := []
  /-- The kind that a file's content has to show when its name says nothing. -/
  sniffKind : Option LinterKind := none
  useCache : Bool := false
  /-- The environment variable that names the tool's configuration, and the flag to pass it on. -/
  configVariable : Option String := none
  configFlag : Option String := none
  deriving DecidableEq, Repr

/-- Reads the pattern of a mark, which has to start at the beginning of a line. -/
def compileMark (text : String) : Except Fault Pattern :=
  if text.toList.head? = some '^' then
    match Pattern.parse text with
    | .ok p => .ok p
    | .error ⟨.hugeRepeat, _⟩ => .error .hugeRepetition
    | .error ⟨.overlongNumber digits, _⟩ => .error (.overlongNumber digits)
    | .error problem => .error (.badPattern text problem)
  else .error (.unanchoredPattern text)

namespace Driver

/-- Whether the driver considers a path because of its name. -/
def accepts (d : Driver) (p : Path) : Bool :=
  d.suffixes.contains p.suffix || d.wildcards.any fun w => Text.wildcardMatches w p.name

/-- The arguments that tell the tool about its configuration. A flag that ends in `=` takes the
value behind it, any other as the next argument. -/
def configArguments (d : Driver) (environ : List (String × String)) : List String :=
  match d.configVariable, d.configFlag with
  | some key, some flag =>
    let value := Text.trimmed ((environ.lookup key).getD "")
    if key.isEmpty || flag.isEmpty || value.isEmpty then []
    else if flag.toList.getLast? = some '=' then [flag ++ value]
    else [flag, value]
  | _, _ => []

/-- The directive that lines of a file hold for this driver. -/
def scanLines (d : Driver) (lines : List (List Char)) : Directive :=
  Directive.scanLines d.mark d.optionsPattern lines

/-- The directive that a text holds for this driver. -/
def scanText (d : Driver) (text : String) : Directive :=
  Directive.scanText d.mark d.optionsPattern text

/-- The directive that the bytes of a file hold for this driver. -/
def scanFileText (d : Driver) (cs : List Char) : Directive :=
  Directive.scanFileText d.mark d.optionsPattern cs

end Driver

end OptIn
