import OptIn.Executable
import OptIn.Host.Resolve

/-!
# Sources of paths

A source is opened and then gives paths one after another, each when it is asked for: given paths,
the lines of a text, or the files that `git` lists. Relative paths are seen from the root, and links
are resolved when the path is asked for.
-/

namespace OptIn

/-- A **source**: opening it gives the paths to come, each still to be found. -/
abbrev Source := Action World (List (Action World Path))

/-- A name that a line holds: what is between the blanks at its ends, if anything. -/
def lineName? (line : String) : Option String :=
  let s := Text.trimmed line
  if s.isEmpty then none else some s

namespace Source

/-- Finds the path that is meant by one seen from the root. -/
def found (root p : Path) : Action World Path := World.ask (·.resolve (root.join p))

/-- The source of paths that are there already. -/
def ofPaths (ps : List Path) : Source := return ps.map pure

/-- The source of given entries. -/
def ofEntries (root : Path) (entries : List Path) : Source := return entries.map (found root)

/-- The source of names that stand on lines. -/
def ofLines (root : Path) (lines : List String) : Source :=
  return (lines.filterMap lineName?).map fun s => found root (Path.ofText s)

/-- The source that cannot be read because its stream is closed. -/
def closed : Source := throw .closedInput

/-- The commands that list the files under version control, or those that are about to be
committed. -/
def gitCommand (staged : Bool) : List String :=
  if staged then ["git", "diff", "--name-only", "--cached", "--diff-filter=ACMR"]
  else ["git", "ls-files"]

/-- The lines that a listing command prints in a directory. A command that does not exist or fails
lists nothing. -/
def listing (run : ToolRunner) (command : List String) (root : Path) :
    Action World (List String) := do
  match ← (run.perform { command, directory := some root, capture := true, check := false }).attempt
    with
  | .error e => if e.isNotFound then return [] else throw e
  | .ok done =>
    if done.status ≠ 0 then return []
    else return (Text.splitLines (done.stdout.getD "").toList).map String.ofList

/-- The source of the files that version control lists, by a lister of one's own. -/
def ofListing (lister : List String → Path → Action World (List String)) (root : Path)
    (staged : Bool) : Source := do
  let lines ← lister (gitCommand staged) root
  ofLines root lines

/-- The source of the files that version control lists. -/
def git (run : ToolRunner) (root : Path) (staged : Bool) : Source :=
  ofListing (listing run) root staged

/-- All paths of a source. -/
def paths (s : Source) : Action World (List Path) := do
  let pulls ← s
  pulls.mapM id

end Source

end OptIn
