import OptIn.Console.Message
import OptIn.Result
import OptIn.Settings
import OptIn.World

/-!
# The report of a run

After a run each result is printed on a line of its own, with the path as it is seen from the root;
the files that the cache vouched for share one line at the end, and the totals follow.
-/

namespace OptIn

/-- How a path is shown: as seen from the root if it lies below it, links resolved, and as it is
otherwise. -/
def displayPath (h : Host) (p root : Path) : Except Fault String :=
  let seen : Except Fault (Option Path) := do
    let q ← h.resolve p
    let r ← h.resolve root
    return q.relativeTo? r
  match seen with
  | .ok (some q) => .ok q.text
  | .ok none => .ok p.text
  | .error e => if e.isValue || e.isSystem then .ok p.text else .error e

/-- The label of the line for files that the cache vouches for. -/
def cachedLabel : String := "deja-vu"

namespace Classification

/-- The label of a result's line. -/
def label : Classification → String
  | cached => cachedLabel
  | c => c.name

/-- The style of a result's label. -/
def style : Classification → Console.Style
  | passed => .green
  | failed => .boldRed
  | skipped => .dim
  | cached => .cyan

end Classification

/-- A line of a report: what became of the files on it, and which they are. -/
structure ReportLine where
  classification : Classification
  text : String
  deriving DecidableEq, Repr

namespace Summary

/-- The line of a result that the cache had no part in. -/
def resultLine (h : Host) (root : Path) (r : LintResult) : Except Fault ReportLine :=
  (displayPath h r.candidate.path root).map fun s => ⟨r.classification, s⟩

/-- The line for the files that the cache vouches for, if there are any. -/
def cachedLine (h : Host) (root : Path) (ps : List Path) : Except Fault (List ReportLine) :=
  if ps.isEmpty then .ok []
  else do
    let shown ← ps.mapM fun p => displayPath h p root
    return [⟨.cached, " ".intercalate shown⟩]

/-- The lines of a report, in the order of the results. -/
def lines (s : Summary) (h : Host) (root : Path) : Except Fault (List ReportLine) := do
  let own ← (s.results.filter (·.classification ≠ .cached)).mapM (resultLine h root)
  let shared ← cachedLine h root s.cachedPaths
  return own ++ shared

/-- The totals of a report. -/
def totals (s : Summary) : String :=
  toString s.passed ++ " passed, " ++ toString s.failed ++ " failed, " ++ toString s.skipped ++
    " skipped"

/-- A line of a report as it is printed. -/
def printedLine (color : Bool) (l : ReportLine) : String :=
  let style := if color then some l.classification.style else none
  Console.labelled style l.classification.label l.text

/-- A report as it is printed. -/
def printed (s : Summary) (color : Bool) (ls : List ReportLine) : String :=
  String.join (ls.map (printedLine color)) ++ Console.message none s.totals

/-- Prints the report of a run. -/
def report (s : Summary) (settings : Settings) : Action World Unit := do
  let ls ← World.ask fun h => s.lines h settings.root
  World.print .out (s.printed settings.color ls)

/-- What is said of a run that found nothing to do. -/
def nothingFound : String := "no candidate files found; check the file list passed to optlint"

/-- Prints the report of a run, or that there was nothing to report, and tells how the run ended. -/
def finish (s : Summary) (settings : Settings) : Action World ExitStatus := do
  if settings.requireCandidates && s.results.isEmpty then
    World.print .err (Console.spoken .failure settings.emoji settings.color nothingFound)
  else
    s.report settings
  return s.exitStatus settings.requireCandidates

end Summary

end OptIn
