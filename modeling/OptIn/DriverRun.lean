import OptIn.Invoker
import OptIn.Report
import OptIn.Selection
import OptIn.Source

/-!
# Running one driver

A run takes paths from a source one at a time: each is considered, and a candidate is dealt with
before the next path is asked for. The report follows the last path; a fault ends the run at once,
and nothing is reported then.
-/

namespace OptIn

/-- What a driver's run has come to. -/
structure DriverOutcome where
  driver : String
  summary : Summary
  status : ExitStatus
  deriving DecidableEq, Repr

/-- A run of one driver, ready to start. -/
structure DriverRun where
  driver : Driver
  settings : Settings
  detect : Detector
  runner : ToolRunner
  sink : WarningSink

namespace DriverRun

/-- The name under which a run leaves notes. -/
def logger : String := "optlint.execution.runner"

/-- The cache of the run, if the driver uses one. -/
def cache? (r : DriverRun) : Option ResultCache :=
  if r.driver.useCache then some ⟨r.settings.cacheDirectory r.driver⟩ else none

/-- The invoker of the run. -/
def invoker (r : DriverRun) : Invoker :=
  { driver := r.driver, settings := r.settings, cache := r.cache?, runner := r.runner,
    sink := r.sink }

/-- Deals with a candidate. -/
def process (r : DriverRun) (c : Candidate) : Action Session LintResult := do
  let result ← r.invoker.invoke c
  Session.onWorld <| World.note logger
    ("classified path=" ++ c.path.text ++ " as=" ++ result.classification.name)
  return result

/-- Deals with the paths to come, after those that have been seen, and adds the results to a
summary. -/
def collect (r : DriverRun) : List Path → Summary → List (Action World Path) →
    Action Session Summary
  | _, summary, [] => return summary
  | seen, summary, pull :: rest => do
    let p ← Session.onWorld pull
    match ← Session.onWorld (r.driver.consider r.detect seen p) with
    | none => collect r (p :: seen) summary rest
    | some c =>
      let result ← r.process c
      collect r (p :: seen) (summary.add result) rest

/-- The results for the paths of a source. -/
def summarize (r : DriverRun) (s : Source) : Action World Summary :=
  Session.begin do
    let pulls ← Session.onWorld s
    r.collect [] {} pulls

/-- Runs the driver on the paths of a source. -/
def run (r : DriverRun) (s : Source) : Action World DriverOutcome := do
  let summary ← r.summarize s
  let status ← summary.finish r.settings
  return ⟨r.driver.name, summary, status⟩

end DriverRun

end OptIn
