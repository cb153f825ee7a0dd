import OptIn.Console.Section
import OptIn.Driver.Registry
import OptIn.DriverRun

/-!
# Running all drivers

The drivers of a registry run one after another, those that are excluded apart, each on the paths
that a provider gives it. A fault of a file, a tool or a configuration ends the run of its driver
only. The status of the whole is the greatest of all.
-/

namespace OptIn

/-- Sets the value of a key: in its place if the key is there, at the end if not. -/
def setEntry {α : Type} (key : String) (value : α) : List (String × α) → List (String × α)
  | [] => [(key, value)]
  | (k, v) :: rest => if k = key then (k, value) :: rest else (k, v) :: setEntry key value rest

/-- What the runs of all drivers have come to. -/
structure MultiOutcome where
  outcomes : List DriverOutcome := []
  errors : List (String × String) := []
  exitCodes : List (String × Int) := []
  deriving DecidableEq, Repr

namespace MultiOutcome

/-- The number of candidates in all runs that came to their end. -/
def candidateCount (m : MultiOutcome) : Nat :=
  m.outcomes.foldl (fun n o => n + o.summary.total) 0

/-- The status of the whole: the greatest of all. -/
def exitCode (m : MultiOutcome) : Int := (m.exitCodes.map (·.2)).max?.getD 0

end MultiOutcome

/-- A run of all drivers, ready to start. -/
structure MultiRun where
  registry : Registry
  settings : Settings
  excluded : List String := []
  detect : Detector
  runner : ToolRunner
  sink : WarningSink

namespace MultiRun

/-- The drivers that run. -/
def selected (m : MultiRun) : List Driver := m.registry.selected m.excluded

/-- The registered names that are excluded, in alphabetical order. -/
def excludedNames (m : MultiRun) : List String :=
  (m.registry.names.filter m.excluded.contains).mergeSort fun a b => a ≤ b

/-- Says something on the output stream. -/
def say (m : MultiRun) (tone : Console.Tone) (s : String) : Action World Unit :=
  World.print .out (Console.spoken tone m.settings.emoji m.settings.color s)

/-- The run of one driver. No driver alone has to find candidates. -/
def driverRun (m : MultiRun) (d : Driver) : DriverRun :=
  { driver := d, settings := { m.settings with requireCandidates := false }, detect := m.detect,
    runner := m.runner, sink := m.sink }

/-- Says how a driver's run has ended. -/
def tellOutcome (m : MultiRun) (o : DriverOutcome) : Action World Unit :=
  if o.status = .success then m.say .success (o.driver ++ " passed")
  else m.say .failure (o.driver ++ " failed with exit code " ++ toString o.status.code)

/-- Runs a driver and adds what it comes to. -/
def step (m : MultiRun) (so : MultiOutcome) (d : Driver) (paths : Source) :
    Action World MultiOutcome := do
  let header ← Console.sectionHeader m.settings.color (d.name ++ " (" ++ d.tool ++ ")")
  World.print .out header
  match ← ((m.driverRun d).run paths).attempt with
  | .ok o =>
    m.tellOutcome o
    return { so with
      outcomes := so.outcomes ++ [o], exitCodes := setEntry d.name o.status.code so.exitCodes }
  | .error e =>
    if e.isContained then
      m.say .failure (d.name ++ ": " ++ e.message)
      return { so with
        errors := setEntry d.name e.message so.errors
        exitCodes := setEntry d.name ExitStatus.lintFailure.code so.exitCodes }
    else throw e

/-- Runs drivers one after another; `call` counts how often the provider has been asked. -/
def steps (m : MultiRun) (provider : Nat → Source) :
    Nat → MultiOutcome → List Driver → Action World MultiOutcome
  | _, so, [] => return so
  | call, so, d :: ds => do
    let so ← m.step so d (provider call)
    steps m provider (call + 1) so ds

/-- The key under which the status of the whole is kept. -/
def wholeKey : String := "<all>"

/-- Sees to it that a run which found no candidates fails, if some are required. -/
def close (m : MultiRun) (so : MultiOutcome) : Action World MultiOutcome := do
  if m.settings.requireCandidates && so.errors.isEmpty && so.candidateCount = 0 then
    m.say .failure "no candidate files found for any driver"
    return { so with exitCodes := setEntry wholeKey ExitStatus.noCandidates.code so.exitCodes }
  else return so

/-- Runs all drivers on the paths that a provider gives, one source for each driver. -/
def run (m : MultiRun) (provider : Nat → Source) : Action World MultiOutcome := do
  m.excludedNames.forM fun name => m.say .info (name ++ " excluded from this run")
  let so ← m.steps provider 0 {} m.selected
  m.close so

end MultiRun

end OptIn
