import OptIn.Driver.Basic

/-!
# Candidates, results and their summary

A candidate is a file that a driver considers. A result says what became of one, and a summary
keeps the results of a run in order together with running totals. The status of a run is read off
its summary.
-/

namespace OptIn

/-- A file that a driver considers, with arguments for the tool. -/
structure Candidate where
  path : Path
  kind : LinterKind
  options : List String := []
  deriving DecidableEq, Repr

/-- What became of a candidate. -/
inductive Classification where
  | passed
  | failed
  | skipped
  | cached
  deriving DecidableEq, Repr

namespace Classification

/-- The name of a classification. -/
def name : Classification → String
  | passed => "passed"
  | failed => "failed"
  | skipped => "skipped"
  | cached => "cached"

/-- The classification of a name. -/
def ofName? (s : String) : Option Classification :=
  [passed, failed, skipped, cached].find? (·.name = s)

/-- Whether a classification is totalled as skipped. -/
def countsAsSkipped : Classification → Bool
  | skipped | cached => true
  | passed | failed => false

end Classification

/-- The status of a tool that cannot be used, as shells have it for commands they do not find. -/
def toolMissingStatus : Int := 127

/-- What became of a candidate, and the status of the tool if it was run. -/
structure LintResult where
  candidate : Candidate
  classification : Classification
  status : Option Int := none
  deriving DecidableEq, Repr

/-- Whether a result is a failure because the tool cannot be used. -/
def LintResult.toolMissing (r : LintResult) : Bool :=
  r.classification = .failed && r.status = some toolMissingStatus

/-- How a run can end. -/
inductive ExitStatus where
  | success
  | lintFailure
  | noCandidates
  | toolMissing
  deriving DecidableEq, Repr

/-- The number that a process ends with. -/
def ExitStatus.code : ExitStatus → Int
  | success => 0
  | lintFailure => 1
  | noCandidates => 2
  | toolMissing => toolMissingStatus

/-- A **summary**: the results of a run in order, and their totals. -/
structure Summary where
  results : List LintResult := []
  passed : Nat := 0
  failed : Nat := 0
  skipped : Nat := 0
  cachedPaths : List Path := []
  deriving DecidableEq, Repr

namespace Summary

/-- The summary with one more result. -/
def add (s : Summary) (r : LintResult) : Summary :=
  let s := { s with results := s.results ++ [r] }
  match r.classification with
  | .passed => { s with passed := s.passed + 1 }
  | .failed => { s with failed := s.failed + 1 }
  | .skipped => { s with skipped := s.skipped + 1 }
  | .cached =>
    { s with skipped := s.skipped + 1, cachedPaths := s.cachedPaths ++ [r.candidate.path] }

/-- The number of results. -/
def total (s : Summary) : Nat := s.results.length

/-- How a run with these results ends. A run without candidates is at fault where some are required;
a tool that cannot be used outweighs other failures. -/
def exitStatus (s : Summary) (requireCandidates : Bool) : ExitStatus :=
  if requireCandidates && s.results.isEmpty then .noCandidates
  else if s.failed = 0 then .success
  else if s.results.any (·.toolMissing) then .toolMissing
  else .lintFailure

@[simp] theorem results_add (s : Summary) (r : LintResult) :
    (s.add r).results = s.results ++ [r] := by
  unfold add
  split <;> rfl

end Summary

end OptIn
