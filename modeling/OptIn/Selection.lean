import OptIn.Result
import OptIn.Shebang
import OptIn.World

/-!
# Selection of candidates

Out of a list of paths a driver selects those that are regular files and its own, by name or by what
the detector finds in them. Each path is considered once, at its first place in the list.
-/

namespace OptIn

namespace Driver

/-- Whether a file is the driver's own. A file whose name says so is not looked into. -/
def isRelevant (d : Driver) (detect : Detector) (p : Path) : Action World Bool :=
  if d.accepts p then return true
  else
    match d.sniffKind with
    | none => return false
    | some kind => do
      World.record (.sniffed p)
      let found ← World.ask (detect · p)
      return found = some kind

/-- The candidate that a path makes, if it does. -/
def candidate? (d : Driver) (detect : Detector) (p : Path) : Action World (Option Candidate) := do
  let file ← World.ask (·.isFile p)
  if file then
    let relevant ← d.isRelevant detect p
    return if relevant then some { path := p, kind := d.kind } else none
  else return none

/-- Considers a path after others: a path that has been seen makes no candidate. -/
def consider (d : Driver) (detect : Detector) (seen : List Path) (p : Path) :
    Action World (Option Candidate) :=
  if seen.contains p then return none else d.candidate? detect p

/-- The candidates that paths make after others, in order. -/
def classifyAfter (d : Driver) (detect : Detector) : List Path → List Path →
    Action World (List Candidate)
  | _, [] => return []
  | seen, p :: ps => do
    let c ← d.consider detect seen p
    let cs ← classifyAfter d detect (p :: seen) ps
    return c.toList ++ cs

/-- The candidates that paths make, in order. -/
def classify (d : Driver) (detect : Detector) (ps : List Path) : Action World (List Candidate) :=
  d.classifyAfter detect [] ps

end Driver

end OptIn
