import OptIn.Cache
import OptIn.Console.Message
import OptIn.Probe
import OptIn.Result
import OptIn.Settings
import OptIn.Text.Utf8

/-!
# Invoking a tool on candidates

An invoker decides what becomes of a candidate: its header has to ask for linting, the cache may
vouch for it, and otherwise the tool judges it. The tool is probed before its first use, at most
once as long as the probe comes to an end; once it is known to be unusable, nothing is run any more.
-/

namespace OptIn

/-- Where warnings go: to whoever collects them, or to the error stream as well. -/
inductive WarningSink where
  | collected
  | errorStream
  deriving DecidableEq, Repr

/-- An **invoker**: a driver with its settings, the cache of its successes, and what runs tools. -/
structure Invoker where
  driver : Driver
  settings : Settings
  cache : Option ResultCache
  runner : ToolRunner
  sink : WarningSink

/-- The state of a run: the world, and what is known about the tool. -/
structure Session where
  world : World
  probe : Option ToolProbe
  deriving Repr

namespace Session

/-- Acts on the world. -/
def onWorld {α : Type} (x : Action World α) : Action Session α :=
  x.within Session.world fun w s => { s with world := w }

/-- Keeps what is known about the tool. -/
def know (p : ToolProbe) : Action Session Unit := modify fun s => { s with probe := some p }

/-- Runs a session in which nothing is known about the tool yet. -/
def begin {α : Type} (x : Action Session α) : Action World α :=
  x.within (fun w => ⟨w, none⟩) fun s _ => s.world

end Session

namespace Invoker

/-- The name under which an invoker leaves notes. -/
def logger : String := "optlint.execution.invoker"

/-- The cache, if the driver uses one. -/
def cache? (i : Invoker) : Option ResultCache := if i.driver.useCache then i.cache else none

/-- Warns. -/
def warn (i : Invoker) (message : String) : Action World Unit := do
  World.record (.warned message)
  match i.sink with
  | .collected => return ()
  | .errorStream =>
    World.print .err (Console.spoken .warning i.settings.emoji i.settings.color message)

/-- The words of the command that lints a candidate. -/
def command (i : Invoker) (c : Candidate) : List String :=
  i.driver.tool :: i.driver.configArguments i.settings.environ ++ c.options ++ [c.path.text]

/-- The call that lints a candidate, in the root. -/
def lintCall (i : Invoker) (c : Candidate) : Call :=
  { command := i.command c, directory := some i.settings.root, check := false }

/-- What is said of a tool that cannot be used. -/
def complaint (d : Driver) (p : ToolProbe) : String :=
  match p.status with
  | .missing =>
    d.tool ++ " is not installed; every file opted into " ++ d.name ++ " linting will fail"
  | _ =>
    let detail := if p.detail.isEmpty then "" else ": " ++ p.detail
    d.tool ++ " " ++ ToolProbe.versionFlag ++ " failed, the installed " ++ d.tool ++ " is unusable"
      ++ detail

/-- What is known about the tool; it is probed if nothing is. -/
def toolProbe (i : Invoker) : Action Session ToolProbe := do
  match (← get).probe with
  | some p => return p
  | none =>
    let p ← Session.onWorld (ToolProbe.run i.runner i.driver.tool)
    Session.know p
    Session.onWorld do
      World.note logger ("probe tool=" ++ i.driver.tool ++ " status=" ++ p.status.name)
      unless p.usable do i.warn (complaint i.driver p)
    return p

/-- The directive in the header of a file. -/
def readDirective (d : Driver) (p : Path) : Action World Directive := do
  let bytes ← World.ask (·.read p)
  let directive := d.scanFileText (Text.Utf8.decode bytes)
  World.note "optlint.directives" ("directive path=" ++ p.text ++ " state=" ++ directive.state.name)
  return directive

/-- The candidate with the arguments of its header, if that gives any. -/
def withDirective (c : Candidate) (d : Directive) : Candidate :=
  if d.options.isEmpty then c else { c with options := d.options }

/-- The result of a candidate whose tool cannot be used. -/
def unusable (c : Candidate) : LintResult := ⟨c, .failed, some toolMissingStatus⟩

/-- Whether the cache vouches for a candidate. -/
def vouched (i : Invoker) (c : Candidate) : Action World Bool :=
  match i.cache? with
  | none => return false
  | some cache => cache.isValid c.path

/-- The result of a command that came to its end; a success goes into the cache. -/
def judge (i : Invoker) (c : Candidate) (done : Completed) : Action World LintResult := do
  if done.status = 0 then
    match i.cache? with
    | none => pure ()
    | some cache => cache.record c.path
    return ⟨c, .passed, some 0⟩
  else return ⟨c, .failed, some done.status⟩

/-- Has the tool judge a candidate. An executable that has disappeared counts as missing from then
on. -/
def lint (i : Invoker) (c : Candidate) : Action Session LintResult := do
  Session.onWorld <| World.note logger
    ("invoke tool=" ++ i.driver.tool ++ " command=" ++ Text.quotedList (i.command c))
  match ← (Session.onWorld (i.runner.perform (i.lintCall c))).attempt with
  | .ok done => Session.onWorld (i.judge c done)
  | .error e =>
    if e.isNotFound then
      let p : ToolProbe := ⟨.missing, e.message⟩
      Session.know p
      Session.onWorld (i.warn (complaint i.driver p))
      return unusable c
    else throw e

/-- What becomes of a candidate whose header has been read. -/
def settle (i : Invoker) (c : Candidate) (d : Directive) : Action Session LintResult := do
  if !(d.enabled || i.settings.forceAll) then return ⟨c, .skipped, none⟩
  else
    let c := withDirective c d
    if ← Session.onWorld (i.vouched c) then return ⟨c, .cached, none⟩
    else
      let p ← i.toolProbe
      if p.usable then i.lint c else return unusable c

/-- What becomes of a candidate. A file that cannot be read fails. -/
def invoke (i : Invoker) (c : Candidate) : Action Session LintResult := do
  match ← (Session.onWorld (readDirective i.driver c.path)).attempt with
  | .ok d => i.settle c d
  | .error e =>
    if e.isSystem then
      Session.onWorld
        (i.warn (i.driver.name ++ ": cannot read " ++ c.path.text ++ ": " ++ e.message))
      return ⟨c, .failed, some 1⟩
    else throw e

end Invoker

end OptIn
