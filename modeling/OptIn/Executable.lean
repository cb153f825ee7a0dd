import OptIn.World
import OptIn.Text.Lines

/-!
# Executables and how they are run

`Host.resolveExecutable` finds the executable that a name means: an absolute name means itself if it
exists, a name with a slash means itself if it can be run, and any other name is looked for in the
directories of `PATH`. `runCommand` is the tool runner that starts executables; what a program does
once it runs is up to a launcher.
-/

namespace OptIn

namespace Host

/-- Whether a text leads to a file that can be run. -/
def isProgram (h : Host) (s : String) : Bool :=
  match h.statText s with
  | .ok (_, .file _ executable _) => executable
  | _ => false

/-- The directories that are searched for executables. -/
def searchPath (h : Host) : List String :=
  match h.valueOf? "PATH" with
  | none => ["/bin", "/usr/bin"]
  | some "" => []
  | some s => (Text.pieces (· = ':') s.toList).map String.ofList

/-- A name in a directory, both as written; the empty text is the working directory. -/
def inDirectory (dir name : String) : String :=
  if dir.isEmpty then name
  else if dir.toList.getLast? = some '/' then dir ++ name
  else dir ++ "/" ++ name

/-- Looks an executable up by its name. -/
def findExecutable (h : Host) (name : String) : Option String :=
  if name.toList.contains '/' then if h.isProgram name then some name else none
  else (h.searchPath.map (inDirectory · name)).find? h.isProgram

/-- The executable that a name means, if there is one. -/
def resolveExecutable (h : Host) (name : String) : Except Fault (Option String) := do
  let p := Path.ofText name
  if p.isAbsolute then
    let there ← h.isPresent p
    return if there then some p.text else none
  else return h.findExecutable name

end Host

/-- How a program ended, and what it wrote. -/
structure Ending where
  status : Int := 0
  stdout : String := ""
  stderr : String := ""
  deriving DecidableEq, Repr

/-- A **launcher** says what programs do. A file that is no program is refused. -/
abbrev Launcher := World → Launch → Option Ending

namespace Host

/-- The directory that a command runs in. -/
def directoryOf (h : Host) : Option Path → Except Fault Address
  | none => .ok h.cwd
  | some p =>
    match h.stat p with
    | .ok (a, n) => if n.isDirectory then .ok a else .error (.system .notDirectory p.text)
    | .error e => .error e

/-- The files that may be meant by the head of a command. -/
def launchTexts (h : Host) (head : String) : List String :=
  if head.toList.contains '/' then [head] else h.searchPath.map (inDirectory · head)

/-- The program file that a text leads to, or why it cannot be run. -/
def programAt (h : Host) (s : String) : Except SystemError Address :=
  match h.disk.stat h.cwd s with
  | .ok (a, .file _ true _) => .ok a
  | .ok _ => .error .permission
  | .error e => .error e

/-- Whether an error lets the search for a program go on without being remembered. -/
def isPassedOver (e : SystemError) : Bool := e = .notFound || e = .notDirectory

/-- Starts the first of some files that can be started; the first error that is remembered, or else
the last one, tells why none could. -/
def startFirst {α : Type} (h : Host) (start : Address → Option α) :
    Option SystemError → SystemError → List String → Except SystemError α
  | remembered, last, [] => .error (remembered.getD last)
  | remembered, _, s :: rest =>
    let failed (e : SystemError) :=
      startFirst h start (remembered.or (if isPassedOver e then none else some e)) e rest
    match h.programAt s with
    | .ok a =>
      match start a with
      | some x => .ok x
      | none => failed .execFormat
    | .error e => failed e

/-- The command with its head resolved, and the directory to run it in. -/
def prepare (h : Host) (c : Call) : Except Fault (List String × Address) := do
  match c.command with
  | [] => throw .emptyCommand
  | head :: rest =>
    match ← h.resolveExecutable head with
    | none => throw (.noExecutable head)
    | some program =>
      let command := program :: rest
      if command.any holdsNull || c.directory.any (holdsNull ·.text) then throw .embeddedNull
      return (command, ← h.directoryOf c.directory)

end Host

/-- What is caught of a stream. -/
def caught (c : Call) (s : String) : Option String :=
  if c.capture then
    some (if c.text then String.ofList (Text.unifyNewlines s.toList) else s)
  else none

/-- The events of a program that has run. -/
def launchEvents (c : Call) (l : Launch) (e : Ending) : List Event :=
  .launched l ::
    if c.capture then []
    else [.printed .out e.stdout, .printed .err e.stderr].filter fun
      | .printed _ s => s ≠ ""
      | _ => true

/-- How a command ends when its program does. A fault tells what was caught only if that is text. -/
def completion (c : Call) (command : List String) (e : Ending) : Except Fault Completed :=
  let stdout := caught c e.stdout
  let stderr := caught c e.stderr
  if c.check && e.status ≠ 0 then
    let told (s : Option String) := if c.text then s else none
    .error (.commandFailed command e.status (told stdout) (told stderr))
  else .ok { command, status := e.status, stdout, stderr }

/-- The tool runner that starts executables. -/
def runCommand (launch : Launcher) : ToolRunner := fun w c =>
  let refuse (e : Fault) : Reply := { outcome := .error e, host := w.host }
  match w.host.prepare c with
  | .error e => refuse e
  | .ok (command, directory) =>
    let head := command.headD ""
    let start (a : Address) : Option (Launch × Ending) :=
      let l : Launch := ⟨a, command, directory⟩
      (launch w l).map fun e => (l, e)
    let there : Host := { w.host with cwd := directory }
    match there.startFirst start none .notFound (w.host.launchTexts head) with
    | .error e => refuse (.system e head)
    | .ok (l, e) =>
      { outcome := completion c command e, events := launchEvents c l e, host := w.host }

end OptIn
