import OptIn.CommandLine.Help
import OptIn.MultiRun

/-!
# The program

What each command does: it finds the root, puts the settings together, chooses where the paths come
from, and runs one driver or all of them. A value that an option cannot have is a misuse of the
command line; faults that concern a driver alone are told and make the run fail, all others leave
the program.
-/

namespace OptIn.CommandLine

/-- What can be read from the input stream. -/
inductive Input where
  | terminal
  | closed
  | text (s : String)
  deriving DecidableEq, Repr

/-- What surrounds the program: its input, whether its output is a terminal, and what programs do.
-/
structure Surroundings where
  input : Input
  outputIsTerminal : Bool := false
  launch : Launcher

/-- How the program ends when no fault leaves it. -/
inductive End where
  | exit (code : Int)
  | misuse (m : Misuse)
  deriving DecidableEq, Repr

/-- The root that is meant, which has to be a directory. -/
def findRoot (given : Option String) : Action World (Except Misuse Path) := do
  let root ← World.ask fun h => h.resolve ((given.map Path.ofText).getD h.here)
  if ← World.ask (·.isDirectory root) then return .ok root
  else
    return .error (.badValue ("Invalid value for --root: " ++ root.text ++ " is not a directory"))

/-- The settings of a command in a root. -/
def findSettings (s : Surroundings) (a : Arguments) (root : Path) : Action World Settings := do
  let settings ← World.ask fun h => Settings.ofEnvironment h h.environ (some root.text)
  return { settings with
    color := s.outputIsTerminal && !a.has .noColor
    emoji := !a.has .noEmoji
    forceAll := a.has .lintAll }

/-- Where the paths of one driver come from: the arguments, the input, or version control. -/
def chooseSource (s : Surroundings) (a : Arguments) (root : Path) : Source :=
  if a.positionals.isEmpty then
    match s.input with
    | .terminal => Source.git (runCommand s.launch) root false
    | .closed => Source.closed
    | .text t => Source.ofLines root ((Text.fileLines t.toList).map String.ofList)
  else Source.ofEntries root (a.positionals.map Path.ofText)

/-- Says on the error stream why a driver's run has failed. -/
def tellFailure (settings : Settings) (message : String) : Action World Unit :=
  World.print .err (Console.spoken .failure settings.emoji settings.color message)

/-- Runs one driver. -/
def runOne (s : Surroundings) (d : Driver) (a : Arguments) (settings : Settings) :
    Action World End := do
  let r : DriverRun :=
    { driver := d, settings, detect := shebangDetector, runner := runCommand s.launch,
      sink := .errorStream }
  match ← (r.run (chooseSource s a settings.root)).attempt with
  | .ok o => return .exit o.status.code
  | .error e =>
    if e.isHarness || e.isSystem then
      tellFailure settings (d.name ++ ": " ++ e.message)
      return .exit ExitStatus.lintFailure.code
    else throw e

/-- The names to be left out that no driver has, each once, in alphabetical order. -/
def unknownNames (skip known : List String) : List String :=
  ((skip.filter fun n => !known.contains n).eraseDups).mergeSort fun a b => a ≤ b

/-- Runs all drivers on the files under version control. -/
def runAll (s : Surroundings) (a : Arguments) (settings : Settings) : Action World End := do
  let unknown := unknownNames a.skip Registry.default.names
  if unknown.isEmpty then
    let files ← (Source.git (runCommand s.launch) settings.root (a.has .staged)).paths
    let m : MultiRun :=
      { registry := Registry.default, settings, excluded := a.skip, detect := shebangDetector,
        runner := runCommand s.launch, sink := .errorStream }
    let o ← m.run fun _ => Source.ofPaths files
    return .exit o.exitCode
  else
    return .misuse (.badValue
      ("Invalid value for --skip: unknown driver(s): " ++ ", ".intercalate unknown))

/-- Performs a command. -/
def perform (s : Surroundings) (c : Command) (a : Arguments) : Action World End := do
  let texts := a.root.toList ++ (if c.takesPaths then a.positionals else [])
  if texts.any holdsNull then return .misuse .badPath
  if !c.takesPaths && !a.positionals.isEmpty then return .misuse .badUse
  match ← findRoot a.root with
  | .error m => return .misuse m
  | .ok root =>
    let settings ← findSettings s a root
    match c with
    | .all => runAll s a settings
    | .one d => runOne s d a settings

/-- Runs the program on its arguments. -/
def run (s : Surroundings) (args : List String) : Action World End := do
  match readRequest args with
  | .error m => return .misuse m
  | .ok .help =>
    World.print .out programHelp
    return .exit 0
  | .ok (.helpOn c) =>
    World.print .out (commandHelp c)
    return .exit 0
  | .ok (.command c a) => perform s c a

/-- Whether notes are printed. -/
def wantsNotes (args : List String) : Bool :=
  match readRequest args with
  | .ok (.command _ a) => a.has .debug
  | _ => false

/-- What an event writes on a stream; notes go to the error stream if they are wanted. -/
def written (notes : Bool) (stream : Stream) : Event → String
  | .printed s text => if s = stream then text else ""
  | .noted logger text =>
    if notes && stream = .err then "[debug] " ++ logger ++ ": " ++ text ++ "\n" else ""
  | _ => ""

/-- All that events write on a stream. -/
def transcript (notes : Bool) (stream : Stream) (events : List Event) : String :=
  String.join (events.map (written notes stream))

end OptIn.CommandLine
