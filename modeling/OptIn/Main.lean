import OptIn.CommandLine.App

/-!
# The executable

The thin layer between the program and a machine. It puts the working directory, and the root and
the cache if they are named, on a disk in memory, runs the program there, prints what it wrote and
keeps the files that it made. No other program is started from here, so every tool counts as not
installed.
-/

namespace OptIn.CommandLine

/-- The address that an absolute path writes. -/
def addressOf (s : String) : Address := (Path.ofText s).parts

/-- A time in nanoseconds. -/
def nanoseconds (t : IO.FS.SystemTime) : Int := t.sec * 1000000000 + t.nsec.toNat

/-- A directory and all that is below it. Links stay links; what cannot be read is left out. -/
partial def loadTree (dir : String) : IO (List (Address × Node)) := do
  let real ← IO.FS.realPath dir
  let a := addressOf real.toString
  let mut entries := [(a, Node.directory (nanoseconds (← real.metadata).modified))]
  for e in ← real.readDir do
    let file := addressOf e.path.toString
    try
      let info ← e.path.symlinkMetadata
      match info.type with
      | .dir => entries := entries ++ (← loadTree e.path.toString)
      | .file =>
        let bytes ← IO.FS.readBinFile e.path
        entries := (file, Node.file bytes.toList false (nanoseconds info.modified)) :: entries
      | .symlink =>
        let target ← IO.FS.realPath e.path
        entries := (file, Node.link target.toString) :: entries
      | .other => pure ()
    catch _ => pure ()
  return entries

/-- The directories above an address. -/
def ancestors (a : Address) : List (Address × Node) :=
  (List.range a.length).map fun n => (a.take n, Node.directory 0)

/-- The variables of the environment that the program looks at. -/
def variableNames : List String :=
  ["PATH", "HOME", Settings.cacheVariable] ++ Driver.builtins.filterMap (·.configVariable)

/-- The environment as far as the program looks at it. -/
def loadEnvironment : IO (List (String × String)) := do
  let found ← variableNames.mapM fun name => return (← IO.getEnv name).map fun v => (name, v)
  return found.filterMap id

/-- The directories that a command line names, apart from the working directory. -/
def namedDirectories (args : List String) (environ : List (String × String)) : List String :=
  let root := match readRequest args with
    | .ok (.command _ a) => a.root
    | _ => none
  root.toList ++ (environ.lookup Settings.cacheVariable).toList

/-- The machine as the program sees it. -/
def loadHost (args : List String) : IO Host := do
  let here := (← IO.currentDir).toString
  let environ ← loadEnvironment
  let mut entries := []
  for dir in here :: namedDirectories args environ do
    try
      let real ← IO.FS.realPath dir
      entries := entries ++ (← loadTree dir) ++ ancestors (addressOf real.toString)
    catch _ => pure ()
  let youngest := (entries.map (·.2.changed)).foldl max 0
  return { disk := ⟨entries⟩, cwd := addressOf here, environ, homes := [], clock := youngest + 1 }

/-- Keeps a file or a directory that the program has made or changed. -/
def store (a : Address) (n : Node) : IO Unit := do
  let file := (Path.absolute a).text
  match n with
  | .file bytes _ _ =>
    IO.FS.createDirAll (Path.absolute a.dropLast).text
    IO.FS.writeBinFile file ⟨bytes.toArray⟩
  | .directory _ => IO.FS.createDirAll file
  | .link _ => pure ()

/-- What the program can read. -/
def loadInput : IO Input := do
  let stdin ← IO.getStdin
  if ← stdin.isTty then return .terminal
  else return .text (String.ofList (Text.Utf8.decode (← stdin.readBinToEnd).toList))

/-- What is said about a command line that cannot be used. -/
def Misuse.message : Misuse → String
  | noArguments => "Missing command."
  | noSuchOption => "No such option."
  | badOptionUse => "An option lacks its value, or has one that it does not take."
  | badUse => "No such command, or too many arguments."
  | badPath => "A path holds a null character."
  | badValue message => message

/-- Runs the program on this machine. -/
def execute (args : List String) : IO UInt32 := do
  let host ← loadHost args
  let surroundings : Surroundings :=
    { input := ← loadInput, outputIsTerminal := ← (← IO.getStdout).isTty,
      launch := fun _ _ => none }
  let (ended, w) := (run surroundings args).run ⟨host, []⟩
  for (a, n) in w.host.disk.entries do
    unless host.disk.node? a = some n do store a n
  IO.print (transcript (wantsNotes args) .out w.journal)
  IO.eprint (transcript (wantsNotes args) .err w.journal)
  match ended with
  | .ok (.exit code) => return code.toNat.toUInt32
  | .ok (.misuse m) =>
    IO.eprintln m.message
    return 2
  | .error fault =>
    IO.eprintln fault.message
    return 1

end OptIn.CommandLine

/-- Runs the program. -/
def main (args : List String) : IO UInt32 := OptIn.CommandLine.execute args
