import OptIn.Driver.Builtin

/-!
# The arguments of the command line

Which commands there are, which options each takes, and how a list of arguments is read. Options and
positional arguments of a command may mix; `--` ends the options; `--name=value` gives a value in
place; flags of one letter may be combined; names are not abbreviated.
-/

namespace OptIn.CommandLine

/-- What the program can be told to do. -/
inductive Command where
  /-- Run all drivers on the files under version control. -/
  | all
  /-- Run one driver. -/
  | one (d : Driver)
  deriving DecidableEq, Repr

/-- What an option is about. -/
inductive Setting where
  | lintAll
  | root
  | staged
  | skip
  | noColor
  | noEmoji
  | debug
  | help
  deriving DecidableEq, Repr

/-- What an option takes. -/
inductive Takes where
  | nothing
  | path
  | texts
  deriving DecidableEq, Repr

/-- An option: what it is about, its names, what it takes, and what is said about it. -/
structure OptionSpec where
  setting : Setting
  long : String
  short : Option Char := none
  takes : Takes := .nothing
  help : String
  deriving DecidableEq, Repr

/-- Whether an option takes a value. -/
def OptionSpec.takesValue (o : OptionSpec) : Bool := o.takes ≠ .nothing

/-- The option that lints files which do not ask for it. -/
def allOption : OptionSpec where
  setting := .lintAll
  long := "--all"
  short := some 'a'
  help := "Lint every YAML file regardless of directive."

/-- The option that names the root. -/
def rootOption : OptionSpec where
  setting := .root
  long := "--root"
  takes := .path
  help := "Repository root; defaults to the current directory."

/-- The option that looks at files about to be committed only. -/
def stagedOption : OptionSpec where
  setting := .staged
  long := "--staged"
  help := "Only consider files staged in the git index."

/-- The option that leaves a driver out. -/
def skipOption : OptionSpec where
  setting := .skip
  long := "--skip"
  takes := .texts
  help := "Driver to leave out; repeatable."

/-- The option against colour. -/
def noColorOption : OptionSpec where
  setting := .noColor
  long := "--no-color"
  help := "Disable coloured output."

/-- The option against emblems. -/
def noEmojiOption : OptionSpec where
  setting := .noEmoji
  long := "--no-emoji"
  help := "Disable emoji prefixes."

/-- The option that prints notes. -/
def debugOption : OptionSpec where
  setting := .debug
  long := "--debug"
  help := "Print internal debug records to stderr."

/-- The option that asks for help. -/
def helpOption : OptionSpec where
  setting := .help
  long := "--help"
  short := some 'h'
  help := "Show this message and exit."

namespace Command

/-- The commands by name. -/
def named : List (String × Command) :=
  ("run", all) :: Driver.builtins.map fun d => (d.name, one d)

/-- The command of a name. -/
def ofName? (s : String) : Option Command := named.lookup s

/-- The name of a command. -/
def name : Command → String
  | all => "run"
  | one d => d.name

/-- The options of a command. -/
def options : Command → List OptionSpec
  | all => [rootOption, stagedOption, skipOption, noColorOption, noEmojiOption, debugOption,
      helpOption]
  | one d =>
    (if d.kind = .yaml then [allOption] else []) ++
      [rootOption, noColorOption, noEmojiOption, debugOption, helpOption]

/-- Whether a command takes paths. -/
def takesPaths : Command → Bool
  | all => false
  | one _ => true

end Command

/-- The options in front of the command. -/
def frontOptions : List OptionSpec := [helpOption]

/-- The arguments of a command as they were given. -/
structure Arguments where
  settings : List Setting := []
  root : Option String := none
  skip : List String := []
  positionals : List String := []
  deriving DecidableEq, Repr

/-- Whether an option was given. -/
def Arguments.has (a : Arguments) (s : Setting) : Bool := a.settings.contains s

/-- The arguments with an option that takes no value. -/
def Arguments.give (a : Arguments) (s : Setting) : Arguments :=
  { a with settings := a.settings ++ [s] }

/-- The arguments with an option and its value; a root replaces an earlier one. -/
def Arguments.giveValue (a : Arguments) (o : OptionSpec) (value : String) : Arguments :=
  let a := a.give o.setting
  match o.setting with
  | .root => { a with root := some value }
  | .skip => { a with skip := a.skip ++ [value] }
  | _ => a

/-- How a command line can be misused. -/
inductive Misuse where
  | noArguments
  | noSuchOption
  | badOptionUse
  /-- An unknown command, or arguments that nothing takes. -/
  | badUse
  /-- A path that holds the null character. -/
  | badPath
  /-- A value that an option cannot have, with what is said about it. -/
  | badValue (message : String)
  deriving DecidableEq, Repr

/-- What one argument turns out to be. -/
inductive Reading where
  | positional
  | flags (settings : List Setting)
  | value (o : OptionSpec) (v : String)
  | awaiting (o : OptionSpec)
  | misuse (m : Misuse)
  deriving DecidableEq, Repr

/-- Reads an argument as a long option, with or without a value in place. -/
def readLong (options : List OptionSpec) (arg : String) : Option Reading :=
  let cs := arg.toList
  let name := String.ofList (cs.takeWhile (· ≠ '='))
  let value := match cs.dropWhile (· ≠ '=') with
    | [] => none
    | _ :: v => some (String.ofList v)
  (options.find? (·.long = name)).map fun o =>
    match o.takesValue, value with
    | true, some v => .value o v
    | true, none => .awaiting o
    | false, none => .flags [o.setting]
    | false, some _ => .misuse .badOptionUse

/-- Reads the letters of combined short options, all of which are flags. -/
def readShort (options : List OptionSpec) (letters : List Char) : Reading :=
  match letters.mapM fun c => options.find? (·.short = some c) with
  | some os => .flags (os.map (·.setting))
  | none => .misuse .noSuchOption

/-- Reads one argument. -/
def readArgument (options : List OptionSpec) (arg : String) : Reading :=
  match arg.toList with
  | '-' :: c :: rest =>
    match readLong options arg with
    | some r => r
    | none => if c = '-' then .misuse .noSuchOption else readShort options (c :: rest)
  | _ => .positional

/-- Reads arguments. Unless options and positional arguments may mix, the first positional argument
ends the options. -/
def readArguments (options : List OptionSpec) (mixed : Bool) :
    Arguments → List String → Except Misuse Arguments
  | a, [] => .ok a
  | a, arg :: rest =>
    if arg = "--" then .ok { a with positionals := a.positionals ++ rest }
    else
      match readArgument options arg with
      | .positional =>
        if mixed then
          readArguments options mixed { a with positionals := a.positionals ++ [arg] } rest
        else .ok { a with positionals := a.positionals ++ arg :: rest }
      | .flags settings => readArguments options mixed (settings.foldl (·.give ·) a) rest
      | .value o v => readArguments options mixed (a.giveValue o v) rest
      | .awaiting o =>
        match rest with
        | [] => .error .badOptionUse
        | v :: rest => readArguments options mixed (a.giveValue o v) rest
      | .misuse m => .error m

/-- What a whole command line asks for. -/
inductive Request where
  /-- Help about the program. -/
  | help
  /-- Help about a command. -/
  | helpOn (c : Command)
  | command (c : Command) (a : Arguments)
  deriving DecidableEq, Repr

/-- Reads a whole command line. Where no command of the given name exists, the name and what follows
it may still turn out to be options. -/
def readRequest (args : List String) : Except Misuse Request := do
  if args.isEmpty then throw .noArguments
  let front ← readArguments frontOptions false {} args
  if front.has .help then return .help
  match front.positionals with
  | [] => throw .badUse
  | name :: rest =>
    match Command.ofName? name with
    | none =>
      let late ← readArguments frontOptions false {} front.positionals
      if late.has .help then return .help else throw .badUse
    | some c =>
      let a ← readArguments c.options true {} rest
      if a.has .help then return .helpOn c else return .command c a

end OptIn.CommandLine
