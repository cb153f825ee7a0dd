import OptIn.Literal.Flaw
import OptIn.Pattern.Problem
import OptIn.Text.Quoted

/-!
# Faults

Everything that can go wrong, as causes. `Fault.message` words a cause; which faults are handled
where is decided by the predicates at the end, never by a wording.
-/

namespace OptIn

/-- The ways in which the operating system refuses a request. -/
inductive SystemError where
  | notFound
  | execFormat
  | permission
  | alreadyExists
  | notDirectory
  | isDirectory
  | nameTooLong
  | tooManyLinks
  deriving DecidableEq, Repr

/-- The number by which the operating system knows an error. -/
def SystemError.number : SystemError → Nat
  | notFound => 2
  | execFormat => 8
  | permission => 13
  | alreadyExists => 17
  | notDirectory => 20
  | isDirectory => 21
  | nameTooLong => 36
  | tooManyLinks => 40

/-- The operating system's words for an error. -/
def SystemError.description : SystemError → String
  | notFound => "No such file or directory"
  | execFormat => "Exec format error"
  | permission => "Permission denied"
  | alreadyExists => "File exists"
  | notDirectory => "Not a directory"
  | isDirectory => "Is a directory"
  | nameTooLong => "File name too long"
  | tooManyLinks => "Too many levels of symbolic links"

/-- What kind of value a field wants, and what is wrong with the one it got. -/
inductive FieldFlaw where
  | missing
  | badChoice
  | badPath
  | badText
  | badSequence
  | badRecord
  | badMap
  | badTruth
  | unreadTruth
  | badNumber
  | unreadNumber
  | fractionalNumber
  | oversizedNumber
  | endlessNumber
  deriving DecidableEq, Repr

/-- A flaw and the field that has it, from the outside in. -/
structure FieldProblem where
  location : List String
  flaw : FieldFlaw
  deriving DecidableEq, Repr

/-- What is wrong with the tags of a marked-up text. -/
inductive MarkupProblem where
  /-- A closing tag that names a style which is not open. -/
  | unopened (tag : String) (position : Nat)
  /-- A closing tag without a name where no style is open. -/
  | nothingOpen (tag : String) (position : Nat)
  /-- The arguments of an action, as they were read and in what was written, are no literal. -/
  | badArguments (arguments written : String) (flaw : Literal.Flaw)
  deriving DecidableEq, Repr

/-- The kinds of a fault that something outside reports in its own words. -/
inductive ReportedKind where
  | harness
  | configuration
  | system
  | permission
  | notFound
  | runtime
  | value
  | outOfRange
  deriving DecidableEq, Repr

/-- A **fault**: why an action did not come to its end. -/
inductive Fault where
  | system (error : SystemError) (path : String)
  | noExecutable (name : String)
  | embeddedNull
  | linkLoop (path : String)
  | noHome
  | emptyCommand
  | commandFailed (command : List String) (status : Int) (stdout stderr : Option String)
  | unanchoredPattern (pattern : String)
  | badPattern (pattern : String) (problem : Pattern.Problem)
  | hugeRepetition
  | noNumber
  | overlongNumber (digits : Nat)
  | unknownDriver (name : String) (known : List String)
  | noSuchKey (key : String)
  | duplicateDriver (name : String)
  | unknownKind (name : String)
  | badMarkup (problem : MarkupProblem)
  | badFields (problems : List FieldProblem)
  | closedInput
  | reported (kind : ReportedKind) (message : String)
  deriving DecidableEq, Repr

/-- The wording of a problem with markup. -/
def MarkupProblem.message : MarkupProblem → String
  | unopened tag position =>
    "closing tag '" ++ tag ++ "' at position " ++ toString position ++ " doesn't match any open tag"
  | nothingOpen tag position =>
    "closing tag '" ++ tag ++ "' at position " ++ toString position ++ " has nothing to close"
  | badArguments arguments written flaw =>
    let place := if flaw.isFormal then Text.quoted arguments ++ " in " else ""
    "error parsing " ++ place ++ Text.quoted written ++ "; " ++ flaw.message

/-- The wording of a fault. -/
def Fault.message : Fault → String
  | system error path =>
    "[Errno " ++ toString error.number ++ "] " ++ error.description ++ ": " ++ Text.quoted path
  | noExecutable name => "Executable '" ++ name ++ "' was not found on PATH"
  | embeddedNull => "embedded null byte"
  | linkLoop path => "Symlink loop from " ++ Text.quoted path
  | noHome => "Could not determine home directory."
  | emptyCommand => "subprocess command requires at least one argument"
  | commandFailed command status _ stderr =>
    let told := match stderr with
      | none | some "" => "<none>"
      | some s => s
    "Command '" ++ command.headD "" ++ "' exited with status " ++ toString status ++ ". stderr: "
      ++ told
  | unanchoredPattern pattern => "Directive pattern '" ++ pattern ++ "' must be anchored with '^'"
  | badPattern pattern problem =>
    "Invalid directive pattern '" ++ pattern ++ "': " ++ problem.message pattern
  | hugeRepetition => Pattern.Cause.hugeRepeat.message
  | noNumber => "invalid literal for int() with base 10: ''"
  | overlongNumber digits => (Pattern.Cause.overlongNumber digits).message
  | unknownDriver name known =>
    let names := ", ".intercalate known
    let told := if names.isEmpty then "<none>" else names
    "Unknown driver '" ++ name ++ "' (known drivers: " ++ told ++ ")"
  | noSuchKey key => Text.quoted key
  | duplicateDriver name => "Driver '" ++ name ++ "' already registered"
  | unknownKind name => Text.quoted name ++ " is not a valid LinterKind"
  | badMarkup problem => problem.message
  | badFields problems => toString problems.length ++ " bad fields"
  | closedInput => "I/O operation on closed file."
  | reported _ message => message

namespace Fault

/-- Whether the fault says that something does not exist: a file, or an executable. -/
def isNotFound : Fault → Bool
  | system .notFound _ | noExecutable _ | reported .notFound _ => true
  | _ => false

/-- Whether the fault comes from the operating system. -/
def isSystem : Fault → Bool
  | system _ _ | noExecutable _ | reported .notFound _ | reported .permission _
  | reported .system _ => true
  | _ => false

/-- Whether the fault is one of this library's own configuration. -/
def isHarness : Fault → Bool
  | unanchoredPattern _ | badPattern _ _ | unknownDriver _ _ | reported .harness _
  | reported .configuration _ => true
  | _ => false

/-- Whether the fault is that of a command whose failure was to be reported. -/
def isCommandFailure : Fault → Bool
  | commandFailed .. => true
  | _ => false

/-- Whether the fault is about a value that cannot be used. -/
def isValue : Fault → Bool
  | embeddedNull | emptyCommand | noNumber | overlongNumber _ | duplicateDriver _ | unknownKind _
  | badFields _ | closedInput | reported .value _ => true
  | _ => false

/-- Whether a driver's run may end with the fault without ending the runs of other drivers. -/
def isContained (f : Fault) : Bool := f.isHarness || f.isSystem || f.isCommandFailure

/-- A missing file or executable is a fault of the operating system. -/
theorem isSystem_of_isNotFound {f : Fault} (h : f.isNotFound = true) : f.isSystem = true := by
  cases f with
  | reported kind message => cases kind <;> simp_all [isNotFound, isSystem]
  | _ => simp_all [isNotFound, isSystem]

end Fault

end OptIn
