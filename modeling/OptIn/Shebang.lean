import OptIn.Driver.Basic
import OptIn.Host.Basic
import OptIn.Text.Utf8

/-!
# The kind of a file by its first line

A file that starts with `#!` names the program that interprets it. `interpreterKind` reads such a
line; a program started through `env` counts as itself. At most 256 bytes of the first line are
looked at.
-/

namespace OptIn

/-- The name of a program in a word of a command line. -/
def programName (word : List Char) : String := (Path.ofText (String.ofList word)).name

/-- Whether a word behind `env` is not the program: an option, or the setting of a variable. -/
def isEnvArgument (word : List Char) : Bool := word.head? = some '-' || word.contains '='

/-- The program that the words of a first line start. -/
def interpreter? : List (List Char) → Option String
  | [] => none
  | word :: rest =>
    if programName word = "env" then
      (rest.filter fun w => !isEnvArgument w).head?.map programName
    else some (programName word)

/-- The kind of the files that a program interprets. -/
def kindOfProgram (name : String) : Option LinterKind :=
  if "python".toList.isPrefixOf name.toList then some .python else none

/-- The kind of file that a first line stands for; its first two characters do not count. -/
def interpreterKind (line : List Char) : Option LinterKind :=
  (interpreter? (Text.words (line.drop 2))).bind kindOfProgram

/-- The number of bytes of a first line that are looked at. -/
def shebangLimit : Nat := 256

/-- The bytes up to the first line feed, which is one of them. -/
def firstLine : List UInt8 → List UInt8
  | [] => []
  | b :: bs => if b = 0x0A then [b] else b :: firstLine bs

/-- The kind of file that some bytes stand for by their first line. -/
def kindOfBytes (bytes : List UInt8) : Option LinterKind :=
  let line := firstLine (bytes.take shebangLimit)
  if [0x23, 0x21].isPrefixOf line then interpreterKind (Text.Utf8.decode line) else none

/-- A **detector** finds the kind of a file by looking into it. -/
abbrev Detector := Host → Path → Except Fault (Option LinterKind)

/-- The detector that goes by the first line. A file that cannot be read has no kind. -/
def shebangDetector : Detector := fun h p =>
  match h.read p with
  | .ok bytes => .ok (kindOfBytes bytes)
  | .error e => if e.isSystem then .ok none else .error e

end OptIn
