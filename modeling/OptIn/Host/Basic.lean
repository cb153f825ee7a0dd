import OptIn.Disk.Basic

/-!
# Hosts: what can be asked of them

A host is a disk, a working directory, an environment and a clock. The questions in this module
change nothing: what stands at a path, and what a file holds. Faults name the path as it was given.
-/

namespace OptIn

/-- The machine that a run happens on. -/
structure Host where
  disk : Disk
  cwd : Address
  environ : List (String × String)
  /-- The home directories of users, by their names. -/
  homes : List (String × String)
  /-- The time, in nanoseconds, with which changes are stamped. -/
  clock : Int
  deriving Repr

/-- Whether a text holds the character NUL, which no name can. -/
def holdsNull (s : String) : Bool := s.toList.contains '\x00'

namespace Host

/-- The value of a variable of the environment. -/
def valueOf? (h : Host) (name : String) : Option String := h.environ.lookup name

/-- The working directory as a path. -/
def here (h : Host) : Path := Path.absolute h.cwd

/-- Where a path's text leads. -/
def placeOf (h : Host) (purpose : Disk.Purpose) (s : String) : Except Fault Disk.Place :=
  if holdsNull s then .error .embeddedNull
  else (h.disk.place h.cwd purpose s).mapError fun e => .system e s

/-- What stands where a path's text leads, links followed. -/
def statText (h : Host) (s : String) : Except Fault (Address × Node) := do
  match ← h.placeOf .use s with
  | .taken a n => return (a, n)
  | .vacant _ => throw (.system .notFound s)

/-- What stands where a path leads, links followed. -/
def stat (h : Host) (p : Path) : Except Fault (Address × Node) := h.statText p.text

/-- Whether a fault only says that nothing stands at a path. -/
def isAbsence : Fault → Bool
  | .embeddedNull | .system .notFound _ | .system .notDirectory _ | .system .tooManyLinks _ => true
  | _ => false

/-- Whether something stands at a path and satisfies `good`. A path that leads nowhere does not; a
name that is too long is a fault. -/
def holds (h : Host) (good : Node → Bool) (p : Path) : Except Fault Bool :=
  match h.stat p with
  | .ok (_, n) => .ok (good n)
  | .error e => if isAbsence e then .ok false else .error e

/-- Whether a path leads to a regular file. -/
def isFile (h : Host) (p : Path) : Except Fault Bool := h.holds Node.isFile p

/-- Whether a path leads to a directory. -/
def isDirectory (h : Host) (p : Path) : Except Fault Bool := h.holds Node.isDirectory p

/-- Whether a path leads to anything. -/
def isPresent (h : Host) (p : Path) : Except Fault Bool := h.holds (fun _ => true) p

/-- When what stands at a path was last changed. -/
def changed (h : Host) (p : Path) : Except Fault Int := (h.stat p).map (·.2.changed)

/-- The bytes of a file. -/
def read (h : Host) (p : Path) : Except Fault (List UInt8) := do
  match ← h.stat p with
  | (_, .file bytes _ _) => return bytes
  | _ => throw (.system .isDirectory p.text)

end Host

end OptIn
