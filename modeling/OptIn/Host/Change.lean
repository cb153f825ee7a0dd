import OptIn.Action
import OptIn.Host.Basic

/-!
# Hosts: what can be done to them

The actions that change a disk. Whatever makes or removes a name stamps the directory that holds it
with the current time.
-/

namespace OptIn.Host

/-- Stamps what stands at an address with a time. -/
def stampAt (d : Disk) (a : Address) (t : Int) : Disk :=
  match d.node? a with
  | some n => d.put a (n.stamp t)
  | none => d

/-- Puts something new at an address. -/
def add (h : Host) (a : Address) (n : Node) : Host :=
  { h with disk := (stampAt h.disk a.dropLast h.clock).put a n }

/-- Takes away what stands at an address. -/
def remove (h : Host) (a : Address) : Host :=
  { h with disk := (stampAt h.disk a.dropLast h.clock).clear a }

/-- Puts something where something else stands. -/
def replace (h : Host) (a : Address) (n : Node) : Host := { h with disk := h.disk.put a n }

/-- Makes one directory. -/
def makeDirectory (p : Path) : Action Host Unit := do
  let h ← get
  match ← h.placeOf .examine p.text with
  | .taken .. => throw (.system .alreadyExists p.text)
  | .vacant a => set (h.add a (.directory h.clock))

/-- Goes on after a directory could not be made, if one is there all the same. -/
def unlessThere (p : Path) (e : Fault) : Action Host Unit := do
  if e.isSystem then
    let there ← (← get).isDirectory p
    unless there do throw e
  else throw e

/-- Makes one directory unless it is there. -/
def ensureDirectory (p : Path) : Action Host Unit := do
  match ← (makeDirectory p).attempt with
  | .ok _ => return ()
  | .error e => if e.isNotFound then throw e else unlessThere p e

/-- Makes a directory and those above it as far as they are missing; `depth` bounds how many. -/
def makeDirectoriesWithin : Nat → Path → Action Host Unit
  | 0, p => ensureDirectory p
  | depth + 1, p => do
    match ← (makeDirectory p).attempt with
    | .ok _ => return ()
    | .error e =>
      if e.isNotFound then
        makeDirectoriesWithin depth p.parent
        ensureDirectory p
      else unlessThere p e

/-- Makes a directory and those above it as far as they are missing. -/
def makeDirectories (p : Path) : Action Host Unit := makeDirectoriesWithin p.parts.length p

/-- Makes an empty file unless something is there, and stamps it with the current time. -/
def touch (p : Path) : Action Host Unit := do
  let h ← get
  match h.stat p with
  | .ok (a, n) => set (h.replace a (n.stamp h.clock))
  | .error _ =>
    match ← h.placeOf .create p.text with
    | .taken a n => set (h.replace a (n.stamp h.clock))
    | .vacant a => set (h.add a (.file [] false h.clock))

/-- Stamps what stands at a path with a time. -/
def setTime (p : Path) (t : Int) : Action Host Unit := do
  let h ← get
  let (a, n) ← h.stat p
  set (h.replace a (n.stamp t))

/-- Writes a file, new or in place of another. -/
def writeFile (p : Path) (bytes : List UInt8) (executable : Bool) (t : Int) : Action Host Unit := do
  let h ← get
  let n := Node.file bytes executable t
  match ← h.placeOf .create p.text with
  | .taken _ (.directory _) => throw (.system .isDirectory p.text)
  | .taken a _ => set (h.replace a n)
  | .vacant a => set (h.add a n)

/-- Makes a symbolic link. -/
def makeLink (p : Path) (target : String) : Action Host Unit := do
  let h ← get
  match ← h.placeOf .examine p.text with
  | .taken .. => throw (.system .alreadyExists p.text)
  | .vacant a => set (h.add a (.link target))

/-- Removes a file or a link. -/
def unlink (p : Path) : Action Host Unit := do
  let h ← get
  match ← h.placeOf .examine p.text with
  | .taken _ (.directory _) => throw (.system .isDirectory p.text)
  | .taken a _ => set (h.remove a)
  | .vacant _ => throw (.system .notFound p.text)

end OptIn.Host
