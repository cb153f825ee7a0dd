import OptIn.Path
import OptIn.Fault

/-!
# Disks

A disk gives each address, the list of names below the root, what stands there: a file, a directory
or a symbolic link. `Disk.place` follows the names of a path the way the operating system does:
links on the way are followed, at most forty of them, and `..` is the directory above.
-/

namespace OptIn

/-- Where something stands on a disk: the names below the root, none of them a link or `..`. -/
abbrev Address := List String

/-- What stands at an address. Files and directories carry the time of their last change. -/
inductive Node where
  | file (bytes : List UInt8) (executable : Bool) (changed : Int)
  | directory (changed : Int)
  | link (target : String)
  deriving DecidableEq, Repr

/-- Whether a node is a regular file. -/
def Node.isFile : Node → Bool
  | file .. => true
  | _ => false

/-- Whether a node is a directory. -/
def Node.isDirectory : Node → Bool
  | directory _ => true
  | _ => false

/-- Whether a node is a symbolic link. -/
def Node.isLink : Node → Bool
  | link _ => true
  | _ => false

/-- When a node was last changed; links do not tell. -/
def Node.changed : Node → Int
  | file _ _ t | directory t => t
  | link _ => 0

/-- The node with another time of its last change. -/
def Node.stamp (t : Int) : Node → Node
  | file bytes executable _ => file bytes executable t
  | directory _ => directory t
  | link target => link target

/-- A **disk**: what stands where, each address once. -/
structure Disk where
  entries : List (Address × Node)
  deriving Repr

namespace Disk

/-- The disk that holds only its root. -/
def empty : Disk := ⟨[([], .directory 0)]⟩

/-- What stands at an address. -/
def node? (d : Disk) (a : Address) : Option Node := d.entries.lookup a

/-- The disk with a node at an address, in place of any other there. -/
def put (d : Disk) (a : Address) (n : Node) : Disk :=
  ⟨(a, n) :: d.entries.filter fun e => e.1 ≠ a⟩

/-- The disk with nothing at an address. -/
def clear (d : Disk) (a : Address) : Disk := ⟨d.entries.filter fun e => e.1 ≠ a⟩

theorem lookup_filter_ne {entries : List (Address × Node)} {a b : Address} (h : b ≠ a) :
    (entries.filter fun e => e.1 ≠ a).lookup b = entries.lookup b := by
  induction entries with
  | nil => rfl
  | cons e es ih =>
    obtain ⟨k, v⟩ := e
    by_cases hk : k = a
    · subst hk
      have hb : (b == k) = false := by simpa using h
      rw [List.filter_cons_of_neg (by simp), ih, List.lookup_cons, hb]
    · rw [List.filter_cons_of_pos (by simpa using hk), List.lookup_cons, List.lookup_cons, ih]

@[simp] theorem node?_put_self (d : Disk) (a : Address) (n : Node) :
    (d.put a n).node? a = some n := by
  simp [node?, put]

/-- Putting a node somewhere changes nothing elsewhere. -/
theorem node?_put_of_ne {d : Disk} {a b : Address} {n : Node} (h : b ≠ a) :
    (d.put a n).node? b = d.node? b := by
  have hb : (b == a) = false := by simpa using h
  simpa [node?, put, List.lookup_cons, hb] using lookup_filter_ne h

theorem node?_clear_of_ne {d : Disk} {a b : Address} (h : b ≠ a) :
    (d.clear a).node? b = d.node? b := lookup_filter_ne h

@[simp] theorem node?_clear_self (d : Disk) (a : Address) : (d.clear a).node? a = none := by
  simp only [node?, clear]
  induction d.entries with
  | nil => rfl
  | cons e es ih =>
    obtain ⟨k, v⟩ := e
    by_cases hk : k = a
    · rw [List.filter_cons_of_neg (by simp [hk]), ih]
    · have ha : (a == k) = false := by simpa using fun h => hk h.symm
      rw [List.filter_cons_of_pos (by simpa using hk), List.lookup_cons, ha]
      exact ih

/-! ### Following names -/

/-- The names of a path's text in order. A slash at the end asks for a directory and counts as an
empty name. -/
def namesOf (s : String) : List String :=
  let ps := (slashPieces s).filter (· ≠ "")
  if s.toList.getLast? = some '/' && !ps.isEmpty then ps ++ [""] else ps

/-- What a path is followed for. -/
inductive Purpose where
  /-- To use what stands at its end, links followed. -/
  | use
  /-- To look at what stands at its end, even if it is a link. -/
  | examine
  /-- To use the file at its end, links followed, or to make one there. -/
  | create
  deriving DecidableEq, Repr

/-- Where a path leads. -/
inductive Place where
  /-- Something stands there. -/
  | taken (a : Address) (n : Node)
  /-- Nothing stands there, but a directory is there to hold it. -/
  | vacant (a : Address)
  deriving DecidableEq, Repr

/-- The greatest number of bytes in one name. -/
def nameLimit : Nat := 255

/-- The greatest number of bytes in the text of a path. -/
def textLimit : Nat := 4095

/-- The greatest number of links followed on one path. -/
def linkLimit : Nat := 40

/-- Where the target of a link starts. -/
def startOf (here : Address) (target : String) : Address :=
  if target.toList.head? = some '/' then [] else here

/-- Follows names from a directory. A link goes through `jump`, unless it is the last name and is to
be examined itself. No file can be made whose name is written with a slash behind it. -/
def followWith (d : Disk) (purpose : Purpose)
    (jump : Address → List String → Except SystemError Place) :
    Address → List String → Except SystemError Place
  | here, [] =>
    match d.node? here with
    | some n => .ok (.taken here n)
    | none => .error .notFound
  | here, name :: rest =>
    match d.node? here with
    | some (.directory _) =>
      if name = "" || name = "." then followWith d purpose jump here rest
      else if name = ".." then followWith d purpose jump here.dropLast rest
      else if purpose = .create && rest = [""] then .error .isDirectory
      else if nameLimit < name.utf8ByteSize then .error .nameTooLong
      else
        match d.node? (here ++ [name]) with
        | none => if rest.isEmpty then .ok (.vacant (here ++ [name])) else .error .notFound
        | some (.link target) =>
          if purpose = .examine && rest.isEmpty then .ok (.taken (here ++ [name]) (.link target))
          else if target.isEmpty then .error .notFound
          else jump (startOf here target) (namesOf target ++ rest)
        | some _ => followWith d purpose jump (here ++ [name]) rest
    | some _ => .error .notDirectory
    | none => .error .notFound

/-- Follows names from a directory, with so many links at most. -/
def follow (d : Disk) (purpose : Purpose) : Nat → Address → List String → Except SystemError Place
  | 0 => followWith d purpose fun _ _ => .error .tooManyLinks
  | links + 1 => followWith d purpose (follow d purpose links)

/-- Where a path's text leads from a directory. -/
def place (d : Disk) (cwd : Address) (purpose : Purpose) (s : String) : Except SystemError Place :=
  if s.isEmpty then .error .notFound
  else if textLimit < s.utf8ByteSize then .error .nameTooLong
  else d.follow purpose linkLimit (startOf cwd s) (namesOf s)

/-- What stands where a path's text leads, links followed. -/
def stat (d : Disk) (cwd : Address) (s : String) : Except SystemError (Address × Node) := do
  match ← d.place cwd .use s with
  | .taken a n => return (a, n)
  | .vacant _ => throw .notFound

/-- The number of symbolic links on a disk. -/
def linkCount (d : Disk) : Nat := d.entries.countP (·.2.isLink)

/-- The names in a directory. -/
def names (d : Disk) (a : Address) : List String :=
  d.entries.filterMap fun e =>
    if e.1.length = a.length + 1 && e.1.dropLast = a then e.1.getLast? else none

end Disk

end OptIn
