import OptIn.Host.Basic

/-!
# Resolving the links of a path

`Host.resolve` gives the absolute path without links that a path means. It goes along the written
path and keeps the trail of what is resolved so far. A link is remembered by the trail that led to
it. A link that is met again while its own target is being resolved ends the walk: everything that
is still unresolved then stays behind it as it is written.
-/

namespace OptIn

/-- A **trail**: names from the root or from the working directory, none of them a link. Only a
trail from the working directory may begin with `..`. -/
structure Trail where
  fromRoot : Bool
  names : List String
  deriving DecidableEq, Repr

namespace Trail

/-- The trail that ends at the root. -/
def root : Trail := ⟨true, []⟩

/-- The trail that ends at the working directory. -/
def here : Trail := ⟨false, []⟩

/-- The written form of a trail. -/
def text (t : Trail) : String := (if t.fromRoot then "/" else "") ++ "/".intercalate t.names

/-- The trail with a name behind it. -/
def down (t : Trail) (name : String) : Trail := { t with names := t.names ++ [name] }

/-- The trail to the directory above. -/
def up (t : Trail) : Trail :=
  match t.names.getLast? with
  | none | some ".." => if t.fromRoot then t else t.down ".."
  | some _ => { t with names := t.names.dropLast }

/-- The address at the end of a trail. -/
def address (t : Trail) (cwd : Address) : Address :=
  t.names.foldl (fun a name => if name = ".." then a.dropLast else a ++ [name])
    (if t.fromRoot then [] else cwd)

/-- The way down and up again leads back. -/
@[simp] theorem up_down {t : Trail} {name : String} (h : name ≠ "..") : (t.down name).up = t := by
  simp [down, up]

end Trail

/-- What resolving has found out: the links entered so far, each with its target once that is
known, latest first. -/
abbrev SeenLinks := List (Trail × Option Trail)

/-- How resolving ends: with a trail, or at a loop with the unresolved rest behind it. -/
inductive Resolved where
  | done (t : Trail) (seen : SeenLinks)
  | looping (text : String)
  deriving Repr

/-- The text of a path seen from another one, both as written. -/
def joinedText (a b : String) : String :=
  if b.toList.head? = some '/' then b
  else if a.isEmpty || a.toList.getLast? = some '/' then a ++ b
  else a ++ "/" ++ b

/-- The absolute path that a text writes when `..` simply takes back the name before it. -/
def plainPath (s : String) : Path :=
  ⟨Path.anchorOf s.toList, (slashPieces s).foldl (fun a p =>
    if p = "" || p = "." then a else if p = ".." then a.dropLast else a ++ [p]) []⟩

namespace Host

/-- The target of the link at the end of a trail, if there is one. A trail whose text is too long
leads to nothing. -/
def linkAt? (h : Host) (t : Trail) : Option String :=
  if Disk.textLimit < t.text.utf8ByteSize then none
  else
    match h.disk.node? (t.address h.cwd) with
    | some (.link target) => some target
    | _ => none

/-- Resolves pieces of a path behind a trail; a link that is new goes through `enter`. -/
def resolveWith (h : Host) (enter : Trail → List String → SeenLinks → Except Fault Resolved) :
    Trail → List String → SeenLinks → Except Fault Resolved
  | t, [], seen => .ok (.done t seen)
  | t, piece :: rest, seen =>
    if piece = "" || piece = "." then resolveWith h enter t rest seen
    else if piece = ".." then resolveWith h enter t.up rest seen
    else if holdsNull piece then .error .embeddedNull
    else
      let next := t.down piece
      let left := "/".intercalate rest
      match h.linkAt? next with
      | none => resolveWith h enter next rest seen
      | some target =>
        match seen.lookup next with
        | some (some known) => resolveWith h enter known rest seen
        | some none => .ok (.looping (joinedText next.text left))
        | none => do
          let start := if target.toList.head? = some '/' then Trail.root else t
          match ← enter start (slashPieces target) ((next, none) :: seen) with
          | .done u seen => resolveWith h enter u rest ((next, some u) :: seen)
          | .looping s => return .looping (joinedText s left)

/-- Resolves pieces of a path behind a trail, entering links at most so deep. -/
def resolveFrom (h : Host) : Nat → Trail → List String → SeenLinks → Except Fault Resolved
  | 0 => resolveWith h fun t pieces _ => .ok (.looping (joinedText t.text ("/".intercalate pieces)))
  | depth + 1 => resolveWith h (resolveFrom h depth)

/-- How many links can be entered inside one another: each by a trail of its own, from the root or
from the working directory and those above it. -/
def depthLimit (h : Host) : Nat := (h.disk.linkCount + 1) * (h.cwd.length + 2)

/-- The absolute path without links that a path means. Names that do not exist stay as they are; a
path whose links run in a circle, or through too many links, is a fault. -/
def resolve (h : Host) (p : Path) : Except Fault Path := do
  let start := if p.isAbsolute then Trail.root else Trail.here
  let s ← match ← h.resolveFrom h.depthLimit start (slashPieces p.text) [] with
    | .done t _ => pure t.text
    | .looping s => pure s
  let q := plainPath (joinedText h.here.text s)
  match h.stat q with
  | .error (.system .tooManyLinks s) => throw (.linkLoop s)
  | .error .embeddedNull => throw .embeddedNull
  | _ => return q

end Host

end OptIn
