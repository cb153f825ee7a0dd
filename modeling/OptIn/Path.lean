import OptIn.Text.Blank

/-!
# Paths

A path is an anchor and a list of parts. Reading the written form drops empty parts and the part
`.`, and keeps `..`; two leading slashes are an anchor of their own, three or more are one. Nothing
here looks at a disk.
-/

namespace OptIn

/-- What a path starts from: the place it is used at, the root, or the root written with two
slashes. -/
inductive Anchor where
  | relative
  | root
  | doubleRoot
  deriving DecidableEq, Repr

/-- The written form of an anchor. -/
def Anchor.text : Anchor → String
  | relative => ""
  | root => "/"
  | doubleRoot => "//"

/-- A **path**: an anchor and the parts behind it. -/
@[ext]
structure Path where
  anchor : Anchor
  parts : List String
  deriving DecidableEq, Repr

/-- The pieces of a text between slashes, empty ones included. -/
def slashPieces (s : String) : List String :=
  (Text.pieces (· = '/') s.toList).map String.ofList

namespace Path

/-- The anchor that a text starts with. -/
def anchorOf : List Char → Anchor
  | '/' :: '/' :: '/' :: _ => .root
  | '/' :: '/' :: _ => .doubleRoot
  | '/' :: _ => .root
  | _ => .relative

/-- The path that a text writes. -/
def ofText (s : String) : Path :=
  ⟨anchorOf s.toList, (slashPieces s).filter fun part => part ≠ "" && part ≠ "."⟩

/-- The written form of a path; the path without anchor and parts is `.`. -/
def text (p : Path) : String :=
  if p.anchor = .relative && p.parts.isEmpty then "."
  else p.anchor.text ++ "/".intercalate p.parts

/-- Whether a path starts from the root. -/
def isAbsolute (p : Path) : Bool := p.anchor ≠ .relative

/-- The path `q` as seen from `p`. -/
def join (p q : Path) : Path :=
  if q.isAbsolute then q else ⟨p.anchor, p.parts ++ q.parts⟩

/-- The path with a name, as it is written, behind it. -/
def child (p : Path) (name : String) : Path := p.join (ofText name)

/-- The path without its last part. -/
def parent (p : Path) : Path := { p with parts := p.parts.dropLast }

/-- The last part, empty if there is none. -/
def name (p : Path) : String := p.parts.getLast?.getD ""

/-- The final extension of a name: what stands from the last dot on, if there is something before
that dot and something behind it. -/
def extension (name : List Char) : List Char :=
  let tail := name.reverse.takeWhile (· ≠ '.')
  let front := name.reverse.dropWhile (· ≠ '.')
  if tail.isEmpty || front.length ≤ 1 then [] else '.' :: tail.reverse

/-- The final extension of the last part, with its dot, or nothing. -/
def suffix (p : Path) : String := String.ofList (extension p.name.toList)

/-- What is left of `p` behind `base`, when the parts of `base` begin those of `p`. -/
def relativeTo? (p base : Path) : Option Path :=
  if p.anchor = base.anchor && base.parts.isPrefixOf p.parts then
    some ⟨.relative, p.parts.drop base.parts.length⟩
  else none

/-- The absolute path with given parts. -/
def absolute (parts : List String) : Path := ⟨.root, parts⟩

end Path

end OptIn
