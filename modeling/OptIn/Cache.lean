import OptIn.World

/-!
# The cache of successes

A cache is a directory with an empty marker for each file whose last linting succeeded. A marker
that is younger than its file vouches for the file. The name of a marker is the file's path with
`%` for each slash between names.
-/

namespace OptIn

/-- The name of the marker of a path. -/
def cacheKey (p : Path) : String :=
  let isSlash := fun c : Char => c = '/'
  let inside := Text.trimRightBy isSlash (p.text.toList.dropWhile isSlash)
  String.ofList (inside.map fun c => if c = '/' then '%' else c)

/-- A **cache** of successes in a directory. -/
structure ResultCache where
  directory : Path
  deriving DecidableEq, Repr

namespace ResultCache

/-- The name under which the cache leaves notes. -/
def logger : String := "optlint.cache.result_store"

/-- The marker of a path. -/
def entry (c : ResultCache) (p : Path) : Path := c.directory.child (cacheKey p)

/-- How a truth value is noted. -/
def truthText (b : Bool) : String := if b then "True" else "False"

/-- The times of the marker and of the file. -/
def times (c : ResultCache) (p : Path) (h : Host) : Except Fault (Int × Int) := do
  let recorded ← h.changed (c.entry p)
  let changed ← h.changed p
  return (recorded, changed)

/-- Whether the cache vouches for a file: its marker is there and younger than the file. -/
def isValid (c : ResultCache) (p : Path) : Action World Bool := do
  match ← (World.ask (c.times p)).attempt with
  | .ok (recorded, changed) =>
    let valid := changed < recorded
    World.note logger ("cache path=" ++ p.text ++ " valid=" ++ truthText valid)
    return valid
  | .error e => if e.isNotFound then return false else throw e

/-- Records a success: the marker of the file is made, or made young again. -/
def record (c : ResultCache) (p : Path) : Action World Unit := do
  World.onHost (Host.makeDirectories c.directory)
  World.onHost (Host.touch (c.entry p))
  World.note logger ("cache record path=" ++ p.text ++ " entry=" ++ (c.entry p).text)

end ResultCache

end OptIn
