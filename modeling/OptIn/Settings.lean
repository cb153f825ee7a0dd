import OptIn.Driver.Basic
import OptIn.Host.Resolve

/-!
# Settings of a run

Where a run takes place, where it keeps its cache, how it prints, and what it insists on.
`Settings.ofEnvironment` finds the root and the cache; a cache directory named by the environment is
seen from the root, so it is absolute whenever the root is.
-/

namespace OptIn

/-- The settings that all parts of a run share. -/
structure Settings where
  root : Path
  cacheRoot : Path
  color : Bool := true
  emoji : Bool := true
  /-- Whether files that do not ask for it are linted as well. -/
  forceAll : Bool := false
  /-- Whether a run without candidates is at fault. -/
  requireCandidates : Bool := true
  environ : List (String × String) := []
  deriving DecidableEq, Repr

namespace Settings

/-- The environment variable that names the cache directory. -/
def cacheVariable : String := "OPTLINT_CACHE_DIR"

/-- The cache directory when none is named. -/
def defaultCache : Path := Path.ofText ".lint-cache"

/-- The path with the home directory in place of a leading `~`, or of `~` and a user's name. -/
def expandHome (h : Host) (p : Path) : Except Fault Path :=
  match p.anchor, p.parts with
  | .relative, part :: rest =>
    match part.toList with
    | '~' :: user => do
      let home := if user.isEmpty then h.valueOf? "HOME" else h.homes.lookup (String.ofList user)
      match home with
      | none => throw .noHome
      | some dir =>
        let dir := String.ofList (Text.trimRightBy (· = '/') dir.toList)
        let home := Path.ofText (if dir.isEmpty then "/" else dir)
        if dir.toList.head? = some '~' then throw .noHome
        return ⟨home.anchor, home.parts ++ rest⟩
    | _ => return p
  | _, _ => return p

/-- The settings for an environment. The root is the working directory if none is given. -/
def ofEnvironment (h : Host) (environ : List (String × String)) (root : Option String) :
    Except Fault Settings := do
  let root ← h.resolve ((root.map Path.ofText).getD h.here)
  let named := Text.trimmed ((environ.lookup cacheVariable).getD "")
  let cache ← if named.isEmpty then pure defaultCache else expandHome h (Path.ofText named)
  return { root, cacheRoot := root.join cache, environ }

/-- The directory in which a driver keeps its part of the cache. -/
def cacheDirectory (s : Settings) (d : Driver) : Path := s.cacheRoot.child d.name

end Settings

end OptIn
