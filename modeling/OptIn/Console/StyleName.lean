import OptIn.Console.Color
import OptIn.Text.Lowercase

/-!
# Names of styles

A style is named by words: attributes such as `bold`, a colour, `on` with a colour of the
background, `not` with an attribute, and `link` with a target. The same style can be named in many
ways; `styleName` gives one name for all of them, and names that mean no style stand for themselves.
-/

namespace OptIn.Console

/-- The attributes that a style can have, in the order in which they are named, each with its other
spellings. -/
def attributes : List (String × List String) := [
  ("bold", ["b"]), ("dim", ["d"]), ("italic", ["i"]), ("underline", ["u"]), ("blink", []),
  ("blink2", []), ("reverse", ["r"]), ("conceal", ["c"]), ("strike", ["s"]),
  ("underline2", ["uu"]), ("frame", []), ("encircle", []), ("overline", ["o"])]

/-- The attribute that a word means. -/
def attribute? (word : List Char) : Option String :=
  let w := String.ofList word
  (attributes.find? fun a => a.1 = w || a.2.contains w).map (·.1)

/-- A style as it is put together from words. -/
structure StyleWords where
  set : List (String × Bool) := []
  color : Option String := none
  background : Option String := none
  link : Option String := none
  deriving DecidableEq, Repr

namespace StyleWords

/-- The style with an attribute switched on or off. -/
def switch (s : StyleWords) (word : String) (on : Bool) : StyleWords :=
  { s with set := (word, on) :: s.set.filter (·.1 ≠ word) }

/-- The style with an attribute or a colour that a word in small letters means. -/
def addWord (s : StyleWords) (word : List Char) : Except Fault (Option StyleWords) := do
  match attribute? word with
  | some a => return some (s.switch a true)
  | none =>
    if ← isColor word then return some { s with color := some (String.ofList word) }
    else return none

/-- Whether a word in small letters says how to take the word behind it. -/
def isLeader (word : List Char) : Bool := ["on", "not", "link"].contains (String.ofList word)

/-- The style with what a word means behind one of `on`, `not` and `link`. -/
def addLed (s : StyleWords) (leader word : List Char) : Except Fault (Option StyleWords) := do
  if leader = "on".toList then
    let color := Text.lowercase word
    if ← isColor color then return some { s with background := some (String.ofList color) }
    else return none
  else if leader = "not".toList then return (attribute? word).map fun a => s.switch a false
  else return some { s with link := some (String.ofList word) }

/-- Adds words to a style, unless one of them means nothing. -/
def add : StyleWords → List (List Char) → Except Fault (Option StyleWords)
  | s, [] => .ok (some s)
  | s, [word] =>
    let small := Text.lowercase word
    if isLeader small then .ok none else s.addWord small
  | s, word :: next :: rest => do
    let small := Text.lowercase word
    if isLeader small then
      match ← s.addLed small next with
      | some s => add s rest
      | none => return none
    else
      match ← s.addWord small with
      | some s => add s (next :: rest)
      | none => return none

/-- The name of a style: attributes in their order, the colour, the background and the link. -/
def name (s : StyleWords) : String :=
  let attrs := attributes.filterMap fun a =>
    (s.set.lookup a.1).map fun on => if on then a.1 else "not " ++ a.1
  let words := attrs ++ s.color.toList ++ (s.background.map ("on " ++ ·)).toList ++
    (s.link.map ("link " ++ ·)).toList
  if words.isEmpty then "none" else " ".intercalate words

end StyleWords

/-- The style that words name, if they name one. -/
def style? (cs : List Char) : Except Fault (Option StyleWords) :=
  if Text.trim cs = "none".toList then .ok (some {}) else StyleWords.add {} (Text.words cs)

/-- The name that a style goes by, whichever of its names is used. -/
def styleName (cs : List Char) : Except Fault String := do
  match ← style? cs with
  | some s => return s.name
  | none => return String.ofList (Text.lowercase (Text.trim cs))

end OptIn.Console
