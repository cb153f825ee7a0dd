import OptIn.Number.Shortest
import OptIn.Result
import OptIn.Settings
import OptIn.Text.Numeral

/-!
# Records read from untyped fields

Candidates, results and settings can be given as fields with values of any shape. Each reader takes
what it can make sense of: truth values in words and numbers, whole numbers in several spellings,
paths and lists of texts. All flaws are told at once, in the order of the fields.
-/

namespace OptIn

/-- A value of any shape. Numbers with a fraction or an exponent are in floating point. -/
inductive RawValue where
  | null
  | truth (b : Bool)
  | whole (n : Int)
  | float (x : Floating)
  | text (s : String)
  | list (xs : List RawValue)
  | record (fields : List (String × RawValue))
  deriving Repr, Inhabited

namespace RawValue

mutual

/-- The written form of a value inside another. -/
def inner : RawValue → String
  | null => "None"
  | truth b => if b then "True" else "False"
  | whole n => toString n
  | float x => x.text
  | text s => Text.quoted s
  | list xs => "[" ++ ", ".intercalate (innerAll xs) ++ "]"
  | record fields => "\x7b" ++ ", ".intercalate (innerFields fields) ++ "\x7d"

/-- The written forms of values. -/
def innerAll : List RawValue → List String
  | [] => []
  | x :: xs => inner x :: innerAll xs

/-- The written forms of fields. -/
def innerFields : List (String × RawValue) → List String
  | [] => []
  | (k, x) :: rest => (Text.quoted k ++ ": " ++ inner x) :: innerFields rest

end

/-- The text that a value stands for: a text itself, anything else its written form. -/
def written : RawValue → String
  | text s => s
  | v => v.inner

end RawValue

/-- A value that has been read, or everything that is wrong with it. -/
abbrev Checked (α : Type) := Except (List FieldProblem) α

namespace Checked

/-- One problem, of the value itself. -/
def flaw {α : Type} (f : FieldFlaw) : Checked α := .error [⟨[], f⟩]

/-- The problems of a value, told as those of a field. -/
def inField {α : Type} (name : String) (x : Checked α) : Checked α :=
  x.mapError fun ps => ps.map fun p => { p with location := name :: p.location }

/-- Two values with the problems of both. -/
def both {α β : Type} (x : Checked α) (y : Checked β) : Checked (α × β) :=
  match x, y with
  | .ok a, .ok b => .ok (a, b)
  | .ok _, .error q => .error q
  | .error p, .ok _ => .error p
  | .error p, .error q => .error (p ++ q)

/-- All values with the problems of all. -/
def all {α : Type} : List (Checked α) → Checked (List α)
  | [] => .ok []
  | x :: xs => (x.both (all xs)).map fun r => r.1 :: r.2

/-- The value, or a fault with the problems. -/
def orFault {α : Type} (x : Checked α) : Except Fault α := x.mapError .badFields

end Checked

namespace RawValue

/-- The words that stand for yes. -/
def yesWords : List String := ["1", "on", "t", "true", "y", "yes"]

/-- The words that stand for no. -/
def noWords : List String := ["0", "off", "f", "false", "n", "no"]

/-- The text with the capital letters of ASCII made small. -/
def lowered (s : String) : String := String.ofList (s.toList.map Char.toLower)

/-- Whether a number fits into a signed word of 64 bits. -/
def fitsWord (n : Int) : Bool := -9223372036854775808 ≤ n && n < 9223372036854775808

/-- Whether a number is small enough to stand for a truth value in floating point: it and its
opposite fit into a word. -/
def fitsBothWays (n : Int) : Bool := fitsWord n && fitsWord (-n)

/-- Reads a truth value. -/
def asTruth : RawValue → Checked Bool
  | truth b => .ok b
  | whole n => ofWhole (fitsWord n) n
  | float x =>
    match x.whole? with
    | some n => ofWhole (fitsBothWays n) n
    | none => Checked.flaw .badTruth
  | text s =>
    if yesWords.contains (lowered s) then .ok true
    else if noWords.contains (lowered s) then .ok false
    else Checked.flaw .unreadTruth
  | _ => Checked.flaw .badTruth
where
  /-- Reads a truth value from a number that does or does not fit. -/
  ofWhole (fits : Bool) (n : Int) : Checked Bool :=
    if n = 0 then .ok false
    else if n = 1 then .ok true
    else Checked.flaw (if fits then .unreadTruth else .badTruth)

/-- Reads a whole number. -/
def asWhole : RawValue → Checked Int
  | truth b => .ok (if b then 1 else 0)
  | whole n => .ok n
  | float (.finite negative significand exponent) =>
    match (Floating.finite negative significand exponent).whole? with
    | some n => if fitsBothWays n then .ok n else Checked.flaw .oversizedNumber
    | none => Checked.flaw .fractionalNumber
  | float _ => Checked.flaw .endlessNumber
  | text s =>
    match Text.wholeNumber s.toList with
    | .ok n => .ok n
    | .error .unread => Checked.flaw .unreadNumber
    | .error .oversized => Checked.flaw .oversizedNumber
  | _ => Checked.flaw .badNumber

/-- Reads a path. -/
def asPath : RawValue → Checked Path
  | text s => .ok (Path.ofText s)
  | _ => Checked.flaw .badPath

/-- Reads a text. -/
def asText : RawValue → Checked String
  | text s => .ok s
  | _ => Checked.flaw .badText

/-- Reads one of some named choices. -/
def asChoice {α : Type} (ofName? : String → Option α) : RawValue → Checked α
  | text s => match ofName? s with
    | some a => .ok a
    | none => Checked.flaw .badChoice
  | _ => Checked.flaw .badChoice

/-- Reads a list of texts. -/
def asTexts : RawValue → Checked (List String)
  | list xs =>
    Checked.all (xs.zipIdx.map fun (x, i) => x.asText.inField (toString i))
  | _ => Checked.flaw .badSequence

/-- Reads texts by name. -/
def asTextMap : RawValue → Checked (List (String × String))
  | record fields =>
    Checked.all (fields.map fun (k, x) => (x.asText.inField k).map fun s => (k, s))
  | _ => Checked.flaw .badMap

end RawValue

/-- Named values of any shape. -/
abbrev Fields := List (String × RawValue)

namespace Fields

/-- Reads a field that has to be there. -/
def required {α : Type} (fs : Fields) (name : String) (read : RawValue → Checked α) : Checked α :=
  Checked.inField name <| match fs.lookup name with
    | some v => read v
    | none => Checked.flaw .missing

/-- Reads a field that may be left out. -/
def optional {α : Type} (fs : Fields) (name : String) (absent : α) (read : RawValue → Checked α) :
    Checked α :=
  match fs.lookup name with
  | some v => Checked.inField name (read v)
  | none => .ok absent

/-- Reads a candidate. -/
def candidate (fs : Fields) : Checked Candidate :=
  let path := fs.required "path" (·.asPath)
  let kind := fs.required "kind" (·.asChoice LinterKind.ofName?)
  let options := fs.optional "options" [] (·.asTexts)
  (path.both (kind.both options)).map fun (p, k, os) => ⟨p, k, os⟩

/-- Reads a candidate inside another record. -/
def candidateOf : RawValue → Checked Candidate
  | .record fs => candidate fs
  | _ => Checked.flaw .badRecord

/-- Reads a status that may be null. -/
def statusOf : RawValue → Checked (Option Int)
  | .null => .ok none
  | v => v.asWhole.map some

/-- Reads a result. -/
def lintResult (fs : Fields) : Checked LintResult :=
  let candidate := fs.required "candidate" candidateOf
  let classification := fs.required "classification" (·.asChoice Classification.ofName?)
  let status := fs.optional "returncode" none statusOf
  (candidate.both (classification.both status)).map fun (c, k, n) => ⟨c, k, n⟩

/-- Reads settings; fields that are left out keep their values from `base`. -/
def settings (fs : Fields) (base : Settings) : Checked Settings :=
  let root := fs.optional "root" base.root (·.asPath)
  let cacheRoot := fs.optional "cache_root" base.cacheRoot (·.asPath)
  let color := fs.optional "color" base.color (·.asTruth)
  let emoji := fs.optional "emoji" base.emoji (·.asTruth)
  let forceAll := fs.optional "force_all" base.forceAll (·.asTruth)
  let requireCandidates := fs.optional "require_candidates" base.requireCandidates (·.asTruth)
  let environ := fs.optional "environ" base.environ (·.asTextMap)
  (root.both (cacheRoot.both (color.both (emoji.both (forceAll.both
    (requireCandidates.both environ)))))).map fun (r, c, co, e, f, q, v) => ⟨r, c, co, e, f, q, v⟩

end Fields

/-- The settings for an environment with some fields given. The root, whatever its shape, is taken
by its text and resolved; the other fields replace what the environment says. -/
def Settings.ofFields (h : Host) (environ : List (String × String)) (fs : Fields) :
    Except Fault Settings := do
  let base ← Settings.ofEnvironment h environ ((fs.lookup "root").map (·.written))
  ((Fields.settings (fs.filter (·.1 ≠ "root")) base).orFault)

end OptIn
