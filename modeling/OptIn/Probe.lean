import OptIn.Text.Lines
import OptIn.World

/-!
# Probing a tool

Before a tool is first used it is asked for its version. A tool that does not exist is missing, one
that fails at this is unusable, any other is available.
-/

namespace OptIn

/-- What a probe can find. -/
inductive ToolStatus where
  | available
  | missing
  | incompatible
  deriving DecidableEq, Repr

/-- The name of a status. -/
def ToolStatus.name : ToolStatus → String
  | available => "available"
  | missing => "missing"
  | incompatible => "incompatible"

/-- What a probe has found, and what the tool or the system said. -/
structure ToolProbe where
  status : ToolStatus
  detail : String := ""
  deriving DecidableEq, Repr

/-- Whether the tool can be used. -/
def ToolProbe.usable (p : ToolProbe) : Bool := p.status = .available

namespace ToolProbe

/-- The argument that asks a tool for its version. -/
def versionFlag : String := "--version"

/-- The query of a tool's version. -/
def query (tool : String) : Call :=
  { command := [tool, versionFlag], capture := true, check := false }

/-- What a stream holds between blanks, if it holds anything else. -/
def told (stream : Option String) : Option (List Char) :=
  match Text.trim (stream.getD "").toList with
  | [] => none
  | cs => some cs

/-- What a completed query says: what was printed, then what was complained. -/
def output (c : Completed) : List Char :=
  List.intercalate ['\n'] ((told c.stdout).toList ++ (told c.stderr).toList)

/-- The first line of a text that has one. -/
def firstLine (cs : List Char) : Except Fault (List Char) :=
  match Text.splitLines cs with
  | [] => .error (.reported .outOfRange "list index out of range")
  | l :: _ => .ok l

/-- What a completed query shows about the tool: its first line if the tool can be used, and
otherwise all that it says. -/
def ofCompleted (c : Completed) : Except Fault ToolProbe :=
  if c.status ≠ 0 then .ok ⟨.incompatible, String.ofList (output c)⟩
  else if output c = [] then .ok ⟨.available, ""⟩
  else (firstLine (output c)).map fun l => ⟨.available, String.ofList l⟩

/-- Probes a tool. -/
def run (runner : ToolRunner) (tool : String) : Action World ToolProbe := do
  match ← (runner.perform (query tool)).attempt with
  | .ok c => Action.ofExcept (ofCompleted c)
  | .error e => if e.isNotFound then return ⟨.missing, e.message⟩ else throw e

theorem firstLine_eq_ok_iff {cs l : List Char} :
    firstLine cs = .ok l ↔ (Text.splitLines cs).head? = some l := by
  rw [firstLine]
  split
  · rename_i hlines
    simp [hlines]
  · rename_i hlines
    simp [hlines]

theorem exists_firstLine {cs : List Char} (h : cs ≠ []) : ∃ l, firstLine cs = .ok l := by
  obtain ⟨l, ls, hlines⟩ := List.exists_cons_of_ne_nil (Text.splitLines_ne_nil h)
  exact ⟨l, firstLine_eq_ok_iff.mpr (by rw [hlines, List.head?_cons])⟩

theorem ofCompleted_of_ne {c : Completed} (h : c.status ≠ 0) :
    ofCompleted c = .ok ⟨.incompatible, String.ofList (output c)⟩ := by
  rw [ofCompleted, if_pos h]

/-- A query with status 0 has a first line to show, unless it says nothing. -/
theorem ofCompleted_of_eq {c : Completed} (h : c.status = 0) :
    ∃ l, ofCompleted c = .ok ⟨.available, String.ofList l⟩ ∧
      (output c = [] ∧ l = [] ∨ (Text.splitLines (output c)).head? = some l) := by
  rw [ofCompleted, if_neg fun hne => hne h]
  split
  · rename_i hnothing
    exact ⟨[], rfl, .inl ⟨hnothing, rfl⟩⟩
  · rename_i hsaid
    obtain ⟨l, hl⟩ := exists_firstLine hsaid
    exact ⟨l, by rw [hl]; rfl, .inr (firstLine_eq_ok_iff.mp hl)⟩

/-- Whatever a completed query says, it shows whether the tool can be used. -/
theorem exists_ofCompleted (c : Completed) :
    ∃ p, ofCompleted c = .ok p ∧ (p.usable = true ↔ c.status = 0) := by
  by_cases h : c.status = 0
  · obtain ⟨l, hl, -⟩ := ofCompleted_of_eq h
    exact ⟨_, hl, by simp [usable, h]⟩
  · exact ⟨_, ofCompleted_of_ne h, by simp [usable, h]⟩

theorem usable_of_ofCompleted {c : Completed} {p : ToolProbe} (hp : ofCompleted c = .ok p) :
    p.usable = true ↔ c.status = 0 := by
  obtain ⟨q, hq, husable⟩ := exists_ofCompleted c
  cases hp.symm.trans hq
  exact husable

end ToolProbe

end OptIn
