import OptIn.Host.Change

/-!
# The world of a run

A run acts on a host and leaves a journal: the commands it asked for, the programs that were
started, what was printed and where, warnings, files looked into, and notes for whoever debugs. The
journal only ever grows at its end.
-/

namespace OptIn

/-- The two streams that can be printed on. -/
inductive Stream where
  | out
  | err
  deriving DecidableEq, Repr

/-- A command to be performed: its words, and how. -/
structure Call where
  command : List String
  directory : Option Path := none
  /-- Whether what the command prints is caught. -/
  capture : Bool := false
  /-- Whether what is caught is read as text, with one kind of newline. -/
  text : Bool := true
  /-- Whether a failure of the command is a fault. -/
  check : Bool := true
  deriving DecidableEq, Repr

/-- The end of a command: its words, its status, and what it printed, as far as that was caught. -/
structure Completed where
  command : List String
  status : Int
  stdout : Option String := none
  stderr : Option String := none
  deriving DecidableEq, Repr

/-- A program that is about to run: its file, the words of the command, and where it runs. -/
structure Launch where
  program : Address
  command : List String
  directory : Address
  deriving DecidableEq, Repr

/-- What can happen in a run. -/
inductive Event where
  | called (c : Call)
  | launched (l : Launch)
  | printed (stream : Stream) (text : String)
  | warned (message : String)
  | sniffed (p : Path)
  | noted (logger text : String)
  deriving DecidableEq, Repr

/-- A **world**: a host and what has happened so far, first event first. -/
structure World where
  host : Host
  journal : List Event
  deriving Repr

namespace World

/-- The world after a further event. -/
def log (w : World) (e : Event) : World := { w with journal := w.journal ++ [e] }

/-- Adds an event to the journal. -/
def record (e : Event) : Action World Unit := modify (·.log e)

/-- Prints a text. -/
def print (stream : Stream) (text : String) : Action World Unit := record (.printed stream text)

/-- Leaves a note of a logger. -/
def note (logger text : String) : Action World Unit := record (.noted logger text)

/-- Asks something of the host. -/
def ask {α : Type} (question : Host → Except Fault α) : Action World α := fun w =>
  (question w.host, w)

/-- Changes the host. -/
def onHost {α : Type} (x : Action Host α) : Action World α :=
  x.within World.host fun h w => { w with host := h }

@[simp] theorem run_record (e : Event) (w : World) : (record e).run w = (.ok (), w.log e) := rfl

@[simp] theorem run_ask {α : Type} (question : Host → Except Fault α) (w : World) :
    (ask question).run w = (question w.host, w) := rfl

end World

/-- What becomes of a command: how it ends, what it lets happen, and the host it leaves. -/
structure Reply where
  outcome : Except Fault Completed
  events : List Event := []
  host : Host

/-- A **tool runner** performs commands. Its reply may depend on everything that has happened. -/
abbrev ToolRunner := World → Call → Reply

/-- Has a command performed, and notes that it was asked for. -/
def ToolRunner.perform (runner : ToolRunner) (c : Call) : Action World Completed := fun w =>
  let r := runner w c
  (r.outcome, { host := r.host, journal := w.journal ++ .called c :: r.events })

end OptIn
