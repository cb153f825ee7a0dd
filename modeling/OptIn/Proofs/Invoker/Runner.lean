import OptIn.Proofs.Host.Grows
import OptIn.World

/-!
# Runners that change nothing

A runner is **quiet** when no file changes while it performs commands; time may pass. What it
answers is left to a relation between calls and outcomes, so that one development serves runners of
which little is known and runners whose answers are known in advance.
-/

namespace OptIn

namespace Host

variable {h h' h'' : Host} {p : Path} {a : Address} {dir : Path}

/-- The same host at a **later** time. -/
def Later (h h' : Host) : Prop := ∃ t, h.clock ≤ t ∧ h' = { h with clock := t }

theorem Later.refl (h : Host) : h.Later h := ⟨h.clock, Int.le_refl _, rfl⟩

theorem Later.trans (hl : h.Later h') (hl' : h'.Later h'') : h.Later h'' := by
  obtain ⟨t, ht, rfl⟩ := hl
  obtain ⟨t', ht', rfl⟩ := hl'
  exact ⟨t', Int.le_trans ht ht', rfl⟩

theorem Later.clock_le (hl : h.Later h') : h.clock ≤ h'.clock := by
  obtain ⟨t, ht, rfl⟩ := hl
  exact ht

theorem Later.grows (within : Address → Prop) (hl : h.Later h') : h.Grows within h' := by
  obtain ⟨t, ht, rfl⟩ := hl
  exact grows_of_clock within ht

/-- A question whose answer does not depend on the time has the same answer later. -/
theorem Later.eq {α : Type} (hl : h.Later h') (question : Host → α)
    (hquestion : ∀ t, question { h with clock := t } = question h) :
    question h' = question h := by
  obtain ⟨t, -, rfl⟩ := hl
  exact hquestion t

theorem Later.disk_eq (hl : h.Later h') : h'.disk = h.disk := hl.eq Host.disk fun _ => rfl

theorem Later.stat_eq (hl : h.Later h') (p : Path) : h'.stat p = h.stat p :=
  hl.eq (·.stat p) fun _ => rfl

end Host

namespace ToolRunner

/-- A relation between calls and what a runner may answer to them. -/
abbrev Answers := Call → Except Fault Completed → Prop

/-- A **quiet** runner gives certain answers and changes nothing while it performs a command. -/
def Quiet (runner : ToolRunner) (answers : Answers) : Prop :=
  ∀ w c, answers c (runner w c).outcome ∧ w.host.Later (runner w c).host

/-- Any answer. -/
def anything : Answers := fun _ _ => True

/-- A status, or the news that there is no such tool. -/
def benign : Answers
  | _, .ok _ => True
  | _, .error e => e.isNotFound = true

/-- The status 0. -/
def success : Answers
  | _, .ok done => done.status = 0
  | _, .error _ => False

/-- Any status. -/
def unfailing : Answers
  | _, .ok _ => True
  | _, .error _ => False

/-- The runner that changes nothing and answers each command with a status of its own. -/
def answering (status : List String → Int) : ToolRunner := fun w c =>
  { outcome := .ok { command := c.command, status := status c.command }, host := w.host }

theorem Quiet.mono {runner : ToolRunner} {answers answers' : Answers} (hq : runner.Quiet answers)
    (h : ∀ c x, answers c x → answers' c x) : runner.Quiet answers' :=
  fun w c => ⟨h _ _ (hq w c).1, (hq w c).2⟩

theorem quiet_answering {status : List String → Int} {answers : Answers}
    (h : ∀ c : Call, answers c (.ok { command := c.command, status := status c.command })) :
    (answering status).Quiet answers :=
  fun w c => ⟨h c, .refl w.host⟩

end ToolRunner

end OptIn
