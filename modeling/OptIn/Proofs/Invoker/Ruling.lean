import OptIn.Proofs.Invoker.Effect

/-!
# What a runner without whims makes of a candidate

When the answer to a command depends on the command alone, what becomes of a candidate is settled by
its bytes, by what the cache says of it, and by what is known about the tool (`Invoker.ruling`).
Only whether a success can be recorded is left open, and shows when it is tried (`Invoked.ruled`).
-/

namespace OptIn

/-- The only answer that a command can get. -/
def ToolRunner.Exactly (answer : Call → Except Fault Completed) : ToolRunner.Answers :=
  fun c x => x = answer c

namespace Invoker

open ToolRunner (Exactly)

/-- A **ruling** on a candidate: a result, or a fault, and what is known about the tool behind it,
or a success that is still to be recorded. -/
inductive Ruling where
  | settled (x : Except Fault LintResult) (k : Option ToolProbe)
  | passing (c : Candidate) (k : Option ToolProbe)

/-- What asking for the version of the tool comes to. -/
def inspection (i : Invoker) (answer : Call → Except Fault Completed) : Except Fault ToolProbe :=
  match answer (ToolProbe.query i.driver.tool) with
  | .ok done => ToolProbe.ofCompleted done
  | .error e => if e.isNotFound then .ok ⟨.missing, e.message⟩ else .error e

/-- The ruling on a candidate whose tool is usable. -/
def rulingByTool (i : Invoker) (answer : Call → Except Fault Completed) (c : Candidate)
    (p : ToolProbe) : Ruling :=
  match answer (i.lintCall c) with
  | .ok done =>
    if done.status = 0 then .passing c (some p)
    else .settled (.ok ⟨c, .failed, some done.status⟩) (some p)
  | .error e =>
    if e.isNotFound then .settled (.ok (unusable c)) (some ⟨.missing, e.message⟩)
    else .settled (.error e) (some p)

/-- The ruling on a candidate for which the cache does not vouch. -/
def rulingOnStranger (i : Invoker) (answer : Call → Except Fault Completed) (c : Candidate)
    (k : Option ToolProbe) : Ruling :=
  match k with
  | some p => if p.usable then i.rulingByTool answer c p else .settled (.ok (unusable c)) (some p)
  | none =>
    match i.inspection answer with
    | .ok p => if p.usable then i.rulingByTool answer c p else .settled (.ok (unusable c)) (some p)
    | .error e => .settled (.error e) none

/-- The **ruling** on a candidate with these bytes, of which the cache says this. -/
def ruling (i : Invoker) (answer : Call → Except Fault Completed) (c : Candidate)
    (k : Option ToolProbe) (bytes : Except Fault (List UInt8)) (vouched : Except Fault Bool) :
    Ruling :=
  match bytes with
  | .error e => .settled (if e.isSystem then .ok ⟨c, .failed, some 1⟩ else .error e) k
  | .ok bytes =>
    let d := i.driver.scanFileText (Text.Utf8.decode bytes)
    if i.asks d then
      match vouched with
      | .error e => .settled (.error e) k
      | .ok true => .settled (.ok ⟨withDirective c d, .cached, none⟩) k
      | .ok false => i.rulingOnStranger answer (withDirective c d) k
    else .settled (.ok ⟨c, .skipped, none⟩) k

/-- A ruling is **obeyed**: while time passes its result comes about, or a success is recorded. -/
inductive Obeyed (i : Invoker) (p : Path) (h : Host) : Ruling → Except Fault LintResult →
    Option ToolProbe → Host → Prop
  | settled {x k h'} : h.Later h' → Obeyed i p h (.settled x k) x k h'
  | passing {c k h₁ r h'} : h.Later h₁ → Recorded i p h₁ r h' →
      Obeyed i p h (.passing c k) (r.map fun _ => ⟨c, .passed, some 0⟩) k h'

variable {i : Invoker} {answer : Call → Except Fault Completed} {c : Candidate} {d : Directive}
  {h h' h₁ : Host} {k k' : Option ToolProbe} {x : Except Fault LintResult} {p : ToolProbe}
  {q : Path} {g : Ruling}

theorem Obeyed.of_later (ho : Obeyed i q h₁ g x k h') (hlater : h.Later h₁) :
    Obeyed i q h g x k h' := by
  cases ho with
  | settled hl => exact .settled (hlater.trans hl)
  | passing hl hr => exact .passing (hlater.trans hl) hr

theorem Linted.ruled (hl : Linted i (Exactly answer) c (some p) h x k' h') :
    Obeyed i c.path h (i.rulingByTool answer c p) x k' h' := by
  rw [rulingByTool]
  cases hl with
  | passed hanswer hstatus hlater hr | unrecorded hanswer hstatus hlater hr =>
    rw [← hanswer]
    simp only [hstatus, if_true]
    exact .passing hlater hr
  | failed hanswer hstatus hlater =>
    rw [← hanswer]
    simp only [hstatus, if_false]
    exact .settled hlater
  | missing hanswer hmissing hlater =>
    rw [← hanswer]
    simp only [hmissing, if_true]
    exact .settled hlater
  | broken hanswer hmissing hlater =>
    rw [← hanswer]
    simp only [hmissing]
    exact .settled hlater

/-- What finding out about the tool comes to. -/
theorem Probed.ruled {y : Except Fault ToolProbe} (hp : Probed i (Exactly answer) k h y k' h') :
    (∃ p, k = some p ∧ y = .ok p ∧ k' = some p) ∨
      k = none ∧ i.inspection answer = y ∧ k' = y.toOption := by
  cases hp with
  | known => exact .inl ⟨_, rfl, rfl, rfl⟩
  | answered hanswer hshown =>
    refine .inr ⟨rfl, ?_, rfl⟩
    rw [inspection, ← hanswer]
    exact hshown
  | missing hanswer hmissing =>
    refine .inr ⟨rfl, ?_, rfl⟩
    rw [inspection, ← hanswer]
    simp only [hmissing, if_true]
  | broken hanswer hmissing =>
    refine .inr ⟨rfl, ?_, rfl⟩
    rw [inspection, ← hanswer]
    simp only [hmissing]
    rfl

theorem Settled.ruled (hs : Settled i (Exactly answer) c d k h x k' h') :
    Obeyed i c.path h
      (if i.asks d then
        match i.vouchedBy c.path h with
        | .error e => .settled (.error e) k
        | .ok true => .settled (.ok ⟨withDirective c d, .cached, none⟩) k
        | .ok false => i.rulingOnStranger answer (withDirective c d) k
      else .settled (.ok ⟨c, .skipped, none⟩) k) x k' h' := by
  cases hs with
  | skipped hasks =>
    rw [hasks]
    exact .settled (.refl h)
  | cached hasks hv | unclear hasks hv =>
    rw [hasks, hv]
    exact .settled (.refl h)
  | unprobed hasks hv hprobe =>
    rw [hasks, hv]
    rcases hprobe.ruled with ⟨p, rfl, hy, rfl⟩ | ⟨rfl, hy, rfl⟩
    · cases hy
    · simp only [if_true, rulingOnStranger, hy]
      exact .settled hprobe.later
  | unusable hasks hv hprobe hbad =>
    rw [hasks, hv]
    rcases hprobe.ruled with ⟨p, rfl, hy, rfl⟩ | ⟨rfl, hy, rfl⟩
    · cases hy
      simp only [if_true, rulingOnStranger, hbad]
      exact .settled hprobe.later
    · simp only [if_true, rulingOnStranger, hy, hbad]
      exact .settled hprobe.later
  | linted hasks hv hprobe hgood hlint =>
    rw [hasks, hv, ← path_withDirective c d]
    rcases hprobe.ruled with ⟨p, rfl, hy, rfl⟩ | ⟨rfl, hy, rfl⟩
    · cases hy
      simp only [if_true, rulingOnStranger, hgood]
      exact hlint.ruled.of_later hprobe.later
    · simp only [if_true, rulingOnStranger, hy, hgood]
      exact hlint.ruled.of_later hprobe.later

/-- Whatever becomes of a candidate, the ruling on it is obeyed. -/
theorem Invoked.ruled (hi : Invoked i (Exactly answer) c k h x k' h') :
    Obeyed i c.path h (i.ruling answer c k (h.read c.path) (i.vouchedBy c.path h)) x k' h' := by
  cases hi with
  | read hread hsettled =>
    rw [hread]
    exact hsettled.ruled
  | unread hread hsystem =>
    rw [hread]
    simp only [ruling, hsystem, if_true]
    exact .settled (.refl h)
  | broken hread hsystem =>
    rw [hread]
    simp only [ruling, hsystem]
    exact .settled (.refl h)

end Invoker

end OptIn
