import OptIn.Proofs.Invoker.Exchanges

/-!
# What can become of a candidate

Under a quiet runner the treatment of a candidate is a matter of the host, of what is known about
the tool, and of what the runner answers. The relations of this module list every way in which it
can go, one constructor for each, from the probe of the tool up to a whole candidate
(`Invoker.Invoked`); `invoked_of_run` says that nothing else can happen.
-/

namespace OptIn

namespace Invoker

open ToolRunner (Answers)

/-- Finding out about the tool: what is known before, and what behind. -/
inductive Probed (i : Invoker) (answers : Answers) :
    Option ToolProbe → Host → Except Fault ToolProbe → Option ToolProbe → Host → Prop
  | known {p h} : Probed i answers (some p) h (.ok p) (some p) h
  | answered {h h' done p} : answers (ToolProbe.query i.driver.tool) (.ok done) →
      ToolProbe.ofCompleted done = .ok p → h.Later h' →
      Probed i answers none h (.ok p) (some p) h'
  | missing {h h' e} : answers (ToolProbe.query i.driver.tool) (.error e) → e.isNotFound = true →
      h.Later h' →
      Probed i answers none h (.ok ⟨.missing, e.message⟩) (some ⟨.missing, e.message⟩) h'
  | broken {h h' e} : answers (ToolProbe.query i.driver.tool) (.error e) →
      ¬e.isNotFound = true → h.Later h' → Probed i answers none h (.error e) none h'

/-- Having the tool judge a candidate. -/
inductive Linted (i : Invoker) (answers : Answers) (c : Candidate) :
    Option ToolProbe → Host → Except Fault LintResult → Option ToolProbe → Host → Prop
  | passed {k h h' h'' done} : answers (i.lintCall c) (.ok done) → done.status = 0 → h.Later h' →
      Recorded i c.path h' (.ok ()) h'' → Linted i answers c k h (.ok ⟨c, .passed, some 0⟩) k h''
  | unrecorded {k h h' h'' done e} : answers (i.lintCall c) (.ok done) → done.status = 0 →
      h.Later h' → Recorded i c.path h' (.error e) h'' → Linted i answers c k h (.error e) k h''
  | failed {k h h' done} : answers (i.lintCall c) (.ok done) → done.status ≠ 0 → h.Later h' →
      Linted i answers c k h (.ok ⟨c, .failed, some done.status⟩) k h'
  | missing {k h h' e} : answers (i.lintCall c) (.error e) → e.isNotFound = true → h.Later h' →
      Linted i answers c k h (.ok (unusable c)) (some ⟨.missing, e.message⟩) h'
  | broken {k h h' e} : answers (i.lintCall c) (.error e) → ¬e.isNotFound = true → h.Later h' →
      Linted i answers c k h (.error e) k h'

/-- Dealing with a candidate whose header has been read. -/
inductive Settled (i : Invoker) (answers : Answers) (c : Candidate) (d : Directive) :
    Option ToolProbe → Host → Except Fault LintResult → Option ToolProbe → Host → Prop
  | skipped {k h} : i.asks d = false → Settled i answers c d k h (.ok ⟨c, .skipped, none⟩) k h
  | cached {k h} : i.asks d = true → i.vouchedBy c.path h = .ok true →
      Settled i answers c d k h (.ok ⟨withDirective c d, .cached, none⟩) k h
  | unclear {k h e} : i.asks d = true → i.vouchedBy c.path h = .error e →
      Settled i answers c d k h (.error e) k h
  | unprobed {k h e k' h'} : i.asks d = true → i.vouchedBy c.path h = .ok false →
      Probed i answers k h (.error e) k' h' → Settled i answers c d k h (.error e) k' h'
  | unusable {k h p k' h'} : i.asks d = true → i.vouchedBy c.path h = .ok false →
      Probed i answers k h (.ok p) k' h' → p.usable = false →
      Settled i answers c d k h (.ok (unusable (withDirective c d))) k' h'
  | linted {k h p k' h' x k'' h''} : i.asks d = true → i.vouchedBy c.path h = .ok false →
      Probed i answers k h (.ok p) k' h' → p.usable = true →
      Linted i answers (withDirective c d) k' h' x k'' h'' → Settled i answers c d k h x k'' h''

/-- Dealing with a candidate. -/
inductive Invoked (i : Invoker) (answers : Answers) (c : Candidate) :
    Option ToolProbe → Host → Except Fault LintResult → Option ToolProbe → Host → Prop
  | read {k h bytes x k' h'} : h.read c.path = .ok bytes →
      Settled i answers c (i.driver.scanFileText (Text.Utf8.decode bytes)) k h x k' h' →
      Invoked i answers c k h x k' h'
  | unread {k h e} : h.read c.path = .error e → e.isSystem = true →
      Invoked i answers c k h (.ok ⟨c, .failed, some 1⟩) k h
  | broken {k h e} : h.read c.path = .error e → ¬e.isSystem = true →
      Invoked i answers c k h (.error e) k h

variable {i : Invoker} {answers : Answers} {c : Candidate} {d : Directive} {h h' h₁ : Host}
  {k k' : Option ToolProbe} {xs : List Exchange} {x : Except Fault LintResult} {p : ToolProbe}

/-! ### Nothing else can happen -/

/-- A tool that is vetted before the time passes has been found usable. -/
theorem Vetted.probed (hv : Vetted i k xs p) (hanswers : ∀ e ∈ xs, answers e.call e.answer)
    (h : Host) : Probed i answers k h (.ok p) (some p) h := by
  cases hv with
  | known => exact .known
  | answered _ hp => exact .answered (hanswers _ (List.mem_singleton.mpr rfl)) hp (.refl h)

/-- What shows that a tool is unusable is what its probe finds. -/
theorem probed_of_refutation {answer : Except Fault Completed}
    (hrefuted : i.refutation ⟨ToolProbe.query i.driver.tool, answer⟩ = some p)
    (hanswer : answers (ToolProbe.query i.driver.tool) answer) (hlater : h.Later h') :
    Probed i answers none h (.ok p) (some p) h' := by
  rcases answer with e | done
  · rw [refutation_error] at hrefuted
    split_ifs at hrefuted with hmissing
    cases hrefuted
    exact .missing hanswer hmissing hlater
  · rw [refutation_query_of_ok] at hrefuted
    split_ifs at hrefuted with hstatus
    cases hrefuted
    exact .answered hanswer (ToolProbe.ofCompleted_of_ne hstatus) hlater

/-- With a quiet runner, a candidate that has been weighed has been dealt with. -/
theorem Weighed.settled (hw : Weighed i h c d k xs h₁ x k' h')
    (hanswers : ∀ e ∈ xs, answers e.call e.answer) (hlater : h.Later h₁)
    (hsame : xs = [] → h₁ = h) : Settled i answers c d k h x k' h' := by
  cases hw with
  | skipped hasks => exact .skipped hasks
  | cached hasks hv => exact .cached hasks hv
  | unclear hasks hv => exact .unclear hasks hv
  | tried hasks hv htried =>
    -- the time that passes is taken to pass with the last command
    have hlast : ∀ ys {e}, xs = ys ++ [e] → (∀ y ∈ ys, answers y.call y.answer) ∧
        answers e.call e.answer := by
      rintro ys e rfl
      exact ⟨fun y hy => hanswers y (List.mem_append_left _ hy),
        hanswers e (List.mem_append_right _ (List.mem_singleton.mpr rfl))⟩
    cases htried with
    | barred hbad =>
      cases hsame rfl
      exact .unusable hasks hv .known hbad
    | refused hrefuted =>
      exact .unusable hasks hv (probed_of_refutation hrefuted (hlast [] rfl).2 hlater)
        (usable_of_refutation hrefuted)
    | unprobed hmissing =>
      exact .unprobed hasks hv (.broken (hlast [] rfl).2 hmissing hlater)
    | lost hvetted hmissing =>
      exact .linted hasks hv (hvetted.probed (hlast _ rfl).1 h) hvetted.usable
        (.missing (hlast _ rfl).2 hmissing hlater)
    | broken hvetted hmissing =>
      exact .linted hasks hv (hvetted.probed (hlast _ rfl).1 h) hvetted.usable
        (.broken (hlast _ rfl).2 hmissing hlater)
    | failed hvetted hstatus =>
      exact .linted hasks hv (hvetted.probed (hlast _ rfl).1 h) hvetted.usable
        (.failed (hlast _ rfl).2 hstatus hlater)
    | passed hvetted hstatus hr =>
      exact .linted hasks hv (hvetted.probed (hlast _ rfl).1 h) hvetted.usable
        (.passed (hlast _ rfl).2 hstatus hlater hr)
    | unrecorded hvetted hstatus hr =>
      exact .linted hasks hv (hvetted.probed (hlast _ rfl).1 h) hvetted.usable
        (.unrecorded (hlast _ rfl).2 hstatus hlater hr)

theorem Dealt.invoked (hd : Dealt i h c k xs h₁ x k' h')
    (hanswers : ∀ e ∈ xs, answers e.call e.answer) (hlater : h.Later h₁)
    (hsame : xs = [] → h₁ = h) : Invoked i answers c k h x k' h' := by
  cases hd with
  | read hread hweighed => exact .read hread (hweighed.settled hanswers hlater hsame)
  | unread hread hsystem => exact .unread hread hsystem
  | broken hread hsystem => exact .broken hread hsystem

/-- The treatment of a candidate under a quiet runner goes one of the ways that are listed. -/
theorem invoked_of_run (hq : i.runner.Quiet answers) {s s' : Session}
    (hrun : (i.invoke c).run s = (x, s')) :
    Invoked i answers c s.probe s.world.host x s'.probe s'.world.host := by
  obtain ⟨xs, w₁, ⟨es, htalk, -⟩, -, hdealt⟩ := dealt_of_run hrun
  exact hdealt.invoked (htalk.answers fun w c => (hq w c).1) (htalk.later hq)
    fun hxs => (hxs ▸ htalk).host_eq

end Invoker

end OptIn
