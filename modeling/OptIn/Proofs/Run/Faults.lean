import OptIn.Proofs.Cache.AnyState
import OptIn.Proofs.Cache.Usable
import OptIn.Proofs.Invoker.Effect
import OptIn.Proofs.Run.Trace

/-!
# Runs whose cache is in any state

A run is ended by a fault of the operating system, or by one with which a command has ended: the
query of the version of the tool, or the command that lints a file which asks for it. This holds for
every state of the cache, as long as no NUL is in its path (`Treated.fault_cases`). Files keep
their bytes all along, and all results are about files (`Treated.grows`).
-/

namespace OptIn

open ToolRunner (Answers)

namespace Invoker

variable {i : Invoker} {answers : Answers} {c : Candidate} {d : Directive} {h h' : Host}
  {k k' : Option ToolProbe} {x : Except Fault LintResult} {e : Fault} {p : Path}
  {r : Except Fault Unit}

/-- The cache of an invoker, if it has one, has a path that can be written: no name in it is
malformed, and none holds a NUL. -/
def CacheWritten (i : Invoker) : Prop :=
  ∀ cache, i.cache? = some cache →
    cache.directory.Proper ∧ holdsNull cache.directory.text = false

/-- The cache of an invoker, if it has one, has a path in which no name is malformed. -/
def CacheProper (i : Invoker) : Prop :=
  ∀ cache, i.cache? = some cache → cache.directory.Proper

theorem CacheWritten.proper (hw : i.CacheWritten) : i.CacheProper :=
  fun cache hc => (hw cache hc).1

theorem Recorded.grows (hr : Recorded i p h r h') (ho : h.Orderly) (hw : i.CacheProper) :
    h.Grows (fun _ => True) h' := by
  cases hr with
  | uncached => exact .refl _ h
  | cached hc hrun => exact ResultCache.grows_of_record ho (hw _ hc) hrun

theorem Recorded.isSystem (hr : Recorded i p h (.error e) h') (hp : p.Markable)
    (hw : i.CacheWritten) : e.isSystem = true := by
  generalize hx : (Except.error e : Except Fault Unit) = r at hr
  cases hr with
  | uncached => cases hx
  | cached hc hrun =>
    cases hx
    exact ResultCache.isSystem_of_record (hw _ hc).2
      (ResultCache.holdsNull_entry hp (hw _ hc).2) hrun

theorem isSystem_of_vouchedBy (hp : p.Markable) (hw : i.CacheWritten)
    (he : i.vouchedBy p h = .error e) : e.isSystem = true := by
  rw [vouchedBy] at he
  rcases hc : i.cache? with _ | cache
  · rw [hc] at he
    cases he
  · rw [hc] at he
    exact ResultCache.isSystem_of_vouches (ResultCache.holdsNull_entry hp (hw _ hc).2) hp.noNull he

/-- Whatever becomes of a candidate, the host grows. -/
theorem Effect.grows (he : i.Effect p h x h') (ho : h.Orderly) (hw : i.CacheProper) :
    h.Grows (fun _ => True) h' := by
  cases he with
  | later _ hl => exact hl.grows _
  | recorded _ hl hr | refused hl hr =>
    have hg := hl.grows fun _ => True
    exact hg.trans (hr.grows (hg.orderly ho) hw)

/-- The **call of a file** that asks for linting: what it has the tool do. -/
def CallsFor (i : Invoker) (h : Host) (c : Candidate) (call : Call) : Prop :=
  ∃ bytes, h.read c.path = .ok bytes ∧
    i.asks (i.driver.scanFileText (Text.Utf8.decode bytes)) = true ∧
    call = i.lintCall (withDirective c (i.driver.scanFileText (Text.Utf8.decode bytes)))

theorem Linted.fault_cases (hl : Linted i answers c k h (.error e) k' h') (hp : c.path.Markable)
    (hw : i.CacheWritten) : e.isSystem = true ∨ answers (i.lintCall c) (.error e) := by
  generalize hx : (Except.error e : Except Fault LintResult) = x at hl
  cases hl with
  | passed | failed | missing => cases hx
  | unrecorded _ _ _ hr =>
    cases hx
    exact .inl (hr.isSystem hp hw)
  | broken hanswer =>
    cases hx
    exact .inr hanswer

theorem Settled.fault_cases (hs : Settled i answers c d k h (.error e) k' h')
    (hp : c.path.Markable) (hw : i.CacheWritten) :
    e.isSystem = true ∨ answers (ToolProbe.query i.driver.tool) (.error e) ∨
      i.asks d = true ∧ answers (i.lintCall (withDirective c d)) (.error e) := by
  generalize hx : (Except.error e : Except Fault LintResult) = x at hs
  cases hs with
  | skipped | cached | unusable => cases hx
  | unclear _ hv =>
    cases hx
    exact .inl (isSystem_of_vouchedBy hp hw hv)
  | unprobed _ _ hprobe =>
    cases hx
    cases hprobe with
    | broken hanswer => exact .inr (.inl hanswer)
  | linted hasks _ _ _ hlint =>
    subst hx
    rw [← path_withDirective c d] at hp
    exact (hlint.fault_cases hp hw).imp_right fun hanswer => .inr ⟨hasks, hanswer⟩

/-- The faults that a file can end a run with. -/
theorem Invoked.fault_cases (hi : Invoked i answers c k h (.error e) k' h') (ho : h.Orderly)
    (hp : c.path.Proper) (hf : h.isFile c.path = .ok true) (hw : i.CacheWritten) :
    e.isSystem = true ∨ answers (ToolProbe.query i.driver.tool) (.error e) ∨
      ∃ call, i.CallsFor h c call ∧ answers call (.error e) := by
  obtain ⟨a, bytes, y, t, hs⟩ := Host.isFile_eq_true_iff.mp hf
  generalize hx : (Except.error e : Except Fault LintResult) = x at hi
  cases hi with
  | read hread hsettled =>
    subst hx
    refine (hsettled.fault_cases (Host.markable_of_stat ho hp hs) hw).imp_right ?_
    exact Or.imp_right fun ⟨hasks, hanswer⟩ => ⟨_, ⟨_, hread, hasks, rfl⟩, hanswer⟩
  | unread => cases hx
  | broken hread hsystem =>
    rw [Host.read_of_stat hs] at hread
    cases hread

end Invoker

namespace DriverRun

variable {r : DriverRun} {answers : Answers} {seen ps : List Path} {h h' : Host}
  {k k' : Option ToolProbe} {xs : List LintResult} {e : Fault} {f : Option Fault} {p : Path}

theorem isSystem_of_considered (hdetect : r.detect = shebangDetector)
    (he : r.driver.considered r.detect seen p h = .error e) : e.isSystem = true := by
  rw [Driver.considered] at he
  split at he
  · cases he
  · rcases hf : h.isFile p with f | _ | _
    · rw [hf] at he
      cases he
      exact Host.isSystem_of_holds hf
    · rw [hf] at he
      cases he
    · obtain ⟨b, hb⟩ := Driver.exists_owns (d := r.driver) hf
      rw [← hdetect] at hb
      rw [hf] at he
      simp only [bind, Except.bind, if_true, hb] at he
      cases he

/-- The **faults that can end a run** are those of the operating system, and those with which the
query of the version ends, or the call of a file which asks for linting. -/
theorem Treated.fault_cases (ht : Treated r answers seen ps k h xs f k' h')
    (hdetect : r.detect = shebangDetector) (hw : r.invoker.CacheWritten) (ho : h.Orderly)
    (hps : ∀ p ∈ ps, p.Proper) (he : f = some e) :
    e.isSystem = true ∨ answers (ToolProbe.query r.driver.tool) (.error e) ∨
      ∃ p ∈ ps, ∃ h₁ call, h.Grows (fun _ => True) h₁ ∧
        r.invoker.CallsFor h₁ ⟨p, r.driver.kind, []⟩ call ∧ answers call (.error e) := by
  induction ht with
  | done => cases he
  | passedOver _ _ ih =>
    refine (ih ho (fun q hq => hps q (List.mem_cons_of_mem _ hq)) he).imp_right (Or.imp_right ?_)
    rintro ⟨q, hq, hcall⟩
    exact ⟨q, List.mem_cons_of_mem _ hq, hcall⟩
  | refused hc =>
    cases he
    exact .inl (isSystem_of_considered hdetect hc)
  | judged hc hi _ ih =>
    obtain ⟨rfl, -, hf⟩ := Driver.eq_of_considered hc
    -- what ends the rest of the run does so on a host that has grown from this one
    have hg := (hi.effect hf).1.grows ho hw.proper
    refine (ih (hg.orderly ho) (fun q hq => hps q (List.mem_cons_of_mem _ hq)) he).imp_right
      (Or.imp_right ?_)
    rintro ⟨q, hq, h₁, call, hg₁, hcall⟩
    exact ⟨q, List.mem_cons_of_mem _ hq, h₁, call, hg.trans hg₁, hcall⟩
  | broken hc hi =>
    cases he
    obtain ⟨rfl, -, hf⟩ := Driver.eq_of_considered hc
    refine (hi.fault_cases ho (hps _ List.mem_cons_self) hf hw).imp_right (Or.imp_right ?_)
    rintro ⟨call, hcall, hanswer⟩
    exact ⟨_, List.mem_cons_self, _, call, .refl _ _, hcall, hanswer⟩

/-- Files keep their bytes in a run, and its results are about files that are there behind it. -/
theorem Treated.grows (ht : Treated r answers seen ps k h xs f k' h')
    (hw : r.invoker.CacheProper) (ho : h.Orderly) (hps : ∀ p ∈ ps, p.Proper) :
    h.Grows (fun _ => True) h' ∧
      ∀ x ∈ xs, x.candidate.path ∈ ps ∧ h'.isFile x.candidate.path = .ok true := by
  induction ht with
  | done => exact ⟨.refl _ _, fun x hx => nomatch hx⟩
  | passedOver _ _ ih =>
    obtain ⟨hg, hxs⟩ := ih ho fun q hq => hps q (List.mem_cons_of_mem _ hq)
    exact ⟨hg, fun x hx => ⟨List.mem_cons_of_mem _ (hxs x hx).1, (hxs x hx).2⟩⟩
  | refused => exact ⟨.refl _ _, fun x hx => nomatch hx⟩
  | judged hc hi _ ih =>
    obtain ⟨rfl, -, hf⟩ := Driver.eq_of_considered hc
    obtain ⟨heffect, hpath⟩ := hi.effect hf
    have hg₁ := heffect.grows ho hw
    obtain ⟨hg, hxs⟩ := ih (hg₁.orderly ho) fun q hq => hps q (List.mem_cons_of_mem _ hq)
    refine ⟨hg₁.trans hg, fun x hx => ?_⟩
    rcases List.mem_cons.mp hx with rfl | hx
    · rw [(hpath x rfl).1]
      have hproper := hps _ List.mem_cons_self
      exact ⟨List.mem_cons_self, ((hg₁.trans hg).file_stays ho hproper hf).1⟩
    · exact ⟨List.mem_cons_of_mem _ (hxs x hx).1, (hxs x hx).2⟩
  | broken hc hi =>
    obtain ⟨rfl, -, hf⟩ := Driver.eq_of_considered hc
    exact ⟨(hi.effect hf).1.grows ho hw, fun x hx => nomatch hx⟩

end DriverRun

end OptIn
