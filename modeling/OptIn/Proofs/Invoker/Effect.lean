import OptIn.Proofs.Host.Files
import OptIn.Proofs.Invoker.Course

/-!
# What a candidate leaves behind

Whatever the tool answers, dealing with a candidate lets time pass, and records a success in the
cache if the tool has passed it. Of the files that are not skipped, exactly those for which the
cache vouches are called cached (`Invoked.effect`).
-/

namespace OptIn

namespace Invoker

open ToolRunner (Answers)

/-- The **effect** of dealing with a file: time passes, and a success is recorded, or refused by the
cache. -/
inductive Effect (i : Invoker) (p : Path) (h : Host) : Except Fault LintResult → Host → Prop
  | later {x h'} : (∀ z, x = .ok z → z.classification ≠ .passed) → h.Later h' → Effect i p h x h'
  | recorded {h₁ h' z} : z.classification = .passed → h.Later h₁ → Recorded i p h₁ (.ok ()) h' →
      Effect i p h (.ok z) h'
  | refused {h₁ h' e} : h.Later h₁ → Recorded i p h₁ (.error e) h' → Effect i p h (.error e) h'

variable {i : Invoker} {answers : Answers} {c : Candidate} {h h' : Host} {k k' : Option ToolProbe}
  {x : Except Fault LintResult} {z : LintResult} {d : Directive}

theorem Effect.of_later {p : Path} {h₁ : Host} (he : i.Effect p h₁ x h') (hlater : h.Later h₁) :
    i.Effect p h x h' := by
  cases he with
  | later hx hl => exact .later hx (hlater.trans hl)
  | recorded hz hl hr => exact .recorded hz (hlater.trans hl) hr
  | refused hl hr => exact .refused (hlater.trans hl) hr

theorem Probed.later {p : Except Fault ToolProbe} (hp : Probed i answers k h p k' h') :
    h.Later h' := by
  cases hp with
  | known => exact .refl _
  | answered _ _ hl => exact hl
  | missing _ _ hl => exact hl
  | broken _ _ hl => exact hl

theorem Linted.effect (hl : Linted i answers c k h x k' h') :
    i.Effect c.path h x h' ∧ (∀ z, x = .ok z → z.candidate = c) ∧
      ∀ z, x = .ok z → z.classification ≠ .cached ∧ z.classification ≠ .skipped := by
  cases hl with
  | passed _ _ hlater hr =>
    refine ⟨.recorded rfl hlater hr, fun z hz => ?_, fun z hz => ?_⟩ <;> cases hz
    · rfl
    · exact ⟨fun h => (nomatch h), fun h => nomatch h⟩
  | unrecorded _ _ hlater hr =>
    exact ⟨.refused hlater hr, fun z hz => (nomatch hz), fun z hz => (nomatch hz)⟩
  | failed _ _ hlater | missing _ _ hlater =>
    refine ⟨.later (fun z hz => ?_) hlater, fun z hz => ?_, fun z hz => ?_⟩ <;> cases hz
    · exact fun h => nomatch h
    · rfl
    · exact ⟨fun h => (nomatch h), fun h => nomatch h⟩
  | broken _ _ hlater =>
    exact ⟨.later (fun z hz => (nomatch hz)) hlater, fun z hz => (nomatch hz),
      fun z hz => (nomatch hz)⟩

/-- How a candidate whose header has been read is called, and what it leaves behind. -/
theorem Settled.effect (hs : Settled i answers c d k h x k' h') :
    i.Effect c.path h x h' ∧ ∀ z, x = .ok z → z.candidate.path = c.path ∧
      (z.classification = .cached ↔
        z.classification ≠ .skipped ∧ i.vouchedBy c.path h = .ok true) := by
  cases hs with
  | skipped =>
    refine ⟨.later (fun z hz => ?_) (.refl h), fun z hz => ?_⟩ <;> cases hz
    · exact fun h => nomatch h
    · exact ⟨rfl, iff_of_false (fun h => nomatch h) fun h => h.1 rfl⟩
  | cached _ hv =>
    refine ⟨.later (fun z hz => ?_) (.refl h), fun z hz => ?_⟩ <;> cases hz
    · exact fun h => nomatch h
    · exact ⟨path_withDirective c d, iff_of_true rfl ⟨fun h => (nomatch h), hv⟩⟩
  | unclear => exact ⟨.later (fun z hz => (nomatch hz)) (.refl h), fun z hz => (nomatch hz)⟩
  | unprobed _ _ hprobe =>
    exact ⟨.later (fun z hz => (nomatch hz)) hprobe.later, fun z hz => (nomatch hz)⟩
  | unusable _ hv hprobe =>
    refine ⟨.later (fun z hz => ?_) hprobe.later, fun z hz => ?_⟩ <;> cases hz
    · exact fun h => nomatch h
    · refine ⟨path_withDirective c d, iff_of_false (fun h => nomatch h) fun h => ?_⟩
      rw [hv] at h
      cases h.2
  | linted _ hv hprobe _ hlint =>
    -- the tool was only called for because the cache did not vouch for the file
    obtain ⟨heffect, hcandidate, hcalled⟩ := hlint.effect
    rw [path_withDirective] at heffect
    refine ⟨heffect.of_later hprobe.later, fun z hz => ⟨?_, iff_of_false (hcalled z hz).1 ?_⟩⟩
    · rw [hcandidate z hz, path_withDirective]
    · rintro ⟨-, hvouched⟩
      rw [hv] at hvouched
      cases hvouched

/-- How a file is called, and what it leaves behind. -/
theorem Invoked.effect (hi : Invoked i answers c k h x k' h') (hf : h.isFile c.path = .ok true) :
    i.Effect c.path h x h' ∧ ∀ z, x = .ok z → z.candidate.path = c.path ∧
      (z.classification = .cached ↔
        z.classification ≠ .skipped ∧ i.vouchedBy c.path h = .ok true) := by
  obtain ⟨a, bytes, y, t, hs⟩ := Host.isFile_eq_true_iff.mp hf
  have hread := Host.read_of_stat hs
  cases hi with
  | read _ hsettled => exact hsettled.effect
  | unread hread' | broken hread' =>
    rw [hread] at hread'
    cases hread'

end Invoker

end OptIn
