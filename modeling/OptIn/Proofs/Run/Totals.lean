import OptIn.DriverRun

/-!
# Totals

The totals of a summary count its results. `Summary.Tallied` says so; adding a result keeps it
(`Tallied.add`), so the summary of every run has it (`tallied_of_run`), and the status that a run
ends with can be read off its results alone (`exitStatus_eq`).
-/

namespace OptIn

namespace Summary

/-- The totals of a summary are those of its results. -/
structure Tallied (s : Summary) : Prop where
  passed : s.passed = s.results.countP (·.classification = .passed)
  failed : s.failed = s.results.countP (·.classification = .failed)
  skipped : s.skipped = s.results.countP (·.classification.countsAsSkipped)
  cachedPaths : s.cachedPaths =
    (s.results.filter (·.classification = .cached)).map (·.candidate.path)

theorem tallied_empty : Tallied {} := ⟨rfl, rfl, rfl, rfl⟩

theorem Tallied.add {s : Summary} (hs : s.Tallied) (x : LintResult) : (s.add x).Tallied := by
  obtain ⟨c, classification, status⟩ := x
  cases classification <;>
    constructor <;>
    simp [Summary.add, List.countP_append, List.filter_append, hs.passed, hs.failed, hs.skipped,
      hs.cachedPaths, Classification.countsAsSkipped]

theorem Tallied.failed_eq_zero {s : Summary} (hs : s.Tallied) :
    s.failed = 0 ↔ ∀ x ∈ s.results, x.classification ≠ .failed := by
  rw [hs.failed, List.countP_eq_zero]
  simp

/-- The status of a run by its results: nothing failed, a tool could not be used, or a tool found
fault. -/
theorem Tallied.exitStatus_eq {s : Summary} (hs : s.Tallied) :
    s.exitStatus false =
      if ∀ x ∈ s.results, x.classification ≠ .failed then .success
      else if ∃ x ∈ s.results, x.toolMissing = true then .toolMissing
      else .lintFailure := by
  rw [exitStatus, Bool.false_and, if_neg (by simp)]
  simp only [hs.failed_eq_zero, List.any_eq_true]

/-- Runs with the same failures end alike. -/
theorem Tallied.exitStatus_eq_of_map {s s' : Summary} {f : LintResult → LintResult} (hs : s.Tallied)
    (hs' : s'.Tallied) (hresults : s'.results = s.results.map f)
    (hfailed : ∀ x, (f x).classification = .failed ↔ x.classification = .failed)
    (hmissing : ∀ x, (f x).toolMissing = x.toolMissing) (required : Bool) :
    s'.exitStatus required = s.exitStatus required := by
  have hcount : s'.failed = s.failed := by
    rw [hs.failed, hs'.failed, hresults, List.countP_map]
    simp [Function.comp_def, hfailed]
  rw [exitStatus, exitStatus, hcount, hresults, List.any_map, List.isEmpty_map]
  simp only [Function.comp_def, hmissing]

end Summary

theorem Session.run_of_onWorld {α : Type} {x : Action World α} {y : Except Fault α}
    {s t : Session} (h : (onWorld x).run s = (y, t)) : x.run s.world = (y, t.world) := by
  cases h
  rfl

namespace DriverRun

variable {r : DriverRun} {w w' : World}

/-- A summary is collected from the paths that a source gives. -/
theorem exists_collect_of_summarize {source : Source} {s : Summary}
    (h : (r.summarize source).run w = (.ok s, w')) :
    ∃ pulls w₁ t, source.run w = (.ok pulls, w₁) ∧
      (r.collect [] {} pulls).run ⟨w₁, none⟩ = (.ok s, t) ∧ t.world = w' := by
  rw [summarize, Session.begin, Action.run_within] at h
  rcases hrun : (Session.onWorld source >>= r.collect [] {}).run ⟨w, none⟩ with ⟨x, t⟩
  rw [hrun] at h
  cases h
  obtain ⟨pulls, t₁, hopen, hcollect⟩ := Action.exists_of_run_bind_ok hrun
  have hprobe : t₁.probe = none := (congrArg (·.2.probe) hopen).symm
  refine ⟨pulls, t₁.world, t, Session.run_of_onWorld hopen, ?_, rfl⟩
  rw [← hprobe]
  exact hcollect

theorem tallied_of_collect {seen : List Path} {s s' : Summary} {pulls : List (Action World Path)}
    {t t' : Session} (hs : s.Tallied) (h : (r.collect seen s pulls).run t = (.ok s', t')) :
    s'.Tallied := by
  induction pulls generalizing seen s t with
  | nil =>
    cases h
    exact hs
  | cons pull rest ih =>
    rw [collect] at h
    obtain ⟨p, t₁, -, h⟩ := Action.exists_of_run_bind_ok h
    obtain ⟨c?, t₂, -, h⟩ := Action.exists_of_run_bind_ok h
    cases c? with
    | none => exact ih hs h
    | some c =>
      obtain ⟨x, t₃, -, h⟩ := Action.exists_of_run_bind_ok h
      exact ih (hs.add x) h

theorem tallied_of_summarize {source : Source} {s : Summary}
    (h : (r.summarize source).run w = (.ok s, w')) : s.Tallied := by
  obtain ⟨pulls, w₁, t, -, hcollect, -⟩ := exists_collect_of_summarize h
  exact tallied_of_collect Summary.tallied_empty hcollect

/-- A run that comes to its end tells its driver, its results with their totals, and their
status. -/
theorem tallied_of_run {source : Source} {o : DriverOutcome}
    (h : (r.run source).run w = (.ok o, w')) :
    o.driver = r.driver.name ∧ o.summary.Tallied ∧
      o.status = o.summary.exitStatus r.settings.requireCandidates := by
  rw [run] at h
  obtain ⟨s, w₁, hsummary, h⟩ := Action.exists_of_run_bind_ok h
  obtain ⟨status, w₂, hfinish, h⟩ := Action.exists_of_run_bind_ok h
  cases h
  refine ⟨rfl, tallied_of_summarize hsummary, ?_⟩
  rw [Summary.finish] at hfinish
  split at hfinish
  · obtain ⟨_, _, -, hstatus⟩ := Action.exists_of_run_bind_ok hfinish
    cases hstatus
    rfl
  · obtain ⟨_, _, -, hstatus⟩ := Action.exists_of_run_bind_ok hfinish
    cases hstatus
    rfl

end DriverRun

end OptIn
