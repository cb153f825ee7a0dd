import Mathlib.Data.List.Basic
import OptIn.MultiRun
import OptIn.Proofs.Host.Checked
import OptIn.Proofs.Run.Progress

/-!
# The status of a run of all drivers

The status of the whole is the greatest number in a table that is filled driver by driver. While
the drivers run, the table holds the status of each outcome, and the status of a failure for each
driver that was stopped by a fault (`MultiOutcome.Accounted`, kept by `Accounted.step`). The
greatest of these numbers is settled by the results and the faults alone (`Accounted.exitCode_eq`).
-/

namespace OptIn

variable {α : Type} {key k : String} {v u : α} {l : List (String × α)}

/-! ### Tables -/

theorem mem_setEntry (key : String) (v : α) (l : List (String × α)) :
    v ∈ (setEntry key v l).map (·.2) := by
  induction l with
  | nil => simp [setEntry]
  | cons e rest ih =>
    rw [setEntry]
    split
    · simp
    · exact List.mem_cons_of_mem _ ih

theorem of_mem_setEntry (h : u ∈ (setEntry key v l).map (·.2)) : u = v ∨ u ∈ l.map (·.2) := by
  induction l with
  | nil => simpa [setEntry] using h
  | cons e rest ih =>
    rw [setEntry] at h
    split at h
    · rcases List.mem_cons.mp h with h | h
      · exact .inl h
      · exact .inr (List.mem_cons_of_mem _ h)
    · rcases List.mem_cons.mp h with h | h
      · exact .inr (h ▸ List.mem_cons_self)
      · exact (ih h).imp_right (List.mem_cons_of_mem _)

/-- A new key comes at the end. -/
theorem setEntry_of_not_mem (hkey : key ∉ l.map (·.1)) : setEntry key v l = l ++ [(key, v)] := by
  induction l with
  | nil => rfl
  | cons e rest ih =>
    have hne : ¬e.1 = key := fun h => hkey (h ▸ List.mem_cons_self)
    rw [setEntry, if_neg hne, ih fun h => hkey (List.mem_cons_of_mem _ h)]
    rfl

theorem setEntry_ne_nil (key : String) (v : α) (l : List (String × α)) : setEntry key v l ≠ [] := by
  intro h
  have hmem := mem_setEntry key v l
  rw [h] at hmem
  cases hmem

/-- No key is lost. -/
theorem mem_keys_setEntry {k : String} (h : k ∈ l.map (·.1)) :
    k ∈ (setEntry key v l).map (·.1) := by
  induction l with
  | nil => cases h
  | cons e rest ih =>
    rw [setEntry]
    split
    · rename_i hkey
      simpa [hkey] using h
    · rcases List.mem_cons.mp h with rfl | h
      · exact List.mem_cons_self
      · exact List.mem_cons_of_mem _ (ih h)

namespace MultiOutcome

/-- The results of all runs that came to their end. -/
def results (so : MultiOutcome) : List LintResult := so.outcomes.flatMap (·.summary.results)

/-- The greatest of all is the status of the whole. -/
theorem exitCode_eq_of_forall_le {so : MultiOutcome} {code : Int}
    (hmem : code ∈ so.exitCodes.map (·.2)) (hle : ∀ c ∈ so.exitCodes.map (·.2), c ≤ code) :
    so.exitCode = code := by
  rw [exitCode, List.max?_eq_some_iff.mpr ⟨hmem, hle⟩]
  rfl

theorem exitCode_eq_zero {so : MultiOutcome} (h : ∀ c ∈ so.exitCodes.map (·.2), c = 0) :
    so.exitCode = 0 := by
  rcases hcodes : so.exitCodes.map (·.2) with _ | ⟨c, cs⟩
  · rw [exitCode, hcodes]
    rfl
  · have hmem : c ∈ so.exitCodes.map (·.2) := hcodes ▸ List.mem_cons_self
    have hzero : 0 ∈ so.exitCodes.map (·.2) := h c hmem ▸ hmem
    exact exitCode_eq_of_forall_le hzero fun d hd => Int.le_of_eq (h d hd)

theorem candidateCount_eq_zero_iff {so : MultiOutcome} :
    so.candidateCount = 0 ↔ so.results = [] := by
  have hsum : ∀ (os : List DriverOutcome) (n : Nat),
      os.foldl (fun n o => n + o.summary.total) n =
        n + (os.flatMap (·.summary.results)).length := by
    intro os
    induction os with
    | nil => simp
    | cons o os ih =>
      intro n
      rw [List.foldl_cons, ih, List.flatMap_cons, List.length_append, Summary.total]
      omega
  rw [candidateCount, hsum, Nat.zero_add, List.length_eq_zero_iff]
  rfl

/-- How far a run of all drivers has come: the table of statuses has an entry for each outcome and
each fault, under the names of drivers that have run. -/
structure Accounted (so : MultiOutcome) (names : List String) : Prop where
  keys : ∀ key ∈ so.exitCodes.map (·.1), key ∈ names
  codes : ∀ code, code ∈ so.exitCodes.map (·.2) ↔
    (∃ o ∈ so.outcomes, code = o.status.code) ∨
      so.errors ≠ [] ∧ code = ExitStatus.lintFailure.code
  tallied : ∀ o ∈ so.outcomes, o.summary.Tallied
  status : ∀ o ∈ so.outcomes, o.status = o.summary.exitStatus false

theorem accounted_empty : Accounted {} [] where
  keys _ h := h
  codes code := by simp
  tallied _ h := nomatch h
  status _ h := nomatch h

end MultiOutcome

namespace MultiRun

variable {m : MultiRun} {so so' : MultiOutcome} {names : List String} {w w' : World} {d : Driver}
  {source : Source}

/-- What one driver adds to the outcome of the whole. -/
theorem step_cases (h : (m.step so d source).run w = (.ok so', w')) :
    (∃ o : DriverOutcome, o.summary.Tallied ∧ o.status = o.summary.exitStatus false ∧
      so' = { so with
        outcomes := so.outcomes ++ [o]
        exitCodes := setEntry d.name o.status.code so.exitCodes }) ∨
    ∃ message, so' = { so with
      errors := setEntry d.name message so.errors
      exitCodes := setEntry d.name ExitStatus.lintFailure.code so.exitCodes } := by
  rw [step] at h
  obtain ⟨header, w₁, -, h⟩ := Action.exists_of_run_bind_ok h
  obtain ⟨_, w₂, -, h⟩ := Action.exists_of_run_bind_ok h
  rw [Action.run_bind_ok (Action.run_attempt _ _)] at h
  rcases hrun : ((m.driverRun d).run source).run w₂ with ⟨e | o, w₃⟩
  · rw [hrun] at h
    simp only at h
    split at h
    · obtain ⟨_, w₄, -, h⟩ := Action.exists_of_run_bind_ok h
      cases h
      exact .inr ⟨e.message, rfl⟩
    · cases h
  · rw [hrun] at h
    obtain ⟨_, w₄, -, h⟩ := Action.exists_of_run_bind_ok h
    cases h
    obtain ⟨-, htallied, hstatus⟩ := DriverRun.tallied_of_run hrun
    exact .inl ⟨o, htallied, hstatus, rfl⟩

end MultiRun

namespace MultiOutcome

variable {m : MultiRun} {so so' : MultiOutcome} {names : List String} {w w' : World} {d : Driver}

theorem Accounted.keys_setEntry (ha : so.Accounted names) (hnew : d.name ∉ names) (code : Int) :
    setEntry d.name code so.exitCodes = so.exitCodes ++ [(d.name, code)] ∧
      ∀ key ∈ (setEntry d.name code so.exitCodes).map (·.1), key ∈ d.name :: names := by
  have hset := setEntry_of_not_mem (v := code) fun hmem => hnew (ha.keys _ hmem)
  refine ⟨hset, fun key hmem => ?_⟩
  rw [hset, List.map_append] at hmem
  rcases List.mem_append.mp hmem with hmem | hmem
  · exact List.mem_cons_of_mem _ (ha.keys key hmem)
  · exact List.mem_singleton.mp hmem ▸ List.mem_cons_self

/-- A driver that has not run yet adds its own entry. -/
theorem Accounted.step {source : Source} (ha : so.Accounted names) (hnew : d.name ∉ names)
    (h : (m.step so d source).run w = (.ok so', w')) : so'.Accounted (d.name :: names) := by
  rcases MultiRun.step_cases h with ⟨o, htallied, hstatus, rfl⟩ | ⟨message, rfl⟩
  · -- the driver has come to its end
    obtain ⟨hset, hkeys⟩ := ha.keys_setEntry hnew o.status.code
    refine ⟨hkeys, fun code => ?_, fun o' ho' => ?_, fun o' ho' => ?_⟩
    · rw [hset, List.map_append, List.mem_append, ha.codes]
      simp only [List.map_cons, List.map_nil, List.mem_singleton, List.mem_append]
      constructor
      · rintro ((⟨o', ho', hcode⟩ | herror) | rfl)
        · exact .inl ⟨o', .inl ho', hcode⟩
        · exact .inr herror
        · exact .inl ⟨o, .inr rfl, rfl⟩
      · rintro (⟨o', ho' | rfl, hcode⟩ | herror)
        · exact .inl (.inl ⟨o', ho', hcode⟩)
        · exact .inr hcode
        · exact .inl (.inr herror)
    · rcases List.mem_append.mp ho' with ho' | ho'
      · exact ha.tallied o' ho'
      · exact List.mem_singleton.mp ho' ▸ htallied
    · rcases List.mem_append.mp ho' with ho' | ho'
      · exact ha.status o' ho'
      · exact List.mem_singleton.mp ho' ▸ hstatus
  · -- the driver was stopped by a fault
    obtain ⟨hset, hkeys⟩ := ha.keys_setEntry hnew ExitStatus.lintFailure.code
    have herrors := setEntry_ne_nil d.name message so.errors
    refine ⟨hkeys, fun code => ?_, ha.tallied, ha.status⟩
    rw [hset, List.map_append, List.mem_append, ha.codes]
    simp only [List.map_cons, List.map_nil, List.mem_singleton]
    constructor
    · rintro ((houtcome | ⟨-, hcode⟩) | hcode)
      · exact .inl houtcome
      · exact .inr ⟨herrors, hcode⟩
      · exact .inr ⟨herrors, hcode⟩
    · rintro (houtcome | ⟨-, hcode⟩)
      · exact .inl (.inl houtcome)
      · exact .inr hcode

/-- Drivers of different names add an entry each. -/
theorem Accounted.steps {provider : Nat → Source} {ds : List Driver} {call : Nat}
    (ha : so.Accounted names) (hnodup : (ds.map (·.name)).Nodup)
    (hnew : ∀ d ∈ ds, d.name ∉ names)
    (h : (m.steps provider call so ds).run w = (.ok so', w')) : ∃ names, so'.Accounted names := by
  induction ds generalizing call so names w with
  | nil =>
    cases h
    exact ⟨names, ha⟩
  | cons d ds ih =>
    rw [MultiRun.steps] at h
    obtain ⟨so₁, w₁, hstep, h⟩ := Action.exists_of_run_bind_ok h
    obtain ⟨hd, hds⟩ := List.nodup_cons.mp hnodup
    refine ih (ha.step (hnew d List.mem_cons_self) hstep) hds (fun d' hd' => ?_) h
    refine List.not_mem_cons_of_ne_of_not_mem (fun hname => hd ?_)
      (hnew d' (List.mem_cons_of_mem _ hd'))
    exact List.mem_map.mpr ⟨d', hd', hname⟩

/-! ### The greatest number in the table -/

/-- The status of a driver's run by its results. -/
theorem code_cases {s : Summary} (hs : s.Tallied) :
    (∀ x ∈ s.results, x.classification ≠ .failed) ∧ (s.exitStatus false).code = 0 ∨
    (∃ x ∈ s.results, x.classification = .failed ∧ x.status = some 127) ∧
      (s.exitStatus false).code = 127 ∨
    (∃ x ∈ s.results, x.classification = .failed) ∧
      (¬∃ x ∈ s.results, x.classification = .failed ∧ x.status = some 127) ∧
        (s.exitStatus false).code = 1 := by
  have hmissing : (∃ x ∈ s.results, x.toolMissing = true) ↔
      ∃ x ∈ s.results, x.classification = .failed ∧ x.status = some 127 := by
    simp only [LintResult.toolMissing, Bool.and_eq_true, decide_eq_true_eq]
    rfl
  rw [hs.exitStatus_eq]
  split
  · rename_i hnone
    exact .inl ⟨hnone, rfl⟩
  · rename_i hsome
    split
    · rename_i hmiss
      exact .inr (.inl ⟨hmissing.mp hmiss, rfl⟩)
    · rename_i hmiss
      refine .inr (.inr ⟨?_, fun h => hmiss (hmissing.mpr h), rfl⟩)
      simpa using hsome

/-- Each number in the table has its reason. -/
theorem Accounted.code_reason (ha : so.Accounted names) {code : Int}
    (hmem : code ∈ so.exitCodes.map (·.2)) :
    code = 0 ∨
      code = 127 ∧ (∃ x ∈ so.results, x.classification = .failed ∧ x.status = some 127) ∨
        code = 1 ∧ (so.errors ≠ [] ∨ ∃ x ∈ so.results, x.classification = .failed) := by
  rcases (ha.codes code).mp hmem with ⟨o, ho, rfl⟩ | ⟨herrors, rfl⟩
  · rw [ha.status o ho]
    rcases code_cases (ha.tallied o ho) with ⟨-, h⟩ | ⟨⟨x, hx, hmiss⟩, h⟩ | ⟨⟨x, hx, hfailed⟩, -, h⟩
    · exact .inl h
    · exact .inr (.inl ⟨h, x, List.mem_flatMap.mpr ⟨o, ho, hx⟩, hmiss⟩)
    · exact .inr (.inr ⟨h, .inr ⟨x, List.mem_flatMap.mpr ⟨o, ho, hx⟩, hfailed⟩⟩)
  · exact .inr (.inr ⟨rfl, .inl herrors⟩)

theorem Accounted.mem_of_toolMissing (ha : so.Accounted names)
    (h : ∃ x ∈ so.results, x.classification = .failed ∧ x.status = some 127) :
    127 ∈ so.exitCodes.map (·.2) := by
  obtain ⟨x, hx, hmiss⟩ := h
  obtain ⟨o, ho, hxo⟩ := List.mem_flatMap.mp hx
  refine (ha.codes _).mpr (.inl ⟨o, ho, ?_⟩)
  rw [ha.status o ho]
  rcases code_cases (ha.tallied o ho) with ⟨hnone, -⟩ | ⟨-, hcode⟩ | ⟨-, hnone, -⟩
  · exact absurd hmiss.1 (hnone x hxo)
  · exact hcode.symm
  · exact absurd ⟨x, hxo, hmiss⟩ hnone

theorem Accounted.mem_of_failure (ha : so.Accounted names)
    (hmiss : ¬∃ x ∈ so.results, x.classification = .failed ∧ x.status = some 127)
    (h : so.errors ≠ [] ∨ ∃ x ∈ so.results, x.classification = .failed) :
    1 ∈ so.exitCodes.map (·.2) := by
  rcases h with herrors | ⟨x, hx, hfailed⟩
  · exact (ha.codes _).mpr (.inr ⟨herrors, rfl⟩)
  · obtain ⟨o, ho, hxo⟩ := List.mem_flatMap.mp hx
    refine (ha.codes _).mpr (.inl ⟨o, ho, ?_⟩)
    rw [ha.status o ho]
    rcases code_cases (ha.tallied o ho) with ⟨hnone, -⟩ | ⟨⟨y, hy, hmissing⟩, -⟩ | ⟨-, -, hcode⟩
    · exact absurd hfailed (hnone x hxo)
    · exact absurd ⟨y, List.mem_flatMap.mpr ⟨o, ho, hy⟩, hmissing⟩ hmiss
    · exact hcode.symm

/-- The greatest number in the table, by results and faults alone. -/
theorem Accounted.exitCode_eq (ha : so.Accounted names) :
    so.exitCode =
      if ∃ x ∈ so.results, x.classification = .failed ∧ x.status = some 127 then 127
      else if so.errors ≠ [] ∨ ∃ x ∈ so.results, x.classification = .failed then 1
      else 0 := by
  split
  · rename_i hmiss
    refine exitCode_eq_of_forall_le (ha.mem_of_toolMissing hmiss) fun code hmem => ?_
    rcases ha.code_reason hmem with rfl | ⟨rfl, -⟩ | ⟨rfl, -⟩ <;> decide
  · rename_i hmiss
    split
    · rename_i hfailure
      refine exitCode_eq_of_forall_le (ha.mem_of_failure hmiss hfailure) fun code hmem => ?_
      rcases ha.code_reason hmem with rfl | ⟨-, hmiss'⟩ | ⟨rfl, -⟩
      · decide
      · exact absurd hmiss' hmiss
      · decide
    · rename_i hfailure
      refine exitCode_eq_zero fun code hmem => ?_
      rcases ha.code_reason hmem with hcode | ⟨-, hmiss'⟩ | ⟨-, hfailure'⟩
      · exact hcode
      · exact absurd hmiss' hmiss
      · exact absurd hfailure' hfailure

/-- Without results and faults nothing but zeros is in the table. -/
theorem Accounted.code_eq_zero (ha : so.Accounted names) (herrors : so.errors = [])
    (hresults : so.results = []) {code : Int} (hmem : code ∈ so.exitCodes.map (·.2)) :
    code = 0 := by
  rcases ha.code_reason hmem with hcode | ⟨-, x, hx, -⟩ | ⟨-, hne | ⟨x, hx, -⟩⟩
  · exact hcode
  · rw [hresults] at hx
    cases hx
  · exact absurd herrors hne
  · rw [hresults] at hx
    cases hx

end MultiOutcome

namespace MultiRun

variable {m : MultiRun} {so so' : MultiOutcome} {w w' : World} {provider : Nat → Source}

theorem close_cases (h : (m.close so).run w = (.ok so', w')) :
    (m.settings.requireCandidates = true ∧ so.errors = [] ∧ so.results = []) ∧
      so' = { so with exitCodes := setEntry wholeKey ExitStatus.noCandidates.code so.exitCodes } ∨
    ¬(m.settings.requireCandidates = true ∧ so.errors = [] ∧ so.results = []) ∧ so' = so := by
  have hcond : (m.settings.requireCandidates && so.errors.isEmpty && so.candidateCount = 0) = true ↔
      m.settings.requireCandidates = true ∧ so.errors = [] ∧ so.results = [] := by
    simp [MultiOutcome.candidateCount_eq_zero_iff, and_assoc]
  rw [close] at h
  split at h
  · rename_i hnone
    obtain ⟨_, w₁, -, h⟩ := Action.exists_of_run_bind_ok h
    cases h
    exact .inl ⟨hcond.mp hnone, rfl⟩
  · rename_i hnone
    cases h
    exact .inr ⟨fun hall => hnone (hcond.mpr hall), rfl⟩

theorem exists_accounted_of_run (h : (m.run provider).run w = (.ok so', w')) :
    ∃ so names w₁ w₂, so.Accounted names ∧ (m.close so).run w₁ = (.ok so', w₂) := by
  rw [run] at h
  obtain ⟨_, w₁, -, h⟩ := Action.exists_of_run_bind_ok h
  obtain ⟨so, w₂, hsteps, h⟩ := Action.exists_of_run_bind_ok h
  have hnodup : (m.selected.map (·.name)).Nodup :=
    m.registry.distinct.sublist ((List.filter_sublist).map _)
  obtain ⟨names, ha⟩ := MultiOutcome.accounted_empty.steps hnodup (fun _ _ h => nomatch h) hsteps
  exact ⟨so, names, w₂, w', ha, h⟩

/-- Seeing to it that candidates were found changes the status only if there was nothing else to
tell. -/
theorem exitCode_of_close {names : List String} (ha : so.Accounted names)
    (h : (m.close so).run w = (.ok so', w')) :
    so'.errors = so.errors ∧ so'.results = so.results ∧
      so'.exitCode =
        if ∃ x ∈ so.results, x.classification = .failed ∧ x.status = some 127 then 127
        else if m.settings.requireCandidates = true ∧ so.errors = [] ∧ so.results = [] then 2
        else if so.errors ≠ [] ∨ ∃ x ∈ so.results, x.classification = .failed then 1
        else 0 := by
  rcases close_cases h with ⟨hnone, rfl⟩ | ⟨hsome, rfl⟩
  · -- all other entries of the table are 0 then
    refine ⟨rfl, rfl, ?_⟩
    have hmiss : ¬∃ x ∈ so.results, x.classification = .failed ∧ x.status = some 127 := by
      simp [hnone.2.2]
    rw [if_neg hmiss, if_pos hnone]
    refine MultiOutcome.exitCode_eq_of_forall_le (mem_setEntry _ _ _) fun code hmem => ?_
    rcases of_mem_setEntry hmem with rfl | hmem
    · exact Int.le_refl _
    · rw [ha.code_eq_zero hnone.2.1 hnone.2.2 hmem]
      decide
  · refine ⟨rfl, rfl, ?_⟩
    rw [if_neg hsome]
    exact ha.exitCode_eq

/-- The **status of a run of all drivers**: 127 if a tool could not be used for some file, else 2 if
candidates are required and there were none and no driver was stopped, else 1 if a driver was
stopped or a file failed, else 0. No other number is given, and 0 only if all is well. -/
theorem exitCode_of_run (h : (m.run provider).run w = (.ok so, w')) :
    so.exitCode =
        (if ∃ x ∈ so.results, x.classification = .failed ∧ x.status = some 127 then 127
        else if m.settings.requireCandidates = true ∧ so.errors = [] ∧ so.results = [] then 2
        else if so.errors ≠ [] ∨ ∃ x ∈ so.results, x.classification = .failed then 1
        else 0) ∧
      so.exitCode ∈ [0, 1, 2, 127] ∧
      (so.exitCode = 0 ↔
        (∀ x ∈ so.results, x.classification ≠ .failed) ∧ so.errors = [] ∧
          (so.results ≠ [] ∨ m.settings.requireCandidates = false)) := by
  obtain ⟨so₁, names, w₁, w₂, ha, hclose⟩ := exists_accounted_of_run h
  obtain ⟨herrors, hresults, hcode⟩ := exitCode_of_close ha hclose
  rw [← herrors, ← hresults] at hcode
  refine ⟨hcode, ?_, ?_⟩
  · rw [hcode]
    split_ifs <;> decide
  · rw [hcode]
    split_ifs with hmiss hnone hfailure
    · obtain ⟨x, hx, hfailed, -⟩ := hmiss
      exact iff_of_false (by decide) fun hwell => hwell.1 x hx hfailed
    · refine iff_of_false (by decide) fun hwell => ?_
      rcases hwell.2.2 with hsome | hfree
      · exact hsome hnone.2.2
      · rw [hnone.1] at hfree
        cases hfree
    · refine iff_of_false (by decide) fun hwell => ?_
      rcases hfailure with hne | ⟨x, hx, hfailed⟩
      · exact hne hwell.2.1
      · exact hwell.1 x hx hfailed
    · obtain ⟨hnofault, hnofailure⟩ := not_or.mp hfailure
      have hquiet : so.errors = [] := not_not.mp hnofault
      refine iff_of_true rfl ⟨fun x hx hfailed => hnofailure ⟨x, hx, hfailed⟩, hquiet, ?_⟩
      by_cases hempty : so.results = []
      · right
        rcases hrequire : m.settings.requireCandidates with _ | _
        · rfl
        · exact absurd ⟨hrequire, hquiet, hempty⟩ hnone
      · exact .inl hempty

/-- The run of the Python driver, whose tool rejects each file, and of the shell driver, whose tool
is missing. -/
def sample : MultiRun where
  registry := ⟨[.python, .shell], by decide⟩
  settings := (DriverRun.sample 0).settings
  detect := shebangDetector
  runner := fun w c =>
    { outcome :=
        if c.command.head? = some "shellcheck" then .error (.noExecutable "shellcheck")
        else .ok { command := c.command, status := if c.command.contains "--version" then 0 else 3 }
      host := w.host }
  sink := .collected

/-- On a file of each driver that asks for linting, it ends with the status of the missing tool, and
not with that of the rejected file. -/
theorem exitCode_of_run_sample : ∃ so w',
    (sample.run fun _ => .ofPaths [.absolute ["r", "a.py"], .absolute ["r", "b.sh"]]).run
        ⟨.holding [["r"]] [(["r", "a.py"], DriverRun.sampleBytes),
          (["r", "b.sh"], Text.Utf8.encode "# shellcheck".toList)], []⟩ = (.ok so, w') ∧
      so.results.map (fun x => (x.classification, x.status)) =
        [(.failed, some 3), (.failed, some 127)] ∧
      so.exitCode = 127 := by
  generalize hx : Action.run _ _ = x
  have hresults : x.1.toOption.map (·.results.map fun x => (x.classification, x.status)) =
      some [(.failed, some 3), (.failed, some 127)] := hx ▸ by decide +kernel
  obtain ⟨e | so, w'⟩ := x
  · cases hresults
  · have hboth : so.results.map (fun x => (x.classification, x.status)) =
        [(.failed, some 3), (.failed, some 127)] := Option.some.inj hresults
    have hmiss : ∃ x ∈ so.results, x.classification = .failed ∧ x.status = some 127 := by
      obtain ⟨x, hx, heq⟩ := List.mem_map.mp (hboth ▸ by simp :
        (.failed, some 127) ∈ so.results.map fun x => (x.classification, x.status))
      exact ⟨x, hx, Prod.ext_iff.mp heq⟩
    refine ⟨so, w', rfl, hboth, ?_⟩
    rw [(exitCode_of_run hx).1, if_pos hmiss]

end MultiRun

end OptIn
