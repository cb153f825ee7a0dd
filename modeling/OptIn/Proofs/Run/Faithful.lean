import OptIn.Proofs.Host.Checked
import OptIn.Proofs.Host.Refusals
import OptIn.Proofs.Run.Report

/-!
# Reports are faithful

The totals of a summary, the files that the cache vouched for, the lines of the report and the
status of the run are kept or made apart from each other, and all tell the same results. A summary
to which results are added one after another accounts for them (`Summary.accounts_foldl`); the
lines are those that the results should make (`Summary.told`), wherever all paths can be shown. A
path that leads into a circle of links cannot, and then there is no report at all.
-/

namespace OptIn

namespace Classification

variable {c c' : Classification}

theorem name_inj : c.name = c'.name ↔ c = c' := by
  cases c <;> cases c' <;> decide

theorem name_ne_cachedLabel (c : Classification) : c.name ≠ cachedLabel := by
  cases c <;> decide

theorem label_of_ne (hc : c ≠ .cached) : c.label = c.name := by
  cases c with
  | cached => exact absurd rfl hc
  | passed | failed | skipped => rfl

end Classification

/-- What stands on a line of a report: its label and its text. -/
def ReportLine.reading (l : ReportLine) : String × String := (l.classification.label, l.text)

theorem mapM_eq_ok_map {α β : Type} {f : α → Except Fault β} {g : α → β} {l : List α}
    (h : ∀ x ∈ l, f x = .ok (g x)) : l.mapM f = .ok (l.map g) := by
  induction l with
  | nil => rfl
  | cons x l ih =>
    rw [List.mapM_cons, h x List.mem_cons_self, ih fun y hy => h y (List.mem_cons_of_mem x hy)]
    rfl

theorem exists_of_mapM_error {α β : Type} {f : α → Except Fault β} {l : List α} {e : Fault}
    (h : l.mapM f = .error e) : ∃ x ∈ l, f x = .error e := by
  induction l with
  | nil => cases h
  | cons x l ih =>
    rw [List.mapM_cons] at h
    rcases hx : f x with e' | y
    · rw [hx] at h
      cases h
      exact ⟨x, List.mem_cons_self, hx⟩
    · rcases hl : l.mapM f with e' | ys
      · rw [hx, hl] at h
        cases h
        obtain ⟨z, hz, hfz⟩ := ih hl
        exact ⟨z, List.mem_cons_of_mem x hz, hfz⟩
      · rw [hx, hl] at h
        cases h

/-- A path that cannot be shown leads into a circle of links, or the root does. -/
theorem linkLoop_of_displayPath {h : Host} {p root : Path} {e : Fault}
    (he : displayPath h p root = .error e) : ∃ t, e = .linkLoop t := by
  have hcases : ∀ {q : Path} {e' : Fault}, h.resolve q = .error e' →
      (if e'.isValue || e'.isSystem then .ok p.text else .error e') = Except.error e →
      ∃ t, e = .linkLoop t := fun hq hfault => by
    rcases Host.cases_of_resolve hq with rfl | ⟨t, rfl⟩
    · cases hfault
    · cases hfault
      exact ⟨t, rfl⟩
  rcases hp : h.resolve p with e' | q
  · rw [displayPath, hp] at he
    exact hcases hp he
  rcases hr : h.resolve root with e' | r
  · rw [displayPath, hp, hr] at he
    exact hcases hr he
  · obtain ⟨t, ht⟩ := exists_displayPath (.inr ⟨q, hp⟩) (.inr ⟨r, hr⟩)
    rw [ht] at he
    cases he

namespace Summary

variable {s : Summary} {h : Host} {root : Path} {xs : List LintResult} {ls : List ReportLine}
  {shown : Path → String} {c : Classification} {e : Fault}

/-! ### Totals -/

theorem Tallied.sum (hs : s.Tallied) : s.passed + s.failed + s.skipped = s.results.length := by
  rw [hs.passed, hs.failed, hs.skipped]
  induction s.results with
  | nil => rfl
  | cons x xs ih =>
    rw [List.countP_cons, List.countP_cons, List.countP_cons, List.length_cons, ← ih]
    cases x.classification <;> simp only [Classification.countsAsSkipped, decide_true,
      decide_false, reduceCtorEq, if_true, if_false, Bool.false_eq_true] <;> omega

theorem countP_countsAsSkipped (xs : List LintResult) :
    xs.countP (·.classification.countsAsSkipped) =
      xs.countP (·.classification = .skipped) + xs.countP (·.classification = .cached) := by
  induction xs with
  | nil => rfl
  | cons x xs ih =>
    rw [List.countP_cons, List.countP_cons, List.countP_cons, ih]
    cases x.classification <;> simp only [Classification.countsAsSkipped, decide_true,
      decide_false, reduceCtorEq, if_true, if_false, Bool.false_eq_true] <;> omega

/-- A summary **accounts** for results: it has them in order, and totals that add up to their
number. -/
structure Accounts (s : Summary) (xs : List LintResult) : Prop extends s.Tallied where
  results : s.results = xs
  sum : s.passed + s.failed + s.skipped = xs.length

theorem results_foldl (s : Summary) (xs : List LintResult) :
    (xs.foldl add s).results = s.results ++ xs := by
  induction xs generalizing s with
  | nil => exact (List.append_nil _).symm
  | cons x xs ih => rw [List.foldl_cons, ih, results_add, List.append_assoc, List.singleton_append]

theorem tallied_foldl (hs : s.Tallied) (xs : List LintResult) : (xs.foldl add s).Tallied := by
  induction xs generalizing s with
  | nil => exact hs
  | cons x xs ih => exact ih (hs.add x)

theorem accounts_foldl (xs : List LintResult) : Accounts (xs.foldl add {}) xs := by
  have hs := tallied_foldl tallied_empty xs
  have hresults : (xs.foldl add {}).results = xs := results_foldl {} xs
  exact ⟨hs, hresults, by rw [hs.sum, hresults]⟩

theorem Tallied.code_eq_zero_iff (hs : s.Tallied) (required : Bool) :
    (s.exitStatus required).code = 0 ↔
      (∀ x ∈ s.results, x.classification ≠ .failed) ∧ (s.results ≠ [] ∨ required = false) := by
  rw [← hs.failed_eq_zero, exitStatus]
  split
  · rename_i hempty
    simp only [Bool.and_eq_true, List.isEmpty_iff] at hempty
    simp [hempty, ExitStatus.code]
  · rename_i hempty
    simp only [Bool.and_eq_true, List.isEmpty_iff, not_and'] at hempty
    have hwanted : s.results ≠ [] ∨ required = false := by
      by_cases hnone : s.results = []
      · exact .inr (by simpa using hempty hnone)
      · exact .inl hnone
    split
    · rename_i hzero
      exact iff_of_true rfl ⟨hzero, hwanted⟩
    · rename_i hzero
      refine iff_of_false ?_ fun hboth => hzero hboth.1
      split <;> decide

/-! ### Lines -/

/-- What a report should **tell** of results when paths are shown in some way: a line for each
result that the cache had no part in, and then, if there are others, one line for all of them. -/
def told (shown : Path → String) (xs : List LintResult) : List (String × String) :=
  (xs.filter (·.classification ≠ .cached)).map
      (fun x => (x.classification.name, shown x.candidate.path)) ++
    if xs.any (·.classification = .cached) then
      [(cachedLabel, " ".intercalate ((xs.filter (·.classification = .cached)).map
        fun x => shown x.candidate.path))]
    else []

/-- There are as many lines with the name of a classification as results in it. -/
theorem countP_told_name (shown : Path → String) (xs : List LintResult) (hc : c ≠ .cached) :
    (told shown xs).countP (·.1 = c.name) = xs.countP (·.classification = c) := by
  have hown : ∀ x : LintResult, decide (x.classification.name = c.name) &&
      decide (x.classification ≠ .cached) ↔ decide (x.classification = c) = true := fun x => by
    simp only [Bool.and_eq_true, decide_eq_true_eq, Classification.name_inj]
    exact and_iff_left_of_imp fun hx => hx ▸ hc
  have hshared : cachedLabel ≠ c.name := c.name_ne_cachedLabel.symm
  rw [told, List.countP_append, List.countP_map, List.countP_filter,
    ← List.countP_congr fun x _ => hown x]
  split <;> simp [hshared]

/-- One line at most is shared, and it is there just if there are results to share it. -/
theorem countP_told_cachedLabel (shown : Path → String) (xs : List LintResult) :
    (told shown xs).countP (·.1 = cachedLabel) =
      if xs.any (·.classification = .cached) then 1 else 0 := by
  have hown : ((xs.filter (·.classification ≠ .cached)).map
      fun x => (x.classification.name, shown x.candidate.path)).countP (·.1 = cachedLabel) = 0 := by
    rw [List.countP_map, List.countP_eq_zero]
    exact fun x _ => by simpa using x.classification.name_ne_cachedLabel
  rw [told, List.countP_append, hown]
  split <;> simp

/-- The lines of results that the cache had no part in. -/
theorem exists_own_lines {ys : List LintResult} (hown : ∀ x ∈ ys, x.classification ≠ .cached)
    (hshown : ∀ x ∈ ys, displayPath h x.candidate.path root = .ok (shown x.candidate.path)) :
    ∃ own, ys.mapM (resultLine h root) = .ok own ∧ own.map ReportLine.reading =
      ys.map fun x => (x.classification.name, shown x.candidate.path) := by
  refine ⟨ys.map fun x => ⟨x.classification, shown x.candidate.path⟩, ?_, ?_⟩
  · exact mapM_eq_ok_map fun x hx => by rw [resultLine, hshown x hx]; rfl
  · rw [List.map_map]
    refine List.map_congr_left fun x hx => ?_
    rw [Function.comp_apply, ReportLine.reading, Classification.label_of_ne (hown x hx)]

/-- When its paths are shown in some way, the lines of a summary are those that its results should
make. -/
theorem exists_lines_of_shown (hs : s.Tallied)
    (hshown : ∀ x ∈ s.results, displayPath h x.candidate.path root = .ok (shown x.candidate.path)) :
    ∃ ls, s.lines h root = .ok ls ∧ ls.map ReportLine.reading = told shown s.results := by
  have hothers : ∀ x ∈ s.results.filter (·.classification ≠ .cached),
      displayPath h x.candidate.path root = .ok (shown x.candidate.path) :=
    fun x hx => hshown x (List.mem_filter.mp hx).1
  obtain ⟨own, hown, hreading⟩ :=
    exists_own_lines (fun x hx => by simpa using (List.mem_filter.mp hx).2) hothers
  have htexts : s.cachedPaths.mapM (displayPath h · root) = .ok (s.cachedPaths.map shown) := by
    refine mapM_eq_ok_map fun p hp => ?_
    rw [hs.cachedPaths] at hp
    obtain ⟨x, hx, rfl⟩ := List.mem_map.mp hp
    exact hshown x (List.mem_filter.mp hx).1
  have hnone : s.cachedPaths.isEmpty = !s.results.any (·.classification = .cached) := by
    rw [hs.cachedPaths, Bool.eq_iff_iff]
    simp
  have hjoined : s.cachedPaths.map shown =
      (s.results.filter (·.classification = .cached)).map fun x => shown x.candidate.path := by
    rw [hs.cachedPaths, List.map_map]
    rfl
  rw [lines, hown, cachedLine, htexts, hnone, told, ← hreading, hjoined]
  cases s.results.any (·.classification = .cached) with
  | false => exact ⟨_, rfl, by simp⟩
  | true => exact ⟨_, rfl, List.map_append⟩

theorem displayPath_of_resultLine_error {x : LintResult} (he : resultLine h root x = .error e) :
    displayPath h x.candidate.path root = .error e := by
  rw [resultLine] at he
  rcases hd : displayPath h x.candidate.path root with e' | t
  · rw [hd] at he
    cases he
    rfl
  · rw [hd] at he
    cases he

theorem exists_of_cachedLine_error {ps : List Path} (he : cachedLine h root ps = .error e) :
    ∃ p ∈ ps, displayPath h p root = .error e := by
  rw [cachedLine] at he
  split at he
  · cases he
  · rcases htexts : ps.mapM (displayPath h · root) with e' | texts
    · rw [htexts] at he
      cases he
      exact exists_of_mapM_error htexts
    · rw [htexts] at he
      cases he

/-- A report that cannot be written fails with a path that cannot be shown. -/
theorem exists_of_lines_error (hs : s.Tallied) (he : s.lines h root = .error e) :
    ∃ x ∈ s.results, displayPath h x.candidate.path root = .error e := by
  rw [lines] at he
  rcases hown : (s.results.filter (·.classification ≠ .cached)).mapM (resultLine h root) with
    e' | own
  · rw [hown] at he
    cases he
    obtain ⟨x, hx, hline⟩ := exists_of_mapM_error hown
    exact ⟨x, (List.mem_filter.mp hx).1, displayPath_of_resultLine_error hline⟩
  · rcases hshared : cachedLine h root s.cachedPaths with e' | shared
    · rw [hown, hshared] at he
      cases he
      obtain ⟨p, hp, hd⟩ := exists_of_cachedLine_error hshared
      rw [hs.cachedPaths] at hp
      obtain ⟨x, hx, rfl⟩ := List.mem_map.mp hp
      exact ⟨x, (List.mem_filter.mp hx).1, hd⟩
    · rw [hown, hshared] at he
      cases he

/-- Lines **tell** results: they are those that the results should make, and as many of each kind
as the totals say. -/
structure Tells (s : Summary) (h : Host) (root : Path) (ls : List ReportLine) : Prop where
  told : ∃ shown : Path → String,
    (∀ x ∈ s.results, displayPath h x.candidate.path root = .ok (shown x.candidate.path)) ∧
      ls.map ReportLine.reading = Summary.told shown s.results
  passed : (ls.map ReportLine.reading).countP (·.1 = "passed") = s.passed
  failed : (ls.map ReportLine.reading).countP (·.1 = "failed") = s.failed
  skipped : (ls.map ReportLine.reading).countP (·.1 = "skipped") + s.cachedPaths.length = s.skipped
  shared : (ls.map ReportLine.reading).countP (·.1 = "deja-vu") =
    if ∃ x ∈ s.results, x.classification = .cached then 1 else 0

theorem shown_iff_exists : s.Shown h root ↔ ∃ shown : Path → String, ∀ x ∈ s.results,
    displayPath h x.candidate.path root = .ok (shown x.candidate.path) := by
  constructor
  · intro hs
    refine ⟨fun p => (displayPath h p root).toOption.getD "", fun x hx => ?_⟩
    obtain ⟨t, ht⟩ := hs x hx
    simp [ht, Except.toOption]
  · rintro ⟨shown, hshown⟩ x hx
    exact ⟨_, hshown x hx⟩

theorem tells_of_lines (hs : s.Tallied) (hlines : s.lines h root = .ok ls) :
    s.Tells h root ls := by
  obtain ⟨shown, hshown⟩ := shown_iff_exists.mp ((exists_lines_iff hs).mp ⟨ls, hlines⟩)
  obtain ⟨ls', hls', htold⟩ := exists_lines_of_shown hs hshown
  obtain rfl : ls' = ls := Except.ok.inj (hls'.symm.trans hlines)
  have hcached : s.cachedPaths.length = s.results.countP (·.classification = .cached) := by
    rw [hs.cachedPaths, List.length_map, List.countP_eq_length_filter]
  refine ⟨⟨shown, hshown, htold⟩, ?_, ?_, ?_, ?_⟩ <;> rw [htold]
  · exact (countP_told_name shown s.results (c := .passed) (by decide)).trans hs.passed.symm
  · exact (countP_told_name shown s.results (c := .failed) (by decide)).trans hs.failed.symm
  · have hskipped := countP_told_name shown s.results (c := .skipped) (by decide)
    rw [hcached, hs.skipped, countP_countsAsSkipped, ← hskipped]
    rfl
  · refine (countP_told_cachedLabel shown s.results).trans ?_
    simp

/-- **Reports are faithful.** A summary to which results have been added accounts for them. Its
lines can be had exactly if all paths can be shown, which nothing but a circle of links prevents,
and they tell the results. The report can be written in the same case, and consists of them; its
status is 0 exactly if nothing failed and no candidates are missed. -/
theorem report_faithful (xs : List LintResult) (settings : Settings) (w : World) :
    let s := xs.foldl add {}
    s.Accounts xs ∧
    ((∃ ls, s.lines w.host settings.root = .ok ls) ↔ s.Shown w.host settings.root) ∧
    (∀ e, s.lines w.host settings.root = .error e → ∃ t, e = .linkLoop t ∧
      ∃ x ∈ xs, displayPath w.host x.candidate.path settings.root = .error e) ∧
    (∀ ls, s.lines w.host settings.root = .ok ls → s.Tells w.host settings.root ls) ∧
    ((∃ status w', (s.finish settings).run w = (.ok status, w')) ↔
      s.Shown w.host settings.root) ∧
    ∀ status w', (s.finish settings).run w = (.ok status, w') →
      (status.code = 0 ↔ (∀ x ∈ xs, x.classification ≠ .failed) ∧
        (xs ≠ [] ∨ settings.requireCandidates = false)) ∧
      ((settings.requireCandidates = true ∧ xs = [] ∧
          ∃ text, w' = w.log (.printed .err text)) ∨
        ∃ ls, s.lines w.host settings.root = .ok ls ∧
          w' = w.log (.printed .out (s.printed settings.color ls))) := by
  intro s
  have ha : s.Accounts xs := accounts_foldl xs
  have hs : s.Tallied := ha.toTallied
  refine ⟨ha, exists_lines_iff hs, ?_, fun ls => tells_of_lines hs, exists_finish_iff settings hs,
    ?_⟩
  · intro e he
    obtain ⟨x, hx, hd⟩ := exists_of_lines_error hs he
    obtain ⟨t, ht⟩ := linkLoop_of_displayPath hd
    exact ⟨t, ht, x, ha.results ▸ hx, hd⟩
  · intro status w' hfinish
    obtain ⟨rfl, hprinted⟩ := cases_of_finish hfinish
    rw [hs.code_eq_zero_iff, ← ha.results]
    exact ⟨.rfl, hprinted⟩

/-- One result of each kind, and two that the cache vouched for. -/
theorem report_faithful_sample : ∃ (xs : List LintResult) (settings : Settings) (w w' : World)
    (ls : List ReportLine) (status : ExitStatus),
    (xs.foldl add {}).lines w.host settings.root = .ok ls ∧
    (xs.foldl add {}).Tells w.host settings.root ls ∧
    ls.map ReportLine.reading = [("passed", "a.py"), ("failed", "c.py"), ("skipped", "e.py"),
      ("deja-vu", "b.py d.py")] ∧
    ((xs.foldl add {}).finish settings).run w = (.ok status, w') ∧ status.code ≠ 0 := by
  generalize hxs : [("a.py", Classification.passed), ("b.py", .cached), ("c.py", .failed),
    ("d.py", .cached), ("e.py", .skipped)].map (fun x =>
      (⟨⟨.absolute ["r", x.1], .python, []⟩, x.2, none⟩ : LintResult)) = xs
  generalize hsettings : ({ root := .absolute ["r"], cacheRoot := .absolute ["c"] } : Settings) =
    settings
  generalize hw : (⟨.holding [["r"]] [], []⟩ : World) = w
  obtain ⟨-, hlines, -, htells, hfinish, hstatus⟩ := report_faithful xs settings w
  have hreading : ((xs.foldl add {}).lines w.host settings.root).toOption.map
      (·.map ReportLine.reading) = some [("passed", "a.py"), ("failed", "c.py"),
        ("skipped", "e.py"), ("deja-vu", "b.py d.py")] := by
    subst hxs hsettings hw
    decide +kernel
  rcases hls : (xs.foldl add {}).lines w.host settings.root with e | ls
  · rw [hls] at hreading
    cases hreading
  rw [hls] at hreading
  obtain ⟨status, w', hrun⟩ := hfinish.mpr (hlines.mp ⟨ls, hls⟩)
  refine ⟨xs, settings, w, w', ls, status, hls, htells ls hls, Option.some.inj hreading, hrun,
    fun hzero => ?_⟩
  have hnone := ((hstatus status w' hrun).1.mp hzero).1
  subst hxs
  exact hnone ⟨⟨.absolute ["r", "c.py"], .python, []⟩, .failed, none⟩ (by simp) rfl

/-- The report of a file that is reached through a link to itself cannot be written, nor can its
lines be had. -/
theorem report_linkLoop :
    let h := Host.holding [["r"]] []
    let w : World := ⟨{ h with disk := ⟨(["r", "loop"], .link "loop") :: h.disk.entries⟩ }, []⟩
    let s := add {} ⟨⟨.absolute ["r", "loop"], .python, []⟩, .passed, some 0⟩
    let settings : Settings := { root := .absolute ["r"], cacheRoot := .absolute ["c"] }
    s.lines w.host settings.root = .error (.linkLoop "/r/loop") ∧
      ((s.finish settings).run w).1 = .error (.linkLoop "/r/loop") := by
  intro h w s settings
  have hlines : s.lines w.host settings.root = .error (.linkLoop "/r/loop") := by decide +kernel
  exact ⟨hlines, by decide +kernel⟩

end Summary

end OptIn
