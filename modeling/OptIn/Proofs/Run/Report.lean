import OptIn.Proofs.Host.Physical
import OptIn.Proofs.Run.Totals

/-!
# Reports that can be written

A report shows each path as it is seen from the root, for which both are resolved; only a path that
runs in a circle cannot be shown. A summary is **shown** on a host when no path of its results does
that, and its report is written just then (`Summary.exists_finish_iff`). It is shown where the root
and the paths of all results are reachable (`Summary.shown_of_reachable`), and where links are
shallow and these paths are absolute (`Summary.shown_of_absolute`).
-/

namespace OptIn

variable {h : Host} {p root : Path}

theorem exists_mapM_eq_ok_iff {α β : Type} {f : α → Except Fault β} {l : List α} :
    (∃ ys, l.mapM f = .ok ys) ↔ ∀ x ∈ l, ∃ y, f x = .ok y := by
  induction l with
  | nil => simp [pure, Except.pure]
  | cons x l ih =>
    rw [List.forall_mem_cons, ← ih, List.mapM_cons]
    rcases f x with e | y
    · simp [bind, Except.bind]
    · rcases l.mapM f with e | ys <;> simp [bind, Except.bind, pure, Except.pure]

theorem exists_append_eq_ok_iff {α : Type} {x y : Except Fault (List α)} :
    (∃ l, (do let a ← x; let b ← y; return a ++ b) = Except.ok l) ↔
      (∃ a, x = .ok a) ∧ ∃ b, y = .ok b := by
  rcases x with e | a <;> rcases y with f | b <;> simp [bind, Except.bind, pure, Except.pure]

/-- Resolving a path **ends** unless it runs in a circle. -/
def Host.Ends (h : Host) (p : Path) : Prop :=
  h.resolve p = .error .embeddedNull ∨ ∃ q, h.resolve p = .ok q

theorem Host.Reachable.ends (hp : h.Reachable p) : h.Ends p := by
  obtain ⟨q, -, -, hq, -⟩ := hp
  exact .inr ⟨q, hq⟩

theorem exists_displayPath (hp : h.Ends p) (hroot : h.Ends root) :
    ∃ s, displayPath h p root = .ok s := by
  rw [displayPath]
  rcases hp with hp | ⟨q, hq⟩
  · exact ⟨p.text, by rw [hp]; rfl⟩
  rcases hroot with hr | ⟨r, hr⟩
  · exact ⟨p.text, by rw [hq, hr]; rfl⟩
  rw [hq, hr]
  rcases hrel : q.relativeTo? r with _ | seen
  · refine ⟨p.text, ?_⟩
    simp only [bind, Except.bind, pure, Except.pure, hrel]
  · refine ⟨seen.text, ?_⟩
    simp only [bind, Except.bind, pure, Except.pure, hrel]

namespace Summary

variable {s : Summary} {w w' : World} {settings : Settings} {status : ExitStatus}

/-- A summary is **shown** on a host when the paths of all its results can be, as seen from the
root. -/
def Shown (s : Summary) (h : Host) (root : Path) : Prop :=
  ∀ x ∈ s.results, ∃ shown, displayPath h x.candidate.path root = .ok shown

theorem shown_of_reachable (hroot : h.Reachable root)
    (hpaths : ∀ x ∈ s.results, h.Reachable x.candidate.path) : s.Shown h root :=
  fun x hx => exists_displayPath (hpaths x hx).ends hroot.ends

/-- Where links are shallow, absolute paths that lead to something can be shown. -/
theorem shown_of_absolute (ho : h.Orderly) (hshallow : h.Shallow)
    (hroot : root.Proper ∧ root.isAbsolute = true ∧ ∃ y, h.stat root = .ok y)
    (hpaths : ∀ x ∈ s.results, x.candidate.path.Proper ∧ x.candidate.path.isAbsolute = true ∧
      ∃ y, h.stat x.candidate.path = .ok y) : s.Shown h root := by
  have hends : ∀ {q : Path}, q.Proper ∧ q.isAbsolute = true ∧ (∃ y, h.stat q = .ok y) →
      h.Ends q := fun ⟨hproper, habs, _, hs⟩ =>
    (Host.resolve_of_stat_absolute ho hshallow hproper habs hs).imp_right fun hq => ⟨_, hq⟩
  exact fun x hx => exists_displayPath (hends (hpaths x hx)) (hends hroot)

theorem exists_lines_iff (hs : s.Tallied) : (∃ ls, s.lines h root = .ok ls) ↔ s.Shown h root := by
  -- the paths of cached results stand on the shared line, all others on lines of their own
  have hown : (∃ own, (s.results.filter (·.classification ≠ .cached)).mapM (resultLine h root) =
      .ok own) ↔ ∀ x ∈ s.results, x.classification ≠ .cached →
        ∃ shown, displayPath h x.candidate.path root = .ok shown := by
    have hline : ∀ x, (∃ line, resultLine h root x = .ok line) ↔
        ∃ shown, displayPath h x.candidate.path root = .ok shown := by
      intro x
      rw [resultLine]
      rcases displayPath h x.candidate.path root with e | shown <;> simp [Except.map]
    rw [exists_mapM_eq_ok_iff]
    simp only [hline, List.mem_filter, decide_eq_true_eq, and_imp]
  have hshared : (∃ shared, cachedLine h root s.cachedPaths = .ok shared) ↔
      ∀ x ∈ s.results, x.classification = .cached →
        ∃ shown, displayPath h x.candidate.path root = .ok shown := by
    have hmap : (∃ shared, cachedLine h root s.cachedPaths = .ok shared) ↔
        ∃ shown, s.cachedPaths.mapM (displayPath h · root) = .ok shown := by
      rw [cachedLine]
      rcases s.cachedPaths with _ | ⟨q, qs⟩
      · simp [pure, Except.pure]
      · rw [List.isEmpty_cons, if_neg (by simp)]
        rcases (q :: qs).mapM (displayPath h · root) with e | shown <;>
          simp [bind, Except.bind, pure, Except.pure]
    rw [hmap, exists_mapM_eq_ok_iff, hs.cachedPaths]
    simp only [List.forall_mem_map, List.mem_filter, decide_eq_true_eq, and_imp]
  rw [lines, exists_append_eq_ok_iff, hown, hshared]
  constructor
  · rintro ⟨hothers, hcached⟩ x hx
    by_cases hc : x.classification = .cached
    · exact hcached x hx hc
    · exact hothers x hx hc
  · exact fun hshown => ⟨fun x hx _ => hshown x hx, fun x hx _ => hshown x hx⟩

/-- Finishing a run prints one text, or nothing if some path cannot be shown. -/
theorem run_finish (s : Summary) (settings : Settings) (w : World) :
    (s.finish settings).run w =
      if settings.requireCandidates && s.results.isEmpty then
        (.ok (s.exitStatus settings.requireCandidates), w.log (.printed .err
          (Console.spoken .failure settings.emoji settings.color nothingFound)))
      else
        match s.lines w.host settings.root with
        | .ok ls => (.ok (s.exitStatus settings.requireCandidates),
            w.log (.printed .out (s.printed settings.color ls)))
        | .error e => (.error e, w) := by
  rw [finish]
  split
  · exact Action.run_bind_ok (World.run_record _ w)
  · have hask : (World.ask fun h => s.lines h settings.root).run w =
      (s.lines w.host settings.root, w) := rfl
    rcases hls : s.lines w.host settings.root with e | ls
    · rw [hls] at hask
      exact Action.run_bind_error (by rw [report, Action.run_bind_error hask])
    · rw [hls] at hask
      have hreport : (s.report settings).run w =
          (.ok (), w.log (.printed .out (s.printed settings.color ls))) := by
        rw [report, Action.run_bind_ok hask]
        rfl
      exact Action.run_bind_ok hreport

/-- What is printed when a run is finished: that there was nothing to do, or the report. The status
is that of the summary. -/
theorem cases_of_finish (h : (s.finish settings).run w = (.ok status, w')) :
    status = s.exitStatus settings.requireCandidates ∧
      ((settings.requireCandidates = true ∧ s.results = [] ∧
          ∃ text, w' = w.log (.printed .err text)) ∨
        ∃ ls, s.lines w.host settings.root = .ok ls ∧
          w' = w.log (.printed .out (s.printed settings.color ls))) := by
  rw [run_finish] at h
  split at h
  · rename_i hempty
    obtain ⟨hrequire, hnone⟩ := Bool.and_eq_true_iff.mp hempty
    cases h
    exact ⟨rfl, .inl ⟨hrequire, List.isEmpty_iff.mp hnone, _, rfl⟩⟩
  · split at h
    · rename_i ls hlines
      cases h
      exact ⟨rfl, .inr ⟨ls, hlines, rfl⟩⟩
    · cases h

/-- A report that is written is printed at once, and tells the status of the summary. -/
theorem printed_of_finish (h : (s.finish settings).run w = (.ok status, w')) :
    status = s.exitStatus settings.requireCandidates ∧
      ∃ stream text, w' = w.log (.printed stream text) := by
  obtain ⟨hstatus, ⟨-, -, text, hprinted⟩ | ⟨ls, -, hprinted⟩⟩ := cases_of_finish h
  · exact ⟨hstatus, _, _, hprinted⟩
  · exact ⟨hstatus, _, _, hprinted⟩

/-- The report of a summary is written if and only if the summary is shown. -/
theorem exists_finish_iff (settings : Settings) (hs : s.Tallied) :
    (∃ status w', (s.finish settings).run w = (.ok status, w')) ↔
      s.Shown w.host settings.root := by
  rw [run_finish]
  split
  · rename_i hempty
    have hnone : s.results = [] := List.isEmpty_iff.mp (Bool.and_eq_true_iff.mp hempty).2
    refine ⟨fun _ x hx => ?_, fun _ => ⟨_, _, rfl⟩⟩
    rw [hnone] at hx
    cases hx
  · rw [← exists_lines_iff hs]
    rcases s.lines w.host settings.root with e | ls
    · simp
    · exact ⟨fun _ => ⟨ls, rfl⟩, fun _ => ⟨_, _, rfl⟩⟩

theorem exists_finish (settings : Settings) (hs : s.Tallied)
    (hshown : s.Shown w.host settings.root) :
    ∃ w', (s.finish settings).run w = (.ok (s.exitStatus settings.requireCandidates), w') := by
  obtain ⟨status, w', hfinish⟩ := (exists_finish_iff settings hs).mpr hshown
  obtain ⟨rfl, -⟩ := printed_of_finish hfinish
  exact ⟨w', hfinish⟩

end Summary

end OptIn
