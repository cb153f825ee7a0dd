import OptIn.Proofs.Host.Checked
import OptIn.Proofs.Run.Progress

/-!
# Runs that come to their end

A run on regular files, with a usable cache and a runner that answers each command or says that
there is no such tool, can be ended by one thing only: a marker whose name is too long. So all such
runs come to their end, with one result for each candidate, exactly if the marker of each candidate
that asks for linting fits (`returns_iff_fits`).
-/

namespace OptIn

open ToolRunner (benign success)

namespace DriverRun

/-- **Runs that come to their end.** On regular files, and with a cache that can be used, every run
whose tool answers each command or does not exist returns one result for each candidate in order,
exactly if the markers of all candidates that ask for linting have short enough names. Looking a
file up in the cache and recording it go through for exactly those files. -/
theorem returns_iff_fits (r : DriverRun) (w : World) (ps : List Path) (ho : w.host.Orderly)
    (hdetect : r.detect = shebangDetector)
    (hfiles : ∀ p ∈ ps, p.Proper ∧ w.host.isFile p = .ok true ∧ w.host.Reachable p)
    (hroot : w.host.Reachable r.settings.root) (hproper : r.settings.cacheRoot.Proper)
    (hcache : r.driver.useCache = true → ∃ a, w.host.Offers r.store.directory a) :
    ∃ cs w₁, (r.driver.classify r.detect ps).run w = (.ok cs, w₁) ∧
      ((∀ runner : ToolRunner, runner.Quiet benign →
          ∃ o w₂,
            (({ r with runner := runner } : DriverRun).run (.ofPaths ps)).run w = (.ok o, w₂) ∧
            o.summary.results.map (·.candidate.path) = cs.map (·.path)) ↔
        (r.driver.useCache = true →
          ∀ c ∈ cs, r.invoker.AsksFor w.host c.path → r.store.Fits c.path)) ∧
      (r.driver.useCache = true → ∀ p ∈ ps,
        ((∃ b w₂, (r.store.isValid p).run w = (.ok b, w₂)) ∧
          (∃ w₂, (r.store.record p).run w = (.ok (), w₂)) ↔ r.store.Fits p)) := by
  obtain ⟨a, hoffers⟩ : ∃ a, r.driver.useCache = true → w.host.Offers r.store.directory a := by
    rcases huse : r.driver.useCache with _ | _
    · exact ⟨[], fun h => nomatch h⟩
    · obtain ⟨a, ha⟩ := hcache huse
      exact ⟨a, fun _ => ha⟩
  have hu := cacheUsable_of_offers hproper hoffers
  obtain ⟨cs, hcs⟩ := Driver.exists_classifiedAfter r.driver []
    fun p hp => ⟨true, (hfiles p hp).2.1⟩
  rw [← hdetect] at hcs
  obtain ⟨w₁, hclassify, -⟩ := Driver.run_classifyAfter r.driver r.detect [] ps w
  rw [hcs] at hclassify
  have ha : r.Ahead a [] ps cs w.host :=
    ⟨ho, hu, fun p hp => ⟨(hfiles p hp).1, .inl (hfiles p hp).2.1⟩, hcs⟩
  refine ⟨cs, w₁, hclassify, ⟨fun hruns => ?_, fun hfits runner hq => ?_⟩, fun huse p hp => ?_⟩
  · -- a tool that finds no fault has every success recorded
    have hq : (ToolRunner.answering fun _ => 0).Quiet success :=
      ToolRunner.quiet_answering fun _ => rfl
    obtain ⟨o, w₂, hrun, -⟩ := hruns _ (hq.mono fun _ _ => benign_of_success)
    have hfault := (trace_of_run hrun).1
    have ha' : ({ r with runner := .answering fun _ => 0 } : DriverRun).Ahead a [] ps cs w.host :=
      ⟨ha.orderly, ha.usable, ha.listed, ha.candidates⟩
    have hfits : ({ r with runner := .answering fun _ => 0 } : DriverRun).AllFit w.host cs :=
      (treated_trace hq [] ps ⟨w, none⟩).allFit_of_success hfault hdetect ha' fun _ hk => nomatch hk
    exact allFit_iff.mp hfits
  · have ha' : ({ r with runner := runner } : DriverRun).Ahead a [] ps cs w.host :=
      ⟨ha.orderly, ha.usable, ha.listed, ha.candidates⟩
    exact exists_run_of_allFit hq hdetect hroot
      (fun c hc => (hfiles _ (Driver.mem_of_mem_classifiedAfter hcs hc).1).2.2) ha'
      (allFit_iff.mpr hfits)
  · obtain ⟨hp', hfile, -⟩ := hfiles p hp
    obtain ⟨b, bytes, x, t, hs⟩ := Host.isFile_eq_true_iff.mp hfile
    exact r.store.runs_iff_fits ho (hproper.child _) (hoffers huse) hp' hs

/-- A file that asks for linting and whose marker fits: with a tool that finds fault, the run comes
to its end with one result. -/
theorem exists_run_sample : ∃ o w,
    ((sample 1).run (.ofPaths [.absolute ["r", "a.py"]])).run
        ⟨.holding [["r"], ["r", "cache"], ["r", "cache", "python"]]
          [(["r", "a.py"], sampleBytes)], []⟩ = (.ok o, w) ∧
      o.summary.results.map (·.candidate.path) = [.absolute ["r", "a.py"]] := by
  generalize hw : World.mk _ [] = w
  have ho : w.host.Orderly := hw ▸ by decide +kernel
  have hfile : w.host.stat (.absolute ["r", "a.py"]) =
      .ok (["r", "a.py"], .file sampleBytes false 0) := hw ▸ by decide +kernel
  have hroot : w.host.stat (.absolute ["r"]) = .ok (["r"], .directory 0) := hw ▸ by decide +kernel
  have hshelf : w.host.Shelf (sample 1).store.directory ["r", "cache", "python"] :=
    hw ▸ by decide +kernel
  have hcs : (((sample 1).driver.classify (sample 1).detect [.absolute ["r", "a.py"]]).run w).1 =
      .ok [⟨.absolute ["r", "a.py"], .python, []⟩] := hw ▸ by decide +kernel
  have hfiles : ∀ p ∈ [Path.absolute ["r", "a.py"]],
      p.Proper ∧ w.host.isFile p = .ok true ∧ w.host.Reachable p := by
    intro p hp
    obtain rfl := List.mem_singleton.mp hp
    exact ⟨by decide, Host.isFile_eq_true_iff.mpr ⟨_, _, _, _, hfile⟩,
      Host.Resolved.reachable (hw ▸ by decide +kernel) hfile⟩
  obtain ⟨cs, w₁, hclassify, ⟨-, hruns⟩, -⟩ := returns_iff_fits (sample 1) w _ ho rfl hfiles
    (Host.Resolved.reachable (hw ▸ by decide +kernel) hroot) (by decide)
    fun _ => ⟨_, .inl hshelf⟩
  rw [hclassify] at hcs
  cases hcs
  refine hruns (fun _ c hc _ => ?_) _ (ToolRunner.quiet_answering fun _ => trivial)
  obtain rfl := List.mem_singleton.mp hc
  decide +kernel

/-! ### A file too deep for its marker -/

/-- A file with so many letters in its own name and in that of its directory. -/
def deepFile (n : Nat) : Address :=
  ["r", String.ofList (List.replicate n 'd'), String.ofList (List.replicate n 'f') ++ ".py"]

/-- A host with that file, which asks for linting, and with an empty cache. -/
def deepHost (n : Nat) : Host :=
  .holding [["r"], ["r", "cache"], ["r", "cache", "python"], (deepFile n).dropLast]
    [(deepFile n, sampleBytes)]

theorem deepFile_names {n : Nat} (hn : 2 < n) :
    ∀ s ∈ deepFile n, Path.ProperName s ∧ s ≠ ".." ∧ holdsNull s = false := by
  have hlong : ∀ {s t : String}, t.length ≤ 2 → 2 < s.length → s ≠ t := by
    rintro s t ht hs rfl
    omega
  intro s hs
  simp only [deepFile, List.mem_cons, List.not_mem_nil, or_false] at hs
  rcases hs with rfl | rfl | rfl
  · decide
  · exact Path.named_replicate (by decide) (by decide) hn
  · rw [Path.properName_iff]
    refine ⟨⟨hlong (by decide) ?_, hlong (by decide) ?_, ?_⟩, hlong (by decide) ?_, ?_⟩ <;>
      simp [holdsNull] <;> omega

theorem resolved_deepFile {h : Host}
    (hplain : ∀ b ∈ (deepFile 130).inits, (h.disk.node? b).all (fun n => !n.isLink) = true) :
    h.Resolved (.absolute (deepFile 130)) := by
  have hnames := deepFile_names (n := 130) (by decide)
  exact Host.resolved_iff.mpr ⟨rfl, fun s hs => (hnames s hs).1, fun hup => (hnames _ hup).2.1 rfl,
    Path.holdsNull_text_absolute fun s hs => (hnames s hs).2.2, hplain⟩

theorem deepFile_short : ∀ s ∈ deepFile 130, s.utf8ByteSize ≤ Disk.nameLimit := by
  have hletters : ∀ c : Char, c.utf8Size = 1 →
      (String.ofList (List.replicate 130 c)).utf8ByteSize = 130 := fun c hc => by
    rw [Path.utf8ByteSize_replicate, hc]
  intro s hs
  simp only [deepFile, List.mem_cons, List.not_mem_nil, or_false] at hs
  rcases hs with rfl | rfl | rfl
  · decide
  · rw [hletters 'd' (by decide)]
    decide
  · rw [String.utf8ByteSize_append, hletters 'f' (by decide)]
    decide

/-- Where that file stands, it is found by its path. -/
theorem stat_deepFile {h : Host} (ho : h.Orderly) (hr : h.Resolved (.absolute (deepFile 130)))
    {n : Node} (hn : h.disk.node? (deepFile 130) = some n) :
    h.stat (.absolute (deepFile 130)) = .ok (deepFile 130, n) :=
  hr.stat_eq ho ⟨by decide +kernel, hr.noNull⟩ deepFile_short hn

/-- A file with the sample's bytes asks for linting. -/
theorem asksFor_of_read {h : Host} {p : Path} (hread : h.read p = .ok sampleBytes) :
    (sample 0).invoker.AsksFor h p :=
  ⟨sampleBytes, hread, by decide +kernel⟩

/-- No cache has a name for the marker of that file that is short enough. -/
theorem not_fits_deepFile (c : ResultCache) : ¬c.Fits (.absolute (deepFile 130)) := by
  have hlong : Disk.nameLimit < (cacheKey (.absolute (deepFile 130))).utf8ByteSize := by
    have hkey : cacheKey (.absolute (deepFile 130)) = "%".intercalate (deepFile 130) :=
      cacheKey_eq (fun s hs => (deepFile_names (by decide) s hs).1) (List.cons_ne_nil _ _)
    rw [hkey]
    decide +kernel
  rintro ⟨hshort, -⟩
  exact Nat.not_lt.mpr hshort hlong

/-- A regular file whose names all are short enough, a cache that can be used, and a tool that finds
no fault: still no run on the file comes to its end, as the name of the marker is too long. -/
theorem run_deepFile_ne_ok : (deepHost 130).Orderly ∧
    (deepHost 130).Resolved (.absolute (deepFile 130)) ∧
    (∀ s ∈ deepFile 130, s.utf8ByteSize ≤ Disk.nameLimit) ∧
    (deepHost 130).isFile (.absolute (deepFile 130)) = .ok true ∧
    (deepHost 130).Shelf (sample 0).store.directory ["r", "cache", "python"] ∧
    (sample 0).runner.Quiet success ∧
    ∀ o w, ((sample 0).run (.ofPaths [.absolute (deepFile 130)])).run ⟨deepHost 130, []⟩ ≠
      (.ok o, w) := by
  have ho : (deepHost 130).Orderly := by decide +kernel
  have hr : (deepHost 130).Resolved (.absolute (deepFile 130)) :=
    resolved_deepFile (by decide +kernel)
  have hstat : (deepHost 130).stat (.absolute (deepFile 130)) =
      .ok (deepFile 130, .file sampleBytes false 0) := stat_deepFile ho hr (by decide +kernel)
  have hfile := Host.isFile_eq_true_iff.mpr ⟨_, _, _, _, hstat⟩
  have hshelf : (deepHost 130).Shelf (sample 0).store.directory ["r", "cache", "python"] := by
    decide +kernel
  have hq : (sample 0).runner.Quiet success := ToolRunner.quiet_answering fun _ => rfl
  refine ⟨ho, hr, deepFile_short, hfile, hshelf, hq, fun o w hrun => ?_⟩
  have hcs : (sample 0).driver.classifiedAfter (sample 0).detect (deepHost 130) []
      [.absolute (deepFile 130)] = .ok [⟨.absolute (deepFile 130), .python, []⟩] := by
    have haccepts : (sample 0).driver.accepts (.absolute (deepFile 130)) = true := by
      decide +kernel
    rw [Driver.classifiedAfter, Driver.considered, hfile, Driver.owns, if_pos haccepts]
    rfl
  have ha : (sample 0).Ahead ["r", "cache", "python"] [] [.absolute (deepFile 130)]
      [⟨.absolute (deepFile 130), .python, []⟩] (deepHost 130) :=
    ⟨ho, cacheUsable_of_offers (by decide) fun _ => .inl hshelf,
      fun p hp => List.mem_singleton.mp hp ▸ ⟨hr.proper, .inl hfile⟩, hcs⟩
  have hfits := (treated_trace hq [] [.absolute (deepFile 130)] ⟨⟨deepHost 130, []⟩, none⟩)
    |>.allFit_of_success (trace_of_run hrun).1 rfl ha fun _ hk => by cases hk
  have hfit := allFit_iff.mp hfits rfl _ List.mem_cons_self
    (asksFor_of_read (Host.read_of_stat hstat))
  exact not_fits_deepFile _ hfit

end DriverRun

end OptIn
