import Mathlib.Data.List.Pairwise
import OptIn.Proofs.Cache.Cabinet
import OptIn.Proofs.Run.Abreast
import OptIn.Proofs.Run.Commands
import OptIn.Proofs.Run.History
import OptIn.Proofs.Run.MissingTool
import OptIn.Proofs.Run.Verdict

/-!
# Running again

A run with a steady tool can be made again, and then comes to the same, except that the cache
vouches for what has passed (`DriverRun.run_again`). For this the markers of the candidates must
have names of their own, the files must be older than the run, and none of the paths may be that of
a marker: `DriverRun.Repeatable` collects what a run needs, a run tells the cache about its
successes (`Repeatable.exists_run`), and the need is met behind it as before (`Repeatable.grows`).
Where a marker is among the paths, a path is too long as a whole, or the version query is at fault,
a run need not repeat itself (`not_repeats_situations`).
-/

namespace OptIn

open ToolRunner (Steady Exactly success)
open Host (InStore)

/-! ### The commands of a usable tool -/

namespace Invoker

variable {i : Invoker} {cs : List Candidate} {xs : List Exchange} {k : Option ToolProbe}

/-- A **round** of linting: the version query, and a command for each candidate; nothing if there
are none. -/
def round (i : Invoker) (cs : List Candidate) : List Call :=
  if cs = [] then [] else ToolProbe.query i.driver.tool :: cs.map i.lintCall

theorem Obeys.map_call_eq_round (ho : i.Obeys cs xs k)
    (hquery : ∀ e ∈ xs, e.call = ToolProbe.query i.driver.tool → e.succeeded = true) :
    xs.map Exchange.call = i.round cs := by
  cases ho with
  | idle => rfl
  | asked hne hcall _ hxs =>
    rw [hquery _ List.mem_cons_self hcall, if_pos rfl] at hxs
    rw [round, if_neg hne, List.map_cons, hcall, hxs]

end Invoker

namespace DriverRun

variable {r : DriverRun} {version : Option Int} {code : List String → Int} {h h' : Host}
  {a : Address} {p : Path} {ps : List Path} {cs : List Candidate} {c : Candidate}
  {k : Option ToolProbe} {source : Source} {w w' : World} {o : DriverOutcome}

/-- With a steady tool that can be used, the commands of a run are a round on what was up for
linting. -/
theorem commands_eq_round (hq : r.runner.Quiet (Steady r.driver.tool (some 0) code))
    (h : (r.run source).run w = (.ok o, w')) :
    r.commands (r.course source w) = r.invoker.round (attempted o.summary.results) := by
  obtain ⟨k, hh⟩ := r.exists_history_course source w
  have hanswers : ∀ v ∈ (r.course source w).invocations,
      ∀ e ∈ (r.invoker.transcript v).exchanges,
        Steady r.driver.tool (some 0) code e.call e.answer := fun v hv =>
    (Invoker.dealt_transcript (hh.run_of_mem hv)).2.2.1.answers fun w c => (hq w c).1
  -- no command fails with a fault, for a tool with a version is there
  have hobeys := hh.obeys
    (fun v hv => let ⟨z, _, hz⟩ := exists_result_of_run h hv; ⟨z, hz⟩)
    fun v hv e he f hf => by
      have hsteady := hanswers v hv e he
      rw [hf] at hsteady
      cases hsteady with
      | missing _ hversion => cases hversion
  rw [← orders_eq_of_run h, commands, exchanges, orders]
  refine hobeys.map_call_eq_round fun e he hcall => ?_
  obtain ⟨v, hv, he⟩ := List.mem_flatMap.mp he
  have hsteady := hanswers v hv e he
  rw [Exchange.succeeded]
  generalize e.answer = x at hsteady
  cases hsteady with
  | version _ hversion hstatus =>
    cases hversion
    simpa using hstatus
  | missing _ hversion => cases hversion
  | answer hother => exact absurd hcall hother

/-! ### What passed is vouched for -/

/-- What becomes of a result when its run is made again: the cache, if the driver uses it, vouches
for what has passed. -/
def again (r : DriverRun) (x : LintResult) : LintResult :=
  if r.driver.useCache && x.classification = .passed then ⟨x.candidate, .cached, none⟩ else x

theorem again_of_passed {x : LintResult} (huse : r.driver.useCache = true)
    (hpassed : x.classification = .passed) : r.again x = ⟨x.candidate, .cached, none⟩ := by
  rw [again, huse, hpassed]
  rfl

theorem again_of_not {x : LintResult}
    (hnot : r.driver.useCache = true → x.classification ≠ .passed) : r.again x = x := by
  rw [again, if_neg]
  simpa using hnot

/-- No failure comes or goes. -/
theorem classification_again_eq_failed_iff (r : DriverRun) (x : LintResult) :
    (r.again x).classification = .failed ↔ x.classification = .failed := by
  rw [again]
  split <;> simp_all

theorem toolMissing_again (r : DriverRun) (x : LintResult) :
    (r.again x).toolMissing = x.toolMissing := by
  rw [again]
  split <;> simp_all [LintResult.toolMissing]

/-- Up for linting again is what has failed. -/
theorem attempted_map_again (huse : r.driver.useCache = true) (xs : List LintResult) :
    attempted (xs.map r.again) =
      (xs.filter fun x => x.classification = .failed).map (·.candidate) := by
  have hattempted : ∀ x : LintResult,
      (!(r.again x).classification.countsAsSkipped) = decide (x.classification = .failed) := by
    rintro ⟨c, _ | _ | _ | _, status⟩ <;> simp [again, huse, Classification.countsAsSkipped]
  have hcandidate : ∀ x : LintResult, (r.again x).candidate = x.candidate := by
    intro x
    rw [again]
    split <;> rfl
  rw [attempted, List.filter_map, List.map_map]
  simp only [Function.comp_def, hattempted, hcandidate]

/-! ### Runs that can be made again -/

/-- What a run needs in order to be **repeatable**: besides what is ahead of every run, a root that
is there, delivered paths outside the store, markers that fit and have names of their own, and files
that are not from the future. -/
structure Repeatable (r : DriverRun) (a : Address) (ps : List Path) (cs : List Candidate)
    (h : Host) : Prop extends Ahead r a [] ps cs h where
  root : h.Reachable r.settings.root
  delivered : ∀ p ∈ ps, h.Delivered p ∧ ¬InStore a p.parts
  fits : r.AllFit h cs
  distinct : r.driver.useCache = true →
    cs.Pairwise fun c d => cacheKey c.path ≠ cacheKey d.path
  past : ∀ c ∈ cs, h.Past c.path

namespace Repeatable

/-- The file of a candidate is older than the run, and is left alone. -/
theorem exists_stat (hr : r.Repeatable a ps cs h) (hc : c ∈ cs) :
    (h.Delivered c.path ∧ ¬InStore a c.path.parts) ∧ ∃ bytes y t,
      h.stat c.path = .ok (c.path.parts, .file bytes y t) ∧ t < h.clock := by
  obtain ⟨hmem, hfile⟩ := Driver.mem_of_mem_classifiedAfter hr.candidates hc
  obtain ⟨b, bytes, y, t, hs⟩ := Host.isFile_eq_true_iff.mp hfile
  obtain ⟨hd, hout⟩ := hr.delivered _ hmem
  obtain rfl := hd.toResolved.address_eq hr.orderly hs
  exact ⟨⟨hd, hout⟩, bytes, y, t, hs, (Host.past_iff hs).mp (hr.past c hc)⟩

/-- The candidates are apart from each other. -/
theorem allApart (hr : r.Repeatable a ps cs h) : r.AllApart version code h [] cs := by
  refine ⟨fun _ hc => (nomatch hc), ?_⟩
  rcases huse : r.driver.useCache with _ | _
  · exact List.pairwise_of_forall fun _ _ huse' => nomatch huse.symm.trans huse'
  · exact (hr.distinct huse).imp fun hne _ _ hkey => absurd hkey hne

/-- A run can be made again when only the store has grown. -/
theorem grows (hr : r.Repeatable a ps cs h) (hdetect : r.detect = shebangDetector)
    (hg : h.Grows (InStore a) h') (hu : r.invoker.CacheUsable h' a) :
    r.Repeatable a ps cs h' := by
  obtain ⟨ha, hfits⟩ := hr.toAhead.grows hdetect hg hu
  refine { ha with
    root := (hr.root.grows hg hr.orderly).2
    delivered := fun p hp => ⟨(hr.delivered p hp).1.grows hg, (hr.delivered p hp).2⟩
    fits := hfits.mpr hr.fits
    distinct := hr.distinct
    past := fun c hc => ?_ }
  obtain ⟨⟨hd, hout⟩, bytes, y, t, hs, htime⟩ := hr.exists_stat hc
  obtain ⟨t', hs', hsame⟩ := hg.stat_file hr.orderly hd.proper hs
  rw [Host.past_iff hs', hsame hout]
  exact Int.lt_of_lt_of_le htime hg.clock

/-- A repeatable run comes to its end, has the results of the table, and is told to the cache. -/
theorem exists_run (hr : r.Repeatable a ps cs w.host)
    (hq : r.runner.Quiet (Steady r.driver.tool version code))
    (hdetect : r.detect = shebangDetector) :
    ∃ o w' k, (r.run (.ofPaths ps)).run w = (.ok o, w') ∧
      o.summary.results = cs.map (r.verdictOn version code w.host) ∧
      r.Told version code a w.host cs.reverse k w'.host := by
  have hreach : ∀ c ∈ cs, w.host.Reachable c.path := fun c hc => by
    obtain ⟨⟨hd, -⟩, bytes, y, t, hs, -⟩ := hr.exists_stat hc
    exact hd.toResolved.reachable hs
  obtain ⟨o, w', hrun, -⟩ := exists_run_of_allFit
    (hq.mono fun _ _ => ToolRunner.benign_of_steady) hdetect hr.root hreach hr.toAhead hr.fits
  obtain ⟨hfault, hresults⟩ := trace_of_run hrun
  obtain ⟨heq, htold⟩ := (treated_trace hq [] ps ⟨w, none⟩).told hfault hr.orderly hdetect hr.usable
    hr.delivered hr.candidates hr.fits (.refl hr.usable) hr.allApart
  have hhost := r.host_run ps w
  rw [hrun] at hhost
  rw [List.append_nil, ← hhost] at htold
  exact ⟨o, w', _, hrun, hresults.trans heq, htold⟩

end Repeatable

/-- Behind a repeatable run, the verdict on a candidate is the one before, except that the cache
vouches for a success. -/
theorem Told.verdictOn_eq (ht : r.Told version code a h cs.reverse k h')
    (hr : r.Repeatable a ps cs h) (hc : c ∈ cs) :
    r.verdictOn version code h' c = r.again (r.verdictOn version code h c) := by
  obtain ⟨⟨hd, hout⟩, bytes, y, t, hs, htime⟩ := hr.exists_stat hc
  obtain ⟨t', hs', hsame⟩ := ht.grows.stat_file hr.orderly hd.proper hs
  obtain rfl := hsame hout
  have hdirective : r.directiveAt h' c.path = r.directiveAt h c.path := by
    rw [directiveAt, directiveAt, Host.read_of_stat hs', Host.read_of_stat hs]
  rcases hasks : r.invoker.asks (r.directiveAt h c.path) with _ | _
  · -- what does not ask for linting is skipped
    have hskipped : (r.verdictOn version code h c).classification = .skipped :=
      Invoker.classification_verdict_eq_skipped_iff.mpr hasks
    rw [again_of_not fun _ => by rw [hskipped]; decide, verdictOn, verdictOn, hdirective]
    exact Invoker.verdict_eq_of_not_asks hasks
  · have hfits := hr.fits c hc ((asksFor_iff_of_stat hs).mpr hasks)
    have hvouched := vouchesAt_eq_vouchedOn hr.orderly hr.usable hd.proper hs hfits
    have hvouched' := vouchesAt_eq_vouchedOn (ht.grows.orderly hr.orderly) ht.usable hd.proper hs'
      hfits
    by_cases hpassed : r.driver.useCache = true ∧
        (r.verdictOn version code h c).classification = .passed
    · -- a success has been recorded, behind the last change of its file
      obtain ⟨huse, hpassed⟩ := hpassed
      rw [ht.vouchesAt_eq_true huse (List.mem_reverse.mpr hc) hpassed rfl htime] at hvouched'
      rw [again_of_passed huse hpassed, verdictOn, hdirective, ← hvouched', verdictOn,
        Invoker.verdict_true_of_passed hpassed]
    · -- the marker is as it was, as only that of another candidate can have been stamped
      have hother : r.driver.useCache = true → ∀ d ∈ cs.reverse,
          (r.verdictOn version code h d).classification = .passed →
            cacheKey d.path ≠ cacheKey c.path := by
        intro huse d hd' hpassed'
        have hsymm : Std.Symm fun c d : Candidate => cacheKey c.path ≠ cacheKey d.path :=
          ⟨fun _ _ hne => hne.symm⟩
        refine (hr.distinct huse).forall (List.mem_reverse.mp hd') hc ?_
        rintro rfl
        exact hpassed ⟨huse, hpassed'⟩
      rw [again_of_not fun huse hpassed' => hpassed ⟨huse, hpassed'⟩, verdictOn, verdictOn,
        hdirective, ← hvouched', ht.vouchesAt_eq hother, hvouched]

/-- **Running again.** With a steady tool and a cache that can be used, a run on delivered paths,
none of them right in the cache, can be made twice if no candidate is from the future and their
markers fit and have different names. Both runs come to their ends, with the same status and the
same results, except that the second time the cache, if the driver uses it, vouches for what has
passed. If the tool can be used, the second run has what has failed linted again; without a cache,
it has the same commands performed as the first. -/
theorem run_again (r : DriverRun) (version : Option Int) (code : List String → Int) (w : World)
    (ps : List Path) (a : Address) (hq : r.runner.Quiet (Steady r.driver.tool version code))
    (ho : w.host.Orderly) (hdetect : r.detect = shebangDetector)
    (hroot : w.host.Reachable r.settings.root) (hps : ∀ p ∈ ps, w.host.Delivered p)
    (hproper : r.settings.cacheRoot.Proper)
    (hcache : r.driver.useCache = true →
      w.host.Offers r.store.directory a ∧ ∀ p ∈ ps, ¬InStore a p.parts) :
    ∃ cs w', (r.driver.classify r.detect ps).run w = (.ok cs, w') ∧
      ((∀ c ∈ cs, w.host.Past c.path) →
        (r.driver.useCache = true →
          (∀ c ∈ cs, r.invoker.AsksFor w.host c.path → r.store.Fits c.path) ∧
            cs.Pairwise fun c d => cacheKey c.path ≠ cacheKey d.path) →
        ∃ o₁ w₁ o₂ w₂, (r.run (.ofPaths ps)).run w = (.ok o₁, w₁) ∧
          (r.run (.ofPaths ps)).run w₁ = (.ok o₂, w₂) ∧
          o₂.summary.results = o₁.summary.results.map r.again ∧ o₂.status = o₁.status ∧
          (version = some 0 →
            (r.driver.useCache = true → r.commands (r.course (.ofPaths ps) w₁) =
              r.invoker.round ((o₁.summary.results.filter fun x =>
                x.classification = .failed).map (·.candidate))) ∧
            (r.driver.useCache = false → r.commands (r.course (.ofPaths ps) w₁) =
              r.commands (r.course (.ofPaths ps) w))) ∧
          (r.runner.Discreet → w₂.journal.filterMap Event.called? =
            w₁.journal.filterMap Event.called? ++ r.commands (r.course (.ofPaths ps) w₁))) := by
  obtain ⟨b, hoffers, hout⟩ := exists_store hps hcache
  have hu := cacheUsable_of_offers hproper hoffers
  have hlisted : ∀ p ∈ ps, Host.Listed w.host b p := fun p hp => (hps p hp).listed (hout p hp)
  obtain ⟨cs, hcs⟩ := Driver.exists_classifiedAfter r.driver [] fun p hp =>
    (hlisted p hp).exists_isFile ho
  rw [← hdetect] at hcs
  obtain ⟨w', hclassify, -⟩ := Driver.run_classifyAfter r.driver r.detect [] ps w
  rw [hcs] at hclassify
  refine ⟨cs, w', hclassify, fun hpast hmarkers => ?_⟩
  have hr : r.Repeatable b ps cs w.host := {
    orderly := ho
    usable := hu
    listed := hlisted
    candidates := hcs
    root := hroot
    delivered := fun p hp => ⟨hps p hp, hout p hp⟩
    fits := allFit_iff.mpr fun huse => (hmarkers huse).1
    distinct := fun huse => (hmarkers huse).2
    past := hpast }
  -- the second run is the first one again, on a host where only the store has grown
  obtain ⟨o₁, w₁, k₁, hrun₁, hresults₁, htold⟩ := hr.exists_run hq hdetect
  obtain ⟨o₂, w₂, k₂, hrun₂, hresults₂, -⟩ :=
    (hr.grows hdetect htold.grows htold.usable).exists_run hq hdetect
  have hagain : o₂.summary.results = o₁.summary.results.map r.again := by
    rw [hresults₁, hresults₂, List.map_map]
    exact List.map_congr_left fun c hc => htold.verdictOn_eq hr hc
  obtain ⟨-, htallied₁, hstatus₁⟩ := tallied_of_run hrun₁
  obtain ⟨-, htallied₂, hstatus₂⟩ := tallied_of_run hrun₂
  refine ⟨o₁, w₁, o₂, w₂, hrun₁, hrun₂, hagain, ?_, ?_, fun hdiscreet =>
    filterMap_called_of_run hdiscreet (Source.silent_ofPaths ps) hrun₂⟩
  · rw [hstatus₁, hstatus₂]
    exact htallied₁.exitStatus_eq_of_map htallied₂ hagain r.classification_again_eq_failed_iff
      r.toolMissing_again _
  · rintro rfl
    refine ⟨fun huse => ?_, fun huse => ?_⟩
    · rw [commands_eq_round hq hrun₂, hagain, attempted_map_again huse]
    · have hsame : o₁.summary.results.map r.again = o₁.summary.results :=
        List.map_id'' (fun x => again_of_not fun huse' => nomatch huse.symm.trans huse') _
      rw [commands_eq_round hq hrun₂, commands_eq_round hq hrun₁, hagain, hsame]

/-- The statuses of a tool that finds fault with one file. -/
def faultIn (file : String) (words : List String) : Int :=
  if words.getLast? = some file then 1 else 0

/-- The sample run with that tool. -/
def picky (file : String) : DriverRun := { sample 0 with runner := .answering (faultIn file) }

/-- Of two files one passes and one fails; the second time the cache vouches for the first, and the
second alone is linted. -/
theorem run_again_sample : ∃ o₁ w₁ o₂ w₂,
    ((picky "/r/b.py").run (.ofPaths [.absolute ["r", "a.py"], .absolute ["r", "b.py"]])).run
      ⟨.holding [["r"], ["r", "cache"], ["r", "cache", "python"]]
        [(["r", "a.py"], sampleBytes), (["r", "b.py"], sampleBytes)], []⟩ = (.ok o₁, w₁) ∧
    ((picky "/r/b.py").run (.ofPaths [.absolute ["r", "a.py"], .absolute ["r", "b.py"]])).run w₁ =
      (.ok o₂, w₂) ∧
    o₁.summary.results.map (·.classification) = [.passed, .failed] ∧
    o₂.summary.results.map (·.classification) = [.cached, .failed] ∧
    (picky "/r/b.py").commands ((picky "/r/b.py").course
      (.ofPaths [.absolute ["r", "a.py"], .absolute ["r", "b.py"]]) w₁) =
        (picky "/r/b.py").invoker.round [⟨.absolute ["r", "b.py"], .python, []⟩] := by
  generalize hps : [Path.absolute ["r", "a.py"], .absolute ["r", "b.py"]] = ps
  generalize hw : World.mk _ [] = w
  have hroot : w.host.stat (.absolute ["r"]) = .ok (["r"], .directory 0) := hw ▸ by decide +kernel
  have hshelf : w.host.Shelf (picky "/r/b.py").store.directory ["r", "cache", "python"] :=
    hw ▸ by decide +kernel
  have hout : ∀ p ∈ ps, ¬InStore ["r", "cache", "python"] p.parts := by
    subst hps
    rintro p hp ⟨name, hname⟩
    have hlength : p.parts.length = 2 := by
      rcases List.mem_pair.mp hp with rfl | rfl <;> rfl
    rw [hname] at hlength
    simp at hlength
  have hcs : (((picky "/r/b.py").driver.classify (picky "/r/b.py").detect ps).run w).1 =
      .ok [⟨.absolute ["r", "a.py"], .python, []⟩, ⟨.absolute ["r", "b.py"], .python, []⟩] :=
    hps ▸ hw ▸ by decide +kernel
  have hresults : (((picky "/r/b.py").run (.ofPaths ps)).run w).1.toOption.map
      (·.summary.results) = some [⟨⟨.absolute ["r", "a.py"], .python, []⟩, .passed, some 0⟩,
        ⟨⟨.absolute ["r", "b.py"], .python, []⟩, .failed, some 1⟩] := hps ▸ hw ▸ by decide +kernel
  have hversion : faultIn "/r/b.py" (ToolProbe.query "pylint").command = 0 := by decide
  have hq : (picky "/r/b.py").runner.Quiet (Steady "pylint" (some 0) (faultIn "/r/b.py")) :=
    hversion ▸ ToolRunner.quiet_answering_steady "pylint" (faultIn "/r/b.py")
  obtain ⟨cs, w', hclassify, hruns⟩ := run_again (picky "/r/b.py") (some 0) (faultIn "/r/b.py") w
    ps ["r", "cache", "python"] hq (hw ▸ by decide +kernel) rfl
    (Host.Resolved.reachable (hw ▸ by decide +kernel) hroot) (hps ▸ hw ▸ by decide +kernel)
    (by decide) fun _ => ⟨.inl hshelf, hout⟩
  rw [hclassify] at hcs
  cases hcs
  have hpast : ∀ c ∈ ([⟨.absolute ["r", "a.py"], .python, []⟩,
      ⟨.absolute ["r", "b.py"], .python, []⟩] : List Candidate), w.host.Past c.path := by
    subst hw
    intro c hc
    rcases List.mem_pair.mp hc with rfl | rfl
    · exact ⟨0, by decide +kernel, by decide⟩
    · exact ⟨0, by decide +kernel, by decide⟩
  obtain ⟨o₁, w₁, o₂, w₂, hrun₁, hrun₂, hagain, -, hcommands, -⟩ := hruns hpast fun _ => by
    refine ⟨fun c hc _ => ?_, List.pairwise_pair.mpr (by decide +kernel)⟩
    rcases List.mem_pair.mp hc with rfl | rfl <;> decide +kernel
  rw [hrun₁] at hresults
  have hresults₁ : o₁.summary.results = _ := Option.some.inj hresults
  refine ⟨o₁, w₁, o₂, w₂, hrun₁, hrun₂, by rw [hresults₁]; rfl, by rw [hagain, hresults₁]; rfl, ?_⟩
  rw [(hcommands rfl).1 rfl, hresults₁]
  rfl

/-! ### Runs that do not repeat themselves -/

/-- What **promises** that a run can be made again: the host is orderly, the root is there, the tool
answers each command in its own way and is at fault for the version query at most, the paths are
resolved, their names are short enough, and what stands there is not from the future; if the driver
uses its cache, that is offered, none of the paths is written below its root, and the names of the
markers are different and short enough. -/
structure Promising (r : DriverRun) (a : Address) (ps : List Path) (h : Host) : Prop where
  orderly : h.Orderly
  root : h.Reachable r.settings.root
  tool : ∃ answer, r.runner.Quiet (Exactly answer) ∧
    ∀ c, c ≠ ToolProbe.query r.driver.tool → (answer c).isOk = true
  resolved : ∀ p ∈ ps, h.Resolved p
  short : ∀ p ∈ ps, ∀ s ∈ p.parts, s.utf8ByteSize ≤ Disk.nameLimit
  past : ∀ p ∈ ps, ∀ t ∈ (h.changed p).toOption, t < h.clock
  cache : r.driver.useCache = true → h.Offers r.store.directory a ∧
    (∀ p ∈ ps, ¬r.settings.cacheRoot.parts <+: p.parts ∧
      (cacheKey p).utf8ByteSize ≤ Disk.nameLimit) ∧ (ps.map cacheKey).Nodup

/-- A run **repeats** itself if it comes to its end twice in a row, with the same results except
that the cache vouches for what has passed. -/
def Repeats (r : DriverRun) (ps : List Path) (w : World) : Prop :=
  ∃ o₁ ∈ ((r.run (.ofPaths ps)).run w).1.toOption,
    ∃ o₂ ∈ ((r.run (.ofPaths ps)).run ((r.run (.ofPaths ps)).run w).2).1.toOption,
      o₂.summary.results = o₁.summary.results.map r.again

instance (r : DriverRun) (ps : List Path) (w : World) : Decidable (r.Repeats ps w) :=
  inferInstanceAs (Decidable (∃ o₁ ∈ ((r.run (.ofPaths ps)).run w).1.toOption, _))

/-- No run on a path that is too long for the system comes to its end. -/
theorem not_repeats_of_long (r : DriverRun) (w : World) (hp : p.Proper)
    (hnull : holdsNull p.text = false) (hlong : Disk.textLimit < p.text.utf8ByteSize) :
    ¬r.Repeats [p] w := by
  rintro ⟨o, ho, -⟩
  rcases hrun : (r.run (.ofPaths [p])).run w with ⟨e | o', w'⟩
  · rw [hrun] at ho
    cases ho
  · obtain ⟨hfault, -⟩ := trace_of_run hrun
    obtain ⟨v, hconsider, -⟩ := Driver.run_consider r.driver r.detect [] p w
    rw [Driver.considered, Host.isFile_of_not_askable w.host hp hnull
      fun ha => Nat.not_le.mpr hlong ha.short] at hconsider
    rw [trace, Invoker.run_onWorld hconsider] at hfault
    cases hfault

/-- No run comes to its end whose marker is too long for the system, if the tool finds no fault. -/
theorem not_repeats_of_not_fits (hq : r.runner.Quiet success) (hdetect : r.detect = shebangDetector)
    (ha : r.Ahead a [] ps cs w.host) (hnot : ¬r.AllFit w.host cs) : ¬r.Repeats ps w := by
  rintro ⟨o, ho, -⟩
  rcases hrun : (r.run (.ofPaths ps)).run w with ⟨e | o', w'⟩
  · rw [hrun] at ho
    cases ho
  · have ht := treated_trace hq [] ps ⟨w, none⟩
    exact hnot (ht.allFit_of_success (trace_of_run hrun).1 hdetect ha fun _ hk => nomatch hk)

/-- The sample run with a driver of another name, and with its cache elsewhere. -/
def filed (name : String) (cacheRoot : Address) : DriverRun :=
  { sample 0 with
    driver := { Driver.python with name := name }
    settings := { (sample 0).settings with cacheRoot := .absolute cacheRoot } }

/-- The answers of a tool that must not be asked for its version. -/
def reticentAnswer (c : Call) : Except Fault Completed :=
  if c = ToolProbe.query "pylint" then .error (.system .permission "pylint")
  else .ok { command := c.command, status := 0 }

/-- The sample run with that tool. -/
def reticent : DriverRun :=
  { sample 0 with runner := fun w c => { outcome := reticentAnswer c, host := w.host } }

/-- A host with an empty cache, a file in `/r` that asks for linting, and further things. -/
def shelfHost (further : List (Address × Node)) : Host where
  disk := ⟨([], .directory 0) :: (["r"], .directory 0) :: (["r", "cache"], .directory 0) ::
    (["r", "cache", "python"], .directory 0) :: (["r", "a.py"], .file sampleBytes false 0) ::
      further⟩
  cwd := []
  environ := []
  homes := []
  clock := 10

/-- The tool of the sample run promises to answer. -/
theorem exists_answer (tool : String) : ∃ answer, (sample 0).runner.Quiet (Exactly answer) ∧
    ∀ c, c ≠ ToolProbe.query tool → (answer c).isOk = true :=
  ⟨fun c => .ok { command := c.command, status := 0 }, ToolRunner.quiet_answering fun _ => rfl,
    fun _ _ => rfl⟩

theorem exists_answer_reticent : ∃ answer, reticent.runner.Quiet (Exactly answer) ∧
    ∀ c, c ≠ ToolProbe.query "pylint" → (answer c).isOk = true :=
  ⟨reticentAnswer, fun w c => ⟨rfl, .refl _⟩, fun c hc => by rw [reticentAnswer, if_neg hc]; rfl⟩

/-- Most of what promises that a run in `/r` can be made again can be checked. -/
theorem promising_of_shelf {further : List (Address × Node)}
    (hroot : r.settings.root = .absolute ["r"])
    (htool : ∃ answer, r.runner.Quiet (Exactly answer) ∧
      ∀ c, c ≠ ToolProbe.query r.driver.tool → (answer c).isOk = true)
    (hhost : (shelfHost further).Orderly ∧ (shelfHost further).Resolved (.absolute ["r"]) ∧
      (shelfHost further).stat (.absolute ["r"]) = .ok (["r"], .directory 0) ∧
      (shelfHost further).Shelf r.store.directory a)
    (hps : ∀ p ∈ ps, ((shelfHost further).Resolved p ∧
      ∀ t ∈ ((shelfHost further).changed p).toOption, t < 10) ∧
        (∀ s ∈ p.parts, s.utf8ByteSize ≤ Disk.nameLimit) ∧
          ¬r.settings.cacheRoot.parts <+: p.parts ∧ (cacheKey p).utf8ByteSize ≤ Disk.nameLimit)
    (hkeys : (ps.map cacheKey).Nodup) : r.Promising a ps (shelfHost further) where
  orderly := hhost.1
  root := hroot ▸ hhost.2.1.reachable hhost.2.2.1
  tool := htool
  resolved p hp := (hps p hp).1.1
  short p hp := (hps p hp).2.1
  past p hp := (hps p hp).1.2
  cache _ := ⟨.inl hhost.2.2.2, fun p hp => (hps p hp).2.2, hkeys⟩

/-- A path of names that are no links is resolved where there are no links. -/
theorem resolved_shelfHost {names : Address}
    (hnames : ∀ s ∈ names, Path.ProperName s ∧ s ≠ ".." ∧ holdsNull s = false) :
    (shelfHost []).Resolved (.absolute names) where
  anchor := rfl
  proper s hs := (hnames s hs).1
  noUp hup := (hnames _ hup).2.1 rfl
  noNull := Path.holdsNull_text_absolute fun s hs => (hnames s hs).2.2
  plain {b target} _ hlink := by
    have hall : ∀ e ∈ (shelfHost []).disk.entries, e.2.isLink = false := by decide
    cases hall _ (Disk.mem_of_node? hlink)

/-- The name with so many letters. -/
def letters (n : Nat) : String := String.ofList (List.replicate n 'x')

theorem properName_letters {n : Nat} (hn : 2 < n) :
    Path.ProperName (letters n) ∧ letters n ≠ ".." ∧ holdsNull (letters n) = false :=
  Path.named_replicate (by decide) (by decide) hn

/-- A listed path that is too long for the system. -/
theorem promising_longPath :
    ({ sample 0 with driver := .shell } : DriverRun).Promising []
        [.absolute (List.replicate 17 (letters 254))] (shelfHost []) ∧
      ¬({ sample 0 with driver := .shell } : DriverRun).Repeats
        [.absolute (List.replicate 17 (letters 254))] ⟨shelfHost [], []⟩ := by
  obtain ⟨hname, hup, hnull⟩ := properName_letters (n := 254) (by decide)
  have hsize : (letters 254).utf8ByteSize = 254 := Path.utf8ByteSize_replicate 254 'x'
  generalize letters 254 = s at *
  have hr : (shelfHost []).Resolved (.absolute (List.replicate 17 s)) :=
    resolved_shelfHost fun x hx => List.eq_of_mem_replicate hx ▸ ⟨hname, hup, hnull⟩
  have hroot : (shelfHost []).stat (.absolute ["r"]) = .ok (["r"], .directory 0) := by
    decide +kernel
  have hlong : Disk.textLimit < (Path.absolute (List.replicate 17 s)).text.utf8ByteSize := by
    rw [Path.utf8ByteSize_text_replicate, hsize]
    decide
  have hstat := Host.stat_of_error (Host.placeOf_of_not_askable (h := shelfHost []) hr.proper
    fun ha => Nat.not_le.mpr hlong ha.short)
  refine ⟨⟨by decide +kernel, Host.Resolved.reachable (by decide +kernel) hroot, exists_answer _,
    ?_, ?_, ?_, fun huse => nomatch huse⟩, not_repeats_of_long _ _ hr.proper hr.noNull hlong⟩
  · exact fun p hp => List.mem_singleton.mp hp ▸ hr
  · intro p hp x hx
    obtain rfl := List.mem_singleton.mp hp
    rw [List.eq_of_mem_replicate hx, hsize]
    decide
  · intro p hp t ht
    obtain rfl := List.mem_singleton.mp hp
    rw [Host.changed, hstat] at ht
    cases ht

/-- A marker whose path is too long for the system, though its name is not. -/
theorem promising_longMarker :
    (filed "python-3" (List.replicate 16 (letters 254))).Promising
        (List.replicate 16 (letters 254) ++ ["python-3"]) [.absolute ["r", "a.py"]]
        (shelfHost []) ∧
      ¬(filed "python-3" (List.replicate 16 (letters 254))).Repeats [.absolute ["r", "a.py"]]
        ⟨shelfHost [], []⟩ := by
  obtain ⟨hname, hup, hnull⟩ := properName_letters (n := 254) (by decide)
  have hsize : (letters 254).utf8ByteSize = 254 := Path.utf8ByteSize_replicate 254 'x'
  have hfree : (shelfHost []).disk.node? [letters 254] = none := by decide +kernel
  generalize letters 254 = s at *
  have ho : (shelfHost []).Orderly := by decide +kernel
  have hroot : (shelfHost []).stat (.absolute ["r"]) = .ok (["r"], .directory 0) := by
    decide +kernel
  have hr : (shelfHost []).Resolved (.absolute ["r", "a.py"]) := by decide +kernel
  have hstat : (shelfHost []).stat (.absolute ["r", "a.py"]) =
      .ok (["r", "a.py"], .file sampleBytes false 0) := by decide +kernel
  have hproper : (Path.absolute (List.replicate 16 s)).Proper := fun x hx =>
    List.eq_of_mem_replicate hx ▸ hname
  have hdirectory : (filed "python-3" (List.replicate 16 s)).store.directory =
      (Path.absolute (List.replicate 16 s)).down "python-3" :=
    Abreast.directory_store (r := filed "python-3" _) (show Path.ProperName "python-3" by decide)
  have hlong : ((Path.absolute (List.replicate 16 s)).down "python-3").text.utf8ByteSize =
      4089 := by
    rw [Path.text_down_of_ne_nil (by simp [Path.absolute]), String.utf8ByteSize_append,
      String.utf8ByteSize_append, Path.utf8ByteSize_text_replicate, hsize]
    decide
  have hmade : (shelfHost []).Creatable ((Path.absolute (List.replicate 16 s)).down "python-3")
      (List.replicate 16 s ++ ["python-3"]) := by
    refine (Host.creatable_replicate ho hname hup hnull (by rw [hsize]; decide) (t := 0)
      (by decide +kernel) hfree 15 (by rw [hsize]; decide)).down ho hproper (by decide) (by decide)
      ⟨by rw [hlong]; decide, ?_⟩ (by decide)
    rw [Path.holdsNull_text_down,
      Path.holdsNull_text_absolute fun x hx => List.eq_of_mem_replicate hx ▸ hnull]
    decide
  rw [← hdirectory] at hmade
  have hnot : ¬(filed "python-3" (List.replicate 16 s)).store.Fits (.absolute ["r", "a.py"]) := by
    intro hfits
    have hentry := hfits.2
    have hkey : (cacheKey (.absolute ["r", "a.py"])).utf8ByteSize = 6 := by decide +kernel
    rw [ResultCache.entry_eq _ (Host.markable_of_stat ho hr.proper hstat), hdirectory,
      Path.text_down_of_ne_nil (by simp [Path.absolute]), String.utf8ByteSize_append,
      String.utf8ByteSize_append, hlong, hkey] at hentry
    exact absurd hentry (by decide)
  have hcs : (filed "python-3" []).driver.classifiedAfter shebangDetector (shelfHost []) []
      [.absolute ["r", "a.py"]] = .ok [⟨.absolute ["r", "a.py"], .python, []⟩] := by
    decide +kernel
  have henabled : (filed "python-3" []).invoker.asks ((filed "python-3" []).driver.scanFileText
      (Text.Utf8.decode sampleBytes)) = true := by decide +kernel
  have ha : (filed "python-3" (List.replicate 16 s)).Ahead (List.replicate 16 s ++ ["python-3"]) []
      [.absolute ["r", "a.py"]] [⟨.absolute ["r", "a.py"], .python, []⟩] (shelfHost []) :=
    ⟨ho, cacheUsable_of_offers hproper fun _ => .inr hmade,
      fun p hp => List.mem_singleton.mp hp ▸
        ⟨hr.proper, .inl (Host.isFile_eq_true_iff.mpr ⟨_, _, _, _, hstat⟩)⟩, hcs⟩
  have hasks : (filed "python-3" (List.replicate 16 s)).invoker.AsksFor (shelfHost [])
      (.absolute ["r", "a.py"]) := ⟨sampleBytes, Host.read_of_stat hstat, henabled⟩
  have hreach : (shelfHost []).Reachable (.absolute ["r"]) :=
    Host.Resolved.reachable (by decide +kernel) hroot
  refine ⟨⟨ho, hreach, exists_answer _, ?_, ?_, ?_, fun _ => ⟨.inr hmade, ?_, by simp⟩⟩, ?_⟩
  · exact fun p hp => List.mem_singleton.mp hp ▸ hr
  · decide +kernel
  · decide +kernel
  · intro p hp
    obtain rfl := List.mem_singleton.mp hp
    exact ⟨fun hprefix => absurd hprefix.length_le (by simp [filed, Path.absolute]),
      by decide +kernel⟩
  · have hq : (sample 0).runner.Quiet success := ToolRunner.quiet_answering fun _ => rfl
    refine not_repeats_of_not_fits (w := ⟨shelfHost [], []⟩) hq rfl ha fun hfits => ?_
    have hfit := allFit_iff.mp hfits rfl ⟨.absolute ["r", "a.py"], .python, []⟩
      (List.mem_singleton.mpr rfl)
    exact hnot (hfit hasks)

/-- Runs that promise to be repeatable, and are not. -/
theorem not_repeats_situations :
    -- a marker is listed, as the name of the driver leads out of the root of the cache
    (∃ further,
      (filed "../d" ["r", "cache"]).Promising ["r", "d"]
          [.absolute ["r", "d", "r%a.py"], .absolute ["r", "a.py"]] (shelfHost further) ∧
        ¬(filed "../d" ["r", "cache"]).Repeats
          [.absolute ["r", "d", "r%a.py"], .absolute ["r", "a.py"]] ⟨shelfHost further, []⟩) ∧
    -- a marker is listed, as the root of the cache is a link
    (∃ further,
      (filed "python" ["r", "link"]).Promising ["r", "cache", "python"]
          [.absolute ["r", "cache", "python", "r%a.py"], .absolute ["r", "a.py"]]
          (shelfHost further) ∧
        ¬(filed "python" ["r", "link"]).Repeats
          [.absolute ["r", "cache", "python", "r%a.py"], .absolute ["r", "a.py"]]
          ⟨shelfHost further, []⟩) ∧
    -- the version query is at fault
    (reticent.Promising ["r", "cache", "python"] [.absolute ["r", "a.py"]] (shelfHost []) ∧
      ¬reticent.Repeats [.absolute ["r", "a.py"]] ⟨shelfHost [], []⟩) ∧
    -- a listed path is too long as a whole
    (∃ p, ({ sample 0 with driver := .shell } : DriverRun).Promising [] [p] (shelfHost []) ∧
      ¬({ sample 0 with driver := .shell } : DriverRun).Repeats [p] ⟨shelfHost [], []⟩) ∧
    -- the path of a marker is too long as a whole
    ∃ cacheRoot a,
      (filed "python-3" cacheRoot).Promising a [.absolute ["r", "a.py"]] (shelfHost []) ∧
        ¬(filed "python-3" cacheRoot).Repeats [.absolute ["r", "a.py"]] ⟨shelfHost [], []⟩ := by
  refine ⟨⟨[(["r", "d"], .directory 0), (["r", "d", "r%a.py"], .file sampleBytes false 0)],
      ?_, ?_⟩,
    ⟨[(["r", "link"], .link "cache"),
      (["r", "cache", "python", "r%a.py"], .file sampleBytes false 0)], ?_, ?_⟩, ⟨?_, ?_⟩,
    ⟨_, promising_longPath⟩, ⟨_, _, promising_longMarker⟩⟩
  · exact promising_of_shelf rfl (exists_answer _) (by decide +kernel) (by decide +kernel)
      (by decide +kernel)
  · decide +kernel
  · exact promising_of_shelf rfl (exists_answer _) (by decide +kernel) (by decide +kernel)
      (by decide +kernel)
  · decide +kernel
  · exact promising_of_shelf rfl exists_answer_reticent (by decide +kernel) (by decide +kernel)
      (by decide +kernel)
  · decide +kernel

end DriverRun

end OptIn
