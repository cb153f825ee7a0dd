import OptIn.Driver.Builtin
import OptIn.Proofs.Invoker.Progress
import OptIn.Proofs.Run.Report
import OptIn.Proofs.Run.Trace

/-!
# Runs that go on

What a run relies on before each of its steps is `DriverRun.Ahead`: an orderly host, a usable cache,
and paths to come that make the candidates they made at the start. Dealing with a candidate whose
marker fits keeps it, so the run comes to its end with a result for each candidate
(`Treated.complete`, `exists_run_of_allFit`).
-/

namespace OptIn

open ToolRunner (Answers benign success)
open Host (InStore Listed)

/-- Listed paths make the same candidates on a host whose store has grown. -/
theorem Host.Listed.considered_eq {h h' : Host} {a : Address} {p : Path} (hp : Listed h a p)
    (hg : h.Grows (InStore a) h') (ho : h.Orderly) (d : Driver) (seen : List Path) :
    d.considered shebangDetector seen p h' = d.considered shebangDetector seen p h := by
  obtain ⟨-, hfile, hread⟩ := hp.grows hg ho
  exact Driver.considered_congr hfile fun hf => Driver.detect_eq_of_read (hread hf)

namespace DriverRun

variable {r : DriverRun} {answers : Answers} {h h' : Host} {a : Address} {seen ps : List Path}
  {k k' : Option ToolProbe} {xs : List LintResult} {e : Option Fault} {cs : List Candidate}

theorem cache?_invoker (r : DriverRun) : r.invoker.cache? = r.cache? := by
  rw [Invoker.cache?, invoker, cache?]
  split <;> rfl

theorem asksFor_iff_of_grows {p : Path} (hg : h.Grows (InStore a) h') (ho : h.Orderly)
    (hp : p.Proper) (hf : h.isFile p = .ok true) :
    r.invoker.AsksFor h' p ↔ r.invoker.AsksFor h p := by
  rw [Invoker.AsksFor, Invoker.AsksFor, (hg.file_stays ho hp hf).2]

/-- The markers of all candidates that ask for linting fit. -/
def AllFit (r : DriverRun) (h : Host) (cs : List Candidate) : Prop :=
  ∀ c ∈ cs, r.invoker.AsksFor h c.path →
    ∀ cache, r.invoker.cache? = some cache → cache.Fits c.path

/-- What is known of the paths to come before each step of a run. -/
structure Ahead (r : DriverRun) (a : Address) (seen ps : List Path) (cs : List Candidate)
    (h : Host) : Prop where
  orderly : h.Orderly
  usable : r.invoker.CacheUsable h a
  listed : ∀ p ∈ ps, Listed h a p
  candidates : r.driver.classifiedAfter r.detect h seen ps = .ok cs

/-- What is ahead stays ahead when the store grows. -/
theorem Ahead.grows (ha : r.Ahead a seen ps cs h) (hdetect : r.detect = shebangDetector)
    (hg : h.Grows (InStore a) h') (hu : r.invoker.CacheUsable h' a) :
    r.Ahead a seen ps cs h' ∧ (r.AllFit h' cs ↔ r.AllFit h cs) := by
  refine ⟨⟨hg.orderly ha.orderly, hu, fun q hq => ((ha.listed q hq).grows hg ha.orderly).1, ?_⟩, ?_⟩
  · rw [← ha.candidates, hdetect]
    exact Driver.classifiedAfter_congr fun q hq seen =>
      (ha.listed q hq).considered_eq hg ha.orderly r.driver seen
  · refine forall₂_congr fun c hc => ?_
    obtain ⟨hmem, hcfile⟩ := Driver.mem_of_mem_classifiedAfter ha.candidates hc
    rw [asksFor_iff_of_grows hg ha.orderly (ha.listed _ hmem).proper hcfile]

/-- Behind a candidate the others are still ahead. -/
theorem Ahead.next {p : Path} {c : Candidate} (ha : r.Ahead a seen (p :: ps) cs h)
    (hdetect : r.detect = shebangDetector)
    (hc : r.driver.considered r.detect seen p h = .ok (some c)) :
    c = ⟨p, r.driver.kind, []⟩ ∧ p.Proper ∧ h.isFile p = .ok true ∧ ∃ cs', cs = c :: cs' ∧
      ∀ {h'}, h.Grows (InStore a) h' → r.invoker.CacheUsable h' a →
        r.Ahead a (p :: seen) ps cs' h' ∧ (r.AllFit h' cs' ↔ r.AllFit h cs') := by
  obtain ⟨rfl, -, hfile⟩ := Driver.eq_of_considered hc
  obtain ⟨cs', rfl, hrest⟩ := Driver.exists_of_classifiedAfter_cons hc ha.candidates
  have ha' : r.Ahead a (p :: seen) ps cs' h :=
    ⟨ha.orderly, ha.usable, fun q hq => ha.listed q (List.mem_cons_of_mem _ hq), hrest⟩
  exact ⟨rfl, (ha.listed p List.mem_cons_self).proper, hfile, cs', rfl,
    fun hg hu => ha'.grows hdetect hg hu⟩

/-- Behind a path that makes no candidate as well. -/
theorem Ahead.skip {p : Path} (ha : r.Ahead a seen (p :: ps) cs h)
    (hc : r.driver.considered r.detect seen p h = .ok none) :
    r.Ahead a (p :: seen) ps cs h where
  orderly := ha.orderly
  usable := ha.usable
  listed q hq := ha.listed q (List.mem_cons_of_mem _ hq)
  candidates := (Driver.classifiedAfter_of_none hc).symm.trans ha.candidates

/-- A path that is listed can be considered. -/
theorem Ahead.not_refused {p : Path} {e : Fault} (ha : r.Ahead a seen (p :: ps) cs h)
    (hdetect : r.detect = shebangDetector) :
    r.driver.considered r.detect seen p h ≠ .error e := by
  obtain ⟨c, hc⟩ := Driver.exists_considered r.driver seen
    ((ha.listed p List.mem_cons_self).exists_isFile ha.orderly)
  rw [hdetect, hc]
  exact fun h => nomatch h

/-- A trace on candidates whose markers fit has no fault and a result for each of them. -/
theorem Treated.complete (ht : Treated r answers seen ps k h xs e k' h')
    (hbenign : ∀ c x, answers c x → benign c x) (hdetect : r.detect = shebangDetector)
    (ha : r.Ahead a seen ps cs h) (hfits : r.AllFit h cs) :
    e = none ∧ xs.map (·.candidate.path) = cs.map (·.path) ∧ h.Grows (InStore a) h' := by
  induction ht generalizing cs with
  | done =>
    cases ha.candidates
    exact ⟨rfl, rfl, .refl _ _⟩
  | passedOver hc _ ih => exact ih (ha.skip hc) hfits
  | refused hc => exact absurd hc (ha.not_refused hdetect)
  | judged hc hi _ ih =>
    obtain ⟨rfl, hp, hfile, cs', rfl, hnext⟩ := ha.next hdetect hc
    obtain ⟨z, hz, hpath, hg, hu⟩ :=
      hi.step hbenign ha.orderly ha.usable hp hfile (hfits _ List.mem_cons_self)
    cases hz
    obtain ⟨ha', hfits'⟩ := hnext hg hu
    obtain ⟨he, hxs, hg'⟩ :=
      ih ha' (hfits'.mpr fun c hc => hfits c (List.mem_cons_of_mem _ hc))
    exact ⟨he, by rw [List.map_cons, hxs, hpath, List.map_cons], hg.trans hg'⟩
  | broken hc hi =>
    obtain ⟨rfl, hp, hfile, cs', rfl, -⟩ := ha.next hdetect hc
    obtain ⟨z, hz, -⟩ :=
      hi.step hbenign ha.orderly ha.usable hp hfile (hfits _ List.mem_cons_self)
    cases hz

theorem benign_of_success {c : Call} {x : Except Fault Completed} (hx : success c x) :
    benign c x := by
  cases x with
  | ok done => trivial
  | error e => exact hx.elim

/-- If the tool finds no fault, a trace without a fault shows that all markers fit. -/
theorem Treated.allFit_of_success (ht : Treated r success seen ps k h xs e k' h') (he : e = none)
    (hdetect : r.detect = shebangDetector) (ha : r.Ahead a seen ps cs h)
    (hk : ∀ q, k = some q → q.usable = true) : r.AllFit h cs := by
  induction ht generalizing cs with
  | done =>
    cases ha.candidates
    exact fun c hc => nomatch hc
  | passedOver hc _ ih => exact ih he (ha.skip hc) hk
  | refused => cases he
  | judged hc hi _ ih =>
    obtain ⟨rfl, hp, hfile, cs', rfl, hnext⟩ := ha.next hdetect hc
    obtain ⟨hfit, hk'⟩ := hi.fits_of_success ha.orderly ha.usable hp hfile hk
    obtain ⟨-, -, -, hg, hu⟩ :=
      hi.step (fun _ _ => benign_of_success) ha.orderly ha.usable hp hfile hfit
    obtain ⟨ha', hfits'⟩ := hnext hg hu
    have hfits := hfits'.mp (ih he ha' hk')
    intro c hc
    rcases List.mem_cons.mp hc with rfl | hc
    · exact hfit
    · exact hfits c hc
  | broken => cases he

/-! ### From traces to runs -/

/-- What a run comes to whose trace this is. -/
def outcomeOf (r : DriverRun) (t : Trace) : Except Fault DriverOutcome :=
  match t.fault with
  | some e => .error e
  | none =>
    let s := t.results.foldl Summary.add {}
    .ok ⟨r.driver.name, s, s.exitStatus r.settings.requireCandidates⟩

/-- A run comes to what its trace says, if its report can be written. -/
theorem fst_run_eq_outcomeOf {w : World}
    (hreport : (r.trace [] ps ⟨w, none⟩).fault = none →
      (r.trace [] ps ⟨w, none⟩).session.world.host.Reachable r.settings.root ∧
        ∀ x ∈ (r.trace [] ps ⟨w, none⟩).results,
          (r.trace [] ps ⟨w, none⟩).session.world.host.Reachable x.candidate.path) :
    ((r.run (.ofPaths ps)).run w).1 = r.outcomeOf (r.trace [] ps ⟨w, none⟩) := by
  have hsummary := r.summarize_ofPaths ps w
  rw [outcomeOf]
  rcases hfault : (r.trace [] ps ⟨w, none⟩).fault with _ | e
  · obtain ⟨hroot, hpaths⟩ := hreport hfault
    rw [hfault] at hsummary
    simp only at hsummary
    generalize hs : (r.trace [] ps ⟨w, none⟩).results.foldl Summary.add {} = s at hsummary
    have hresults : s.results = (r.trace [] ps ⟨w, none⟩).results := by
      rw [← hs, results_foldl_add]
      rfl
    rw [← hresults] at hpaths
    obtain ⟨w', hfinish⟩ := Summary.exists_finish r.settings
      (tallied_of_summarize hsummary) (Summary.shown_of_reachable hroot hpaths)
    rw [run, Action.run_bind_ok hsummary, Action.run_bind_ok hfinish, ← hs]
    rfl
  · rw [hfault] at hsummary
    rw [run, Action.run_bind_error hsummary]

/-- A trace without a fault is that of a run, if its report can be written. -/
theorem exists_run_of_trace {w : World} (hfault : (r.trace [] ps ⟨w, none⟩).fault = none)
    (hroot : (r.trace [] ps ⟨w, none⟩).session.world.host.Reachable r.settings.root)
    (hpaths : ∀ x ∈ (r.trace [] ps ⟨w, none⟩).results,
      (r.trace [] ps ⟨w, none⟩).session.world.host.Reachable x.candidate.path) :
    ∃ o w', (r.run (.ofPaths ps)).run w = (.ok o, w') ∧
      o.summary.results = (r.trace [] ps ⟨w, none⟩).results := by
  have hfst := fst_run_eq_outcomeOf (r := r) fun _ => ⟨hroot, hpaths⟩
  rw [outcomeOf, hfault] at hfst
  exact ⟨_, _, Prod.ext hfst rfl, results_foldl_add _ _⟩

/-- The place of the successes of a run. -/
def store (r : DriverRun) : ResultCache := ⟨r.settings.cacheDirectory r.driver⟩

theorem cache?_eq_some_iff {cache : ResultCache} :
    r.invoker.cache? = some cache ↔ r.driver.useCache = true ∧ cache = r.store := by
  rw [cache?_invoker, DriverRun.cache?]
  split
  · rename_i huse
    simp [huse, store, eq_comm]
  · rename_i huse
    simp [huse]

theorem cacheUsable_of_offers (hproper : r.settings.cacheRoot.Proper)
    (hoffers : r.driver.useCache = true → h.Offers r.store.directory a) :
    r.invoker.CacheUsable h a := by
  intro cache hc
  obtain ⟨huse, rfl⟩ := cache?_eq_some_iff.mp hc
  exact ⟨hproper.child _, hoffers huse⟩

theorem allFit_iff : r.AllFit h cs ↔ (r.driver.useCache = true →
    ∀ c ∈ cs, r.invoker.AsksFor h c.path → r.store.Fits c.path) := by
  constructor
  · intro hfits huse c hc hasks
    exact hfits c hc hasks r.store (cache?_eq_some_iff.mpr ⟨huse, rfl⟩)
  · intro hfits c hc hasks cache hcache
    obtain ⟨huse, rfl⟩ := cache?_eq_some_iff.mp hcache
    exact hfits huse c hc hasks

/-- Whatever a benign runner answers, a run whose markers fit comes to its end. -/
theorem exists_run_of_allFit {w : World} (hq : r.runner.Quiet benign)
    (hdetect : r.detect = shebangDetector) (hroot : w.host.Reachable r.settings.root)
    (hreach : ∀ c ∈ cs, w.host.Reachable c.path) (ha : r.Ahead a [] ps cs w.host)
    (hfits : r.AllFit w.host cs) :
    ∃ o w', (r.run (.ofPaths ps)).run w = (.ok o, w') ∧
      o.summary.results.map (·.candidate.path) = cs.map (·.path) := by
  obtain ⟨hfault, hpaths, hg⟩ :=
    (treated_trace hq [] ps ⟨w, none⟩).complete (fun _ _ hx => hx) hdetect ha hfits
  have ho := ha.orderly
  obtain ⟨o, w', hrun, hresults⟩ := exists_run_of_trace hfault (hroot.grows hg ho).2 fun x hx => by
    have hmem : x.candidate.path ∈ cs.map (·.path) := hpaths ▸ List.mem_map_of_mem hx
    obtain ⟨c, hc, hpath⟩ := List.mem_map.mp hmem
    rw [← hpath]
    exact ((hreach c hc).grows hg ho).2
  exact ⟨o, w', hrun, by rw [hresults, hpaths]⟩

/-! ### A run to try things on -/

/-- A run of the Python driver in `/r`, with its cache in `/r/cache`, and with a tool that answers
each command with the same status. -/
def sample (status : Int) : DriverRun where
  driver := .python
  settings := { root := .absolute ["r"], cacheRoot := .absolute ["r", "cache"] }
  detect := shebangDetector
  runner := .answering fun _ => status
  sink := .collected

/-- The bytes of a file whose header asks the Python driver for linting: `# pylint: x`. -/
def sampleBytes : List UInt8 := [35, 32, 112, 121, 108, 105, 110, 116, 58, 32, 120, 10]

end DriverRun

end OptIn
