import OptIn.Proofs.Cache.Usable
import OptIn.Proofs.Run.Course
import OptIn.Proofs.Run.History

/-!
# What a run leaves behind

With a runner that changes nothing, all that a run leaves behind are the markers of the files that
have passed: they are there, and bear a time of the run. Everything else is as it was, except that
the directory of the cache, with those above it, is made for the first marker, and that time has
passed (`DriverRun.leaves_of_run`). A driver that has no use for the cache leaves nothing
behind at all, whatever cache its invoker is given.

The directory has to be **clear** for markers (`Host.Clear`): as soon as it is there, nothing but
files is in it. So is a directory that is there, with nothing but files in it
(`Host.clear_of_shelf`), and one that is missing if its path goes up from no missing directory
(`Host.clear_of_missing`). Otherwise making it can bring up one that was there before, with links in
it, and touching a marker goes through these (`DriverRun.not_leaves_of_run`).
-/

namespace OptIn

open ToolRunner (anything Answers)

/-! ### Directories for markers -/

namespace Host

variable {h h' : Host} {dir : Path} {a : Address} {t : Int}

/-- A directory is **clear** for markers when it holds nothing but files, at once or as soon as it
is made. -/
def Clear (h : Host) (dir : Path) : Prop :=
  ∀ t h', (makeDirectories dir).run { h with clock := t } = (.ok (), h') → ∃ a, h'.Shelf dir a

/-- A directory that is there is clear if nothing but files is in it. -/
theorem clear_of_shelf (ho : h.Orderly) (hdir : dir.Proper) (hs : h.Shelf dir a) :
    h.Clear dir := by
  intro t h' hrun
  have hs' : Shelf { h with clock := t } dir a := ⟨hs.there, hs.files⟩
  rw [makeDirectories_of_isDirectory (ho.at_clock t) hdir hs'.isDirectory] at hrun
  cases hrun
  exact ⟨a, hs'⟩

/-- A missing directory is clear if its path goes up from no missing directory. -/
theorem clear_of_missing (ho : h.Orderly) (hdir : dir.Proper)
    (hno : h.isDirectory dir ≠ .ok true) (hs : h.Straight dir) : h.Clear dir := by
  intro t h' hrun
  obtain ⟨a, hmade⟩ :=
    (makeDirectories_of_missing (ho.at_clock t) hdir hno hrun).fresh rfl hs
  exact ⟨a, hmade.shelf⟩

end Host

/-! ### Markers of results -/

/-- The place of a **marker** of one of the files that have passed. -/
def IsMarker (xs : List LintResult) (a b : Address) : Prop :=
  ∃ x ∈ xs, x.classification = .passed ∧ b = a ++ [cacheKey x.candidate.path]

/-- All that some results have **left** on a host: markers in the directory of a cache. -/
structure ResultCache.Marked (c : ResultCache) (h : Host) (xs : List LintResult) (h' : Host)
    (a : Address) : Prop where
  shelf : h'.Shelf c.directory a
  grows : h.Grows (IsMarker xs a) h'
  marker : ∀ x ∈ xs, x.classification = .passed → ∃ bytes y t,
    h'.stat (c.entry x.candidate.path) =
      .ok (a ++ [cacheKey x.candidate.path], .file bytes y t) ∧ h.clock ≤ t ∧ t ≤ h'.clock

/-- What some results **leave behind**: nothing if no file has passed, and their markers else. -/
inductive ResultCache.Leaves (c : ResultCache) (h : Host) (xs : List LintResult) (h' : Host) : Prop
  | nothing : (∀ x ∈ xs, x.classification ≠ .passed) → h.Later h' → Leaves c h xs h'
  | markers (a : Address) : (∃ x ∈ xs, x.classification = .passed) → c.Marked h xs h' a →
      Leaves c h xs h'

namespace ResultCache

variable {c : ResultCache} {h h' h'' : Host} {xs : List LintResult} {x : LintResult} {a : Address}
  {p : Path}

theorem stat_entry_of_shelf {n : Node} (ho : h.Orderly) (hdir : c.directory.Proper)
    (hp : p.Markable) (hs : h.Shelf c.directory a) (hfits : c.Fits p)
    (hn : h.disk.node? (a ++ [cacheKey p]) = some n) :
    h.stat (c.entry p) = .ok (a ++ [cacheKey p], n) := by
  have hplace := placeOf_entry .use ho hdir hp hs.tray hfits
  rw [hn] at hplace
  exact Host.stat_eq_ok_iff_placeOf.mpr hplace

theorem isMarker_append_left {b : Address} (hb : IsMarker xs a b) : IsMarker (xs ++ [x]) a b := by
  obtain ⟨y, hy, hpassed, hb⟩ := hb
  exact ⟨y, List.mem_append_left _ hy, hpassed, hb⟩

theorem Marked.later (hm : c.Marked h xs h' a) (hl : h'.Later h'') : c.Marked h xs h'' a where
  shelf := hm.shelf.later hl
  grows := hm.grows.trans (hl.grows _)
  marker x hx hpassed := by
    obtain ⟨bytes, y, t, hs, hle, hle'⟩ := hm.marker x hx hpassed
    exact ⟨bytes, y, t, by rw [hl.stat_eq, hs], hle, Int.le_trans hle' hl.clock_le⟩

/-- A result that has not passed leaves nothing. -/
theorem Marked.append_of_ne (hm : c.Marked h xs h' a) (hx : x.classification ≠ .passed) :
    c.Marked h (xs ++ [x]) h' a where
  shelf := hm.shelf
  grows := hm.grows.mono fun _ => isMarker_append_left
  marker y hy hpassed := by
    rcases List.mem_append.mp hy with hy | hy
    · exact hm.marker y hy hpassed
    · rw [List.mem_singleton.mp hy] at hpassed
      exact absurd hpassed hx

/-- The marker of a file is stamped on a shelf where other markers may be. -/
theorem Marked.append_of_stamped (ho : h'.Orderly) (hdir : c.directory.Proper)
    (hx : x.classification = .passed) (hp : x.candidate.path.Markable)
    (hfits : c.Fits x.candidate.path) (hm : c.Marked h xs h' a)
    (hst : h'.Stamped h'' c.directory a (cacheKey x.candidate.path)) :
    c.Marked h (xs ++ [x]) h'' a where
  shelf := hst.shelf
  grows := (hm.grows.mono fun _ => isMarker_append_left).trans
    (hst.grows.mono fun b hb => ⟨x, by simp, hx, hb⟩)
  marker y hy hpassed := by
    have ho' := hst.grows.orderly ho
    obtain ⟨bytes, e, hn⟩ := hst.marker
    rcases List.mem_append.mp hy with hy | hy
    · obtain ⟨bs, z, t, hs, hle, hle'⟩ := hm.marker y hy hpassed
      obtain ⟨t', hs', hsame⟩ := hst.grows.stat_file ho (hdir.child _) hs
      refine ⟨bs, z, t', hs', ?_⟩
      by_cases hkey : cacheKey y.candidate.path = cacheKey x.candidate.path
      · -- it is the marker that has been stamped
        have hn' := Host.node?_of_stat ho' (hdir.child _) hs'
        rw [hkey, hn] at hn'
        cases hn'
        exact ⟨hm.grows.clock, Int.le_of_eq hst.clock.symm⟩
      · rw [hsame (by simpa using hkey), hst.clock]
        exact ⟨hle, hle'⟩
    · obtain rfl := List.mem_singleton.mp hy
      exact ⟨bytes, e, h'.clock, stat_entry_of_shelf ho' hdir hp hst.shelf hfits hn,
        hm.grows.clock, Int.le_of_eq hst.clock.symm⟩

/-- What is there before the first marker. -/
theorem marked_of_shelf (hg : h.Grows (fun _ => False) h') (hs : h'.Shelf c.directory a)
    (hxs : ∀ x ∈ xs, x.classification ≠ .passed) : c.Marked h xs h' a where
  shelf := hs
  grows := hg.mono fun _ hb => hb.elim
  marker x hx hpassed := absurd hpassed (hxs x hx)

theorem Leaves.orderly (hl : c.Leaves h xs h') (ho : h.Orderly) : h'.Orderly := by
  rcases hl with ⟨-, hlater⟩ | ⟨a, -, hm⟩
  · exact (hlater.grows fun _ => True).orderly ho
  · exact hm.grows.orderly ho

/-- A file that has not passed adds nothing to what is left behind. -/
theorem Leaves.append_of_ne (hl : c.Leaves h xs h') (hlater : h'.Later h'')
    (hx : x.classification ≠ .passed) : c.Leaves h (xs ++ [x]) h'' := by
  rcases hl with ⟨hxs, hl⟩ | ⟨a, ⟨y, hy, hpassed⟩, hm⟩
  · refine .nothing (fun y hy => ?_) (hl.trans hlater)
    rcases List.mem_append.mp hy with hy | hy
    · exact hxs y hy
    · rwa [List.mem_singleton.mp hy]
  · exact .markers a ⟨y, List.mem_append_left _ hy, hpassed⟩ ((hm.later hlater).append_of_ne hx)

/-- Recording the first file that has passed leaves its marker, where the directory is made for it
if it has to be. -/
theorem exists_marked_of_record {w w' : World} (hl : h.Later w.host) (ho : w.host.Orderly)
    (hdir : c.directory.Proper) (hclear : h.Clear c.directory)
    (hxs : ∀ y ∈ xs, y.classification ≠ .passed) (hx : x.classification = .passed)
    (hp : x.candidate.path.Markable)
    (hrun : (c.record x.candidate.path).run w = (.ok (), w')) :
    ∃ a, c.Marked h (xs ++ [x]) w'.host a := by
  obtain ⟨t, hsame⟩ : ∃ t, w.host = { h with clock := t } := hl.imp fun t ht => ht.2
  rcases hmake : (Host.makeDirectories c.directory).run w.host with ⟨e | ⟨⟩, h₁⟩
  · cases hrun.symm.trans (run_record_of_error hmake)
  obtain ⟨a, hshelf⟩ := hclear t h₁ (hsame ▸ hmake)
  have hg := (Host.grows_makeDirectories ho hdir hmake).1
  obtain ⟨r, h₂, htouch, hcases⟩ := touch_cases (hg.orderly ho) hdir hshelf hp
  obtain ⟨w₂, hrun', rfl⟩ := run_record_of_ok hmake htouch
  cases hrun.symm.trans hrun'
  rcases hcases with ⟨-, hfits, hst⟩ | ⟨⟨e, he⟩, -⟩
  · have hm := marked_of_shelf ((hl.grows _).trans hg) hshelf hxs
    exact ⟨a, hm.append_of_stamped (hg.orderly ho) hdir hx hp hfits hst⟩
  · cases he

/-- What one file adds to what is left behind. -/
theorem Leaves.append {i : Invoker} (hl : c.Leaves h xs h') (ho : h.Orderly)
    (hc : i.cache? = some c) (hdir : c.directory.Proper) (hclear : h.Clear c.directory)
    (hp : x.candidate.path.Proper) (hf : h'.isFile x.candidate.path = .ok true)
    (he : i.Effect x.candidate.path h' (.ok x) h'') : c.Leaves h (xs ++ [x]) h'' := by
  have ho' := hl.orderly ho
  cases he with
  | later hx hlater => exact hl.append_of_ne hlater (hx x rfl)
  | @recorded h₁ _ _ hx hlater hr =>
    have hmark : x.candidate.path.Markable := by
      obtain ⟨b, bytes, y, t, hs⟩ := Host.isFile_eq_true_iff.mp hf
      exact Host.markable_of_stat ho' hp hs
    have ho₁ := (hlater.grows fun _ => True).orderly ho'
    have hpassed : ∃ y ∈ xs ++ [x], y.classification = .passed := ⟨x, by simp, hx⟩
    generalize hok : (Except.ok () : Except Fault Unit) = ok at hr
    rcases hr with hnone | ⟨hc', hrun⟩
    · cases hnone.symm.trans hc
    cases Option.some.inj (hc.symm.trans hc')
    subst hok
    rcases hl with ⟨hxs, hl⟩ | ⟨a, -, hm⟩
    · -- nothing has passed before, so this may be what the directory is made for
      obtain ⟨a, hm⟩ :=
        exists_marked_of_record (hl.trans hlater) ho₁ hdir hclear hxs hx hmark hrun
      exact .markers a hpassed hm
    · have hm := hm.later hlater
      rcases record_cases_of_shelf ho₁ hdir hm.shelf hmark hrun with
        ⟨-, hfits, hst⟩ | ⟨⟨e, he⟩, -⟩
      · exact .markers a hpassed (hm.append_of_stamped ho₁ hdir hx hmark hfits hst)
      · cases he

end ResultCache

namespace DriverRun

variable {r : DriverRun} {source : Source} {seen : List Path} {pulls : List (Action World Path)}
  {summary summary' : Summary} {s s' : Session} {w w' : World}

/-- What the **effect** of each file keeps is kept by a run up to its report. -/
theorem collect_induction {inv : List LintResult → Host → Prop} (hq : r.runner.Quiet anything)
    (hstep : ∀ {xs h x h'}, inv xs h → x.candidate.path.Proper →
      h.isFile x.candidate.path = .ok true →
      r.invoker.Effect x.candidate.path h (.ok x) h' → inv (xs ++ [x]) h')
    (hpulls : ∀ pull ∈ pulls, pull.Keeps id)
    (hproper : ∀ p ∈ (r.courseFrom seen pulls s).given, p.Proper)
    (hinv : inv summary.results s.world.host)
    (h : (r.collect seen summary pulls).run s = (.ok summary', s')) :
    inv summary'.results s'.world.host := by
  induction pulls generalizing seen summary s with
  | nil =>
    cases h
    exact hinv
  | cons pull pulls ih =>
    have hrest : ∀ pull ∈ pulls, pull.Keeps id :=
      fun q hq => hpulls q (List.mem_cons_of_mem pull hq)
    rw [collect] at h
    obtain ⟨p, s₁, hpull, h⟩ := Action.exists_of_run_bind_ok h
    obtain ⟨c?, s₂, hconsider, h⟩ := Action.exists_of_run_bind_ok h
    simp only [courseFrom, hpull, hconsider] at hproper
    -- neither asking for a path nor considering it changes the host
    have hsame : s₁.world = s.world := by
      have hworld : (pull.run s.world).2 = s.world := hpulls pull List.mem_cons_self s.world
      rw [Session.run_of_onWorld hpull] at hworld
      exact hworld
    obtain ⟨w₂, hrun, hhost⟩ := Driver.run_consider r.driver r.detect seen p s₁.world
    obtain ⟨hconsidered, hw₂⟩ := Prod.mk.inj (hrun.symm.trans (Session.run_of_onWorld hconsider))
    rw [hw₂, hsame] at hhost
    rw [← hhost] at hinv
    cases c? with
    | none => exact ih hrest (fun q hq => hproper q (List.mem_cons_of_mem p hq)) hinv h
    | some c =>
      obtain ⟨x, s₃, hprocess, hbehind⟩ := Action.exists_of_run_bind_ok h
      simp only [hprocess] at hproper
      obtain ⟨rfl, -, hf⟩ := Driver.eq_of_considered hconsidered
      rw [hsame, ← hhost] at hf
      obtain ⟨heffect, hpath⟩ := (invoked_of_process hq hprocess).effect hf
      have hx := (hpath x rfl).1
      rw [← hx] at heffect
      have hinv' : inv (summary.add x).results s₃.world.host := by
        rw [Summary.results_add]
        exact hstep hinv (hx ▸ hproper p List.mem_cons_self) (hx ▸ hf) heffect
      exact ih hrest (fun q hq => hproper q (List.mem_cons_of_mem p hq)) hinv' hbehind

end DriverRun

/-! ### Sources and runs -/

/-- A source is **still** when no more than time passes while it is opened, and it reads. -/
structure Source.Still (source : Source) : Prop where
  reads : source.Reads
  later : ∀ w : World, w.host.Later (source.run w).2.host

namespace Source

theorem still_ofPaths (ps : List Path) : (ofPaths ps).Still :=
  ⟨reads_ofPaths ps, fun w => .refl w.host⟩

theorem still_ofEntries (root : Path) (entries : List Path) : (ofEntries root entries).Still :=
  ⟨reads_ofEntries root entries, fun w => .refl w.host⟩

theorem still_ofLines (root : Path) (lines : List String) : (ofLines root lines).Still :=
  ⟨reads_ofLines root lines, fun w => .refl w.host⟩

/-- Listing files is still when the runner that does it changes nothing. -/
theorem still_git {run : ToolRunner} (hq : run.Quiet anything) (root : Path) (staged : Bool) :
    (git run root staged).Still := by
  have hlisting : ∀ (command : List String) (w : World),
      w.host.Later ((listing run command root).run w).2.host := by
    intro command w
    have hlater := (hq w { command, directory := some root, capture := true, check := false }).2
    rw [listing, Action.run_bind_ok (Action.run_attempt _ w), ToolRunner.run_perform]
    rcases (run w { command, directory := some root, capture := true, check := false }).outcome
      with e | done
    · simp only
      split <;> exact hlater
    · simp only
      split <;> exact hlater
  refine ⟨reads_git run root staged, fun w => ?_⟩
  have hlater := hlisting (gitCommand staged) w
  rw [git, ofListing]
  rcases hrun : (listing run (gitCommand staged) root).run w with ⟨e | lines, w₁⟩
  · rw [hrun] at hlater
    rw [Action.run_bind_error hrun]
    exact hlater
  · rw [hrun] at hlater
    rw [Action.run_bind_ok hrun]
    exact hlater

end Source

namespace DriverRun

variable {r : DriverRun} {source : Source} {o : DriverOutcome} {w w' : World}

theorem host_of_run (h : (r.run source).run w = (.ok o, w')) :
    ∃ pulls w₁ s', source.run w = (.ok pulls, w₁) ∧
      (r.collect [] {} pulls).run ⟨w₁, none⟩ = (.ok o.summary, s') ∧
      w'.host = s'.world.host := by
  obtain ⟨pulls, w₁, s', hopen, hcollect, status, hfinish⟩ := exists_collect_of_run h
  have hhost := Summary.host_finish o.summary r.settings s'.world
  rw [hfinish] at hhost
  exact ⟨pulls, w₁, s', hopen, hcollect, hhost⟩

end DriverRun

namespace Invoker

variable {i : Invoker} {c : Candidate} {h h' : Host} {p : Path} {x : Except Fault LintResult}

theorem Effect.later_of_uncached (he : i.Effect p h x h') (hc : i.cache? = none) : h.Later h' := by
  cases he with
  | later _ hl => exact hl
  | recorded _ hl hr =>
    cases hr with
    | uncached => exact hl
    | cached hc' => cases hc.symm.trans hc'
  | refused hl hr =>
    generalize hx : (Except.error _ : Except Fault Unit) = x at hr
    cases hr with
    | uncached => cases hx
    | cached hc' => cases hc.symm.trans hc'

theorem Invoked.later_of_uncached {answers : Answers} {k k' : Option ToolProbe}
    (hi : Invoked i answers c k h x k' h') (hc : i.cache? = none) : h.Later h' := by
  cases hi with
  | read _ hsettled => exact hsettled.effect.1.later_of_uncached hc
  | unread => exact .refl h
  | broken => exact .refl h

/-- Without a cache an invocation leaves nothing behind. -/
theorem later_of_uncached (hq : i.runner.Quiet anything) (hc : i.cache? = none) (c : Candidate)
    (s : Session) : s.world.host.Later ((i.invoke c).run s).2.world.host := by
  rcases hrun : (i.invoke c).run s with ⟨x, s'⟩
  exact (invoked_of_run hq hrun).later_of_uncached hc

end Invoker

namespace DriverRun

variable {r : DriverRun} {source : Source} {o : DriverOutcome} {w w' : World}

/-- What a run keeps up to its end, if each file keeps it. -/
theorem run_induction (inv : List LintResult → Host → Prop) (hq : r.runner.Quiet anything)
    (hsource : source.Still)
    (hstart : ∀ {h}, w.host.Later h → inv [] h)
    (hstep : ∀ {xs h x h'}, inv xs h → x.candidate.path.Proper →
      h.isFile x.candidate.path = .ok true →
      r.invoker.Effect x.candidate.path h (.ok x) h' → inv (xs ++ [x]) h')
    (hproper : ∀ p ∈ (r.course source w).given, p.Proper)
    (h : (r.run source).run w = (.ok o, w')) : inv o.summary.results w'.host := by
  obtain ⟨pulls, w₁, s', hopen, hcollect, hhost⟩ := host_of_run h
  have hlater := hsource.later w
  rw [hopen] at hlater
  rw [course, hopen] at hproper
  rw [hhost]
  exact collect_induction hq hstep (hsource.reads w pulls w₁ hopen) hproper (hstart hlater) hcollect

/-- **What a run leaves behind** are the markers of the files that have passed, and nothing if none
has. Without the use of a cache it is nothing in any case, and so for each invocation, whatever
cache its invoker is given. -/
theorem leaves_of_run (hq : r.runner.Quiet anything) (hsource : source.Still)
    (ho : w.host.Orderly) (hroot : r.settings.cacheRoot.Proper)
    (hclear : r.driver.useCache = true → w.host.Clear r.store.directory)
    (hproper : ∀ p ∈ (r.course source w).given, p.Proper)
    (h : (r.run source).run w = (.ok o, w')) :
    (r.driver.useCache = true → r.store.Leaves w.host o.summary.results w'.host) ∧
      (r.driver.useCache = false → w.host.Later w'.host ∧
        ∀ (cache : Option ResultCache) (c : Candidate) (s : Session),
          s.world.host.Later (({ r.invoker with cache }.invoke c).run s).2.world.host) := by
  constructor
  · intro huse
    have hc : r.invoker.cache? = some r.store := cache?_eq_some_iff.mpr ⟨huse, rfl⟩
    refine run_induction (r.store.Leaves w.host) hq hsource
      (fun hl => .nothing (fun x hx => nomatch hx) hl) ?_ hproper h
    exact fun hl hp hf he => hl.append ho hc (hroot.child _) (hclear huse) hp hf he
  · intro huse
    have hnone : ∀ cache, Invoker.cache? { r.invoker with cache } = none := fun cache =>
      if_neg (by simp [invoker, huse])
    refine ⟨?_, fun cache c s => Invoker.later_of_uncached hq (hnone cache) c s⟩
    refine run_induction (fun _ h' => w.host.Later h') hq hsource (fun hl => hl) ?_ hproper h
    exact fun hl _ _ he => hl.trans (he.later_of_uncached (hnone r.cache?))

theorem leaves_of_run_sample :
    let w : World := ⟨.holding [["r"]] [(["r", "a.py"], sampleBytes), (["r", "b.py"], [])], []⟩
    let r := sample 0
    let source := Source.ofPaths [.absolute ["r", "a.py"], .absolute ["r", "b.py"]]
    r.driver.useCache = true ∧ w.host.Clear r.store.directory ∧
      (∀ p ∈ (r.course source w).given, p.Proper) ∧
      ∃ o w', (r.run source).run w = (.ok o, w') ∧
        o.summary.results.map (·.classification) = [.passed, .skipped] ∧
        r.store.Leaves w.host o.summary.results w'.host := by
  intro w r source
  have ho : w.host.Orderly := by decide
  have hroot : r.settings.cacheRoot.Proper := by decide
  have hclear : w.host.Clear r.store.directory :=
    Host.clear_of_missing ho (hroot.child _) (by decide +kernel)
      (Host.straight_of_not_mem (by decide +kernel))
  have hproper : ∀ p ∈ (r.course source w).given, p.Proper := by decide +kernel
  have hquiet : r.runner.Quiet anything := ToolRunner.quiet_answering fun _ => trivial
  have hresults : (((r.run source).run w).1.toOption.map fun o =>
      o.summary.results.map (·.classification)) = some [.passed, .skipped] := by decide +kernel
  obtain ⟨o, hfst, hclasses⟩ := Option.map_eq_some_iff.mp hresults
  have hrun := Action.run_eq_of_fst (Driver.eq_ok_of_toOption hfst)
  exact ⟨rfl, hclear, hproper, o, _, hrun, hclasses,
    (leaves_of_run hquiet (Source.still_ofPaths _) ho hroot (fun _ => hclear) hproper hrun).1 rfl⟩

/-- A run of the Python driver in `/r`. The path of its cache goes up from the missing `/r/x`, and
leads to `/r/cache` as soon as that is made. -/
def detour : DriverRun :=
  { sample 0 with
    settings := { root := .absolute ["r"], cacheRoot := .absolute ["r", "x", "..", "cache"] } }

/-- A directory that only seems to be missing may hold a link in place of a marker. Then the marker
of a file that passes is made where the link leads, outside of the directory. -/
theorem not_leaves_of_run :
    let w : World := ⟨{ Host.holding [["r"], ["r", "cache"], ["r", "cache", "python"]]
        [(["r", "a.py"], sampleBytes)] with
      disk := ⟨(Host.holding [["r"], ["r", "cache"], ["r", "cache", "python"]]
        [(["r", "a.py"], sampleBytes)]).disk.entries ++
          [(["r", "cache", "python", "r%a.py"], .link "/r/new.txt")]⟩ }, []⟩
    let run := (detour.run (.ofPaths [.absolute ["r", "a.py"]])).run w
    w.host.Orderly ∧ detour.runner.Quiet anything ∧ detour.driver.useCache = true ∧
      w.host.stat detour.store.directory =
        .error (.system .notFound detour.store.directory.text) ∧
      (run.1.toOption.map fun o => o.summary.results.map (·.classification)) = some [.passed] ∧
      w.host.disk.node? ["r", "new.txt"] = none ∧
      run.2.host.disk.node? ["r", "new.txt"] = some (.file [] false 10) := by
  intro w run
  exact ⟨by decide, ToolRunner.quiet_answering fun _ => trivial, rfl, by decide +kernel,
    by decide +kernel, by decide +kernel, by decide +kernel⟩

end DriverRun

end OptIn
