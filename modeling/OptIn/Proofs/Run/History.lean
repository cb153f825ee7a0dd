import OptIn.Proofs.Cache.Ledger
import OptIn.Proofs.Host.Checked
import OptIn.Proofs.Run.Progress

/-!
# Histories of a cache

A history of a cache begins before its directory is there; then, in any order, runs that use the
cache take place and files outside of it are edited. In all histories a result is called cached only
if a success stands for its file; but that may be the success of another file, with a marker of the
same name (`History.cached_iff_earned`). For files whose paths are written without `%` it is a
success of the file itself.
-/

namespace OptIn

open ToolRunner (anything)
open Host (InStore)

/-- The world after some time, though nothing else has happened. -/
def World.lapse (w : World) (n : Nat) : World :=
  { w with host := { w.host with clock := w.host.clock + (n + 1 : Nat) } }

theorem World.later_lapse (w : World) (n : Nat) : w.host.Later (w.lapse n).host :=
  ⟨_, Int.le_add_of_nonneg_right (Int.natCast_nonneg _), rfl⟩

theorem World.clock_lt_lapse (w : World) (n : Nat) : w.host.clock < (w.lapse n).host.clock :=
  Int.lt_add_of_pos_right _ (Int.natCast_pos.mpr n.succ_pos)

/-- Reporting changes nothing on the host. -/
theorem Summary.host_finish (s : Summary) (settings : Settings) (w : World) :
    ((s.finish settings).run w).2.host = w.host := by
  rw [finish]
  split
  · rfl
  · rw [Action.run_bind, report, Action.run_bind, World.run_ask]
    rcases s.lines w.host settings.root with e | ls <;> rfl

/-- The host behind a run is the one behind its trace. -/
theorem DriverRun.host_run (r : DriverRun) (ps : List Path) (w : World) :
    ((r.run (.ofPaths ps)).run w).2.host = (r.trace [] ps ⟨w, none⟩).session.world.host := by
  rw [run, Action.run_bind, summarize_ofPaths]
  rcases (r.trace [] ps ⟨w, none⟩).fault with _ | e
  · have hfinish := Summary.host_finish
      ((r.trace [] ps ⟨w, none⟩).results.foldl Summary.add {}) r.settings
      (r.trace [] ps ⟨w, none⟩).session.world
    simp only
    rw [Action.run_bind]
    rcases hx : (((r.trace [] ps ⟨w, none⟩).results.foldl Summary.add {}).finish r.settings).run
      (r.trace [] ps ⟨w, none⟩).session.world with ⟨e | status, w'⟩ <;>
    · rw [hx] at hfinish
      exact hfinish
  · rfl

namespace ResultCache

variable {c : ResultCache} {h₀ h h' : Host} {L : Ledger} {bound : Int} {p : Path} {x : LintResult}
  {within : Address → Prop}

/-- The **histories** of a cache: the ledgers and the worlds that can come about from a first world.
Before each run and each edit some time passes. A run is that of any driver which uses the cache, on
resolved paths and with a runner that changes nothing; whether it comes to its end or not, the
ledger keeps the results that it has come to. An edit writes a file outside of the cache. -/
inductive History (c : ResultCache) (w₀ : World) : Ledger → World → Prop
  | start : History c w₀ [] w₀
  | run {L w} (r : DriverRun) (ps : List Path) (n : Nat) : History c w₀ L w →
      r.cache? = some c → r.runner.Quiet anything → (∀ p ∈ ps, w.host.Resolved p) →
      History c w₀ (L ++ (r.trace [] ps ⟨w.lapse n, none⟩).results.map .judged)
        ((r.run (.ofPaths ps)).run (w.lapse n)).2
  | edit {L w h} (p : Path) (bytes : List UInt8) (executable : Bool) (n : Nat) : History c w₀ L w →
      w.host.Resolved p → w.host.Outside c.directory p →
      (Host.writeFile p bytes executable (w.lapse n).host.clock).run (w.lapse n).host =
        (.ok (), h) →
      History c w₀ (L ++ [Entry.edited p]) { w.lapse n with host := h }

/-! ### Fair results -/

/-- A result is **fair** to a ledger when it is called cached only if its file has earned it, and
always then, unless the file is skipped, lies in the cache, or was from the future at first. -/
structure Fair (c : ResultCache) (h₀ : Host) (L : Ledger) (x : LintResult) (h : Host) : Prop where
  anchor : x.candidate.path.anchor = .root
  markable : x.candidate.path.Markable
  earned : x.classification = .cached → L.Earned x.candidate.path
  cached : x.classification ≠ .skipped → h.Outside c.directory x.candidate.path →
    h₀.Aged x.candidate.path → L.Earned x.candidate.path → x.classification = .cached

/-- All results of a ledger are fair to what was there before them. -/
def AllFair (c : ResultCache) (h₀ : Host) (L : Ledger) (h : Host) : Prop :=
  ∀ L₁ x L₂, L = L₁ ++ Entry.judged x :: L₂ → c.Fair h₀ L₁ x h

theorem Fair.alters (hx : c.Fair h₀ L x h) (hg : h.Alters within h') (ho : h.Orderly)
    (hdir : c.directory.Proper) : c.Fair h₀ L x h' where
  anchor := hx.anchor
  markable := hx.markable
  earned := hx.earned
  cached hskipped hout := hx.cached hskipped (hout.of_alters hg ho hdir)

theorem AllFair.alters (hL : c.AllFair h₀ L h) (hg : h.Alters within h') (ho : h.Orderly)
    (hdir : c.directory.Proper) : c.AllFair h₀ L h' :=
  fun L₁ x L₂ heq => (hL L₁ x L₂ heq).alters hg ho hdir

theorem AllFair.judged (hL : c.AllFair h₀ L h) (hx : c.Fair h₀ L x h) :
    c.AllFair h₀ (L ++ [Entry.judged x]) h := by
  intro L₁ y L₂ heq
  rcases Ledger.append_singleton_eq_iff.mp heq with ⟨rfl, hyx, -⟩ | ⟨L₃, -, rfl⟩
  · cases hyx
    exact hx
  · exact hL L₁ y L₃ rfl

theorem AllFair.edited (hL : c.AllFair h₀ L h) (p : Path) :
    c.AllFair h₀ (L ++ [Entry.edited p]) h := by
  intro L₁ y L₂ heq
  rcases Ledger.append_singleton_eq_iff.mp heq with ⟨-, hye, -⟩ | ⟨L₃, -, rfl⟩
  · cases hye
  · exact hL L₁ y L₃ rfl

/-- While the books are in order, the cache vouches for a file only if it has earned it, and always
if it has, provided it lies outside and was not from the future. -/
theorem Books.vouches (hb : c.Books h₀ L bound h) (hdir : c.directory.Proper) (hr : h.Resolved p)
    (hf : h.isFile p = .ok true) :
    (c.vouches p h = .ok true → L.Earned p) ∧
      (h.Outside c.directory p → h₀.Aged p → L.Earned p → c.vouches p h = .ok true) := by
  have ho := hb.orderly
  obtain ⟨b, bytes, y, t, hs⟩ := Host.isFile_eq_true_iff.mp hf
  obtain rfl : b = p.parts := hr.address_eq ho hs
  have hfile : h.FileAt p.parts t := ⟨bytes, y, Host.node?_of_stat ho hr.proper hs⟩
  rcases hb.kept with ⟨hno, -, hnone⟩ | ⟨a, hshelf, hagree⟩
  · have hmark := Host.markable_of_stat ho hr.proper hs
    exact ⟨fun hv => absurd hv (vouches_ne_of_missing ho hdir hmark hno),
      fun _ _ hearned => absurd hearned (hnone p)⟩
  · rw [vouches_iff_of_shelf ho hdir hshelf hr.proper hs]
    constructor
    · rintro ⟨-, n, hn, ht⟩
      exact hagree.earned hr.anchor hn hfile ht
    · intro hout haged hearned
      obtain ⟨hfits, n, hn, hyoung⟩ :=
        hagree.young hr.anchor (hshelf.outside_iff.mp hout) haged hearned
      exact ⟨hfits, n, hn, hyoung t hfile⟩

/-- Dealing with a file keeps the books in order, and its result is fair. -/
theorem Books.invoked {i : Invoker} {answers : ToolRunner.Answers} {d : Candidate}
    {k k' : Option ToolProbe} {y : Except Fault LintResult} (hb : c.Books h₀ L bound h)
    (hlt : bound < h.clock) (hdir : c.directory.Proper) (hcache : i.cache? = some c)
    (hL : c.AllFair h₀ L h) (hr : h.Resolved d.path) (hf : h.isFile d.path = .ok true)
    (hi : i.Invoked answers d k h y k' h') :
    (∃ within, h.Alters within h') ∧ c.Books h₀ (L ++ entries y) bound h' ∧
      c.AllFair h₀ (L ++ entries y) h' := by
  have ho := hb.orderly
  obtain ⟨b, bytes, z, t, hs⟩ := Host.isFile_eq_true_iff.mp hf
  have hmark := Host.markable_of_stat ho hr.proper hs
  obtain ⟨heffect, hcalled⟩ := hi.effect hf
  obtain ⟨⟨within, hg⟩, hb'⟩ :=
    hb.effect hlt hdir hcache hmark heffect fun z hz => (hcalled z hz).1
  refine ⟨⟨within, hg⟩, hb', ?_⟩
  rcases y with e | z
  · exact (List.append_nil L).symm ▸ hL.alters hg ho hdir
  · obtain ⟨hpath, hcached⟩ := hcalled z rfl
    obtain ⟨hearned, hvouched⟩ := hb.vouches hdir hr hf
    have hv : i.vouchedBy d.path h = c.vouches d.path h := by rw [Invoker.vouchedBy, hcache]
    rw [hv, ← hpath] at hcached
    rw [← hpath] at hr hmark hearned hvouched
    refine (hL.judged ⟨hr.anchor, hmark, fun h => hearned (hcached.mp h).2, ?_⟩).alters hg ho hdir
    exact fun hskipped hout haged h => hcached.mpr ⟨hskipped, hvouched hout haged h⟩

/-- A run keeps the books in order, and all its results are fair. -/
theorem Books.treated {r : DriverRun} {seen ps : List Path} {k k' : Option ToolProbe}
    {xs : List LintResult} {e : Option Fault}
    (ht : r.Treated anything seen ps k h xs e k' h') (hcache : r.cache? = some c)
    (hdir : c.directory.Proper) (hps : ∀ p ∈ ps, h.Resolved p) (hb : c.Books h₀ L bound h)
    (hlt : bound < h.clock) (hL : c.AllFair h₀ L h) :
    c.Books h₀ (L ++ xs.map .judged) bound h' ∧ c.AllFair h₀ (L ++ xs.map .judged) h' := by
  rw [← r.cache?_invoker] at hcache
  induction ht generalizing L with
  | done => exact (List.append_nil L).symm ▸ ⟨hb, hL⟩
  | passedOver _ _ ih => exact ih (fun p hp => hps p (List.mem_cons_of_mem _ hp)) hb hlt hL
  | refused => exact (List.append_nil L).symm ▸ ⟨hb, hL⟩
  | @judged seen p ps d k h x k₁ h₁ xs e k' h' hc hi _ ih =>
    obtain ⟨heq, -, hfile⟩ := Driver.eq_of_considered hc
    obtain rfl : d.path = p := by rw [heq]
    obtain ⟨⟨within, hg⟩, hb', hL'⟩ :=
      hb.invoked hlt hdir hcache hL (hps _ List.mem_cons_self) hfile hi
    have hrest := ih (fun p hp => hg.resolved (hps p (List.mem_cons_of_mem _ hp))) hb'
      (Int.lt_of_lt_of_le hlt hg.clock) hL'
    simpa [entries] using hrest
  | @broken seen p ps d k h e k' h' hc hi =>
    obtain ⟨heq, -, hfile⟩ := Driver.eq_of_considered hc
    obtain rfl : d.path = p := by rw [heq]
    exact (hb.invoked hlt hdir hcache hL (hps _ List.mem_cons_self) hfile hi).2

/-- In every history the books are in order, and all results are fair. -/
theorem History.books {w₀ w : World} (hh : c.History w₀ L w) (hdir : c.directory.Proper)
    (ho : w₀.host.Orderly) (hno : w₀.host.isDirectory c.directory ≠ .ok true)
    (hstraight : w₀.host.Straight c.directory) :
    c.Books w₀.host L w.host.clock w.host ∧ c.AllFair w₀.host L w.host := by
  -- between two events the bound is the present; a run is later, so its markers are younger than
  -- all files
  induction hh with
  | start => exact ⟨.start ho hno hstraight, fun L₁ x L₂ heq => by simp at heq⟩
  | @run L w r ps n _ hcache hq hps ih =>
    obtain ⟨hb, hL⟩ := ih
    have hl := w.later_lapse n
    have hg := (hl.grows fun _ => False).toAlters
    obtain ⟨hb', hL'⟩ := Books.treated (DriverRun.treated_trace hq [] ps ⟨w.lapse n, none⟩) hcache
      hdir (fun p hp => hg.resolved (hps p hp)) (hb.later hl) (w.clock_lt_lapse n)
      (hL.alters hg hb.orderly hdir)
    rw [r.host_run]
    exact ⟨hb'.mono hb'.bound_le (Int.le_refl _), hL'⟩
  | @edit L w h p bytes executable n _ hr hout hrun ih =>
    obtain ⟨hb, hL⟩ := ih
    have hl := w.later_lapse n
    have hg := (hl.grows fun _ => False).toAlters
    have hb₁ := hb.later hl
    have he := Host.edited_of_writeFile hb₁.orderly (hg.resolved hr) hrun
    have hout₁ : (w.lapse n).host.Outside c.directory p :=
      fun a t hs => hout a t (hl.stat_eq _ ▸ hs)
    refine ⟨hb₁.edited hdir he hr.anchor hout₁, ?_⟩
    exact ((hL.alters hg hb.orderly hdir).edited p).alters he.toAlters hb₁.orderly hdir

/-- The history of two runs on a file each, one tick apart. -/
theorem History.of_two_runs {r : DriverRun} {w₀ w₁ : World} (p q : Path)
    (y z : Classification × Path) (hcache : r.cache? = some c) (hr : r.runner.Quiet anything)
    (hp : w₀.host.Resolved p) (hw₁ : ((r.run (.ofPaths [p])).run (w₀.lapse 0)).2 = w₁)
    (hq : w₁.host.Resolved q)
    (hy : (r.trace [] [p] ⟨w₀.lapse 0, none⟩).results.map
      (fun x => (x.classification, x.candidate.path)) = [y])
    (hz : (r.trace [] [q] ⟨w₁.lapse 0, none⟩).results.map
      (fun x => (x.classification, x.candidate.path)) = [z]) :
    ∃ x x' w, c.History w₀ ([Entry.judged x] ++ [Entry.judged x']) w ∧
      (x.classification, x.candidate.path) = y ∧ (x'.classification, x'.candidate.path) = z := by
  obtain ⟨x, hx, hxy⟩ := List.map_eq_singleton_iff.mp hy
  obtain ⟨x', hx', hxz⟩ := List.map_eq_singleton_iff.mp hz
  have hfirst := History.start.run r [p] 0 hcache hr (by simpa using hp)
  rw [hx, hw₁] at hfirst
  have hboth := hfirst.run r [q] 0 hcache hr (by simpa using hq)
  rw [hx'] at hboth
  exact ⟨x, x', _, hboth, hxy, hxz⟩

/-- **What cached results stand on.** In every history that begins before the directory of the cache
is there, each result that is called cached has been earned by its file: a success stands for it,
though maybe that of another file with a marker of the same name. Whoever has earned it is called
cached, unless the file is skipped, lies in the cache, or was from the future at first. If no path
that has got a result is written with `%`, the success is one of the file itself. -/
theorem History.cached_iff_earned {w₀ w : World} {L₁ L₂ : Ledger}
    (hh : c.History w₀ (L₁ ++ Entry.judged x :: L₂) w) (hdir : c.directory.Proper)
    (ho : w₀.host.Orderly) (hno : w₀.host.isDirectory c.directory ≠ .ok true)
    (hstraight : w₀.host.Straight c.directory) :
    (x.classification = .cached → L₁.Earned x.candidate.path) ∧
      (x.classification ≠ .skipped → w.host.Outside c.directory x.candidate.path →
        w₀.host.Aged x.candidate.path → L₁.Earned x.candidate.path →
          x.classification = .cached) ∧
      ((∀ y, Entry.judged y ∈ L₁ ++ [Entry.judged x] →
          ∀ s ∈ y.candidate.path.parts, '%' ∉ s.toList) →
        x.classification = .cached → L₁.Stands x.candidate.path x.candidate.path) := by
  obtain ⟨-, hL⟩ := hh.books hdir ho hno hstraight
  have hx := hL L₁ x L₂ rfl
  refine ⟨hx.earned, hx.cached, fun hplain hcached => ?_⟩
  obtain ⟨q, hkey, hstands⟩ := hx.earned hcached
  obtain ⟨L₃, y, L₄, rfl, hpassed, rfl, hnot⟩ := hstands
  have hy := hL L₃ y (L₄ ++ Entry.judged x :: L₂) (by simp)
  have hparts := parts_eq_of_cacheKey_eq_cacheKey hy.markable.proper hx.markable.proper
    hy.markable.ne_nil hx.markable.ne_nil (hplain y (by simp)) (hplain x (by simp)) hkey
  have hpath := Path.ext (hy.anchor.trans hx.anchor.symm) hparts
  exact ⟨L₃, y, L₄, rfl, hpassed, hpath, hnot⟩

/-- A file that has passed is called cached in the next run, on the strength of its own success. -/
theorem History.cached_iff_earned_sample : ∃ x x' w,
    (DriverRun.sample 0).store.History
      ⟨.holding [["r"]] [(["r", "b.py"], DriverRun.sampleBytes)], []⟩
      ([Entry.judged x] ++ [Entry.judged x']) w ∧
    x'.candidate.path = .absolute ["r", "b.py"] ∧ x'.classification = .cached ∧
    Ledger.Stands [.judged x] x'.candidate.path x'.candidate.path := by
  generalize hw₀ : World.mk _ [] = w₀
  generalize hw₁ : (((DriverRun.sample 0).run (.ofPaths [.absolute ["r", "b.py"]])).run
    (w₀.lapse 0)).2 = w₁
  obtain ⟨x, x', w, hh, hx, hx'⟩ := History.of_two_runs (.absolute ["r", "b.py"])
    (.absolute ["r", "b.py"]) (.passed, .absolute ["r", "b.py"])
    (.cached, .absolute ["r", "b.py"]) (rfl : (DriverRun.sample 0).cache? = _)
    (ToolRunner.quiet_answering fun _ => trivial) (hw₀ ▸ by decide +kernel) hw₁
    (hw₁ ▸ hw₀ ▸ by decide +kernel) (hw₀ ▸ by decide +kernel) (hw₁ ▸ hw₀ ▸ by decide +kernel)
  obtain ⟨hpassed, hpath⟩ := Prod.mk.inj hx
  obtain ⟨hcached, hpath'⟩ := Prod.mk.inj hx'
  obtain ⟨-, -, hself⟩ := History.cached_iff_earned hh (by decide) (hw₀ ▸ by decide +kernel)
    (hw₀ ▸ by decide +kernel) fun parts hparts => by
      have hmem := hparts.subset (by simp : ".." ∈ parts ++ [".."])
      exact absurd hmem (by decide)
  refine ⟨x, x', w, hh, hpath', hcached, hself (fun y hy s hs => ?_) hcached⟩
  have hy' : y.candidate.path = .absolute ["r", "b.py"] := by
    rcases List.mem_append.mp hy with hy | hy
    · cases List.mem_singleton.mp hy
      exact hpath
    · cases List.mem_singleton.mp hy
      exact hpath'
  rw [hy'] at hs
  rcases List.mem_pair.mp hs with rfl | rfl <;> decide

/-- A file that has never been linted is called cached when another file, with a marker of the same
name, has passed. -/
theorem History.cached_without_stands : ∃ w₀ x x' w, w₀.host.Orderly ∧
    w₀.host.isDirectory (DriverRun.sample 0).store.directory ≠ .ok true ∧
    (DriverRun.sample 0).store.History w₀ ([Entry.judged x] ++ [Entry.judged x']) w ∧
    x.candidate.path = .absolute ["r", "a", "b.py"] ∧
    x'.candidate.path = .absolute ["r", "a%b.py"] ∧ x'.classification = .cached ∧
    ¬Ledger.Stands [.judged x] x'.candidate.path x'.candidate.path := by
  generalize hw₀ : World.mk (.holding [["r"], ["r", "a"]]
    [(["r", "a", "b.py"], DriverRun.sampleBytes),
      (["r", "a%b.py"], DriverRun.sampleBytes)]) [] = w₀
  generalize hw₁ : (((DriverRun.sample 0).run (.ofPaths [.absolute ["r", "a", "b.py"]])).run
    (w₀.lapse 0)).2 = w₁
  obtain ⟨x, x', w, hh, hx, hx'⟩ := History.of_two_runs (.absolute ["r", "a", "b.py"])
    (.absolute ["r", "a%b.py"]) (.passed, .absolute ["r", "a", "b.py"])
    (.cached, .absolute ["r", "a%b.py"]) (rfl : (DriverRun.sample 0).cache? = _)
    (ToolRunner.quiet_answering fun _ => trivial) (hw₀ ▸ by decide +kernel) hw₁
    (hw₁ ▸ hw₀ ▸ by decide +kernel) (hw₀ ▸ by decide +kernel) (hw₁ ▸ hw₀ ▸ by decide +kernel)
  obtain ⟨hpassed, hpath⟩ := Prod.mk.inj hx
  obtain ⟨hcached, hpath'⟩ := Prod.mk.inj hx'
  refine ⟨w₀, x, x', w, hw₀ ▸ by decide +kernel, hw₀ ▸ by decide +kernel, hh, hpath, hpath',
    hcached, fun hstands => ?_⟩
  have honly : Ledger.Stands ([] ++ [Entry.judged x]) x'.candidate.path x'.candidate.path := hstands
  rcases Ledger.stands_append_judged.mp honly with ⟨-, hsame⟩ | hnil
  · rw [hpath, hpath'] at hsame
    exact absurd hsame (by decide)
  · exact Ledger.not_stands_nil hnil

end ResultCache

end OptIn
