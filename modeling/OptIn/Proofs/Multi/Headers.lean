import OptIn.Proofs.Console.Title
import OptIn.Proofs.Host.Characters
import OptIn.Proofs.Multi.Isolation
import OptIn.Proofs.Run.Aborted
import OptIn.Proofs.Tool.Launching

/-!
# Headers of drivers

Before a driver is run its name and tool are printed as the title of a section. That title is read
as marked-up text, so it is shown as it is exactly if it is not tagged
(`Console.sectionHeader_eq_literal_iff`), and a title with a tag that closes nothing ends the run of
all drivers (`MultiRun.run_tagged`). Where tools answer every command and all paths are absolute
(`MultiRun.Calm`), nothing else can come between: all titles are shown as they are, and the run
comes to its end with an entry for each driver, exactly if none is tagged
(`MultiRun.showsTitles_iff`).
-/

namespace OptIn

open Console (Clean Tagged literalHeader sectionHeader sectionHeader_eq_literal_iff)

/-! ### The journal of a run -/

namespace DriverRun

/-- Dealing with a candidate only adds to the journal. -/
theorem prefix_process (r : DriverRun) (c : Candidate) (s : Session) :
    s.world.journal <+: ((r.process c).run s).2.world.journal := by
  rcases hinvoke : (r.invoker.invoke c).run s with ⟨x, s₁⟩
  obtain ⟨xs, w₁, ⟨es, htalk, -⟩, hjournal, -⟩ := Invoker.dealt_of_run hinvoke
  obtain ⟨events, hevents, -⟩ := htalk.exists_replay
  have hgrown : s.world.journal <+: s₁.world.journal := by
    rw [hjournal, hevents]
    exact List.prefix_append _ _
  rw [process]
  rcases x with e | x
  · rwa [Action.run_bind_error hinvoke]
  · rw [Action.run_bind_ok hinvoke]
    exact hgrown.trans (List.prefix_append _ _)

theorem prefix_worldBehind (d : Driver) (seen : List Path) (p : Path) (w : World) :
    w.journal <+: (d.worldBehind seen p w).journal := by
  rw [Driver.worldBehind]
  split
  · exact List.prefix_append _ _
  · exact List.prefix_rfl

theorem prefix_trace (r : DriverRun) (seen ps : List Path) (s : Session) :
    s.world.journal <+: (r.trace seen ps s).session.world.journal := by
  induction ps generalizing seen s with
  | nil => exact List.prefix_rfl
  | cons p ps ih =>
    have hrun := Invoker.run_onWorld (Driver.run_consider_eq r.driver r.detect seen p s.world)
    have hlooked := prefix_worldBehind r.driver seen p s.world
    rw [trace, hrun]
    generalize r.driver.worldBehind seen p s.world = w at hlooked
    rcases r.driver.considered r.detect seen p s.world.host with e | _ | c
    · exact hlooked
    · exact hlooked.trans (ih (p :: seen) { s with world := w })
    · simp only
      have hprocess := r.prefix_process c { s with world := w }
      rcases hx : (r.process c).run { s with world := w } with ⟨e | x, s₁⟩
      · rw [hx] at hprocess
        exact hlooked.trans hprocess
      · rw [hx] at hprocess
        exact (hlooked.trans hprocess).trans (ih (p :: seen) s₁)

theorem prefix_finish (s : Summary) (settings : Settings) (w : World) :
    w.journal <+: ((s.finish settings).run w).2.journal := by
  rw [Summary.run_finish]
  split
  · exact List.prefix_append _ _
  · split
    · exact List.prefix_append _ _
    · exact List.prefix_rfl

/-- A run only adds to the journal. -/
theorem prefix_run (r : DriverRun) (ps : List Path) (w : World) :
    w.journal <+: ((r.run (.ofPaths ps)).run w).2.journal := by
  have htrace := r.prefix_trace [] ps ⟨w, none⟩
  have hsummarize := r.summarize_ofPaths ps w
  rw [run]
  rcases hf : (r.trace [] ps ⟨w, none⟩).fault with _ | e
  · rw [hf] at hsummarize
    rw [Action.run_bind_ok hsummarize]
    refine htrace.trans ?_
    generalize (r.trace [] ps ⟨w, none⟩).results.foldl Summary.add {} = s
    have hfinish := prefix_finish s r.settings (r.trace [] ps ⟨w, none⟩).session.world
    rcases hrun : (s.finish r.settings).run (r.trace [] ps ⟨w, none⟩).session.world with
      ⟨e | status, w'⟩
    · rw [hrun] at hfinish
      rwa [Action.run_bind_error hrun]
    · rw [hrun] at hfinish
      rwa [Action.run_bind_ok hrun]
  · rw [hf] at hsummarize
    rwa [Action.run_bind_error hsummarize]

/-! ### Runs on plain paths -/

variable {r : DriverRun} {ps : List Path} {h h' : Host} {w : World} {within : Address → Prop}

theorem Plain.grows (hp : r.Plain h ps) (hg : h.Grows within h') : r.Plain h' ps where
  orderly := hg.orderly hp.orderly
  shallow := hp.shallow.alters hg.toAlters
  root :=
    let ⟨hproper, habs, _, hs⟩ := hp.root
    ⟨hproper, habs, hg.exists_stat hp.orderly hproper hs⟩
  cacheRoot := hp.cacheRoot
  paths := hp.paths

/-- A run on plain paths, whose tool answers every command, is only ended by a fault of the
operating system. -/
theorem Plain.isSystem_of_run (hp : r.Plain w.host ps) (hq : r.runner.Quiet ToolRunner.unfailing)
    (hdetect : r.detect = shebangDetector) (hw : r.invoker.CacheWritten) {e : Fault}
    (he : ((r.run (.ofPaths ps)).run w).1 = .error e) : e.isSystem = true := by
  have hcollect := r.run_collect [] {} ps ⟨w, none⟩
  rcases hf : (r.trace [] ps ⟨w, none⟩).fault with _ | f
  · -- what plain paths come to can be shown, so there is an outcome
    rw [hf] at hcollect
    obtain ⟨o, w₁, hrun⟩ :=
      (returns_iff hcollect).mpr (hp.shown (hq.mono fun _ _ _ => trivial) hcollect)
    rw [hrun] at he
    cases he
  · rw [hf] at hcollect
    have hrun : (r.run (.ofPaths ps)).run w = (.error f, _) := run_of_collect_error rfl hcollect
    rw [hrun] at he
    cases he
    rcases (treated_trace hq [] ps ⟨w, none⟩).fault_cases hdetect hw hp.orderly
      (fun p hmem => (hp.paths p hmem).1) hf with hsystem | hquery | ⟨_, _, _, _, _, _, hcall⟩
    · exact hsystem
    · cases hquery
    · cases hcall

theorem Plain.grows_run (hp : r.Plain w.host ps) (hq : r.runner.Quiet ToolRunner.unfailing) :
    w.host.Grows (fun _ => True) ((r.run (.ofPaths ps)).run w).2.host := by
  have hcache : r.invoker.CacheProper := by
    intro cache hc
    obtain ⟨-, rfl⟩ := cache?_eq_some_iff.mp hc
    exact hp.cacheRoot.child _
  rw [host_run]
  exact ((treated_trace hq [] ps ⟨w, none⟩).grows hcache hp.orderly
    fun p hmem => (hp.paths p hmem).1).1

end DriverRun

/-! ### Titles -/

/-- The title under which a driver is run. -/
def Driver.title (d : Driver) : String := d.name ++ " (" ++ d.tool ++ ")"

theorem Driver.clean_title {d : Driver} (hname : Clean d.name) (htool : Clean d.tool) :
    Clean d.title := by
  have hopen : Clean " (" := by decide
  have hclose : Clean ")" := by decide
  intro c hc
  simp only [title, String.toList_append, List.mem_append] at hc
  rcases hc with ((hc | hc) | hc) | hc
  · exact hname c hc
  · exact hopen c hc
  · exact htool c hc
  · exact hclose c hc

theorem Console.Clean.holdsNull_eq {s : String} (h : Clean s) : holdsNull s = false := by
  rw [holdsNull, ← Bool.not_eq_true, List.contains_iff_mem]
  intro hnull
  exact absurd (h _ hnull).1 (by decide)

theorem DriverRun.cacheWritten_of_clean {r : DriverRun} (hroot : r.settings.cacheRoot.Proper)
    (hnull : holdsNull r.settings.cacheRoot.text = false) (hname : Clean r.driver.name) :
    r.invoker.CacheWritten := by
  intro cache hcache
  obtain ⟨-, rfl⟩ := cache?_eq_some_iff.mp hcache
  exact ⟨hroot.child _, Path.holdsNull_text_child hnull hname.holdsNull_eq⟩

/-! ### All drivers -/

namespace MultiRun

variable {m : MultiRun} {provider : Nat → Source} {lists : Nat → List Path} {ps : List Path}
  {call : Nat} {so so' : MultiOutcome} {d : Driver} {ds : List Driver} {w w' : World}

/-- Saying something only adds to the journal. -/
theorem prefix_of_say {tone : Console.Tone} {text : String}
    (h : (m.say tone text).run w = (.ok (), w')) : w.journal <+: w'.journal := by
  obtain rfl : w.log _ = w' := (Prod.mk.inj h).2
  exact List.prefix_append _ _

/-- A step that comes to its end has begun with printing the header of its driver. -/
theorem exists_header_of_step (h : (m.step so d (.ofPaths ps)).run w = (.ok so', w')) :
    ∃ header, sectionHeader m.settings.color d.title = .ok header ∧
      w.journal ++ [.printed .out header] <+: w'.journal := by
  obtain ⟨header, w₁, hheader, h⟩ := Action.exists_of_run_bind_ok h
  obtain ⟨_, w₂, hprint, h⟩ := Action.exists_of_run_bind_ok h
  obtain ⟨x, w₃, hattempt, h⟩ := Action.exists_of_run_bind_ok h
  have htitle : sectionHeader m.settings.color d.title = .ok header := (Prod.mk.inj hheader).1
  obtain ⟨-, rfl⟩ := Prod.mk.inj hheader
  obtain ⟨-, rfl⟩ := Prod.mk.inj hprint
  refine ⟨header, htitle, ?_⟩
  have hgrown : w.journal ++ [.printed .out header] <+: w₃.journal := by
    rw [← (Prod.mk.inj hattempt).2]
    exact (m.driverRun d).prefix_run ps (w.log (.printed .out header))
  refine hgrown.trans ?_
  rcases x with e | o
  · simp only at h
    split at h
    · obtain ⟨_, w₄, hsay, h⟩ := Action.exists_of_run_bind_ok h
      obtain ⟨-, rfl⟩ := Prod.mk.inj h
      exact prefix_of_say hsay
    · cases h
  · obtain ⟨_, w₄, htell, h⟩ := Action.exists_of_run_bind_ok h
    obtain ⟨-, rfl⟩ := Prod.mk.inj h
    rw [tellOutcome] at htell
    split at htell <;> exact prefix_of_say htell

/-- Drivers are **headed** when the step of each comes to its end, and begins with printing the
title of the driver as it is. -/
inductive Headed (m : MultiRun) (provider : Nat → Source) :
    Nat → MultiOutcome → List Driver → World → Prop
  | nil {call : Nat} {so : MultiOutcome} {w : World} : Headed m provider call so [] w
  | cons {call : Nat} {so so' : MultiOutcome} {d : Driver} {ds : List Driver} {w w' : World}
    (step : (m.step so d (provider call)).run w = (.ok so', w'))
    (header : w.journal ++ [.printed .out (literalHeader d.title)] <+: w'.journal)
    (rest : Headed m provider (call + 1) so' ds w') : Headed m provider call so (d :: ds) w

/-- The headers of drivers with their titles as they are. -/
def literalHeaders (ds : List Driver) : List Event :=
  ds.map fun d => .printed .out (literalHeader d.title)

/-- The headers of headed drivers are printed in the order of the drivers. -/
theorem Headed.exists_sublist (hh : m.Headed provider call so ds w)
    (h : (m.steps provider call so ds).run w = (.ok so', w')) :
    ∃ events, w'.journal = w.journal ++ events ∧ (literalHeaders ds).Sublist events := by
  induction hh with
  | nil =>
    obtain ⟨-, rfl⟩ := Prod.mk.inj h
    exact ⟨[], by simp, .slnil⟩
  | cons hstep hheader _ ih =>
    rw [steps, Action.run_bind_ok hstep] at h
    obtain ⟨events, hevents, hsub⟩ := ih h
    obtain ⟨more, hmore⟩ := hheader
    refine ⟨_ :: (more ++ events), ?_, (hsub.trans (List.sublist_append_right _ _)).cons_cons _⟩
    rw [hevents, ← hmore]
    simp

/-- **Drivers are headed** in steps that come to their end exactly if no title is tagged. -/
theorem headed_iff (hcolor : m.settings.color = false) (hclean : ∀ d ∈ ds, Clean d.title)
    (h : (m.steps (fun call => .ofPaths (lists call)) call so ds).run w = (.ok so', w')) :
    m.Headed (fun call => .ofPaths (lists call)) call so ds w ↔
      ∀ d ∈ ds, ¬Tagged d.title.toList := by
  induction ds generalizing call so w with
  | nil => exact ⟨fun _ => by simp, fun _ => .nil⟩
  | cons d ds ih =>
    rw [steps] at h
    obtain ⟨so₁, w₁, hstep, h⟩ := Action.exists_of_run_bind_ok h
    obtain ⟨header, hheader, hfront⟩ := exists_header_of_step hstep
    rw [hcolor] at hheader
    have hliteral := sectionHeader_eq_literal_iff (hclean d List.mem_cons_self)
    rw [List.forall_mem_cons, ← ih (fun d' hd' => hclean d' (List.mem_cons_of_mem _ hd')) h,
      ← hliteral, hheader]
    constructor
    · rintro (_ | ⟨hstep', hfront', hrest⟩)
      cases hstep.symm.trans hstep'
      have hsame := List.prefix_of_prefix_length_le hfront hfront' (by simp)
      refine ⟨?_, hrest⟩
      simpa using hsame.eq_of_length (by simp)
    · rintro ⟨heq, hrest⟩
      cases heq
      exact .cons hstep hfront hrest

/-- A run of all drivers is **calm** when the tools answer every command, and all paths can be run
on beside the root and the cache. -/
structure Calm (m : MultiRun) (lists : Nat → List Path) (w : World) : Prop where
  quiet : m.runner.Quiet ToolRunner.unfailing
  detect : m.detect = shebangDetector
  plain : ∀ d call, (m.driverRun d).Plain w.host (lists call)
  cacheRoot : holdsNull m.settings.cacheRoot.text = false

/-- The run of a driver on a host that has grown ends with a fault that can be contained, if any. -/
theorem Calm.fault_of_run (hm : m.Calm lists w) (hname : Clean d.name) (call : Nat) (w' : World)
    (hg : w.host.Grows (fun _ => True) w'.host) :
    (∀ e, (((m.driverRun d).run (.ofPaths (lists call))).run w').1 = .error e →
      e.isContained = true) ∧
    w.host.Grows (fun _ => True) (((m.driverRun d).run (.ofPaths (lists call))).run w').2.host := by
  have hplain : (m.driverRun d).Plain w'.host (lists call) := (hm.plain d call).grows hg
  have hcache := DriverRun.cacheWritten_of_clean hplain.cacheRoot hm.cacheRoot hname
  exact ⟨fun e he => Fault.isContained_of_isSystem
      (hplain.isSystem_of_run hm.quiet hm.detect hcache he),
    hg.trans (hplain.grows_run hm.quiet)⟩

/-- Drivers in a calm run whose headers can be printed all add what their runs come to. -/
theorem Calm.exists_steps (hm : m.Calm lists w) (call : Nat) (so : MultiOutcome) (w' : World)
    (hname : ∀ d ∈ ds, Clean d.name)
    (hheader : ∀ d ∈ ds, ∃ header, sectionHeader m.settings.color d.title = .ok header)
    (hnodup : (ds.map (·.name)).Nodup) (hunused : ∀ d ∈ ds, so.Unused d.name)
    (hg : w.host.Grows (fun _ => True) w'.host) :
    ∃ runs w₂, runs.map (·.1) = ds.map (·.name) ∧
      (m.steps (fun call => .ofPaths (lists call)) call so ds).run w' =
        (.ok (so.followedBy (.ofRuns runs)), w₂) := by
  refine (exists_steps_cases
    (fun d hd call w₁ hg₁ => (hm.fault_of_run (hname d hd) call w₁ hg₁).2)
    hheader hnodup hunused call hg).resolve_right ?_
  rintro ⟨e, w₂, -, hnot, d, hd, call', w₁, hg₁, he⟩
  exact hnot ((hm.fault_of_run (hname d hd) call' w₁ hg₁).1 e he)

/-- A run of all drivers **shows their titles** when it comes to its end with an entry for each, and
all of their headers are printed with the titles as they are, each one at the beginning of its
driver's step. -/
structure ShowsTitles (m : MultiRun) (provider : Nat → Source) (w : World) (so : MultiOutcome)
    (w' : World) : Prop where
  ended : (m.run provider).run w = (.ok so, w')
  entries : ∀ d ∈ m.selected, d.name ∈ so.exitCodes.map (·.1)
  printed : ∃ events, w'.journal = w.journal ++ events ∧
    (literalHeaders m.selected).Sublist events
  headed : ∃ w₁, (m.excludedNames.forM fun name =>
      m.say .info (name ++ " excluded from this run")).run w = (.ok (), w₁) ∧
    m.Headed provider 0 {} m.selected w₁

theorem prefix_of_forM_say {names : List String} {text : String → String}
    (h : (names.forM fun name => m.say .info (text name)).run w = (.ok (), w')) :
    w.journal <+: w'.journal := by
  induction names generalizing w with
  | nil =>
    obtain ⟨-, rfl⟩ := Prod.mk.inj h
    exact List.prefix_rfl
  | cons name names ih =>
    obtain ⟨_, w₁, hsay, h⟩ := Action.exists_of_run_bind_ok h
    exact (prefix_of_say hsay).trans (ih h)

theorem prefix_of_close (h : (m.close so).run w = (.ok so', w')) : w.journal <+: w'.journal := by
  rw [close] at h
  split at h
  · obtain ⟨_, w₁, hsay, h⟩ := Action.exists_of_run_bind_ok h
    obtain ⟨-, rfl⟩ := Prod.mk.inj h
    exact prefix_of_say hsay
  · obtain ⟨-, rfl⟩ := Prod.mk.inj h
    exact List.prefix_rfl

/-- **Titles are shown** in a calm run of all drivers without colour, which then comes to its end
with an entry for each driver, exactly if none of them is tagged. -/
theorem showsTitles_iff (m : MultiRun) (lists : Nat → List Path) (w : World)
    (hm : m.Calm lists w) (hcolor : m.settings.color = false)
    (hclean : ∀ d ∈ m.selected, Clean d.name ∧ Clean d.tool) :
    (∃ so w', m.ShowsTitles (fun call => .ofPaths (lists call)) w so w') ↔
      ∀ d ∈ m.selected, ¬Tagged d.title.toList := by
  have htitle : ∀ d ∈ m.selected, Clean d.title := fun d hd =>
    Driver.clean_title (hclean d hd).1 (hclean d hd).2
  obtain ⟨w₁, hsay, hhost₁⟩ :=
    m.exists_forM_say m.excludedNames (· ++ " excluded from this run") w
  constructor
  · rintro ⟨so, w', hshows⟩
    obtain ⟨w₁', hsay', hheaded⟩ := hshows.headed
    cases hsay.symm.trans hsay'
    have hended := hshows.ended
    rw [run, Action.run_bind_ok hsay] at hended
    obtain ⟨so₂, w₂, hsteps, -⟩ := Action.exists_of_run_bind_ok hended
    exact (headed_iff hcolor htitle hsteps).mp hheaded
  · intro huntagged
    have hheader : ∀ d ∈ m.selected, ∃ header,
        sectionHeader m.settings.color d.title = .ok header := fun d hd =>
      ⟨_, hcolor ▸ (sectionHeader_eq_literal_iff (htitle d hd)).mpr (huntagged d hd)⟩
    have hnodup : (m.selected.map (·.name)).Nodup :=
      m.registry.distinct.sublist (List.filter_sublist.map _)
    obtain ⟨runs, w₂, hnames, hsteps⟩ := hm.exists_steps 0 {} w₁ (fun d hd => (hclean d hd).1)
      hheader hnodup (fun _ _ => ⟨by simp, by simp⟩) (hhost₁ ▸ .refl _ _)
    rw [MultiOutcome.empty_followedBy] at hsteps
    obtain ⟨so, w₃, hclose⟩ := m.exists_close (.ofRuns runs) w₂
    have hheaded := (headed_iff hcolor htitle hsteps).mpr huntagged
    refine ⟨so, w₃, ?_, fun d hd => ?_, ?_, w₁, hsay, hheaded⟩
    · rw [run, Action.run_bind_ok hsay, Action.run_bind_ok hsteps, hclose]
    · have hmem : d.name ∈ (MultiOutcome.ofRuns runs).exitCodes.map (·.1) := by
        rw [MultiOutcome.ofRuns, List.map_map]
        exact hnames ▸ List.mem_map_of_mem hd
      rcases close_cases hclose with ⟨-, rfl⟩ | ⟨-, rfl⟩
      · exact mem_keys_setEntry hmem
      · exact hmem
    · obtain ⟨events, hevents, hsub⟩ := hheaded.exists_sublist hsteps
      obtain ⟨before, hbefore⟩ := prefix_of_forM_say hsay
      obtain ⟨behind, hbehind⟩ := prefix_of_close hclose
      refine ⟨before ++ events ++ behind, ?_,
        hsub.trans ((List.sublist_append_right _ _).trans (List.sublist_append_left _ _))⟩
      rw [← hbehind, hevents, ← hbefore]
      simp

/-! ### Brackets in titles -/

/-- Settings without colour, in `/r`. -/
def uncolored : Settings :=
  { root := .absolute ["r"], cacheRoot := .absolute ["r", "cache"], color := false }

/-- A line-up of drivers whose tools find no fault, without colour. -/
def content (drivers : List (String × String)) (hnames : (drivers.map (·.1)).Nodup) : MultiRun :=
  { lineUp drivers hnames ["r", "cache"] with
    settings := uncolored, runner := .answering fun _ => 0 }

/-- The host with a file that asks for linting, and with nothing else. -/
def plainHost : Host := .holding [["r"]] [(["r", "a.py"], DriverRun.sampleBytes)]

theorem calm_content (drivers : List (String × String)) (hnames : (drivers.map (·.1)).Nodup) :
    (content drivers hnames).Calm (fun _ => [samplePath]) ⟨plainHost, []⟩ := by
  have hroot : uncolored.root.Proper ∧ uncolored.root.isAbsolute = true ∧
      plainHost.stat uncolored.root = .ok (["r"], .directory 0) := by decide +kernel
  have hcache : uncolored.cacheRoot.Proper ∧ holdsNull uncolored.cacheRoot.text = false := by
    decide +kernel
  exact {
    quiet := ToolRunner.quiet_answering fun _ => trivial
    detect := rfl
    plain := fun d call => {
      orderly := by decide +kernel
      shallow := Host.shallow_holding _ _
      root := ⟨hroot.1, hroot.2.1, _, hroot.2.2⟩
      cacheRoot := hcache.1
      paths := by decide }
    cacheRoot := hcache.2 }

/-- Brackets around a capital or a digit are no tag, and neither are brackets that are not
closed. -/
theorem showsTitles_iff_sample :
    let m := content [("[A]", "li[nt"), ("b[0]", "l]i[n")] (by decide)
    ∃ so w', m.ShowsTitles (fun _ => .ofPaths [samplePath]) ⟨plainHost, []⟩ so w' := by
  intro m
  have hclean : ∀ d ∈ m.selected, Clean d.name ∧ Clean d.tool := by decide +kernel
  have hliteral : ∀ d ∈ m.selected,
      sectionHeader false d.title = .ok (literalHeader d.title) := by decide +kernel
  refine (showsTitles_iff m (fun _ => [samplePath]) _ (calm_content _ _) rfl hclean).mpr ?_
  intro d hd
  have htitle := Driver.clean_title (hclean d hd).1 (hclean d hd).2
  exact (sectionHeader_eq_literal_iff htitle).mp (hliteral d hd)

/-- A driver `a[b]` is announced as `a`, and a driver `[/x]` ends the run before any driver has its
turn, though nothing else is in the way of either run. -/
theorem run_tagged :
    (∃ so w', ((content [("a[b]", "lint")] (by decide)).run fun _ => .ofPaths [samplePath]).run
        ⟨plainHost, []⟩ = (.ok so, w') ∧
      w'.journal.head? = some (.printed .out "\n--- a (lint) ---\n") ∧
      .printed .out (literalHeader "a[b] (lint)") ∉ w'.journal) ∧
    (∃ w', ((content [("[/x]", "lint"), ("B", "lint")] (by decide)).run
        fun _ => .ofPaths [samplePath]).run ⟨plainHost, []⟩ =
          (.error (.badMarkup (.unopened "[/x]" 5)), w') ∧
      w'.journal = []) ∧
    (∀ name ∈ ["a[b]", "[/x]", "B", "lint"], Clean name) ∧
    ∀ drivers hnames, (content drivers hnames).Calm (fun _ => [samplePath]) ⟨plainHost, []⟩ := by
  generalize hw : World.mk plainHost [] = w
  refine ⟨?_, ⟨_, Prod.ext (hw ▸ by decide +kernel) rfl, hw ▸ by decide +kernel⟩, by decide,
    hw ▸ calm_content⟩
  have hok : (((content [("a[b]", "lint")] (by decide)).run
      fun _ => .ofPaths [samplePath]).run w).1.isOk = true := hw ▸ by decide +kernel
  rcases hrun : ((content [("a[b]", "lint")] (by decide)).run
      fun _ => .ofPaths [samplePath]).run w with ⟨e | so, w'⟩
  · rw [hrun] at hok
    cases hok
  · obtain rfl : (((content [("a[b]", "lint")] (by decide)).run
        fun _ => .ofPaths [samplePath]).run w).2 = w' := congrArg Prod.snd hrun
    exact ⟨so, _, rfl, hw ▸ by decide +kernel, hw ▸ by decide +kernel⟩

end MultiRun

end OptIn
