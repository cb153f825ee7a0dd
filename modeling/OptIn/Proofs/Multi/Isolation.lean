import OptIn.Proofs.Multi.ExitCode
import OptIn.Proofs.Run.Abreast
import OptIn.Proofs.Run.Faults
import OptIn.Proofs.Run.History

/-!
# The runs of the drivers are independent

What the run of all drivers comes to for one of them is what the run of that driver alone comes to,
on the host as it was at the beginning. Other drivers do no more to the host than to let time pass
and to file successes in their own drawers of the cache (`DriverRun.run_on_sequel`), so the outcome
of the whole can be put together from lone runs (`MultiRun.Independent.run_eq_eachAlone`). Where one
of the things that this asks for is missing, drivers can be entangled
(`MultiRun.entangled_situations`).
-/

namespace OptIn

open Host (Sequel Fair)
open ToolRunner (Exactly)

/-! ### One driver, at once and after others -/

namespace Host

/-- The drawer of a driver is **free** for it when the name of the driver is fit for a directory,
and no links are in the way. -/
structure FreeFor (h : Host) (root : Path) (d : Driver) : Prop where
  fair : Fair d.name
  links : ∀ c, h.BelongsAt root c → h.LinkFree (c ++ [d.name])

end Host

namespace DriverRun

variable {r : DriverRun} {answer : Call → Except Fault Completed} {w w' : World}
  {untouched : String → Prop} {ps : List Path}

/-- Before its run, the drawer of a driver is as it was at the beginning. -/
theorem abreast_start (ho : w.host.Orderly) (hsited : w.host.Sited r.settings.cacheRoot)
    (hfree : r.driver.useCache = true → w.host.FreeFor r.settings.cacheRoot r.driver)
    (hs : Sequel r.settings.cacheRoot untouched w.host w'.host)
    (hname : untouched r.driver.name) :
    r.Abreast w.host (fun name => untouched name ∧ name ≠ r.driver.name) ps [] ps w.host
      w'.host where
  whole := rfl
  left := .refl _ _ _
  right := hs.mono fun _ hname => hname.1
  cache huse := by
    obtain ⟨hfair, hlinks⟩ := hfree huse
    rcases Sequel.drawer_or_shut hsited ho hfair hlinks
      (Abreast.directory_store (r := r) hfair.proper) with ⟨hl, c, hd⟩ | hshut
    · exact .inr ⟨hl, c, hd.cabinet, hd, hs.drawer hd hname, hs.alike hd.cabinet hname _ _⟩
    · exact .inl (hshut _ hs hname)

theorem cacheWritten (hsited : w.host.Sited r.settings.cacheRoot)
    (hfree : r.driver.useCache = true → w.host.FreeFor r.settings.cacheRoot r.driver) :
    r.invoker.CacheWritten := by
  intro cache hcache
  obtain ⟨huse, rfl⟩ := cache?_eq_some_iff.mp hcache
  have hfair := (hfree huse).fair
  rw [Abreast.directory_store hfair.proper, Path.holdsNull_text_down, hsited.noNull, hfair.noNull]
  exact ⟨hsited.proper.down hfair.proper, rfl⟩

/-- The report of a run can be written where it began on a sequel of a host. -/
theorem fst_run_of_grows {within : Address → Prop} (hq : r.runner.Quiet (Exactly answer))
    (hw : r.invoker.CacheWritten) (ho : w.host.Orderly) (hg : w.host.Grows within w'.host)
    (hroot : w.host.Reachable r.settings.root) (hps : ∀ p ∈ ps, w.host.Resolved p) :
    ((r.run (.ofPaths ps)).run w').1 = r.outcomeOf (r.trace [] ps ⟨w', none⟩) := by
  refine fst_run_eq_outcomeOf fun _ => ?_
  have ho' := hg.orderly ho
  obtain ⟨hg', hfiles⟩ := (treated_trace hq [] ps ⟨w', none⟩).grows hw.proper ho'
    fun p hp => (hps p hp).proper
  refine ⟨((hroot.grows hg ho).2.grows hg' ho').2, fun x hx => ?_⟩
  obtain ⟨hmem, hf⟩ := hfiles x hx
  obtain ⟨a, bytes, y, t, hstat⟩ := Host.isFile_eq_true_iff.mp hf
  exact (hg'.resolved (hg.resolved (hps _ hmem))).reachable hstat

/-- **One driver, after others.** With a runner that changes nothing and answers each command in its
own way, a run comes to the same as at the beginning, it files nothing in drawers other than its
own, and the fault that ends it, if one does, can be contained. -/
theorem run_on_sequel (w' : World) (hq : r.runner.Quiet (Exactly answer))
    (hanswer : ∀ c e, answer c = .error e → e.isContained = true)
    (hdetect : r.detect = shebangDetector) (ho : w.host.Orderly)
    (hroot : w.host.Reachable r.settings.root) (hsited : w.host.Sited r.settings.cacheRoot)
    (hfree : r.driver.useCache = true → w.host.FreeFor r.settings.cacheRoot r.driver)
    (hlist : w.host.Listing r.settings.cacheRoot ps)
    (hs : Sequel r.settings.cacheRoot untouched w.host w'.host)
    (hname : untouched r.driver.name) :
    ((r.run (.ofPaths ps)).run w').1 = ((r.run (.ofPaths ps)).run w).1 ∧
      (∀ e, ((r.run (.ofPaths ps)).run w).1 = .error e → e.isContained = true) ∧
      Sequel r.settings.cacheRoot (fun name => untouched name ∧ name ≠ r.driver.name) w.host
        ((r.run (.ofPaths ps)).run w').2.host := by
  have hw := cacheWritten hsited hfree
  have ht := treated_trace hq [] ps ⟨w, none⟩
  have ht' := treated_trace hq [] ps ⟨w', none⟩
  have hfst := fst_run_of_grows hq hw ho (.refl (fun _ => False) w.host) hroot hlist.resolved
  have hfst' := fst_run_of_grows hq hw ho hs.grows hroot hlist.resolved
  -- the run at the beginning and the run on the sequel take the same steps
  obtain ⟨hresults, hfault, seen, rest, hend⟩ :=
    (lockstep_abreast ho hlist hdetect fun h => h.2 rfl).results_eq ht ht'
      (abreast_start ho hsited hfree hs hname)
  refine ⟨?_, fun e he => ?_, ?_⟩
  · rw [hfst, hfst', outcomeOf, outcomeOf, hresults, hfault]
  · rw [hfst, outcomeOf] at he
    rcases hf : (r.trace [] ps ⟨w, none⟩).fault with _ | f
    · rw [hf] at he
      cases he
    · rw [hf] at he
      cases he
      have hcases := ht.fault_cases hdetect hw ho (fun p hp => (hlist.resolved p hp).proper) hf
      rcases hcases with hsystem | hquery | ⟨p, -, h, call, -, -, hcall⟩
      · simp [Fault.isContained, hsystem]
      · exact hanswer _ _ hquery.symm
      · exact hanswer _ _ hcall.symm
  · rw [host_run]
    exact hend.right

end DriverRun

/-! ### All drivers -/

namespace MultiOutcome

/-- The outcome of runs that have been made one by one, each under the name of its driver. -/
def ofRuns (runs : List (String × Except Fault DriverOutcome)) : MultiOutcome where
  outcomes := runs.filterMap (·.2.toOption)
  errors := runs.filterMap fun x =>
    match x.2 with
    | .ok _ => none
    | .error e => some (x.1, e.message)
  exitCodes := runs.map fun x =>
    (x.1, match x.2 with
      | .ok o => o.status.code
      | .error _ => ExitStatus.lintFailure.code)

/-- An outcome followed by that of further drivers. -/
def followedBy (so next : MultiOutcome) : MultiOutcome where
  outcomes := so.outcomes ++ next.outcomes
  errors := so.errors ++ next.errors
  exitCodes := so.exitCodes ++ next.exitCodes

variable {so : MultiOutcome} {name : String} {x : Except Fault DriverOutcome}
  {runs : List (String × Except Fault DriverOutcome)}

theorem followedBy_nil : so.followedBy (ofRuns []) = so := by simp [followedBy, ofRuns]

theorem empty_followedBy : MultiOutcome.followedBy {} so = so := rfl

theorem followedBy_cons : (so.followedBy (ofRuns [(name, x)])).followedBy (ofRuns runs) =
    so.followedBy (ofRuns ((name, x) :: runs)) := by
  rcases x with e | o <;> simp [followedBy, ofRuns, Except.toOption]

/-- A name under which an outcome has nothing yet. -/
structure Unused (so : MultiOutcome) (name : String) : Prop where
  errors : name ∉ so.errors.map (·.1)
  exitCodes : name ∉ so.exitCodes.map (·.1)

theorem Unused.followedBy {other : String} (hu : so.Unused other) (hne : other ≠ name) :
    (so.followedBy (ofRuns [(name, x)])).Unused other := by
  obtain ⟨herrors, hcodes⟩ := hu
  rcases x with e | o
  · constructor <;> simp_all [MultiOutcome.followedBy, ofRuns]
  · constructor <;> simp_all [MultiOutcome.followedBy, ofRuns]

end MultiOutcome

theorem Console.exists_sectionHeader {s : String} (h : '[' ∉ s.toList) (color : Bool) :
    ∃ header, sectionHeader color s = .ok header := by
  have hline : '[' ∉ ("\n--- " ++ s ++ " ---").toList := by simp [h]
  rw [sectionHeader]
  split
  · split
    · exact ⟨_, rfl⟩
    · rw [plainText_of_not_mem h]
      exact ⟨_, rfl⟩
  · rw [plainText_of_not_mem hline]
    exact ⟨_, rfl⟩

namespace MultiRun

variable {m : MultiRun} {answer : Call → Except Fault Completed} {w w' : World}
  {ps : List Path} {d : Driver} {ds : List Driver} {so : MultiOutcome}

/-- What the run of one driver alone comes to. -/
def alone (m : MultiRun) (ps : List Path) (w : World) (d : Driver) : Except Fault DriverOutcome :=
  (((m.driverRun d).run (.ofPaths ps)).run w).1

/-- What drivers come to, each alone on the same world. -/
def eachAlone (m : MultiRun) (ps : List Path) (w : World) (ds : List Driver) : MultiOutcome :=
  .ofRuns (ds.map fun d => (d.name, m.alone ps w d))

/-- What drivers need to be run **independently** of each other: a runner that changes nothing and
whose answers depend on the command alone, a root that is there, a well sited cache with room for
the drivers that use it, and paths that can be run on beside it. -/
structure Independent (m : MultiRun) (answer : Call → Except Fault Completed) (ps : List Path)
    (w : World) : Prop where
  orderly : w.host.Orderly
  quiet : m.runner.Quiet (Exactly answer)
  contained : ∀ c e, answer c = .error e → e.isContained = true
  detect : m.detect = shebangDetector
  root : w.host.Reachable m.settings.root
  sited : w.host.Sited m.settings.cacheRoot
  listing : w.host.Listing m.settings.cacheRoot ps
  title : ∀ d ∈ m.selected, '[' ∉ d.name.toList ∧ '[' ∉ d.tool.toList
  free : ∀ d ∈ m.selected, d.useCache = true → w.host.FreeFor m.settings.cacheRoot d

theorem host_run_say (tone : Console.Tone) (s : String) (w : World) :
    ∃ w', (m.say tone s).run w = (.ok (), w') ∧ w'.host = w.host := ⟨_, rfl, rfl⟩

theorem host_run_tellOutcome (o : DriverOutcome) (w : World) :
    ∃ w', (m.tellOutcome o).run w = (.ok (), w') ∧ w'.host = w.host := by
  rw [tellOutcome]
  split <;> exact host_run_say _ _ _

/-- The header of a driver whose name and tool hold no opening bracket can be printed. -/
theorem exists_header (htitle : '[' ∉ d.name.toList ∧ '[' ∉ d.tool.toList) : ∃ header,
    Console.sectionHeader m.settings.color (d.name ++ " (" ++ d.tool ++ ")") = .ok header :=
  Console.exists_sectionHeader (by simp [htitle]) m.settings.color

/-- The step of a driver whose header can be printed adds what its run comes to, under a name that
is not used yet, unless that is a fault that cannot be contained. -/
theorem exists_step_cases (hheader : ∃ header,
      Console.sectionHeader m.settings.color (d.name ++ " (" ++ d.tool ++ ")") = .ok header)
    (hunused : so.Unused d.name) (source : Source) (w : World) :
    ∃ w₁ w₂, w₁.host = w.host ∧ w₂.host = (((m.driverRun d).run source).run w₁).2.host ∧
      ((∀ e, (((m.driverRun d).run source).run w₁).1 = .error e → e.isContained = true) →
        (m.step so d source).run w =
          (.ok (so.followedBy (.ofRuns [(d.name, (((m.driverRun d).run source).run w₁).1)])),
            w₂)) ∧
      ∀ e, (((m.driverRun d).run source).run w₁).1 = .error e → ¬e.isContained = true →
        (m.step so d source).run w = (.error e, w₂) := by
  obtain ⟨header, hheader⟩ := hheader
  have hlift : (liftM (Except.ok header : Except Fault String) : Action World String).run w =
      (.ok header, w) := rfl
  have hprint : (World.print .out header).run w = (.ok (), w.log (.printed .out header)) := rfl
  -- the run of the driver begins when its header has been printed
  refine ⟨w.log (.printed .out header), ?_⟩
  rw [step, hheader, Action.run_bind_ok hlift, Action.run_bind_ok hprint,
    Action.run_bind_ok (Action.run_attempt _ _)]
  rcases hrun : ((m.driverRun d).run source).run (w.log (.printed .out header)) with ⟨e | o, w₁⟩
  · by_cases hcontained : e.isContained = true
    · obtain ⟨w₂, hsay, hhost⟩ := m.host_run_say .failure (d.name ++ ": " ++ e.message) w₁
      refine ⟨w₂, rfl, hhost, fun _ => ?_, fun e' he hnot => ?_⟩
      · simp only [hcontained, if_true]
        rw [Action.run_bind_ok hsay]
        simp only [Action.run_pure, setEntry_of_not_mem hunused.errors,
          setEntry_of_not_mem hunused.exitCodes]
        simp [MultiOutcome.followedBy, MultiOutcome.ofRuns, Except.toOption]
      · cases he
        exact absurd hcontained hnot
    · refine ⟨w₁, rfl, rfl, fun hall => absurd (hall e rfl) hcontained, fun e' he _ => ?_⟩
      cases he
      simp only [hcontained]
      rfl
  · obtain ⟨w₂, htell, hhost⟩ := m.host_run_tellOutcome o w₁
    refine ⟨w₂, rfl, hhost, fun _ => ?_, fun e he => by cases he⟩
    simp only
    rw [Action.run_bind_ok htell]
    simp only [Action.run_pure, setEntry_of_not_mem hunused.exitCodes]
    simp [MultiOutcome.followedBy, MultiOutcome.ofRuns, Except.toOption]

/-- Drivers whose headers can be printed all add what their runs come to, unless one of these comes
to a fault that cannot be contained, which ends everything. The run of each begins on a host with
whatever property their runs keep. -/
theorem exists_steps_cases {keeps : Host → Prop} {provider : Nat → Source}
    (hkeeps : ∀ d ∈ ds, ∀ call (w : World), keeps w.host →
      keeps (((m.driverRun d).run (provider call)).run w).2.host)
    (hheader : ∀ d ∈ ds, ∃ header,
      Console.sectionHeader m.settings.color (d.name ++ " (" ++ d.tool ++ ")") = .ok header)
    (hnodup : (ds.map (·.name)).Nodup) (hunused : ∀ d ∈ ds, so.Unused d.name) (call : Nat)
    (hw : keeps w.host) :
    (∃ runs w', runs.map (·.1) = ds.map (·.name) ∧
      (m.steps provider call so ds).run w = (.ok (so.followedBy (.ofRuns runs)), w')) ∨
    ∃ e w', (m.steps provider call so ds).run w = (.error e, w') ∧ ¬e.isContained = true ∧
      ∃ d ∈ ds, ∃ (call' : Nat) (w₁ : World), keeps w₁.host ∧
        (((m.driverRun d).run (provider call')).run w₁).1 = .error e := by
  induction ds generalizing call so w with
  | nil => exact .inl ⟨[], w, rfl, by rw [MultiOutcome.followedBy_nil]; rfl⟩
  | cons d ds ih =>
    obtain ⟨hnew, hnodup⟩ := List.nodup_cons.mp hnodup
    obtain ⟨w₁, w₂, hhost₁, hhost₂, hstep, hbroken⟩ := exists_step_cases
      (hheader d List.mem_cons_self) (hunused d List.mem_cons_self) (provider call) w
    have hw₁ : keeps w₁.host := hhost₁ ▸ hw
    by_cases hcontained : ∀ e, (((m.driverRun d).run (provider call)).run w₁).1 = .error e →
        e.isContained = true
    · have hw₂ : keeps w₂.host := hhost₂ ▸ hkeeps d List.mem_cons_self call w₁ hw₁
      have hother : ∀ d' ∈ ds, d'.name ≠ d.name := by
        intro d' hd' heq
        exact hnew (List.mem_map.mpr ⟨d', hd', heq⟩)
      rw [steps, Action.run_bind_ok (hstep hcontained)]
      rcases ih (fun d' hd' => hkeeps d' (List.mem_cons_of_mem _ hd'))
        (fun d' hd' => hheader d' (List.mem_cons_of_mem _ hd')) hnodup
        (fun d' hd' => (hunused d' (List.mem_cons_of_mem _ hd')).followedBy (hother d' hd'))
        (call + 1) hw₂ with ⟨runs, w₃, hnames, hrun⟩ | ⟨e, w₃, hrun, hnot, d', hd', hfault⟩
      · rw [MultiOutcome.followedBy_cons] at hrun
        exact .inl ⟨_, w₃, by rw [List.map_cons, List.map_cons, hnames], hrun⟩
      · exact .inr ⟨e, w₃, hrun, hnot, d', List.mem_cons_of_mem _ hd', hfault⟩
    · -- the drivers behind this one are never run
      simp only [not_forall] at hcontained
      obtain ⟨e, he, hnot⟩ := hcontained
      refine .inr ⟨e, w₂, ?_, hnot, d, List.mem_cons_self, call, w₁, hw₁, he⟩
      rw [steps, Action.run_bind_error (hbroken e he hnot)]

/-- The drivers to come need nothing but that their names are unused and their drawers untouched. -/
theorem Independent.exists_steps (hi : m.Independent answer ps w) (call : Nat)
    (so : MultiOutcome) (w' : World) (hds : ∀ d ∈ ds, d ∈ m.selected)
    (hnodup : (ds.map (·.name)).Nodup) (hunused : ∀ d ∈ ds, so.Unused d.name)
    (hs : Sequel m.settings.cacheRoot (· ∈ ds.map (·.name)) w.host w'.host) :
    ∃ w₂, (m.steps (fun _ => .ofPaths ps) call so ds).run w' =
      (.ok (so.followedBy (m.eachAlone ps w ds)), w₂) := by
  induction ds generalizing call so w' with
  | nil => exact ⟨w', by rw [eachAlone, List.map_nil, MultiOutcome.followedBy_nil]; rfl⟩
  | cons d ds ih =>
    have hd := hds d List.mem_cons_self
    obtain ⟨hnew, hnodup⟩ := List.nodup_cons.mp hnodup
    have hrun := fun (w₁ : World) (hw₁ : w₁.host = w'.host) =>
      (m.driverRun d).run_on_sequel w₁ hi.quiet hi.contained hi.detect hi.orderly hi.root
        hi.sited (hi.free d hd) hi.listing (hw₁ ▸ hs) List.mem_cons_self
    obtain ⟨w₁, w₂, hhost₁, hhost₂, hstep, -⟩ := exists_step_cases
      (exists_header (hi.title d hd)) (hunused d List.mem_cons_self) (.ofPaths ps) w'
    -- it comes to what it comes to alone, and leaves the drawers of those to come untouched
    obtain ⟨hsame, hcontained, hsequel⟩ := hrun w₁ hhost₁
    have hstep := hstep fun e he => hcontained e (hsame ▸ he)
    rw [← hhost₂] at hsequel
    have hother : ∀ {name}, name ∈ ds.map (·.name) → name ≠ d.name := by
      rintro name hname rfl
      exact hnew hname
    obtain ⟨w₃, hsteps⟩ := ih (call + 1) (so.followedBy (.ofRuns [(d.name, m.alone ps w d)])) w₂
      (fun d' hd' => hds d' (List.mem_cons_of_mem _ hd')) hnodup
      (fun d' hd' => (hunused d' (List.mem_cons_of_mem _ hd')).followedBy
        (hother (List.mem_map_of_mem hd')))
      (hsequel.mono fun name hname => ⟨List.mem_cons_of_mem _ hname, hother hname⟩)
    refine ⟨w₃, ?_⟩
    rw [steps, Action.run_bind_ok hstep, hsame]
    exact hsteps.trans (by rw [eachAlone, eachAlone, MultiOutcome.followedBy_cons, List.map_cons])

theorem exists_forM_say (names : List String) (text : String → String) (w : World) :
    ∃ w', (names.forM fun name => m.say .info (text name)).run w = (.ok (), w') ∧
      w'.host = w.host := by
  induction names generalizing w with
  | nil => exact ⟨w, rfl, rfl⟩
  | cons name names ih =>
    obtain ⟨w₁, hsay, hhost₁⟩ := m.host_run_say .info (text name) w
    obtain ⟨w₂, hrest, hhost₂⟩ := ih w₁
    exact ⟨w₂, (Action.run_bind_ok hsay).trans hrest, hhost₂.trans hhost₁⟩

theorem exists_close (m : MultiRun) (so : MultiOutcome) (w : World) :
    ∃ so' w', (m.close so).run w = (.ok so', w') := by
  rw [close]
  split
  · exact ⟨_, _, rfl⟩
  · exact ⟨_, _, rfl⟩

/-- **Drivers are independent**. The run of all drivers raises no fault, and each driver that is not
excluded comes to what it comes to alone on the world as it is at the beginning: an outcome with its
status, or a fault, whose message is kept with the status of a failure. Apart from that, no more is
told than the status of a run without candidates. -/
theorem Independent.run_eq_eachAlone (hi : m.Independent answer ps w) :
    ∃ so w', (m.run fun _ => .ofPaths ps).run w = (.ok so, w') ∧
      so.outcomes = (m.eachAlone ps w m.selected).outcomes ∧
      so.errors = (m.eachAlone ps w m.selected).errors ∧
      so.exitCodes =
        if m.settings.requireCandidates = true ∧ so.errors = [] ∧ so.results = [] then
          setEntry wholeKey ExitStatus.noCandidates.code (m.eachAlone ps w m.selected).exitCodes
        else (m.eachAlone ps w m.selected).exitCodes := by
  have hnodup : (m.selected.map (·.name)).Nodup :=
    m.registry.distinct.sublist (List.filter_sublist.map _)
  obtain ⟨w₁, hsay, hhost₁⟩ :=
    m.exists_forM_say m.excludedNames (· ++ " excluded from this run") w
  obtain ⟨w₂, hsteps⟩ := hi.exists_steps 0 {} w₁ (fun _ h => h) hnodup
    (fun _ _ => ⟨by simp, by simp⟩) (hhost₁ ▸ .refl _ _ _)
  rw [MultiOutcome.empty_followedBy] at hsteps
  obtain ⟨so, w₃, hclose⟩ := m.exists_close (m.eachAlone ps w m.selected) w₂
  refine ⟨so, w₃, ?_, ?_⟩
  · rw [run, Action.run_bind_ok hsay, Action.run_bind_ok hsteps, hclose]
  · rcases close_cases hclose with ⟨hnone, rfl⟩ | ⟨hsome, rfl⟩
    · exact ⟨rfl, rfl, (if_pos hnone).symm⟩
    · exact ⟨rfl, rfl, (if_neg hsome).symm⟩

/-! ### Line-ups -/

/-- The answers of tools that all succeed, but for one that cannot be started. -/
def sampleAnswer (c : Call) : Except Fault Completed :=
  if c.command.head? = some "broken" then .error (.system .permission "broken")
  else .ok { command := c.command, status := 0 }

/-- The runner that gives these answers and takes a tick for each. -/
def sampleRunner : ToolRunner := fun w c =>
  { outcome := sampleAnswer c, host := { w.host with clock := w.host.clock + 1 } }

theorem quiet_sampleRunner : sampleRunner.Quiet (Exactly sampleAnswer) :=
  fun w _ => ⟨rfl, w.host.clock + 1, by omega, rfl⟩

/-- A **line-up** of drivers like the Python driver, with names and tools of their own, in `/r`. -/
def lineUp (drivers : List (String × String)) (hnames : (drivers.map (·.1)).Nodup)
    (cacheRoot : List String) : MultiRun where
  registry := ⟨drivers.map fun d => { Driver.python with name := d.1, tool := d.2 },
    by simpa [Function.comp_def] using hnames⟩
  settings := { root := .absolute ["r"], cacheRoot := .absolute cacheRoot }
  detect := shebangDetector
  runner := sampleRunner
  sink := .collected

/-- The host with a file that asks for linting, and with further things. -/
def sampleHost (further : List (Address × Node)) : Host where
  disk := ⟨([], .directory 0) :: (["r"], .directory 0) ::
    (["r", "a.py"], .file DriverRun.sampleBytes false 0) :: further⟩
  cwd := []
  environ := []
  homes := []
  clock := 10

/-- The path of that file. -/
def samplePath : Path := .absolute ["r", "a.py"]

/-- Three drivers, the second with a tool that cannot be started. -/
def sampleLineUp : MultiRun :=
  lineUp [("A", "lint"), ("B", "broken"), ("C", "lint")] (by decide) ["r", "cache"]

/-- The second driver is stopped by a fault. The third runs all the same, and does not take the
success of the first for one of its own. -/
theorem Independent.run_eq_eachAlone_sample : ∃ so w',
    (sampleLineUp.run fun _ => .ofPaths [samplePath]).run
        ⟨sampleHost [(["r", "cache"], .directory 0)], []⟩ = (.ok so, w') ∧
      so.outcomes.map (fun o => (o.driver, o.summary.results.map (·.classification))) =
        [("A", [.passed]), ("C", [.passed])] ∧
      so.errors = [("B", "[Errno 13] Permission denied: 'broken'")] ∧
      so.exitCodes = [("A", 0), ("B", 1), ("C", 0)] := by
  generalize hw : World.mk (sampleHost [(["r", "cache"], .directory 0)]) [] = w
  have hcache : w.host.BelongsAt (.absolute ["r", "cache"]) ["r", "cache"] :=
    .inl ⟨0, hw ▸ by decide +kernel⟩
  have hroot : w.host.stat (.absolute ["r"]) = .ok (["r"], .directory 0) :=
    hw ▸ by decide +kernel
  have hnolink : ∀ a target, w.host.disk.node? a ≠ some (.link target) := by
    intro a target h
    have hall : ∀ e ∈ w.host.disk.entries, e.2.isLink = false := hw ▸ by decide +kernel
    cases hall _ (Disk.mem_of_node? h)
  have hfair : ∀ d ∈ sampleLineUp.selected, Path.ProperName d.name ∧ d.name ≠ ".." ∧
      d.name.utf8ByteSize ≤ Disk.nameLimit ∧ holdsNull d.name = false := by decide +kernel
  have hi : sampleLineUp.Independent sampleAnswer [samplePath] w := {
    orderly := hw ▸ by decide +kernel
    quiet := quiet_sampleRunner
    contained := by
      intro c e he
      rw [sampleAnswer] at he
      split at he
      · cases he
        rfl
      · cases he
    detect := rfl
    root := Host.Resolved.reachable (hw ▸ by decide +kernel) hroot
    sited := {
      proper := by decide
      noNull := by decide +kernel
      straight := fun parts hparts =>
        absurd (hparts.subset (by simp : ".." ∈ parts ++ [".."])) (by decide)
      short := by decide +kernel }
    listing := {
      resolved := hw ▸ by decide +kernel
      short := by decide +kernel
      outside := fun c hc => by
        rw [hc.unique hcache]
        decide
      past := List.pairwise_singleton _ _ }
    title := by decide +kernel
    free := fun d hd _ => {
      fair := ⟨(hfair d hd).1, (hfair d hd).2.1, (hfair d hd).2.2.1, (hfair d hd).2.2.2⟩
      links := fun c _ => ⟨hnolink _, fun _ => hnolink _⟩ } }
  obtain ⟨so, w', hrun, houtcomes, herrors, hcodes⟩ := hi.run_eq_eachAlone
  subst hw
  have herrors' : so.errors = [("B", "[Errno 13] Permission denied: 'broken'")] :=
    herrors.trans (by decide +kernel)
  refine ⟨so, w', hrun, ?_, herrors', ?_⟩
  · rw [houtcomes]
    decide +kernel
  · rw [hcodes, if_neg fun h => by rw [herrors'] at h; cases h.2.1]
    decide +kernel

/-- Drivers are **entangled** on an orderly host and on resolved paths when their common run does
not come to what each comes to alone. -/
def Entangled (m : MultiRun) (ps : List Path) (h : Host) : Prop :=
  h.Orderly ∧ (∀ p ∈ ps, h.Resolved p) ∧
    ∃ so ∈ ((m.run fun _ => .ofPaths ps).run ⟨h, []⟩).1.toOption,
      so.outcomes ≠ (m.eachAlone ps ⟨h, []⟩ m.selected).outcomes ∨
        so.errors ≠ (m.eachAlone ps ⟨h, []⟩ m.selected).errors ∨
          ∃ x ∈ (m.eachAlone ps ⟨h, []⟩ m.selected).exitCodes, x ∉ so.exitCodes

instance (m : MultiRun) (ps : List Path) (h : Host) : Decidable (m.Entangled ps h) :=
  inferInstanceAs (Decidable (_ ∧ _ ∧ ∃ so ∈ ((m.run fun _ => .ofPaths ps).run ⟨h, []⟩).1.toOption,
    _))

/-- Two drivers with the same tool. -/
def twins (cacheRoot : List String) : MultiRun :=
  lineUp [("A", "lint"), ("B", "lint")] (by decide) cacheRoot

/-- A name that is too long for the system. -/
def longName : String := String.ofList (List.replicate 64 '𝔵')

/-- The path with that name is resolved where nothing has it. -/
theorem resolved_longName : (sampleHost []).Resolved (.absolute ["r", "m", longName]) := by
  have hnames : ∀ s ∈ ["r", "m", longName], Path.ProperName s ∧ s ≠ ".." ∧ holdsNull s = false := by
    intro s hs
    simp only [List.mem_cons, List.not_mem_nil, or_false] at hs
    rcases hs with rfl | rfl | rfl
    · decide
    · decide
    · exact Path.named_replicate (by decide) (by decide) (by decide)
  exact Host.resolved_iff.mpr ⟨rfl, fun s hs => (hnames s hs).1, fun hup => (hnames _ hup).2.1 rfl,
    Path.holdsNull_text_absolute fun s hs => (hnames s hs).2.2, by decide +kernel⟩

/-- Drivers are entangled where something that independence asks for is missing. -/
theorem entangled_situations :
    -- the entry of a driver is taken for that of the whole
    (lineUp [(wholeKey, "lint")] (by decide) ["r", "cache"]).Entangled [] (sampleHost []) ∧
    -- the drawer of one driver is a link to that of another
    (twins ["r", "cache"]).Entangled [samplePath]
      (sampleHost [(["r", "cache"], .directory 0), (["r", "cache", "B"], .directory 0),
        (["r", "cache", "A"], .link "B")]) ∧
    -- a marker is a link to that of another driver
    (twins ["r", "cache"]).Entangled [samplePath]
      (sampleHost [(["r", "cache"], .directory 0), (["r", "cache", "B"], .directory 0),
        (["r", "cache", "B", "r%a.py"], .link "../A/r%a.py")]) ∧
    -- the cache can be reached only when the first driver has made a directory
    (twins ["r", "m", "..", "cache"]).Entangled [samplePath]
      (sampleHost [(["r", "cache"], .directory 0), (["r", "cache", "B"], .directory 0),
        (["r", "cache", "B", "r%a.py"], .file [] false 5)]) ∧
    -- a path is too long only when the first driver has made the directory around it
    (twins ["r", "m", "cache"]).Entangled [.absolute ["r", "m", longName], samplePath]
      (sampleHost []) ∧
    -- a file in the cache is linted
    (twins ["r", "link"]).Entangled [.absolute ["r", "cache", "A", "r%a.py"], samplePath]
      (sampleHost [(["r", "link"], .link "cache"), (["r", "cache"], .directory 0),
        (["r", "cache", "A"], .directory 0),
        (["r", "cache", "A", "r%a.py"], .file DriverRun.sampleBytes false 0),
        (["r", "cache", "B"], .directory 0),
        (["r", "cache", "B", "r%cache%A%r%a.py"], .file [] false 5)]) ∧
    -- two files have the same marker, and one of them is from the future
    (twins ["r", "cache"]).Entangled [.absolute ["r", "a", "b.py"], .absolute ["r", "a%b.py"]]
      (sampleHost [(["r", "a"], .directory 0),
        (["r", "a", "b.py"], .file DriverRun.sampleBytes false 0),
        (["r", "a%b.py"], .file DriverRun.sampleBytes false 13)]) := by
  refine ⟨?_, ?_, ?_, ?_, ⟨by decide +kernel, ?_, ?_⟩, ?_, ?_⟩
  -- that the long path is resolved is not left to evaluation, which takes long for its letters
  case refine_5 =>
    have hall : ∀ p ∈ [samplePath], (sampleHost []).Resolved p := by decide +kernel
    exact List.forall_mem_cons.mpr ⟨resolved_longName, hall⟩
  all_goals decide +kernel

end MultiRun

end OptIn
