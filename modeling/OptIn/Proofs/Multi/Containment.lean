import Mathlib.Data.List.DropRight
import OptIn.Proofs.Multi.Isolation
import OptIn.Proofs.Tool.Launching

/-!
# What files can do to the run of all drivers

With the drivers that come with the library and tools that are started as executables, there is one
thing only that a file can do to the run of all drivers. An argument in a header that holds a NUL
cannot be passed to a tool, and this is a fault that ends everything at once
(`MultiRun.run_broken_off`); whatever else is in the files, the run comes to its end, with an entry
for each driver that is not excluded (`MultiRun.exists_entries_or_hostile`).
-/

namespace OptIn

open ToolRunner (Answers)

/-! ### Words without a NUL -/

/-- Trimming adds nothing. -/
theorem holdsNull_trimmed {s : String} (h : holdsNull s = false) :
    holdsNull (Text.trimmed s) = false := by
  rw [Bool.eq_false_iff] at h ⊢
  rw [holdsNull, Ne, List.contains_iff_mem] at h ⊢
  rw [Text.trimmed, String.toList_ofList]
  intro hmem
  have hright : '\x00' ∈ s.toList.dropWhile Text.isBlank :=
    (List.rdropWhile_prefix Text.isBlank _).mem hmem
  exact h ((List.dropWhile_suffix _).mem hright)

/-- The arguments that tell a tool about its configuration hold a NUL only if the flag or a value of
the environment does. -/
theorem Driver.holdsNull_of_mem_configArguments {d : Driver} {environ : List (String × String)}
    (hflag : ∀ flag, d.configFlag = some flag → holdsNull flag = false)
    (henviron : ∀ v ∈ environ, holdsNull v.2 = false) :
    ∀ s ∈ d.configArguments environ, holdsNull s = false := by
  rw [configArguments]
  split
  · rename_i key flag hkey hset
    have hvalue : holdsNull (Text.trimmed ((environ.lookup key).getD "")) = false := by
      refine holdsNull_trimmed ?_
      cases hlookup : environ.lookup key with
      | none => rfl
      | some value =>
        obtain ⟨front, back, rfl, -⟩ := List.lookup_eq_some_iff.mp hlookup
        exact henviron (key, value) (by simp)
    simp only
    split
    · simp
    · split
      · simpa [Path.holdsNull_append] using ⟨hflag flag hset, hvalue⟩
      · simpa using ⟨hflag flag hset, hvalue⟩
  · simp

namespace Invoker

/-- A file is **hostile** if its header asks for linting, and gives an argument to the tool that
holds a NUL. -/
def Hostile (i : Invoker) (h : Host) (p : Path) : Prop :=
  ∃ bytes, h.read p = .ok bytes ∧
    i.asks (i.driver.scanFileText (Text.Utf8.decode bytes)) = true ∧
    ∃ s ∈ (i.driver.scanFileText (Text.Utf8.decode bytes)).options, holdsNull s = true

variable {i : Invoker} {h : Host} {p : Path} {c : Call}

/-- The call of a file holds a NUL only because of its header. -/
theorem hostile_of_callsFor (hcalls : i.CallsFor h ⟨p, i.driver.kind, []⟩ c) (hc : c.HoldsNull)
    (hconfig : ∀ s ∈ i.driver.configArguments i.settings.environ, holdsNull s = false)
    (hroot : holdsNull i.settings.root.text = false) (hp : holdsNull p.text = false) :
    i.Hostile h p := by
  obtain ⟨bytes, hread, hasks, rfl⟩ := hcalls
  generalize hd : i.driver.scanFileText (Text.Utf8.decode bytes) = d at hc hasks
  have hoptions : (withDirective ⟨p, i.driver.kind, []⟩ d).options = d.options := by
    rw [withDirective]
    split
    · rename_i hempty
      exact (List.isEmpty_iff.mp hempty).symm
    · rfl
  refine ⟨bytes, hread, hd ▸ hasks, ?_⟩
  rw [hd]
  rcases hc with ⟨s, hs, hnull⟩ | ⟨q, hq, hnull⟩
  · simp only [lintCall, command, List.cons_append, List.tail_cons, hoptions, path_withDirective,
      List.mem_append, List.mem_singleton] at hs
    rcases hs with (hs | hs) | rfl
    · cases (hconfig s hs).symm.trans hnull
    · exact ⟨s, hs, hnull⟩
    · cases hp.symm.trans hnull
  · cases hq
    cases hroot.symm.trans hnull

end Invoker

/-! ### The run of one driver -/

namespace DriverRun

variable {r : DriverRun} {ps : List Path} {h h' : Host} {k k' : Option ToolProbe}
  {xs : List LintResult} {f : Option Fault} {e : Fault} {w : World} {within : Address → Prop}

/-- Paths that lead to **files**, and can be shown. -/
def Files (h : Host) (ps : List Path) : Prop :=
  ∀ p ∈ ps, p.Proper ∧ h.isFile p = .ok true ∧ h.Reachable p

theorem Files.grows (hf : Files h ps) (hg : h.Grows within h') (ho : h.Orderly) : Files h' ps :=
  fun p hp =>
    let ⟨hproper, hfile, hreach⟩ := hf p hp
    ⟨hproper, (hg.file_stays ho hproper hfile).1, (hreach.grows hg ho).2⟩

theorem Files.noNull (hf : Files h ps) {p : Path} (hp : p ∈ ps) : holdsNull p.text = false := by
  obtain ⟨a, bytes, x, t, hs⟩ := Host.isFile_eq_true_iff.mp (hf p hp).2.1
  exact Host.holdsNull_of_statText hs

/-- What a run is **written** with: words and paths without a NUL. -/
structure Written (r : DriverRun) : Prop where
  tool : holdsNull r.driver.tool = false
  config : ∀ s ∈ r.driver.configArguments r.settings.environ, holdsNull s = false
  root : holdsNull r.settings.root.text = false
  cache : r.invoker.CacheWritten

/-- The faults that end a run can be contained, unless a file is hostile. -/
theorem Treated.fault_of_started (ht : Treated r Started [] ps k h xs f k' h')
    (hdetect : r.detect = shebangDetector) (hw : r.Written) (ho : h.Orderly) (hfiles : Files h ps)
    (he : f = some e) :
    e.isContained = true ∨ e = .embeddedNull ∧ ∃ p ∈ ps, r.invoker.Hostile h p := by
  -- the system is at fault, the version query, or the command for a file
  rcases ht.fault_cases hdetect hw.cache ho (fun p hp => (hfiles p hp).1) he with
    hsystem | hquery | ⟨p, hp, h₁, call, hg, hcalls, hcall⟩
  · exact .inl (Fault.isContained_of_isSystem hsystem)
  · rcases hquery e rfl with hcontained | ⟨-, hempty⟩ | ⟨-, hnull⟩
    · exact .inl hcontained
    · cases hempty
    · rcases hnull with ⟨s, hs, hnull⟩ | ⟨q, hq, -⟩
      · cases List.mem_singleton.mp hs
        cases hnull
      · cases hq
  · rcases hcall e rfl with hcontained | ⟨-, hempty⟩ | ⟨rfl, hnull⟩
    · exact .inl hcontained
    · obtain ⟨bytes, -, -, rfl⟩ := hcalls
      cases hempty
    · obtain ⟨bytes, hread, hhostile⟩ :=
        Invoker.hostile_of_callsFor hcalls hnull hw.config hw.root (hfiles.noNull hp)
      have hsame := (hg.file_stays ho (hfiles p hp).1 (hfiles p hp).2.1).2
      exact .inr ⟨rfl, p, hp, bytes, hsame.symm.trans hread, hhostile⟩

/-- The run of a driver whose tool is started ends with a fault that can be contained, if any,
unless a file is hostile. -/
theorem fault_of_run (hq : r.runner.Quiet Started) (hdetect : r.detect = shebangDetector)
    (hw : r.Written) (ho : w.host.Orderly) (hroot : w.host.Reachable r.settings.root)
    (hfiles : Files w.host ps) :
    (∀ e, ((r.run (.ofPaths ps)).run w).1 = .error e →
      e.isContained = true ∨ e = .embeddedNull ∧ ∃ p ∈ ps, r.invoker.Hostile w.host p) ∧
    w.host.Grows (fun _ => True) ((r.run (.ofPaths ps)).run w).2.host := by
  have ht := treated_trace hq [] ps ⟨w, none⟩
  obtain ⟨hg, hresults⟩ := ht.grows hw.cache.proper ho fun p hp => (hfiles p hp).1
  have hfst : ((r.run (.ofPaths ps)).run w).1 = r.outcomeOf (r.trace [] ps ⟨w, none⟩) :=
    fst_run_eq_outcomeOf fun _ =>
      ⟨(hroot.grows hg ho).2, fun x hx => ((hfiles _ (hresults x hx).1).2.2.grows hg ho).2⟩
  refine ⟨fun e he => ?_, ?_⟩
  · rw [hfst, outcomeOf] at he
    rcases hf : (r.trace [] ps ⟨w, none⟩).fault with _ | f
    · rw [hf] at he
      cases he
    · rw [hf] at he
      cases he
      exact ht.fault_of_started hdetect hw ho hfiles hf
  · rw [host_run]
    exact hg

end DriverRun

/-! ### The run of all drivers -/

namespace MultiRun

open DriverRun (Files)

variable {m : MultiRun} {ps : List Path} {w w' : World} {so : MultiOutcome} {ds : List Driver}

/-- What the run of all drivers needs in order to be **ordinary**: tools that are started as
executables, selection by first lines, an orderly host with a root that is there, and drivers and
settings that are written without NULs and without tags. -/
structure Ordinary (m : MultiRun) (w : World) : Prop where
  quiet : m.runner.Quiet Started
  detect : m.detect = shebangDetector
  orderly : w.host.Orderly
  root : w.host.Reachable m.settings.root
  title : ∀ d ∈ m.selected, '[' ∉ d.name.toList ∧ '[' ∉ d.tool.toList
  written : ∀ d ∈ m.selected, (m.driverRun d).Written

/-- The run of a driver on a host that has grown ends with a fault that can be contained, if any,
unless a file has been hostile from the beginning. -/
theorem Ordinary.fault_of_run (hm : m.Ordinary w) (hfiles : Files w.host ps) {d : Driver}
    (hd : d ∈ m.selected) (w' : World) (hg : w.host.Grows (fun _ => True) w'.host) :
    (∀ e, (((m.driverRun d).run (.ofPaths ps)).run w').1 = .error e → e.isContained = true ∨
      e = .embeddedNull ∧ ∃ p ∈ ps, (m.driverRun d).invoker.Hostile w.host p) ∧
    w.host.Grows (fun _ => True) (((m.driverRun d).run (.ofPaths ps)).run w').2.host := by
  obtain ⟨hfault, hg'⟩ := DriverRun.fault_of_run (r := m.driverRun d) hm.quiet hm.detect
    (hm.written d hd) (hg.orderly hm.orderly) (hm.root.grows hg hm.orderly).2
    (hfiles.grows hg hm.orderly)
  refine ⟨fun e he => (hfault e he).imp_right ?_, hg.trans hg'⟩
  rintro ⟨rfl, p, hp, bytes, hread, hhostile⟩
  have hsame := (hg.file_stays hm.orderly (hfiles p hp).1 (hfiles p hp).2.1).2
  exact ⟨rfl, p, hp, bytes, hsame.symm.trans hread, hhostile⟩

/-- The drivers to come all add what their runs come to, unless a file is hostile to one of them. -/
theorem Ordinary.steps_cases (hm : m.Ordinary w) (hfiles : Files w.host ps) (call : Nat)
    (so : MultiOutcome) (w' : World) (hds : ∀ d ∈ ds, d ∈ m.selected)
    (hnodup : (ds.map (·.name)).Nodup) (hunused : ∀ d ∈ ds, so.Unused d.name)
    (hg : w.host.Grows (fun _ => True) w'.host) :
    (∃ runs w₂, runs.map (·.1) = ds.map (·.name) ∧
      (m.steps (fun _ => .ofPaths ps) call so ds).run w' =
        (.ok (so.followedBy (.ofRuns runs)), w₂)) ∨
    (∃ w₂, (m.steps (fun _ => .ofPaths ps) call so ds).run w' = (.error .embeddedNull, w₂)) ∧
      ∃ d ∈ ds, ∃ p ∈ ps, (m.driverRun d).invoker.Hostile w.host p := by
  refine (exists_steps_cases
    (fun d hd _ w₁ hg₁ => (hm.fault_of_run hfiles (hds d hd) w₁ hg₁).2)
    (fun d hd => exists_header (hm.title d (hds d hd))) hnodup hunused call hg).imp_right ?_
  rintro ⟨e, w₂, hrun, hnot, d, hd, _, w₁, hg₁, he⟩
  obtain ⟨rfl, hhostile⟩ :=
    ((hm.fault_of_run hfiles (hds d hd) w₁ hg₁).1 e he).resolve_left hnot
  exact ⟨⟨w₂, hrun⟩, d, hd, hhostile⟩

/-- Settings are **well written** if no NUL is in their paths and in the values of the environment,
and the path of the cache is proper. -/
structure WellWritten (settings : Settings) : Prop where
  environ : ∀ v ∈ settings.environ, holdsNull v.2 = false
  root : holdsNull settings.root.text = false
  cacheRoot : holdsNull settings.cacheRoot.text = false
  proper : settings.cacheRoot.Proper

/-- The drivers that come with the library are written without NULs, and without tags. -/
theorem written_of_builtin (hs : WellWritten m.settings) {d : Driver} (hd : d ∈ Driver.builtins) :
    (m.driverRun d).Written ∧ '[' ∉ d.name.toList ∧ '[' ∉ d.tool.toList := by
  have hall : ∀ d ∈ Driver.builtins,
      (holdsNull d.tool = false ∧ ∀ flag ∈ d.configFlag, holdsNull flag = false) ∧
        (Path.ProperName d.name ∧ holdsNull d.name = false) ∧
          '[' ∉ d.name.toList ∧ '[' ∉ d.tool.toList := by decide +kernel
  obtain ⟨⟨htool, hflag⟩, ⟨hname, hnull⟩, htitle⟩ := hall d hd
  refine ⟨⟨htool, Driver.holdsNull_of_mem_configArguments hflag hs.environ, hs.root, ?_⟩, htitle⟩
  intro cache hcache
  obtain ⟨-, rfl⟩ := DriverRun.cache?_eq_some_iff.mp hcache
  rw [DriverRun.Abreast.directory_store (r := m.driverRun d) hname, Path.holdsNull_text_down]
  exact ⟨hs.proper.down hname, Bool.or_eq_false_iff.mpr ⟨hs.cacheRoot, hnull⟩⟩

/-- **What files can do.** The run of all drivers on files comes to its end, with an entry for each
driver that is not excluded; or an argument that a file gives to the tool of one of these holds a
NUL, and that ends everything. -/
theorem exists_entries_or_hostile (m : MultiRun) (launch : Launcher) (ps : List Path) (w : World)
    (hregistry : m.registry = .default) (hrunner : m.runner = runCommand launch)
    (hdetect : m.detect = shebangDetector) (ho : w.host.Orderly)
    (hroot : w.host.Reachable m.settings.root) (hsettings : WellWritten m.settings)
    (hfiles : Files w.host ps) :
    (∃ so w', (m.run fun _ => .ofPaths ps).run w = (.ok so, w') ∧
      ∀ d ∈ m.selected, d.name ∈ so.exitCodes.map (·.1)) ∨
    (∃ w', (m.run fun _ => .ofPaths ps).run w = (.error .embeddedNull, w')) ∧
      ∃ d ∈ m.selected, ∃ p ∈ ps, (m.driverRun d).invoker.Hostile w.host p := by
  have hbuiltin : ∀ d ∈ m.selected, d ∈ Driver.builtins := by
    intro d hd
    rw [selected, hregistry] at hd
    exact (List.mem_filter.mp hd).1
  have hm : m.Ordinary w := {
    quiet := hrunner ▸ quiet_runCommand launch
    detect := hdetect
    orderly := ho
    root := hroot
    title := fun d hd => (written_of_builtin hsettings (hbuiltin d hd)).2
    written := fun d hd => (written_of_builtin hsettings (hbuiltin d hd)).1 }
  have hnodup : (m.selected.map (·.name)).Nodup :=
    m.registry.distinct.sublist (List.filter_sublist.map _)
  obtain ⟨w₁, hsay, hhost₁⟩ :=
    m.exists_forM_say m.excludedNames (· ++ " excluded from this run") w
  have hrun : (m.run fun _ => .ofPaths ps).run w =
      (m.steps (fun _ => .ofPaths ps) 0 {} m.selected >>= m.close).run w₁ := by
    rw [run, Action.run_bind_ok hsay]
  rw [hrun]
  rcases hm.steps_cases hfiles 0 {} w₁ (fun _ h => h) hnodup (fun _ _ => ⟨by simp, by simp⟩)
    (hhost₁ ▸ .refl _ _) with ⟨runs, w₂, hnames, hsteps⟩ | ⟨⟨w₂, hsteps⟩, hhostile⟩
  · obtain ⟨so, w₃, hclose⟩ := m.exists_close (.ofRuns runs) w₂
    refine .inl ⟨so, w₃, (Action.run_bind_ok hsteps).trans hclose, fun d hd => ?_⟩
    have hmem : d.name ∈ (MultiOutcome.ofRuns runs).exitCodes.map (·.1) := by
      rw [MultiOutcome.ofRuns, List.map_map]
      exact hnames ▸ List.mem_map_of_mem hd
    rcases close_cases hclose with ⟨-, rfl⟩ | ⟨-, rfl⟩
    · exact mem_keys_setEntry hmem
    · exact hmem
  · exact .inr ⟨⟨w₂, Action.run_bind_error hsteps⟩, hhostile⟩

/-! ### All tools installed -/

/-- The host with a file of some bytes, and with the tools of all drivers in `/bin`. -/
def equippedHost (bytes : List UInt8) : Host where
  disk := ⟨([], .directory 0) :: (["bin"], .directory 0) :: (["r"], .directory 0) ::
    (["r", "a.py"], .file bytes false 0) ::
      Driver.builtins.map fun d => (["bin", d.tool], .file [] true 0)⟩
  cwd := []
  environ := []
  homes := []
  clock := 10

/-- The drivers that come with the library, in `/r`, with tools that find no fault. -/
def equipped : MultiRun where
  registry := .default
  settings := { root := .absolute ["r"], cacheRoot := .absolute ["r", "cache"] }
  detect := shebangDetector
  runner := runCommand fun _ _ => some {}
  sink := .collected

/-- The bytes of a file whose header gives an argument with a NUL, `a\x00b`, to the tool of the
Python driver. -/
def hostileBytes : List UInt8 :=
  [35, 32, 112, 121, 108, 105, 110, 116, 45, 111, 112, 116, 105, 111, 110, 115, 58, 32, 97, 0, 98,
    10]

/-- With a file that only asks for linting, there is an entry for each driver. -/
theorem exists_entries_or_hostile_sample : ∃ so w',
    (equipped.run fun _ => .ofPaths [samplePath]).run
      ⟨equippedHost DriverRun.sampleBytes, []⟩ = (.ok so, w') ∧
    ∀ name ∈ ["python", "shell", "yaml"], name ∈ so.exitCodes.map (·.1) := by
  generalize hw : World.mk (equippedHost DriverRun.sampleBytes) [] = w
  have hfile : w.host.stat samplePath = .ok (["r", "a.py"], .file DriverRun.sampleBytes false 0) :=
    hw ▸ by decide +kernel
  have hroot : w.host.stat (.absolute ["r"]) = .ok (["r"], .directory 0) := hw ▸ by decide +kernel
  have hfiles : Files w.host [samplePath] := by
    intro p hp
    obtain rfl := List.mem_singleton.mp hp
    exact ⟨by decide, Host.isFile_eq_true_iff.mpr ⟨_, _, _, _, hfile⟩,
      Host.Resolved.reachable (hw ▸ by decide +kernel) hfile⟩
  have hsettings : WellWritten equipped.settings :=
    ⟨by decide, by decide +kernel, by decide +kernel, by decide⟩
  rcases exists_entries_or_hostile equipped (fun _ _ => some {}) [samplePath] w rfl rfl rfl
    (hw ▸ by decide +kernel) (Host.Resolved.reachable (hw ▸ by decide +kernel) hroot) hsettings
    hfiles with
    ⟨so, w', hrun, hentries⟩ | ⟨-, d, hd, p, hp, bytes, hread, -, s, hs, hnull⟩
  · refine ⟨so, w', hrun, fun name hname => ?_⟩
    have hnames : equipped.selected.map (·.name) = ["python", "shell", "yaml"] := by
      decide +kernel
    obtain ⟨d, hd, rfl⟩ := List.mem_map.mp (hnames ▸ hname)
    exact hentries d hd
  · obtain rfl := List.mem_singleton.mp hp
    rw [Host.read_of_stat hfile] at hread
    cases hread
    have hnone : ∀ d ∈ equipped.selected, ∀ s ∈ (d.scanFileText
        (Text.Utf8.decode DriverRun.sampleBytes)).options, holdsNull s = false := by decide +kernel
    cases (hnone d hd s hs).symm.trans hnull

/-- A file, all tools installed: the Python driver is stopped by what the header of the file says,
no driver behind it runs, and there is no outcome. -/
theorem run_broken_off : ∃ w',
    (equipped.run fun _ => .ofPaths [samplePath]).run ⟨equippedHost hostileBytes, []⟩ =
      (.error .embeddedNull, w') ∧
    (equippedHost hostileBytes).Orderly ∧
    (equippedHost hostileBytes).isFile samplePath = .ok true ∧
    (∀ d ∈ Driver.builtins,
      (equippedHost hostileBytes).findExecutable d.tool = some ("/bin/" ++ d.tool)) ∧
    ∀ c ∈ w'.journal.filterMap Event.called?, c.command.head? = some "pylint" := by
  generalize hw : World.mk (equippedHost hostileBytes) [] = w
  have hfault : ((equipped.run fun _ => .ofPaths [samplePath]).run w).1 = .error .embeddedNull :=
    hw ▸ by decide +kernel
  have hcalls : ∀ c ∈ ((equipped.run fun _ => .ofPaths [samplePath]).run w).2.journal.filterMap
      Event.called?, c.command.head? = some "pylint" := hw ▸ by decide +kernel
  exact ⟨_, Prod.ext hfault rfl, by decide +kernel, by decide +kernel, by decide +kernel, hcalls⟩

end MultiRun

end OptIn
