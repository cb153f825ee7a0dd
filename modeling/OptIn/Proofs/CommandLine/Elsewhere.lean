import OptIn.CommandLine.App
import OptIn.Proofs.Run.Progress
import OptIn.Proofs.Tool.Elsewhere

/-!
# Commands that are given from elsewhere

A command that runs one driver does not depend on where it is given, as long as it names its root
absolutely. Each of its stages comes to the same from everywhere: finding the root, putting the
settings together, choosing where the paths come from, and the run itself. All paths that are made
on the way are seen from the root, so they are absolute. `run_elsewhere` puts the stages together.
-/

namespace OptIn

open OptIn.Action (Respects)
open World (respects_ask respects_print)

/-- The world with another working directory. -/
def World.movedTo (w : World) (cwd : Address) : World := { w with host := { w.host with cwd } }

theorem World.elsewhere_movedTo {w : World} (hsearch : ∀ dir ∈ w.host.searchPath,
    dir.toList.head? = some '/') (cwd : Address) : w.Elsewhere (w.movedTo cwd) where
  host := ⟨rfl, rfl, rfl, rfl, hsearch⟩
  journal := rfl

/-! ### Settings -/

namespace Settings

variable {h h' : Host} {t : String} {settings : Settings}

theorem expandHome_eq (he : h.Elsewhere h') (p : Path) : expandHome h' p = expandHome h p := by
  rw [expandHome, expandHome, Host.valueOf?, Host.valueOf?, he.environ, he.homes]

/-- The cache directory that an environment names, or the usual one. -/
def namedCache (h : Host) (environ : List (String × String)) : Except Fault Path :=
  let named := Text.trimmed ((environ.lookup cacheVariable).getD "")
  if named.isEmpty then .ok defaultCache else expandHome h (Path.ofText named)

theorem ofEnvironment_eq_bind (h : Host) (environ : List (String × String)) (t : String) :
    ofEnvironment h environ (some t) = do
      let root ← h.resolve (Path.ofText t)
      let cache ← namedCache h environ
      return { root, cacheRoot := root.join cache, environ } := by
  rw [ofEnvironment, namedCache, Option.map_some, Option.getD_some]
  rcases h.resolve (Path.ofText t) with e | root
  · simp only [bind, Except.bind]
  · simp only [bind, Except.bind]
    split <;> rfl

/-- The settings for an absolute root are the same from everywhere. -/
theorem ofEnvironment_eq (he : h.Elsewhere h') (ht : (Path.ofText t).isAbsolute = true) :
    ofEnvironment h' h'.environ (some t) = ofEnvironment h h.environ (some t) := by
  rw [ofEnvironment_eq_bind, ofEnvironment_eq_bind, he.environ, he.resolve_eq ht, namedCache,
    namedCache]
  simp only [expandHome_eq he]

/-- Whatever the environment names, the root and the cache have absolute paths. -/
theorem isAbsolute_of_ofEnvironment {environ : List (String × String)}
    (hs : ofEnvironment h environ (some t) = .ok settings) :
    settings.root.isAbsolute = true ∧ settings.cacheRoot.isAbsolute = true := by
  rw [ofEnvironment_eq_bind] at hs
  rcases hroot : h.resolve (Path.ofText t) with e | root
  · rw [hroot] at hs
    cases hs
  rcases hcache : namedCache h environ with e | cache
  · rw [hroot, hcache] at hs
    cases hs
  · rw [hroot, hcache] at hs
    cases hs
    have habsolute := Host.isAbsolute_of_resolve hroot
    exact ⟨habsolute, Path.isAbsolute_join habsolute cache⟩

/-- The name of a cache directory that is **plain**: it does not begin in a home directory. -/
def PlainCache (environ : List (String × String)) : Prop :=
  let p := Path.ofText (Text.trimmed ((environ.lookup cacheVariable).getD ""))
  p.isAbsolute = true ∨ ∀ part ∈ p.parts.head?, part.toList.head? ≠ some '~'

theorem expandHome_eq_self {p : Path}
    (hp : p.isAbsolute = true ∨ ∀ part ∈ p.parts.head?, part.toList.head? ≠ some '~') :
    expandHome h p = .ok p := by
  rw [expandHome]
  split
  · rename_i part rest hanchor hparts
    have hpart : part.toList.head? ≠ some '~' := by
      rcases hp with habsolute | hpart
      · rw [Path.isAbsolute, hanchor] at habsolute
        cases habsolute
      · exact hpart part (by rw [hparts]; rfl)
    split
    · rename_i user hchars
      rw [hchars] at hpart
      exact absurd rfl hpart
    · rfl
  · rfl

/-- A root that is resolved, and an environment that does not name a home directory, make
settings. -/
theorem exists_ofEnvironment {environ : List (String × String)} {root : Path}
    (hroot : h.resolve (Path.ofText t) = .ok root) (hplain : PlainCache environ) :
    ∃ settings, ofEnvironment h environ (some t) = .ok settings ∧ settings.root = root := by
  obtain ⟨cache, hcache⟩ : ∃ cache, namedCache h environ = .ok cache := by
    rw [namedCache]
    split
    · exact ⟨_, rfl⟩
    · exact ⟨_, expandHome_eq_self hplain⟩
  rw [ofEnvironment_eq_bind, hroot, hcache]
  exact ⟨_, rfl, rfl⟩

end Settings

namespace CommandLine

variable {s : Surroundings} {d : Driver} {a : Arguments} {args : List String} {t : String}
  {root : Path} {settings : Settings}

/-! ### The driver that is meant -/

theorem mem_builtins_of_ofName? {name : String} (h : Command.ofName? name = some (.one d)) :
    d ∈ Driver.builtins := by
  obtain ⟨front, back, hsplit, -⟩ := List.lookup_eq_some_iff.mp h
  have hmem : (name, Command.one d) ∈ Command.named := by
    rw [hsplit]
    exact List.mem_append_right _ List.mem_cons_self
  rcases List.mem_cons.mp hmem with hall | hone
  · cases hall
  · obtain ⟨d', hd', ⟨⟩⟩ := List.mem_map.mp hone
    exact hd'

theorem mem_builtins_of_readRequest (h : readRequest args = .ok (.command (.one d) a)) :
    d ∈ Driver.builtins := by
  rw [readRequest] at h
  split at h
  · cases h
  rcases hfront : readArguments frontOptions false {} args with m | front
  · rw [hfront] at h
    cases h
  rw [hfront] at h
  simp only [bind, Except.bind] at h
  split at h
  · cases h
  split at h
  · cases h
  -- only the name of a command brings its driver in
  rename_i name rest hpositionals
  rcases hname : Command.ofName? name with _ | c
  · simp only [hname] at h
    split at h
    · cases h
    · split at h <;> cases h
  · simp only [hname] at h
    split at h
    · cases h
    · split at h
      · cases h
      · cases h
        exact mem_builtins_of_ofName? hname

theorem bare_tool_of_mem_builtins (hd : d ∈ Driver.builtins) : '/' ∉ d.tool.toList := by
  revert d
  decide

/-! ### The stages of a command -/

theorem respects_findRoot (ht : (Path.ofText t).isAbsolute = true) :
    Respects World.Elsewhere (findRoot (some t)) := by
  rw [findRoot]
  refine .bind (respects_ask fun he => he.resolve_eq ht) fun root w w' hroot => ?_
  have habsolute : root.isAbsolute = true := Host.isAbsolute_of_resolve (congrArg Prod.fst hroot)
  refine .bind (respects_ask fun he => he.holds_eq habsolute _) fun there _ _ _ => ?_
  split
  · exact .pure _
  · exact .pure _

theorem respects_findSettings (s : Surroundings) (a : Arguments) (hroot : root.isAbsolute = true) :
    Respects World.Elsewhere (findSettings s a root) := by
  rw [findSettings]
  have ht : (Path.ofText root.text).isAbsolute = true :=
    Path.isAbsolute_ofText.mpr (Path.head?_text_of_isAbsolute hroot)
  exact .bind (respects_ask fun he => Settings.ofEnvironment_eq he ht) fun _ _ _ _ => .pure _

theorem isAbsolute_of_findRoot {o : Option String} {w w' : World}
    (h : (findRoot o).run w = (.ok (.ok root), w')) : root.isAbsolute = true := by
  rw [findRoot] at h
  obtain ⟨q, v, hq, h⟩ := Action.exists_of_run_bind_ok h
  obtain ⟨there, v', -, h⟩ := Action.exists_of_run_bind_ok h
  cases there with
  | false => cases h
  | true =>
    cases h
    exact Host.isAbsolute_of_resolve (congrArg Prod.fst hq)

theorem isAbsolute_of_findSettings {w w' : World}
    (h : (findSettings s a root).run w = (.ok settings, w')) :
    settings.root.isAbsolute = true ∧ settings.cacheRoot.isAbsolute = true := by
  rw [findSettings] at h
  obtain ⟨found, v, hfound, h⟩ := Action.exists_of_run_bind_ok h
  cases h
  rw [World.run_ask, Prod.mk.injEq] at hfound
  obtain ⟨hroot, hcache⟩ := Settings.isAbsolute_of_ofEnvironment hfound.1
  exact ⟨hroot, hcache⟩

theorem anywhere_chooseSource (a : Arguments) (hl : s.launch.Unplaced)
    (hroot : root.isAbsolute = true) : (chooseSource s a root).Anywhere := by
  rw [chooseSource]
  split
  · split
    · refine Source.anywhere_git hroot (hl.respectsOn ⟨?_, ?_, fun h => nomatch h⟩)
      · rintro name ⟨⟩
        decide
      · rintro p ⟨⟩
        exact hroot
    · exact Source.anywhere_closed
    · exact Source.anywhere_ofLines hroot _
  · exact Source.anywhere_ofEntries hroot _

/-- The run of one driver with some settings. -/
def driverRun (s : Surroundings) (d : Driver) (settings : Settings) : DriverRun where
  driver := d
  settings := settings
  detect := shebangDetector
  runner := runCommand s.launch
  sink := .errorStream

theorem anywhere_driverRun (hl : s.launch.Unplaced) (hd : '/' ∉ d.tool.toList)
    (hroot : settings.root.isAbsolute = true) (hcache : settings.cacheRoot.isAbsolute = true) :
    (driverRun s d settings).Anywhere where
  root := hroot
  detect := anywhere_shebangDetector
  invoker :=
    { stored := by
        intro cache hstored
        obtain ⟨-, rfl⟩ := DriverRun.cache?_eq_some_iff.mp hstored
        exact Path.isAbsolute_join hcache _
      queried := by
        refine hl.respectsOn ⟨?_, fun p h => (nomatch h), fun _ => rfl⟩
        rintro name ⟨⟩
        exact hd
      linted := by
        intro c
        refine hl.respectsOn ⟨?_, ?_, fun h => nomatch h⟩
        · rintro name ⟨⟩
          exact hd
        · rintro p ⟨⟩
          exact hroot }

theorem respects_runOne (hl : s.launch.Unplaced) (hd : '/' ∉ d.tool.toList)
    (hroot : settings.root.isAbsolute = true) (hcache : settings.cacheRoot.isAbsolute = true) :
    Respects World.Elsewhere (runOne s d a settings) := by
  have hrun := (anywhere_driverRun hl hd hroot hcache).respects_run
    (anywhere_chooseSource a hl hroot)
  rw [runOne]
  refine .bind hrun.attempt fun r _ _ _ => ?_
  rcases r with e | o
  · simp only
    split
    · exact .bind (respects_print _ _) fun _ _ _ _ => .pure _
    · exact .throw e
  · exact .pure _

theorem respects_perform (hl : s.launch.Unplaced) (hd : '/' ∉ d.tool.toList)
    (hroot : a.root = some t) (ht : (Path.ofText t).isAbsolute = true) :
    Respects World.Elsewhere (perform s (.one d) a) := by
  rw [perform, hroot]
  simp only [Command.takesPaths, if_true, Bool.not_true, Bool.false_and, Bool.false_eq_true,
    if_false]
  split
  · exact .pure _
  refine .bind (respects_findRoot ht) fun found w w' hfound => ?_
  rcases found with m | root
  · exact .pure _
  have habsolute : root.isAbsolute = true := isAbsolute_of_findRoot hfound
  refine .bind (respects_findSettings s a habsolute) fun settings v v' hsettings => ?_
  obtain ⟨hroot, hcache⟩ := isAbsolute_of_findSettings hsettings
  exact respects_runOne hl hd hroot hcache

theorem respects_run (hl : s.launch.Unplaced)
    (hargs : readRequest args = .ok (.command (.one d) a)) (hroot : a.root = some t)
    (ht : (Path.ofText t).isAbsolute = true) : Respects World.Elsewhere (run s args) := by
  rw [run, hargs]
  exact respects_perform hl (bare_tool_of_mem_builtins (mem_builtins_of_readRequest hargs)) hroot ht

/-! ### What is seen of a command -/

theorem called?_anywhere (e : Event) : e.anywhere.called? = e.called? := by
  cases e <;> rfl

theorem written_anywhere (notes : Bool) (stream : Stream) (e : Event) :
    written notes stream e.anywhere = written notes stream e := by
  cases e <;> rfl

theorem filterMap_called_anywhere (es : List Event) :
    (es.map Event.anywhere).filterMap Event.called? = es.filterMap Event.called? := by
  rw [List.filterMap_map]
  exact List.filterMap_congr fun e _ => called?_anywhere e

theorem transcript_anywhere (notes : Bool) (stream : Stream) (es : List Event) :
    transcript notes stream (es.map Event.anywhere) = transcript notes stream es := by
  rw [transcript, transcript, List.map_map]
  exact congrArg String.join (List.map_congr_left fun e _ => written_anywhere notes stream e)

/-- **The working directory does not matter.** Let a command run one driver in a root that it names
absolutely, where executables are searched in absolute directories and what tools do does not depend
on where they are asked for their version. From every working directory the same root is found, or
refused, and the same settings are made, in which the root and the cache have absolute paths. The
run takes the same course: the same paths are given and the same candidates dealt with, to the same
results. The command ends alike, leaves the same disk, has the same commands performed in the same
directories, and prints the same. -/
theorem run_elsewhere (hargs : readRequest args = .ok (.command (.one d) a))
    (hroot : a.root = some t) (ht : (Path.ofText t).isAbsolute = true)
    (hl : s.launch.Unplaced) {w : World}
    (hsearch : ∀ dir ∈ w.host.searchPath, dir.toList.head? = some '/') (cwd : Address) :
    ((findRoot a.root).run (w.movedTo cwd)).1 = ((findRoot a.root).run w).1 ∧
    (∀ root, ((findRoot a.root).run w).1 = .ok (.ok root) →
      ((findSettings s a root).run (w.movedTo cwd)).1 = ((findSettings s a root).run w).1 ∧
      (w.host.resolve (Path.ofText root.text) = .ok root → Settings.PlainCache w.host.environ →
        ∃ settings, ((findSettings s a root).run w).1 = .ok settings ∧ settings.root = root) ∧
      ∀ settings, ((findSettings s a root).run w).1 = .ok settings →
        settings.root.isAbsolute = true ∧ settings.cacheRoot.isAbsolute = true ∧
        ((driverRun s d settings).course (chooseSource s a settings.root) w).Alike
          ((driverRun s d settings).course (chooseSource s a settings.root) (w.movedTo cwd))) ∧
    ((run s args).run (w.movedTo cwd)).1 = ((run s args).run w).1 ∧
    ((run s args).run (w.movedTo cwd)).2.host.disk = ((run s args).run w).2.host.disk ∧
    ((run s args).run (w.movedTo cwd)).2.journal.filterMap Event.called? =
      ((run s args).run w).2.journal.filterMap Event.called? ∧
    ((run s args).run (w.movedTo cwd)).2.journal.map Event.anywhere =
      ((run s args).run w).2.journal.map Event.anywhere ∧
    ∀ notes stream, transcript notes stream ((run s args).run (w.movedTo cwd)).2.journal =
      transcript notes stream ((run s args).run w).2.journal := by
  have he := World.elsewhere_movedTo hsearch cwd
  obtain ⟨hend, hw⟩ := respects_run hl hargs hroot ht he
  refine ⟨?_, fun root hfound => ⟨?_, fun hresolve hplain => ?_, fun settings hsettings => ?_⟩,
    hend, hw.host.disk, ?_, hw.journal, fun notes stream => ?_⟩
  · rw [hroot]
    exact (respects_findRoot ht he).1
  · exact (respects_findSettings s a (isAbsolute_of_findRoot (Action.run_eq_of_fst hfound)) he).1
  · obtain ⟨settings, hmade, hsame⟩ := Settings.exists_ofEnvironment hresolve hplain
    have hask : (World.ask fun h => Settings.ofEnvironment h h.environ (some root.text)).run w =
        (.ok settings, w) := by rw [World.run_ask, hmade]
    rw [findSettings, Action.run_bind_ok hask]
    exact ⟨_, rfl, hsame⟩
  · obtain ⟨hroot, hcache⟩ := isAbsolute_of_findSettings (Action.run_eq_of_fst hsettings)
    have hd := bare_tool_of_mem_builtins (mem_builtins_of_readRequest hargs)
    exact ⟨hroot, hcache, (anywhere_driverRun hl hd hroot hcache).alike_course
      (anywhere_chooseSource a hl hroot) he⟩
  · rw [← filterMap_called_anywhere, hw.journal, filterMap_called_anywhere]
  · rw [← transcript_anywhere, hw.journal, transcript_anywhere]

/-- What surrounds the sample: a file is named on a line, and the tool finds fault with it. -/
def sampleSurroundings : Surroundings where
  input := .text "a.py\n"
  launch := fun _ l => some { status := if l.command.getLast? = some "/r/a.py" then 1 else 0 }

/-- The world of the sample: a tool in `PATH`, a file that asks for linting, and a cache that is
named relatively. -/
def sampleWorld : World where
  host := {
    disk := ⟨[([], .directory 0), (["bin"], .directory 0), (["bin", "pylint"], .file [] true 0),
      (["r"], .directory 0), (["r", "a.py"], .file DriverRun.sampleBytes false 0)]⟩
    cwd := []
    environ := [("PATH", "/bin"), ("OPTLINT_CACHE_DIR", "store")]
    homes := []
    clock := 10 }
  journal := []

/-- From the root of the disk and from the root of the run, the same file is found at fault. -/
theorem run_elsewhere_sample : ∃ d a,
    readRequest ["python", "--root", "/r"] = .ok (.command (.one d) a) ∧ a.root = some "/r" ∧
    (Path.ofText "/r").isAbsolute = true ∧ sampleSurroundings.launch.Unplaced ∧
    (∀ dir ∈ sampleWorld.host.searchPath, dir.toList.head? = some '/') ∧
    ((run sampleSurroundings ["python", "--root", "/r"]).run sampleWorld).1 = .ok (.exit 1) ∧
    ((run sampleSurroundings ["python", "--root", "/r"]).run (sampleWorld.movedTo ["r"])).1 =
      .ok (.exit 1) := by
  have hargs : readRequest ["python", "--root", "/r"] =
      .ok (.command (.one .python) { settings := [.root], root := some "/r" }) := by decide +kernel
  have hl : sampleSurroundings.launch.Unplaced := by
    intro w w' l l' _ _ hcommand _
    simp only [sampleSurroundings, hcommand]
  have hsearch : ∀ dir ∈ sampleWorld.host.searchPath, dir.toList.head? = some '/' := by
    decide +kernel
  have hend : ((run sampleSurroundings ["python", "--root", "/r"]).run sampleWorld).1 =
      .ok (.exit 1) := by decide +kernel
  obtain ⟨-, -, hsame, -⟩ := run_elsewhere (s := sampleSurroundings) (t := "/r") hargs rfl
    (by decide) hl hsearch ["r"]
  exact ⟨_, _, hargs, rfl, by decide, hl, hsearch, hend, hsame.trans hend⟩

end CommandLine

end OptIn
