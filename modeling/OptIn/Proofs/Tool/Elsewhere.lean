import Mathlib.Data.List.Find
import OptIn.Proofs.Run.Elsewhere
import OptIn.Proofs.Tool.Launching

/-!
# Commands that are started from elsewhere

An executable that is called by its bare name is looked for in the directories of `PATH`. Where
these are absolute, the same file is found from everywhere, and the command comes to the same if
what the program does is not a matter of where it has been started (`Launcher.Unplaced.respectsOn`):
either it runs in a directory of its own, or it is only asked for its version.
-/

namespace OptIn

/-- A launcher whose programs are **unplaced**: what they do is the same elsewhere, and where they
are asked for their version is of no importance to it. -/
def Launcher.Unplaced (launch : Launcher) : Prop :=
  ∀ ⦃w w' : World⦄ ⦃l l' : Launch⦄, w.Elsewhere w' → l'.program = l.program →
    l'.command = l.command → l'.directory = l.directory ∨ l.command.tail = [ToolProbe.versionFlag] →
    launch w' l' = launch w l

namespace Host

variable {h h' : Host} {name s dir : String}

theorem head?_inDirectory (hdir : dir.toList.head? = some '/') (name : String) :
    (inDirectory dir name).toList.head? = some '/' := by
  have hne : dir.isEmpty = false := by
    rw [Bool.eq_false_iff]
    intro hempty
    rw [String.isEmpty_iff.mp hempty] at hdir
    cases hdir
  rw [inDirectory, hne, if_neg Bool.false_ne_true]
  split
  · rw [String.toList_append, List.head?_append, hdir]
    rfl
  · rw [String.toList_append, String.toList_append, List.head?_append, List.head?_append, hdir]
    rfl

namespace Elsewhere

theorem searchPath_eq (he : h.Elsewhere h') : h'.searchPath = h.searchPath := by
  rw [searchPath, searchPath, valueOf?, valueOf?, he.environ]

theorem isProgram_eq (he : h.Elsewhere h') (hs : s.toList.head? = some '/') :
    h'.isProgram s = h.isProgram s := by
  rw [isProgram, isProgram, he.statText_eq hs]

/-- A file that is looked for by a bare name is the same one from everywhere. -/
theorem resolveExecutable_eq (he : h.Elsewhere h') (hname : '/' ∉ name.toList) :
    h'.resolveExecutable name = h.resolveExecutable name ∧
      ∀ s, h.resolveExecutable name = .ok (some s) → s.toList.head? = some '/' := by
  have hrelative : ¬(Path.ofText name).isAbsolute = true := fun h =>
    hname (List.mem_of_mem_head? (Path.isAbsolute_ofText.mp h))
  have hbare : name.toList.contains '/' = false := by simpa using hname
  have hfind (h : Host) : h.resolveExecutable name =
      .ok ((h.searchPath.map (inDirectory · name)).find? h.isProgram) := by
    rw [resolveExecutable, if_neg hrelative, findExecutable, hbare, if_neg Bool.false_ne_true]
    rfl
  have habsolute : ∀ s ∈ h.searchPath.map (inDirectory · name), s.toList.head? = some '/' := by
    intro s hs
    obtain ⟨dir, hdir, rfl⟩ := List.mem_map.mp hs
    exact head?_inDirectory (he.search dir hdir) name
  refine ⟨?_, fun s hs => ?_⟩
  · rw [hfind, hfind, he.searchPath_eq,
      List.find?_congr fun s hs => he.isProgram_eq (habsolute s hs)]
  · rw [hfind] at hs
    exact habsolute s (List.mem_of_find?_eq_some (Except.ok.inj hs))

end Elsewhere

/-- Starting is natural: what is made of it can be made of each file that is started. -/
theorem startFirst_map {α β : Type} (h : Host) (start : Address → Option α) (f : α → β)
    (remembered : Option SystemError) (last : SystemError) (texts : List String) :
    h.startFirst (fun a => (start a).map f) remembered last texts =
      (h.startFirst start remembered last texts).map f := by
  induction texts generalizing remembered last with
  | nil => rfl
  | cons s rest ih =>
    rw [startFirst, startFirst]
    rcases h.programAt s with e | a
    · exact ih _ _
    · rcases hstart : start a with _ | x
      · simp only [hstart, Option.map_none]
        exact ih _ _
      · simp only [hstart, Option.map_some]
        rfl

theorem startFirst_congr {α : Type} {texts : List String}
    (hprogram : ∀ s ∈ texts, h'.programAt s = h.programAt s) (start : Address → Option α)
    (remembered : Option SystemError) (last : SystemError) :
    h'.startFirst start remembered last texts = h.startFirst start remembered last texts := by
  induction texts generalizing remembered last with
  | nil => rfl
  | cons s rest ih =>
    have hrest := ih fun t ht => hprogram t (List.mem_cons_of_mem s ht)
    simp only [startFirst, hprogram s List.mem_cons_self, hrest]

/-- Where a command runs is the same from everywhere if that is said absolutely. -/
theorem Elsewhere.directoryOf_eq (he : h.Elsewhere h') {p : Path} (hp : p.isAbsolute = true) :
    h'.directoryOf (some p) = h.directoryOf (some p) := by
  rw [directoryOf, directoryOf, he.stat_eq hp]

/-- A command is prepared alike from everywhere, but for the place where it runs if none is
given. -/
theorem Elsewhere.prepare_eq (he : h.Elsewhere h') {c : Call}
    (hname : ∀ name ∈ c.command.head?, '/' ∉ name.toList)
    (hdirectory : ∀ p, c.directory = some p → p.isAbsolute = true) :
    (∃ e, h.prepare c = .error e ∧ h'.prepare c = .error e) ∨
      ∃ s a a', h.prepare c = .ok (s :: c.command.tail, a) ∧
        h'.prepare c = .ok (s :: c.command.tail, a') ∧ s.toList.head? = some '/' ∧
        (a' = a ∨ c.directory = none) := by
  obtain ⟨command, directory, capture, text, check⟩ := c
  rcases command with _ | ⟨name, rest⟩
  · exact .inl ⟨_, rfl, rfl⟩
  obtain ⟨hsame, habsolute⟩ := he.resolveExecutable_eq (hname name rfl)
  rw [prepare, prepare]
  simp only [hsame]
  rcases hr : h.resolveExecutable name with e | _ | s
  · exact .inl ⟨e, rfl, rfl⟩
  · exact .inl ⟨_, rfl, rfl⟩
  · simp only [bind, Except.bind]
    split
    · exact .inl ⟨_, rfl, rfl⟩
    · rcases directory with _ | p
      · exact .inr ⟨s, _, _, rfl, rfl, habsolute s hr, .inr rfl⟩
      · rw [he.directoryOf_eq (hdirectory p rfl)]
        rcases h.directoryOf (some p) with e | a
        · exact .inl ⟨e, rfl, rfl⟩
        · exact .inr ⟨s, a, a, rfl, rfl, habsolute s hr, .inl rfl⟩

end Host

theorem Event.anywhere_launched (l : Launch) {a : Address}
    (h : a = l.directory ∨ l.command.tail = [ToolProbe.versionFlag]) :
    anywhere (.launched { l with directory := a }) = anywhere (.launched l) := by
  rcases h with rfl | h
  · rfl
  · rw [anywhere, anywhere, if_pos h, if_pos h]

variable {launch : Launcher}

/-- The commands that come to the same from everywhere: they are called by a bare name, and run in
an absolute directory or only ask for a version. -/
structure Call.Unplaced (c : Call) : Prop where
  bare : ∀ name ∈ c.command.head?, '/' ∉ name.toList
  placed : ∀ p, c.directory = some p → p.isAbsolute = true
  version : c.directory = none → c.command.tail = [ToolProbe.versionFlag]

/-- What is started with an unplaced command comes to the same from everywhere. -/
theorem Launcher.Unplaced.respectsOn (hl : launch.Unplaced) {c : Call} (hc : c.Unplaced) :
    (runCommand launch).RespectsOn c := by
  intro w w' he
  obtain ⟨e, hp, hp'⟩ | ⟨s, a, a', hp, hp', hs, ha⟩ := he.host.prepare_eq hc.bare hc.placed
  · rw [runCommand, runCommand, hp, hp']
    exact ⟨rfl, he.host, rfl⟩
  have hplace : a' = a ∨ c.command.tail = [ToolProbe.versionFlag] := ha.imp_right hc.version
  have htexts : ∀ h : Host, h.launchTexts s = [s] := by
    intro h
    have hslash : s.toList.contains '/' = true :=
      List.contains_iff_mem.mpr (List.mem_of_mem_head? hs)
    rw [Host.launchTexts, hslash, if_pos rfl]
  have hprogram : ∀ t ∈ [s],
      Host.programAt { w'.host with cwd := a' } t = Host.programAt { w.host with cwd := a } t := by
    intro t ht
    obtain rfl := List.mem_singleton.mp ht
    simp only [Host.programAt, he.host.disk_stat_eq hs a' a]
  -- elsewhere, the same launch is made in the other place
  have hlaunch : ∀ b, launch w' ⟨b, s :: c.command.tail, a'⟩ =
      launch w ⟨b, s :: c.command.tail, a⟩ := fun b => hl he rfl rfl hplace
  have hstart : (fun b => (launch w' ⟨b, s :: c.command.tail, a'⟩).map fun e =>
        ((⟨b, s :: c.command.tail, a'⟩ : Launch), e)) =
      fun b => ((launch w ⟨b, s :: c.command.tail, a⟩).map fun e =>
        ((⟨b, s :: c.command.tail, a⟩ : Launch), e)).map fun x =>
          ({ x.1 with directory := a' }, x.2) := by
    funext b
    rw [hlaunch, Option.map_map]
    rfl
  rw [runCommand, runCommand, hp, hp']
  simp only [List.headD_cons, htexts]
  rw [hstart, Host.startFirst_map, Host.startFirst_congr hprogram]
  rcases hfirst : Host.startFirst _ _ _ _ [s] with e | ⟨l, e⟩
  · exact ⟨rfl, he.host, rfl⟩
  · obtain ⟨b, hb⟩ := Host.exists_of_startFirst hfirst
    obtain ⟨e, -, ⟨⟩⟩ := Option.map_eq_some_iff.mp hb
    refine ⟨rfl, he.host, ?_⟩
    exact congrArg (· :: _) (Event.anywhere_launched ⟨b, s :: c.command.tail, a⟩ hplace)

end OptIn
