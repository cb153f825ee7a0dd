import Mathlib.Algebra.Order.BigOperators.Group.List
import Mathlib.Algebra.Order.Ring.Nat
import OptIn.Proofs.Header.Boundary
import OptIn.Proofs.Host.Checked
import OptIn.Proofs.Text.Newlines
import OptIn.Proofs.Tool.Launching
import OptIn.Source

/-!
# Sources that agree

The same names can be given as entries, stand on the lines of a text, or be listed by version
control. The entries and the lines lead to the same paths. What is listed is cut at every line
boundary, so a name that holds one is taken for several, and then more paths come than there are
names: the third source agrees with the others exactly if no name does (`Source.paths_agree`).
-/

namespace OptIn

/-! ### Names on lines -/

/-- A **plain name** is one that a line can hold: it is not empty, holds no newline, and has no
blanks at its ends. -/
structure PlainName (s : String) : Prop where
  nonempty : s ≠ ""
  unbroken : Text.Unbroken s.toList
  head : ∀ c ∈ s.toList.head?, Text.isBlank c = false
  last : ∀ c ∈ s.toList.getLast?, Text.isBlank c = false

theorem plainName_iff {s : String} : PlainName s ↔
    s ≠ "" ∧ Text.Unbroken s.toList ∧ (s.toList.head?.all fun c => !Text.isBlank c) = true ∧
      (s.toList.getLast?.all fun c => !Text.isBlank c) = true := by
  simp only [Option.all_eq_true, Bool.not_eq_true']
  exact ⟨fun h => ⟨h.nonempty, h.unbroken, h.head, h.last⟩, fun h => ⟨h.1, h.2.1, h.2.2.1, h.2.2.2⟩⟩

instance (s : String) : Decidable (PlainName s) := decidable_of_iff _ plainName_iff.symm

namespace Source

variable {root : Path} {w v : World} {s : String} {names lines : List String} {qs : List Path}

theorem lineName?_eq_some (h : PlainName s) : lineName? s = some s := by
  have htrim : Text.trimmed s = s := by
    rw [Text.trimmed, Text.trim_eq_self ⟨h.head, h.last⟩, String.ofList_toList]
  simp [lineName?, htrim, h.nonempty]

/-- A line that holds more than blanks holds a name. -/
theorem lineName?_ne_none {c : Char} (hc : c ∈ s.toList) (hblank : Text.isBlank c = false) :
    lineName? s ≠ none := by
  have htrim : Text.trim s.toList ≠ [] := fun hnil => by
    have hall := Text.trim_eq_nil_iff.mp hnil c hc
    rw [hblank] at hall
    cases hall
  simpa [lineName?, Text.trimmed] using htrim

/-- The names that stand on lines. -/
def namesOn (ls : List (List Char)) : List String := (ls.map String.ofList).filterMap lineName?

theorem namesOn_append (ls ms : List (List Char)) :
    namesOn (ls ++ ms) = namesOn ls ++ namesOn ms := by
  rw [namesOn, List.map_append, List.filterMap_append, ← namesOn, ← namesOn]

theorem namesOn_flatMap {α : Type} (f : α → List (List Char)) (xs : List α) :
    namesOn (xs.flatMap f) = xs.flatMap fun x => namesOn (f x) := by
  induction xs with
  | nil => rfl
  | cons x xs ih => rw [List.flatMap_cons, namesOn_append, ih, List.flatMap_cons]

/-- Plain names stand on their own lines. -/
theorem namesOn_map_toList (h : ∀ s ∈ names, PlainName s) :
    namesOn (names.map String.toList) = names := by
  induction names with
  | nil => rfl
  | cons s names ih =>
    rw [List.map_cons, namesOn, List.map_cons, String.ofList_toList,
      List.filterMap_cons_some (lineName?_eq_some (h s List.mem_cons_self)), ← namesOn,
      ih fun t ht => h t (List.mem_cons_of_mem s ht)]

/-- The names that are read from a text which is cut at every line boundary. -/
def readNames (cs : List Char) : List String := namesOn (Text.pieces Text.isLineBoundary cs)

/-- A plain name without a line boundary is read as it is. -/
theorem readNames_eq_singleton (h : PlainName s)
    (hclear : ∀ c ∈ s.toList, Text.isLineBoundary c = false) : readNames s.toList = [s] := by
  have hself : namesOn ([s].map String.toList) = [s] :=
    namesOn_map_toList (List.forall_mem_singleton.mpr h)
  rw [readNames, Text.pieces_of_forall_not hclear, ← hself, List.map_singleton]

/-- Something is read from a text that holds more than blanks. -/
theorem length_readNames_pos {c : Char} {cs : List Char} (hc : c ∈ cs)
    (hblank : Text.isBlank c = false) : 0 < (readNames cs).length := by
  have hboundary : Text.isLineBoundary c = false :=
    Bool.eq_false_iff.mpr fun h => by simp [Text.isBlank_of_isLineBoundary h] at hblank
  obtain ⟨l, hl, hcl⟩ := Text.exists_mem_pieces hc hboundary
  have hname : lineName? (String.ofList l) ≠ none :=
    lineName?_ne_none (by rwa [String.toList_ofList]) hblank
  obtain ⟨name, hname⟩ := Option.ne_none_iff_exists'.mp hname
  exact List.length_pos_of_mem (List.mem_filterMap.mpr ⟨_, List.mem_map_of_mem hl, hname⟩)

/-- A plain name that holds a line boundary is read as several. -/
theorem one_lt_length_readNames (h : PlainName s)
    (hboundary : ∃ c ∈ s.toList, Text.isLineBoundary c = true) :
    1 < (readNames s.toList).length := by
  obtain ⟨c, hc, hboundary⟩ := hboundary
  have hblank : ¬Text.isBlank c = false := by simp [Text.isBlank_of_isLineBoundary hboundary]
  obtain ⟨before, after, hs⟩ := List.append_of_mem hc
  -- the ends of the name are no blanks, so there is more on both sides of the boundary
  have hbefore : before ≠ [] := fun hnil => hblank (h.head c (by rw [hs, hnil]; rfl))
  have hafter : after ≠ [] := fun hnil => hblank (h.last c (by simp [hs, hnil]))
  obtain ⟨x, front, rfl⟩ := List.exists_cons_of_ne_nil hbefore
  obtain ⟨y, hy⟩ := Option.isSome_iff_exists.mp (List.getLast?_isSome.mpr hafter)
  have hfirst : 0 < (readNames (x :: front)).length :=
    length_readNames_pos List.mem_cons_self (h.head x (by rw [hs]; rfl))
  have hsecond : 0 < (readNames after).length :=
    length_readNames_pos (List.mem_of_getLast? hy) (h.last y (by
      rw [hs, List.getLast?_append, List.getLast?_cons, hy]; rfl))
  rw [hs, readNames, Text.pieces_append hboundary, namesOn_append, List.length_append, ← readNames,
    ← readNames]
  omega

theorem flatMap_readNames_eq_self (h : ∀ s ∈ names, PlainName s)
    (hclear : ∀ s ∈ names, ∀ c ∈ s.toList, Text.isLineBoundary c = false) :
    (names.flatMap fun s => readNames s.toList) = names := by
  have hself : ∀ s ∈ names, readNames s.toList = [s] := fun s hs =>
    readNames_eq_singleton (h s hs) (hclear s hs)
  rw [List.flatMap_congr hself, List.flatMap_singleton']

/-- If a line boundary is in one of the plain names, more names are read than there are. -/
theorem length_lt_length_flatMap_readNames (h : ∀ s ∈ names, PlainName s)
    (hboundary : ∃ s ∈ names, ∃ c ∈ s.toList, Text.isLineBoundary c = true) :
    names.length < (names.flatMap fun s => readNames s.toList).length := by
  have hpos : ∀ s ∈ names, 0 < (readNames s.toList).length := fun s hs => by
    by_cases hs' : ∃ c ∈ s.toList, Text.isLineBoundary c = true
    · exact Nat.zero_lt_of_lt (one_lt_length_readNames (h s hs) hs')
    · rw [readNames_eq_singleton (h s hs) (by simpa using hs')]
      exact Nat.zero_lt_one
  obtain ⟨s, hs, hs'⟩ := hboundary
  calc names.length = (names.map fun _ => 1).sum := by simp
    _ < (names.map fun s => (readNames s.toList).length).sum :=
        List.sum_lt_sum _ _ hpos ⟨s, hs, one_lt_length_readNames (h s hs) hs'⟩
    _ = (names.flatMap fun s => readNames s.toList).length := by
        rw [List.length_flatMap]

/-! ### Finding what names lead to -/

/-- Names **lead to** paths on a host, each to one. -/
def LeadTo (root : Path) (h : Host) : List String → List Path → Prop :=
  List.Forall₂ fun s q => h.resolve (root.join (Path.ofText s)) = .ok q

/-- Finds the paths that names lead to, one after the other. -/
def finding (root : Path) (names : List String) : Action World (List Path) :=
  (names.map fun s => found root (Path.ofText s)).mapM id

theorem finding_cons (root : Path) (s : String) (names : List String) :
    finding root (s :: names) = do
      let q ← found root (Path.ofText s)
      let qs ← finding root names
      return q :: qs := by
  rw [finding, finding, List.map_cons, List.mapM_cons, id_eq]

theorem run_finding (h : LeadTo root w.host names qs) :
    (finding root names).run w = (.ok qs, w) := by
  induction h with
  | nil => rfl
  | @cons s q names qs hq _ ih =>
    have hfound : (found root (Path.ofText s)).run w = (.ok q, w) := by
      rw [found, World.run_ask, hq]
    rw [finding_cons, Action.run_bind_ok hfound, Action.run_bind_ok ih, Action.run_pure]

/-- There are as many paths as names. -/
theorem length_eq_of_run_finding (h : (finding root names).run w = (.ok qs, v)) :
    qs.length = names.length := by
  induction names generalizing w qs with
  | nil =>
    cases h
    rfl
  | cons s names ih =>
    rw [finding_cons] at h
    obtain ⟨q, w', -, h⟩ := Action.exists_of_run_bind_ok h
    obtain ⟨rest, v', hrest, h⟩ := Action.exists_of_run_bind_ok h
    cases h
    rw [List.length_cons, List.length_cons, ih hrest]

theorem paths_ofEntries (root : Path) (names : List String) :
    (ofEntries root (names.map Path.ofText)).paths = finding root names := by
  rw [paths, ofEntries, pure_bind, List.map_map]
  rfl

theorem paths_ofLines (root : Path) (lines : List String) :
    (ofLines root lines).paths = finding root (lines.filterMap lineName?) := by
  rw [paths, ofLines, pure_bind, finding]

/-! ### What version control lists -/

/-- The command that lists the files under version control, as it is performed. -/
def gitCall (root : Path) (staged : Bool) : Call :=
  { command := gitCommand staged, directory := some root, capture := true, check := false }

/-- The paths that version control gives are those to which the names on the lines of its output
lead. -/
theorem exists_run_paths_git {launch : Launcher} {staged : Bool} {text : String}
    (h : launch.Prints w (gitCall root staged) text) :
    ∃ v, v.host = w.host ∧
      (git (runCommand launch) root staged).paths.run w =
        (finding root (namesOn (Text.splitLines (Text.unifyNewlines text.toList)))).run v := by
  obtain ⟨l, e, hl, he, hstatus, rfl⟩ := h
  obtain ⟨command, v, hperform, hhost⟩ := exists_run_perform_of_launched hl he
  refine ⟨v, hhost, ?_⟩
  have hlisting : (listing (runCommand launch) (gitCommand staged) root).run w =
      (.ok ((Text.splitLines (Text.unifyNewlines e.stdout.toList)).map String.ofList), v) := by
    have hattempt : ((runCommand launch).perform (gitCall root staged)).attempt.run w =
        (.ok (completion (gitCall root staged) command e), v) := by
      rw [Action.run_attempt, hperform]
    rw [listing, ← gitCall, Action.run_bind_ok hattempt]
    simp [completion, gitCall, caught, hstatus]
  rw [paths, git, ofListing, bind_assoc, Action.run_bind_ok hlisting, ← paths, paths_ofLines]
  rfl

theorem fileLines_of_writes {n : Text.Newline} {text : List Char}
    (h : ∀ s ∈ names, PlainName s) (hw : n.Writes (names.map String.toList) text) :
    Text.fileLines text = names.map String.toList := by
  refine hw.fileLines_eq ?_ fun hlast => ?_
  · simpa using fun s hs => (h s hs).unbroken
  · obtain ⟨s, hs, hnil⟩ := List.mem_map.mp (List.mem_of_getLast? hlast)
    exact (h s hs).nonempty (String.toList_eq_nil_iff.mp hnil)

/-- The names that are listed one on each line are cut further, each on its own. -/
theorem namesOn_splitLines {text : List Char} (h : ∀ s ∈ names, PlainName s)
    (hw : Text.Newline.lf.Writes (names.map String.toList) text) :
    namesOn (Text.splitLines text) = names.flatMap fun s => readNames s.toList := by
  obtain ⟨tail, htail, hcut⟩ := Text.flatMap_pieces_fileLines text
  have hnothing : namesOn tail = [] := by rcases htail with rfl | rfl <;> decide
  calc namesOn (Text.splitLines text)
      = namesOn (Text.splitLines text ++ tail) := by
        rw [namesOn_append, hnothing, List.append_nil]
    _ = namesOn ((names.map String.toList).flatMap (Text.pieces Text.isLineBoundary)) := by
        rw [← hcut, fileLines_of_writes h hw]
    _ = names.flatMap fun s => readNames s.toList := by
        rw [namesOn_flatMap, List.flatMap_map]
        rfl

/-- What is read of plain names leads to their paths exactly if no line boundary is in them. If one
is, there are more paths than names. -/
theorem fst_run_finding_flatMap_eq_iff (hplain : ∀ s ∈ names, PlainName s)
    (hlead : LeadTo root w.host names qs) :
    ((finding root (names.flatMap fun s => readNames s.toList)).run w).1 = .ok qs ↔
      ∀ s ∈ names, ∀ c ∈ s.toList, Text.isLineBoundary c = false := by
  constructor
  · intro hqs
    by_contra hboundary
    have hmore := length_lt_length_flatMap_readNames hplain (by simpa using hboundary)
    rw [← length_eq_of_run_finding (Prod.ext hqs rfl), ← hlead.length_eq] at hmore
    exact lt_irrefl _ hmore
  · intro hclear
    rw [flatMap_readNames_eq_self hplain hclear, run_finding hlead]

/-- **Sources agree.** Let plain names lead to paths. Given as entries they give these paths, and so
they do on the lines of a text, whichever of the three conventions it uses, and if it is cut at line
feeds only. When version control prints them, one on each line, it gives these paths exactly if no
name holds a line boundary. -/
theorem paths_agree {launch : Launcher} {staged : Bool} (hplain : ∀ s ∈ names, PlainName s)
    (hlead : LeadTo root w.host names qs)
    (hprints : launch.Prints w (gitCall root staged)
      (String.ofList (Text.Newline.lf.ended (names.map String.toList)))) :
    (ofEntries root (names.map Path.ofText)).paths.run w = (.ok qs, w) ∧
    (∀ n text, Text.Newline.Writes n (names.map String.toList) text →
      (ofLines root ((Text.fileLines text).map String.ofList)).paths.run w = (.ok qs, w)) ∧
    (∀ text, Text.Newline.Writes .lf (names.map String.toList) text →
      (ofLines root ((Text.feedLines text).map String.ofList)).paths.run w = (.ok qs, w)) ∧
    (((git (runCommand launch) root staged).paths.run w).1 = .ok qs ↔
      ∀ s ∈ names, ∀ c ∈ s.toList, Text.isLineBoundary c = false) := by
  have hunbroken : ∀ l ∈ names.map String.toList, Text.Unbroken l := by
    simpa using fun s hs => (hplain s hs).unbroken
  have hnames := namesOn_map_toList hplain
  refine ⟨?_, fun n text hw => ?_, fun text hw => ?_, ?_⟩
  · rw [paths_ofEntries, run_finding hlead]
  · rw [paths_ofLines, fileLines_of_writes hplain hw, ← namesOn, hnames, run_finding hlead]
  · rw [paths_ofLines, ← Text.fileLines_eq_feedLines (hw.return_not_mem hunbroken),
      fileLines_of_writes hplain hw, ← namesOn, hnames, run_finding hlead]
  · obtain ⟨v, hhost, hrun⟩ := exists_run_paths_git hprints
    rw [hrun, String.toList_ofList,
      Text.unifyNewlines_eq_self (Text.Newline.Writes.ended.return_not_mem hunbroken),
      namesOn_splitLines hplain .ended, fst_run_finding_flatMap_eq_iff hplain (hhost ▸ hlead)]

/-- The host with a directory `/r` and a program `git`. -/
def gitHost : Host where
  disk := ⟨[([], .directory 0), (["bin"], .directory 0), (["r"], .directory 0),
    (["bin", "git"], .file [] true 0)]⟩
  cwd := []
  environ := []
  homes := []
  clock := 10

/-- What is launched to list the files under version control in `/r`. -/
def gitLaunch : Launch := ⟨["bin", "git"], ["/bin/git", "ls-files"], ["r"]⟩

/-- A name with a blank in it, one seen from the root, and one that leads upwards. -/
theorem paths_agree_sample : ∃ (w : World) (launch : Launcher),
    w.host = gitHost ∧ launch w gitLaunch = some { stdout := "a é.py\n/bin/git\n../x\n" } ∧
    (ofEntries (.absolute ["r"]) (["a é.py", "/bin/git", "../x"].map Path.ofText)).paths.run w =
      (.ok [.absolute ["r", "a é.py"], .absolute ["bin", "git"], .absolute ["x"]], w) ∧
    (ofLines (.absolute ["r"]) ((Text.fileLines "a é.py\r/bin/git\r../x".toList).map
      String.ofList)).paths.run w =
        (.ok [.absolute ["r", "a é.py"], .absolute ["bin", "git"], .absolute ["x"]], w) ∧
    ((git (runCommand launch) (.absolute ["r"]) false).paths.run w).1 =
      .ok [.absolute ["r", "a é.py"], .absolute ["bin", "git"], .absolute ["x"]] := by
  generalize hw : World.mk gitHost [] = w
  obtain ⟨launch, hlaunch⟩ : ∃ launch : Launcher,
      launch = fun _ _ => some { stdout := "a é.py\n/bin/git\n../x\n" } := ⟨_, rfl⟩
  have hplain : ∀ s ∈ ["a é.py", "/bin/git", "../x"], PlainName s := by decide +kernel
  have hlead : LeadTo (.absolute ["r"]) w.host ["a é.py", "/bin/git", "../x"]
      [.absolute ["r", "a é.py"], .absolute ["bin", "git"], .absolute ["x"]] := by
    subst hw
    exact .cons (by decide +kernel) (.cons (by decide +kernel) (.cons (by decide +kernel) .nil))
  have hprints : launch.Prints w (gitCall (.absolute ["r"]) false)
      (String.ofList (Text.Newline.lf.ended
        (["a é.py", "/bin/git", "../x"].map String.toList))) := by
    subst hw hlaunch
    exact ⟨gitLaunch, _, by decide +kernel, rfl, rfl, by decide +kernel⟩
  have hclear : (["a é.py", "/bin/git", "../x"].all fun s =>
      s.toList.all fun c => !Text.isLineBoundary c) = true := by decide +kernel
  obtain ⟨hentries, hlines, -, hgit⟩ := paths_agree hplain hlead hprints
  refine ⟨w, launch, hw ▸ rfl, hlaunch ▸ rfl, hentries, hlines .cr _ .joined,
    hgit.mpr fun s hs c hc => ?_⟩
  simpa using List.all_eq_true.mp (List.all_eq_true.mp hclear s hs) c hc

/-- A name with a line separator in it is one path among the entries and two in the listing. -/
theorem paths_git_ne_paths_ofEntries : ∃ (w : World) (launch : Launcher),
    w.host = gitHost ∧ launch w gitLaunch = some { stdout := "a\u2028b.py\n" } ∧
    PlainName "a\u2028b.py" ∧
    ((ofEntries (.absolute ["r"]) [Path.ofText "a\u2028b.py"]).paths.run w).1 =
      .ok [.absolute ["r", "a\u2028b.py"]] ∧
    ((git (runCommand launch) (.absolute ["r"]) false).paths.run w).1 =
      .ok [.absolute ["r", "a"], .absolute ["r", "b.py"]] := by
  exact ⟨⟨gitHost, []⟩, fun _ _ => some { stdout := "a\u2028b.py\n" }, rfl, rfl,
    by decide +kernel, by decide +kernel, by decide +kernel⟩

end Source

end OptIn
