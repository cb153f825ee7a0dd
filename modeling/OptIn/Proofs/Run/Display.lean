import OptIn.Proofs.Host.Physical
import OptIn.Report

/-!
# What a path is shown as

A report shows a path by what is left of it behind the root, or as it is written if it is not below
the root. For paths that are absolute and have no `..` and no link on their way (`Host.Direct`) this
is read off the parts: a path below the root is shown by a relative text that leads from the root
back to it, any other path by its own text (`Shows`), and no two paths of different parts are shown
alike (`exists_shows`). A path that holds a NUL cannot be resolved, so it is shown as it is written,
and two slashes at the start of a path count as one.
-/

namespace OptIn

namespace Path

/-- What is left of a path behind another one whose parts begin it. -/
def behind (p base : Path) : Path := ⟨.relative, p.parts.drop base.parts.length⟩

variable {p base : Path}

theorem Proper.behind (hp : p.Proper) (base : Path) : (p.behind base).Proper :=
  fun s hs => hp s (List.mem_of_mem_drop hs)

/-- What is left behind a path leads on from it. -/
theorem join_behind (hbase : base.parts <+: p.parts) :
    base.join (p.behind base) = { p with anchor := base.anchor } := by
  obtain ⟨rest, hrest⟩ := hbase
  rw [join, behind, if_neg (by simp [isAbsolute]), ← hrest]
  simp

/-- Nothing is left behind a path of the same parts. -/
theorem behind_eq_iff (hbase : base.parts <+: p.parts) :
    p.behind base = ⟨.relative, []⟩ ↔ p.parts = base.parts := by
  obtain ⟨rest, hrest⟩ := hbase
  rw [behind, ← hrest]
  simp

theorem text_behind_eq_dot_iff (hp : p.Proper) (hbase : base.parts <+: p.parts) :
    (p.behind base).text = "." ↔ p.parts = base.parts := by
  have hdot : text ⟨.relative, []⟩ = "." := rfl
  rw [← behind_eq_iff hbase, ← hdot]
  refine ⟨fun h => ?_, congrArg text⟩
  rw [← ofText_text (hp.behind base), h]
  rfl

theorem relativeTo?_absolute (a b : List String) :
    (absolute a).relativeTo? (absolute b) =
      if b <+: a then some ((absolute a).behind (absolute b)) else none := by
  have hiff : b.isPrefixOf a = true ↔ b <+: a := List.isPrefixOf_iff_prefix
  simp [relativeTo?, absolute, behind, hiff]

end Path

namespace Host

variable {h : Host} {p q root : Path} {t : Trail} {depth : Nat} {seen : SeenLinks}

/-- A path is **direct** on a host when it is absolute and has no `..` and no link on its way. -/
structure Direct (h : Host) (p : Path) : Prop where
  isAbsolute : p.isAbsolute = true
  proper : p.Proper
  noUp : ".." ∉ p.parts
  plain : ∀ {b target}, b <+: p.parts → h.disk.node? b ≠ some (.link target)

theorem Direct.resolved (hp : h.Direct p) (hnull : holdsNull p.text = false) :
    h.Resolved (.absolute p.parts) where
  anchor := rfl
  proper := hp.proper
  noUp := hp.noUp
  noNull := by rwa [Path.holdsNull_text] at hnull ⊢
  plain := hp.plain

theorem direct_holding {directories : List Address} {files : List (Address × List UInt8)}
    (habs : p.isAbsolute = true) (hp : p.Proper) (hup : ".." ∉ p.parts) :
    (holding directories files).Direct p :=
  ⟨habs, hp, hup, fun _ => node?_holding_ne_link directories files _ _⟩

/-- Two slashes at the start count as one. -/
theorem resolution_absolute (hp : p.isAbsolute = true) :
    h.resolution p = h.resolution (.absolute p.parts) := by
  obtain ⟨anchor, parts⟩ := p
  cases anchor with
  | relative => simp [Path.isAbsolute] at hp
  | root => rfl
  | doubleRoot =>
    have htext : Path.text ⟨.doubleRoot, parts⟩ = "/" ++ ("/" ++ "/".intercalate parts) := by
      rw [← String.append_assoc]
      rfl
    have hroot : (Path.absolute parts).text = "/" ++ "/".intercalate parts := rfl
    rw [resolution, resolution, htext, hroot, Path.slashPieces_append_slash, if_pos hp,
      resolveFrom_stay (.inl rfl)]
    rfl

/-- A name with a NUL ends resolving. -/
theorem resolveFrom_of_null {names : List String}
    (hnames : ∀ s ∈ names, s ≠ "" ∧ s ≠ "." ∧ s ≠ "..")
    (hnull : ∃ s ∈ names, holdsNull s = true)
    (hplain : ∀ front, front <+: names → h.linkAt? { t with names := t.names ++ front } = none) :
    h.resolveFrom depth t names seen = .error .embeddedNull := by
  induction names generalizing t with
  | nil =>
    obtain ⟨s, hs, -⟩ := hnull
    cases hs
  | cons name rest ih =>
    obtain ⟨hne, hdot, hup⟩ := hnames name List.mem_cons_self
    rcases hname : holdsNull name with _ | _
    · have hlink : h.linkAt? (t.down name) = none := hplain [name] ⟨rest, rfl⟩
      rw [resolveFrom_plain hne hdot hup hname hlink]
      refine ih (fun s hs => hnames s (List.mem_cons_of_mem _ hs)) ?_ fun front hfront => ?_
      · obtain ⟨s, hs, hnull⟩ := hnull
        rcases List.mem_cons.mp hs with rfl | hs
        · rw [hname] at hnull
          cases hnull
        · exact ⟨s, hs, hnull⟩
      · have hlonger := hplain (name :: front) (List.cons_prefix_cons.mpr ⟨rfl, hfront⟩)
        simpa [Trail.down] using hlonger
    · exact resolveFrom_null hne hdot hup hname

theorem Direct.names (hp : h.Direct p) : ∀ s ∈ p.parts, s ≠ "" ∧ s ≠ "." ∧ s ≠ ".." :=
  fun s hs => ⟨(hp.proper s hs).ne_empty, (hp.proper s hs).ne_dot, fun h => hp.noUp (h ▸ hs)⟩

theorem Direct.resolution_of_null (hp : h.Direct p) (hnull : holdsNull p.text = true) :
    h.resolution p = .error .embeddedNull := by
  rw [Path.holdsNull_text, List.any_eq_true] at hnull
  have hne : p.parts ≠ [] := fun hnil => by simp [hnil] at hnull
  have htext : (Path.absolute p.parts).text = "/" ++ "/".intercalate p.parts := rfl
  have habs : (Path.absolute p.parts).isAbsolute = true := rfl
  rw [resolution_absolute hp.isAbsolute, resolution, htext, Path.slashPieces_append_slash,
    slashPieces_intercalate hne fun s hs => (hp.proper s hs).noSlash, if_pos habs,
    resolveFrom_stay (.inl rfl)]
  exact resolveFrom_of_null hp.names hnull fun front hfront => linkAt?_eq_none
    (fun hup => hp.noUp (hfront.subset hup)) fun target => hp.plain hfront

/-- A direct path resolves to itself, from one slash, unless it holds a NUL. -/
theorem Direct.resolve_eq (hp : h.Direct p) :
    h.resolve p =
      if holdsNull p.text then .error .embeddedNull else .ok (.absolute p.parts) := by
  split
  · rename_i hnull
    have hresolution := hp.resolution_of_null hnull
    rw [resolution] at hresolution
    simp only [resolve, hresolution]
    rfl
  · rename_i hnull
    rw [resolve_congr (resolution_absolute hp.isAbsolute)]
    exact (hp.resolved (by simpa using hnull)).resolve_eq

end Host

open Host

variable {h : Host} {p q root : Path} {s : String}

/-- A path is **shown below** a root when the parts of the root begin it and it holds no NUL. -/
def ShownBelow (root p : Path) : Prop := root.parts <+: p.parts ∧ holdsNull p.text = false

theorem ShownBelow.holdsNull_root (hb : ShownBelow root p) : holdsNull root.text = false := by
  have hnull := hb.2
  rw [Path.holdsNull_text, List.any_eq_false] at hnull ⊢
  exact fun s hs => hnull s (hb.1.subset hs)

/-- A direct path below a direct root is shown by what is left of it behind the root. -/
theorem displayPath_of_shownBelow (hroot : h.Direct root) (hp : h.Direct p)
    (hb : ShownBelow root p) : displayPath h p root = .ok (p.behind root).text := by
  have hseen : (Path.absolute p.parts).relativeTo? (.absolute root.parts) =
      some (p.behind root) := by
    rw [Path.relativeTo?_absolute, if_pos hb.1]
    rfl
  rw [displayPath, hp.resolve_eq, hroot.resolve_eq, hb.2, hb.holdsNull_root]
  simp only [bind, Except.bind, pure, Except.pure, Bool.false_eq_true, if_false, hseen]

/-- Any other direct path is shown as it is written. -/
theorem displayPath_of_not_shownBelow (hroot : h.Direct root) (hp : h.Direct p)
    (hb : ¬ShownBelow root p) : displayPath h p root = .ok p.text := by
  rw [displayPath, hp.resolve_eq, hroot.resolve_eq]
  rcases hnull : holdsNull p.text with _ | _
  · rcases hrootNull : holdsNull root.text with _ | _
    · have hfront : ¬root.parts <+: p.parts := fun hfront => hb ⟨hfront, hnull⟩
      have hseen : (Path.absolute p.parts).relativeTo? (.absolute root.parts) = none := by
        rw [Path.relativeTo?_absolute, if_neg hfront]
      simp only [bind, Except.bind, pure, Except.pure, Bool.false_eq_true, if_false, hseen]
    · rfl
  · rfl

/-- How a direct path is written when it is shown: relative and leading from the root back to the
path if it is below the root, and as the path is written otherwise. -/
structure Shows (root p : Path) (s : String) : Prop where
  relative : ShownBelow root p → s.toList.head? ≠ some '/'
  leads : ShownBelow root p → root.join (.ofText s) = { p with anchor := root.anchor }
  dot : ShownBelow root p → (s = "." ↔ p.parts = root.parts)
  written : ¬ShownBelow root p → s = p.text

theorem shows_of_displayPath (hroot : h.Direct root) (hp : h.Direct p)
    (hs : displayPath h p root = .ok s) : Shows root p s := by
  by_cases hb : ShownBelow root p
  · rw [displayPath_of_shownBelow hroot hp hb] at hs
    cases hs
    have hproper := hp.proper.behind root
    refine ⟨fun _ => ?_, fun _ => ?_, fun _ => Path.text_behind_eq_dot_iff hp.proper hb.1,
      fun hnot => absurd hb hnot⟩
    · rw [ne_eq, Path.head?_text_eq_slash_iff hproper]
      simp [Path.behind, Path.isAbsolute]
    · rw [Path.ofText_text hproper, Path.join_behind hb.1]
  · rw [displayPath_of_not_shownBelow hroot hp hb] at hs
    cases hs
    exact ⟨fun h => absurd h hb, fun h => absurd h hb, fun h => absurd h hb, fun _ => rfl⟩

/-- What a path is shown as tells its parts. -/
theorem Shows.parts_eq (hp : p.Proper) (hpabs : p.isAbsolute = true) (hq : q.Proper)
    (hqabs : q.isAbsolute = true) (hps : Shows root p s) (hqs : Shows root q s) :
    q.parts = p.parts := by
  by_cases hpb : ShownBelow root p <;> by_cases hqb : ShownBelow root q
  · have hjoin := (hqs.leads hqb).symm.trans (hps.leads hpb)
    exact (Path.ext_iff.mp hjoin).2
  · have hslash := (Path.head?_text_eq_slash_iff hq).mpr hqabs
    exact absurd (hqs.written hqb ▸ hslash) (hps.relative hpb)
  · have hslash := (Path.head?_text_eq_slash_iff hp).mpr hpabs
    exact absurd (hps.written hpb ▸ hslash) (hqs.relative hqb)
  · have htext : q.text = p.text := (hqs.written hqb).symm.trans (hps.written hpb)
    rw [← Path.ofText_text hq, htext, Path.ofText_text hp]

/-- **What is shown names the file.** -/
theorem exists_shows (hroot : h.Direct root) (hp : h.Direct p) :
    ∃ s, displayPath h p root = .ok s ∧ Shows root p s ∧
      ∀ q, h.Direct q → displayPath h q root = .ok s → q.parts = p.parts := by
  obtain ⟨s, hs⟩ : ∃ s, displayPath h p root = .ok s := by
    by_cases hb : ShownBelow root p
    · exact ⟨_, displayPath_of_shownBelow hroot hp hb⟩
    · exact ⟨_, displayPath_of_not_shownBelow hroot hp hb⟩
  have hshows := shows_of_displayPath hroot hp hs
  exact ⟨s, hs, hshows, fun q hq hqs => hshows.parts_eq hp.proper hp.isAbsolute hq.proper
    hq.isAbsolute (shows_of_displayPath hroot hq hqs)⟩

theorem exists_shows_sample :
    let h := Host.holding [["r"]] []
    let root := Path.absolute ["r"]
    let p := Path.absolute ["r", "a", "b.py"]
    (h.Direct root ∧ h.Direct p) ∧
      ∃ s, displayPath h p root = .ok s ∧ Shows root p s ∧
        ∀ q, h.Direct q → displayPath h q root = .ok s → q.parts = p.parts := by
  intro h root p
  have hroot : h.Direct root := direct_holding rfl (by decide) (by decide)
  have hp : h.Direct p := direct_holding rfl (by decide) (by decide)
  exact ⟨⟨hroot, hp⟩, exists_shows hroot hp⟩

example : displayPath (.holding [["r"]] []) (.absolute ["r", "a", "b.py"]) (.absolute ["r"]) =
    .ok "a/b.py" := by decide +kernel

/-- A directory beside the root whose name begins with that of the root is not below it. -/
example : displayPath (.holding [["r"]] []) (.absolute ["r2", "b.py"]) (.absolute ["r"]) =
    .ok "/r2/b.py" := by decide +kernel

/-- A path below the root is not shown from there when it holds a NUL, and paths that only differ in
the slashes at their start are shown alike. -/
theorem displayPath_null_doubleRoot :
    let h := Host.holding [["r"]] []
    let root := Path.absolute ["r"]
    let p := Path.absolute ["r", "a\x00b"]
    let root' := Path.mk .doubleRoot ["r"]
    (h.Direct root ∧ h.Direct p ∧ root.parts <+: p.parts ∧
      displayPath h p root = .ok "/r/a\x00b") ∧
    (h.Direct root' ∧ root ≠ root' ∧ displayPath h root root' = .ok "." ∧
      displayPath h root' root' = .ok ".") := by
  intro h root p root'
  have hroot : h.Direct root := direct_holding rfl (by decide) (by decide)
  have hp : h.Direct p := direct_holding rfl (by decide) (by decide)
  have hroot' : h.Direct root' := direct_holding rfl (by decide) (by decide)
  exact ⟨⟨hroot, hp, by decide, by decide +kernel⟩,
    hroot', by decide, by decide +kernel, by decide +kernel⟩

end OptIn
