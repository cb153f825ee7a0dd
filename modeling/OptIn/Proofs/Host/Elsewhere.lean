import OptIn.Executable
import OptIn.Proofs.Host.Checked
import OptIn.Proofs.Host.Resolving

/-!
# A host seen from elsewhere

Two hosts that differ in their working directory alone answer alike about absolute paths. For what
stands at a path this can be read off the way in which names are followed (`Elsewhere.stat_eq`). For
resolving there is more to it: how deep links may be entered is bounded by a number in which the
working directory has a part. But from the root no link is entered inside itself, so the bound is
never met (`resolveFrom_eq_of_rooted`), and absolute paths resolve alike (`Elsewhere.resolve_eq`).
-/

namespace OptIn

/-- A path's text begins with a slash if the path is absolute. -/
theorem Path.head?_text_of_isAbsolute {p : Path} (hp : p.isAbsolute = true) :
    p.text.toList.head? = some '/' := by
  obtain ⟨anchor, parts⟩ := p
  cases anchor with
  | relative => cases hp
  | root => simp [text, Anchor.text]
  | doubleRoot => simp [text, Anchor.text]

theorem Path.isAbsolute_ofText {s : String} :
    (ofText s).isAbsolute = true ↔ s.toList.head? = some '/' := by
  rw [isAbsolute, ofText, anchorOf.eq_def]
  split <;> simp_all [List.head?_eq_some_iff]

/-- What is seen from an absolute path is absolute. -/
theorem Path.isAbsolute_join {p : Path} (hp : p.isAbsolute = true) (q : Path) :
    (p.join q).isAbsolute = true := by
  rw [join]
  split
  · assumption
  · exact hp

theorem isAbsolute_plainPath {s : String} (hs : s.toList.head? = some '/') :
    (plainPath s).isAbsolute = true :=
  Path.isAbsolute_ofText.mpr hs

theorem head?_joinedText {a b : String} (ha : a.toList.head? = some '/') :
    (joinedText a b).toList.head? = some '/' := by
  rw [joinedText]
  split
  · assumption
  · split
    · rw [String.toList_append, List.head?_append, ha]
      rfl
    · rw [String.toList_append, String.toList_append, List.head?_append, List.head?_append, ha]
      rfl

namespace Trail

/-- A trail from the root that never goes up. -/
structure Rooted (t : Trail) : Prop where
  fromRoot : t.fromRoot = true
  noUp : ".." ∉ t.names

variable {t u : Trail} {name : String}

theorem rooted_root : root.Rooted := ⟨rfl, fun h => nomatch h⟩

theorem Rooted.down (ht : t.Rooted) (hname : name ≠ "..") : (t.down name).Rooted where
  fromRoot := ht.fromRoot
  noUp := by simpa [Trail.down] using ⟨ht.noUp, hname.symm⟩

theorem Rooted.up (ht : t.Rooted) : t.up.Rooted := by
  rw [Trail.up]
  split
  · rw [if_pos ht.fromRoot]
    exact ht
  · rw [if_pos ht.fromRoot]
    exact ht
  · exact ⟨ht.fromRoot, fun h => ht.noUp (List.dropLast_subset _ h)⟩

theorem Rooted.address_eq (ht : t.Rooted) (cwd : Address) : t.address cwd = t.names := by
  obtain ⟨fromRoot, names⟩ := t
  obtain rfl : fromRoot = true := ht.fromRoot
  exact Host.address_root names ht.noUp cwd

theorem Rooted.head?_text (ht : t.Rooted) : t.text.toList.head? = some '/' := by
  simp [text, ht.fromRoot]

theorem Rooted.eq_of_names_eq (ht : t.Rooted) (hu : u.Rooted) (h : t.names = u.names) : t = u := by
  obtain ⟨b, names⟩ := t
  obtain ⟨b', names'⟩ := u
  obtain rfl : b = true := ht.fromRoot
  obtain rfl : b' = true := hu.fromRoot
  rw [Trail.mk.injEq]
  exact ⟨rfl, h⟩

end Trail

namespace Host

/-- The same host **elsewhere**: in another working directory, all else being equal. Executables are
searched in absolute directories only. -/
structure Elsewhere (h h' : Host) : Prop where
  disk : h'.disk = h.disk
  environ : h'.environ = h.environ
  homes : h'.homes = h.homes
  clock : h'.clock = h.clock
  search : ∀ dir ∈ h.searchPath, dir.toList.head? = some '/'

namespace Elsewhere

variable {h h' : Host} {p : Path} {s : String}

theorem add (he : h.Elsewhere h') (a : Address) (n : Node) :
    (h.add a n).Elsewhere (h'.add a n) where
  disk := by rw [Host.add, Host.add, he.disk, he.clock]
  environ := he.environ
  homes := he.homes
  clock := he.clock
  search := he.search

theorem replace (he : h.Elsewhere h') (a : Address) (n : Node) :
    (h.replace a n).Elsewhere (h'.replace a n) where
  disk := by rw [Host.replace, Host.replace, he.disk]
  environ := he.environ
  homes := he.homes
  clock := he.clock
  search := he.search

/-! ### What stands at a path -/

theorem disk_stat_eq (he : h.Elsewhere h') (hs : s.toList.head? = some '/') (a b : Address) :
    h'.disk.stat a s = h.disk.stat b s := by
  have hstart : ∀ cwd, Disk.startOf cwd s = [] := fun cwd => by rw [Disk.startOf, if_pos hs]
  rw [Disk.stat, Disk.stat, Disk.place, Disk.place, hstart, hstart, he.disk]

theorem placeOf_eq (he : h.Elsewhere h') (purpose : Disk.Purpose)
    (hs : s.toList.head? = some '/') : h'.placeOf purpose s = h.placeOf purpose s := by
  have hstart : ∀ cwd, Disk.startOf cwd s = [] := fun cwd => by rw [Disk.startOf, if_pos hs]
  rw [placeOf, placeOf, Disk.place, Disk.place, hstart, hstart, he.disk]

theorem statText_eq (he : h.Elsewhere h') (hs : s.toList.head? = some '/') :
    h'.statText s = h.statText s := by
  rw [statText, statText, he.placeOf_eq .use hs]

theorem stat_eq (he : h.Elsewhere h') (hp : p.isAbsolute = true) : h'.stat p = h.stat p :=
  he.statText_eq (Path.head?_text_of_isAbsolute hp)

theorem holds_eq (he : h.Elsewhere h') (hp : p.isAbsolute = true) (good : Node → Bool) :
    h'.holds good p = h.holds good p := by
  rw [holds, holds, he.stat_eq hp]

theorem changed_eq (he : h.Elsewhere h') (hp : p.isAbsolute = true) :
    h'.changed p = h.changed p := by
  rw [changed, changed, he.stat_eq hp]

theorem read_eq (he : h.Elsewhere h') (hp : p.isAbsolute = true) : h'.read p = h.read p := by
  rw [read, read, he.stat_eq hp]

/-! ### Links on the way -/

theorem linkAt?_eq (he : h.Elsewhere h') {t : Trail} (ht : t.Rooted) :
    h'.linkAt? t = h.linkAt? t := by
  rw [linkAt?, linkAt?, ht.address_eq, ht.address_eq, he.disk]

end Elsewhere

/-- What has been found out about links from the root: every trail in it is rooted. -/
def RootedLinks (seen : SeenLinks) : Prop :=
  ∀ e ∈ seen, e.1.Rooted ∧ ∀ u, e.2 = some u → u.Rooted

/-- The number of links that have **not been entered** yet. -/
def fresh (h : Host) (seen : SeenLinks) : Nat :=
  h.disk.entries.countP fun e => e.2.isLink && !(seen.map (·.1)).contains ⟨true, e.1⟩

/-- Where resolving from the root can end: at a trail from the root, with more known about such
trails, or at a loop that is written from the root. -/
def EndsRooted (seen : SeenLinks) : OptIn.Resolved → Prop
  | .done t found => t.Rooted ∧ RootedLinks found ∧ ∀ e ∈ seen, e.1 ∈ found.map (·.1)
  | .looping s => s.toList.head? = some '/'

variable {h h' : Host} {seen found : SeenLinks} {t : Trail}

/-- The more has been found out, the fewer links are left to be entered. -/
theorem fresh_le (hsub : ∀ e ∈ seen, e.1 ∈ found.map (·.1)) : h.fresh found ≤ h.fresh seen := by
  refine List.countP_mono_left fun e _ he => ?_
  simp only [Bool.and_eq_true, Bool.not_eq_true', List.contains_eq_mem, decide_eq_false_iff_not]
    at he ⊢
  refine ⟨he.1, fun hmem => he.2 ?_⟩
  obtain ⟨x, hx, hkey⟩ := List.mem_map.mp hmem
  rw [← hkey]
  exact hsub x hx

/-- Entering a link leaves fewer of them. -/
theorem fresh_cons_lt {target : String} (u : Option Trail) (ht : t.Rooted)
    (hlink : h.linkAt? t = some target) (hnew : seen.lookup t = none) :
    h.fresh ((t, u) :: seen) < h.fresh seen := by
  have hnode : h.disk.node? t.names = some (.link target) := by
    rw [linkAt?, ht.address_eq] at hlink
    split at hlink
    · cases hlink
    · split at hlink
      · rename_i hn
        cases hlink
        exact hn
      · cases hlink
  have htrail : (⟨true, t.names⟩ : Trail) = t := Trail.Rooted.eq_of_names_eq ⟨rfl, ht.noUp⟩ ht rfl
  have hkeys : t ∉ seen.map (·.1) := by
    intro hmem
    obtain ⟨e, he, rfl⟩ := List.mem_map.mp hmem
    simpa using List.lookup_eq_none_iff.mp hnew e he
  -- the link's own entry is counted before, and not behind
  obtain ⟨front, back, hentries⟩ := List.append_of_mem (Disk.mem_of_node? hnode)
  have hmono : ∀ l : List (Address × Node),
      l.countP (fun e => e.2.isLink && !(((t, u) :: seen).map (·.1)).contains ⟨true, e.1⟩) ≤
        l.countP fun e => e.2.isLink && !(seen.map (·.1)).contains ⟨true, e.1⟩ := by
    intro l
    refine List.countP_mono_left fun e _ he => ?_
    simp only [List.map_cons, List.contains_cons, Bool.not_or, Bool.and_eq_true] at he ⊢
    exact ⟨he.1, he.2.2⟩
  have hfront := hmono front
  have hback := hmono back
  rw [fresh, fresh, hentries, List.countP_append, List.countP_append,
    List.countP_cons_of_neg (by simp [htrail]),
    List.countP_cons_of_pos (by simpa [htrail, Node.isLink] using hkeys)]
  omega

theorem RootedLinks.cons {u : Option Trail} (hseen : RootedLinks seen) (ht : t.Rooted)
    (hu : ∀ v, u = some v → v.Rooted) : RootedLinks ((t, u) :: seen) := by
  intro e he
  rcases List.mem_cons.mp he with rfl | he
  · exact ⟨ht, hu⟩
  · exact hseen e he

theorem EndsRooted.mono {r : OptIn.Resolved} (hr : EndsRooted found r)
    (hsub : ∀ e ∈ seen, e.1 ∈ found.map (·.1)) : EndsRooted seen r := by
  cases r with
  | looping s => exact hr
  | done u known =>
    obtain ⟨hu, hknown, hkeys⟩ := hr
    refine ⟨hu, hknown, fun e he => ?_⟩
    obtain ⟨x, hx, hkey⟩ := List.mem_map.mp (hsub e he)
    rw [← hkey]
    exact hkeys x hx

/-- From the root, resolving goes alike if entering links does as long as some are left. -/
theorem resolveWith_eq_of_rooted (he : h.Elsewhere h') {n : Nat}
    {enter enter' : Trail → List String → SeenLinks → Except Fault OptIn.Resolved}
    (henter : ∀ start pieces known, start.Rooted → RootedLinks known → h.fresh known < n →
      enter' start pieces known = enter start pieces known ∧
        ∀ r, enter start pieces known = .ok r → EndsRooted known r)
    (pieces : List String) (ht : t.Rooted) (hseen : RootedLinks seen) (hn : h.fresh seen ≤ n) :
    h'.resolveWith enter' t pieces seen = h.resolveWith enter t pieces seen ∧
      ∀ r, h.resolveWith enter t pieces seen = .ok r → EndsRooted seen r := by
  induction pieces generalizing t seen with
  | nil =>
    refine ⟨rfl, ?_⟩
    rintro r ⟨⟩
    exact ⟨ht, hseen, fun e => List.mem_map_of_mem⟩
  | cons piece rest ih =>
    rw [resolveWith, resolveWith]
    by_cases hstay : (decide (piece = "") || decide (piece = ".")) = true
    · rw [if_pos hstay, if_pos hstay]
      exact ih ht hseen hn
    rw [if_neg hstay, if_neg hstay]
    by_cases hup : piece = ".."
    · rw [if_pos hup, if_pos hup]
      exact ih ht.up hseen hn
    rw [if_neg hup, if_neg hup]
    by_cases hnull : holdsNull piece = true
    · rw [if_pos hnull, if_pos hnull]
      exact ⟨rfl, by rintro r ⟨⟩⟩
    rw [if_neg hnull, if_neg hnull]
    have hnext : (t.down piece).Rooted := ht.down hup
    simp only [he.linkAt?_eq hnext]
    rcases hlink : h.linkAt? (t.down piece) with _ | target
    · exact ih hnext hseen hn
    rcases hlookup : seen.lookup (t.down piece) with _ | _ | known
    · -- a new link: what comes out of it is kept, and the rest follows
      have hrooted : (if target.toList.head? = some '/' then Trail.root else t).Rooted := by
        split
        · exact Trail.rooted_root
        · exact ht
      have hentered : RootedLinks ((t.down piece, none) :: seen) :=
        hseen.cons hnext fun v hv => nomatch hv
      obtain ⟨hsame, hends⟩ := henter _ (slashPieces target) _ hrooted hentered
        (Nat.lt_of_lt_of_le (fresh_cons_lt none hnext hlink hlookup) hn)
      simp only [hsame]
      rcases hx : enter (if target.toList.head? = some '/' then Trail.root else t)
        (slashPieces target) ((t.down piece, none) :: seen) with e | ⟨u, found⟩ | s
      · exact ⟨rfl, by rintro r ⟨⟩⟩
      · obtain ⟨hu, hfound, hkeys⟩ := hends _ hx
        have hkept : RootedLinks ((t.down piece, some u) :: found) :=
          hfound.cons hnext fun v hv => Option.some.inj hv ▸ hu
        have hsub : ∀ e ∈ seen, e.1 ∈ ((t.down piece, some u) :: found).map (·.1) :=
          fun e hmem => List.mem_cons_of_mem _ (hkeys e (List.mem_cons_of_mem _ hmem))
        obtain ⟨hrest, hlast⟩ := ih hu hkept (Nat.le_trans (fresh_le hsub) hn)
        exact ⟨hrest, fun r hr => (hlast r hr).mono hsub⟩
      · refine ⟨rfl, ?_⟩
        rintro r ⟨⟩
        exact head?_joinedText (hends _ hx)
    · -- a pending link is a circle
      refine ⟨rfl, ?_⟩
      rintro r ⟨⟩
      exact head?_joinedText hnext.head?_text
    · obtain ⟨front, back, rfl, -⟩ := List.lookup_eq_some_iff.mp hlookup
      exact ih ((hseen _ (List.mem_append_right _ List.mem_cons_self)).2 known rfl) hseen hn

/-- From the root, resolving goes alike however deep links may be entered, as long as each of them
can be entered once. -/
theorem resolveFrom_eq_of_rooted (he : h.Elsewhere h') {n d d' : Nat} (hd : n ≤ d) (hd' : n ≤ d')
    (pieces : List String) (ht : t.Rooted) (hseen : RootedLinks seen) (hn : h.fresh seen ≤ n) :
    h'.resolveFrom d' t pieces seen = h.resolveFrom d t pieces seen ∧
      ∀ r, h.resolveFrom d t pieces seen = .ok r → EndsRooted seen r := by
  induction n generalizing d d' t pieces seen with
  | zero =>
    have hstep : ∀ (h : Host) d, ∃ enter, h.resolveFrom d = h.resolveWith enter := by
      intro h d
      cases d with
      | zero => exact ⟨_, rfl⟩
      | succ d => exact ⟨_, rfl⟩
    obtain ⟨enter, henter⟩ := hstep h d
    obtain ⟨enter', henter'⟩ := hstep h' d'
    rw [henter, henter']
    exact resolveWith_eq_of_rooted he (fun _ _ _ _ _ hlt => absurd hlt (Nat.not_lt_zero _)) pieces
      ht hseen hn
  | succ n ih =>
    obtain ⟨d, rfl⟩ := Nat.exists_eq_add_of_le' (Nat.le_trans (Nat.le_add_left 1 n) hd)
    obtain ⟨d', rfl⟩ := Nat.exists_eq_add_of_le' (Nat.le_trans (Nat.le_add_left 1 n) hd')
    rw [resolveFrom, resolveFrom]
    exact resolveWith_eq_of_rooted he (fun start pieces known hstart hknown hlt =>
      ih (by omega) (by omega) pieces hstart hknown (by omega)) pieces ht hseen hn

theorem fresh_nil_le_depthLimit (h : Host) : h.fresh [] ≤ h.depthLimit := by
  have hcount : h.fresh [] ≤ h.disk.linkCount := by
    refine List.countP_mono_left fun e _ he => ?_
    simpa using he
  have hlimit : h.disk.linkCount + 1 ≤ h.depthLimit := Nat.le_mul_of_pos_right _ (by omega)
  omega

theorem head?_here (h : Host) : h.here.text.toList.head? = some '/' :=
  Path.head?_text_of_isAbsolute rfl

/-- Whatever is resolved, an absolute path comes out. -/
theorem isAbsolute_of_resolve {p q : Path} (hq : h.resolve p = .ok q) : q.isAbsolute = true := by
  obtain ⟨r, -, rfl⟩ := exists_resolution hq
  cases r with
  | done t seen => exact isAbsolute_plainPath (head?_joinedText h.head?_here)
  | looping s => exact isAbsolute_plainPath (head?_joinedText h.head?_here)

namespace Elsewhere

variable {p : Path}

theorem resolution_eq (he : h.Elsewhere h') (hp : p.isAbsolute = true) :
    h'.resolution p = h.resolution p ∧ ∀ r, h.resolution p = .ok r → EndsRooted [] r := by
  have hfresh : h.fresh [] ≤ h'.depthLimit := by
    have hsame : h'.fresh [] = h.fresh [] := by rw [fresh, fresh, he.disk]
    rw [← hsame]
    exact h'.fresh_nil_le_depthLimit
  rw [resolution, resolution, if_pos hp]
  exact resolveFrom_eq_of_rooted he h.fresh_nil_le_depthLimit hfresh _ Trail.rooted_root
    (fun _ hmem => absurd hmem List.not_mem_nil) (Nat.le_refl _)

/-- An absolute path resolves alike from everywhere. -/
theorem resolve_eq (he : h.Elsewhere h') (hp : p.isAbsolute = true) :
    h'.resolve p = h.resolve p := by
  obtain ⟨hsame, hends⟩ := he.resolution_eq hp
  have htext : ∀ s : String, s.toList.head? = some '/' → ∀ h : Host,
      joinedText h.here.text s = s := fun s hs h => by rw [joinedText, if_pos hs]
  have hstat : ∀ s : String, s.toList.head? = some '/' →
      h'.stat (plainPath s) = h.stat (plainPath s) :=
    fun s hs => he.stat_eq (isAbsolute_plainPath hs)
  rw [resolution] at hsame hends
  rw [resolution] at hsame
  rw [resolve, resolve, hsame]
  rcases hx : h.resolveFrom h.depthLimit (if p.isAbsolute = true then Trail.root else Trail.here)
    (slashPieces p.text) [] with e | ⟨t, found⟩ | s
  · simp only [bind, Except.bind]
  · have hs : t.text.toList.head? = some '/' := (hends _ hx).1.head?_text
    simp only [bind, Except.bind, pure, Except.pure, htext _ hs, hstat _ hs]
  · have hs : s.toList.head? = some '/' := hends _ hx
    simp only [bind, Except.bind, pure, Except.pure, htext _ hs, hstat _ hs]

end Elsewhere

end Host

end OptIn
