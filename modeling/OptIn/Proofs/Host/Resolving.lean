import OptIn.Host.Resolve
import OptIn.Proofs.Host.Grows

/-!
# Resolving on a host that grows

Resolving a path asks the disk for links only, and then whether the way to what was found is a
circle. So a path that resolves to something goes on doing so on a host that has grown
(`Reachable.grows`), and a resolved path resolves to itself (`Resolved.resolve_eq`).
-/

namespace OptIn

namespace Host

variable {h h' : Host} {p q : Path} {within : Address → Prop} {t : Trail}

/-- The way along a path's text, links entered. -/
def resolution (h : Host) (p : Path) : Except Fault OptIn.Resolved :=
  h.resolveFrom h.depthLimit (if p.isAbsolute then Trail.root else Trail.here)
    (slashPieces p.text) []

/-- The path at the end of a resolution. -/
def pathOf (h : Host) : OptIn.Resolved → Path
  | .done t _ => plainPath (joinedText h.here.text t.text)
  | .looping s => plainPath (joinedText h.here.text s)

theorem resolve_of_stat {r : OptIn.Resolved} {x : Address × Node} (hr : h.resolution p = .ok r)
    (hs : h.stat (h.pathOf r) = .ok x) : h.resolve p = .ok (h.pathOf r) := by
  rw [resolution] at hr
  rw [resolve, hr]
  cases r with
  | done t seen | looping s =>
    rw [pathOf] at hs ⊢
    simp only [bind, Except.bind, pure, Except.pure, hs]

/-- The system may refuse the path at the end for any other reason than too many links. -/
theorem resolve_of_refusal {r : OptIn.Resolved} {e : SystemError} {s : String}
    (hr : h.resolution p = .ok r) (hs : h.stat (h.pathOf r) = .error (.system e s))
    (he : e ≠ .tooManyLinks) : h.resolve p = .ok (h.pathOf r) := by
  rw [resolution] at hr
  rw [resolve, hr]
  cases r with
  | done t seen | looping t =>
    rw [pathOf] at hs ⊢
    simp only [bind, Except.bind, pure, Except.pure, hs]
    split
    · rename_i heq
      cases heq
      exact absurd rfl he
    · rename_i heq
      cases heq
    · rfl

/-- A circle at the end of a resolution is a fault. -/
theorem resolve_of_loop {r : OptIn.Resolved} {s : String} (hr : h.resolution p = .ok r)
    (hs : h.stat (h.pathOf r) = .error (.system .tooManyLinks s)) :
    h.resolve p = .error (.linkLoop s) := by
  rw [resolution] at hr
  rw [resolve, hr]
  cases r with
  | done t seen | looping t =>
    rw [pathOf] at hs
    simp only [bind, Except.bind, pure, Except.pure, hs]
    rfl

theorem resolve_congr (hpq : h.resolution p = h.resolution q) : h.resolve p = h.resolve q := by
  rw [resolution, resolution] at hpq
  simp only [resolve, hpq]

theorem exists_resolution (hp : h.resolve p = .ok q) :
    ∃ r, h.resolution p = .ok r ∧ q = h.pathOf r := by
  rw [resolve] at hp
  rcases hr : h.resolution p with e | r
  · rw [resolution] at hr
    rw [hr] at hp
    cases hp
  · refine ⟨r, rfl, ?_⟩
    rw [resolution] at hr
    rw [hr] at hp
    cases r with
    | done t seen | looping s =>
      simp only [bind, Except.bind, pure, Except.pure] at hp
      split at hp
      · cases hp
      · cases hp
      · cases hp
        rfl

/-! ### Only links matter -/

theorem Grows.linkAt?_eq (hg : h.Grows within h') (t : Trail) : h'.linkAt? t = h.linkAt? t := by
  have hiff : ∀ (h : Host) target, h.linkAt? t = some target ↔
      ¬Disk.textLimit < t.text.utf8ByteSize ∧
        h.disk.node? (t.address h.cwd) = some (.link target) := by
    intro h target
    rw [linkAt?]
    split
    · rename_i hlong
      simp [hlong]
    · rename_i hshort
      rcases h.disk.node? (t.address h.cwd) with _ | _ | _ | u <;> simp [hshort]
  apply Option.ext
  intro target
  rw [hiff, hiff, hg.cwd, hg.link]

theorem resolveWith_congr (hlink : ∀ t, h'.linkAt? t = h.linkAt? t)
    (enter : Trail → List String → SeenLinks → Except Fault OptIn.Resolved) :
    h'.resolveWith enter = h.resolveWith enter := by
  funext t pieces seen
  induction pieces generalizing t seen with
  | nil => rfl
  | cons piece rest ih =>
    rw [resolveWith, resolveWith]
    simp only [hlink, ih]

theorem resolveFrom_congr (hlink : ∀ t, h'.linkAt? t = h.linkAt? t) (depth : Nat) :
    h'.resolveFrom depth = h.resolveFrom depth := by
  induction depth with
  | zero => exact resolveWith_congr hlink _
  | succ depth ih => rw [resolveFrom, resolveFrom, ih, resolveWith_congr hlink]

theorem Grows.resolution_eq (hg : h.Grows within h') (ho : h.Orderly) (p : Path) :
    h'.resolution p = h.resolution p := by
  rw [resolution, resolution, depthLimit, depthLimit, hg.cwd, hg.linkCount ho.tree,
    resolveFrom_congr hg.linkAt?_eq]

theorem Grows.pathOf_eq (hg : h.Grows within h') (r : OptIn.Resolved) :
    h'.pathOf r = h.pathOf r := by
  cases r with
  | done t seen => rw [pathOf, pathOf, here, here, hg.cwd]
  | looping s => rw [pathOf, pathOf, here, here, hg.cwd]

/-! ### Paths that resolve to something -/

/-- A path is **reachable** when it resolves to a path that leads to something. -/
def Reachable (h : Host) (p : Path) : Prop :=
  ∃ q a n, h.resolve p = .ok q ∧ h.stat q = .ok (a, n)

/-- What holds of the pieces of a text, those that stay apart, holds of the parts of the path. -/
theorem forall_mem_plainPath {P : String → Prop} {s : String}
    (h : ∀ x ∈ slashPieces s, x ≠ "" → x ≠ "." → P x) : ∀ x ∈ (plainPath s).parts, P x := by
  have hfold : ∀ (pieces done : List String), (∀ x ∈ pieces, x ≠ "" → x ≠ "." → P x) →
      (∀ x ∈ done, P x) →
      ∀ x ∈ pieces.foldl (fun a p =>
        if p = "" || p = "." then a else if p = ".." then a.dropLast else a ++ [p]) done, P x := by
    intro pieces
    induction pieces with
    | nil => exact fun done _ hdone => hdone
    | cons piece rest ih =>
      intro done hpieces hdone
      refine ih _ (fun x hx => hpieces x (List.mem_cons_of_mem _ hx)) ?_
      simp only
      split
      · exact hdone
      · rename_i hstay
        simp only [Bool.or_eq_true, decide_eq_true_eq, not_or] at hstay
        split
        · exact fun x hx => hdone x (List.dropLast_subset _ hx)
        · intro x hx
          rcases List.mem_append.mp hx with hx | hx
          · exact hdone x hx
          · obtain rfl := List.mem_singleton.mp hx
            exact hpieces x List.mem_cons_self hstay.1 hstay.2
  exact hfold _ [] h fun x hx => nomatch hx

theorem proper_plainPath (s : String) : (plainPath s).Proper :=
  forall_mem_plainPath fun _ hx hne hdot => ⟨hne, hdot, Path.noSlash_slashPieces hx⟩

theorem proper_pathOf (h : Host) (r : OptIn.Resolved) : (h.pathOf r).Proper := by
  cases r <;> exact proper_plainPath _

/-- What is reachable resolves alike on a host that has grown, and is reachable there. -/
theorem Reachable.grows (hp : h.Reachable p) (hg : h.Grows within h') (ho : h.Orderly) :
    h'.resolve p = h.resolve p ∧ h'.Reachable p := by
  obtain ⟨q, a, n, hq, hs⟩ := hp
  obtain ⟨r, hr, rfl⟩ := exists_resolution hq
  have hproper := proper_pathOf h r
  obtain ⟨n', hs'⟩ : ∃ n', h'.stat (h.pathOf r) = .ok (a, n') := by
    cases n with
    | file bytes x t =>
      obtain ⟨t', hs', -⟩ := hg.stat_file ho hproper hs
      exact ⟨_, hs'⟩
    | directory t =>
      obtain ⟨t', hs'⟩ := hg.stat_directory ho hproper hs
      exact ⟨_, hs'⟩
    | link target => cases isLink_eq_false_of_stat ho hproper hs
  have hq' := resolve_of_stat ((hg.resolution_eq ho p).trans hr) (by rw [hg.pathOf_eq r, hs'])
  rw [hg.pathOf_eq r] at hq'
  exact ⟨hq'.trans hq.symm, _, _, _, hq', hs'⟩

/-! ### Resolved paths -/

/-- Names behind a trail that meet no link are added to it. -/
theorem resolveWith_of_plain
    (enter : Trail → List String → SeenLinks → Except Fault OptIn.Resolved)
    (seen : SeenLinks) {names : List String} (hnames : ∀ s ∈ names, s ≠ "" ∧ s ≠ "." ∧ s ≠ "..")
    (hnull : ∀ s ∈ names, holdsNull s = false)
    (hplain : ∀ front, front <+: names → h.linkAt? { t with names := t.names ++ front } = none) :
    h.resolveWith enter t names seen = .ok (.done { t with names := t.names ++ names } seen) := by
  induction names generalizing t with
  | nil => rw [List.append_nil, resolveWith]
  | cons name rest ih =>
    obtain ⟨hne, hdot, hup⟩ := hnames name List.mem_cons_self
    have hlink : h.linkAt? (t.down name) = none := hplain [name] ⟨rest, rfl⟩
    rw [resolveWith, if_neg (by simp [hne, hdot]), if_neg hup,
      if_neg (by simp [hnull name List.mem_cons_self])]
    simp only [hlink]
    have hrest := ih (t := t.down name) (fun s hs => hnames s (List.mem_cons_of_mem _ hs))
      (fun s hs => hnull s (List.mem_cons_of_mem _ hs)) fun front hfront => by
        have hlonger := hplain (name :: front) (List.cons_prefix_cons.mpr ⟨rfl, hfront⟩)
        simpa [Trail.down] using hlonger
    rw [hrest]
    simp [Trail.down]

theorem address_root (names : List String) (hup : ".." ∉ names) (cwd : Address) :
    Trail.address ⟨true, names⟩ cwd = names := by
  have hfold : ∀ (names : List String) (a : Address), ".." ∉ names →
      names.foldl (fun a name => if name = ".." then a.dropLast else a ++ [name]) a =
        a ++ names := by
    intro names
    induction names with
    | nil => simp
    | cons name rest ih =>
      intro a hup
      have hname : name ≠ ".." := fun h => hup (h ▸ List.mem_cons_self)
      rw [List.foldl_cons, if_neg hname, ih _ fun h => hup (List.mem_cons_of_mem _ h)]
      simp
  exact hfold names [] hup

theorem linkAt?_eq_none {front : List String} (hup : ".." ∉ front)
    (hplain : ∀ target, h.disk.node? front ≠ some (.link target)) :
    h.linkAt? ⟨true, front⟩ = none := by
  rw [linkAt?]
  split
  · rfl
  · rw [address_root front hup]
    rcases hn : h.disk.node? front with _ | _ | _ | target
    · rfl
    · rfl
    · rfl
    · exact absurd hn (hplain target)

theorem Resolved.linkAt?_eq_none (hr : h.Resolved p) {front : List String}
    (hfront : front <+: p.parts) : h.linkAt? ⟨true, front⟩ = none :=
  Host.linkAt?_eq_none (fun h => hr.noUp (hfront.subset h)) fun _ => hr.plain hfront

theorem holdsNull_of_mem_parts {s : String} (hnull : holdsNull p.text = false) (hs : s ∈ p.parts) :
    holdsNull s = false := by
  rw [Path.holdsNull_text, List.any_eq_false] at hnull
  simpa using hnull s hs

theorem Resolved.text_eq (hr : h.Resolved p) : p.text = "/" ++ "/".intercalate p.parts := by
  rw [Path.text, hr.anchor]
  rfl

/-- The pieces of a resolved path's text, the empty one before its first slash apart. -/
theorem Resolved.slashPieces_eq (hr : h.Resolved p) :
    slashPieces p.text = "" :: (if p.parts = [] then [""] else p.parts) := by
  rw [hr.text_eq, Path.slashPieces_append_slash]
  split
  · rename_i hparts
    rw [hparts]
    decide
  · rename_i hparts
    rw [slashPieces_intercalate hparts fun s hs => (hr.proper s hs).noSlash]

theorem Resolved.resolution_eq (hr : h.Resolved p) :
    h.resolution p = .ok (.done ⟨true, p.parts⟩ []) := by
  have habs : p.isAbsolute = true := by simp [Path.isAbsolute, hr.anchor]
  obtain ⟨enter, henter⟩ : ∃ enter, h.resolveFrom h.depthLimit = h.resolveWith enter := by
    rcases h.depthLimit with _ | depth
    · exact ⟨_, rfl⟩
    · exact ⟨_, rfl⟩
  rw [resolution, henter, if_pos habs, hr.slashPieces_eq, resolveWith, if_pos (by simp)]
  split
  · rename_i hparts
    rw [resolveWith, if_pos (by simp), resolveWith, hparts]
    rfl
  · have hplain := resolveWith_of_plain (h := h) (t := Trail.root) enter []
      hr.names (fun s hs => holdsNull_of_mem_parts hr.noNull hs)
      fun front hfront => by simpa [Trail.root] using hr.linkAt?_eq_none hfront
    simpa [Trail.root] using hplain

theorem foldl_plain {names : List String} (hnames : ∀ s ∈ names, s ≠ "" ∧ s ≠ "." ∧ s ≠ "..")
    (done : List String) :
    names.foldl (fun a p =>
      if p = "" || p = "." then a else if p = ".." then a.dropLast else a ++ [p]) done =
        done ++ names := by
  induction names generalizing done with
  | nil => simp
  | cons name rest ih =>
    obtain ⟨hne, hdot, hup⟩ := hnames name List.mem_cons_self
    rw [List.foldl_cons, if_neg (by simp [hne, hdot]), if_neg hup,
      ih fun s hs => hnames s (List.mem_cons_of_mem _ hs)]
    simp

theorem Resolved.plainPath_eq (hr : h.Resolved p) : plainPath p.text = p := by
  have hparts : (slashPieces p.text).foldl (fun a p =>
      if p = "" || p = "." then a else if p = ".." then a.dropLast else a ++ [p]) [] = p.parts := by
    rw [hr.slashPieces_eq, List.foldl_cons, if_pos (by simp)]
    split
    · rename_i hnil
      rw [hnil]
      rfl
    · exact foldl_plain hr.names []
  rw [plainPath, Path.anchorOf_text hr.proper, hparts]

theorem Resolved.pathOf_eq (hr : h.Resolved p) : h.pathOf (.done ⟨true, p.parts⟩ []) = p := by
  have htext : Trail.text ⟨true, p.parts⟩ = p.text := by
    rw [hr.text_eq]
    rfl
  have hhead : p.text.toList.head? = some '/' := by
    rw [hr.text_eq, String.toList_append]
    rfl
  rw [pathOf, htext, joinedText, if_pos hhead, hr.plainPath_eq]

/-- The system never finds too many links on the way of a resolved path. -/
theorem Resolved.system_of_stat (hr : h.Resolved p) {e : Fault} (he : h.stat p = .error e) :
    ∃ e', e = .system e' p.text ∧ e' ≠ .tooManyLinks := by
  have habs : p.isAbsolute = true := by simp [Path.isAbsolute, hr.anchor]
  have hfollow : h.disk.place h.cwd .use p.text ≠ .error .tooManyLinks := by
    rw [Disk.place, startOf_text h hr.proper, hr.startOf,
      Path.namesOf_text_of_isAbsolute hr.proper habs]
    split
    · simp
    · split
      · simp
      · exact Disk.follow_plain_ne_tooManyLinks hr.names
          fun b target hb => hr.plain (by simpa using hb)
  rw [stat, statText, placeOf, hr.noNull] at he
  rcases hplace : h.disk.place h.cwd .use p.text with e' | (⟨b, m⟩ | b)
  · rw [hplace] at he hfollow
    cases he
    exact ⟨e', rfl, fun h => hfollow (h ▸ rfl)⟩
  · rw [hplace] at he
    cases he
  · rw [hplace] at he
    cases he
    exact ⟨.notFound, rfl, by decide⟩

/-- A resolved path resolves to itself, whether anything stands there or not. -/
theorem Resolved.resolve_eq (hr : h.Resolved p) : h.resolve p = .ok p := by
  rcases hs : h.stat p with e | x
  · obtain ⟨e', rfl, hlinks⟩ := hr.system_of_stat hs
    have hresolve := resolve_of_refusal hr.resolution_eq (by rw [hr.pathOf_eq, hs]) hlinks
    rwa [hr.pathOf_eq] at hresolve
  · have hresolve := resolve_of_stat hr.resolution_eq (by rw [hr.pathOf_eq, hs])
    rwa [hr.pathOf_eq] at hresolve

/-- A resolved path that leads to something is reachable. -/
theorem Resolved.reachable {a : Address} {n : Node} (hr : h.Resolved p)
    (hs : h.stat p = .ok (a, n)) : h.Reachable p := ⟨p, a, n, hr.resolve_eq, hs⟩

end Host

end OptIn
