import OptIn.Proofs.Cache.Cabinet
import OptIn.Proofs.Host.Edits

/-!
# Hosts that differ in files

Making a directory does not depend on files, except on those that stand where a directory is to
come. Two hosts are twins when they differ in files at given addresses only (`Host.Twin`). A request
for a directory that comes to its end on one of them, and puts no directory at one of these
addresses, does so on the other, and leaves them twins (`Twin.exists_run_makeDirectories`). So a
directory that can be made on a host can be made on its twin (`Creatable.twin`).
-/

namespace OptIn.Host

/-- Two hosts are **twins** but for files at some addresses: they have the same directories and the
same links, and at any other address something stands on both of them or on neither. -/
structure Twin (files : Address → Prop) (h h' : Host) : Prop where
  cwd : h'.cwd = h.cwd
  directory : ∀ a, (∃ t, h'.disk.node? a = some (.directory t)) ↔
    ∃ t, h.disk.node? a = some (.directory t)
  link : ∀ a target, h'.disk.node? a = some (.link target) ↔ h.disk.node? a = some (.link target)
  free : ∀ a, ¬files a → (h'.disk.node? a = none ↔ h.disk.node? a = none)

variable {files files' : Address → Prop} {h h' h'' h₁ : Host} {p q : Path} {a : Address}
  {name : String}

namespace Twin

theorem refl (files : Address → Prop) (h : Host) : h.Twin files h :=
  ⟨rfl, fun _ => Iff.rfl, fun _ _ => Iff.rfl, fun _ _ => Iff.rfl⟩

theorem symm (ht : h.Twin files h') : h'.Twin files h :=
  ⟨ht.cwd.symm, fun a => (ht.directory a).symm, fun a target => (ht.link a target).symm,
    fun a ha => (ht.free a ha).symm⟩

theorem trans (ht : h.Twin files h') (ht' : h'.Twin files h'') : h.Twin files h'' where
  cwd := ht'.cwd.trans ht.cwd
  directory a := (ht'.directory a).trans (ht.directory a)
  link a target := (ht'.link a target).trans (ht.link a target)
  free a ha := (ht'.free a ha).trans (ht.free a ha)

theorem mono (ht : h.Twin files h') (hsub : ∀ a, files a → files' a) : h.Twin files' h' :=
  ⟨ht.cwd, ht.directory, ht.link, fun a ha => ht.free a fun hf => ha (hsub a hf)⟩

/-- Twins stay twins at another time. -/
theorem at_clock (ht : h.Twin files h') (t : Int) :
    Twin files { h with clock := t } { h' with clock := t } :=
  ⟨ht.cwd, ht.directory, ht.link, ht.free⟩

/-- A host that has been retouched is a twin of what it was. -/
theorem of_retouched {a : Address} (hr : h.Retouched a h') : h.Twin (· = a) h' where
  cwd := hr.cwd
  directory b := ⟨fun ⟨_, hd⟩ => hr.directories hd, fun ⟨_, hd⟩ => hr.directory hd⟩
  link _ _ := hr.link
  free b hb := by
    rcases hr.cases hb with hsame | ⟨t, t', ht, ht'⟩
    · rw [hsame]
    · simp [ht, ht']

theorem keeps (ht : h.Twin files h') : h.disk.Keeps h'.disk :=
  ⟨fun hd => (ht.directory _).mpr ⟨_, hd⟩, fun hl => (ht.link _ _).mpr hl⟩

/-- Twins have the same directories, by whatever path. -/
theorem isDirectory_iff (ht : h.Twin files h') (ho : h.Orderly) (ho' : h'.Orderly)
    (hp : p.Proper) : h'.isDirectory p = .ok true ↔ h.isDirectory p = .ok true := by
  have hone : ∀ {g g' : Host}, g.Twin files g' → g.Orderly → g'.Orderly →
      g.isDirectory p = .ok true → g'.isDirectory p = .ok true := by
    intro g g' hg hgo hgo' hd
    obtain ⟨a, t, hs⟩ := isDirectory_eq_true_iff.mp hd
    obtain ⟨t', ht'⟩ := (hg.directory a).mpr ⟨t, node?_of_stat hgo hp hs⟩
    exact isDirectory_eq_true_iff.mpr ⟨a, t', stat_keeps hgo hgo' hp hg.keeps hg.cwd hs ht' rfl⟩
  exact ⟨hone ht.symm ho' ho, hone ht ho ho'⟩

/-- A name that is free on one twin is free on the other, unless a file may stand there. -/
theorem placeOf_of_vacant (purpose : Disk.Purpose) (ht : h.Twin files h') (ho : h.Orderly)
    (ho' : h'.Orderly) (hq : (q.down name).Proper)
    (hv : h.placeOf .examine (q.down name).text = .ok (.vacant a)) (ha : ¬files a) :
    h'.placeOf purpose (q.down name).text = .ok (.vacant a) := by
  obtain ⟨hq, hn⟩ := Path.proper_down_iff.mp hq
  obtain ⟨b, t, hs, rfl, hup, hshort, hask, hfree⟩ := vacant_inv ho hq hn hv
  obtain ⟨t', ht'⟩ := (ht.directory b).mpr ⟨t, node?_of_stat ho hq hs⟩
  exact placeOf_down_of_free purpose ho' hq hn hup hask hshort
    (stat_keeps ho ho' hq ht.keeps ht.cwd hs ht' rfl) ((ht.free _ ha).mpr hfree)

/-- The same directory added to both twins. -/
theorem add (ht : h.Twin files h') (hdir : ∃ t, h.disk.node? a = some (.directory t))
    (name : String) : (h.add (a ++ [name]) (.directory h.clock)).Twin files
      (h'.add (a ++ [name]) (.directory h'.clock)) := by
  have hnode := node?_add_name hdir name (.directory h.clock)
  have hnode' := node?_add_name ((ht.directory a).mpr hdir) name (.directory h'.clock)
  refine ⟨ht.cwd, fun b => ?_, fun b target => ?_, fun b hb => ?_⟩
  · rw [hnode, hnode']
    split_ifs
    · exact iff_of_true ⟨_, rfl⟩ ⟨_, rfl⟩
    · exact iff_of_true ⟨_, rfl⟩ ⟨_, rfl⟩
    · exact ht.directory b
  · rw [hnode, hnode']
    split_ifs
    · simp
    · simp
    · exact ht.link b target
  · rw [hnode, hnode']
    split_ifs
    · simp
    · simp
    · exact ht.free b hb

end Twin

/-! ### Requests that come to their end -/

/-- When one directory is ensured, it was there or its name was free. -/
theorem cases_of_ensureDirectory (hrun : (ensureDirectory p).run h = (.ok (), h₁)) :
    h.isDirectory p = .ok true ∧ h₁ = h ∨
      ∃ a, h.placeOf .examine p.text = .ok (.vacant a) ∧ h₁ = h.add a (.directory h.clock) := by
  have hthere : ∀ {e}, (unlessThere p e).run h = (.ok (), h₁) →
      h.isDirectory p = .ok true ∧ h₁ = h := by
    intro e he
    by_cases hd : h.isDirectory p = .ok true
    · rw [run_unlessThere, hd] at he
      split at he
      · cases he
        exact ⟨hd, rfl⟩
      · cases he
    · obtain ⟨e', he'⟩ := run_unlessThere_of_missing hd e
      cases he'.symm.trans he
  rw [run_ensureDirectory, run_makeDirectory] at hrun
  rcases hv : h.placeOf .examine p.text with e | (⟨b, n⟩ | a)
  · rw [hv] at hrun
    simp only at hrun
    split at hrun
    · cases hrun
    · exact .inl (hthere hrun)
  · rw [hv] at hrun
    exact .inl (hthere hrun)
  · rw [hv] at hrun
    cases hrun
    exact .inr ⟨a, rfl, rfl⟩

theorem grows_ensureDirectory (ho : h.Orderly) (hp : (q.down name).Proper)
    (hrun : (ensureDirectory (q.down name)).run h = (.ok (), h₁)) :
    h.Grows (fun _ => False) h₁ := by
  rcases cases_of_ensureDirectory hrun with ⟨-, rfl⟩ | ⟨a, hv, rfl⟩
  · exact .refl _ _
  · exact (madeAt_add ho hp (by simp) hv).1

theorem ensureDirectory_of_isDirectory (ho : h.Orderly) (hp : p.Proper)
    (hd : h.isDirectory p = .ok true) : (ensureDirectory p).run h = (.ok (), h) := by
  rw [run_ensureDirectory, makeDirectory_of_isDirectory ho hp hd]
  simp [Fault.isNotFound, run_unlessThere, hd, Fault.isSystem]

theorem ensureDirectory_of_vacant (hv : h.placeOf .examine p.text = .ok (.vacant a)) :
    (ensureDirectory p).run h = (.ok (), h.add a (.directory h.clock)) := by
  rw [run_ensureDirectory, run_makeDirectory, hv]

/-- A directory is made when it is ensured at once, or after those above it have been made, because
something above it was missing. -/
theorem run_makeDirectories_eq_ok_iff :
    (makeDirectories (q.down name)).run h = (.ok (), h₁) ↔
      (ensureDirectory (q.down name)).run h = (.ok (), h₁) ∨
        ∃ e h₂, h.placeOf .examine (q.down name).text = .error e ∧ e.isNotFound = true ∧
          (makeDirectories q).run h = (.ok (), h₂) ∧
          (ensureDirectory (q.down name)).run h₂ = (.ok (), h₁) := by
  rw [run_makeDirectories_down, run_ensureDirectory h, run_makeDirectory]
  rcases h.placeOf .examine (q.down name).text with e | (⟨b, n⟩ | a)
  · by_cases he : e.isNotFound = true
    · rcases habove : (makeDirectories q).run h with ⟨e' | ⟨⟩, h₂⟩
      · simp [he, habove]
      · simp [he, habove]
    · simp [he]
  · simp [Fault.isNotFound]
  · simp

namespace Twin

/-- What is ensured on one twin is ensured on the other. -/
theorem exists_run_ensureDirectory (ht : h.Twin files h') (ho : h.Orderly) (ho' : h'.Orderly)
    (hp : (q.down name).Proper) (hrun : (ensureDirectory (q.down name)).run h = (.ok (), h₁))
    (hout : ∀ b, files b → ∀ s, h₁.disk.node? b ≠ some (.directory s)) :
    ∃ h₁', (ensureDirectory (q.down name)).run h' = (.ok (), h₁') ∧ h₁.Twin files h₁' ∧
      (h'.isDirectory (q.down name) = .ok true ∨
        h'.stat (q.down name) = .error (.system .notFound (q.down name).text)) := by
  rcases cases_of_ensureDirectory hrun with ⟨hd, rfl⟩ | ⟨a, hv, rfl⟩
  · have hd' := (ht.isDirectory_iff ho ho' hp).mpr hd
    exact ⟨h', ensureDirectory_of_isDirectory ho' hp hd', ht, .inl hd'⟩
  · have ha : ¬files a := fun hf => hout a hf h.clock ((node?_add h _ _ _).trans (if_pos rfl))
    have hv' := ht.placeOf_of_vacant .examine ho ho' hp hv ha
    obtain ⟨hq, hn⟩ := Path.proper_down_iff.mp hp
    obtain ⟨b, t, hs, rfl, -⟩ := vacant_inv ho hq hn hv
    exact ⟨_, ensureDirectory_of_vacant hv', ht.add ⟨t, node?_of_stat ho hq hs⟩ name,
      .inr (stat_of_vacant h' (ht.placeOf_of_vacant .use ho ho' hp hv ha))⟩

/-- A directory that is made on one twin is made on the other. There it was a directory before, or
it was missing. -/
theorem exists_run_makeDirectories (ht : h.Twin files h') (ho : h.Orderly) (ho' : h'.Orderly)
    (hp : p.Proper) (hrun : (makeDirectories p).run h = (.ok (), h₁))
    (hout : ∀ b, files b → ∀ s, h₁.disk.node? b ≠ some (.directory s)) :
    ∃ h₁', (makeDirectories p).run h' = (.ok (), h₁') ∧ h₁.Twin files h₁' ∧
      (h'.isDirectory p = .ok true ∨ h'.stat p = .error (.system .notFound p.text)) := by
  -- by induction on the parts, for what is above comes first
  induction hlen : p.parts.length generalizing p h₁ with
  | zero =>
    have hparts := List.eq_nil_of_length_eq_zero hlen
    have hd' := isDirectory_of_parts_eq_nil ho' hparts
    cases hrun.symm.trans
      (makeDirectories_of_isDirectory ho hp (isDirectory_of_parts_eq_nil ho hparts))
    exact ⟨h', makeDirectories_of_isDirectory ho' hp hd', ht, .inl hd'⟩
  | succ depth ih =>
    obtain ⟨q, name, rfl⟩ := Path.exists_eq_down (List.ne_nil_of_length_eq_add_one hlen)
    obtain ⟨hq, hn⟩ := Path.proper_down_iff.mp hp
    rcases run_makeDirectories_eq_ok_iff.mp hrun with hensure | ⟨e, h₂, hv, he, habove, hensure⟩
    · obtain ⟨h₁', hensure', hthen⟩ := ht.exists_run_ensureDirectory ho ho' hp hensure hout
      exact ⟨h₁', run_makeDirectories_eq_ok_iff.mpr (.inl hensure'), hthen⟩
    · have hg := (grows_makeDirectories ho hq habove).1
      have hg₁ := grows_ensureDirectory (hg.orderly ho) hp hensure
      have hout₂ : ∀ b, files b → ∀ s, h₂.disk.node? b ≠ some (.directory s) := by
        intro b hb s hs
        obtain ⟨s', hs'⟩ := hg₁.directory hs
        exact hout b hb s' hs'
      obtain ⟨h₂', habove', ht₂, hthere⟩ := ih hq habove hout₂ (by simpa using hlen)
      -- the directory above was missing, or the first try would not have failed
      have hno : h.isDirectory q ≠ .ok true := by
        intro hd
        cases habove.symm.trans (makeDirectories_of_isDirectory ho hq hd)
        rw [run_ensureDirectory, run_makeDirectory, hv] at hensure
        simp [he] at hensure
      have hmissing : h'.stat q = .error (.system .notFound q.text) :=
        hthere.resolve_left fun hd => hno ((ht.isDirectory_iff ho ho' hq).mp hd)
      have hask := askable_of_isNotFound hp hv he
      have hg' := (grows_makeDirectories ho' hq habove').1
      obtain ⟨h₁', hensure', ht₁, -⟩ :=
        ht₂.exists_run_ensureDirectory (hg.orderly ho) (hg'.orderly ho') hp hensure hout
      exact ⟨h₁', run_makeDirectories_eq_ok_iff.mpr (.inr ⟨_, h₂',
        placeOf_down_of_missing .examine ho' hq hn hask hmissing, rfl, habove', hensure'⟩), ht₁,
        .inr (stat_of_error (placeOf_down_of_missing .use ho' hq hn hask hmissing))⟩

end Twin

/-! ### Files aside -/

/-- An address is **aside** from a directory that is to be made: at most a file stands there, it is
not right inside the directory, and no directory comes there when that one is made. -/
structure Aside (h : Host) (dir : Path) (a b : Address) : Prop where
  file : ∀ n, h.disk.node? b = some n → n.isFile = true
  outside : ∀ name, b ≠ a ++ [name]
  clear : ∀ t h₁, (makeDirectories dir).run { h with clock := t } = (.ok (), h₁) →
    ∀ s, h₁.disk.node? b ≠ some (.directory s)

variable {dir : Path} {b : Address} {bytes : List UInt8} {x : Bool} {t : Int}

/-- No directory comes where a file stands. -/
theorem aside_of_file (ho : h.Orderly) (hdir : dir.Proper)
    (hn : h.disk.node? b = some (.file bytes x t)) (hout : ∀ name, b ≠ a ++ [name]) :
    h.Aside dir a b where
  file n hn' := by
    rw [hn] at hn'
    cases hn'
    rfl
  outside := hout
  clear u h₁ hrun s hs := by
    have hg := (grows_makeDirectories (ho.at_clock u) hdir hrun).1
    rw [(hg.kept (fun hw => hw) rfl).mpr hn] at hs
    cases hs

/-- Where a single directory is to be made, everything else that is free stays free. -/
theorem aside_of_free (ho : h.Orderly) (hq : q.Proper) (hn : Path.ProperName name)
    (hup : name ≠ "..") (hask : (q.down name).Askable)
    (hshort : name.utf8ByteSize ≤ Disk.nameLimit) (hs : h.stat q = .ok (a, .directory t))
    (hfree : h.disk.node? (a ++ [name]) = none) (hb : h.disk.node? b = none)
    (hne : b ≠ a ++ [name]) (hout : ∀ key, b ≠ a ++ [name] ++ [key]) :
    h.Aside (q.down name) (a ++ [name]) b where
  file n hn := by
    rw [hb] at hn
    cases hn
  outside := hout
  clear u h₁ hrun s hs' := by
    cases hrun.symm.trans
      (run_makeDirectories_of_directory (ho.at_clock u) hq hn hup hask hshort hs hfree)
    rw [node?_add_name ⟨t, node?_of_stat (ho.at_clock u) hq hs⟩, if_neg hne] at hs'
    split_ifs at hs' with hba
    · have hnode := node?_of_stat ho hq hs
      rw [← hba, hb] at hnode
      cases hnode
    · rw [show Disk.node? h.disk b = none from hb] at hs'
      cases hs'

namespace Creatable

variable (hc : h.Creatable dir a) (ht : h.Twin (h.Aside dir a) h') (ho : h.Orderly)
  (ho' : h'.Orderly) (hdir : dir.Proper)

include hc ht ho ho' hdir

/-- A directory that can be made on a host is made empty on a twin but for files aside. -/
theorem exists_run_twin (t : Int) :
    ∃ h₁ s, (makeDirectories dir).run { h' with clock := t } = (.ok (), h₁) ∧
      h₁.stat dir = .ok (a, .directory s) ∧ (∀ name, h₁.disk.node? (a ++ [name]) = none) ∧
      h'.stat dir = .error (.system .notFound dir.text) := by
  obtain ⟨g₁, s, hrun, hs, hempty⟩ := hc.made t
  have hot := ho.at_clock t
  have hot' := ho'.at_clock t
  obtain ⟨h₁, hrun', ht₁, hthere⟩ := (ht.at_clock t).exists_run_makeDirectories hot hot' hdir hrun
    fun b hb => hb.clear t g₁ hrun
  have hog₁ := (grows_makeDirectories hot hdir hrun).1.orderly hot
  have hoh₁ := (grows_makeDirectories hot' hdir hrun').1.orderly hot'
  obtain ⟨s', hs'⟩ := (ht₁.directory a).mpr ⟨s, node?_of_stat hog₁ hdir hs⟩
  refine ⟨h₁, s', hrun', stat_keeps hog₁ hoh₁ hdir ht₁.keeps ht₁.cwd hs hs' rfl, fun name => ?_,
    hthere.resolve_left fun hd => ?_⟩
  · exact (ht₁.free _ fun hb => hb.outside name rfl).mpr (hempty name)
  · obtain ⟨b, u, hb⟩ := isDirectory_eq_true_iff.mp ((ht.isDirectory_iff ho ho' hdir).mp hd)
    rw [hc.missing] at hb
    cases hb

/-- What can be made on a host can be made on a twin but for files aside. -/
theorem twin : h'.Creatable dir a where
  missing := by
    obtain ⟨h₁, s, -, -, -, hmissing⟩ := hc.exists_run_twin ht ho ho' hdir h'.clock
    exact hmissing
  made t := by
    obtain ⟨h₁, s, hrun, hs, hempty, -⟩ := hc.exists_run_twin ht ho ho' hdir t
    exact ⟨h₁, s, hrun, hs, hempty⟩

end Creatable

end OptIn.Host
