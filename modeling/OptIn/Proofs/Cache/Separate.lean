import OptIn.Proofs.Cache.Sequel
import OptIn.Proofs.Host.Avoiding
import OptIn.Driver.Builtin
import OptIn.Settings

/-!
# Markers that are kept apart

The markers of different ordinary paths have different names, and different drivers keep theirs in
different directories, so no two of them share a marker (`Settings.eq_of_entry_eq`). Recording a
success therefore changes no answer about another file, nor any answer under another driver: where
the directory of the driver stands in a directory of caches, the success is filed in one drawer
(`ResultCache.confined_of_record`) and the markers in all others are as before
(`ResultCache.changed_entry_of_sequel`), and within one directory only the marker itself is stamped
(`ResultCache.vouches_of_record_of_ne`). Both take a file that is looked up clear of the caches.
-/

namespace OptIn

/-! ### Ordinary paths -/

/-- A path is **ordinary** when it starts from the root, is not the root, even if written `/..`, and
has no `%` in a part. -/
structure Path.Ordinary (p : Path) : Prop extends p.Keyed where
  anchor : p.anchor = .root
  plain : ∀ s ∈ p.parts, '%' ∉ s.toList

theorem Path.down_inj {p q : Path} {s t : String} : p.down s = q.down t ↔ p = q ∧ s = t := by
  constructor
  · intro h
    obtain ⟨hparts, hname⟩ := List.append_inj' (congrArg Path.parts h) rfl
    exact ⟨Path.ext (show (p.down s).anchor = _ by rw [h]; rfl) hparts, (List.cons.inj hname).1⟩
  · rintro ⟨rfl, rfl⟩
    rfl

/-- Ordinary paths can be read off the names of their markers. -/
theorem Path.Ordinary.eq_of_cacheKey_eq {p q : Path} (hp : p.Ordinary) (hq : q.Ordinary)
    (hkey : cacheKey p = cacheKey q) : p = q :=
  Path.ext (hp.anchor.trans hq.anchor.symm) (parts_eq_of_cacheKey_eq_cacheKey hp.proper hq.proper
    hp.ne_nil hq.ne_nil hp.plain hq.plain hkey)

theorem Path.Keyed.markable {p : Path} (hp : p.Keyed) (hnull : holdsNull p.text = false) :
    p.Markable := ⟨hp.proper, hp.ne_nil, hp.ne_up, hnull⟩

/-- What a host is after a marker on a tray has been **touched**, with or without success: the other
markers are as before, and so is everything outside. -/
structure Host.Touched (h h' : Host) (dir : Path) (a : Address) (key : String) : Prop where
  grows : h.Grows (· = a ++ [key]) h'
  tray : h'.Tray dir a
  others : ∀ {k}, k ≠ key → h'.disk.node? (a ++ [k]) = h.disk.node? (a ++ [k])
  outside : ∀ {b}, ¬a <+: b → h'.disk.node? b = h.disk.node? b

theorem Host.touched_refl {h : Host} {dir : Path} {a : Address} (htray : h.Tray dir a)
    (key : String) : h.Touched h dir a key :=
  ⟨.refl _ h, htray, fun _ => rfl, fun _ => rfl⟩

theorem Host.touched_stampFile {h : Host} {dir : Path} {a : Address} (ho : h.Orderly)
    (hdir : dir.Proper) (htray : h.Tray dir a) (key : String) :
    h.Touched (h.stampFile (a ++ [key])) dir a key where
  grows := grows_stampFile ho hdir htray key
  tray := htray.stampFile ho hdir key
  others := node?_stampFile_of_ne
  outside hb := node?_stampFile_of_outside (fun h => hb (h ▸ List.prefix_append _ _))
    fun h => hb (h ▸ List.prefix_rfl)

namespace ResultCache

variable {c : ResultCache} {p q root : Path} {h h' : Host} {w w' : World} {a b : Address}
  {name : String} {m : Int} {r : Except Fault Unit}

/-- The answer of a cache is what it says of the file. -/
theorem answer_eq (c : ResultCache) (p : Path) (w : World) :
    ((c.isValid p).run w).1 = c.vouches p w.host := by
  obtain ⟨w', hrun, -⟩ := c.run_isValid p w
  rw [hrun]

/-- If the path of its marker can be asked for, a path can have a marker. -/
theorem markable_of_askable (hp : p.Keyed) (ha : (c.entry p).Askable) : p.Markable := by
  have hnull := ha.noNull
  rw [c.entry_eq_down hp, Path.holdsNull_text_down, Bool.or_eq_false_iff, holdsNull_cacheKey_eq]
    at hnull
  exact hp.markable hnull.2

/-- The time of a marker whose path cannot be asked for is refused for the same reason on all
hosts. -/
theorem changed_entry_of_not_askable (hdir : c.directory.Proper) (hp : p.Keyed)
    (ha : ¬(c.entry p).Askable) (h h' : Host) :
    h'.changed (c.entry p) = h.changed (c.entry p) := by
  have hproper := proper_entry hdir hp
  rw [changed_of_stat_error (Host.stat_of_error (Host.placeOf_of_not_askable hproper ha)),
    changed_of_stat_error (Host.stat_of_error (Host.placeOf_of_not_askable hproper ha))]

/-- What a cache says stays the same if the time of the marker does, and that of the file, should
there be a marker. -/
theorem vouches_eq_of_changed (hentry : h'.changed (c.entry q) = h.changed (c.entry q))
    (hfile : ∀ m, h.changed (c.entry q) = .ok m → h'.changed q = h.changed q) :
    c.vouches q h' = c.vouches q h := by
  rcases hm : h.changed (c.entry q) with e | m
  · rw [vouches_of_error hm, vouches_of_error (hentry.trans hm)]
  · rw [vouches, vouches, times, times, hentry, hfile m hm]

/-- Touching a marker on a tray stamps it, or does nothing. -/
theorem touch_entry_cases (ho : h.Orderly) (hdir : c.directory.Proper)
    (htray : h.Tray c.directory a) (hp : p.Keyed) :
    ∃ r h', (Host.touch (c.entry p)).run h = (r, h') ∧
      (h' = h ∨ h' = h.stampFile (a ++ [cacheKey p])) := by
  by_cases ha : (c.entry p).Askable
  · have hmark := markable_of_askable hp ha
    by_cases hfits : c.Fits p
    · exact ⟨_, _, run_touch_entry ho hdir hmark htray hfits, .inr rfl⟩
    · exact ⟨_, _, Host.run_touch_of_error
        (placeOf_entry_of_misfit .use ho hdir hmark htray hfits)
        (placeOf_entry_of_misfit .create ho hdir hmark htray hfits), .inl rfl⟩
  · have hproper := proper_entry hdir hp
    exact ⟨_, _, Host.run_touch_of_error (Host.placeOf_of_not_askable hproper ha)
      (Host.placeOf_of_not_askable hproper ha), .inl rfl⟩

/-- What recording comes to once the directory has been made as a tray. -/
theorem host_of_record (hmake : (Host.makeDirectories c.directory).run w.host = (.ok (), h))
    (ho : h.Orderly) (hdir : c.directory.Proper) (htray : h.Tray c.directory a) (hp : p.Keyed)
    (hrun : (c.record p).run w = (r, w')) :
    w'.host = h ∨ w'.host = h.stampFile (a ++ [cacheKey p]) := by
  obtain ⟨r', h', htouch, hcases⟩ := touch_entry_cases ho hdir htray hp
  obtain ⟨w₁, hrun', rfl⟩ := run_record_of_ok hmake htouch
  cases hrun.symm.trans hrun'
  exact hcases

theorem touched_of_record (hmake : (Host.makeDirectories c.directory).run w.host = (.ok (), h))
    (ho : h.Orderly) (hdir : c.directory.Proper) (htray : h.Tray c.directory a) (hp : p.Keyed)
    (hrun : (c.record p).run w = (r, w')) : h.Touched w'.host c.directory a (cacheKey p) := by
  rcases host_of_record hmake ho hdir htray hp hrun with hsame | hstamped
  · exact hsame ▸ Host.touched_refl htray _
  · exact hstamped ▸ Host.touched_stampFile ho hdir htray _

/-- On trays whose markers of a path have the same time, so has what is found of the marker. -/
theorem changed_entry_congr (ho : h.Orderly) (ho' : h'.Orderly) (hdir : c.directory.Proper)
    (htray : h.Tray c.directory a) (htray' : h'.Tray c.directory a) (hq : q.Keyed)
    (hsame : (h'.disk.node? (a ++ [cacheKey q])).map Node.changed =
      (h.disk.node? (a ++ [cacheKey q])).map Node.changed) :
    h'.changed (c.entry q) = h.changed (c.entry q) := by
  by_cases hask : (c.entry q).Askable
  · have hmark := markable_of_askable hq hask
    by_cases hfits : c.Fits q
    · rw [changed_entry_of_tray ho' hdir htray' hmark hfits,
        changed_entry_of_tray ho hdir htray hmark hfits]
      rcases hn : h.disk.node? (a ++ [cacheKey q]) with _ | n
      · rw [hn] at hsame
        rw [Option.map_eq_none_iff.mp hsame]
      · rw [hn] at hsame
        obtain ⟨n', hn', hchanged⟩ := Option.map_eq_some_iff.mp hsame
        rw [hn']
        exact congrArg _ hchanged
    · rw [changed_of_stat_error
          (Host.stat_of_error (placeOf_entry_of_misfit .use ho' hdir hmark htray' hfits)),
        changed_of_stat_error
          (Host.stat_of_error (placeOf_entry_of_misfit .use ho hdir hmark htray hfits))]
  · exact changed_entry_of_not_askable hdir hq hask _ _

/-- On a tray where another marker has been touched, a marker has the time it had. -/
theorem changed_entry_of_touched {key : String} (ht : h.Touched h' c.directory a key)
    (ho : h.Orderly) (hdir : c.directory.Proper) (htray : h.Tray c.directory a) (hq : q.Keyed)
    (hne : cacheKey q ≠ key) : h'.changed (c.entry q) = h.changed (c.entry q) :=
  changed_entry_congr ho (ht.grows.orderly ho) hdir htray ht.tray hq
    (congrArg _ (ht.others hne))

/-! ### Within one directory -/

section OneDirectory

variable (ho : w.host.Orderly) (hdir : c.directory.Proper) (hp : p.Keyed) (hq : q.Keyed)
  (hne : cacheKey q ≠ cacheKey p) (hrun : (c.record p).run w = (r, w'))

include ho hdir hp hq hne hrun

/-- Recording a success where the directory is there leaves alone what is said of other files that
are looked up clear of it. -/
theorem vouches_of_record_of_tray (htray : w.host.Tray c.directory a) (hout : w.host.Avoids a q) :
    c.vouches q w'.host = c.vouches q w.host := by
  have ht := touched_of_record (Host.makeDirectories_of_isDirectory ho hdir htray.isDirectory) ho
    hdir htray hp hrun
  refine vouches_eq_of_changed (changed_entry_of_touched ht ho hdir htray hq hne) fun m _ => ?_
  rw [Host.changed, Host.changed, hout.stat_eq ho hq.proper ht.grows fun b hb => ht.outside hb]

/-- Recording a success where the directory can be made leaves alone what is said of other files,
as long as their markers fit once it is there. -/
theorem vouches_of_record_of_creatable (hc : w.host.Creatable c.directory a)
    (hshort : (cacheKey q).utf8ByteSize ≤ Disk.nameLimit) :
    c.vouches q w'.host = c.vouches q w.host := by
  obtain ⟨h₁, hmake, hg, -, hshelf, hempty⟩ := hc.exists_run ho hdir
  have ho₁ := hg.orderly ho
  have htray := hshelf.tray
  -- neither before nor behind is there a marker of the other file
  suffices hentry : w'.host.changed (c.entry q) = w.host.changed (c.entry q) by
    refine vouches_eq_of_changed hentry fun m hm => ?_
    obtain ⟨b, t, hs⟩ :=
      Host.isDirectory_eq_true_iff.mp (isDirectory_of_changed_entry ho hdir hq hm)
    rw [hc.missing] at hs
    cases hs
  by_cases hask : (c.entry q).Askable
  · have hmark := markable_of_askable hq hask
    have hbefore := stat_entry_of_missing ho hdir hmark hc.missing
      (noNull_of_offers ho hdir (.inr hc))
    rw [if_pos hask.short] at hbefore
    have hmade := changed_entry_of_tray ho₁ hdir htray hmark ⟨hshort, hask.short⟩
    rw [hempty] at hmade
    have ht := touched_of_record hmake ho₁ hdir htray hp hrun
    rw [changed_entry_of_touched ht ho₁ hdir htray hq hne, hmade, changed_of_stat_error hbefore]
  · exact changed_entry_of_not_askable hdir hq hask _ _

/-- Recording a success leaves alone what is said of other files that are looked up clear of the
directory. -/
theorem vouches_of_record_of_ne (hstraight : w.host.Straight c.directory)
    (hnames : ∀ s ∈ c.directory.parts, s.utf8ByteSize ≤ Disk.nameLimit)
    (hinside : ∀ {a t}, w.host.stat c.directory = .ok (a, .directory t) →
      ∀ {key target}, w.host.disk.node? (a ++ [key]) ≠ some (.link target))
    (hout : ∀ {a t}, w.host.stat c.directory = .ok (a, .directory t) → w.host.Avoids a q)
    (hshort : (cacheKey q).utf8ByteSize ≤ Disk.nameLimit) :
    c.vouches q w'.host = c.vouches q w.host := by
  by_cases hd : w.host.isDirectory c.directory = .ok true
  · obtain ⟨a, t, hs⟩ := Host.isDirectory_eq_true_iff.mp hd
    exact vouches_of_record_of_tray ho hdir hp hq hne hrun ⟨⟨t, hs⟩, hinside hs⟩ (hout hs)
  · rcases Host.barred_or_creatable ho hdir hstraight hnames hd with ⟨e, hb⟩ | ⟨a, hc⟩
    · cases hrun.symm.trans (run_record_of_error hb.run)
      rfl
    · exact vouches_of_record_of_creatable ho hdir hp hq hne hrun hc hshort

end OneDirectory

/-- A marker can be asked for if its path is short enough as a whole. -/
theorem askable_entry (hq : q.Markable) (hne : c.directory.parts ≠ [])
    (hnull : holdsNull c.directory.text = false)
    (hsize : c.directory.text.utf8ByteSize + (cacheKey q).utf8ByteSize < Disk.textLimit) :
    (c.entry q).Askable where
  short := by
    have hslash : "/".utf8ByteSize = 1 := by decide
    rw [c.entry_eq hq, Path.text_down_of_ne_nil hne, String.utf8ByteSize_append,
      String.utf8ByteSize_append, hslash]
    omega
  noNull := holdsNull_entry hq hnull

/-- Where the directory can be made, recording a success of another file turns the answer about one
whose marker has too long a name into a fault. -/
theorem isValid_of_record_of_long (ho : w.host.Orderly) (hdir : c.directory.Proper) (hp : p.Keyed)
    (hq : q.Markable) (hc : w.host.Creatable c.directory a)
    (hlong : Disk.nameLimit < (cacheKey q).utf8ByteSize) (hask : (c.entry q).Askable)
    (hrun : (c.record p).run w = (r, w')) :
    ((c.isValid q).run w).1 = .ok false ∧
      ((c.isValid q).run w').1 = .error (.system .nameTooLong (c.entry q).text) := by
  obtain ⟨h₁, hmake, hg, -, hshelf, -⟩ := hc.exists_run ho hdir
  have ho₁ := hg.orderly ho
  have hmisfit : ¬c.Fits q := fun hfits => Nat.not_le.mpr hlong hfits.1
  have hbefore : c.vouches q w.host = .ok false := by
    rw [vouches_of_creatable ho hdir hc hq, if_pos hask.short]
  have ht := touched_of_record hmake ho₁ hdir hshelf.tray hp hrun
  have hbehind := vouches_of_tray_of_misfit (ht.grows.orderly ho₁) hdir ht.tray hq hmisfit
  exact ⟨(c.answer_eq q w).trans hbefore, (c.answer_eq q w').trans hbehind⟩

end ResultCache

/-! ### In different directories -/

namespace Host

variable {h h' h₁ : Host} {root dir : Path} {c : Address} {name : String}
  {untouched : String → Prop}

/-- A directory is **unlinked** when it is no link, and nothing right in it is one. -/
structure Unlinked (h : Host) (dir : Path) : Prop where
  itself : ∀ {a target}, h.placeOf .examine dir.text ≠ .ok (.taken a (.link target))
  inside : ∀ {a t}, h.stat dir = .ok (a, .directory t) →
    ∀ {key target}, h.disk.node? (a ++ [key]) ≠ some (.link target)

/-- Where no link is on the disk, all directories are unlinked. -/
theorem unlinked_of_entries (ho : h.Orderly) (hdir : dir.Proper)
    (hlinks : ∀ e ∈ h.disk.entries, e.2.isLink = false) : h.Unlinked dir where
  itself {a target} hplace := by
    have hn := ((placeOf_eq_ok_iff .examine ho hdir).mp hplace).2.node?_eq
    cases hlinks _ (Disk.mem_of_node? hn)
  inside _ _ _ hn := by cases hlinks _ (Disk.mem_of_node? hn)

/-- Where a name labels an unlinked directory, there are no links in the cabinet. -/
theorem Unlinked.linkFree (hu : h.Unlinked (root.down name)) (hl : Label root name)
    (ho : h.Orderly) (hc : h.BelongsAt root c) : h.LinkFree (c ++ [name]) := by
  rcases hc with ⟨t, hs⟩ | hc
  · have hitself : ∀ target, h.disk.node? (c ++ [name]) ≠ some (.link target) := by
      intro target hn
      have hplace : h.placeOf .examine (root.down name).text = _ :=
        placeOf_down_of_stat ho hl.above hl.proper hl.notUp hl.askable hl.short hs (.inl rfl)
      rw [hn] at hplace
      exact hu.itself hplace
    refine ⟨hitself, fun key target hn => ?_⟩
    obtain ⟨s, hdir⟩ := ho.tree.parent hn
    have hplace : h.placeOf .use (root.down name).text = _ :=
      placeOf_down_of_stat ho hl.above hl.proper hl.notUp hl.askable hl.short hs (.inr hitself)
    rw [hdir] at hplace
    exact hu.inside (stat_eq_ok_iff_placeOf.mpr hplace) hn
  · refine ⟨fun target hn => ?_, fun key target hn => ?_⟩
    · rw [hc.below ho hl.above] at hn
      cases hn
    · rw [List.append_assoc, List.singleton_append, hc.below ho hl.above] at hn
      cases hn

/-- A directory of a cabinet is well **housed** when the names on the way to the cabinet are short
and each `..` there is used in a directory that is there, and it is unlinked itself. -/
structure Housed (h : Host) (root : Path) (name : String) : Prop where
  orderly : h.Orderly
  above : root.Proper
  straight : h.Straight root
  names : ∀ s ∈ root.parts, s.utf8ByteSize ≤ Disk.nameLimit
  proper : Path.ProperName name
  notUp : name ≠ ".."
  unlinked : h.Unlinked (root.down name)

/-- A drawer whose path can be asked for and whose name is short has a label and a place, or its
cache is shut. -/
theorem Housed.drawer_or_shut {cache : ResultCache} (untouched : String → Prop)
    (hh : h.Housed root name) (hshort : name.utf8ByteSize ≤ Disk.nameLimit)
    (hdir : cache.directory = root.down name) :
    (Label root name ∧ ∃ c, h.Drawer root c name) ∨
      ∀ h', Sequel root untouched h h' → untouched name → cache.Shut h h' := by
  by_cases ha : (root.down name).Askable
  · have hnull := ha.noNull
    rw [Path.holdsNull_text_down, Bool.or_eq_false_iff] at hnull
    have hl : Label root name := ⟨hh.above, hh.proper, hh.notUp, hshort, ha⟩
    exact Sequel.drawer_or_shut ⟨hh.above, hnull.1, hh.straight, hh.names⟩ hh.orderly
      ⟨hh.proper, hh.notUp, hshort, hnull.2⟩ (fun c hc => hh.unlinked.linkFree hl hh.orderly hc)
      hdir
  · exact .inr fun h' _ _ => shut_of_not_askable hdir hh.above hh.proper ha h h'

/-- What happens on a host is **confined** to a drawer of a cabinet when the other drawers are as
before, and so is everything outside the cabinet if that was there. -/
structure Confined (root : Path) (name : String) (h h' : Host) : Prop where
  sequel : Sequel root (· ≠ name) h h'
  beyond : ∀ {c t}, h.stat root = .ok (c, .directory t) → ∀ b, ¬c <+: b →
    h'.disk.node? b = h.disk.node? b

theorem Confined.refl (root : Path) (name : String) (h : Host) : Confined root name h h :=
  ⟨.refl root _ h, fun _ _ _ => rfl⟩

/-- Opening a drawer of a cabinet that is there changes nothing outside of it. -/
theorem Drawer.beyond {t : Int} {r : Except Fault Unit} (hd : h.Drawer root c name)
    (hl : Label root name) (ho : h.Orderly) (hs : h.stat root = .ok (c, .directory t))
    (hrun : (makeDirectories (root.down name)).run h = (r, h₁)) {b : Address} (hb : ¬c <+: b) :
    h₁.disk.node? b = h.disk.node? b := by
  rcases hd.cases hl ho with ⟨-, -, htray⟩ | ⟨hfree, -⟩
  · cases hrun.symm.trans
      (makeDirectories_of_isDirectory ho (hl.above.down hl.proper) htray.isDirectory)
    rfl
  · cases hrun.symm.trans (run_makeDirectories_of_directory ho hl.above hl.proper hl.notUp
      hl.askable hl.short hs hfree)
    rw [node?_add, List.dropLast_concat, if_neg, if_neg]
    · rintro rfl
      exact hb List.prefix_rfl
    · rintro rfl
      exact hb (List.prefix_append _ _)

/-- A name that is too long for a drawer is refused, though the cabinet is made before. -/
theorem run_makeDirectories_of_long (ho : h.Orderly) (hroot : root.Proper)
    (hn : Path.ProperName name) (hup : name ≠ "..") (ha : (root.down name).Askable)
    (hlong : Disk.nameLimit < name.utf8ByteSize) (hc : h.Creatable root c) :
    ∃ e h', (makeDirectories (root.down name)).run h = (.error e, h') ∧ h.Laid h' root c := by
  obtain ⟨h₁, hrun, hlaid⟩ := BelongsAt.exists_laid (.inr hc) ho hroot
  obtain ⟨t, hs⟩ := hlaid.there
  have ho₁ := hlaid.grows.orderly ho
  have hplace := placeOf_down_of_missing .examine ho hroot hn ha hc.missing
  have hplace₁ : ∀ purpose, h₁.placeOf purpose (root.down name).text =
      .error (.system .nameTooLong (root.down name).text) := fun _ =>
    placeOf_down_of_long ho₁ hroot hn hup ha hlong hs
  have hno : h₁.isDirectory (root.down name) ≠ .ok true := by
    rw [isDirectory, holds, stat_of_error (hplace₁ .use)]
    simp [isAbsence]
  obtain ⟨e, he⟩ := run_unlessThere_of_missing hno (.system .nameTooLong (root.down name).text)
  refine ⟨e, h₁, ?_, hlaid⟩
  rw [run_makeDirectories_of_above hplace hrun, run_ensureDirectory, run_makeDirectory, hplace₁]
  simpa [Fault.isNotFound] using he

/-- Laying out a cabinet that was missing touches no drawer. -/
theorem Laid.confined (hlaid : h.Laid h' root c) (hc : h.Creatable root c) (name : String) :
    Confined root name h h' where
  sequel := by
    obtain ⟨t, hs⟩ := hlaid.there
    refine ⟨hlaid.grows.mono fun _ hw => hw.elim, .inr ⟨c, t, .inr hc, hs⟩, ?_⟩
    intro d hd other _ rest
    cases BelongsAt.unique (.inr hc) hd
    exact hlaid.below other rest
  beyond hs := by
    rw [hc.missing] at hs
    cases hs

end Host

namespace ResultCache

open Host (Label Housed Sequel Confined)

variable {c : ResultCache} {p q root : Path} {h h' : Host} {w w' : World} {name : String}
  {r : Except Fault Unit} {untouched : String → Prop}

/-- What is recorded in a drawer is confined to it. -/
theorem confined_of_record_in_drawer {a : Address} (hd : w.host.Drawer root a name)
    (hl : Label root name) (ho : w.host.Orderly) (hdir : c.directory = root.down name)
    (hp : p.Keyed) (hrun : (c.record p).run w = (r, w')) :
    Confined root name w.host w'.host := by
  obtain ⟨h₁, hmake, hop⟩ := hd.exists_opened hl ho
  have hfiled : w.host.Filed w'.host root a name (cacheKey p) ∧
      ∀ b, ¬a <+: b → w'.host.disk.node? b = h₁.disk.node? b := by
    have hcases := host_of_record (hdir ▸ hmake) (hop.grows.orderly ho)
      (hdir ▸ hl.above.down hl.proper) (hdir ▸ hop.tray) hp hrun
    rcases hcases with hsame | hstamped
    · rw [hsame]
      exact ⟨hop.filed _, fun _ _ => rfl⟩
    · rw [hstamped]
      refine ⟨hop.stampFile hl ho _, fun b hb => Host.node?_stampFile_of_outside ?_ ?_⟩
      · rintro rfl
        exact hb (List.append_assoc a _ _ ▸ List.prefix_append _ _)
      · rintro rfl
        exact hb (List.prefix_append _ _)
  refine ⟨(Sequel.refl root _ w.host).filed hd.cabinet hfiled.1 fun hne => hne rfl,
    fun {d t} hs b hb => ?_⟩
  cases hd.cabinet.unique (.inl ⟨t, hs⟩)
  exact (hfiled.2 b hb).trans (hd.beyond hl ho hs hmake hb)

/-- A drawer with a name that is too long is barred where the cabinet is there. -/
theorem barred_of_long {a : Address} {t : Int} (ho : h.Orderly) (hroot : root.Proper)
    (hn : Path.ProperName name) (hup : name ≠ "..") (ha : (root.down name).Askable)
    (hlong : Disk.nameLimit < name.utf8ByteSize) (hs : h.stat root = .ok (a, .directory t)) :
    ∃ e, h.Barred (root.down name) e := by
  have hplace : ∀ purpose, h.placeOf purpose (root.down name).text =
      .error (.system .nameTooLong (root.down name).text) := fun _ =>
    Host.placeOf_down_of_long ho hroot hn hup ha hlong hs
  have hno : h.isDirectory (root.down name) ≠ .ok true := by
    rw [Host.isDirectory, Host.holds, Host.stat_of_error (hplace .use)]
    simp [Host.isAbsence]
  exact ⟨_, Host.barred_of_error (by simp) hno (hplace .examine) (by simp [Fault.isNotFound])⟩

/-- Whatever recording a success under one of several drivers comes to, it is confined to the drawer
of that driver. -/
theorem confined_of_record (hh : w.host.Housed root name) (hdir : c.directory = root.down name)
    (hp : p.Keyed) (hrun : (c.record p).run w = (r, w')) :
    Confined root name w.host w'.host := by
  have hrefused : ∀ {e}, w.host.Barred c.directory e → Confined root name w.host w'.host := by
    intro e hb
    cases hrun.symm.trans (run_record_of_error hb.run)
    exact .refl root name w.host
  by_cases hshort : name.utf8ByteSize ≤ Disk.nameLimit
  · rcases hh.drawer_or_shut (fun _ => True) hshort hdir with ⟨hl, a, hd⟩ | hshut
    · exact confined_of_record_in_drawer hd hl hh.orderly hdir hp hrun
    · obtain ⟨e, hb, -⟩ := (hshut w.host (.refl root _ w.host) trivial).barred
      exact hrefused hb
  · by_cases ha : (root.down name).Askable
    · have hlong := Nat.lt_of_not_le hshort
      by_cases hd : w.host.isDirectory root = .ok true
      · obtain ⟨a, t, hs⟩ := Host.isDirectory_eq_true_iff.mp hd
        obtain ⟨e, hb⟩ := barred_of_long hh.orderly hh.above hh.proper hh.notUp ha hlong hs
        exact hrefused (hdir ▸ hb)
      · rcases Host.barred_or_creatable hh.orderly hh.above hh.straight hh.names hd with
          ⟨e, hb⟩ | ⟨a, hc⟩
        · obtain ⟨e', hb'⟩ := hb.down hh.orderly (hh.above.down hh.proper) hd
          exact hrefused (hdir ▸ hb')
        · -- the cabinet is made before the name of the drawer is refused
          obtain ⟨e, h₁, hmake, hlaid⟩ := Host.run_makeDirectories_of_long hh.orderly hh.above
            hh.proper hh.notUp ha hlong hc
          cases hrun.symm.trans (run_record_of_error (hdir ▸ hmake))
          exact hlaid.confined hc name
    · obtain ⟨e, hb, -⟩ :=
        (Host.shut_of_not_askable hdir hh.above hh.proper ha w.host w.host).barred
      exact hrefused hb

/-- In a drawer that is untouched, what is found of a marker is what was found of it before. -/
theorem changed_entry_of_sequel (hs : Sequel root untouched h h') (hname : untouched name)
    (hh : h.Housed root name) (hshort : name.utf8ByteSize ≤ Disk.nameLimit)
    (hdir : c.directory = root.down name) (hq : q.Keyed) :
    h'.changed (c.entry q) = h.changed (c.entry q) := by
  have ho := hh.orderly
  have ho' := hs.grows.orderly ho
  have hproper : c.directory.Proper := hdir ▸ hh.above.down hh.proper
  by_cases hask : (c.entry q).Askable
  · have hmark := markable_of_askable hq hask
    rcases hh.drawer_or_shut _ hshort hdir with ⟨hl, a, hd⟩ | hshut
    · -- the drawer and its inside are the same on both hosts, whether it has been made or not
      have hd' := hs.drawer hd hname
      have hsame := fun rest => hs.aside hd.cabinet hname rest
      rcases hd.cases hl ho with ⟨hmade, -, htray⟩ | ⟨hfree, hc⟩
      · rcases hd'.cases hl ho' with ⟨-, -, htray'⟩ | ⟨hfree', -⟩
        · rw [← hdir] at htray htray'
          refine changed_entry_congr ho ho' hproper htray htray' hq ?_
          rw [List.append_assoc]
          exact congrArg _ (hsame [cacheKey q])
        · exact absurd ((hsame []).symm.trans hfree') hmade
      · rcases hd'.cases hl ho' with ⟨hmade', -, -⟩ | ⟨-, hc'⟩
        · exact absurd ((hsame []).trans hfree) hmade'
        · rw [← hdir] at hc hc'
          rw [changed_of_stat_error (stat_entry_of_missing ho hproper hmark hc.missing
              (noNull_of_offers ho hproper (.inr hc))),
            changed_of_stat_error (stat_entry_of_missing ho' hproper hmark hc'.missing
              (noNull_of_offers ho' hproper (.inr hc')))]
    · rw [Host.changed, Host.changed, (hshut h' hs hname).entries hmark]
  · exact changed_entry_of_not_askable hproper hq hask _ _

/-- What is confined to the drawer of one driver leaves alone what is said under another one of
files that are looked up clear of the cabinet. -/
theorem vouches_of_confined {other : String} (hconf : Confined root other h h')
    (hne : name ≠ other) (hh : h.Housed root name)
    (hshort : name.utf8ByteSize ≤ Disk.nameLimit) (hdir : c.directory = root.down name)
    (hq : q.Keyed) (hout : ∀ {a t}, h.stat root = .ok (a, .directory t) → h.Avoids a q) :
    c.vouches q h' = c.vouches q h := by
  have ho := hh.orderly
  refine vouches_eq_of_changed (changed_entry_of_sequel hconf.sequel hne hh hshort hdir hq)
    fun m hm => ?_
  have hproper : c.directory.Proper := hdir ▸ hh.above.down hh.proper
  have hd := isDirectory_of_changed_entry ho hproper hq hm
  rw [hdir] at hd
  obtain ⟨a, t, hs⟩ := Host.isDirectory_eq_true_iff.mp
    (Host.isDirectory_of_down ho (hh.above.down hh.proper) hd)
  rw [Host.changed, Host.changed, (hout hs).stat_eq ho hq.proper hconf.sequel.grows
    fun b hb => hconf.beyond hs b hb]

end ResultCache

namespace Settings

variable {s : Settings} {d₁ d₂ : Driver} {p q : Path} {h : Host} {w w' : World}
  {r : Except Fault Unit}

/-- The cache of a driver. -/
def cacheOf (s : Settings) (d : Driver) : ResultCache := ⟨s.cacheDirectory d⟩

/-- Two drivers are **told apart** by the directories of their caches when they have the same name,
or different ones that are single names. -/
def ToldApart (d₁ d₂ : Driver) : Prop :=
  d₁.name = d₂.name ∨ d₁.name ≠ d₂.name ∧
    ∀ d, d = d₁ ∨ d = d₂ → Path.ProperName d.name ∧ d.name ≠ ".."

/-- A host has **room** for the caches of two drivers and for a file that is kept clear of them:
names are short, each `..` on the way is used in a directory that is there, and there are no links
in the directories. The name of the file's marker has to be short only where the success of another
file may make its directory. -/
structure Room (s : Settings) (d₁ d₂ : Driver) (q : Path) (h : Host) : Prop where
  orderly : h.Orderly
  proper : s.cacheRoot.Proper
  straight : h.Straight (s.cacheDirectory d₂)
  names : ∀ x ∈ (s.cacheDirectory d₂).parts, x.utf8ByteSize ≤ Disk.nameLimit
  unlinked : ∀ d, d = d₁ ∨ d = d₂ → h.Unlinked (s.cacheDirectory d)
  outside : ∀ dir, dir = s.cacheRoot ∨ dir = s.cacheDirectory d₂ →
    ∀ {a t}, h.stat dir = .ok (a, .directory t) → h.Avoids a q
  key : d₁.name = d₂.name → (cacheKey q).utf8ByteSize ≤ Disk.nameLimit

theorem cacheDirectory_congr (s : Settings) (hname : d₁.name = d₂.name) :
    s.cacheDirectory d₁ = s.cacheDirectory d₂ := by
  rw [cacheDirectory, cacheDirectory, hname]

/-- A marker belongs to one ordinary path, under one name of a driver. -/
theorem eq_of_entry_eq (hd : ToldApart d₁ d₂) (hp : p.Ordinary) (hq : q.Ordinary)
    (hentry : (s.cacheOf d₁).entry p = (s.cacheOf d₂).entry q) : d₁.name = d₂.name ∧ p = q := by
  rw [ResultCache.entry_eq_down _ hp.toKeyed, ResultCache.entry_eq_down _ hq.toKeyed,
    Path.down_inj] at hentry
  obtain ⟨hdir, hkey⟩ := hentry
  refine ⟨?_, hp.eq_of_cacheKey_eq hq hkey⟩
  rcases hd with hsame | ⟨-, hsingle⟩
  · exact hsame
  · have hdown : s.cacheRoot.child d₁.name = s.cacheRoot.child d₂.name := hdir
    rw [Path.child_eq_down _ (hsingle d₁ (.inl rfl)).1,
      Path.child_eq_down _ (hsingle d₂ (.inr rfl)).1] at hdown
    exact (Path.down_inj.mp hdown).2

/-- Two drivers with single names have their directories in the directory of all caches. -/
theorem Room.housed (hr : s.Room d₁ d₂ q h)
    (hsingle : ∀ d, d = d₁ ∨ d = d₂ → Path.ProperName d.name ∧ d.name ≠ "..") {d : Driver}
    (hd : d = d₁ ∨ d = d₂) : h.Housed s.cacheRoot d.name := by
  have hdown : ∀ d, d = d₁ ∨ d = d₂ → s.cacheDirectory d = s.cacheRoot.down d.name :=
    fun d hd => Path.child_eq_down _ (hsingle d hd).1
  have hstraight := hr.straight
  have hnames := hr.names
  rw [hdown d₂ (.inr rfl)] at hstraight hnames
  exact ⟨hr.orderly, hr.proper, hstraight.of_down, fun x hx => hnames x (by simp [hx]),
    (hsingle d hd).1, (hsingle d hd).2, hdown d hd ▸ hr.unlinked d hd⟩

/-- Recording a success leaves alone what is said of another ordinary path, and of any under another
name of a driver. -/
theorem Room.vouches_eq (hr : s.Room d₁ d₂ q w.host) (hd : ToldApart d₁ d₂) (hp : p.Ordinary)
    (hq : q.Ordinary) (hother : d₁.name = d₂.name → p ≠ q)
    (hrun : ((s.cacheOf d₁).record p).run w = (r, w')) :
    (s.cacheOf d₂).vouches q w'.host = (s.cacheOf d₂).vouches q w.host := by
  rcases hd with hsame | ⟨hne, hsingle⟩
  · have hcache : s.cacheOf d₁ = s.cacheOf d₂ :=
      congrArg ResultCache.mk (s.cacheDirectory_congr hsame)
    rw [hcache] at hrun
    exact ResultCache.vouches_of_record_of_ne hr.orderly (hr.proper.child _) hp.toKeyed hq.toKeyed
      (fun hkey => hother hsame (hp.eq_of_cacheKey_eq hq hkey.symm)) hrun hr.straight hr.names
      (fun hs => (hr.unlinked d₂ (.inr rfl)).inside hs) (fun hs => hr.outside _ (.inr rfl) hs)
      (hr.key hsame)
  · have hdown : ∀ d, d = d₁ ∨ d = d₂ → (s.cacheOf d).directory = s.cacheRoot.down d.name :=
      fun d hd => Path.child_eq_down _ (hsingle d hd).1
    have hconf := ResultCache.confined_of_record (hr.housed hsingle (.inl rfl))
      (hdown d₁ (.inl rfl)) hp.toKeyed hrun
    have hshort : d₂.name.utf8ByteSize ≤ Disk.nameLimit :=
      hr.names _ (by rw [show s.cacheDirectory d₂ = _ from hdown d₂ (.inr rfl)]; simp)
    exact ResultCache.vouches_of_confined hconf hne.symm (hr.housed hsingle (.inr rfl)) hshort
      (hdown d₂ (.inr rfl)) hq.toKeyed fun hs => hr.outside _ (.inl rfl) hs

/-- The markers of ordinary paths are kept apart. Those of different paths, or under different
drivers, are different, each stands right in the directory of its driver, and recording a success
changes no answer about another path, or under another driver. -/
theorem keeps_apart (s : Settings) (hd : ToldApart d₁ d₂) (hp : p.Ordinary) (hq : q.Ordinary) :
    ((s.cacheOf d₁).entry p = (s.cacheOf d₂).entry q → d₁.name = d₂.name ∧ p = q) ∧
    ('/' ∉ (cacheKey p).toList ∧
      (s.cacheOf d₁).entry p = (s.cacheDirectory d₁).down (cacheKey p)) ∧
    ∀ {w w' : World} {r : Except Fault Unit}, s.Room d₁ d₂ q w.host →
      (d₁.name = d₂.name → p ≠ q) → ((s.cacheOf d₁).record p).run w = (r, w') →
        (((s.cacheOf d₂).isValid q).run w').1 = (((s.cacheOf d₂).isValid q).run w).1 := by
  refine ⟨eq_of_entry_eq hd hp hq,
    ⟨slash_not_mem_cacheKey p, ResultCache.entry_eq_down _ hp.toKeyed⟩, ?_⟩
  intro w w' r hr hother hrun
  rw [ResultCache.answer_eq, ResultCache.answer_eq, hr.vouches_eq hd hp hq hother hrun]

/-- A success under one driver, while another one vouches for a file. -/
theorem keeps_apart_sample :
    let s : Settings := { root := .absolute ["r"], cacheRoot := .absolute ["r", "cache"] }
    let d₁ := Driver.shell
    let d₂ := Driver.python
    let p : Path := .absolute ["r", "a.sh"]
    let q : Path := .absolute ["r", "b.py"]
    let base := Host.holding [["r"], ["r", "cache"], ["r", "cache", "python"]]
      [(["r", "a.sh"], []), (["r", "b.py"], [])]
    let marker : Address × Node := (["r", "cache", "python", "r%b.py"], .file [] false 5)
    let w : World := ⟨{ base with disk := ⟨base.disk.entries ++ [marker]⟩ }, []⟩
    let w' := (((s.cacheOf d₁).record p).run w).2
    ToldApart d₁ d₂ ∧ p.Ordinary ∧ q.Ordinary ∧ s.Room d₁ d₂ q w.host ∧
      (((s.cacheOf d₂).isValid q).run w).1 = .ok true ∧
      (((s.cacheOf d₂).isValid q).run w').1 = .ok true := by
  intro s d₁ d₂ p q base marker w w'
  have hd : ToldApart d₁ d₂ := by
    refine .inr ⟨by decide, fun d hd => ?_⟩
    rcases hd with rfl | rfl <;> exact ⟨by decide, by decide⟩
  have hp : p.Ordinary := ⟨⟨by decide, by decide, by decide⟩, rfl, by decide⟩
  have hq : q.Ordinary := ⟨⟨by decide, by decide, by decide⟩, rfl, by decide⟩
  have ho : w.host.Orderly := by decide
  have hroot : s.cacheRoot.Proper := by decide
  have hr : s.Room d₁ d₂ q w.host := by
    refine ⟨ho, hroot, Host.straight_of_not_mem (by decide +kernel), by decide +kernel,
      fun d _ => Host.unlinked_of_entries ho (hroot.child _) (by decide), fun dir hdir a t hs => ?_,
      fun hsame => absurd hsame (by decide)⟩
    have hresolved : w.host.Resolved q := by decide
    refine hresolved.avoids ho ?_
    have hat : ∀ {b u}, w.host.stat dir = .ok (b, .directory u) → ¬b <+: q.parts →
        ¬a <+: q.parts := by
      intro b u hb hnot
      rw [hs] at hb
      cases hb
      exact hnot
    rcases hdir with rfl | rfl
    · exact hat (b := ["r", "cache"]) (u := 0) (by decide +kernel) (by decide)
    · exact hat (b := ["r", "cache", "python"]) (u := 0) (by decide +kernel) (by decide)
  have hvalid : (((s.cacheOf d₂).isValid q).run w).1 = .ok true := by decide +kernel
  exact ⟨hd, hp, hq, hr, hvalid, ((keeps_apart s hd hp hq).2.2 hr (by decide) rfl).trans hvalid⟩

/-- Where a success is recorded, an answer about another file may change: where the name of the
file's marker turns out to be too long once the directory is made; where the directory is not what
it seems, because its path goes up from a directory that is missing; and where a marker is a link to
another one. -/
theorem not_keeps_apart :
    let s : Settings := { root := .absolute ["r"], cacheRoot := .absolute ["r", "cache"] }
    let detour : Settings :=
      { root := .absolute ["r"], cacheRoot := .absolute ["r", "x", "..", "cache"] }
    let d := Driver.python
    let p : Path := .absolute ["r", "a.py"]
    let q : Path := .absolute ["r", "b.py"]
    let far : Path := .absolute (List.replicate 30 "directory")
    let plain := Host.holding [["r"], ["r", "cache"]] [(["r", "a.py"], []), (["r", "b.py"], [])]
    let kept := Host.holding [["r"], ["r", "cache"], ["r", "cache", "python"]]
      [(["r", "a.py"], []), (["r", "b.py"], [])]
    let young : Address × Node := (["r", "cache", "python", "r%b.py"], .file [] false 5)
    let old : Address × Node := (["r", "cache", "python", "r%b.py"], .file [] false 0)
    let link : Address × Node :=
      (["r", "cache", "python", "r%a.py"], .link "/r/cache/python/r%b.py")
    let hidden : Host := { kept with disk := ⟨kept.disk.entries ++ [young]⟩ }
    let linked : Host := { kept with disk := ⟨kept.disk.entries ++ [old, link]⟩ }
    let before := fun (c : ResultCache) (x : Path) (h : Host) => ((c.isValid x).run ⟨h, []⟩).1
    let behind := fun (c : ResultCache) (x : Path) (h : Host) =>
      ((c.isValid x).run ((c.record p).run ⟨h, []⟩).2).1
    (p.Ordinary ∧ q.Ordinary ∧ far.Ordinary ∧ p ≠ q ∧ p ≠ far) ∧
    (plain.Orderly ∧ hidden.Orderly ∧ linked.Orderly) ∧
    (before (s.cacheOf d) far plain = .ok false ∧ behind (s.cacheOf d) far plain =
      .error (.system .nameTooLong ((s.cacheOf d).entry far).text)) ∧
    (before (detour.cacheOf d) q hidden = .ok false ∧
      behind (detour.cacheOf d) q hidden = .ok true) ∧
    before (s.cacheOf d) q linked = .ok false ∧ behind (s.cacheOf d) q linked = .ok true := by
  intro s detour d p q far plain kept young old link hidden linked before behind
  have hp : p.Ordinary := ⟨⟨by decide, by decide, by decide⟩, rfl, by decide⟩
  have hq : q.Ordinary := ⟨⟨by decide, by decide, by decide⟩, rfl, by decide⟩
  have hname : ∀ x ∈ far.parts, x = "directory" := fun x hx => List.eq_of_mem_replicate hx
  have hfar : far.Ordinary :=
    ⟨⟨fun x hx => hname x hx ▸ by decide, List.cons_ne_nil _ _, by decide⟩, rfl,
      fun x hx => hname x hx ▸ by decide⟩
  have hlong : before (s.cacheOf d) far plain = .ok false ∧
      behind (s.cacheOf d) far plain =
        .error (.system .nameTooLong ((s.cacheOf d).entry far).text) := by
    have ho : plain.Orderly := by decide
    have hroot : s.cacheRoot.Proper := by decide
    have hdir : (s.cacheOf d).directory = s.cacheRoot.down "python" :=
      Path.child_eq_down _ (by decide)
    have hcreatable : plain.Creatable (s.cacheRoot.down "python") (["r", "cache"] ++ ["python"]) :=
      Host.creatable_of_free ho hroot (by decide) (by decide) ⟨by decide, by decide⟩ (by decide)
        (t := 0) (by decide +kernel) rfl
    have hmark := hfar.markable (Path.holdsNull_text_absolute fun x hx => hname x hx ▸ by decide)
    have hsize : (cacheKey far).utf8ByteSize = 299 := by
      have htext := utf8ByteSize_text_eq hfar.proper hfar.ne_nil
      rw [Path.utf8ByteSize_text_replicate "directory" 29] at htext
      have hone : far.anchor.text.utf8ByteSize = 1 := by decide
      have hnine : "directory".utf8ByteSize = 9 := by decide
      omega
    have hupper : (s.cacheOf d).directory.text.utf8ByteSize = 15 := by decide +kernel
    exact ResultCache.isValid_of_record_of_long (w := ⟨plain, []⟩) ho (hroot.child _) hp.toKeyed
      hmark (hdir ▸ hcreatable) (hsize ▸ by decide)
      (ResultCache.askable_entry hmark (by decide +kernel) (by decide +kernel)
        (by rw [hsize, hupper]; decide)) rfl
  exact ⟨⟨hp, hq, hfar, by decide, by decide⟩, ⟨by decide, by decide, by decide⟩, hlong,
    ⟨by decide +kernel, by decide +kernel⟩, by decide +kernel, by decide +kernel⟩

end Settings

end OptIn
