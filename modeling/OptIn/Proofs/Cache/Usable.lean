import OptIn.Proofs.Cache.Marker
import OptIn.Proofs.Host.Files
import OptIn.Proofs.Invoker.Runner

/-!
# Usable caches

A cache directory is usable when it is a shelf, or when it is missing and making it gives an empty
one (`Host.Offers`). A file whose marker fits is then vouched for by the time of its marker, and a
success of it is recorded by stamping that marker, after which the directory is a shelf
(`vouches_of_offers`, `run_record_of_offers`). A success whose marker does not fit is refused
(`run_record_of_offers_of_misfit`).
-/

namespace OptIn

namespace Host

variable {h h' : Host} {p dir : Path} {a b : Address} {bytes : List UInt8} {x : Bool} {t : Int}

/-- A directory is **creatable** when it is missing and making it, at whatever time, gives an empty
directory. -/
structure Creatable (h : Host) (dir : Path) (a : Address) : Prop where
  missing : h.stat dir = .error (.system .notFound dir.text)
  made : ∀ t, ∃ h' s, (makeDirectories dir).run { h with clock := t } = (.ok (), h') ∧
    h'.stat dir = .ok (a, .directory s) ∧ ∀ name, h'.disk.node? (a ++ [name]) = none

/-- A host **offers** a directory for files: it is there and holds nothing else, or it can be
made. -/
def Offers (h : Host) (dir : Path) (a : Address) : Prop := h.Shelf dir a ∨ h.Creatable dir a

theorem Shelf.later (hs : h.Shelf dir a) (hl : h.Later h') : h'.Shelf dir a where
  there := by
    rw [hl.stat_eq]
    exact hs.there
  files hn := by
    rw [hl.disk_eq] at hn
    exact hs.files hn

theorem Creatable.later (hc : h.Creatable dir a) (hl : h.Later h') : h'.Creatable dir a := by
  obtain ⟨t, -, rfl⟩ := hl
  exact ⟨hc.missing, hc.made⟩

theorem Offers.later (ho : h.Offers dir a) (hl : h.Later h') : h'.Offers dir a :=
  ho.imp (·.later hl) (·.later hl)

/-- Making a creatable directory now. -/
theorem Creatable.exists_run (hc : h.Creatable dir a) (ho : h.Orderly) (hdir : dir.Proper) :
    ∃ h', (makeDirectories dir).run h = (.ok (), h') ∧ h.Grows (fun _ => False) h' ∧
      h'.clock = h.clock ∧ h'.Shelf dir a ∧ ∀ name, h'.disk.node? (a ++ [name]) = none := by
  obtain ⟨h', s, hrun, hstat, hempty⟩ := hc.made h.clock
  obtain ⟨hg, hclock, -⟩ := grows_makeDirectories ho hdir hrun
  refine ⟨h', hrun, hg, hclock, ⟨⟨s, hstat⟩, fun {name n} hn => ?_⟩, hempty⟩
  rw [hempty] at hn
  cases hn

/-- Where a directory can be made there are no files yet. -/
theorem Creatable.free (hc : h.Creatable dir a) (ho : h.Orderly) (hdir : dir.Proper)
    (name : String) : h.disk.node? (a ++ [name]) = none := by
  obtain ⟨h', -, hg, -, -, hempty⟩ := hc.exists_run ho hdir
  exact hg.free (hempty name)

/-- What stands in a directory that is offered is a file. -/
theorem Offers.files {name : String} {n : Node} (hoffers : h.Offers dir a) (ho : h.Orderly)
    (hdir : dir.Proper) (hn : h.disk.node? (a ++ [name]) = some n) : n.isFile = true := by
  rcases hoffers with hs | hc
  · exact hs.files hn
  · rw [hc.free ho hdir] at hn
    cases hn

/-- A regular file has a path that can have a marker. -/
theorem markable_of_stat (ho : h.Orderly) (hp : p.Proper)
    (hs : h.stat p = .ok (a, .file bytes x t)) : p.Markable where
  proper := hp
  ne_nil hnil := by
    obtain ⟨b, s, hdir⟩ := isDirectory_eq_true_iff.mp (isDirectory_of_parts_eq_nil ho hnil)
    rw [hs] at hdir
    cases hdir
  ne_up hup := by
    obtain ⟨-, hwalk⟩ := (stat_eq_ok_iff ho hp).mp hs
    rw [hup] at hwalk
    cases hwalk with
    | stay _ hname => rcases hname with hname | hname <;> simp at hname
    | up hdir hstop =>
      cases hstop with
      | stop hn =>
        rcases List.eq_nil_or_concat (h.startOf p) with hstart | ⟨c, name, hstart⟩
        · rw [hstart] at hdir hn
          simp [hdir] at hn
        · rw [hstart, List.concat_eq_append] at hdir hn
          obtain ⟨s, hs'⟩ := ho.tree.parent hdir
          rw [List.dropLast_concat, hs'] at hn
          cases hn
    | down _ _ _ hname => simp at hname
    | jump _ _ _ hname => simp at hname
  noNull := noNull_of_stat hp hs

end Host

namespace ResultCache

variable {c : ResultCache} {p : Path} {h h' : Host} {w : World} {a b : Address}
  {bytes : List UInt8} {x : Bool} {t : Int}

/-- In a missing directory there is no marker. -/
theorem stat_entry_of_missing (ho : h.Orderly) (hdir : c.directory.Proper) (hp : p.Markable)
    (hmissing : h.stat c.directory = .error (.system .notFound c.directory.text))
    (hnull : holdsNull c.directory.text = false) :
    h.stat (c.entry p) = .error (.system
      (if (c.entry p).text.utf8ByteSize ≤ Disk.textLimit then .notFound else .nameTooLong)
        (c.entry p).text) := by
  have hname := properName_cacheKey hp.proper hp.ne_nil
  have hentry := holdsNull_entry hp hnull
  refine Host.stat_of_error ?_
  split
  · rename_i hshort
    have ha : (c.entry p).Askable := ⟨hshort, hentry⟩
    rw [c.entry_eq hp] at ha ⊢
    obtain ⟨left, hleft⟩ := Host.placeOf_down .use ho hdir hname ha
    rw [hleft, hmissing]
  · rename_i hlong
    have hproper : (c.entry p).Proper := c.entry_eq hp ▸ hdir.down hname
    rw [Host.placeOf_of_not_askable hproper fun ha => hlong ha.short, hentry]
    rfl

theorem vouches_of_ok {m : Int} (hm : h.changed (c.entry p) = .ok m) (ht : h.changed p = .ok t) :
    c.vouches p h = .ok (t < m) := by
  rw [vouches, times, hm, ht]
  rfl

theorem vouches_of_error {e : Fault} (he : h.changed (c.entry p) = .error e) :
    c.vouches p h = if e.isNotFound then .ok false else .error e := by
  rw [vouches, times, he]
  rfl

/-- A file that is missing is not vouched for. -/
theorem vouches_of_missing {m : Int} {s : String} (hm : h.changed (c.entry p) = .ok m)
    (ht : h.changed p = .error (.system .notFound s)) : c.vouches p h = .ok false := by
  rw [vouches, times, hm, ht]
  rfl

theorem changed_of_stat_error {e : Fault} {q : Path} (hs : h.stat q = .error e) :
    h.changed q = .error e := by
  rw [Host.changed, hs]
  rfl

theorem noNull_of_offers (ho : h.Orderly) (hdir : c.directory.Proper)
    (hoffers : h.Offers c.directory a) : holdsNull c.directory.text = false := by
  rcases hoffers with hs | hc
  · obtain ⟨s, hs⟩ := hs.there
    exact Host.noNull_of_stat hdir hs
  · obtain ⟨h', -, -, -, hs, -⟩ := hc.exists_run ho hdir
    obtain ⟨s, hs⟩ := hs.there
    exact Host.noNull_of_stat hdir hs

/-- On a tray, the time of a marker that fits is that of what stands under its name. -/
theorem changed_entry_of_tray (ho : h.Orderly) (hdir : c.directory.Proper)
    (htray : h.Tray c.directory a) (hp : p.Markable) (hfits : c.Fits p) :
    h.changed (c.entry p) =
      match h.disk.node? (a ++ [cacheKey p]) with
      | none => .error (.system .notFound (c.entry p).text)
      | some n => .ok n.changed := by
  have hplace := placeOf_entry .use ho hdir hp htray hfits
  rcases hn : h.disk.node? (a ++ [cacheKey p]) with _ | n
  · rw [hn] at hplace
    exact changed_of_stat_error (Host.stat_of_vacant h hplace)
  · rw [hn] at hplace
    exact Host.changed_of_stat (Host.stat_eq_ok_iff_placeOf.mpr hplace)

/-- On a tray, a file whose marker fits is vouched for if the marker is there and younger. -/
theorem vouches_of_tray (ho : h.Orderly) (hdir : c.directory.Proper)
    (htray : h.Tray c.directory a) (hp : p.Proper) (hs : h.stat p = .ok (b, .file bytes x t))
    (hfits : c.Fits p) :
    c.vouches p h = .ok ((h.disk.node? (a ++ [cacheKey p])).any fun n => t < n.changed) := by
  have hm := changed_entry_of_tray ho hdir htray (Host.markable_of_stat ho hp hs) hfits
  rcases hn : h.disk.node? (a ++ [cacheKey p]) with _ | n
  · rw [hn] at hm
    rw [vouches_of_error hm]
    rfl
  · rw [hn] at hm
    rw [vouches_of_ok hm (Host.changed_of_stat hs)]
    rfl

/-- On a tray, the cache cannot tell whether it vouches for a file whose marker does not fit. -/
theorem vouches_of_tray_of_misfit (ho : h.Orderly) (hdir : c.directory.Proper)
    (htray : h.Tray c.directory a) (hp : p.Markable) (hmisfit : ¬c.Fits p) :
    c.vouches p h = .error (.system .nameTooLong (c.entry p).text) := by
  have hplace := placeOf_entry_of_misfit .use ho hdir hp htray hmisfit
  rw [vouches_of_error (changed_of_stat_error (Host.stat_of_error hplace))]
  rfl

/-- Where the directory is missing, no file is vouched for. -/
theorem vouches_of_creatable (ho : h.Orderly) (hdir : c.directory.Proper)
    (hcreatable : h.Creatable c.directory a) (hp : p.Markable) :
    c.vouches p h =
      if (c.entry p).text.utf8ByteSize ≤ Disk.textLimit then .ok false
      else .error (.system .nameTooLong (c.entry p).text) := by
  have hmissing := stat_entry_of_missing ho hdir hp hcreatable.missing
    (noNull_of_offers ho hdir (.inr hcreatable))
  rw [vouches_of_error (changed_of_stat_error hmissing)]
  split <;> rfl

/-- The time of a marker that fits is that of what stands under its name. -/
theorem changed_entry_of_offers (ho : h.Orderly) (hdir : c.directory.Proper)
    (hoffers : h.Offers c.directory a) (hp : p.Markable) (hfits : c.Fits p) :
    h.changed (c.entry p) =
      match h.disk.node? (a ++ [cacheKey p]) with
      | none => .error (.system .notFound (c.entry p).text)
      | some n => .ok n.changed := by
  rcases hoffers with hshelf | hcreatable
  · exact changed_entry_of_tray ho hdir hshelf.tray hp hfits
  · rw [hcreatable.free ho hdir, changed_of_stat_error (stat_entry_of_missing ho hdir hp
      hcreatable.missing (noNull_of_offers ho hdir (.inr hcreatable))), if_pos hfits.2]

/-- A file whose marker fits is vouched for if the marker is there and younger. -/
theorem vouches_of_offers (ho : h.Orderly) (hdir : c.directory.Proper)
    (hoffers : h.Offers c.directory a) (hp : p.Proper) (hs : h.stat p = .ok (b, .file bytes x t))
    (hfits : c.Fits p) :
    c.vouches p h = .ok ((h.disk.node? (a ++ [cacheKey p])).any fun n => t < n.changed) := by
  rcases hoffers with hshelf | hcreatable
  · exact vouches_of_tray ho hdir hshelf.tray hp hs hfits
  · rw [vouches_of_creatable ho hdir hcreatable (Host.markable_of_stat ho hp hs), if_pos hfits.2,
      hcreatable.free ho hdir]
    rfl

/-- A success whose marker fits is recorded, in a directory that is made if it has to be. -/
theorem run_record_of_offers (ho : w.host.Orderly) (hdir : c.directory.Proper)
    (hoffers : w.host.Offers c.directory a) (hp : p.Markable) (hfits : c.Fits p) :
    ∃ w', (c.record p).run w = (.ok (), w') ∧
      w.host.Stamped w'.host c.directory a (cacheKey p) := by
  rcases hoffers with hshelf | hcreatable
  · exact run_record_of_shelf ho hdir hp hshelf hfits
  · obtain ⟨h₁, hmake, hg, hclock, hshelf, hempty⟩ := hcreatable.exists_run ho hdir
    have ho₁ := hg.orderly ho
    obtain ⟨w', hrun, hhost⟩ :=
      run_record_of_ok hmake (run_touch_entry ho₁ hdir hp hshelf.tray hfits)
    have hstamped := Host.stamped_stampFile ho₁ hdir hshelf (cacheKey p)
    rw [← hhost] at hstamped
    refine ⟨w', hrun, ?_, ?_, hstamped.shelf, ?_, fun {name} hname => ?_⟩
    · exact (hg.mono fun _ hw => hw.elim).trans hstamped.grows
    · rw [hstamped.clock, hclock]
    · rw [← hclock]
      exact hstamped.marker
    · rw [hstamped.others hname, hempty, hcreatable.free ho hdir]

/-- A success whose marker does not fit cannot be recorded. -/
theorem run_record_of_offers_of_misfit (ho : w.host.Orderly) (hdir : c.directory.Proper)
    (hoffers : w.host.Offers c.directory a) (hp : p.Markable) (hmisfit : ¬c.Fits p) :
    ∃ w', (c.record p).run w = (.error (.system .nameTooLong (c.entry p).text), w') := by
  rcases hoffers with hshelf | hcreatable
  · obtain ⟨w', hrun, -⟩ := run_record_of_misfit ho hdir hp hshelf.tray hmisfit
    exact ⟨w', hrun⟩
  · obtain ⟨h₁, hmake, hg, -, hshelf, -⟩ := hcreatable.exists_run ho hdir
    have ho₁ := hg.orderly ho
    obtain ⟨w', hrun, -⟩ := run_record_of_ok hmake
      (Host.run_touch_of_error (placeOf_entry_of_misfit .use ho₁ hdir hp hshelf.tray hmisfit)
        (placeOf_entry_of_misfit .create ho₁ hdir hp hshelf.tray hmisfit))
    exact ⟨w', hrun⟩

/-- A file whose marker does not fit is never vouched for. -/
theorem vouches_of_misfit (ho : h.Orderly) (hdir : c.directory.Proper)
    (hoffers : h.Offers c.directory a) (hp : p.Markable) (hmisfit : ¬c.Fits p) :
    c.vouches p h ≠ .ok true := by
  rcases hoffers with hshelf | hcreatable
  · rw [vouches_of_tray_of_misfit ho hdir hshelf.tray hp hmisfit]
    exact fun h => nomatch h
  · rw [vouches_of_creatable ho hdir hcreatable hp]
    split <;> simp

/-- Looking a file up and recording a success of it go through exactly if its marker fits. -/
theorem runs_iff_fits (ho : w.host.Orderly) (hdir : c.directory.Proper)
    (hoffers : w.host.Offers c.directory a) (hp : p.Proper)
    (hs : w.host.stat p = .ok (b, .file bytes x t)) :
    ((∃ v w', (c.isValid p).run w = (.ok v, w')) ∧ (∃ w', (c.record p).run w = (.ok (), w')) ↔
      c.Fits p) := by
  have hmark := Host.markable_of_stat ho hp hs
  constructor
  · rintro ⟨-, w', hrecord⟩
    by_contra hmisfit
    obtain ⟨w'', hrefused⟩ := run_record_of_offers_of_misfit ho hdir hoffers hmark hmisfit
    rw [hrecord] at hrefused
    cases hrefused
  · intro hfits
    obtain ⟨w', hvalid, -⟩ := c.run_isValid p w
    rw [vouches_of_offers ho hdir hoffers hp hs hfits] at hvalid
    obtain ⟨w'', hrecord, -⟩ := run_record_of_offers ho hdir hoffers hmark hfits
    exact ⟨⟨_, w', hvalid⟩, w'', hrecord⟩

/-- On a shelf, a file is vouched for exactly if its marker fits and is there and younger. -/
theorem vouches_iff_of_shelf (ho : h.Orderly) (hdir : c.directory.Proper)
    (hshelf : h.Shelf c.directory a) (hp : p.Proper) (hs : h.stat p = .ok (b, .file bytes x t)) :
    c.vouches p h = .ok true ↔
      c.Fits p ∧ ∃ n, h.disk.node? (a ++ [cacheKey p]) = some n ∧ t < n.changed := by
  by_cases hfits : c.Fits p
  · rw [vouches_of_offers ho hdir (.inl hshelf) hp hs hfits]
    simp [hfits, Option.any_eq_true]
  · refine iff_of_false ?_ fun h => hfits h.1
    exact vouches_of_misfit ho hdir (.inl hshelf) (Host.markable_of_stat ho hp hs) hfits

/-- Where a marker is found, there is a directory. -/
theorem isDirectory_of_changed_entry {m : Int} (ho : h.Orderly) (hdir : c.directory.Proper)
    (hp : p.Keyed) (hm : h.changed (c.entry p) = .ok m) :
    h.isDirectory c.directory = .ok true := by
  by_contra hno
  obtain ⟨e, he⟩ : ∃ e, h.placeOf .use (c.directory.down (cacheKey p)).text = .error e :=
    Host.placeOf_down_of_not_directory ho hdir hp.properName
      fun b t hb => hno (Host.isDirectory_eq_true_iff.mpr ⟨b, t, hb⟩)
  rw [c.entry_eq_down hp, changed_of_stat_error (Host.stat_of_error he)] at hm
  cases hm

/-- Where there is no directory, no file is vouched for. -/
theorem vouches_ne_of_missing (ho : h.Orderly) (hdir : c.directory.Proper) (hp : p.Markable)
    (hno : h.isDirectory c.directory ≠ .ok true) : c.vouches p h ≠ .ok true := by
  intro hv
  obtain ⟨m, -, hm, -⟩ := vouches_eq_true_iff.mp hv
  exact hno (isDirectory_of_changed_entry ho hdir hp.keyed hm)

/-! ### Whatever comes of a record -/

/-- What stamping a marker on a shelf comes to. -/
theorem touch_cases (ho : h.Orderly) (hdir : c.directory.Proper) (hshelf : h.Shelf c.directory a)
    (hp : p.Markable) : ∃ r h', (Host.touch (c.entry p)).run h = (r, h') ∧
      (r = .ok () ∧ c.Fits p ∧ h.Stamped h' c.directory a (cacheKey p) ∨
        (∃ e, r = .error e) ∧ h' = h) := by
  by_cases hfits : c.Fits p
  · exact ⟨_, _, run_touch_entry ho hdir hp hshelf.tray hfits,
      .inl ⟨rfl, hfits, Host.stamped_stampFile ho hdir hshelf (cacheKey p)⟩⟩
  · exact ⟨_, _, Host.run_touch_of_error
      (placeOf_entry_of_misfit .use ho hdir hp hshelf.tray hfits)
      (placeOf_entry_of_misfit .create ho hdir hp hshelf.tray hfits), .inr ⟨⟨_, rfl⟩, rfl⟩⟩

/-- What recording a success on a shelf comes to. -/
theorem record_cases_of_shelf {w' : World} (ho : w.host.Orderly) (hdir : c.directory.Proper)
    (hshelf : w.host.Shelf c.directory a) (hp : p.Markable) {r : Except Fault Unit}
    (hrun : (c.record p).run w = (r, w')) :
    r = .ok () ∧ c.Fits p ∧ w.host.Stamped w'.host c.directory a (cacheKey p) ∨
      (∃ e, r = .error e) ∧ w'.host = w.host := by
  obtain ⟨r', h', htouch, hcases⟩ := touch_cases ho hdir hshelf hp
  obtain ⟨w₁, hrun', rfl⟩ := run_record_of_ok
    (Host.makeDirectories_of_isDirectory ho hdir hshelf.isDirectory) htouch
  cases hrun.symm.trans hrun'
  exact hcases

/-- What recording a success comes to where there is no directory: it cannot be made, or it is made
as a shelf without markers before the marker is stamped. -/
theorem record_cases_of_missing {w' : World} (ho : w.host.Orderly) (hdir : c.directory.Proper)
    (hno : w.host.isDirectory c.directory ≠ .ok true) (hstraight : w.host.Straight c.directory)
    (hp : p.Markable) {r : Except Fault Unit} (hrun : (c.record p).run w = (r, w')) :
    (∃ e, r = .error e) ∧ w.host.Grows (fun _ => False) w'.host ∧
        w'.host.isDirectory c.directory ≠ .ok true ∨
      ∃ a h, w.host.Grows (fun _ => False) h ∧ h.clock = w.host.clock ∧ h.Shelf c.directory a ∧
        (∀ name, h.disk.node? (a ++ [name]) = none) ∧
        (r = .ok () ∧ c.Fits p ∧ h.Stamped w'.host c.directory a (cacheKey p) ∨
          (∃ e, r = .error e) ∧ w'.host = h) := by
  rcases hmake : (Host.makeDirectories c.directory).run w.host with ⟨e | ⟨⟩, h⟩
  · have hreq := Host.makeDirectories_of_missing ho hdir hno hmake
    cases hrun.symm.trans (run_record_of_error hmake)
    exact .inl ⟨⟨e, rfl⟩, hreq.grows, hreq.missing e rfl⟩
  · have hreq := Host.makeDirectories_of_missing ho hdir hno hmake
    obtain ⟨a, hmade⟩ := hreq.fresh rfl hstraight
    obtain ⟨r', h', htouch, hcases⟩ :=
      touch_cases (hreq.grows.orderly ho) hdir hmade.shelf hp
    obtain ⟨w₁, hrun', rfl⟩ := run_record_of_ok hmake htouch
    cases hrun.symm.trans hrun'
    exact .inr ⟨a, h, hreq.grows, hreq.clock, hmade.shelf, hmade.empty, hcases⟩

end ResultCache

end OptIn
