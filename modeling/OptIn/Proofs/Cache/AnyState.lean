import OptIn.Proofs.Cache.Marker
import OptIn.Proofs.Host.Files

/-!
# Caches in any state

What can be said of a cache without knowing what stands in its place. Under a path without NUL the
only faults are those of the operating system (`isSystem_of_vouches`, `isSystem_of_record`), and
whatever recording a success does, it does no more than make directories, make one file, and stamp
what is there (`grows_of_record`). What has been touched is there and bears the present time
(`changed_of_touch`).
-/

namespace OptIn

namespace Host

variable {h h' : Host} {p : Path} {e : Fault} {s : String} {purpose : Disk.Purpose} {a : Address}
  {n : Node}

theorem isSystem_of_placeOf (hnull : holdsNull s = false) (he : h.placeOf purpose s = .error e) :
    e.isSystem = true := by
  rw [placeOf, hnull] at he
  rcases hp : h.disk.place h.cwd purpose s with e' | x
  · rw [hp] at he
    cases he
    rfl
  · rw [hp] at he
    cases he

theorem isSystem_of_stat (hnull : holdsNull p.text = false) (he : h.stat p = .error e) :
    e.isSystem = true := by
  rw [stat, statText] at he
  rcases hp : h.placeOf .use p.text with e' | x | x
  · rw [hp] at he
    cases he
    exact isSystem_of_placeOf hnull hp
  · rw [hp] at he
    cases he
  · rw [hp] at he
    cases he
    rfl

theorem isSystem_of_holds {good : Node → Bool} (he : h.holds good p = .error e) :
    e.isSystem = true := by
  rw [holds] at he
  rcases hs : h.stat p with e' | x
  · rw [hs] at he
    simp only at he
    split at he
    · cases he
    · rename_i habsence
      cases he
      refine isSystem_of_stat ?_ hs
      -- a NUL only means that nothing is there
      rw [← Bool.not_eq_true]
      intro hnull
      have hrefused : h.stat p = .error .embeddedNull := by
        rw [stat, statText, placeOf, if_pos hnull]
        rfl
      rw [hs] at hrefused
      cases hrefused
      exact habsence rfl
  · rw [hs] at he
    cases he

theorem isSystem_of_changed (hnull : holdsNull p.text = false) (he : h.changed p = .error e) :
    e.isSystem = true := by
  rw [changed] at he
  rcases hs : h.stat p with e' | x
  · rw [hs] at he
    cases he
    exact isSystem_of_stat hnull hs
  · rw [hs] at he
    cases he

/-! ### Making directories -/

theorem isSystem_of_makeDirectory (hnull : holdsNull p.text = false)
    (hrun : (makeDirectory p).run h = (.error e, h')) : e.isSystem = true := by
  rw [run_makeDirectory] at hrun
  rcases hp : h.placeOf .examine p.text with e' | x | x
  · rw [hp] at hrun
    cases hrun
    exact isSystem_of_placeOf hnull hp
  · rw [hp] at hrun
    cases hrun
    rfl
  · rw [hp] at hrun
    cases hrun

theorem isSystem_of_unlessThere {e' : Fault} (he : e.isSystem = true)
    (hrun : (unlessThere p e).run h = (.error e', h')) : e'.isSystem = true := by
  rw [run_unlessThere, if_pos he] at hrun
  rcases hd : h.isDirectory p with f | _ | _
  · rw [hd] at hrun
    cases hrun
    exact isSystem_of_holds hd
  · rw [hd] at hrun
    cases hrun
    exact he
  · rw [hd] at hrun
    cases hrun

theorem isSystem_of_ensureDirectory (hnull : holdsNull p.text = false)
    (hrun : (ensureDirectory p).run h = (.error e, h')) : e.isSystem = true := by
  rw [run_ensureDirectory] at hrun
  rcases hmake : (makeDirectory p).run h with ⟨f | ⟨⟩, h₁⟩
  · have hf := isSystem_of_makeDirectory hnull hmake
    rw [hmake] at hrun
    simp only at hrun
    split at hrun
    · cases hrun
      exact hf
    · exact isSystem_of_unlessThere hf hrun
  · rw [hmake] at hrun
    cases hrun

theorem holdsNull_parent (hnull : holdsNull p.text = false) : holdsNull p.parent.text = false := by
  by_cases hparts : p.parts = []
  · have hparent : p.parent = p := by
      rw [Path.parent, hparts]
      exact Path.ext rfl hparts.symm
    rwa [hparent]
  · obtain ⟨q, name, rfl⟩ := Path.exists_eq_down hparts
    rw [Path.holdsNull_text_down, Bool.or_eq_false_iff] at hnull
    rw [Path.parent_down]
    exact hnull.1

theorem isSystem_of_makeDirectories (hnull : holdsNull p.text = false)
    (hrun : (makeDirectories p).run h = (.error e, h')) : e.isSystem = true := by
  rw [makeDirectories] at hrun
  generalize p.parts.length = depth at hrun
  induction depth generalizing p h h' e with
  | zero => exact isSystem_of_ensureDirectory hnull hrun
  | succ depth ih =>
    rw [run_makeDirectoriesWithin_succ] at hrun
    rcases hmake : (makeDirectory p).run h with ⟨f | ⟨⟩, h₁⟩
    · have hf := isSystem_of_makeDirectory hnull hmake
      rw [hmake] at hrun
      simp only at hrun
      split at hrun
      · rcases habove : (makeDirectoriesWithin depth p.parent).run h₁ with ⟨f' | ⟨⟩, h₂⟩
        · rw [habove] at hrun
          cases hrun
          exact ih (holdsNull_parent hnull) habove
        · rw [habove] at hrun
          exact isSystem_of_ensureDirectory hnull hrun
      · exact isSystem_of_unlessThere hf hrun
    · rw [hmake] at hrun
      cases hrun

/-- What stands where a file could be made is there to be used. -/
theorem stat_of_taken (ho : h.Orderly) (hp : p.Proper)
    (hv : h.placeOf .create p.text = .ok (.taken a n)) : h.stat p = .ok (a, n) := by
  obtain ⟨ha, hwalk⟩ := (placeOf_eq_ok_iff .create ho hp).mp hv
  exact (stat_eq_ok_iff ho hp).mpr ⟨ha, hwalk.use_of_create⟩

/-- **Touching** stamps what stands there, or makes an empty file, or is refused and does nothing
at all. -/
theorem outcome_of_touch {r : Except Fault Unit} (hrun : (touch p).run h = (r, h')) :
    (∃ a n, (h.stat p = .ok (a, n) ∨ h.placeOf .create p.text = .ok (.taken a n)) ∧
        r = .ok () ∧ h' = h.replace a (n.stamp h.clock)) ∨
      (∃ a, h.placeOf .create p.text = .ok (.vacant a) ∧
        r = .ok () ∧ h' = h.add a (.file [] false h.clock)) ∨
      ∃ e, h.placeOf .create p.text = .error e ∧ r = .error e ∧ h' = h := by
  rw [touch, Action.run_bind_ok (Action.run_get h)] at hrun
  rcases hs : h.stat p with e | ⟨a, n⟩
  · rw [hs] at hrun
    simp only at hrun
    rcases hv : h.placeOf .create p.text with e' | ⟨a, n⟩ | a
    · rw [hv] at hrun
      cases hrun
      exact .inr (.inr ⟨e', rfl, rfl, rfl⟩)
    · rw [hv] at hrun
      cases hrun
      exact .inl ⟨a, n, .inr rfl, rfl, rfl⟩
    · rw [hv] at hrun
      cases hrun
      exact .inr (.inl ⟨a, rfl, rfl, rfl⟩)
  · rw [hs] at hrun
    cases hrun
    exact .inl ⟨a, n, .inl rfl, rfl, rfl⟩

theorem isSystem_of_touch (hnull : holdsNull p.text = false)
    (hrun : (touch p).run h = (.error e, h')) : e.isSystem = true := by
  obtain ⟨_, _, _, hr, _⟩ | ⟨_, _, hr, _⟩ | ⟨f, hv, hr, _⟩ := outcome_of_touch hrun
  · cases hr
  · cases hr
  · cases hr
    exact isSystem_of_placeOf hnull hv

/-- Whatever is touched, a file comes or something is stamped. -/
theorem grows_touch {r : Except Fault Unit} (ho : h.Orderly) (hp : p.Proper)
    (hrun : (touch p).run h = (r, h')) : h.Grows (fun _ => True) h' := by
  obtain ⟨a, n, hn, -, rfl⟩ | ⟨a, hv, -, rfl⟩ | ⟨e, -, -, rfl⟩ := outcome_of_touch hrun
  · have hs := hn.elim id (stat_of_taken ho hp)
    have hthere := node?_of_stat ho hp hs
    cases n with
    | file bytes x t => exact grows_replace _ hthere trivial
    | directory t => exact grows_restamp _ hthere
    | link target => cases isLink_eq_false_of_stat ho hp hs
  · obtain ⟨-, hwalk⟩ := (placeOf_eq_ok_iff .create ho hp).mp hv
    obtain ⟨b, name, t, rfl, hdir, hfree⟩ := hwalk.exists_parent
    exact grows_add_file _ ⟨t, hdir⟩ hfree trivial
  · exact .refl _ _

/-- What has been touched is there, and bears the present time. -/
theorem changed_of_touch (ho : h.Orderly) (hp : p.Proper)
    (hrun : (touch p).run h = (.ok (), h')) : h'.changed p = .ok h.clock := by
  have hg := grows_touch ho hp hrun
  obtain ⟨a, n, hn, -, rfl⟩ | ⟨a, hv, -, rfl⟩ | ⟨e, -, hr, -⟩ := outcome_of_touch hrun
  · have hs := hn.elim id (stat_of_taken ho hp)
    have hstamped : (h.replace a (n.stamp h.clock)).disk.node? a = some (n.stamp h.clock) :=
      Disk.node?_put_self _ _ _
    cases n with
    | file bytes x t =>
      exact changed_of_stat (stat_keeps ho (hg.orderly ho) hp hg.keeps hg.cwd hs hstamped rfl)
    | directory t =>
      exact changed_of_stat (stat_keeps ho (hg.orderly ho) hp hg.keeps hg.cwd hs hstamped rfl)
    | link target => cases isLink_eq_false_of_stat ho hp hs
  · -- the walk that found room for the file now finds the file
    obtain ⟨ha, hwalk⟩ := (placeOf_eq_ok_iff .create ho hp).mp hv
    have hfile : (h.add a (.file [] false h.clock)).disk.node? a =
        some (.file [] false h.clock) := by
      rw [node?_add, if_pos rfl]
    exact changed_of_stat ((stat_eq_ok_iff (hg.orderly ho) hp).mpr
      ⟨ha, hwalk.filled hg.keeps hfile rfl⟩)
  · cases hr

end Host

namespace ResultCache

variable {cache : ResultCache} {p : Path} {h h' : Host} {w w' : World} {e : Fault}

theorem isSystem_of_vouches (hentry : holdsNull (cache.entry p).text = false)
    (hnull : holdsNull p.text = false) (he : cache.vouches p h = .error e) :
    e.isSystem = true := by
  rw [vouches, times] at he
  rcases hm : h.changed (cache.entry p) with f | m
  · rw [hm] at he
    simp only [bind, Except.bind, younger] at he
    split at he
    · cases he
    · cases he
      exact Host.isSystem_of_changed hentry hm
  · rcases ht : h.changed p with f | t
    · rw [hm, ht] at he
      simp only [bind, Except.bind, younger] at he
      split at he
      · cases he
      · cases he
        exact Host.isSystem_of_changed hnull ht
    · rw [hm, ht] at he
      cases he

theorem isSystem_of_record (hdir : holdsNull cache.directory.text = false)
    (hentry : holdsNull (cache.entry p).text = false)
    (hrun : (cache.record p).run w = (.error e, w')) : e.isSystem = true := by
  rcases hmake : (Host.makeDirectories cache.directory).run w.host with ⟨f | ⟨⟩, h⟩
  · cases hrun.symm.trans (run_record_of_error hmake)
    exact Host.isSystem_of_makeDirectories hdir hmake
  · rcases htouch : (Host.touch (cache.entry p)).run h with ⟨r, h'⟩
    obtain ⟨w₁, hrun', -⟩ := run_record_of_ok hmake htouch
    cases hrun.symm.trans hrun'
    exact Host.isSystem_of_touch hentry htouch

/-- Whatever comes of a record, files keep their bytes, and nothing but markers and directories
comes. -/
theorem grows_of_record {r : Except Fault Unit} (ho : w.host.Orderly)
    (hdir : cache.directory.Proper) (hrun : (cache.record p).run w = (r, w')) :
    w.host.Grows (fun _ => True) w'.host := by
  rcases hmake : (Host.makeDirectories cache.directory).run w.host with ⟨f | ⟨⟩, h⟩
  · cases hrun.symm.trans (run_record_of_error hmake)
    exact (Host.grows_makeDirectories ho hdir hmake).1.mono fun _ hw => hw.elim
  · have hg := (Host.grows_makeDirectories ho hdir hmake).1
    rcases htouch : (Host.touch (cache.entry p)).run h with ⟨r', h'⟩
    obtain ⟨w₁, hrun', rfl⟩ := run_record_of_ok hmake htouch
    cases hrun.symm.trans hrun'
    exact (hg.mono fun _ hw => hw.elim).trans
      (Host.grows_touch (hg.orderly ho) (hdir.child _) htouch)

end ResultCache

end OptIn
