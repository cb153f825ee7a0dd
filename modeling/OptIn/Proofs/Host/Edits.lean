import OptIn.Proofs.Cache.Marker

/-!
# Edits

Writing a file, or taking one away, touches nothing else but the time of its directory
(`retouched_of_writeFile`, `retouched_of_unlink`). No directory and no link comes or goes, so every
directory that is missing stays missing, and a shelf in which nothing is written stays a shelf. At a
resolved path the file is written at the address that the path writes, stamped with the present time
(`edited_of_writeFile`).
-/

namespace OptIn.Host

variable {h h' : Host} {p dir : Path} {a b : Address} {bytes : List UInt8} {x : Bool} {t : Int}
  {name : String}

/-! ### Files that come, change or go -/

/-- A host is **retouched** at an address when nothing has happened to it but that a file has come
there, has changed or has gone. -/
structure Retouched (a : Address) (h h' : Host) : Prop extends h.Alters (· = a) h' where
  now : h'.clock = h.clock
  directories : ∀ {b t}, h'.disk.node? b = some (.directory t) →
    ∃ t', h.disk.node? b = some (.directory t')

theorem Retouched.refl (a : Address) (h : Host) : h.Retouched a h :=
  ⟨.refl _ h, rfl, fun hb => ⟨_, hb⟩⟩

theorem retouched_add (hdir : ∃ s, h.disk.node? b = some (.directory s))
    (hfree : h.disk.node? (b ++ [name]) = none) :
    h.Retouched (b ++ [name]) (h.add (b ++ [name]) (.file bytes x t)) where
  toAlters := (grows_add_file (· = b ++ [name]) hdir hfree rfl).toAlters
  now := rfl
  directories {c s} hc := by
    rw [node?_add_name hdir] at hc
    split_ifs at hc with _ hcb
    · cases hc
    · rw [hcb]
      exact hdir
    · exact ⟨s, hc⟩

theorem retouched_replace {bytes' : List UInt8} {x' : Bool} {t' : Int}
    (hn : h.disk.node? a = some (.file bytes x t)) :
    h.Retouched a (h.replace a (.file bytes' x' t')) where
  toAlters := alters_replace (· = a) hn rfl
  now := rfl
  directories {c s} hc := by
    rw [replace, Disk.node?_put] at hc
    split_ifs at hc
    · cases hc
    · exact ⟨s, hc⟩

theorem retouched_remove (hdir : ∃ s, h.disk.node? b = some (.directory s))
    (hn : h.disk.node? (b ++ [name]) = some (.file bytes x t)) :
    h.Retouched (b ++ [name]) (h.remove (b ++ [name])) where
  toAlters := alters_remove (· = b ++ [name]) hdir hn rfl
  now := rfl
  directories {c s} hc := by
    rw [node?_remove_name hdir] at hc
    split_ifs at hc with _ hcb
    · rw [hcb]
      exact hdir
    · exact ⟨s, hc⟩

/-- Writing a file retouches a host where the path leads, or changes nothing. -/
theorem retouched_of_writeFile {place : Disk.Place} {r : Except Fault Unit} (ho : h.Orderly)
    (hp : p.Proper) (hplace : h.placeOf .create p.text = .ok place)
    (hrun : (writeFile p bytes x t).run h = (r, h')) : h.Retouched place.address h' := by
  obtain ⟨ha, hwalk⟩ := (placeOf_eq_ok_iff .create ho hp).mp hplace
  rw [writeFile, Action.run_bind_ok (Action.run_get h), hplace] at hrun
  cases place with
  | taken a n =>
    have hn := hwalk.node?_eq
    cases n with
    | directory =>
      cases hrun
      exact .refl a h
    | link target =>
      -- a link at the end would have been followed
      have hstat := (stat_eq_ok_iff ho hp).mpr ⟨ha, hwalk.use_of_create⟩
      cases isLink_eq_false_of_stat ho hp hstat
    | file bs y s =>
      cases hrun
      exact retouched_replace hn
  | vacant a =>
    obtain ⟨b, name, s, rfl, hdir, hfree⟩ := hwalk.exists_parent
    cases hrun
    exact retouched_add ⟨s, hdir⟩ hfree

/-- Taking a file away retouches a host where the path leads, or changes nothing, as long as it does
not lead to a link. -/
theorem retouched_of_unlink {place : Disk.Place} {r : Except Fault Unit} (ho : h.Orderly)
    (hp : p.Proper) (hplace : h.placeOf .examine p.text = .ok place)
    (hlink : ∀ target, h.disk.node? place.address ≠ some (.link target))
    (hrun : (unlink p).run h = (r, h')) : h.Retouched place.address h' := by
  obtain ⟨-, hwalk⟩ := (placeOf_eq_ok_iff .examine ho hp).mp hplace
  rw [unlink, Action.run_bind_ok (Action.run_get h), hplace] at hrun
  cases place with
  | taken a n =>
    have hn := hwalk.node?_eq
    cases n with
    | directory =>
      cases hrun
      exact .refl a h
    | link target => exact absurd hn (hlink target)
    | file bs y s =>
      cases hrun
      rcases List.eq_nil_or_concat a with rfl | ⟨b, name, rfl⟩
      · obtain ⟨s', hroot⟩ := ho.tree.root
        cases hn.symm.trans hroot
      · rw [List.concat_eq_append] at hn ⊢
        exact retouched_remove (ho.tree.parent hn) hn
  | vacant a =>
    cases hrun
    exact .refl a h

/-- Elsewhere stands what stood there, and directories may have got another time. -/
theorem Retouched.cases (hr : h.Retouched a h') (hb : b ≠ a) :
    h'.disk.node? b = h.disk.node? b ∨ ∃ t t', h.disk.node? b = some (.directory t) ∧
      h'.disk.node? b = some (.directory t') := by
  have hkept : ∀ {n}, n.isDirectory = false →
      (h'.disk.node? b = some n ↔ h.disk.node? b = some n) := fun hn => hr.kept hb hn
  rcases hn : h.disk.node? b with _ | n
  · rcases hn' : h'.disk.node? b with _ | n'
    · exact .inl rfl
    · cases n' with
      | directory t =>
        obtain ⟨t', ht'⟩ := hr.directories hn'
        cases hn.symm.trans ht'
      | file | link => cases hn.symm.trans ((hkept rfl).mp hn')
  · cases n with
    | directory t =>
      obtain ⟨t', ht'⟩ := hr.directory hn
      exact .inr ⟨t, t', rfl, ht'⟩
    | file | link => exact .inl ((hkept rfl).mpr hn)

/-- What is no directory is none after a host has been retouched. -/
theorem Retouched.isDirectory (hr : h.Retouched a h') (ho : h.Orderly) (hdir : dir.Proper)
    (hd : h'.isDirectory dir = .ok true) : h.isDirectory dir = .ok true := by
  obtain ⟨b, t, hs⟩ := isDirectory_eq_true_iff.mp hd
  have ho' := hr.orderly ho
  have hk : h'.disk.Keeps h.disk := ⟨hr.directories, hr.link.mp⟩
  obtain ⟨t', ht'⟩ := hr.directories (node?_of_stat ho' hdir hs)
  exact isDirectory_eq_true_iff.mpr
    ⟨b, t', stat_keeps ho' ho hdir hk hr.cwd.symm hs ht' rfl⟩

/-- A shelf outside which a host is retouched stays a shelf. -/
theorem Retouched.shelf (hr : h.Retouched a h') (ho : h.Orderly) (hdir : dir.Proper)
    (hs : h.Shelf dir b) (hout : ∀ name, a ≠ b ++ [name]) : h'.Shelf dir b where
  there := by
    obtain ⟨t, ht⟩ := hs.there
    exact hr.stat_directory ho hdir ht
  files {name n} hn := by
    rcases hd : n.isDirectory with _ | _
    · exact hs.files ((hr.kept (hout name).symm hd).mp hn)
    · cases n with
      | directory t =>
        obtain ⟨t', ht'⟩ := hr.directories hn
        cases hs.files ht'
      | file | link => cases hd

/-! ### Files at resolved paths -/

/-- What a host is after the file at a path has been **edited**. -/
structure Edited (h h' : Host) (p : Path) : Prop extends h.Alters (· = p.parts) h' where
  now : h'.clock = h.clock
  there : ∃ bytes x, h'.disk.node? p.parts = some (.file bytes x h.clock)
  directories : ∀ {a t}, h'.disk.node? a = some (.directory t) →
    ∃ t', h.disk.node? a = some (.directory t')

theorem Edited.retouched (he : h.Edited h' p) : h.Retouched p.parts h' :=
  ⟨he.toAlters, he.now, he.directories⟩

/-- What has been written at a resolved path stands at the address that the path writes. -/
theorem node?_of_writeFile (ho : h.Orderly) (hr : h.Resolved p)
    (hrun : (writeFile p bytes x t).run h = (.ok (), h')) :
    h'.disk.node? p.parts = some (.file bytes x t) := by
  rw [writeFile, Action.run_bind_ok (Action.run_get h)] at hrun
  rcases hplace : h.placeOf .create p.text with e | (⟨a, n⟩ | a)
  · rw [hplace] at hrun
    cases hrun
  · obtain rfl : a = p.parts := hr.address_of_placeOf ho hplace
    rw [hplace] at hrun
    cases n with
    | directory => cases hrun
    | file | link =>
      cases hrun
      exact Disk.node?_put_self _ _ _
  · obtain rfl : a = p.parts := hr.address_of_placeOf ho hplace
    rw [hplace] at hrun
    cases hrun
    exact (node?_add h _ _ _).trans (if_pos rfl)

/-- Writing at a resolved path edits the file there. -/
theorem edited_of_writeFile (ho : h.Orderly) (hr : h.Resolved p)
    (hrun : (writeFile p bytes x h.clock).run h = (.ok (), h')) : h.Edited h' p := by
  obtain ⟨place, hplace⟩ : ∃ place, h.placeOf .create p.text = .ok place := by
    rcases hplace : h.placeOf .create p.text with e | place
    · rw [writeFile, Action.run_bind_ok (Action.run_get h), hplace] at hrun
      cases hrun
    · exact ⟨place, rfl⟩
  have hretouched := retouched_of_writeFile ho hr.proper hplace hrun
  rw [hr.address_of_placeOf ho hplace] at hretouched
  exact ⟨hretouched.toAlters, hretouched.now, ⟨bytes, x, node?_of_writeFile ho hr hrun⟩,
    hretouched.directories⟩

/-- What is no directory is none after an edit. -/
theorem Edited.isDirectory (he : h.Edited h' p) (ho : h.Orderly) (hdir : dir.Proper)
    (hd : h'.isDirectory dir = .ok true) : h.isDirectory dir = .ok true :=
  he.retouched.isDirectory ho hdir hd

/-- A shelf in which nothing is written stays a shelf. -/
theorem Edited.shelf (he : h.Edited h' p) (ho : h.Orderly) (hdir : dir.Proper)
    (hs : h.Shelf dir a) (hout : ∀ name, p.parts ≠ a ++ [name]) : h'.Shelf dir a :=
  he.retouched.shelf ho hdir hs hout

end OptIn.Host
