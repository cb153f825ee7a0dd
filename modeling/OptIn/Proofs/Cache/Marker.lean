import OptIn.Cache
import OptIn.Proofs.Host.MakeDirectories

/-!
# Markers

Where the marker of a file is looked for, and what stamping it does. A cache directory that holds no
links is a tray (`Host.Tray`), and a shelf if it holds nothing but files (`Host.Shelf`). On a tray
the marker is found under its name if it fits, and is refused otherwise
(`ResultCache.placeOf_entry`, `placeOf_entry_of_misfit`); recording a file on a shelf stamps its
marker and nothing else (`run_record_of_shelf`, `run_record_of_misfit`).
-/

namespace OptIn

/-- A path is **keyed** when its marker has a name of its own: it is neither a root, nor the
directory above, nor the one it is used in. -/
structure Path.Keyed (p : Path) : Prop where
  proper : p.Proper
  ne_nil : p.parts ≠ []
  ne_up : p.parts ≠ [".."]

/-- A path that can have a marker: neither a root, nor the directory above, nor the one it is used
in. -/
structure Path.Markable (p : Path) : Prop where
  proper : p.Proper
  ne_nil : p.parts ≠ []
  ne_up : p.parts ≠ [".."]
  noNull : holdsNull p.text = false

theorem Path.Markable.keyed {p : Path} (hp : p.Markable) : p.Keyed :=
  ⟨hp.proper, hp.ne_nil, hp.ne_up⟩

theorem Path.Keyed.properName {p : Path} (hp : p.Keyed) : Path.ProperName (cacheKey p) :=
  properName_cacheKey hp.proper hp.ne_nil

namespace ResultCache

variable {c : ResultCache} {p : Path} {h : Host}

theorem entry_eq_down (c : ResultCache) (hp : p.Keyed) :
    c.entry p = c.directory.down (cacheKey p) := Path.child_eq_down _ hp.properName

theorem entry_eq (c : ResultCache) (hp : p.Markable) :
    c.entry p = c.directory.down (cacheKey p) := c.entry_eq_down hp.keyed

theorem proper_entry (hdir : c.directory.Proper) (hp : p.Keyed) : (c.entry p).Proper :=
  c.entry_eq_down hp ▸ hdir.down hp.properName

/-- What the times of a marker and of its file say, or the fault that they could not be had. -/
def younger : Except Fault (Int × Int) → Except Fault Bool
  | .ok (recorded, changed) => .ok (changed < recorded)
  | .error e => if e.isNotFound then .ok false else .error e

/-- What the cache says of a file, or why it cannot tell. -/
def vouches (c : ResultCache) (p : Path) (h : Host) : Except Fault Bool := younger (c.times p h)

/-- Asking the cache changes nothing, and leaves no more than a note. -/
theorem run_isValid (c : ResultCache) (p : Path) (w : World) :
    ∃ w', (c.isValid p).run w = (c.vouches p w.host, w') ∧
      (w' = w ∨ ∃ text, w' = w.log (.noted logger text)) := by
  rw [isValid, Action.run_bind_ok (Action.run_attempt _ w), World.run_ask, vouches]
  rcases c.times p w.host with e | ⟨recorded, changed⟩
  · simp only [younger]
    split
    · exact ⟨w, rfl, .inl rfl⟩
    · exact ⟨w, rfl, .inl rfl⟩
  · simp only [World.note]
    rw [Action.run_bind_ok (World.run_record _ w)]
    exact ⟨_, rfl, .inr ⟨_, rfl⟩⟩

theorem vouches_eq_true_iff :
    c.vouches p h = .ok true ↔
      ∃ m t, h.changed (c.entry p) = .ok m ∧ h.changed p = .ok t ∧ t < m := by
  rw [vouches, times]
  rcases h.changed (c.entry p) with e | m
  · simp only [bind, Except.bind, younger]
    split <;> simp
  · rcases h.changed p with e | t
    · simp only [bind, Except.bind, younger]
      split <;> simp
    · simp [bind, Except.bind, pure, Except.pure, younger]

/-- The name of a file's marker, and the text of the marker's path, are short enough. -/
def Fits (c : ResultCache) (p : Path) : Prop :=
  (cacheKey p).utf8ByteSize ≤ Disk.nameLimit ∧
    (c.entry p).text.utf8ByteSize ≤ Disk.textLimit

instance : Decidable (c.Fits p) := inferInstanceAs (Decidable (_ ∧ _))

/-- Whether a marker fits is a matter of its name. -/
theorem fits_congr {q : Path} (hkey : cacheKey p = cacheKey q) : c.Fits p ↔ c.Fits q := by
  rw [Fits, Fits, entry, entry, hkey]

end ResultCache

/-- A **tray**: a directory in which nothing is a link. -/
structure Host.Tray (h : Host) (dir : Path) (a : Address) : Prop where
  there : ∃ t, h.stat dir = .ok (a, .directory t)
  plain : ∀ {name target}, h.disk.node? (a ++ [name]) ≠ some (.link target)

/-- A **shelf**: a directory that holds nothing but files. -/
structure Host.Shelf (h : Host) (dir : Path) (a : Address) : Prop where
  there : ∃ t, h.stat dir = .ok (a, .directory t)
  files : ∀ {name n}, h.disk.node? (a ++ [name]) = some n → n.isFile = true

namespace Host

variable {h h' : Host} {p dir : Path} {a : Address}

theorem Shelf.tray (hs : h.Shelf dir a) : h.Tray dir a where
  there := hs.there
  plain hn := nomatch hs.files hn

theorem Tray.isDirectory (ht : h.Tray dir a) : h.isDirectory dir = .ok true :=
  isDirectory_eq_true_iff.mpr ⟨a, ht.there⟩

theorem Shelf.isDirectory (hs : h.Shelf dir a) : h.isDirectory dir = .ok true :=
  hs.tray.isDirectory

theorem MadeAt.shelf (hm : h.MadeAt h' dir a) : h'.Shelf dir a where
  there := ⟨_, hm.stat⟩
  files hn := by
    rw [hm.empty] at hn
    cases hn

theorem noNull_of_stat {n : Node} (hp : p.Proper) (hs : h.stat p = .ok (a, n)) :
    holdsNull p.text = false :=
  (askable_of_placeOf hp (stat_eq_ok_iff_placeOf.mp hs)).noNull

end Host

namespace ResultCache

variable {c : ResultCache} {p : Path} {h : Host} {a : Address}

theorem holdsNull_entry (hp : p.Markable) (hnull : holdsNull c.directory.text = false) :
    holdsNull (c.entry p).text = false := by
  rw [c.entry_eq hp, Path.holdsNull_text_down, hnull, holdsNull_cacheKey hp.noNull]
  rfl

/-- Where the marker of a file is looked for on a tray. -/
theorem placeOf_entry (purpose : Disk.Purpose) (ho : h.Orderly) (hdir : c.directory.Proper)
    (hp : p.Markable) (hs : h.Tray c.directory a) (hfits : c.Fits p) :
    h.placeOf purpose (c.entry p).text =
      match h.disk.node? (a ++ [cacheKey p]) with
      | none => .ok (.vacant (a ++ [cacheKey p]))
      | some n => .ok (.taken (a ++ [cacheKey p]) n) := by
  obtain ⟨t, ht⟩ := hs.there
  have ha : (c.entry p).Askable := ⟨hfits.2, holdsNull_entry hp (Host.noNull_of_stat hdir ht)⟩
  rw [c.entry_eq hp] at ha ⊢
  exact Host.placeOf_down_of_stat ho hdir (properName_cacheKey hp.proper hp.ne_nil)
    (cacheKey_ne_up hp.proper hp.ne_nil hp.ne_up) ha hfits.1 ht (.inr fun _ => hs.plain)

/-- A marker whose name is too long is refused. -/
theorem placeOf_entry_of_misfit (purpose : Disk.Purpose) (ho : h.Orderly)
    (hdir : c.directory.Proper) (hp : p.Markable) (hs : h.Tray c.directory a)
    (hmisfit : ¬c.Fits p) :
    h.placeOf purpose (c.entry p).text = .error (.system .nameTooLong (c.entry p).text) := by
  obtain ⟨t, ht⟩ := hs.there
  have hnull := holdsNull_entry hp (Host.noNull_of_stat hdir ht)
  have hname := properName_cacheKey hp.proper hp.ne_nil
  by_cases hshort : (c.entry p).text.utf8ByteSize ≤ Disk.textLimit
  · have ha : (c.entry p).Askable := ⟨hshort, hnull⟩
    have hlong := Nat.lt_of_not_le fun hkey => hmisfit ⟨hkey, hshort⟩
    rw [c.entry_eq hp] at ha ⊢
    exact Host.placeOf_down_of_long ho hdir hname (cacheKey_ne_up hp.proper hp.ne_nil hp.ne_up) ha
      hlong ht
  · have hproper : (c.entry p).Proper := c.entry_eq hp ▸ hdir.down hname
    rw [Host.placeOf_of_not_askable hproper fun ha => hshort ha.short, hnull]
    rfl

end ResultCache

/-! ### Stamping markers -/

namespace Host

/-- The host with the file at an address made, or made young again. -/
def stampFile (h : Host) (a : Address) : Host :=
  match h.disk.node? a with
  | some n => h.replace a (n.stamp h.clock)
  | none => h.add a (.file [] false h.clock)

/-- What a host is after a marker of a shelf has been **stamped**. -/
structure Stamped (h h' : Host) (dir : Path) (a : Address) (key : String) : Prop where
  grows : h.Grows (· = a ++ [key]) h'
  clock : h'.clock = h.clock
  shelf : h'.Shelf dir a
  marker : ∃ bytes x, h'.disk.node? (a ++ [key]) = some (.file bytes x h.clock)
  others : ∀ {name}, name ≠ key → h'.disk.node? (a ++ [name]) = h.disk.node? (a ++ [name])

variable {h h' : Host} {dir : Path} {a : Address} {key : String}

/-- Stamping a file changes nothing but the file and its directory. -/
theorem node?_stampFile_of_outside {b : Address} (hb : b ≠ a ++ [key]) (hdir : b ≠ a) :
    (h.stampFile (a ++ [key])).disk.node? b = h.disk.node? b := by
  rw [stampFile]
  split
  · rw [replace, Disk.node?_put, if_neg hb]
  · rw [node?_add, List.dropLast_concat, if_neg hb, if_neg hdir]

theorem node?_stampFile_of_ne {name : String} (hname : name ≠ key) :
    (h.stampFile (a ++ [key])).disk.node? (a ++ [name]) = h.disk.node? (a ++ [name]) :=
  node?_stampFile_of_outside (by simpa using hname) (Disk.ne_append_singleton a name).symm

theorem node?_stampFile_of_shelf (hs : h.Shelf dir a) (key : String) :
    ∃ bytes x, (h.stampFile (a ++ [key])).disk.node? (a ++ [key]) =
      some (.file bytes x h.clock) := by
  rcases hn : h.disk.node? (a ++ [key]) with _ | n
  · rw [stampFile, hn]
    exact ⟨[], false, (node?_add h _ _ _).trans (if_pos rfl)⟩
  · rw [stampFile, hn]
    have hfile := hs.files hn
    cases n with
    | file bytes x s => exact ⟨bytes, x, Disk.node?_put_self _ _ _⟩
    | directory | link => cases hfile

theorem grows_stampFile (ho : h.Orderly) (hdir : dir.Proper) (hs : h.Tray dir a) (key : String) :
    h.Grows (· = a ++ [key]) (h.stampFile (a ++ [key])) := by
  obtain ⟨t, ht⟩ := hs.there
  rcases hn : h.disk.node? (a ++ [key]) with _ | n
  · rw [stampFile, hn]
    exact grows_add_file (· = a ++ [key]) ⟨t, node?_of_stat ho hdir ht⟩ hn rfl
  · rw [stampFile, hn]
    cases n with
    | file bytes x s => exact grows_replace (· = a ++ [key]) hn rfl
    | directory s => exact grows_restamp (· = a ++ [key]) hn
    | link target => exact absurd hn hs.plain

/-- What is stamped on a tray bears the present time. -/
theorem changed_stampFile (hs : h.Tray dir a) (key : String) :
    ∃ n, (h.stampFile (a ++ [key])).disk.node? (a ++ [key]) = some n ∧ n.isLink = false ∧
      n.changed = h.clock := by
  rcases hn : h.disk.node? (a ++ [key]) with _ | n
  · rw [stampFile, hn]
    exact ⟨_, (node?_add h _ _ _).trans (if_pos rfl), rfl, rfl⟩
  · rw [stampFile, hn]
    cases n with
    | file | directory => exact ⟨_, Disk.node?_put_self _ _ _, rfl, rfl⟩
    | link target => exact absurd hn hs.plain

/-- A tray on which something is stamped stays a tray. -/
theorem Tray.stampFile (hs : h.Tray dir a) (ho : h.Orderly) (hdir : dir.Proper) (key : String) :
    (h.stampFile (a ++ [key])).Tray dir a where
  there := by
    obtain ⟨t, ht⟩ := hs.there
    exact (grows_stampFile ho hdir hs key).stat_directory ho hdir ht
  plain {name target} hn := by
    by_cases hname : name = key
    · obtain ⟨n, hmarker, hlink, -⟩ := changed_stampFile hs key
      rw [hname, hmarker] at hn
      cases hn
      cases hlink
    · rw [node?_stampFile_of_ne hname] at hn
      exact hs.plain hn

theorem clock_stampFile (h : Host) (a : Address) : (h.stampFile a).clock = h.clock := by
  rw [stampFile]
  split <;> rfl

theorem stamped_stampFile (ho : h.Orderly) (hdir : dir.Proper) (hs : h.Shelf dir a) (key : String) :
    h.Stamped (h.stampFile (a ++ [key])) dir a key where
  grows := grows_stampFile ho hdir hs.tray key
  clock := clock_stampFile h _
  shelf := by
    refine ⟨(hs.tray.stampFile ho hdir key).there, fun {name n} hn => ?_⟩
    by_cases hname : name = key
    · obtain ⟨bytes, x, hmarker⟩ := node?_stampFile_of_shelf hs key
      rw [hname, hmarker] at hn
      cases hn
      rfl
    · rw [node?_stampFile_of_ne hname] at hn
      exact hs.files hn
  marker := node?_stampFile_of_shelf hs key
  others := node?_stampFile_of_ne

theorem run_touch_of_taken {p : Path} {n : Node} (hplace : h.placeOf .use p.text = .ok (.taken a n))
    (hn : h.disk.node? a = some n) : (touch p).run h = (.ok (), h.stampFile a) := by
  rw [touch, Action.run_bind_ok (Action.run_get h), stat_eq_ok_iff_placeOf.mpr hplace, stampFile,
    hn]
  rfl

theorem run_touch_of_vacant {p : Path} (hplace : h.placeOf .use p.text = .ok (.vacant a))
    (hmake : h.placeOf .create p.text = .ok (.vacant a)) (hn : h.disk.node? a = none) :
    (touch p).run h = (.ok (), h.stampFile a) := by
  rw [touch, Action.run_bind_ok (Action.run_get h), stat_of_vacant h hplace, stampFile, hn]
  simp only [hmake]
  rfl

theorem run_touch_of_error {p : Path} {e : Fault} (hplace : h.placeOf .use p.text = .error e)
    (hmake : h.placeOf .create p.text = .error e) : (touch p).run h = (.error e, h) := by
  rw [touch, Action.run_bind_ok (Action.run_get h), stat_of_error hplace]
  simp only [hmake]
  rfl

end Host

namespace ResultCache

variable {c : ResultCache} {p : Path} {h h' h'' : Host} {w : World} {a : Address} {e : Fault}
  {r : Except Fault Unit}

theorem run_touch_entry (ho : h.Orderly) (hdir : c.directory.Proper) (hp : p.Markable)
    (hs : h.Tray c.directory a) (hfits : c.Fits p) :
    (Host.touch (c.entry p)).run h = (.ok (), h.stampFile (a ++ [cacheKey p])) := by
  have huse := placeOf_entry .use ho hdir hp hs hfits
  have hmake := placeOf_entry .create ho hdir hp hs hfits
  rcases hn : h.disk.node? (a ++ [cacheKey p]) with _ | n
  · rw [hn] at huse hmake
    exact Host.run_touch_of_vacant huse hmake hn
  · rw [hn] at huse
    exact Host.run_touch_of_taken huse hn

theorem run_record_of_error
    (hmake : (Host.makeDirectories c.directory).run w.host = (.error e, h')) :
    (c.record p).run w = (.error e, { w with host := h' }) := by
  rw [record]
  exact Action.run_bind_error (by rw [World.onHost, Action.run_within, hmake])

theorem run_record_of_ok (hmake : (Host.makeDirectories c.directory).run w.host = (.ok (), h'))
    (htouch : (Host.touch (c.entry p)).run h' = (r, h'')) :
    ∃ w', (c.record p).run w = (r, w') ∧ w'.host = h'' := by
  have hmade : (World.onHost (Host.makeDirectories c.directory)).run w =
      (.ok (), { w with host := h' }) := by
    rw [World.onHost, Action.run_within, hmake]
  have htouched : (World.onHost (Host.touch (c.entry p))).run { w with host := h' } =
      (r, { w with host := h'' }) := by
    rw [World.onHost, Action.run_within, htouch]
  rw [record, Action.run_bind_ok hmade]
  rcases r with e | ⟨⟩
  · exact ⟨_, Action.run_bind_error htouched, rfl⟩
  · rw [Action.run_bind_ok htouched]
    exact ⟨_, rfl, rfl⟩

/-- On a shelf a success is recorded by stamping its marker. -/
theorem run_record_of_shelf (ho : w.host.Orderly) (hdir : c.directory.Proper) (hp : p.Markable)
    (hs : w.host.Shelf c.directory a) (hfits : c.Fits p) :
    ∃ w', (c.record p).run w = (.ok (), w') ∧
      w.host.Stamped w'.host c.directory a (cacheKey p) := by
  obtain ⟨w', hrun, hhost⟩ := run_record_of_ok
    (Host.makeDirectories_of_isDirectory ho hdir hs.isDirectory)
    (run_touch_entry ho hdir hp hs.tray hfits)
  exact ⟨w', hrun, hhost ▸ Host.stamped_stampFile ho hdir hs (cacheKey p)⟩

/-- A success whose marker would have too long a name cannot be recorded. -/
theorem run_record_of_misfit (ho : w.host.Orderly) (hdir : c.directory.Proper) (hp : p.Markable)
    (hs : w.host.Tray c.directory a) (hmisfit : ¬c.Fits p) :
    ∃ w', (c.record p).run w = (.error (.system .nameTooLong (c.entry p).text), w') ∧
      w'.host = w.host :=
  run_record_of_ok (Host.makeDirectories_of_isDirectory ho hdir hs.isDirectory)
    (Host.run_touch_of_error (placeOf_entry_of_misfit .use ho hdir hp hs hmisfit)
      (placeOf_entry_of_misfit .create ho hdir hp hs hmisfit))

end ResultCache

end OptIn
