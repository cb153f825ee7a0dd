import OptIn.Proofs.Cache.Usable
import OptIn.Proofs.Host.Checked

/-!
# Cabinets

Several caches can stand side by side in one directory, each in a directory of its own: a cabinet
with drawers. The cabinet is there, or it is made together with the first drawer that is used; if
that is impossible it stays so, and nothing is left half made, as long as all names are short
(`barred_or_creatable`). Filing a success in a drawer leaves the other drawers alone (`Host.Filed`,
`ResultCache.filed_of_record`).
-/

namespace OptIn

namespace Host

variable {h h' h₁ : Host} {p q root : Path} {a b c : Address} {name key : String} {t : Int}
  {e : Fault}

/-! ### Directories that can be made, and directories that cannot -/

/-- A directory is **barred** when any request for it is refused with the same fault, at whatever
time, and nothing is made. -/
def Barred (h : Host) (p : Path) (e : Fault) : Prop :=
  ∀ t, (makeDirectories p).run { h with clock := t } = (.error e, { h with clock := t })

theorem Barred.later (hb : h.Barred p e) (hl : h.Later h') : h'.Barred p e := by
  obtain ⟨t, -, rfl⟩ := hl
  exact hb

theorem Barred.run (hb : h.Barred p e) : (makeDirectories p).run h = (.error e, h) := hb h.clock

theorem placeOf_at_clock (h : Host) (t : Int) (purpose : Disk.Purpose) (s : String) :
    placeOf { h with clock := t } purpose s = h.placeOf purpose s := rfl

theorem isDirectory_at_clock (h : Host) (t : Int) (p : Path) :
    isDirectory { h with clock := t } p = h.isDirectory p := rfl

/-- The fault with which a directory is refused that can neither be made nor is there. -/
def refusal (h : Host) (p : Path) (e : Fault) : Fault :=
  match h.isDirectory p with
  | .error e' => if e.isSystem then e' else e
  | .ok _ => e

/-- What is refused for another reason than that something above is missing is barred. -/
theorem barred_of_makeDirectory (hparts : p.parts ≠ []) (hno : h.isDirectory p ≠ .ok true)
    (hmake : ∀ t, (makeDirectory p).run { h with clock := t } = (.error e, { h with clock := t }))
    (he : ¬e.isNotFound = true) : h.Barred p (h.refusal p e) := by
  obtain ⟨q, name, rfl⟩ := Path.exists_eq_down hparts
  intro t
  rw [run_makeDirectories_down, hmake]
  simp only [he, Bool.false_eq_true, if_false, run_unlessThere, isDirectory_at_clock, refusal]
  rcases hd : h.isDirectory (q.down name) with e' | _ | _
  · split <;> rfl
  · split <;> rfl
  · exact absurd hd hno

/-- Where something else stands, no directory can be made. -/
theorem barred_of_taken {n : Node} (hparts : p.parts ≠ []) (hno : h.isDirectory p ≠ .ok true)
    (hv : h.placeOf .examine p.text = .ok (.taken a n)) :
    h.Barred p (h.refusal p (.system .alreadyExists p.text)) := by
  refine barred_of_makeDirectory hparts hno (fun t => ?_) (by simp [Fault.isNotFound])
  rw [run_makeDirectory, placeOf_at_clock, hv]

/-- Where looking is refused, unless because something is missing, no directory can be made. -/
theorem barred_of_error (hparts : p.parts ≠ []) (hno : h.isDirectory p ≠ .ok true)
    (hv : h.placeOf .examine p.text = .error e) (he : ¬e.isNotFound = true) :
    h.Barred p (h.refusal p e) := by
  refine barred_of_makeDirectory hparts hno (fun t => ?_) he
  rw [run_makeDirectory, placeOf_at_clock, hv]

/-- A path that cannot be asked for is not that of a directory, and none can be made there. -/
theorem barred_of_not_askable (hp : p.Proper) (hparts : p.parts ≠ []) (ha : ¬p.Askable) :
    h.Barred p (if holdsNull p.text then .embeddedNull else .system .nameTooLong p.text) := by
  have hplace : ∀ purpose, h.placeOf purpose p.text =
      .error (if holdsNull p.text then .embeddedNull else .system .nameTooLong p.text) :=
    fun _ => placeOf_of_not_askable hp ha
  rcases hnull : holdsNull p.text with _ | _
  · rw [hnull] at hplace
    have hd : h.isDirectory p = .error (.system .nameTooLong p.text) := by
      rw [isDirectory, holds, stat_of_error (hplace .use)]
      rfl
    have hbarred := barred_of_error hparts (by simp [hd]) (hplace .examine)
      (by simp [Fault.isNotFound])
    rwa [refusal, hd] at hbarred
  · rw [hnull] at hplace
    have hd : h.isDirectory p = .ok false := by
      rw [isDirectory, holds, stat_of_error (hplace .use)]
      rfl
    have hbarred := barred_of_error hparts (by simp [hd]) (hplace .examine)
      (by simp [Fault.isNotFound])
    rwa [refusal, hd] at hbarred

/-- A free name in a directory that is there. -/
theorem placeOf_down_of_free (purpose : Disk.Purpose) (ho : h.Orderly) (hq : q.Proper)
    (hn : Path.ProperName name) (hup : name ≠ "..") (ha : (q.down name).Askable)
    (hshort : name.utf8ByteSize ≤ Disk.nameLimit) (hs : h.stat q = .ok (c, .directory t))
    (hfree : h.disk.node? (c ++ [name]) = none) :
    h.placeOf purpose (q.down name).text = .ok (.vacant (c ++ [name])) := by
  rw [placeOf_down_of_stat ho hq hn hup ha hshort hs (.inr (by simp [hfree])), hfree]

/-- Below a directory that is missing, nothing is found. -/
theorem placeOf_down_of_missing (purpose : Disk.Purpose) (ho : h.Orderly) (hq : q.Proper)
    (hn : Path.ProperName name) (ha : (q.down name).Askable)
    (hmissing : h.stat q = .error (.system .notFound q.text)) :
    h.placeOf purpose (q.down name).text = .error (.system .notFound (q.down name).text) := by
  obtain ⟨left, hleft⟩ := placeOf_down purpose ho hq hn ha
  rw [hleft, hmissing]

/-- Making a directory in one that is there. -/
theorem run_makeDirectories_of_directory (ho : h.Orderly) (hq : q.Proper)
    (hn : Path.ProperName name) (hup : name ≠ "..") (ha : (q.down name).Askable)
    (hshort : name.utf8ByteSize ≤ Disk.nameLimit) (hs : h.stat q = .ok (c, .directory t))
    (hfree : h.disk.node? (c ++ [name]) = none) :
    (makeDirectories (q.down name)).run h = (.ok (), h.add (c ++ [name]) (.directory h.clock)) := by
  have hplace := placeOf_down_of_free .examine ho hq hn hup ha hshort hs hfree
  rw [run_makeDirectories_down, run_makeDirectory, hplace]

/-- Once the missing directory above has been made, this one is tried again. -/
theorem run_makeDirectories_of_above {s : String}
    (hplace : h.placeOf .examine (q.down name).text = .error (.system .notFound s))
    (hrun : (makeDirectories q).run h = (.ok (), h₁)) :
    (makeDirectories (q.down name)).run h = (ensureDirectory (q.down name)).run h₁ := by
  rw [run_makeDirectories_down, run_makeDirectory, hplace]
  simp only [Fault.isNotFound, if_true, hrun]

/-- Making a directory together with the one above it. -/
theorem run_makeDirectories_of_missing (ho : h.Orderly) (hq : q.Proper)
    (hn : Path.ProperName name) (hup : name ≠ "..") (ha : (q.down name).Askable)
    (hshort : name.utf8ByteSize ≤ Disk.nameLimit)
    (hmissing : h.stat q = .error (.system .notFound q.text))
    (hrun : (makeDirectories q).run h = (.ok (), h₁)) (hs : h₁.stat q = .ok (c, .directory t))
    (hfree : h₁.disk.node? (c ++ [name]) = none) :
    (makeDirectories (q.down name)).run h =
      (.ok (), h₁.add (c ++ [name]) (.directory h₁.clock)) := by
  have ho₁ := (grows_makeDirectories ho hq hrun).1.orderly ho
  have hplace := placeOf_down_of_missing .examine ho hq hn ha hmissing
  have hplace₁ := placeOf_down_of_free .examine ho₁ hq hn hup ha hshort hs hfree
  rw [run_makeDirectories_of_above hplace hrun, run_ensureDirectory, run_makeDirectory, hplace₁]

/-- In a directory that can be made, directories can be made. -/
theorem Creatable.down (hc : h.Creatable q c) (ho : h.Orderly) (hq : q.Proper)
    (hn : Path.ProperName name) (hup : name ≠ "..") (ha : (q.down name).Askable)
    (hshort : name.utf8ByteSize ≤ Disk.nameLimit) :
    h.Creatable (q.down name) (c ++ [name]) where
  missing := stat_of_error (placeOf_down_of_missing .use ho hq hn ha hc.missing)
  made t := by
    have ho' := ho.at_clock t
    obtain ⟨h₁, s, hrun, hs, hempty⟩ := hc.made t
    have ho₁ := (grows_makeDirectories ho' hq hrun).1.orderly ho'
    have hplace := placeOf_down_of_free .examine ho₁ hq hn hup ha hshort hs (hempty name)
    obtain ⟨-, hm⟩ := madeAt_add ho₁ (hq.down hn) (by simp) hplace
    exact ⟨_, _, run_makeDirectories_of_missing ho' hq hn hup ha hshort hc.missing hrun hs
      (hempty name), hm.stat, hm.empty⟩

/-- In a directory that is there, a directory can be made under any free name. -/
theorem creatable_of_free (ho : h.Orderly) (hq : q.Proper) (hn : Path.ProperName name)
    (hup : name ≠ "..") (ha : (q.down name).Askable)
    (hshort : name.utf8ByteSize ≤ Disk.nameLimit) (hs : h.stat q = .ok (c, .directory t))
    (hfree : h.disk.node? (c ++ [name]) = none) : h.Creatable (q.down name) (c ++ [name]) where
  missing := stat_of_vacant h (placeOf_down_of_free .use ho hq hn hup ha hshort hs hfree)
  made u := by
    have ho' := ho.at_clock u
    have hplace : placeOf { h with clock := u } .examine (q.down name).text =
      .ok (.vacant (c ++ [name])) := placeOf_down_of_free .examine ho' hq hn hup ha hshort hs hfree
    obtain ⟨-, hm⟩ := madeAt_add ho' (hq.down hn) (by simp) hplace
    exact ⟨_, _, run_makeDirectories_of_directory ho' hq hn hup ha hshort hs hfree, hm.stat,
      hm.empty⟩

/-- Directories can be made inside each other under a free name, as long as the system takes the
text of the path. -/
theorem creatable_replicate {s : String} {t : Int} (ho : h.Orderly) (hs : Path.ProperName s)
    (hup : s ≠ "..") (hnull : holdsNull s = false) (hshort : s.utf8ByteSize ≤ Disk.nameLimit)
    (hroot : h.stat (.absolute []) = .ok ([], .directory t)) (hfree : h.disk.node? [s] = none)
    (n : Nat) (hlong : (n + 1) * (s.utf8ByteSize + 1) ≤ Disk.textLimit) :
    h.Creatable (.absolute (List.replicate (n + 1) s)) (List.replicate (n + 1) s) := by
  have hdown : ∀ n, Path.absolute (List.replicate (n + 1) s) =
      (Path.absolute (List.replicate n s)).down s := fun n => by
    rw [List.replicate_succ']
    rfl
  have haskable : ∀ n, (n + 1) * (s.utf8ByteSize + 1) ≤ Disk.textLimit →
      (Path.absolute (List.replicate (n + 1) s)).Askable := fun n hlong =>
    ⟨Path.utf8ByteSize_text_replicate s n ▸ hlong, Path.holdsNull_text_absolute fun x hx =>
      List.eq_of_mem_replicate hx ▸ hnull⟩
  have hproper : ∀ n, (Path.absolute (List.replicate n s)).Proper := fun n x hx =>
    List.eq_of_mem_replicate hx ▸ hs
  induction n with
  | zero => exact creatable_of_free ho (hproper 0) hs hup (haskable 0 hlong) hshort hroot hfree
  | succ n ih =>
    have hlong' : (n + 1) * (s.utf8ByteSize + 1) ≤ Disk.textLimit := by grind
    have hmore := (ih hlong').down ho (hproper _) hs hup (hdown (n + 1) ▸ haskable _ hlong) hshort
    rw [← hdown, ← List.replicate_succ'] at hmore
    exact hmore

/-- A directory is barred where it is missing, and so is the one above it, if that is barred. -/
theorem barred_of_missing (hmissing : h.placeOf .examine (q.down name).text = .error e)
    (he : e.isNotFound = true) {e' : Fault}
    (habove : ∀ t,
      (makeDirectories q).run { h with clock := t } = (.error e', { h with clock := t }) ∨
      e' = e ∧ (makeDirectories q).run { h with clock := t } = (.ok (), { h with clock := t })) :
    h.Barred (q.down name) e' := by
  intro t
  have hmake : (makeDirectory (q.down name)).run { h with clock := t } =
      (.error e, { h with clock := t }) := by
    rw [run_makeDirectory, placeOf_at_clock, hmissing]
  rw [run_makeDirectories_down, hmake]
  simp only [he, if_true]
  rcases habove t with hrefused | ⟨rfl, hthere⟩
  · rw [hrefused]
  · -- nothing above is missing, so the second try is like the first
    rw [hthere]
    simp only [run_ensureDirectory, hmake, he, if_true]

/-- Where the directory above is barred, nothing can be made. -/
theorem Barred.down (hb : h.Barred q e) (ho : h.Orderly) (hq : (q.down name).Proper)
    (hno : h.isDirectory q ≠ .ok true) : ∃ e', h.Barred (q.down name) e' := by
  obtain ⟨hq', hn⟩ := Path.proper_down_iff.mp hq
  obtain ⟨e₀, he₀⟩ : ∃ e, h.placeOf .examine (q.down name).text = .error e :=
    placeOf_down_of_not_directory ho hq' hn
      fun b t hs => hno (isDirectory_eq_true_iff.mpr ⟨b, t, hs⟩)
  by_cases hfound : e₀.isNotFound = true
  · exact ⟨e, barred_of_missing he₀ hfound fun t => .inl (hb t)⟩
  · exact ⟨_, barred_of_error (by simp) (fun hd => hno (isDirectory_of_down ho hq hd)) he₀ hfound⟩

/-- With short names, and every `..` used in a directory that is there, a missing directory is
barred, or it can be made. -/
theorem barred_or_creatable (ho : h.Orderly) (hp : p.Proper) (hstraight : h.Straight p)
    (hshort : ∀ s ∈ p.parts, s.utf8ByteSize ≤ Disk.nameLimit)
    (hno : h.isDirectory p ≠ .ok true) : (∃ e, h.Barred p e) ∨ ∃ a, h.Creatable p a := by
  -- by induction on the parts: the directory above is there, or barred, or can be made
  induction hlen : p.parts.length generalizing p with
  | zero =>
    exact absurd (isDirectory_of_parts_eq_nil ho (List.eq_nil_of_length_eq_zero hlen)) hno
  | succ depth ih =>
    obtain ⟨q, name, rfl⟩ := Path.exists_eq_down (List.ne_nil_of_length_eq_add_one hlen)
    obtain ⟨hq, hn⟩ := Path.proper_down_iff.mp hp
    have hname : name.utf8ByteSize ≤ Disk.nameLimit := hshort name (by simp)
    by_cases hd : h.isDirectory q = .ok true
    · rcases hv : h.placeOf .examine (q.down name).text with e | (⟨x, n⟩ | x)
      · by_cases hfound : e.isNotFound = true
        · exact .inl ⟨e, barred_of_missing hv hfound fun t =>
            .inr ⟨rfl, makeDirectories_of_isDirectory (ho.at_clock t) hq hd⟩⟩
        · exact .inl ⟨_, barred_of_error (by simp) hno hv hfound⟩
      · exact .inl ⟨_, barred_of_taken (by simp) hno hv⟩
      · obtain ⟨b, s, hs, rfl, hup, -, ha, hfree⟩ := vacant_inv ho hq hn hv
        exact .inr ⟨_, creatable_of_free ho hq hn hup ha hname hs hfree⟩
    · rcases ih hq hstraight.of_down (fun s hs => hshort s (by simp [hs])) hd
        (by simpa using hlen) with ⟨e, hb⟩ | ⟨b, hc⟩
      · exact .inl (hb.down ho hp hd)
      · have hup : name ≠ ".." := by
          rintro rfl
          exact hd (hstraight q.parts List.prefix_rfl)
        by_cases ha : (q.down name).Askable
        · exact .inr ⟨_, hc.down ho hq hn hup ha hname⟩
        · exact .inl ⟨_, barred_of_not_askable hp (by simp) ha⟩

/-! ### Cabinets -/

/-- A directory **belongs** at an address: it stands there, or would stand there once it is made. -/
def BelongsAt (h : Host) (p : Path) (c : Address) : Prop :=
  (∃ t, h.stat p = .ok (c, .directory t)) ∨ h.Creatable p c

theorem BelongsAt.later (hb : h.BelongsAt p c) (hl : h.Later h') : h'.BelongsAt p c := by
  refine hb.imp (fun hs => ?_) (·.later hl)
  rw [hl.stat_eq]
  exact hs

/-- Below a directory that is still to be made, there is nothing. -/
theorem Creatable.below (hc : h.Creatable p c) (ho : h.Orderly) (hp : p.Proper) (name : String)
    (rest : List String) : h.disk.node? (c ++ name :: rest) = none := by
  have hfree := hc.free ho hp name
  rcases hn : h.disk.node? (c ++ name :: rest) with _ | n
  · rfl
  · rcases rest with _ | ⟨next, rest⟩
    · rw [hfree] at hn
      cases hn
    · rw [← List.singleton_append, ← List.append_assoc] at hn
      obtain ⟨t, ht⟩ := ho.tree.directory_of_append (List.cons_ne_nil next rest) hn
      rw [hfree] at ht
      cases ht

/-- A directory belongs at one address. -/
theorem BelongsAt.unique {d : Address} (hc : h.BelongsAt p c) (hd : h.BelongsAt p d) : c = d := by
  rcases hc with ⟨t, hs⟩ | hc
  · rcases hd with ⟨t', hs'⟩ | hd
    · rw [hs] at hs'
      cases hs'
      rfl
    · rw [hd.missing] at hs
      cases hs
  · rcases hd with ⟨t', hs'⟩ | hd
    · rw [hc.missing] at hs'
      cases hs'
    · obtain ⟨h₁, s, hrun, hs, -⟩ := hc.made h.clock
      obtain ⟨h₂, s', hrun', hs', -⟩ := hd.made h.clock
      cases hrun.symm.trans hrun'
      rw [hs] at hs'
      cases hs'
      rfl

/-- What a host is after a directory has been **laid** out at an address, and below it everything is
as before. -/
structure Laid (h h' : Host) (p : Path) (c : Address) : Prop where
  grows : h.Grows (fun _ => False) h'
  clock : h'.clock = h.clock
  there : ∃ t, h'.stat p = .ok (c, .directory t)
  below : ∀ name rest, h'.disk.node? (c ++ name :: rest) = h.disk.node? (c ++ name :: rest)

/-- A directory is made where it belongs. -/
theorem BelongsAt.exists_laid (hb : h.BelongsAt p c) (ho : h.Orderly) (hp : p.Proper) :
    ∃ h', (makeDirectories p).run h = (.ok (), h') ∧ h.Laid h' p c := by
  rcases hb with ⟨t, hs⟩ | hc
  · have hd := isDirectory_eq_true_iff.mpr ⟨c, t, hs⟩
    exact ⟨h, makeDirectories_of_isDirectory ho hp hd, .refl _ h, rfl, ⟨t, hs⟩, fun _ _ => rfl⟩
  · obtain ⟨h', hrun, hg, hclock, hshelf, hempty⟩ := hc.exists_run ho hp
    refine ⟨h', hrun, hg, hclock, hshelf.there, fun name rest => ?_⟩
    rw [hc.below ho hp]
    rcases hn : h'.disk.node? (c ++ name :: rest) with _ | n
    · rfl
    · rcases rest with _ | ⟨next, rest⟩
      · rw [hempty] at hn
        cases hn
      · rw [← List.singleton_append, ← List.append_assoc] at hn
        obtain ⟨t, ht⟩ := (hg.orderly ho).tree.directory_of_append (List.cons_ne_nil next rest) hn
        rw [hempty] at ht
        cases ht

/-- A name that can **label** a drawer of a cabinet. -/
structure Label (root : Path) (name : String) : Prop where
  above : root.Proper
  proper : Path.ProperName name
  notUp : name ≠ ".."
  short : name.utf8ByteSize ≤ Disk.nameLimit
  askable : (root.down name).Askable

/-- A **drawer** of a cabinet: a directory without links in it, or a free name. -/
structure Drawer (h : Host) (root : Path) (c : Address) (name : String) : Prop where
  cabinet : h.BelongsAt root c
  free : ∀ n, h.disk.node? (c ++ [name]) = some n → n.isDirectory = true
  plain : ∀ {key target}, h.disk.node? (c ++ [name] ++ [key]) ≠ some (.link target)

theorem Drawer.later (hd : h.Drawer root c name) (hl : h.Later h') : h'.Drawer root c name where
  cabinet := hd.cabinet.later hl
  free := by
    rw [hl.disk_eq]
    exact hd.free
  plain {key target} := by
    rw [hl.disk_eq]
    exact hd.plain

/-- A drawer is a tray in a cabinet, or it can be made. -/
theorem Drawer.cases (hd : h.Drawer root c name) (hl : Label root name) (ho : h.Orderly) :
    (h.disk.node? (c ++ [name]) ≠ none ∧ (∃ t, h.stat root = .ok (c, .directory t)) ∧
        h.Tray (root.down name) (c ++ [name])) ∨
      h.disk.node? (c ++ [name]) = none ∧ h.Creatable (root.down name) (c ++ [name]) := by
  rcases hn : h.disk.node? (c ++ [name]) with _ | n
  · refine .inr ⟨rfl, ?_⟩
    rcases hd.cabinet with ⟨t, hs⟩ | hc
    · exact creatable_of_free ho hl.above hl.proper hl.notUp hl.askable hl.short hs hn
    · exact hc.down ho hl.above hl.proper hl.notUp hl.askable hl.short
  · rcases hd.cabinet with ⟨t, hs⟩ | hc
    · have hplace : h.placeOf .use (root.down name).text = _ :=
        placeOf_down_of_stat ho hl.above hl.proper hl.notUp hl.askable hl.short hs
          (.inr fun target hlink => ?_)
      · have hdir := hd.free n hn
        rw [hn] at hplace
        cases n with
        | directory s =>
          exact .inl ⟨fun h => (nomatch h), ⟨t, hs⟩, ⟨s, stat_eq_ok_iff_placeOf.mpr hplace⟩,
            hd.plain⟩
        | file | link => cases hdir
      · cases hd.free _ hlink
    · rw [hc.below ho hl.above] at hn
      cases hn

/-- What a host is after a drawer has been **opened**, which makes it if it is not there. -/
structure Opened (h h' : Host) (root : Path) (c : Address) (name : String) : Prop where
  grows : h.Grows (fun _ => False) h'
  clock : h'.clock = h.clock
  cabinet : ∃ t, h'.stat root = .ok (c, .directory t)
  tray : h'.Tray (root.down name) (c ++ [name])
  inside : ∀ key, h'.disk.node? (c ++ [name] ++ [key]) = h.disk.node? (c ++ [name] ++ [key])
  aside : ∀ {other rest}, other ≠ name →
    h'.disk.node? (c ++ other :: rest) = h.disk.node? (c ++ other :: rest)

/-- Laying out a cabinet and one drawer in it. -/
theorem BelongsAt.run_makeDirectories (hb : h.BelongsAt root c) (hl : Label root name)
    (ho : h.Orderly) (hrun : (makeDirectories root).run h = (.ok (), h₁))
    (hs : h₁.stat root = .ok (c, .directory t)) (hfree : h₁.disk.node? (c ++ [name]) = none) :
    (makeDirectories (root.down name)).run h =
      (.ok (), h₁.add (c ++ [name]) (.directory h₁.clock)) := by
  rcases hb with ⟨s, hs₀⟩ | hc
  · have hthere := isDirectory_eq_true_iff.mpr ⟨c, s, hs₀⟩
    cases hrun.symm.trans (makeDirectories_of_isDirectory ho hl.above hthere)
    exact run_makeDirectories_of_directory ho hl.above hl.proper hl.notUp hl.askable hl.short hs
      hfree
  · exact run_makeDirectories_of_missing ho hl.above hl.proper hl.notUp hl.askable hl.short
      hc.missing hrun hs hfree

/-- A drawer can be opened. -/
theorem Drawer.exists_opened (hd : h.Drawer root c name) (hl : Label root name) (ho : h.Orderly) :
    ∃ h', (makeDirectories (root.down name)).run h = (.ok (), h') ∧ h.Opened h' root c name := by
  rcases hd.cases hl ho with ⟨-, hcabinet, htray⟩ | ⟨hfree, -⟩
  · exact ⟨h, makeDirectories_of_isDirectory ho (hl.above.down hl.proper) htray.isDirectory,
      .refl _ h, rfl, hcabinet, htray, fun _ => rfl, fun _ => rfl⟩
  · -- the cabinet is laid out first, and the name of the drawer is still free in it
    obtain ⟨h₁, hrun, hlaid⟩ := hd.cabinet.exists_laid ho hl.above
    obtain ⟨t, hs⟩ := hlaid.there
    have ho₁ := hlaid.grows.orderly ho
    have hfree₁ : h₁.disk.node? (c ++ [name]) = none := (hlaid.below name []).trans hfree
    have hplace := placeOf_down_of_free .examine ho₁ hl.above hl.proper hl.notUp hl.askable hl.short
      hs hfree₁
    obtain ⟨hg, hm⟩ := madeAt_add ho₁ (hl.above.down hl.proper) (by simp) hplace
    have hnode : ∀ {b}, b ≠ c ++ [name] → b ≠ c →
        (h₁.add (c ++ [name]) (.directory h₁.clock)).disk.node? b = h₁.disk.node? b := by
      intro b hb hbc
      rw [node?_add, if_neg hb, List.dropLast_concat, if_neg hbc]
    refine ⟨_, hd.cabinet.run_makeDirectories hl ho hrun hs hfree₁, hlaid.grows.trans hg,
      hlaid.clock, hg.stat_directory ho₁ hl.above hs, ⟨⟨_, hm.stat⟩, ?_⟩, fun key => ?_,
      fun {other rest} hother => ?_⟩
    · intro key target
      rw [hm.empty]
      exact fun h => nomatch h
    · rw [hnode (by simp) (by simp), List.append_assoc]
      exact hlaid.below name [key]
    · rw [hnode (by simp [hother]) (by simp)]
      exact hlaid.below other rest

/-- What a host is after something has been **filed** in a drawer. -/
structure Filed (h h' : Host) (root : Path) (c : Address) (name key : String) : Prop where
  grows : h.Grows (InStore (c ++ [name])) h'
  clock : h'.clock = h.clock
  cabinet : ∃ t, h'.stat root = .ok (c, .directory t)
  tray : h'.Tray (root.down name) (c ++ [name])
  others : ∀ {k}, k ≠ key →
    h'.disk.node? (c ++ [name] ++ [k]) = h.disk.node? (c ++ [name] ++ [k])
  aside : ∀ {other rest}, other ≠ name →
    h'.disk.node? (c ++ other :: rest) = h.disk.node? (c ++ other :: rest)

/-- Opening a drawer files nothing. -/
theorem Opened.filed (ho : h.Opened h' root c name) (key : String) :
    h.Filed h' root c name key where
  grows := ho.grows.mono fun _ hw => hw.elim
  clock := ho.clock
  cabinet := ho.cabinet
  tray := ho.tray
  others _ := ho.inside _
  aside := ho.aside

/-- Stamping something in a drawer that has been opened. -/
theorem Opened.stampFile (hop : h.Opened h₁ root c name) (hl : Label root name) (ho : h.Orderly)
    (key : String) : h.Filed (h₁.stampFile (c ++ [name] ++ [key])) root c name key where
  grows := (hop.grows.mono fun _ hw => hw.elim).trans
    ((grows_stampFile (hop.grows.orderly ho) (hl.above.down hl.proper) hop.tray key).mono
      fun _ hb => ⟨key, hb⟩)
  clock := (clock_stampFile _ _).trans hop.clock
  cabinet := by
    have ho₁ := hop.grows.orderly ho
    obtain ⟨t, hs⟩ := hop.cabinet
    exact (grows_stampFile ho₁ (hl.above.down hl.proper) hop.tray key).stat_directory ho₁
      hl.above hs
  tray := hop.tray.stampFile (hop.grows.orderly ho) (hl.above.down hl.proper) key
  others hk := (node?_stampFile_of_ne hk).trans (hop.inside _)
  aside {other rest} hother := by
    rw [node?_stampFile_of_outside (by simp [hother]) (by simp [hother])]
    exact hop.aside hother

end Host

namespace ResultCache

open Host (Label)

variable {cache : ResultCache} {w w' : World} {p root : Path} {c : Address} {name : String}
  {r : Except Fault Unit}

/-- Recording a success files its marker in the drawer of the cache. A marker that does not fit is
refused, though the drawer is opened before. -/
theorem filed_of_record (hd : w.host.Drawer root c name) (hl : Label root name)
    (ho : w.host.Orderly) (hdir : cache.directory = root.down name) (hp : p.Markable)
    (hrun : (cache.record p).run w = (r, w')) :
    w.host.Filed w'.host root c name (cacheKey p) ∧
      (cache.Fits p ∧ r = .ok () ∧ (∃ n, w'.host.disk.node? (c ++ [name] ++ [cacheKey p]) = some n ∧
          n.changed = w.host.clock) ∨
        ¬cache.Fits p ∧ r = .error (.system .nameTooLong (cache.entry p).text) ∧
          w'.host.disk.node? (c ++ [name] ++ [cacheKey p]) =
            w.host.disk.node? (c ++ [name] ++ [cacheKey p])) := by
  obtain ⟨h₁, hmake, hop⟩ := hd.exists_opened hl ho
  have ho₁ := hop.grows.orderly ho
  have htray := hop.tray
  rw [← hdir] at hmake htray
  have hproper : cache.directory.Proper := hdir ▸ hl.above.down hl.proper
  by_cases hfits : cache.Fits p
  · obtain ⟨w₁, hrun', hhost⟩ :=
      run_record_of_ok hmake (run_touch_entry ho₁ hproper hp htray hfits)
    cases hrun.symm.trans hrun'
    rw [hhost]
    obtain ⟨n, hn, -, hchanged⟩ := Host.changed_stampFile htray (cacheKey p)
    exact ⟨hop.stampFile hl ho _, .inl ⟨hfits, rfl, n, hn, hchanged.trans hop.clock⟩⟩
  · obtain ⟨w₁, hrun', hhost⟩ := run_record_of_ok hmake
      (Host.run_touch_of_error (placeOf_entry_of_misfit .use ho₁ hproper hp htray hfits)
        (placeOf_entry_of_misfit .create ho₁ hproper hp htray hfits))
    cases hrun.symm.trans hrun'
    rw [hhost]
    exact ⟨hop.filed _, .inr ⟨hfits, rfl, hop.inside _⟩⟩

end ResultCache

end OptIn
