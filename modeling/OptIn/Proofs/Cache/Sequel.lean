import OptIn.Proofs.Cache.Alike

/-!
# What becomes of a host while a cabinet is used

All that the drivers do to a host, as long as their runners are quiet, is to file successes in the
drawers of one cabinet. `Host.Sequel` says what a host can be then, compared with the host at the
beginning, and that some drawers have not been touched. An untouched drawer is as it was at the
beginning, and so is a cache that cannot be used (`Sequel.drawer`, `Sequel.drawer_or_shut`).
-/

namespace OptIn

namespace Host

variable {h₀ h h' : Host} {root p : Path} {a c : Address} {name key : String}
  {untouched : String → Prop}

/-- An address right in a drawer of the cabinet. -/
def Stored (h₀ : Host) (root : Path) (b : Address) : Prop :=
  ∃ c name, h₀.BelongsAt root c ∧ InStore (c ++ [name]) b

/-- A **sequel** of a host: successes have been filed in drawers of a cabinet, but not in those that
are untouched. Unless time is all that has passed, the cabinet is there. -/
structure Sequel (root : Path) (untouched : String → Prop) (h₀ h : Host) : Prop where
  grows : h₀.Grows (h₀.Stored root) h
  cabinet : h₀.Later h ∨ ∃ c t, h₀.BelongsAt root c ∧ h.stat root = .ok (c, .directory t)
  aside : ∀ {c}, h₀.BelongsAt root c → ∀ {name}, untouched name → ∀ rest,
    h.disk.node? (c ++ name :: rest) = h₀.disk.node? (c ++ name :: rest)

namespace Sequel

theorem refl (root : Path) (untouched : String → Prop) (h : Host) : Sequel root untouched h h where
  grows := .refl _ h
  cabinet := .inl (.refl h)
  aside _ _ _ _ := rfl

theorem mono {untouched' : String → Prop} (hs : Sequel root untouched h₀ h)
    (hsub : ∀ name, untouched' name → untouched name) : Sequel root untouched' h₀ h :=
  ⟨hs.grows, hs.cabinet, fun hc _ hname => hs.aside hc (hsub _ hname)⟩

theorem later (hs : Sequel root untouched h₀ h) (hl : h.Later h') :
    Sequel root untouched h₀ h' where
  grows := hs.grows.trans (hl.grows _)
  cabinet := by
    rw [hl.stat_eq]
    exact hs.cabinet.imp_left (·.trans hl)
  aside hc _ hname rest := by
    rw [hl.disk_eq]
    exact hs.aside hc hname rest

/-- Filing something in another drawer. -/
theorem filed (hs : Sequel root untouched h₀ h) (hc : h₀.BelongsAt root c)
    (hf : h.Filed h' root c name key) (hname : ¬untouched name) :
    Sequel root untouched h₀ h' where
  grows := hs.grows.trans (hf.grows.mono fun _ hb => ⟨c, name, hc, hb⟩)
  cabinet := by
    obtain ⟨t, ht⟩ := hf.cabinet
    exact .inr ⟨c, t, hc, ht⟩
  aside {d} hd other hother rest := by
    cases hc.unique hd
    rw [hf.aside fun h => hname (h ▸ hother)]
    exact hs.aside hd hother rest

/-- The cabinet belongs where it did. -/
theorem belongsAt (hs : Sequel root untouched h₀ h) (hc : h₀.BelongsAt root c) :
    h.BelongsAt root c := by
  rcases hs.cabinet with hl | ⟨d, t, hd, ht⟩
  · exact hc.later hl
  · exact .inl ⟨t, hc.unique hd ▸ ht⟩

/-- A drawer that is untouched is a drawer still. -/
theorem drawer (hs : Sequel root untouched h₀ h) (hd : h₀.Drawer root c name)
    (hname : untouched name) : h.Drawer root c name where
  cabinet := hs.belongsAt hd.cabinet
  free := by
    rw [hs.aside hd.cabinet hname []]
    exact hd.free
  plain {key target} := by
    have hsame := hs.aside hd.cabinet hname [key]
    rw [← List.singleton_append, ← List.append_assoc] at hsame
    rw [hsame]
    exact hd.plain

/-- What stands in a drawer that is untouched is what stood there. -/
theorem alike (hs : Sequel root untouched h₀ h) (hc : h₀.BelongsAt root c) (hname : untouched name)
    (start : Int) (known : String → Prop) : Alike start known (c ++ [name]) h₀ h where
  made := by rw [hs.aside hc hname []]
  markers key := by
    have hsame := hs.aside hc hname [key]
    rw [List.append_assoc]
    exact .inl (congrArg _ hsame)

end Sequel

/-! ### Caches that cannot be used -/

/-- What is below something that is no directory. -/
theorem stat_down_of_file {n : Node} (ho : h.Orderly) (hp : p.Proper) (hn : Path.ProperName name)
    (hnull : holdsNull (p.down name).text = false) (hs : h.stat p = .ok (a, n))
    (hfile : n.isDirectory = false) :
    h.stat (p.down name) = .error (.system
      (if (p.down name).text.utf8ByteSize ≤ Disk.textLimit then .notDirectory else .nameTooLong)
        (p.down name).text) := by
  refine stat_of_error ?_
  split
  · rename_i hshort
    obtain ⟨left, hleft⟩ := placeOf_down .use ho hp hn ⟨hshort, hnull⟩
    have hnode := node?_of_stat ho hp hs
    rw [hleft, hs]
    simp only
    rw [Disk.follow_cons_of_not_directory fun t ht => ?_, hnode]
    · rfl
    · rw [hnode] at ht
      cases ht
      cases hfile
  · rename_i hlong
    rw [placeOf_of_not_askable (hp.down hn) fun ha => hlong ha.short, hnull]
    rfl

/-- A cabinet is well **sited** when its names are short and each `..` in its path is used in a
directory that is there. -/
structure Sited (h : Host) (root : Path) : Prop where
  proper : root.Proper
  noNull : holdsNull root.text = false
  straight : h.Straight root
  short : ∀ s ∈ root.parts, s.utf8ByteSize ≤ Disk.nameLimit

/-- Neither what stands at an address nor anything right in it is a link. -/
def LinkFree (h : Host) (a : Address) : Prop :=
  (∀ target, h.disk.node? a ≠ some (.link target)) ∧
    ∀ key target, h.disk.node? (a ++ [key]) ≠ some (.link target)

/-- A name that is fit for a directory of a cache. -/
structure Fair (name : String) : Prop where
  proper : Path.ProperName name
  notUp : name ≠ ".."
  short : name.utf8ByteSize ≤ Disk.nameLimit
  noNull : holdsNull name = false

variable {cache : ResultCache}

/-- Where the path of a cache is too long for the system, the cache is shut on all hosts. -/
theorem shut_of_not_askable (hdir : cache.directory = root.down name) (hr : root.Proper)
    (hn : Path.ProperName name) (ha : ¬(root.down name).Askable) (h h' : Host) :
    cache.Shut h h' where
  barred := by
    rw [hdir]
    exact ⟨_, barred_of_not_askable (hr.down hn) (by simp) ha,
      barred_of_not_askable (hr.down hn) (by simp) ha⟩
  entries {p} hp := by
    have hkey := properName_cacheKey hp.proper hp.ne_nil
    have hentry : ¬((root.down name).down (cacheKey p)).Askable := fun h => ha (h.of_down hkey)
    have hproper : ((root.down name).down (cacheKey p)).Proper := (hr.down hn).down hkey
    rw [cache.entry_eq hp, hdir, stat_of_error (placeOf_of_not_askable hproper hentry),
      stat_of_error (placeOf_of_not_askable hproper hentry)]

/-- Where a file stands in the place of a cache, the cache is shut. -/
theorem shut_of_file {n n' : Node} (hdir : cache.directory = root.down name)
    (hl : Label root name) (ho : h.Orderly) (ho' : h'.Orderly)
    {t t' : Int} (hs : h.stat root = .ok (c, .directory t))
    (hs' : h'.stat root = .ok (c, .directory t')) (hn : h.disk.node? (c ++ [name]) = some n)
    (hn' : h'.disk.node? (c ++ [name]) = some n') (hfile : n.isFile = true)
    (hfile' : n'.isFile = true) : cache.Shut h h' := by
  -- what each of the two hosts says of the directory
  have hplace : ∀ {h : Host} {t n}, h.Orderly → h.stat root = .ok (c, .directory t) →
      h.disk.node? (c ++ [name]) = some n → n.isFile = true →
      (∀ purpose, h.placeOf purpose (root.down name).text = .ok (.taken (c ++ [name]) n)) ∧
        h.isDirectory (root.down name) = .ok false := by
    intro h t n ho hs hn hfile
    have hplace : ∀ purpose, h.placeOf purpose (root.down name).text =
        .ok (.taken (c ++ [name]) n) := by
      intro purpose
      rw [placeOf_down_of_stat ho hl.above hl.proper hl.notUp hl.askable hl.short hs
        (.inr fun target hlink => ?_), hn]
      rw [hn] at hlink
      cases hlink
      cases hfile
    refine ⟨hplace, ?_⟩
    rw [isDirectory, holds, stat_eq_ok_iff_placeOf.mpr (hplace .use)]
    exact congrArg _ (Node.isDirectory_of_isFile hfile)
  have hbarred : ∀ {h : Host} {n}, h.placeOf .examine (root.down name).text =
      .ok (.taken (c ++ [name]) n) → h.isDirectory (root.down name) = .ok false →
      h.Barred (root.down name) (.system .alreadyExists (root.down name).text) := by
    intro h n hplace hd
    have hb := barred_of_taken (by simp) (by simp [hd]) hplace
    rwa [refusal, hd] at hb
  obtain ⟨hp, hd⟩ := hplace ho hs hn hfile
  obtain ⟨hp', hd'⟩ := hplace ho' hs' hn' hfile'
  refine ⟨⟨_, hdir ▸ hbarred (hp .examine) hd, hdir ▸ hbarred (hp' .examine) hd'⟩,
    fun {p} hmark => ?_⟩
  have hproper := hl.above.down hl.proper
  have hkey := properName_cacheKey hmark.proper hmark.ne_nil
  have hnull : holdsNull ((root.down name).down (cacheKey p)).text = false := by
    rw [Path.holdsNull_text_down, hl.askable.noNull, holdsNull_cacheKey hmark.noNull]
    rfl
  rw [cache.entry_eq hmark, hdir,
    stat_down_of_file ho hproper hkey hnull (stat_eq_ok_iff_placeOf.mpr (hp .use))
      (Node.isDirectory_of_isFile hfile),
    stat_down_of_file ho' hproper hkey hnull (stat_eq_ok_iff_placeOf.mpr (hp' .use))
      (Node.isDirectory_of_isFile hfile')]

/-- A cache has a drawer, or it is shut and stays so as long as only others are used. -/
theorem Sequel.drawer_or_shut (hsited : h₀.Sited root) (ho : h₀.Orderly) (hfair : Fair name)
    (hlinks : ∀ c, h₀.BelongsAt root c → h₀.LinkFree (c ++ [name]))
    (hdir : cache.directory = root.down name) :
    (Label root name ∧ ∃ c, h₀.Drawer root c name) ∨
      ∀ h, Sequel root untouched h₀ h → untouched name → cache.Shut h₀ h := by
  have hnull : holdsNull (root.down name).text = false := by
    rw [Path.holdsNull_text_down, hsited.noNull, hfair.noNull]
    rfl
  by_cases ha : (root.down name).Askable
  · have hl : Label root name := ⟨hsited.proper, hfair.proper, hfair.notUp, hfair.short, ha⟩
    by_cases hd : h₀.isDirectory root = .ok true
    · obtain ⟨c, t, hs⟩ := isDirectory_eq_true_iff.mp hd
      have hc : h₀.BelongsAt root c := .inl ⟨t, hs⟩
      obtain ⟨hlink, hinside⟩ := hlinks c hc
      rcases hn : h₀.disk.node? (c ++ [name]) with _ | (⟨bytes, x, s⟩ | s | target)
      · exact .inl ⟨hl, c, hc, by simp [hn], fun {key target} => hinside key target⟩
      · -- a file has the name of the drawer, and goes on having it
        right
        intro h hseq hname
        obtain ⟨t', hs'⟩ := hseq.grows.stat_directory ho hsited.proper hs
        exact shut_of_file hdir hl ho (hseq.grows.orderly ho) hs hs' hn
          ((hseq.aside hc hname []).trans hn) rfl rfl
      · refine .inl ⟨hl, c, hc, fun n h => ?_, fun {key target} => hinside key target⟩
        rw [hn] at h
        cases h
        rfl
      · exact absurd hn (hlink target)
    · rcases barred_or_creatable ho hsited.proper hsited.straight hsited.short hd with
        ⟨e, hb⟩ | ⟨c, hc⟩
      · -- then nothing can ever be filed
        right
        intro h hseq _
        obtain ⟨e', hb'⟩ := hb.down ho (hsited.proper.down hfair.proper) hd
        rcases hseq.cabinet with hlater | ⟨c, t, hc, -⟩
        · exact ⟨⟨e', hdir ▸ hb', hdir ▸ hb'.later hlater⟩, fun _ => hlater.stat_eq _⟩
        · rcases hc with ⟨s, hs⟩ | hc
          · exact absurd (isDirectory_eq_true_iff.mpr ⟨c, s, hs⟩) hd
          · obtain ⟨h₁, s, hrun, -⟩ := hc.made h₀.clock
            cases hrun.symm.trans hb.run
      · left
        refine ⟨hl, c, .inr hc, ?_, ?_⟩
        · intro n hn
          rw [hc.below ho hsited.proper] at hn
          cases hn
        · intro key target
          rw [List.append_assoc, List.singleton_append, hc.below ho hsited.proper]
          exact fun h => nomatch h
  · exact .inr fun h _ _ => shut_of_not_askable hdir hsited.proper hfair.proper ha h₀ h

end Host

end OptIn
