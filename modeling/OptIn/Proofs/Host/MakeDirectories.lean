import OptIn.Proofs.Host.Grows

/-!
# Making directories

What becomes of a request for a directory and those above it. A directory that is there is left as
it is (`makeDirectories_of_isDirectory`). One that is missing is made, in a place where nothing
was, or it goes on missing; nothing but directories comes on the way (`makeDirectories_of_missing`).
The only trouble is a `..` in the path: behind a directory that has just been made it may lead to
one that was there before. `Straight` excludes this.
-/

namespace OptIn.Host

variable {h h' h'' : Host} {p : Path} {a b : Address} {name : String} {n : Node} {t : Int}
  {r : Except Fault Unit}

theorem isDirectory_eq_true_iff :
    h.isDirectory p = .ok true ↔ ∃ a t, h.stat p = .ok (a, .directory t) := by
  rw [isDirectory, holds]
  constructor
  · intro hd
    rcases hs : h.stat p with e | ⟨a, _ | t | _⟩ <;> rw [hs] at hd
    · simp only at hd
      split at hd <;> cases hd
    · cases hd
    · exact ⟨a, t, rfl⟩
    · cases hd
  · rintro ⟨a, t, hs⟩
    rw [hs]
    rfl

theorem Alters.isDirectory {within : Address → Prop} (hg : h.Alters within h') (ho : h.Orderly)
    (hp : p.Proper) (hd : h.isDirectory p = .ok true) : h'.isDirectory p = .ok true := by
  obtain ⟨a, t, hs⟩ := isDirectory_eq_true_iff.mp hd
  obtain ⟨t', hs'⟩ := hg.stat_directory ho hp hs
  exact isDirectory_eq_true_iff.mpr ⟨a, t', hs'⟩

/-! ### The steps -/

theorem run_makeDirectory (h : Host) (p : Path) :
    (makeDirectory p).run h =
      match h.placeOf .examine p.text with
      | .ok (.taken _ _) => (.error (.system .alreadyExists p.text), h)
      | .ok (.vacant a) => (.ok (), h.add a (.directory h.clock))
      | .error e => (.error e, h) := by
  rw [makeDirectory, Action.run_bind_ok (Action.run_get h)]
  rcases h.placeOf .examine p.text with e | (⟨a, n⟩ | a) <;> rfl

theorem run_unlessThere (h : Host) (p : Path) (e : Fault) :
    (unlessThere p e).run h =
      if e.isSystem then
        match h.isDirectory p with
        | .ok true => (.ok (), h)
        | .ok false => (.error e, h)
        | .error e' => (.error e', h)
      else (.error e, h) := by
  unfold unlessThere
  cases e.isSystem with
  | false => rfl
  | true =>
    rw [if_pos rfl, if_pos rfl, Action.run_bind_ok (Action.run_get h)]
    rcases h.isDirectory p with e' | (_ | _) <;> rfl

theorem run_ensureDirectory (h : Host) (p : Path) :
    (ensureDirectory p).run h =
      match (makeDirectory p).run h with
      | (.ok _, h') => (.ok (), h')
      | (.error e, h') => if e.isNotFound then (.error e, h') else (unlessThere p e).run h' := by
  rw [ensureDirectory, Action.run_bind_ok (Action.run_attempt _ h)]
  rcases (makeDirectory p).run h with ⟨e | ⟨⟩, h'⟩
  · simp only
    split <;> rfl
  · rfl

theorem run_makeDirectoriesWithin_succ (depth : Nat) (h : Host) (p : Path) :
    (makeDirectoriesWithin (depth + 1) p).run h =
      match (makeDirectory p).run h with
      | (.ok _, h') => (.ok (), h')
      | (.error e, h') =>
        if e.isNotFound then
          match (makeDirectoriesWithin depth p.parent).run h' with
          | (.ok _, h'') => (ensureDirectory p).run h''
          | (.error e', h'') => (.error e', h'')
        else (unlessThere p e).run h' := by
  rw [makeDirectoriesWithin, Action.run_bind_ok (Action.run_attempt _ h)]
  rcases (makeDirectory p).run h with ⟨e | ⟨⟩, h'⟩
  · simp only
    split
    · rw [Action.run_bind]
      rcases (makeDirectoriesWithin depth p.parent).run h' with ⟨e' | ⟨⟩, h''⟩ <;> rfl
    · rfl
  · rfl

/-- Making a directory makes the one above it first if something above it is missing. -/
theorem run_makeDirectories_down (h : Host) (p : Path) (name : String) :
    (makeDirectories (p.down name)).run h =
      match (makeDirectory (p.down name)).run h with
      | (.ok _, h') => (.ok (), h')
      | (.error e, h') =>
        if e.isNotFound then
          match (makeDirectories p).run h' with
          | (.ok _, h'') => (ensureDirectory (p.down name)).run h''
          | (.error e', h'') => (.error e', h'')
        else (unlessThere (p.down name) e).run h' := by
  rw [makeDirectories, Path.parts_down, List.length_append, List.length_singleton,
    run_makeDirectoriesWithin_succ, Path.parent_down]
  rfl

/-! ### Directories that are there -/

/-- What can be used can be looked at. -/
theorem exists_taken_of_stat (ho : h.Orderly) (hp : p.Proper) (hs : h.stat p = .ok (a, n)) :
    ∃ b m, h.placeOf .examine p.text = .ok (.taken b m) := by
  obtain ⟨ha, hwalk⟩ := (stat_eq_ok_iff ho hp).mp hs
  obtain ⟨b, m, hwalk'⟩ := hwalk.exists_examine
  rw [placeOf_eq .examine ho hp ha, Disk.follow_of_walk hwalk']
  exact ⟨b, m, rfl⟩

theorem makeDirectory_of_isDirectory (ho : h.Orderly) (hp : p.Proper)
    (hd : h.isDirectory p = .ok true) :
    (makeDirectory p).run h = (.error (.system .alreadyExists p.text), h) := by
  obtain ⟨a, t, hs⟩ := isDirectory_eq_true_iff.mp hd
  obtain ⟨b, m, hplace⟩ := exists_taken_of_stat ho hp hs
  rw [run_makeDirectory, hplace]

/-- A directory that is there is left as it is. -/
theorem makeDirectories_of_isDirectory (ho : h.Orderly) (hp : p.Proper)
    (hd : h.isDirectory p = .ok true) : (makeDirectories p).run h = (.ok (), h) := by
  have hthere : (unlessThere p (.system .alreadyExists p.text)).run h = (.ok (), h) := by
    rw [run_unlessThere, hd]
    rfl
  have hmake := makeDirectory_of_isDirectory ho hp hd
  rw [makeDirectories]
  rcases p.parts.length with _ | depth
  · rw [makeDirectoriesWithin, run_ensureDirectory, hmake]
    exact hthere
  · rw [run_makeDirectoriesWithin_succ, hmake]
    exact hthere

/-! ### Directories that are missing -/

/-- Every `..` of the path is used in a directory that is there. -/
def Straight (h : Host) (p : Path) : Prop :=
  ∀ parts, parts ++ [".."] <+: p.parts → h.isDirectory ⟨p.anchor, parts⟩ = .ok true

theorem straight_of_not_mem (hup : ".." ∉ p.parts) : h.Straight p := fun parts hparts =>
  absurd (hparts.subset (List.mem_append_right parts (List.mem_singleton_self ".."))) hup

theorem Straight.of_down (hs : h.Straight (p.down name)) : h.Straight p :=
  fun parts hparts => hs parts (hparts.trans ⟨[name], rfl⟩)

theorem Straight.of_alters {within : Address → Prop} (hs : h.Straight p) (hg : h.Alters within h')
    (ho : h.Orderly) (hp : p.Proper) : h'.Straight p := by
  intro parts hparts
  have hproper : Path.Proper ⟨p.anchor, parts⟩ := fun s hs =>
    hp s (hparts.subset (List.mem_append_left _ hs))
  exact hg.isDirectory ho hproper (hs parts hparts)

/-- A directory that was **made** stands where nothing was, and holds nothing. -/
structure MadeAt (h h' : Host) (p : Path) (a : Address) : Prop where
  stat : h'.stat p = .ok (a, .directory h.clock)
  free : h.disk.node? a = none
  empty : ∀ name, h'.disk.node? (a ++ [name]) = none

/-- What a request for a missing directory comes to. -/
structure Requested (h h' : Host) (p : Path) (r : Except Fault Unit) : Prop where
  grows : h.Grows (fun _ => False) h'
  clock : h'.clock = h.clock
  missing : ∀ e, r = .error e → h'.isDirectory p ≠ .ok true
  made : r = .ok () → h'.isDirectory p = .ok true
  fresh : r = .ok () → h.Straight p → ∃ a, h.MadeAt h' p a

theorem askable_of_placeOf {purpose : Disk.Purpose} {x : Disk.Place} (hp : p.Proper)
    (hv : h.placeOf purpose p.text = .ok x) : p.Askable := by
  by_contra ha
  rw [placeOf_of_not_askable hp ha] at hv
  cases hv

/-- What is said to be missing has a path that the system takes. -/
theorem askable_of_isNotFound {purpose : Disk.Purpose} {e : Fault} (hp : p.Proper)
    (hv : h.placeOf purpose p.text = .error e) (he : e.isNotFound = true) : p.Askable := by
  by_contra ha
  rw [placeOf_of_not_askable hp ha] at hv
  cases hv
  revert he
  split <;> simp [Fault.isNotFound]

/-- What is above a directory is a directory. -/
theorem isDirectory_of_down (ho : h.Orderly) (hp : (p.down name).Proper)
    (hd : h.isDirectory (p.down name) = .ok true) : h.isDirectory p = .ok true := by
  obtain ⟨a, t, hs⟩ := isDirectory_eq_true_iff.mp hd
  obtain ⟨hp', hn⟩ := Path.proper_down_iff.mp hp
  rw [stat_eq_ok_iff_placeOf] at hs
  by_contra hno
  obtain ⟨e, he⟩ := placeOf_down_of_not_directory (h := h) ho hp' hn
    fun b s hb => hno (isDirectory_eq_true_iff.mpr ⟨b, s, hb⟩)
  rw [hs] at he
  cases he

/-- A last name that is free stands for itself in the directory before it. -/
theorem vacant_inv (ho : h.Orderly) (hp : p.Proper) (hn : Path.ProperName name)
    (hv : h.placeOf .examine (p.down name).text = .ok (.vacant a)) :
    ∃ b t, h.stat p = .ok (b, .directory t) ∧ a = b ++ [name] ∧ name ≠ ".." ∧
      name.utf8ByteSize ≤ Disk.nameLimit ∧ (p.down name).Askable ∧ h.disk.node? a = none := by
  have ha := askable_of_placeOf (hp.down hn) hv
  by_cases hdir : ∃ b t, h.stat p = .ok (b, .directory t)
  · obtain ⟨b, t, hs⟩ := hdir
    obtain ⟨left, hleft⟩ := placeOf_down .examine ho hp hn ha
    rw [hleft, hs] at hv
    simp only at hv
    rcases hf : h.disk.follow .examine left b [name] with e | x
    · rw [hf] at hv
      cases hv
    · rw [hf] at hv
      cases hv
      cases Disk.walk_of_follow hf with
      | stay _ hname => exact absurd hname (not_or.mpr ⟨hn.ne_empty, hn.ne_dot⟩)
      | up _ hwalk => cases hwalk
      | down _ _ _ _ _ _ _ _ hwalk => cases hwalk
      | jump _ _ _ _ _ hlast => simp at hlast
      | free _ _ _ hup hshort hfree => exact ⟨b, t, hs, rfl, hup, hshort, ha, hfree⟩
  · obtain ⟨e, he⟩ := placeOf_down_of_not_directory (h := h) ho hp hn
      fun b t hs => hdir ⟨b, t, hs⟩
    rw [hv] at he
    cases he

/-- A path without parts leads to a directory. -/
theorem isDirectory_of_parts_eq_nil (ho : h.Orderly) (hparts : p.parts = []) :
    h.isDirectory p = .ok true := by
  obtain ⟨anchor, parts⟩ := p
  obtain rfl : parts = [] := hparts
  have hp : Path.Proper ⟨anchor, []⟩ := fun s hs => nomatch hs
  have ha : Path.Askable ⟨anchor, []⟩ := by
    cases anchor <;> exact ⟨by decide, by decide⟩
  obtain ⟨t, ht⟩ := ho.start ⟨anchor, []⟩
  exact isDirectory_eq_true_iff.mpr ⟨_, t, (stat_eq_ok_iff ho hp).mpr ⟨ha, .stop ht⟩⟩

/-- Making one directory under a free name. -/
theorem madeAt_add (ho : h.Orderly) (hp : p.Proper) (hparts : p.parts ≠ [])
    (hv : h.placeOf .examine p.text = .ok (.vacant a)) :
    h.Grows (fun _ => False) (h.add a (.directory h.clock)) ∧
      h.MadeAt (h.add a (.directory h.clock)) p a := by
  obtain ⟨q, name, rfl⟩ := Path.exists_eq_down hparts
  obtain ⟨hq, hn⟩ := Path.proper_down_iff.mp hp
  obtain ⟨b, t, hs, rfl, hup, hshort, ha, hfree⟩ := vacant_inv ho hq hn hv
  have hg := grows_add_directory (t := h.clock) (fun _ => False) ⟨t, node?_of_stat ho hq hs⟩ hfree
  have hnode := node?_add h (b ++ [name])
  obtain ⟨t', hs'⟩ := hg.stat_directory ho hq hs
  refine ⟨hg, ?_, hfree, fun s => ?_⟩
  · rw [stat_eq_ok_iff_placeOf, placeOf_down_of_stat (hg.orderly ho) hq hn hup ha hshort hs'
      (.inr fun target => ?_), hnode, if_pos rfl]
    rw [hnode, if_pos rfl]
    simp
  · rw [hnode, if_neg (Disk.ne_append_singleton _ s).symm, List.dropLast_concat, if_neg ?_]
    · exact ho.tree.node?_append_eq_none hfree s
    · intro hb
      have hlen := congrArg List.length hb
      simp at hlen

theorem MadeAt.isDirectory (hm : h.MadeAt h' p a) : h'.isDirectory p = .ok true :=
  isDirectory_eq_true_iff.mpr ⟨a, _, hm.stat⟩

theorem MadeAt.requested (hm : h.MadeAt h' p a) (hg : h.Grows (fun _ => False) h')
    (hclock : h'.clock = h.clock) : h.Requested h' p (.ok ()) where
  grows := hg
  clock := hclock
  missing _ he := nomatch he
  made _ := hm.isDirectory
  fresh _ _ := ⟨a, hm⟩

theorem Requested.refuse {e : Fault} (hg : h.Grows (fun _ => False) h')
    (hclock : h'.clock = h.clock) (hno : h'.isDirectory p ≠ .ok true) :
    h.Requested h' p (.error e) where
  grows := hg
  clock := hclock
  missing _ _ := hno
  made hr := nomatch hr
  fresh hr := nomatch hr

theorem run_unlessThere_of_missing (hno : h.isDirectory p ≠ .ok true) (e : Fault) :
    ∃ e', (unlessThere p e).run h = (.error e', h) := by
  rw [run_unlessThere]
  split
  · rcases hd : h.isDirectory p with e' | _ | _
    · exact ⟨e', rfl⟩
    · exact ⟨e, rfl⟩
    · exact absurd hd hno
  · exact ⟨e, rfl⟩

/-- What is free stays free when only directories come elsewhere, or was free before. -/
theorem Grows.free (hg : h.Grows (fun _ => False) h') (hfree : h'.disk.node? a = none) :
    h.disk.node? a = none := by
  rcases hn : h.disk.node? a with _ | n
  · rfl
  · rcases hd : n.isDirectory with _ | _
    · rw [(hg.kept (fun hw => hw) hd).mpr hn] at hfree
      cases hfree
    · cases n with
      | directory t =>
        obtain ⟨t', ht'⟩ := hg.directory hn
        rw [ht'] at hfree
        cases hfree
      | file | link => simp [Node.isDirectory] at hd

/-- What has just been made has nothing in it that could be in the way. -/
theorem MadeAt.not_taken {q : Path} (ho : h'.Orderly) (hm : h.MadeAt h' q a)
    (hp : (q.down name).Proper) (hup : name ≠ "..") :
    h'.placeOf .examine (q.down name).text ≠ .ok (.taken b n) := by
  intro hv
  obtain ⟨hq, hn⟩ := Path.proper_down_iff.mp hp
  have ha := askable_of_placeOf hp hv
  by_cases hshort : name.utf8ByteSize ≤ Disk.nameLimit
  · rw [placeOf_down_of_stat ho hq hn hup ha hshort hm.stat (.inl rfl), hm.empty name] at hv
    cases hv
  · rw [placeOf_down_of_long ho hq hn hup ha (Nat.lt_of_not_le hshort) hm.stat] at hv
    cases hv

/-- The second try for a directory, when the one above it has just been made. -/
theorem requested_ensureDirectory {q : Path} (ho : h.Orderly) (hp : (q.down name).Proper)
    (hno : h.isDirectory q ≠ .ok true) (hq : h.Requested h' q (.ok ()))
    (hrun : (ensureDirectory (q.down name)).run h' = (r, h'')) :
    h.Requested h'' (q.down name) r := by
  have ho' := hq.grows.orderly ho
  rw [run_ensureDirectory, run_makeDirectory] at hrun
  rcases hv : h'.placeOf .examine (q.down name).text with e | (⟨b, m⟩ | a)
  · have hmissing : h'.isDirectory (q.down name) ≠ .ok true := by
      intro hd
      obtain ⟨a, t, hs⟩ := isDirectory_eq_true_iff.mp hd
      obtain ⟨b, m, hv'⟩ := exists_taken_of_stat ho' hp hs
      rw [hv] at hv'
      cases hv'
    rw [hv] at hrun
    simp only at hrun
    split at hrun
    · cases hrun
      exact .refuse hq.grows hq.clock hmissing
    · obtain ⟨e', he'⟩ := run_unlessThere_of_missing hmissing e
      cases he'.symm.trans hrun
      exact .refuse hq.grows hq.clock hmissing
  · rw [hv] at hrun
    by_cases hd : h'.isDirectory (q.down name) = .ok true
    · have hthere : (r, h'') = (.ok (), h') := by
        rw [← hrun]
        simp [Fault.isNotFound, run_unlessThere, hd, Fault.isSystem]
      cases hthere
      -- where every `..` is used in a directory that was there, this cannot be: the directory above
      -- has just been made, so it is empty
      refine ⟨hq.grows, hq.clock, fun e he => (by cases he), fun _ => hd, fun _ hstraight => ?_⟩
      obtain ⟨c, hm⟩ := hq.fresh rfl hstraight.of_down
      have hup : name ≠ ".." := by
        rintro rfl
        exact hno (hstraight q.parts (List.prefix_rfl))
      exact absurd hv (hm.not_taken ho' hp hup)
    · obtain ⟨e', he'⟩ := run_unlessThere_of_missing hd (.system .alreadyExists (q.down name).text)
      have hthere : (r, h'') = (.error e', h') := by
        rw [← hrun, ← he']
        rfl
      cases hthere
      exact .refuse hq.grows hq.clock hd
  · rw [hv] at hrun
    cases hrun
    obtain ⟨hg, hm⟩ := madeAt_add ho' hp (by simp) hv
    have hm' : h.MadeAt _ (q.down name) a :=
      ⟨hq.clock ▸ hm.stat, hq.grows.free hm.free, hm.empty⟩
    exact hm'.requested (hq.grows.trans hg) hq.clock

/-- What a request for a missing directory comes to. -/
theorem requested_within {depth : Nat} (hlen : p.parts.length = depth) (ho : h.Orderly)
    (hp : p.Proper) (hno : h.isDirectory p ≠ .ok true)
    (hrun : (makeDirectoriesWithin depth p).run h = (r, h')) : h.Requested h' p r := by
  induction depth generalizing p r h' with
  | zero => exact absurd (isDirectory_of_parts_eq_nil ho (List.eq_nil_of_length_eq_zero hlen)) hno
  | succ depth ih =>
    obtain ⟨q, name, rfl⟩ := Path.exists_eq_down (List.ne_nil_of_length_eq_add_one hlen)
    obtain ⟨hq, hn⟩ := Path.proper_down_iff.mp hp
    rw [run_makeDirectoriesWithin_succ, run_makeDirectory, Path.parent_down] at hrun
    rcases hv : h.placeOf .examine (q.down name).text with e | (⟨b, m⟩ | a)
    · rw [hv] at hrun
      simp only at hrun
      split at hrun
      · -- something above is missing
        have hqlen : q.parts.length = depth := by simpa using hlen
        by_cases hd : h.isDirectory q = .ok true
        · have habove := makeDirectories_of_isDirectory ho hq hd
          rw [makeDirectories, hqlen] at habove
          rw [habove] at hrun
          rename_i hnotFound
          -- the second try is like the first
          have hagain : (r, h') = (.error e, h) := by
            rw [← hrun]
            simp [run_ensureDirectory, run_makeDirectory, hv, hnotFound]
          cases hagain
          exact .refuse (.refl _ _) rfl hno
        · rcases habove : (makeDirectoriesWithin depth q).run h with ⟨e' | ⟨⟩, h₁⟩
          · rw [habove] at hrun
            cases hrun
            have hreq := ih hqlen hq hd habove
            have ho' := hreq.grows.orderly ho
            exact .refuse hreq.grows hreq.clock
              fun hdown => hreq.missing e' rfl (isDirectory_of_down ho' hp hdown)
          · rw [habove] at hrun
            exact requested_ensureDirectory ho hp hd (ih hqlen hq hd habove) hrun
      · obtain ⟨e', he'⟩ := run_unlessThere_of_missing hno e
        cases he'.symm.trans hrun
        exact .refuse (.refl _ _) rfl hno
    · rw [hv] at hrun
      obtain ⟨e', he'⟩ := run_unlessThere_of_missing hno (.system .alreadyExists (q.down name).text)
      have hthere : (r, h') = (.error e', h) := by
        rw [← hrun, ← he']
        rfl
      cases hthere
      exact .refuse (.refl _ _) rfl hno
    · rw [hv] at hrun
      cases hrun
      obtain ⟨hg, hm⟩ := madeAt_add ho hp (by simp) hv
      exact hm.requested hg rfl

/-- A missing directory is made, or goes on missing. -/
theorem makeDirectories_of_missing (ho : h.Orderly) (hp : p.Proper)
    (hno : h.isDirectory p ≠ .ok true) (hrun : (makeDirectories p).run h = (r, h')) :
    h.Requested h' p r :=
  requested_within rfl ho hp hno hrun

/-- Whatever becomes of a request for a directory, the host only grows by directories. -/
theorem grows_makeDirectories (ho : h.Orderly) (hp : p.Proper)
    (hrun : (makeDirectories p).run h = (r, h')) :
    h.Grows (fun _ => False) h' ∧ h'.clock = h.clock ∧
      (r = .ok () ↔ h'.isDirectory p = .ok true) := by
  by_cases hd : h.isDirectory p = .ok true
  · rw [makeDirectories_of_isDirectory ho hp hd] at hrun
    cases hrun
    exact ⟨.refl _ _, rfl, fun _ => hd, fun _ => rfl⟩
  · have hreq := makeDirectories_of_missing ho hp hd hrun
    refine ⟨hreq.grows, hreq.clock, hreq.made, fun hd' => ?_⟩
    rcases r with e | ⟨⟩
    · exact absurd hd' (hreq.missing e rfl)
    · rfl

end OptIn.Host
