import OptIn.Proofs.Disk.Put
import OptIn.Proofs.Host.Place

/-!
# Hosts that grow

`Host.Grows` says how little a run changes on a host: time may pass, directories may come, and
within given addresses files may come or be stamped; everything else stays as it is. Whoever edits
files alters a host a little more (`Host.Alters`). Both compose, and what a path leads to stays
there (`Grows.stat_file`, `Alters.stat_directory`).
-/

namespace OptIn.Host

/-- A host is **altered** within some addresses: time may pass, directories may be added, and within
these addresses files may come or be replaced. Everything else stays as it is. -/
structure Alters (within : Address → Prop) (h h' : Host) : Prop where
  same : h' = { h with disk := h'.disk, clock := h'.clock }
  clock : h.clock ≤ h'.clock
  kept : ∀ {a n}, ¬within a → n.isDirectory = false →
    (h'.disk.node? a = some n ↔ h.disk.node? a = some n)
  directory : ∀ {a t}, h.disk.node? a = some (.directory t) →
    ∃ t', h'.disk.node? a = some (.directory t')
  link : ∀ {a target}, h'.disk.node? a = some (.link target) ↔
    h.disk.node? a = some (.link target)
  tree : h.disk.IsTree → h'.disk.IsTree

/-- A host **grows** within some addresses when it is altered there and files keep their bytes. -/
structure Grows (within : Address → Prop) (h h' : Host) : Prop extends Alters within h h' where
  file : ∀ {a bytes x t}, h.disk.node? a = some (.file bytes x t) →
    ∃ t', h'.disk.node? a = some (.file bytes x t')
  linkCount : h.disk.IsTree → h'.disk.linkCount = h.disk.linkCount

variable {within within' : Address → Prop} {h h' h'' : Host} {p : Path} {a b : Address}
  {bytes : List UInt8} {x : Bool} {t : Int} {name : String}

namespace Alters

theorem refl (within : Address → Prop) (h : Host) : h.Alters within h where
  same := rfl
  clock := Int.le_refl _
  kept _ _ := Iff.rfl
  directory hd := ⟨_, hd⟩
  link := Iff.rfl
  tree hd := hd

theorem trans (hg : h.Alters within h') (hg' : h'.Alters within h'') : h.Alters within h'' where
  same := by
    rw [hg'.same, hg.same]
  clock := Int.le_trans hg.clock hg'.clock
  kept ha hn := (hg'.kept ha hn).trans (hg.kept ha hn)
  directory hd := by
    obtain ⟨t, ht⟩ := hg.directory hd
    exact hg'.directory ht
  link := hg'.link.trans hg.link
  tree hd := hg'.tree (hg.tree hd)

theorem mono (hg : h.Alters within h') (hsub : ∀ a, within a → within' a) :
    h.Alters within' h' where
  same := hg.same
  clock := hg.clock
  kept ha hn := hg.kept (fun hw => ha (hsub _ hw)) hn
  directory hd := hg.directory hd
  link := hg.link
  tree hd := hg.tree hd

theorem cwd (hg : h.Alters within h') : h'.cwd = h.cwd := by
  rw [hg.same]

theorem orderly (hg : h.Alters within h') (ho : h.Orderly) : h'.Orderly where
  tree := hg.tree ho.tree
  here := by
    obtain ⟨t, ht⟩ := ho.here
    rw [hg.cwd]
    exact hg.directory ht

theorem keeps (hg : h.Alters within h') : h.disk.Keeps h'.disk :=
  ⟨hg.directory, hg.link.mpr⟩

/-- A path that leads to a directory goes on leading there. -/
theorem stat_directory (hg : h.Alters within h') (ho : h.Orderly) (hp : p.Proper)
    (hs : h.stat p = .ok (a, .directory t)) : ∃ t', h'.stat p = .ok (a, .directory t') := by
  obtain ⟨t', ht'⟩ := hg.directory (node?_of_stat ho hp hs)
  exact ⟨t', stat_keeps ho (hg.orderly ho) hp hg.keeps hg.cwd hs ht' rfl⟩

/-- A resolved path stays resolved. -/
theorem resolved (hg : h.Alters within h') (hr : h.Resolved p) : h'.Resolved p where
  anchor := hr.anchor
  proper := hr.proper
  noUp := hr.noUp
  noNull := hr.noNull
  plain hb hl := hr.plain hb (hg.link.mp hl)

end Alters

namespace Grows

theorem refl (within : Address → Prop) (h : Host) : h.Grows within h where
  toAlters := .refl within h
  file hf := ⟨_, hf⟩
  linkCount _ := rfl

theorem trans (hg : h.Grows within h') (hg' : h'.Grows within h'') : h.Grows within h'' where
  toAlters := hg.toAlters.trans hg'.toAlters
  file hf := by
    obtain ⟨t, ht⟩ := hg.file hf
    exact hg'.file ht
  linkCount hd := (hg'.linkCount (hg.tree hd)).trans (hg.linkCount hd)

theorem mono (hg : h.Grows within h') (hsub : ∀ a, within a → within' a) :
    h.Grows within' h' where
  toAlters := hg.toAlters.mono hsub
  file hf := hg.file hf
  linkCount hd := hg.linkCount hd

/-- A path that leads to a file goes on leading there. -/
theorem stat_file (hg : h.Grows within h') (ho : h.Orderly) (hp : p.Proper)
    (hs : h.stat p = .ok (a, .file bytes x t)) :
    ∃ t', h'.stat p = .ok (a, .file bytes x t') ∧ (¬within a → t' = t) := by
  have hn := node?_of_stat ho hp hs
  obtain ⟨t', ht'⟩ := hg.file hn
  refine ⟨t', stat_keeps ho (hg.orderly ho) hp hg.keeps hg.cwd hs ht' rfl, fun ha => ?_⟩
  have hsame := (hg.kept ha rfl).mpr hn
  rw [ht'] at hsame
  cases hsame
  rfl

/-- What a path leads to does not go away. -/
theorem exists_stat (hg : h.Grows within h') (ho : h.Orderly) (hp : p.Proper) {n : Node}
    (hs : h.stat p = .ok (a, n)) : ∃ y, h'.stat p = .ok y := by
  rcases n with ⟨bytes, x, t⟩ | t | target
  · obtain ⟨t', ht', -⟩ := hg.stat_file ho hp hs
    exact ⟨_, ht'⟩
  · obtain ⟨t', ht'⟩ := hg.stat_directory ho hp hs
    exact ⟨_, ht'⟩
  · have hlink := isLink_eq_false_of_stat ho hp hs
    cases hlink

end Grows

/-! ### What makes a host grow -/

theorem grows_of_clock (within : Address → Prop) (ht : h.clock ≤ t) :
    h.Grows within { h with clock := t } :=
  { Grows.refl within h with clock := ht, same := rfl }

/-- What stands where after a node has been added under a name in a directory. -/
theorem node?_add_name (hdir : ∃ t, h.disk.node? a = some (.directory t)) (name : String)
    (n : Node) (b : Address) : (h.add (a ++ [name]) n).disk.node? b =
      if b = a ++ [name] then some n
      else if b = a then some (.directory h.clock) else h.disk.node? b := by
  obtain ⟨s, hs⟩ := hdir
  rw [node?_add, List.dropLast_concat]
  by_cases hb : b = a
  · rw [hb, hs]
    rfl
  · rw [if_neg hb, if_neg hb]

/-- Under a free name nothing but the time of its directory changes. -/
theorem node?_add_name_iff {m n : Node} (hdir : ∃ t, h.disk.node? a = some (.directory t))
    (hfree : h.disk.node? (a ++ [name]) = none) (hm : m.isDirectory = false)
    (hb : b = a ++ [name] → m ≠ n) :
    (h.add (a ++ [name]) n).disk.node? b = some m ↔ h.disk.node? b = some m := by
  rw [node?_add_name hdir]
  split
  · rename_i hba
    rw [hba, hfree]
    simpa [eq_comm] using hb hba
  · split
    · rename_i hba
      obtain ⟨s, hs⟩ := hdir
      rw [hba, hs]
      constructor <;>
      · intro h
        cases h
        cases hm
    · rfl

/-- A node other than a link under a free name, with its directory stamped. -/
private theorem grows_add {n : Node} (hdir : ∃ t, h.disk.node? a = some (.directory t))
    (hfree : h.disk.node? (a ++ [name]) = none) (hlink : n.isLink = false)
    (hn : n.isDirectory = true ∨ within (a ++ [name])) :
    h.Grows within (h.add (a ++ [name]) n) := by
  have hne : ∀ {b m}, h.disk.node? b = some m → b ≠ a ++ [name] := by
    rintro b m hb rfl
    rw [hfree] at hb
    cases hb
  refine ⟨⟨rfl, Int.le_refl _, fun {b m} hb hm => ?_, fun {b t} hd => ?_, fun {b target} => ?_,
    fun htree => ?_⟩, fun {b bytes x t} hf => ?_, fun htree => ?_⟩
  · refine node?_add_name_iff hdir hfree hm fun hba hmn => ?_
    rcases hn with hn | hn
    · rw [← hmn, hm] at hn
      cases hn
    · exact hb (hba ▸ hn)
  · rw [node?_add_name hdir, if_neg (hne hd)]
    split
    · exact ⟨_, rfl⟩
    · exact ⟨t, hd⟩
  · refine node?_add_name_iff hdir hfree rfl fun _ hmn => ?_
    rw [← hmn] at hlink
    cases hlink
  · refine (isTree_stampAt htree _ _).put_new ?_ ?_
    · rw [node?_stampAt, List.dropLast_concat, if_neg (Disk.ne_append_singleton a name).symm, hfree]
    · obtain ⟨s, hs⟩ := hdir
      rw [node?_stampAt, List.dropLast_concat, if_pos rfl, hs]
      exact ⟨_, rfl⟩
  · exact ⟨t, (node?_add_name_iff hdir hfree rfl fun hba => absurd hba (hne hf)).mpr hf⟩
  · obtain ⟨s, hs⟩ := hdir
    rw [add, List.dropLast_concat, Disk.linkCount_put (isTree_stampAt htree _ _) ?_ hlink,
      linkCount_stampAt htree _ (by simp [hs])]
    intro target
    rw [node?_stampAt, if_neg (Disk.ne_append_singleton a name).symm, hfree]
    simp

theorem grows_add_directory (within : Address → Prop)
    (hdir : ∃ t, h.disk.node? a = some (.directory t))
    (hfree : h.disk.node? (a ++ [name]) = none) :
    h.Grows within (h.add (a ++ [name]) (.directory t)) :=
  grows_add hdir hfree rfl (.inl rfl)

theorem grows_add_file (within : Address → Prop)
    (hdir : ∃ t, h.disk.node? a = some (.directory t))
    (hfree : h.disk.node? (a ++ [name]) = none) (hw : within (a ++ [name])) :
    h.Grows within (h.add (a ++ [name]) (.file bytes x t)) :=
  grows_add hdir hfree rfl (.inr hw)

/-- A file in place of another one within the addresses. -/
theorem alters_replace (within : Address → Prop) (hn : h.disk.node? a = some (.file bytes x t))
    (hw : within a) {bytes' : List UInt8} {x' : Bool} {t' : Int} :
    h.Alters within (h.replace a (.file bytes' x' t')) := by
  have hnode : ∀ b, (h.replace a (.file bytes' x' t')).disk.node? b =
      if b = a then some (.file bytes' x' t') else h.disk.node? b := fun b => Disk.node?_put _ _ _ _
  refine ⟨rfl, Int.le_refl _, fun {b m} hb _ => ?_, fun {b s} hd => ?_, fun {b target} => ?_,
    fun htree => htree.put hn rfl⟩
  · rw [hnode, if_neg fun hba : b = a => hb (hba ▸ hw)]
  · rw [hnode, if_neg fun hba => by simp [hba, hn] at hd]
    exact ⟨s, hd⟩
  · rw [hnode]
    split
    · rename_i hba
      rw [hba, hn]
      simp
    · rfl

/-- What stands where after a name has been taken out of a directory. -/
theorem node?_remove_name (hdir : ∃ t, h.disk.node? a = some (.directory t)) (name : String)
    (b : Address) : (h.remove (a ++ [name])).disk.node? b =
      if b = a ++ [name] then none
      else if b = a then some (.directory h.clock) else h.disk.node? b := by
  obtain ⟨s, hs⟩ := hdir
  rw [node?_remove, List.dropLast_concat]
  by_cases hb : b = a
  · rw [hb, hs]
    rfl
  · rw [if_neg hb, if_neg hb]

/-- A file within the addresses taken away. -/
theorem alters_remove (within : Address → Prop)
    (hdir : ∃ t, h.disk.node? a = some (.directory t))
    (hn : h.disk.node? (a ++ [name]) = some (.file bytes x t)) (hw : within (a ++ [name])) :
    h.Alters within (h.remove (a ++ [name])) := by
  have hnode := node?_remove_name hdir name
  -- apart from the file, only the directory is touched, and that is restamped
  have hother : ∀ {b m}, b ≠ a ++ [name] → m.isDirectory = false →
      ((h.remove (a ++ [name])).disk.node? b = some m ↔ h.disk.node? b = some m) := by
    intro b m hb hm
    rw [hnode, if_neg hb]
    split
    · rename_i hba
      obtain ⟨s, hs⟩ := hdir
      rw [hba, hs]
      constructor <;>
      · intro h
        cases h
        cases hm
    · rfl
  refine ⟨rfl, Int.le_refl _, fun {b m} hb hm => hother (fun hba => hb (hba ▸ hw)) hm,
    fun {b s} hd => ?_, fun {b target} => ?_, fun htree => ?_⟩
  · rw [hnode, if_neg fun hba => by simp [hba, hn] at hd]
    split
    · exact ⟨_, rfl⟩
    · exact ⟨s, hd⟩
  · by_cases hba : b = a ++ [name]
    · rw [hnode, if_pos hba, hba, hn]
      simp
    · exact hother hba rfl
  · refine (isTree_stampAt htree _ _).clear (n := .file bytes x t) ?_ rfl
    rw [node?_stampAt, List.dropLast_concat, if_neg (Disk.ne_append_singleton a name).symm, hn]

/-- Stamping a file within the addresses. -/
theorem grows_replace (within : Address → Prop) (hn : h.disk.node? a = some (.file bytes x t))
    (hw : within a) {t' : Int} : h.Grows within (h.replace a (.file bytes x t')) where
  toAlters := alters_replace within hn hw
  file {b bs y s} hf := by
    have hnode : (h.replace a (.file bytes x t')).disk.node? b =
        if b = a then some (.file bytes x t') else h.disk.node? b := Disk.node?_put _ _ _ _
    rw [hnode]
    split
    · rename_i hba
      rw [hba, hn] at hf
      cases hf
      exact ⟨t', rfl⟩
    · exact ⟨s, hf⟩
  linkCount htree := Disk.linkCount_put htree (by simp [hn]) rfl

/-- Stamping a directory. -/
theorem grows_restamp (within : Address → Prop) (hn : h.disk.node? a = some (.directory t))
    {t' : Int} : h.Grows within (h.replace a (.directory t')) := by
  have hnode : ∀ b, (h.replace a (.directory t')).disk.node? b =
      if b = a then some (.directory t') else h.disk.node? b := fun b => Disk.node?_put _ _ _ _
  have hother : ∀ {b m}, m.isDirectory = false →
      ((h.replace a (.directory t')).disk.node? b = some m ↔ h.disk.node? b = some m) := by
    intro b m hm
    rw [hnode]
    split
    · rename_i hba
      rw [hba, hn]
      constructor <;>
      · intro h
        cases h
        cases hm
    · rfl
  refine ⟨⟨rfl, Int.le_refl _, fun _ hm => hother hm, fun {b s} hd => ?_, fun {b target} =>
    hother rfl, fun htree => htree.put hn rfl⟩, fun {b bytes x s} hf => ⟨s, (hother rfl).mpr hf⟩,
    fun htree => Disk.linkCount_put htree (by simp [hn]) rfl⟩
  rw [hnode]
  split
  · exact ⟨t', rfl⟩
  · exact ⟨s, hd⟩

end OptIn.Host
