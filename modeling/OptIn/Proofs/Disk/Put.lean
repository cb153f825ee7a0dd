import OptIn.Host.Change
import OptIn.Proofs.Disk.Walk

/-!
# Putting nodes on a disk, and taking them away

What `Disk.put`, `Disk.clear` and `Host.add` do to the nodes of a disk, to its being a tree, and to
the number of its links. A node that takes the place of one of its kind, or of nothing in a
directory, leaves a tree a tree (`IsTree.put`, `IsTree.put_new`), and so does taking away what is no
directory (`IsTree.clear`).
-/

namespace OptIn

@[simp] theorem Node.isDirectory_stamp (n : Node) (t : Int) :
    (n.stamp t).isDirectory = n.isDirectory := by
  cases n <;> rfl

theorem Node.isDirectory_of_isFile {n : Node} (hn : n.isFile = true) : n.isDirectory = false := by
  cases n with
  | file => rfl
  | directory | link => cases hn

namespace Disk

variable {d : Disk} {a b : Address} {m n : Node} {name : String}

theorem node?_put (d : Disk) (a b : Address) (n : Node) :
    (d.put a n).node? b = if b = a then some n else d.node? b := by
  split
  · rename_i h
    rw [h, node?_put_self]
  · rename_i h
    exact node?_put_of_ne h

theorem node?_clear (d : Disk) (a b : Address) :
    (d.clear a).node? b = if b = a then none else d.node? b := by
  split
  · rename_i h
    rw [h, node?_clear_self]
  · rename_i h
    exact node?_clear_of_ne h

theorem ne_append_singleton (a : Address) (name : String) : a ≠ a ++ [name] := by
  intro h
  have hlen := congrArg List.length h
  simp at hlen

/-! ### Trees -/

theorem nodup_put (d : Disk) (a : Address) (n : Node) (h : (d.entries.map (·.1)).Nodup) :
    ((d.put a n).entries.map (·.1)).Nodup := by
  have hsub : ((d.entries.filter fun e => e.1 ≠ a).map (·.1)).Sublist (d.entries.map (·.1)) :=
    (List.filter_sublist).map _
  rw [put, List.map_cons, List.nodup_cons]
  refine ⟨?_, hsub.nodup h⟩
  simp

/-- A node in the place of one of its kind leaves a tree a tree. -/
theorem IsTree.put (hd : d.IsTree) (hm : d.node? a = some m)
    (hkind : n.isDirectory = m.isDirectory) : (d.put a n).IsTree where
  once := nodup_put d a n hd.once
  root := by
    obtain ⟨t, ht⟩ := hd.root
    rw [node?_put]
    split
    · rename_i ha
      subst ha
      obtain rfl : m = .directory t := Option.some.inj (hm.symm.trans ht)
      cases n <;> simp_all [Node.isDirectory]
    · exact ⟨t, ht⟩
  parent := by
    intro b name k hk
    have hold : ∃ j, d.node? (b ++ [name]) = some j := by
      rw [node?_put] at hk
      split at hk
      · rename_i hb
        exact ⟨m, hb ▸ hm⟩
      · exact ⟨k, hk⟩
    obtain ⟨j, hj⟩ := hold
    obtain ⟨t, ht⟩ := hd.parent hj
    rw [node?_put]
    split
    · rename_i hb
      subst hb
      obtain rfl : m = .directory t := Option.some.inj (hm.symm.trans ht)
      cases n <;> simp_all [Node.isDirectory]
    · exact ⟨t, ht⟩

/-- A node under a free name in a directory leaves a tree a tree. -/
theorem IsTree.put_new (hd : d.IsTree) (hfree : d.node? (a ++ [name]) = none)
    (hdir : ∃ t, d.node? a = some (.directory t)) : (d.put (a ++ [name]) n).IsTree where
  once := nodup_put d _ n hd.once
  root := by
    obtain ⟨t, ht⟩ := hd.root
    exact ⟨t, by rw [node?_put_of_ne (by simp), ht]⟩
  parent := by
    intro b other k hk
    have hnew : ∀ t, d.node? b = some (.directory t) →
        (d.put (a ++ [name]) n).node? b = some (.directory t) := fun t ht => by
      rw [node?_put_of_ne (fun hb => by simp [hb, hfree] at ht), ht]
    rw [node?_put] at hk
    split at hk
    · rename_i hb
      obtain ⟨rfl, rfl⟩ : b = a ∧ other = name := by simpa using hb
      obtain ⟨t, ht⟩ := hdir
      exact ⟨t, hnew t ht⟩
    · obtain ⟨t, ht⟩ := hd.parent hk
      exact ⟨t, hnew t ht⟩

/-- Without something that is no directory, a tree is a tree. -/
theorem IsTree.clear (hd : d.IsTree) (hn : d.node? a = some n) (hkind : n.isDirectory = false) :
    (d.clear a).IsTree where
  once := ((List.filter_sublist).map _).nodup hd.once
  root := by
    obtain ⟨t, ht⟩ := hd.root
    refine ⟨t, ?_⟩
    rw [node?_clear_of_ne, ht]
    rintro rfl
    rw [ht] at hn
    cases hn
    cases hkind
  parent := by
    intro b name k hk
    rw [node?_clear] at hk
    split at hk
    · cases hk
    · obtain ⟨t, ht⟩ := hd.parent hk
      refine ⟨t, ?_⟩
      rw [node?_clear_of_ne, ht]
      rintro rfl
      rw [ht] at hn
      cases hn
      cases hkind

/-! ### The number of links -/

/-- What is listed on a disk whose addresses are listed once is what stands there. -/
theorem node?_of_mem (honce : (d.entries.map (·.1)).Nodup) (he : (a, n) ∈ d.entries) :
    d.node? a = some n := by
  obtain ⟨es, fs, hes⟩ := List.append_of_mem he
  rw [hes, List.map_append, List.nodup_append] at honce
  rw [node?, List.lookup_eq_some_iff]
  exact ⟨es, fs, hes, fun e hmem => by
    simpa using (honce.2.2 e.1 (List.mem_map_of_mem hmem) a (by simp)).symm⟩

/-- Putting something that is no link where no link is leaves the number of links. -/
theorem linkCount_put (hd : d.IsTree) (hold : ∀ target, d.node? a ≠ some (.link target))
    (hn : n.isLink = false) : (d.put a n).linkCount = d.linkCount := by
  have hnone : ∀ e ∈ d.entries, e.1 = a → e.2.isLink = false := by
    rintro ⟨b, k⟩ he rfl
    have hk := node?_of_mem hd.once he
    cases k with
    | link target => exact absurd hk (hold target)
    | file | directory => rfl
  rw [linkCount, put, List.countP_cons_of_neg (by simp [hn]), List.countP_filter, linkCount]
  refine List.countP_congr fun e he => ?_
  rw [Bool.and_eq_true, decide_eq_true_iff]
  refine and_iff_left_of_imp fun hlink ha => ?_
  rw [hnone e he ha] at hlink
  cases hlink

end Disk

/-! ### Stamps -/

namespace Host

variable {h : Host} {a b : Address} {n : Node}

theorem node?_stampAt (d : Disk) (a b : Address) (t : Int) :
    (stampAt d a t).node? b = if b = a then (d.node? b).map (Node.stamp t) else d.node? b := by
  by_cases hb : b = a
  · subst hb
    rw [if_pos rfl, stampAt]
    rcases hn : d.node? b with _ | n
    · exact hn
    · exact Disk.node?_put_self d b _
  · rw [if_neg hb, stampAt]
    rcases hn : d.node? a with _ | n
    · rfl
    · exact Disk.node?_put_of_ne hb

theorem node?_add (h : Host) (a b : Address) (n : Node) :
    (h.add a n).disk.node? b =
      if b = a then some n
      else if b = a.dropLast then (h.disk.node? b).map (Node.stamp h.clock)
      else h.disk.node? b := by
  rw [add, Disk.node?_put, node?_stampAt]

theorem node?_remove (h : Host) (a b : Address) :
    (h.remove a).disk.node? b =
      if b = a then none
      else if b = a.dropLast then (h.disk.node? b).map (Node.stamp h.clock)
      else h.disk.node? b := by
  rw [remove, Disk.node?_clear, node?_stampAt]

theorem isTree_stampAt {d : Disk} (hd : d.IsTree) (a : Address) (t : Int) :
    (stampAt d a t).IsTree := by
  rw [stampAt]
  split
  · rename_i n hn
    exact hd.put hn (Node.isDirectory_stamp n t)
  · exact hd

theorem linkCount_stampAt {d : Disk} (hd : d.IsTree) {a : Address} (t : Int)
    (h : ∀ target, d.node? a ≠ some (.link target)) : (stampAt d a t).linkCount = d.linkCount := by
  rw [stampAt]
  split
  · rename_i n hn
    refine Disk.linkCount_put hd h ?_
    cases n with
    | link target => exact absurd hn (h target)
    | file | directory => rfl
  · rfl

end Host

end OptIn
