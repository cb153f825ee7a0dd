import Mathlib.Data.List.Infix
import OptIn.Proofs.Cache.Marker
import OptIn.Proofs.Host.Files

/-!
# Rules that can be looked through

Whether a host is orderly, whether a path is resolved on it, and whether a directory is a shelf can
be decided by looking through the entries of its disk. The rules quantify over all addresses; the
entries are finitely many, and nothing stands at any other address. `Host.holding` makes small hosts
to look through.
-/

namespace OptIn

theorem Path.properName_iff {s : String} :
    Path.ProperName s ↔ s ≠ "" ∧ s ≠ "." ∧ '/' ∉ s.toList :=
  ⟨fun h => ⟨h.ne_empty, h.ne_dot, h.noSlash⟩, fun h => ⟨h.1, h.2.1, h.2.2⟩⟩

instance (s : String) : Decidable (Path.ProperName s) :=
  decidable_of_iff _ Path.properName_iff.symm

instance (p : Path) : Decidable p.Proper :=
  inferInstanceAs (Decidable (∀ s ∈ p.parts, Path.ProperName s))

/-- A name of one letter over and over. -/
theorem Path.named_replicate {c : Char} {n : Nat} (hslash : '/' ≠ c) (hnull : '\x00' ≠ c)
    (hn : 2 < n) :
    ProperName (String.ofList (List.replicate n c)) ∧
      String.ofList (List.replicate n c) ≠ ".." ∧
      holdsNull (String.ofList (List.replicate n c)) = false := by
  have hletter : ∀ {d : Char}, d ≠ c → d ∉ (String.ofList (List.replicate n c)).toList := by
    intro d hd hmem
    rw [String.toList_ofList] at hmem
    exact hd (List.eq_of_mem_replicate hmem)
  have hne : ∀ s : String, s.length ≤ 2 → String.ofList (List.replicate n c) ≠ s := by
    rintro s hs rfl
    rw [String.length_ofList, List.length_replicate] at hs
    omega
  rw [holdsNull, ← Bool.not_eq_true, List.contains_iff_mem]
  exact ⟨⟨hne _ (by decide), hne _ (by decide), hletter hslash⟩, hne _ (by decide),
    hletter hnull⟩

/-- How long such a name is. -/
theorem Path.utf8ByteSize_replicate (n : Nat) (c : Char) :
    (String.ofList (List.replicate n c)).utf8ByteSize = n * c.utf8Size := by
  induction n with
  | zero => rw [Nat.zero_mul]; rfl
  | succ n ih =>
    rw [List.replicate_succ, String.ofList_cons, String.utf8ByteSize_append,
      String.utf8ByteSize_singleton, ih, Nat.succ_mul, Nat.add_comm]

/-- The text of an absolute path holds a NUL only if one of its names does. -/
theorem Path.holdsNull_text_absolute {a : Address} (ha : ∀ s ∈ a, holdsNull s = false) :
    holdsNull (Path.absolute a).text = false := by
  induction a using List.reverseRecOn with
  | nil => decide
  | append_singleton a name ih =>
    have hdown : Path.absolute (a ++ [name]) = (Path.absolute a).down name := rfl
    rw [hdown, Path.holdsNull_text_down, Bool.or_eq_false_iff]
    exact ⟨ih fun s hs => ha s (List.mem_append_left _ hs), ha name (by simp)⟩

/-- How long the text is of an absolute path with the same name over and over. -/
theorem Path.utf8ByteSize_text_replicate (s : String) (n : Nat) :
    (Path.absolute (List.replicate (n + 1) s)).text.utf8ByteSize =
      (n + 1) * (s.utf8ByteSize + 1) := by
  have hslash : "/".utf8ByteSize = 1 := by decide
  induction n with
  | zero =>
    have hdown : Path.absolute (List.replicate 1 s) = (Path.absolute []).down s := rfl
    rw [hdown, Path.text_down_of_nil rfl, String.utf8ByteSize_append]
    change "/".utf8ByteSize + _ = _
    omega
  | succ n ih =>
    have hdown : Path.absolute (List.replicate (n + 2) s) =
        (Path.absolute (List.replicate (n + 1) s)).down s := by
      rw [List.replicate_succ']
      rfl
    rw [hdown, Path.text_down_of_ne_nil (by simp [Path.absolute]), String.utf8ByteSize_append,
      String.utf8ByteSize_append, ih, hslash]
    grind

namespace Disk

variable {d : Disk} {a : Address} {n : Node}

theorem mem_of_node? (h : d.node? a = some n) : (a, n) ∈ d.entries := by
  obtain ⟨front, back, hentries, -⟩ := List.lookup_eq_some_iff.mp h
  rw [hentries]
  exact List.mem_append_right _ List.mem_cons_self

theorem exists_directory_iff :
    (∃ t, d.node? a = some (.directory t)) ↔ (d.node? a).any Node.isDirectory = true := by
  rcases d.node? a with _ | _ | t | _ <;> simp [Node.isDirectory]

/-- A disk is a tree if its root and whatever holds one of its entries are directories. -/
theorem isTree_iff : d.IsTree ↔ (d.entries.map (·.1)).Nodup ∧
    (d.node? []).any Node.isDirectory = true ∧
    ∀ e ∈ d.entries, e.1 = [] ∨ (d.node? e.1.dropLast).any Node.isDirectory = true := by
  constructor
  · intro hd
    refine ⟨hd.once, exists_directory_iff.mp hd.root, fun e he => ?_⟩
    rcases List.eq_nil_or_concat e.1 with hnil | ⟨a, name, ha⟩
    · exact .inl hnil
    · rw [List.concat_eq_append] at ha
      obtain ⟨n, hn⟩ : ∃ n, d.node? e.1 = some n := by
        rcases hn : d.node? e.1 with _ | n
        · rw [node?, List.lookup_eq_none_iff] at hn
          simpa using hn e he
        · exact ⟨n, rfl⟩
      rw [ha] at hn ⊢
      rw [List.dropLast_concat]
      exact .inr (exists_directory_iff.mp (hd.parent hn))
  · rintro ⟨honce, hroot, hparent⟩
    refine ⟨honce, exists_directory_iff.mpr hroot, fun {a name n} hn => ?_⟩
    rcases hparent _ (mem_of_node? hn) with hnil | hdir
    · simp at hnil
    · rw [List.dropLast_concat] at hdir
      exact exists_directory_iff.mpr hdir

instance (d : Disk) : Decidable d.IsTree := decidable_of_iff _ isTree_iff.symm

end Disk

namespace Host

variable {h : Host} {p dir : Path} {a : Address}

theorem orderly_iff : h.Orderly ↔
    h.disk.IsTree ∧ (h.disk.node? h.cwd).any Node.isDirectory = true :=
  ⟨fun ho => ⟨ho.tree, Disk.exists_directory_iff.mp ho.here⟩,
    fun ho => ⟨ho.1, Disk.exists_directory_iff.mpr ho.2⟩⟩

instance (h : Host) : Decidable h.Orderly := decidable_of_iff _ orderly_iff.symm

theorem resolved_iff : h.Resolved p ↔ p.anchor = .root ∧ p.Proper ∧ ".." ∉ p.parts ∧
    holdsNull p.text = false ∧
    ∀ b ∈ p.parts.inits, (h.disk.node? b).all (fun n => !n.isLink) = true := by
  have hlink : ∀ b, (∀ target, h.disk.node? b ≠ some (.link target)) ↔
      (h.disk.node? b).all (fun n => !n.isLink) = true := by
    intro b
    rcases h.disk.node? b with _ | _ | _ | target <;> simp [Node.isLink]
  constructor
  · intro hr
    refine ⟨hr.anchor, hr.proper, hr.noUp, hr.noNull, fun b hb => ?_⟩
    exact (hlink b).mp fun target => hr.plain ((List.mem_inits _ _).mp hb)
  · rintro ⟨hanchor, hproper, hup, hnull, hplain⟩
    refine ⟨hanchor, hproper, hup, hnull, fun {b target} hb => ?_⟩
    exact (hlink b).mpr (hplain b ((List.mem_inits _ _).mpr hb)) target

instance (h : Host) (p : Path) : Decidable (h.Resolved p) := decidable_of_iff _ resolved_iff.symm

instance (h : Host) (p : Path) : Decidable (h.Delivered p) :=
  decidable_of_iff (h.Resolved p ∧ p.text.utf8ByteSize ≤ Disk.textLimit ∧
      ∀ s ∈ p.parts, s.utf8ByteSize ≤ Disk.nameLimit)
    ⟨fun h => ⟨h.1, h.2.1, h.2.2⟩, fun h => ⟨h.toResolved, h.short, h.shortNames⟩⟩

theorem isFile_of_shelf (hs : h.Shelf dir a) :
    ∀ e ∈ h.disk.entries, e.1 ≠ [] → e.1.dropLast = a →
      (h.disk.node? e.1).all Node.isFile = true := by
  intro e _ hne ha
  obtain ⟨b, name, hb⟩ := (List.eq_nil_or_concat e.1).resolve_left hne
  rw [List.concat_eq_append] at hb
  rw [hb, List.dropLast_concat] at ha
  subst ha
  rcases hn : h.disk.node? e.1 with _ | n
  · rfl
  · rw [hb] at hn
    exact hs.files hn

/-- A directory is a shelf if all entries that stand right in it are files. -/
theorem shelf_iff : h.Shelf dir a ↔
    (∃ x ∈ (h.stat dir).toOption, x.1 = a ∧ x.2.isDirectory = true) ∧
      ∀ e ∈ h.disk.entries, e.1 ≠ [] → e.1.dropLast = a →
        (h.disk.node? e.1).all Node.isFile = true := by
  constructor
  · intro hs
    refine ⟨?_, isFile_of_shelf hs⟩
    obtain ⟨t, ht⟩ := hs.there
    rw [ht]
    exact ⟨_, rfl, rfl, rfl⟩
  · rintro ⟨⟨⟨b, n⟩, hx, rfl, hdir⟩, hfiles⟩
    refine ⟨?_, fun {name n} hn => ?_⟩
    · rcases hs : h.stat dir with e | y
      · rw [hs] at hx
        cases hx
      · rw [hs] at hx
        cases hx
        rcases n with _ | t | _
        · simp [Node.isDirectory] at hdir
        · exact ⟨t, rfl⟩
        · simp [Node.isDirectory] at hdir
    · have hfile := hfiles _ (Disk.mem_of_node? hn) (by simp) List.dropLast_concat
      rw [hn] at hfile
      exact hfile

instance (h : Host) (dir : Path) (a : Address) : Decidable (h.Shelf dir a) :=
  decidable_of_iff _ shelf_iff.symm

/-- A host **holding** some directories and files. All are as old as the time 0, and now it is the
time 10. -/
def holding (directories : List Address) (files : List (Address × List UInt8)) : Host where
  disk := ⟨([], .directory 0) :: directories.map (·, .directory 0) ++
    files.map fun f => (f.1, .file f.2 false 0)⟩
  cwd := []
  environ := []
  homes := []
  clock := 10

example : (holding [["r"]] [(["r", "x"], [])]).Orderly := by decide

/-- What holds a file without a directory around it is not orderly. -/
example : ¬(holding [] [(["r", "x"], [])]).Orderly := by decide

end Host

end OptIn
