import OptIn.Proofs.Host.Grows
import OptIn.Shebang

/-!
# Files that stay

What a host says of a regular file is read off what stands there (`isFile_eq_true_iff`,
`read_of_stat`, `changed_of_stat`). It stays a file with the same bytes when the host grows
(`Grows.file_stays`). A delivered path that is no file stays so, too (`Grows.isFile_of_delivered`);
so the paths of a run mean the same while only its store of successes grows (`Listed.grows`).
-/

namespace OptIn

namespace Host

variable {h h' : Host} {p : Path} {a : Address} {bytes : List UInt8} {x : Bool} {t : Int}
  {n : Node} {within : Address → Prop}

theorem isFile_eq_true_iff :
    h.isFile p = .ok true ↔ ∃ a bytes x t, h.stat p = .ok (a, .file bytes x t) := by
  rw [isFile, holds]
  constructor
  · intro hf
    rcases hs : h.stat p with e | ⟨a, ⟨bytes, x, t⟩ | _ | _⟩ <;> rw [hs] at hf
    · simp only at hf
      split at hf <;> cases hf
    · exact ⟨a, bytes, x, t, rfl⟩
    · cases hf
    · cases hf
  · rintro ⟨a, bytes, x, t, hs⟩
    rw [hs]
    rfl

/-- A path whose text is too long for the system is refused on every host. -/
theorem isFile_of_not_askable (h : Host) (hp : p.Proper) (hnull : holdsNull p.text = false)
    (ha : ¬p.Askable) : h.isFile p = .error (.system .nameTooLong p.text) := by
  rw [isFile, holds, stat_of_error (placeOf_of_not_askable hp ha), hnull]
  rfl

theorem read_of_stat (hs : h.stat p = .ok (a, .file bytes x t)) : h.read p = .ok bytes := by
  rw [read, hs]
  rfl

theorem changed_of_stat (hs : h.stat p = .ok (a, n)) : h.changed p = .ok n.changed := by
  rw [changed, hs]
  rfl

/-- A file stays a file with the same bytes. -/
theorem Grows.file_stays (hg : h.Grows within h') (ho : h.Orderly) (hp : p.Proper)
    (hf : h.isFile p = .ok true) :
    h'.isFile p = .ok true ∧ h'.read p = h.read p := by
  obtain ⟨a, bytes, x, t, hs⟩ := isFile_eq_true_iff.mp hf
  obtain ⟨t', hs', -⟩ := hg.stat_file ho hp hs
  exact ⟨isFile_eq_true_iff.mpr ⟨a, bytes, x, t', hs'⟩, by rw [read_of_stat hs, read_of_stat hs']⟩

/-- A path as a source **delivers** it: resolved, with a text and names that are short enough. -/
structure Delivered (h : Host) (p : Path) : Prop extends Host.Resolved h p where
  short : p.text.utf8ByteSize ≤ Disk.textLimit
  shortNames : ∀ s ∈ p.parts, s.utf8ByteSize ≤ Disk.nameLimit

theorem Delivered.askable (hd : h.Delivered p) : p.Askable := ⟨hd.short, hd.noNull⟩

theorem Delivered.grows (hd : h.Delivered p) (hg : h.Grows within h') : h'.Delivered p :=
  ⟨hg.resolved hd.toResolved, hd.short, hd.shortNames⟩

theorem Delivered.isFile_eq (hd : h.Delivered p) (ho : h.Orderly) :
    h.isFile p = .ok ((h.disk.node? p.parts).any Node.isFile) :=
  hd.toResolved.isFile_eq ho hd.askable hd.shortNames

/-- A delivered path whose address is left alone is that of a file or not as before. -/
theorem Grows.isFile_of_delivered (hg : h.Grows within h') (ho : h.Orderly) (hd : h.Delivered p)
    (ha : ¬within p.parts) : h'.isFile p = h.isFile p := by
  rw [hd.isFile_eq ho, (hd.grows hg).isFile_eq (hg.orderly ho)]
  rcases hn : h.disk.node? p.parts with _ | n
  · rcases hn' : h'.disk.node? p.parts with _ | n'
    · rfl
    · rcases hdir : n'.isDirectory with _ | _
      · rw [(hg.kept ha hdir).mp hn'] at hn
        cases hn
      · cases n' with
        | directory => rfl
        | file | link => simp [Node.isDirectory] at hdir
  · rcases hdir : n.isDirectory with _ | _
    · rw [(hg.kept ha hdir).mpr hn]
    · cases n with
      | directory t =>
        obtain ⟨t', ht'⟩ := hg.directory hn
        rw [ht']
        rfl
      | file | link => simp [Node.isDirectory] at hdir

/-! ### Paths that mean the same all through a run -/

/-- An address right inside a directory. -/
def InStore (a b : Address) : Prop := ∃ name, b = a ++ [name]

/-- A path that means the same all through a run: that of a regular file, or a delivered path
outside the store. -/
structure Listed (h : Host) (a : Address) (p : Path) : Prop where
  proper : p.Proper
  known : h.isFile p = .ok true ∨ h.Delivered p ∧ ¬InStore a p.parts

theorem Delivered.listed (hd : h.Delivered p) (ha : ¬InStore a p.parts) : Listed h a p :=
  ⟨hd.proper, .inr ⟨hd, ha⟩⟩

theorem Listed.grows (hp : Listed h a p) (hg : h.Grows (InStore a) h') (ho : h.Orderly) :
    Listed h' a p ∧ h'.isFile p = h.isFile p ∧ (h.isFile p = .ok true → h'.read p = h.read p) := by
  rcases hp.known with hf | ⟨hd, ha⟩
  · obtain ⟨hf', hread⟩ := hg.file_stays ho hp.proper hf
    exact ⟨⟨hp.proper, .inl hf'⟩, hf'.trans hf.symm, fun _ => hread⟩
  · exact ⟨(hd.grows hg).listed ha, hg.isFile_of_delivered ho hd ha,
      fun hf => (hg.file_stays ho hp.proper hf).2⟩

theorem Listed.exists_isFile (hp : Listed h a p) (ho : h.Orderly) : ∃ b, h.isFile p = .ok b := by
  rcases hp.known with hf | ⟨hd, -⟩
  · exact ⟨true, hf⟩
  · exact ⟨_, hd.isFile_eq ho⟩

end Host

/-- The first line of a file decides its kind. -/
theorem shebangDetector_of_stat {h : Host} {p : Path} {a : Address} {bytes : List UInt8} {x : Bool}
    {t : Int} (hs : h.stat p = .ok (a, .file bytes x t)) :
    shebangDetector h p = .ok (kindOfBytes bytes) := by
  rw [shebangDetector, Host.read_of_stat hs]

end OptIn
