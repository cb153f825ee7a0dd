import OptIn.Proofs.Host.Physical

/-!
# Ladders

Directories of one name, one in another, may lie deeper than the system takes an absolute path.
Where each of them holds a link with a short name to the next one, paths of short names still lead
down. The system goes down such a ladder rung by rung (`Host.Ladder.follow_eq`), and so does
resolving, as long as the system takes the absolute paths of the rungs
(`Host.Ladder.resolveFrom_eq`). A link further down, whose own absolute path is too long, is one for
the system only (`Host.linkAt?_of_long`).
-/

namespace OptIn

/-- The length of the path to a name that stands below directories of one name. -/
theorem Path.utf8ByteSize_text_replicate_append (s t : String) (n : Nat) :
    (Path.absolute (List.replicate n s ++ [t])).text.utf8ByteSize =
      n * (s.utf8ByteSize + 1) + (t.utf8ByteSize + 1) := by
  have hslash : "/".utf8ByteSize = 1 := by decide
  have hdown : Path.absolute (List.replicate n s ++ [t]) =
      (Path.absolute (List.replicate n s)).down t := rfl
  rw [hdown]
  cases n with
  | zero =>
    rw [Path.text_down_of_nil rfl, String.utf8ByteSize_append]
    change "/".utf8ByteSize + _ = _
    omega
  | succ n =>
    rw [Path.text_down_of_ne_nil (List.cons_ne_nil _ _), String.utf8ByteSize_append,
      String.utf8ByteSize_append, Path.utf8ByteSize_text_replicate, hslash]
    omega

theorem slashPieces_name {name : String} (h : Path.ProperName name) :
    slashPieces name = [name] := by
  simpa using slashPieces_intercalate (List.cons_ne_nil name []) fun s hs =>
    List.mem_singleton.mp hs ▸ h.noSlash

theorem namesOf_name {name : String} (h : Path.ProperName name) :
    Disk.namesOf name = [name] := by
  have htext : (⟨.relative, [name]⟩ : Path).text = name := by
    rw [Path.text_of_ne_nil (List.cons_ne_nil _ _), String.intercalate_singleton]
    exact String.empty_append
  have hproper : (⟨.relative, [name]⟩ : Path).Proper := fun s hs => List.mem_singleton.mp hs ▸ h
  rw [← htext, Path.namesOf_text hproper (List.cons_ne_nil _ _), htext]

theorem head?_name {name : String} (h : Path.ProperName name) : name.toList.head? ≠ some '/' :=
  fun hslash => h.noSlash (List.mem_of_head? hslash)

namespace Host

/-- A **ladder** down from the root: directories of one name, one in another, and in each of them
but the last one a rung, which is a link to the next. -/
structure Ladder (h : Host) (rung name : String) (height : Nat) : Prop where
  spelled : Spelled [rung, name]
  directory : ∀ n ≤ height, ∃ t, h.disk.node? (List.replicate n name) = some (.directory t)
  link : ∀ n < height, h.disk.node? (List.replicate n name ++ [rung]) = some (.link name)

variable {h : Host} {rung name target : String} {height n links depth : Nat} {rest : List String}
  {a : Address}

/-! ### What resolving sees -/

theorem linkAt?_of_short (hup : ".." ∉ a)
    (hshort : (Path.absolute a).text.utf8ByteSize ≤ Disk.textLimit)
    (hlink : h.disk.node? a = some (.link target)) : h.linkAt? (trailTo a) = some target := by
  have htext : (trailTo a).text = (Path.absolute a).text := rfl
  rw [linkAt?, htext, if_neg (Nat.not_lt.mpr hshort), address_root a hup, hlink]

/-- Where the absolute path is too long there is no link, whatever the disk holds. -/
theorem linkAt?_of_long (h : Host)
    (hlong : Disk.textLimit < (Path.absolute a).text.utf8ByteSize) :
    h.linkAt? (trailTo a) = none := if_pos hlong

/-! ### Down the ladder -/

namespace Ladder

theorem rung_spelled (hl : h.Ladder rung name height) :
    Path.ProperName rung ∧ rung ≠ ".." ∧ holdsNull rung = false ∧
      rung.utf8ByteSize ≤ Disk.nameLimit :=
  hl.spelled rung List.mem_cons_self

theorem name_spelled (hl : h.Ladder rung name height) :
    Path.ProperName name ∧ name ≠ ".." ∧ holdsNull name = false ∧
      name.utf8ByteSize ≤ Disk.nameLimit :=
  hl.spelled name (List.mem_cons_of_mem _ List.mem_cons_self)

theorem notUp (hl : h.Ladder rung name height) (n : Nat) : ".." ∉ List.replicate n name :=
  fun hup => hl.name_spelled.2.1 (List.eq_of_mem_replicate hup).symm

theorem notUp_rung (hl : h.Ladder rung name height) (n : Nat) :
    ".." ∉ List.replicate n name ++ [rung] := by
  rw [List.mem_append, List.mem_singleton, not_or]
  exact ⟨hl.notUp n, hl.rung_spelled.2.1.symm⟩

/-- The system goes from a rung to the next directory. -/
theorem follow_rung (hl : h.Ladder rung name height) (hn : n < height) :
    h.disk.follow .use (links + 1) (List.replicate n name) (rung :: rest) =
      h.disk.follow .use links (List.replicate (n + 1) name) rest := by
  obtain ⟨hrung, hup, -, hshort⟩ := hl.rung_spelled
  obtain ⟨hname, hup', -, hshort'⟩ := hl.name_spelled
  obtain ⟨t, ht⟩ := hl.directory n (Nat.le_of_lt hn)
  obtain ⟨t', ht'⟩ := hl.directory (n + 1) hn
  have htarget : ¬name.isEmpty = true := by simpa [String.isEmpty_iff] using hname.ne_empty
  rw [Disk.follow_down ht hrung.ne_empty hrung.ne_dot hup (by simp),
    if_neg (Nat.not_lt.mpr hshort), hl.link n hn]
  simp only [reduceCtorEq, false_and, if_false]
  rw [if_neg htarget, Disk.jump, Disk.startOf, if_neg (head?_name hname), namesOf_name hname,
    List.singleton_append, Disk.follow_down ht hname.ne_empty hname.ne_dot hup' (by simp),
    if_neg (Nat.not_lt.mpr hshort'), ← List.replicate_succ', ht']

/-- **Going down a ladder**: each rung takes one of the links that the system follows. -/
theorem follow_eq (hl : h.Ladder rung name height) (hn : n ≤ height) :
    h.disk.follow .use (links + n) [] (List.replicate n rung ++ rest) =
      h.disk.follow .use links (List.replicate n name) rest := by
  induction n generalizing links rest with
  | zero => rfl
  | succ n ih =>
    have hlinks : links + (n + 1) = (links + 1) + n := by omega
    rw [List.replicate_succ', List.append_assoc, List.singleton_append, hlinks,
      ih (Nat.le_of_succ_le hn), hl.follow_rung hn]

/-- The rungs that resolving has entered and left on its way down, latest first. -/
def rungs (rung name : String) : Nat → SeenLinks
  | 0 => []
  | n + 1 =>
    let entered := trailTo (List.replicate n name ++ [rung])
    (entered, some (trailTo (List.replicate (n + 1) name))) :: (entered, none) :: rungs rung name n

theorem lookup_rungs (ha : ∀ k < n, a ≠ List.replicate k name ++ [rung]) :
    (rungs rung name n).lookup (trailTo a) = none := by
  induction n with
  | zero => rfl
  | succ n ih =>
    have hne : (trailTo a == trailTo (List.replicate n name ++ [rung])) = false := by
      simpa using ha n (Nat.lt_succ_self n)
    simp only [rungs, List.lookup_cons, hne]
    exact ih fun k hk => ha k (Nat.lt_succ_of_lt hk)

/-- Resolving goes from a rung to the next directory. -/
theorem resolveFrom_rung (hl : h.Ladder rung name height) (hn : n < height)
    (hshort : (Path.absolute (List.replicate n name ++ [rung])).text.utf8ByteSize ≤
      Disk.textLimit) :
    h.resolveFrom (depth + 1) (trailTo (List.replicate n name)) (rung :: rest)
        (rungs rung name n) =
      h.resolveFrom (depth + 1) (trailTo (List.replicate (n + 1) name)) rest
        (rungs rung name (n + 1)) := by
  obtain ⟨hrung, hup, hnull, -⟩ := hl.rung_spelled
  obtain ⟨hname, hup', hnull', -⟩ := hl.name_spelled
  obtain ⟨t, ht⟩ := hl.directory (n + 1) hn
  have hdown : ∀ s, (trailTo (List.replicate n name)).down s =
      trailTo (List.replicate n name ++ [s]) := fun s => rfl
  have hlink : h.linkAt? ((trailTo (List.replicate n name)).down rung) = some name :=
    linkAt?_of_short (hl.notUp_rung n) hshort (hl.link n hn)
  have hnew : (rungs rung name n).lookup ((trailTo (List.replicate n name)).down rung) = none :=
    lookup_rungs fun k hk heq => by
      have hlength := congrArg List.length heq
      simp at hlength
      omega
  have hplain : h.linkAt? ((trailTo (List.replicate n name)).down name) = none := by
    rw [hdown, ← List.replicate_succ']
    exact linkAt?_eq_none (hl.notUp _) fun target hlink => by
      rw [ht] at hlink
      cases hlink
  rw [resolveFrom_enter hrung.ne_empty hrung.ne_dot hup hnull hlink hnew,
    if_neg (head?_name hname), slashPieces_name hname,
    resolveFrom_plain hname.ne_empty hname.ne_dot hup' hnull' hplain, resolveFrom_nil, rungs,
    List.replicate_succ']
  rfl

/-- **Resolving down a ladder**, as long as the system takes the absolute paths of the rungs. -/
theorem resolveFrom_eq (hl : h.Ladder rung name height) (hn : n ≤ height)
    (hshort : ∀ k < n, (Path.absolute (List.replicate k name ++ [rung])).text.utf8ByteSize ≤
      Disk.textLimit) :
    h.resolveFrom (depth + 1) Trail.root (List.replicate n rung ++ rest) [] =
      h.resolveFrom (depth + 1) (trailTo (List.replicate n name)) rest (rungs rung name n) := by
  induction n generalizing rest with
  | zero => rfl
  | succ n ih =>
    rw [List.replicate_succ', List.append_assoc, List.singleton_append,
      ih (Nat.le_of_succ_le hn) fun k hk => hshort k (Nat.lt_succ_of_lt hk),
      hl.resolveFrom_rung hn (hshort n (Nat.lt_succ_self n))]

end Ladder

end Host

end OptIn
