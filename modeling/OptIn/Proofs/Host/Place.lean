import OptIn.Proofs.Disk.Walk
import OptIn.Proofs.Path.Written

/-!
# Where paths lead on a host

On an orderly host a proper path leads where its parts lead, as long as its text can be given to
the system at all (`placeOf_eq`, `stat_eq_ok_iff`). What stands one name further down is looked up
in the directory that the shorter path leads to (`placeOf_down`). A resolved path, which has no link
on its way, leads to the address that it writes (`Resolved.stat_eq`), and looking up a path that
leads to something gives the same on every host that keeps directories and links (`stat_keeps`).
-/

namespace OptIn

/-- A path whose text can be given to the system: it is short enough and holds no NUL. -/
structure Path.Askable (p : Path) : Prop where
  short : p.text.utf8ByteSize ≤ Disk.textLimit
  noNull : holdsNull p.text = false

/-- If a longer path can be asked for, so can the shorter one. -/
theorem Path.Askable.of_down {p : Path} {name : String} (hn : Path.ProperName name)
    (h : (p.down name).Askable) : p.Askable where
  short := Nat.le_trans (Path.utf8ByteSize_text_le_down hn) h.short
  noNull := by
    have hnull := h.noNull
    rw [Path.holdsNull_text_down, Bool.or_eq_false_iff] at hnull
    exact hnull.1

namespace Host

/-- A host is **orderly** when its disk is a tree and it works in a directory. -/
structure Orderly (h : Host) : Prop where
  tree : h.disk.IsTree
  here : ∃ t, h.disk.node? h.cwd = some (.directory t)

/-- The address that a path starts from. -/
def startOf (h : Host) (p : Path) : Address := if p.isAbsolute then [] else h.cwd

variable {h h' : Host} {p : Path} {purpose : Disk.Purpose} {name : String} {a b : Address}
  {n n' : Node} {t : Int}

theorem Orderly.start (ho : h.Orderly) (p : Path) :
    ∃ t, h.disk.node? (h.startOf p) = some (.directory t) := by
  unfold startOf
  split
  · exact ho.tree.root
  · exact ho.here

theorem Orderly.at_clock (ho : h.Orderly) (t : Int) : Orderly { h with clock := t } :=
  ⟨ho.tree, ho.here⟩

theorem startOf_text (h : Host) (hp : p.Proper) : Disk.startOf h.cwd p.text = h.startOf p := by
  rw [Disk.startOf, startOf]
  exact if_congr (Path.head?_text_eq_slash_iff hp) rfl rfl

/-- Following the text of a path is following its parts. -/
theorem follow_namesOf (ho : h.Orderly) (hp : p.Proper) (links : Nat) :
    h.disk.follow purpose links (h.startOf p) (Disk.namesOf p.text) =
      h.disk.follow purpose links (h.startOf p) p.parts := by
  by_cases habs : p.isAbsolute = true
  · rw [Path.namesOf_text_of_isAbsolute hp habs]
  · by_cases hparts : p.parts = []
    · -- the path `.` is written with one name that leads nowhere else
      obtain ⟨t, ht⟩ := ho.start p
      have hname : Disk.namesOf p.text = ["."] := by
        obtain ⟨anchor, parts⟩ := p
        obtain rfl : parts = [] := hparts
        obtain rfl : anchor = .relative := by simpa [Path.isAbsolute] using habs
        decide
      rw [hname, hparts, Disk.follow_stay ht (.inr rfl)]
    · rw [Path.namesOf_text hp hparts]

theorem placeOf_eq (purpose : Disk.Purpose) (ho : h.Orderly) (hp : p.Proper) (ha : p.Askable) :
    h.placeOf purpose p.text =
      (h.disk.follow purpose Disk.linkLimit (h.startOf p) p.parts).mapError
        fun e => .system e p.text := by
  have hempty : ¬p.text.isEmpty = true := by
    simpa [String.isEmpty_iff] using Path.text_ne_empty hp
  rw [placeOf, ha.noNull, Disk.place, if_neg hempty, if_neg (Nat.not_lt.mpr ha.short),
    startOf_text h hp, follow_namesOf ho hp]
  rfl

/-- What cannot be asked for is refused before anything is looked up. -/
theorem placeOf_of_not_askable (hp : p.Proper) (ha : ¬p.Askable) :
    h.placeOf purpose p.text =
      .error (if holdsNull p.text then .embeddedNull else .system .nameTooLong p.text) := by
  have hempty : ¬p.text.isEmpty = true := by
    simpa [String.isEmpty_iff] using Path.text_ne_empty hp
  rw [placeOf]
  by_cases hnull : holdsNull p.text = true
  · rw [hnull]
    rfl
  · have hlong : Disk.textLimit < p.text.utf8ByteSize :=
      Nat.lt_of_not_le fun hshort => ha ⟨hshort, by simpa using hnull⟩
    rw [if_neg hnull, if_neg hnull, Disk.place, if_neg hempty, if_pos hlong]
    rfl

theorem stat_eq_ok_iff_placeOf :
    h.stat p = .ok (a, n) ↔ h.placeOf .use p.text = .ok (.taken a n) := by
  rw [stat, statText]
  rcases h.placeOf .use p.text with e | (⟨b, m⟩ | b)
  · simp [bind, Except.bind]
  · simp [bind, Except.bind, pure, Except.pure]
  · simp [bind, Except.bind, throw, throwThe, MonadExceptOf.throw]

theorem stat_of_vacant (h : Host) (hv : h.placeOf .use p.text = .ok (.vacant a)) :
    h.stat p = .error (.system .notFound p.text) := by
  rw [stat, statText, hv]
  rfl

theorem stat_of_error {e : Fault} (he : h.placeOf .use p.text = .error e) :
    h.stat p = .error e := by
  rw [stat, statText, he]
  rfl

/-- Where a path leads is where its parts lead. -/
theorem placeOf_eq_ok_iff (purpose : Disk.Purpose) (ho : h.Orderly) (hp : p.Proper)
    {x : Disk.Place} : h.placeOf purpose p.text = .ok x ↔
      p.Askable ∧ h.disk.Walk purpose Disk.linkLimit (h.startOf p) p.parts x := by
  rw [← Disk.follow_eq_ok_iff]
  by_cases ha : p.Askable
  · rw [placeOf_eq purpose ho hp ha]
    rcases h.disk.follow purpose Disk.linkLimit (h.startOf p) p.parts with e | x
    · simp [Except.mapError]
    · simp [Except.mapError, ha]
  · rw [placeOf_of_not_askable hp ha]
    simp [ha]

theorem stat_eq_ok_iff (ho : h.Orderly) (hp : p.Proper) :
    h.stat p = .ok (a, n) ↔
      p.Askable ∧ h.disk.Walk .use Disk.linkLimit (h.startOf p) p.parts (.taken a n) := by
  rw [stat_eq_ok_iff_placeOf, placeOf_eq_ok_iff .use ho hp]

theorem node?_of_stat (ho : h.Orderly) (hp : p.Proper) (hs : h.stat p = .ok (a, n)) :
    h.disk.node? a = some n :=
  ((stat_eq_ok_iff ho hp).mp hs).2.node?_eq

/-- What a path leads to is no link. -/
theorem isLink_eq_false_of_stat (ho : h.Orderly) (hp : p.Proper) (hs : h.stat p = .ok (a, n)) :
    n.isLink = false := by
  obtain ⟨t, ht⟩ := ho.start p
  refine ((stat_eq_ok_iff ho hp).mp hs).2.isLink_eq_false ho.tree fun target hlink => ?_
  rw [ht] at hlink
  cases hlink

/-- A path that leads to something leads there on every host that keeps directories and links. -/
theorem stat_keeps (ho : h.Orderly) (ho' : h'.Orderly) (hp : p.Proper)
    (hk : h.disk.Keeps h'.disk) (hcwd : h'.cwd = h.cwd) (hs : h.stat p = .ok (a, n))
    (hn' : h'.disk.node? a = some n') (hlink : n'.isLink = false) :
    h'.stat p = .ok (a, n') := by
  obtain ⟨ha, hwalk⟩ := (stat_eq_ok_iff ho hp).mp hs
  have hstart : h'.startOf p = h.startOf p := by rw [startOf, startOf, hcwd]
  refine (stat_eq_ok_iff ho' hp).mpr ⟨ha, ?_⟩
  rw [hstart]
  exact hwalk.keeps hk hn' (by simp [hlink])

/-! ### One name further down -/

/-- What a longer path leads to is looked up where the shorter one leads. -/
theorem placeOf_down (purpose : Disk.Purpose) (ho : h.Orderly) (hp : p.Proper)
    (hn : Path.ProperName name) (ha : (p.down name).Askable) :
    ∃ left, h.placeOf purpose (p.down name).text =
      match h.stat p with
      | .ok (b, _) => (h.disk.follow purpose left b [name]).mapError
          fun e => .system e (p.down name).text
      | .error (.system e _) => .error (.system e (p.down name).text)
      | .error e => .error e := by
  have hstart : h.startOf (p.down name) = h.startOf p := rfl
  obtain ⟨left, hleft⟩ := Disk.follow_append (d := h.disk) purpose (List.cons_ne_nil name [])
    (by simpa using hn.ne_empty) Disk.linkLimit (h.startOf p) p.parts
  refine ⟨left, ?_⟩
  rw [placeOf_eq purpose ho (hp.down hn) ha, hstart, Path.parts_down, hleft]
  have hplace := placeOf_eq .use ho hp (ha.of_down hn)
  rcases hf : h.disk.follow .use Disk.linkLimit (h.startOf p) p.parts with e | (⟨b, m⟩ | b)
  · rw [hf] at hplace
    rw [stat_of_error hplace]
    rfl
  · rw [hf] at hplace
    rw [stat_eq_ok_iff_placeOf.mpr hplace, Disk.goOn]
  · rw [hf] at hplace
    rw [stat_of_vacant h hplace]
    rfl

/-- What stands in a directory is found by its name; links are only looked at. -/
theorem placeOf_down_of_stat (ho : h.Orderly) (hp : p.Proper) (hn : Path.ProperName name)
    (hup : name ≠ "..") (ha : (p.down name).Askable) (hshort : name.utf8ByteSize ≤ Disk.nameLimit)
    (hs : h.stat p = .ok (b, .directory t))
    (hlink : purpose = .examine ∨ ∀ target, h.disk.node? (b ++ [name]) ≠ some (.link target)) :
    h.placeOf purpose (p.down name).text =
      match h.disk.node? (b ++ [name]) with
      | none => .ok (.vacant (b ++ [name]))
      | some n => .ok (.taken (b ++ [name]) n) := by
  obtain ⟨left, hleft⟩ := placeOf_down purpose ho hp hn ha
  rw [hleft, hs]
  simp only
  rw [Disk.follow_name (node?_of_stat ho hp hs) hn.ne_empty hn.ne_dot hup hshort]
  rcases hm : h.disk.node? (b ++ [name]) with _ | (_ | _ | target)
  · rfl
  · rfl
  · rfl
  · rcases hlink with rfl | hlink
    · rfl
    · exact absurd hm (hlink target)

/-- A name that is too long is refused in every directory. -/
theorem placeOf_down_of_long (ho : h.Orderly) (hp : p.Proper) (hn : Path.ProperName name)
    (hup : name ≠ "..") (ha : (p.down name).Askable) (hlong : Disk.nameLimit < name.utf8ByteSize)
    (hs : h.stat p = .ok (b, .directory t)) :
    h.placeOf purpose (p.down name).text =
      .error (.system .nameTooLong (p.down name).text) := by
  obtain ⟨left, hleft⟩ := placeOf_down purpose ho hp hn ha
  rw [hleft, hs]
  simp only
  rw [Disk.follow_name_of_long (node?_of_stat ho hp hs) hn.ne_empty hn.ne_dot hup hlong]
  rfl

/-- Where no directory is, nothing can be looked up. -/
theorem placeOf_down_of_not_directory (ho : h.Orderly) (hp : p.Proper)
    (hn : Path.ProperName name) (hs : ∀ b t, h.stat p ≠ .ok (b, .directory t)) :
    ∃ e, h.placeOf purpose (p.down name).text = .error e := by
  by_cases ha : (p.down name).Askable
  · obtain ⟨left, hleft⟩ := placeOf_down purpose ho hp hn ha
    rw [hleft]
    rcases hst : h.stat p with e | ⟨b, m⟩
    · cases e <;> exact ⟨_, rfl⟩
    · have hm : ∀ t, h.disk.node? b ≠ some (.directory t) := by
        intro t ht
        obtain rfl : m = .directory t :=
          Option.some.inj ((node?_of_stat ho hp hst).symm.trans ht)
        exact hs b t hst
      simp only
      rw [Disk.follow_cons_of_not_directory hm]
      exact ⟨_, rfl⟩
  · exact ⟨_, placeOf_of_not_askable (hp.down hn) ha⟩

/-! ### Resolved paths -/

/-- A path is **resolved** on a host when it is absolute and has no `..`, no NUL and no link on its
way. -/
structure Resolved (h : Host) (p : Path) : Prop where
  anchor : p.anchor = .root
  proper : p.Proper
  noUp : ".." ∉ p.parts
  noNull : holdsNull p.text = false
  plain : ∀ {b target}, b <+: p.parts → h.disk.node? b ≠ some (.link target)

theorem Resolved.startOf (hr : h.Resolved p) : h.startOf p = [] := by
  rw [Host.startOf, Path.isAbsolute, hr.anchor]
  rfl

theorem Resolved.names (hr : h.Resolved p) : ∀ s ∈ p.parts, s ≠ "" ∧ s ≠ "." ∧ s ≠ ".." :=
  fun s hs => ⟨(hr.proper s hs).ne_empty, (hr.proper s hs).ne_dot, fun h => hr.noUp (h ▸ hs)⟩

/-- A resolved path leads to the address that it writes, whatever it is followed for. -/
theorem Resolved.address_of_placeOf (hr : h.Resolved p) (ho : h.Orderly) {x : Disk.Place}
    (hplace : h.placeOf purpose p.text = .ok x) : x.address = p.parts := by
  obtain ⟨-, hwalk⟩ := (placeOf_eq_ok_iff purpose ho hr.proper).mp hplace
  rw [hr.startOf] at hwalk
  simpa using hwalk.eq_append hr.names fun b target hb => hr.plain (by simpa using hb)

/-- What a resolved path leads to stands at the address that it writes. -/
theorem Resolved.address_eq (hr : h.Resolved p) (ho : h.Orderly) (hs : h.stat p = .ok (a, n)) :
    a = p.parts :=
  hr.address_of_placeOf ho (stat_eq_ok_iff_placeOf.mp hs)

/-- A resolved path is the path of what stands at the address that it writes. -/
theorem Resolved.stat_eq (hr : h.Resolved p) (ho : h.Orderly) (ha : p.Askable)
    (hshort : ∀ s ∈ p.parts, s.utf8ByteSize ≤ Disk.nameLimit)
    (hn : h.disk.node? p.parts = some n) : h.stat p = .ok (p.parts, n) := by
  have hfollow := Disk.follow_plain .use Disk.linkLimit [] ho.tree hr.names hshort
    fun b target hb => hr.plain (by simpa using hb)
  rw [List.nil_append, hn] at hfollow
  rcases hfollow with ⟨m, hm, hfollow⟩ | ⟨hnone, -⟩
  · obtain rfl : n = m := Option.some.inj hm
    refine (stat_eq_ok_iff ho hr.proper).mpr ⟨ha, ?_⟩
    rw [hr.startOf]
    exact Disk.walk_of_follow hfollow
  · cases hnone

/-- Whether a resolved path is that of a file can be read off the disk. -/
theorem Resolved.isFile_eq (hr : h.Resolved p) (ho : h.Orderly) (ha : p.Askable)
    (hshort : ∀ s ∈ p.parts, s.utf8ByteSize ≤ Disk.nameLimit) :
    h.isFile p = .ok ((h.disk.node? p.parts).any Node.isFile) := by
  rcases hn : h.disk.node? p.parts with _ | n
  · have hfollow := Disk.follow_plain .use Disk.linkLimit [] ho.tree hr.names hshort
      fun b target hb => hr.plain (by simpa using hb)
    have hplace := placeOf_eq .use ho hr.proper ha
    rw [hr.startOf] at hplace
    rw [List.nil_append, hn] at hfollow
    rw [isFile, holds]
    rcases hfollow with ⟨m, hm, -⟩ | ⟨-, hf | hf | hf⟩
    · cases hm
    · rw [hf] at hplace
      rw [stat_of_vacant h hplace]
      rfl
    · rw [hf] at hplace
      rw [stat_of_error hplace]
      rfl
    · rw [hf] at hplace
      rw [stat_of_error hplace]
      rfl
  · rw [isFile, holds, hr.stat_eq ho ha hshort hn]
    rfl

end Host

end OptIn
