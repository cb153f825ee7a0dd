import OptIn.Proofs.Cache.Usable
import OptIn.Proofs.Host.Edits
import OptIn.Proofs.Invoker.Effect

/-!
# Ledgers

A ledger tells what has happened to files over several runs: which results they got, and when they
were edited. A cache keeps books on a ledger (`ResultCache.Books`) when its markers agree with it:
one is younger than a file exactly if some file with a marker of that name has passed since the file
was edited. The books stay in order when time passes, when a result is reached and recorded
(`Books.effect`), and when a file is edited (`Books.edited`).
-/

namespace OptIn

open Host (InStore)

/-- An entry of a ledger: a file has got a result, or has been edited. -/
inductive Entry where
  | judged (x : LintResult)
  | edited (p : Path)
  deriving DecidableEq, Repr

/-- What has happened to files, first things first. -/
abbrev Ledger := List Entry

namespace Ledger

variable {L : Ledger} {p q : Path} {e : Entry} {x : LintResult}

/-- A success of `q` **stands** for `p`: since then, `p` has not been edited. -/
def Stands (L : Ledger) (q p : Path) : Prop :=
  ∃ L₁ y L₂, L = L₁ ++ .judged y :: L₂ ∧ y.classification = .passed ∧ y.candidate.path = q ∧
    .edited p ∉ L₂

/-- A file has **earned** its marker when a success stands for it, of any file with a marker of that
name. -/
def Earned (L : Ledger) (p : Path) : Prop := ∃ q, cacheKey q = cacheKey p ∧ L.Stands q p

/-- An entry of a longer ledger is the last one or an entry of the shorter ledger. -/
theorem append_singleton_eq_iff {α : Type} {L L₁ L₂ : List α} {e e' : α} :
    L ++ [e] = L₁ ++ e' :: L₂ ↔
      L₁ = L ∧ e' = e ∧ L₂ = [] ∨ ∃ L₃, L₂ = L₃ ++ [e] ∧ L = L₁ ++ e' :: L₃ := by
  rcases List.eq_nil_or_concat L₂ with rfl | ⟨L₃, e'', rfl⟩
  · constructor
    · intro h
      obtain ⟨rfl, he⟩ := List.append_inj' h rfl
      exact .inl ⟨rfl, (List.cons.inj he).1.symm, rfl⟩
    · rintro (⟨rfl, rfl, -⟩ | ⟨L₃, hL₃, -⟩)
      · rfl
      · simp at hL₃
  · rw [List.concat_eq_append, ← List.cons_append, ← List.append_assoc]
    constructor
    · intro h
      obtain ⟨rfl, he⟩ := List.append_inj' h rfl
      obtain rfl := (List.cons.inj he).1
      exact .inr ⟨L₃, rfl, rfl⟩
    · rintro (⟨-, -, hnil⟩ | ⟨L₄, hL₄, rfl⟩)
      · simp at hnil
      · obtain ⟨rfl, he⟩ := List.append_inj' hL₄ rfl
        rw [he]

theorem not_stands_nil : ¬Stands [] q p := by
  rintro ⟨L₁, y, L₂, hL, -⟩
  simp at hL

theorem stands_append_edited {e : Path} :
    (L ++ [Entry.edited e]).Stands q p ↔ e ≠ p ∧ L.Stands q p := by
  constructor
  · rintro ⟨L₁, y, L₂, hL, hpassed, hy, hnot⟩
    rcases append_singleton_eq_iff.mp hL with ⟨-, hye, -⟩ | ⟨L₃, rfl, rfl⟩
    · cases hye
    · refine ⟨?_, L₁, y, L₃, rfl, hpassed, hy, fun h => hnot (List.mem_append_left _ h)⟩
      rintro rfl
      exact hnot (by simp)
  · rintro ⟨hne, L₁, y, L₂, rfl, hpassed, hy, hnot⟩
    refine ⟨L₁, y, L₂ ++ [Entry.edited e], by simp, hpassed, hy, ?_⟩
    simpa [hnot] using hne.symm

theorem stands_append_judged : (L ++ [Entry.judged x]).Stands q p ↔
    x.classification = .passed ∧ x.candidate.path = q ∨ L.Stands q p := by
  constructor
  · rintro ⟨L₁, y, L₂, hL, hpassed, hy, hnot⟩
    rcases append_singleton_eq_iff.mp hL with ⟨-, hyx, -⟩ | ⟨L₃, rfl, rfl⟩
    · cases hyx
      exact .inl ⟨hpassed, hy⟩
    · exact .inr ⟨L₁, y, L₃, rfl, hpassed, hy, fun h => hnot (List.mem_append_left _ h)⟩
  · rintro (⟨hpassed, hx⟩ | ⟨L₁, y, L₂, rfl, hpassed, hy, hnot⟩)
    · exact ⟨L, x, [], rfl, hpassed, hx, List.not_mem_nil⟩
    · exact ⟨L₁, y, L₂ ++ [Entry.judged x], by simp, hpassed, hy, by simpa using hnot⟩

theorem not_earned_nil : ¬Earned [] p := fun ⟨_, _, hstands⟩ => not_stands_nil hstands

theorem earned_append_edited {e : Path} :
    (L ++ [Entry.edited e]).Earned p ↔ e ≠ p ∧ L.Earned p := by
  simp only [Earned, stands_append_edited]
  exact ⟨fun ⟨q, hq, hne, hs⟩ => ⟨hne, q, hq, hs⟩, fun ⟨hne, q, hq, hs⟩ => ⟨q, hq, hne, hs⟩⟩

theorem earned_append_judged : (L ++ [Entry.judged x]).Earned p ↔
    x.classification = .passed ∧ cacheKey x.candidate.path = cacheKey p ∨ L.Earned p := by
  simp only [Earned, stands_append_judged]
  constructor
  · rintro ⟨q, hq, ⟨hpassed, rfl⟩ | hs⟩
    · exact .inl ⟨hpassed, hq⟩
    · exact .inr ⟨q, hq, hs⟩
  · rintro (⟨hpassed, hkey⟩ | ⟨q, hq, hs⟩)
    · exact ⟨_, hkey, .inl ⟨hpassed, rfl⟩⟩
    · exact ⟨q, hq, .inr hs⟩

theorem earned_append_of_ne (hx : x.classification ≠ .passed) :
    (L ++ [Entry.judged x]).Earned p ↔ L.Earned p := by
  rw [earned_append_judged]
  simp [hx]

end Ledger

/-! ### Files and their times -/

namespace Host

variable {h h' : Host} {dir p : Path} {a : Address} {t : Int} {within : Address → Prop}

/-- A file stands at an address, and was last changed at a time. -/
def FileAt (h : Host) (a : Address) (t : Int) : Prop :=
  ∃ bytes x, h.disk.node? a = some (.file bytes x t)

theorem FileAt.unique {t' : Int} (hf : h.FileAt a t) (hf' : h.FileAt a t') : t = t' := by
  obtain ⟨bytes, x, hn⟩ := hf
  obtain ⟨bytes', x', hn'⟩ := hf'
  rw [hn] at hn'
  cases hn'
  rfl

theorem Alters.fileAt_iff (hg : h.Alters within h') (ha : ¬within a) :
    h'.FileAt a t ↔ h.FileAt a t :=
  exists₂_congr fun _ _ => hg.kept ha rfl

/-- No file is there from the future. -/
def Aged (h : Host) (p : Path) : Prop := ∀ t, h.FileAt p.parts t → t ≤ h.clock

/-- A path does not lead right into a directory, if that is there. -/
def Outside (h : Host) (dir p : Path) : Prop :=
  ∀ a t, h.stat dir = .ok (a, .directory t) → ¬InStore a p.parts

theorem Outside.of_alters (hout : h'.Outside dir p) (hg : h.Alters within h') (ho : h.Orderly)
    (hdir : dir.Proper) : h.Outside dir p := by
  intro a t hs
  obtain ⟨t', hs'⟩ := hg.stat_directory ho hdir hs
  exact hout a t' hs'

theorem Shelf.outside_iff (hs : h.Shelf dir a) : h.Outside dir p ↔ ¬InStore a p.parts := by
  obtain ⟨t, ht⟩ := hs.there
  refine ⟨fun hout => hout a t ht, fun hout b s hb => ?_⟩
  rw [ht] at hb
  cases hb
  exact hout

end Host

/-! ### Books -/

namespace ResultCache

variable {c : ResultCache} {h₀ h h' : Host} {a : Address} {L : Ledger} {bound : Int} {p : Path}
  {x : LintResult} {w w' : World} {within : Address → Prop}

/-- The markers on a shelf **agree** with a ledger: whatever has a marker that is younger has earned
it, and what has earned one has one that is younger, unless it was from the future at first. -/
structure Agree (c : ResultCache) (h₀ : Host) (a : Address) (L : Ledger) (h : Host) : Prop where
  old : ∀ {name n}, h.disk.node? (a ++ [name]) = some n → n.changed ≤ h.clock
  earned : ∀ {p n t}, p.anchor = .root → h.disk.node? (a ++ [cacheKey p]) = some n →
    h.FileAt p.parts t → t < n.changed → L.Earned p
  young : ∀ {p}, p.anchor = .root → ¬InStore a p.parts → h₀.Aged p → L.Earned p →
    c.Fits p ∧ ∃ n, h.disk.node? (a ++ [cacheKey p]) = some n ∧
      ∀ t, h.FileAt p.parts t → t < n.changed

/-- A host keeps **books** on a ledger. No file that was not from the future at first is younger
than the bound; and either there is no store yet and nothing to keep, or the markers agree. -/
structure Books (c : ResultCache) (h₀ : Host) (L : Ledger) (bound : Int) (h : Host) : Prop where
  orderly : h.Orderly
  bound_le : bound ≤ h.clock
  aged : ∀ {p t}, h.Outside c.directory p → h₀.Aged p → h.FileAt p.parts t → t ≤ bound
  kept : h.isDirectory c.directory ≠ .ok true ∧ h.Straight c.directory ∧
      (∀ p, ¬L.Earned p) ∨
    ∃ a, h.Shelf c.directory a ∧ c.Agree h₀ a L h

theorem Books.start (ho : h.Orderly) (hno : h.isDirectory c.directory ≠ .ok true)
    (hstraight : h.Straight c.directory) : c.Books h [] h.clock h where
  orderly := ho
  bound_le := Int.le_refl _
  aged _ haged hf := haged _ hf
  kept := .inl ⟨hno, hstraight, fun _ => Ledger.not_earned_nil⟩

/-- The bound may be moved up to the present. -/
theorem Books.mono {bound' : Int} (hb : c.Books h₀ L bound h) (hle : bound ≤ bound')
    (hle' : bound' ≤ h.clock) : c.Books h₀ L bound' h where
  orderly := hb.orderly
  bound_le := hle'
  aged hout haged hf := Int.le_trans (hb.aged hout haged hf) hle
  kept := hb.kept

theorem Books.later (hb : c.Books h₀ L bound h) (hl : h.Later h') : c.Books h₀ L bound h' := by
  obtain ⟨t, ht, rfl⟩ := hl
  refine ⟨hb.orderly.at_clock t, Int.le_trans hb.bound_le ht, hb.aged, ?_⟩
  rcases hb.kept with hmissing | ⟨a, hshelf, hagree⟩
  · exact .inl hmissing
  · exact .inr ⟨a, ⟨hshelf.there, hshelf.files⟩,
      ⟨fun hn => Int.le_trans (hagree.old hn) ht, hagree.earned, hagree.young⟩⟩

/-- The ledger may be exchanged for one in which the same has been earned. -/
theorem Books.congr {L' : Ledger} (hb : c.Books h₀ L bound h)
    (hearned : ∀ p, L'.Earned p ↔ L.Earned p) : c.Books h₀ L' bound h where
  orderly := hb.orderly
  bound_le := hb.bound_le
  aged := hb.aged
  kept := by
    rcases hb.kept with ⟨hno, hstraight, hnone⟩ | ⟨a, hshelf, hagree⟩
    · exact .inl ⟨hno, hstraight, fun p hp => hnone p ((hearned p).mp hp)⟩
    · exact .inr ⟨a, hshelf, hagree.old,
        fun hroot hn hf ht => (hearned _).mpr (hagree.earned hroot hn hf ht),
        fun hroot hout haged hp => hagree.young hroot hout haged ((hearned _).mp hp)⟩

theorem Books.agree (hb : c.Books h₀ L bound h) (hshelf : h.Shelf c.directory a) :
    c.Agree h₀ a L h := by
  rcases hb.kept with ⟨hno, -⟩ | ⟨b, hshelf', hagree⟩
  · exact absurd hshelf.isDirectory hno
  · obtain ⟨t, ht⟩ := hshelf.there
    obtain ⟨t', ht'⟩ := hshelf'.there
    rw [ht] at ht'
    cases ht'
    exact hagree

theorem Books.aged_of_alters (hb : c.Books h₀ L bound h) (hg : h.Alters within h')
    (hdir : c.directory.Proper)
    (hwithin : h'.Outside c.directory p → ¬within p.parts) {t : Int}
    (hout : h'.Outside c.directory p) (haged : h₀.Aged p) (hf : h'.FileAt p.parts t) :
    t ≤ bound :=
  hb.aged (hout.of_alters hg hb.orderly hdir) haged ((hg.fileAt_iff (hwithin hout)).mp hf)

/-- Books while the store cannot be made. -/
theorem Books.still_missing (hb : c.Books h₀ L bound h) (hdir : c.directory.Proper)
    (hno : h.isDirectory c.directory ≠ .ok true) (hg : h.Grows (fun _ => False) h')
    (hno' : h'.isDirectory c.directory ≠ .ok true) : c.Books h₀ L bound h' where
  orderly := hg.orderly hb.orderly
  bound_le := Int.le_trans hb.bound_le hg.clock
  aged := hb.aged_of_alters hg.toAlters hdir fun _ hw => hw
  kept := by
    rcases hb.kept with ⟨-, hstraight, hnone⟩ | ⟨a, hshelf, -⟩
    · exact .inl ⟨hno', hstraight.of_alters hg.toAlters hb.orderly hdir, hnone⟩
    · exact absurd hshelf.isDirectory hno

/-- Books when the store is made. -/
theorem Books.made (hb : c.Books h₀ L bound h) (hdir : c.directory.Proper)
    (hno : h.isDirectory c.directory ≠ .ok true) (hg : h.Grows (fun _ => False) h')
    (hshelf : h'.Shelf c.directory a)
    (hempty : ∀ name, h'.disk.node? (a ++ [name]) = none) : c.Books h₀ L bound h' where
  orderly := hg.orderly hb.orderly
  bound_le := Int.le_trans hb.bound_le hg.clock
  aged := hb.aged_of_alters hg.toAlters hdir fun _ hw => hw
  kept := by
    rcases hb.kept with ⟨-, -, hnone⟩ | ⟨a, hshelf', -⟩
    · refine .inr ⟨a, hshelf, fun hn => ?_, fun _ hn => ?_, fun _ _ _ hp => absurd hp (hnone _)⟩
      · rw [hempty] at hn
        cases hn
      · rw [hempty] at hn
        cases hn
    · exact absurd hshelf'.isDirectory hno

/-- Books when a success is recorded after the bound. -/
theorem Books.stamped (hb : c.Books h₀ L bound h) (hlt : bound < h.clock)
    (hdir : c.directory.Proper) (hshelf : h.Shelf c.directory a)
    (hs : h.Stamped h' c.directory a (cacheKey x.candidate.path))
    (hx : x.classification = .passed) (hfits : c.Fits x.candidate.path) :
    c.Books h₀ (L ++ [Entry.judged x]) bound h' := by
  have hagree := hb.agree hshelf
  have hg := hs.grows.toAlters
  -- a file outside the directory is not the marker, so stamping leaves it as it was
  have hwithin : ∀ {p}, h'.Outside c.directory p →
      ¬p.parts = a ++ [cacheKey x.candidate.path] :=
    fun hout hp => hs.shelf.outside_iff.mp hout ⟨_, hp⟩
  have haged : ∀ {p t}, h'.Outside c.directory p → h₀.Aged p → h'.FileAt p.parts t →
      t ≤ bound := fun hout => hb.aged_of_alters hg hdir hwithin hout
  obtain ⟨bytes, y, hmarker⟩ := hs.marker
  refine ⟨hg.orderly hb.orderly, Int.le_trans hb.bound_le hg.clock, haged,
    .inr ⟨a, hs.shelf, ?_, ?_, ?_⟩⟩
  · intro name n hn
    rw [hs.clock]
    by_cases hname : name = cacheKey x.candidate.path
    · rw [hname, hmarker] at hn
      cases hn
      exact Int.le_refl _
    · rw [hs.others hname] at hn
      exact hagree.old hn
  · intro p n t hroot hn hf ht
    rw [Ledger.earned_append_judged]
    by_cases hkey : cacheKey p = cacheKey x.candidate.path
    · exact .inl ⟨hx, hkey.symm⟩
    · rw [hs.others hkey] at hn
      by_cases hp : p.parts = a ++ [cacheKey x.candidate.path]
      · -- the file is itself the marker that has just been stamped, and none is younger
        obtain rfl : t = h.clock := hf.unique (hp ▸ ⟨bytes, y, hmarker⟩)
        exact absurd (hagree.old hn) (Int.not_le.mpr ht)
      · exact .inr (hagree.earned hroot hn ((hg.fileAt_iff hp).mp hf) ht)
  · intro p hroot hout hpast hp
    have hout' : h'.Outside c.directory p := hs.shelf.outside_iff.mpr hout
    by_cases hkey : cacheKey p = cacheKey x.candidate.path
    · -- the marker is from the present, the file is no younger than the bound
      rw [hkey]
      exact ⟨(fits_congr hkey).mpr hfits, _, hmarker, fun t hf =>
        Int.lt_of_le_of_lt (haged hout' hpast hf) hlt⟩
    · rcases Ledger.earned_append_judged.mp hp with ⟨-, hkey'⟩ | hp
      · exact absurd hkey'.symm hkey
      · obtain ⟨hfit, n, hn, hyoung⟩ := hagree.young hroot hout hpast hp
        rw [← hs.others hkey] at hn
        exact ⟨hfit, n, hn, fun t hf => hyoung t ((hg.fileAt_iff (hwithin hout')).mp hf)⟩

/-- Markers agree after an edit outside the store. -/
theorem Agree.edited (hagree : c.Agree h₀ a L h) (hshelf : h.Shelf c.directory a)
    (he : h.Edited h' p) (hshelf' : h'.Shelf c.directory a) (hanchor : p.anchor = .root)
    (hout : ¬InStore a p.parts) : c.Agree h₀ a (L ++ [Entry.edited p]) h' := by
  have hg := he.toAlters
  have hmarker : ∀ {name n}, h'.disk.node? (a ++ [name]) = some n ↔
      h.disk.node? (a ++ [name]) = some n := by
    intro name n
    have hne : ¬a ++ [name] = p.parts := fun h => hout ⟨name, h.symm⟩
    exact ⟨fun hn => (hg.kept hne (Node.isDirectory_of_isFile (hshelf'.files hn))).mp hn,
      fun hn => (hg.kept hne (Node.isDirectory_of_isFile (hshelf.files hn))).mpr hn⟩
  refine ⟨fun hn => ?_, fun {q n t} hroot hn hf ht => ?_, fun {q} hroot hq haged hearned => ?_⟩
  · exact Int.le_trans (hagree.old (hmarker.mp hn)) hg.clock
  · by_cases hqp : q.parts = p.parts
    · -- the file has just been edited, and no marker is younger
      obtain rfl : t = h.clock := hf.unique (hqp ▸ he.there)
      exact absurd (hagree.old (hmarker.mp hn)) (Int.not_le.mpr ht)
    · refine Ledger.earned_append_edited.mpr ⟨fun h => hqp (h ▸ rfl), ?_⟩
      exact hagree.earned hroot (hmarker.mp hn) ((hg.fileAt_iff hqp).mp hf) ht
  · obtain ⟨hne, hearned⟩ := Ledger.earned_append_edited.mp hearned
    have hqp : q.parts ≠ p.parts := fun h => hne (Path.ext (hanchor.trans hroot.symm) h.symm)
    obtain ⟨hfit, n, hn, hyoung⟩ := hagree.young hroot hq haged hearned
    exact ⟨hfit, n, hmarker.mpr hn, fun t hf => hyoung t ((hg.fileAt_iff hqp).mp hf)⟩

/-- Books when a file is edited outside the store. -/
theorem Books.edited (hb : c.Books h₀ L bound h) (hdir : c.directory.Proper)
    (he : h.Edited h' p) (hanchor : p.anchor = .root) (hout : h.Outside c.directory p) :
    c.Books h₀ (L ++ [Entry.edited p]) h'.clock h' := by
  have ho := hb.orderly
  have hg := he.toAlters
  refine ⟨hg.orderly ho, Int.le_refl _, fun {q t} hq haged hf => ?_, ?_⟩
  · by_cases hqp : q.parts = p.parts
    · obtain rfl : t = h.clock := hf.unique (hqp ▸ he.there)
      exact hg.clock
    · exact Int.le_trans (hb.aged_of_alters hg hdir (fun _ => hqp) hq haged hf)
        (Int.le_trans hb.bound_le hg.clock)
  · rcases hb.kept with ⟨hno, hstraight, hnone⟩ | ⟨a, hshelf, hagree⟩
    · exact .inl ⟨fun hd => hno (he.isDirectory ho hdir hd), hstraight.of_alters hg ho hdir,
        fun q hq => hnone q (Ledger.earned_append_edited.mp hq).2⟩
    · have hin := hshelf.outside_iff.mp hout
      have hshelf' := he.shelf ho hdir hshelf fun name hname => hin ⟨name, hname⟩
      exact .inr ⟨a, hshelf', hagree.edited hshelf he hshelf' hanchor hin⟩

/-! ### Recording -/

/-- What has become of the books when the cache was asked to record a success of a file. -/
structure Booked (c : ResultCache) (h₀ : Host) (L : Ledger) (bound : Int) (p : Path) (h : Host)
    (y : Except Fault Unit) (h' : Host) : Prop where
  alters : ∃ within, h.Alters within h'
  refused : ∀ e, y = .error e → c.Books h₀ L bound h'
  recorded : y = .ok () → ∀ x : LintResult, x.candidate.path = p → x.classification = .passed →
    c.Books h₀ (L ++ [Entry.judged x]) bound h'

/-- Once there is a shelf, either the marker is stamped or nothing happens. -/
theorem Books.booked (hb : c.Books h₀ L bound h) (hlt : bound < h.clock)
    (hdir : c.directory.Proper) (hshelf : h.Shelf c.directory a)
    {y : Except Fault Unit}
    (hcases : y = .ok () ∧ c.Fits p ∧ h.Stamped h' c.directory a (cacheKey p) ∨
      (∃ e, y = .error e) ∧ h' = h) : c.Booked h₀ L bound p h y h' := by
  rcases hcases with ⟨rfl, hfits, hs⟩ | ⟨⟨e, rfl⟩, rfl⟩
  · refine ⟨⟨_, hs.grows.toAlters⟩, fun e he => (nomatch he), fun _ x hpath hx => ?_⟩
    subst hpath
    exact hb.stamped hlt hdir hshelf hs hx hfits
  · exact ⟨⟨fun _ => False, .refl _ h'⟩, fun _ _ => hb, fun hok => nomatch hok⟩

/-- Books when the cache is asked to record a success after the bound. -/
theorem Books.record (hb : c.Books h₀ L bound w.host) (hlt : bound < w.host.clock)
    (hdir : c.directory.Proper) (hp : p.Markable) {y : Except Fault Unit}
    (hrun : (c.record p).run w = (y, w')) : c.Booked h₀ L bound p w.host y w'.host := by
  have ho := hb.orderly
  rcases hb.kept with ⟨hno, hstraight, -⟩ | ⟨a, hshelf, -⟩
  · rcases c.record_cases_of_missing ho hdir hno hstraight hp hrun with
      ⟨⟨e, rfl⟩, hg, hno'⟩ | ⟨a, h, hg, hclock, hshelf, hempty, hcases⟩
    · exact ⟨⟨_, hg.toAlters⟩, fun _ _ => hb.still_missing hdir hno hg hno',
        fun hok => nomatch hok⟩
    · have hbooked :=
        (hb.made hdir hno hg hshelf hempty).booked (hclock ▸ hlt) hdir hshelf hcases
      obtain ⟨within, hg'⟩ := hbooked.alters
      exact { hbooked with alters := ⟨within, (hg.toAlters.mono fun _ h => h.elim).trans hg'⟩ }
  · exact hb.booked hlt hdir hshelf (c.record_cases_of_shelf ho hdir hshelf hp hrun)

/-- What an outcome adds to a ledger. -/
def entries : Except Fault LintResult → Ledger
  | .ok x => [.judged x]
  | .error _ => []

/-- Books when a file is dealt with after the bound. -/
theorem Books.effect {i : Invoker} {x : Except Fault LintResult} (hb : c.Books h₀ L bound h)
    (hlt : bound < h.clock) (hdir : c.directory.Proper) (hcache : i.cache? = some c)
    (hp : p.Markable) (he : i.Effect p h x h')
    (hpath : ∀ z, x = .ok z → z.candidate.path = p) :
    (∃ within, h.Alters within h') ∧ c.Books h₀ (L ++ entries x) bound h' := by
  -- recording comes after whatever time the tool has taken
  have hbooked : ∀ {h₁ y}, h.Later h₁ → i.Recorded p h₁ y h' →
      c.Booked h₀ L bound p h y h' := by
    intro h₁ y hl hr
    cases hr with
    | uncached hnone =>
      rw [hcache] at hnone
      cases hnone
    | cached hc hrun =>
      obtain rfl := Option.some.inj (hcache.symm.trans hc)
      have hbooked := (hb.later hl).record (Int.lt_of_lt_of_le hlt hl.clock_le) hdir hp hrun
      obtain ⟨within, hg⟩ := hbooked.alters
      exact { hbooked with alters := ⟨within, (hl.grows within).toAlters.trans hg⟩ }
  cases he with
  | later hx hl =>
    refine ⟨⟨_, (hl.grows fun _ => False).toAlters⟩, ?_⟩
    have hb' := hb.later hl
    rcases x with e | z
    · exact (List.append_nil L).symm ▸ hb'
    · exact hb'.congr fun p => Ledger.earned_append_of_ne (hx z rfl)
  | recorded hz hl hr =>
    have hbooked := hbooked hl hr
    exact ⟨hbooked.alters, hbooked.recorded rfl _ (hpath _ rfl) hz⟩
  | refused hl hr =>
    have hbooked := hbooked hl hr
    exact ⟨hbooked.alters, (List.append_nil L).symm ▸ hbooked.refused _ rfl⟩

end ResultCache

end OptIn
