import OptIn.Proofs.Host.Resolving
import OptIn.Proofs.Text.Cuts
import OptIn.Report

/-!
# The characters of resolved paths

Resolving a path puts together its own pieces, those of the targets of links, and the names of the
working directory. A character that is in none of them (`Host.Lacks`), and is no slash and no dot,
is not in the path that comes out (`Host.Lacks.resolve`), nor in what a path is shown as
(`Host.Lacks.displayPath`).
-/

namespace OptIn

variable {c : Char}

theorem not_mem_slashPieces {s : String} (hs : c ∉ s.toList) :
    ∀ x ∈ slashPieces s, c ∉ x.toList := by
  intro x hx
  obtain ⟨w, hw, rfl⟩ := List.mem_map.mp hx
  rw [String.toList_ofList]
  exact fun hc => hs (Text.forall_mem_pieces (fun _ hd => hd) w hw c hc)

theorem not_mem_intercalate {sep : String} {l : List String} (hsep : c ∉ sep.toList)
    (hl : ∀ s ∈ l, c ∉ s.toList) : c ∉ (sep.intercalate l).toList := by
  induction l with
  | nil => simp
  | cons x l ih =>
    have hx := hl x List.mem_cons_self
    have hrest := ih fun s hs => hl s (List.mem_cons_of_mem x hs)
    rcases l with _ | ⟨y, l⟩
    · rwa [String.intercalate_singleton]
    · rw [String.intercalate_cons_cons, String.toList_append, String.toList_append]
      simp only [List.mem_append, not_or]
      exact ⟨⟨hx, hsep⟩, hrest⟩

/-- A character that is **inner** to names: no slash and no dot. -/
structure Inner (c : Char) : Prop where
  ne_slash : c ≠ '/'
  ne_dot : c ≠ '.'

theorem Inner.not_mem_slash (hc : Inner c) : c ∉ "/".toList := by
  simpa using hc.ne_slash

theorem Inner.not_mem_dots (hc : Inner c) : c ∉ "..".toList := by
  simpa using hc.ne_dot

theorem Path.not_mem_text (hc : Inner c) {p : Path} (hp : ∀ s ∈ p.parts, c ∉ s.toList) :
    c ∉ p.text.toList := by
  have hparts := not_mem_intercalate hc.not_mem_slash hp
  have hanchor : c ∉ p.anchor.text.toList := by
    cases p.anchor <;> simp [Anchor.text, hc.ne_slash]
  rw [text]
  split
  · simpa using hc.ne_dot
  · rw [String.toList_append, List.mem_append, not_or]
    exact ⟨hanchor, hparts⟩

/-- A path with a name behind it holds NUL only if one of the two does. -/
theorem Path.holdsNull_text_child {p : Path} {name : String} (hp : holdsNull p.text = false)
    (hname : holdsNull name = false) : holdsNull (p.child name).text = false := by
  have hnull : ∀ {s : String}, holdsNull s = false ↔ '\x00' ∉ s.toList := fun {s} => by
    rw [holdsNull, ← Bool.not_eq_true, List.contains_iff_mem]
  have hread : ∀ s ∈ (ofText name).parts, holdsNull s = false := fun s hs =>
    hnull.mpr (not_mem_slashPieces (hnull.mp hname) s (List.mem_filter.mp hs).1)
  rw [holdsNull_text, List.any_eq_false] at hp ⊢
  intro s hs
  rw [child, join] at hs
  split at hs
  · simp [hread s hs]
  · rcases List.mem_append.mp hs with hs | hs
    · exact hp s hs
    · simp [hread s hs]

/-! ### Resolving -/

/-- No name of a trail holds a character. -/
def Trail.Lacks (t : Trail) (c : Char) : Prop := ∀ s ∈ t.names, c ∉ s.toList

/-- No trail that a link is known to lead to holds a character. -/
def SeenLinks.Lacks (seen : SeenLinks) (c : Char) : Prop :=
  ∀ {t u}, seen.lookup t = some (some u) → u.Lacks c

/-- What resolving has come to holds no such character. -/
def Resolved.Lacks (c : Char) : Resolved → Prop
  | .done t seen => t.Lacks c ∧ SeenLinks.Lacks seen c
  | .looping s => c ∉ s.toList

variable {t u : Trail} {seen : SeenLinks} {name : String}

theorem Trail.Lacks.down (ht : t.Lacks c) (hname : c ∉ name.toList) : (t.down name).Lacks c := by
  intro s hs
  rcases List.mem_append.mp hs with hs | hs
  · exact ht s hs
  · rwa [List.mem_singleton.mp hs]

theorem Trail.Lacks.up (hc : Inner c) (ht : t.Lacks c) : t.up.Lacks c := by
  rw [Trail.up]
  split
  · split
    · exact ht
    · exact ht.down hc.not_mem_dots
  · split
    · exact ht
    · exact ht.down hc.not_mem_dots
  · exact fun s hs => ht s (List.dropLast_subset _ hs)

theorem Trail.Lacks.text (hc : Inner c) (ht : t.Lacks c) : c ∉ t.text.toList := by
  rw [Trail.text, String.toList_append, List.mem_append, not_or]
  refine ⟨?_, not_mem_intercalate hc.not_mem_slash ht⟩
  split
  · exact hc.not_mem_slash
  · simp

theorem not_mem_joinedText (hc : Inner c) {a b : String} (ha : c ∉ a.toList) (hb : c ∉ b.toList) :
    c ∉ (joinedText a b).toList := by
  rw [joinedText]
  split
  · exact hb
  · split
    · simp [ha, hb]
    · simp [ha, hb, hc.ne_slash]

theorem SeenLinks.Lacks.cons_none (hs : SeenLinks.Lacks seen c) (t : Trail) :
    SeenLinks.Lacks ((t, none) :: seen) c := by
  intro t' u hlookup
  rw [List.lookup_cons] at hlookup
  split at hlookup
  · cases hlookup
  · exact hs hlookup

theorem SeenLinks.Lacks.cons_some (hs : SeenLinks.Lacks seen c) (t : Trail) (hu : u.Lacks c) :
    SeenLinks.Lacks ((t, some u) :: seen) c := by
  intro t' u' hlookup
  rw [List.lookup_cons] at hlookup
  split at hlookup
  · cases hlookup
    exact hu
  · exact hs hlookup

theorem not_mem_plainPath {s : String} (hs : c ∉ s.toList) :
    ∀ x ∈ (plainPath s).parts, c ∉ x.toList :=
  Host.forall_mem_plainPath fun x hx _ _ => not_mem_slashPieces hs x hx

namespace Host

/-- No link of a host has a target with a character, and no name of its working directory holds
it. -/
structure Lacks (h : Host) (c : Char) : Prop where
  link : ∀ {a target}, h.disk.node? a = some (.link target) → c ∉ target.toList
  cwd : ∀ s ∈ h.cwd, c ∉ s.toList

variable {h : Host} {p root : Path}

theorem Lacks.linkAt? (hh : h.Lacks c) {target : String} (hl : h.linkAt? t = some target) :
    c ∉ target.toList := by
  rw [Host.linkAt?] at hl
  split at hl
  · cases hl
  · split at hl
    · rename_i hn
      cases hl
      exact hh.link hn
    · cases hl

/-- A way of entering links brings no such character in. -/
def Brings (c : Char) (enter : Trail → List String → SeenLinks → Except Fault OptIn.Resolved) :
    Prop :=
  ∀ {t pieces seen r}, t.Lacks c → (∀ s ∈ pieces, c ∉ s.toList) → SeenLinks.Lacks seen c →
    enter t pieces seen = .ok r → r.Lacks c

theorem Lacks.resolveWith (hc : Inner c) (hh : h.Lacks c)
    {enter : Trail → List String → SeenLinks → Except Fault OptIn.Resolved}
    (henter : Brings c enter) : Brings c (h.resolveWith enter) := by
  intro t pieces seen r ht hpieces hseen hr
  induction pieces generalizing t seen with
  | nil =>
    cases hr
    exact ⟨ht, hseen⟩
  | cons piece rest ih =>
    have hpiece := hpieces piece List.mem_cons_self
    have hrest : ∀ s ∈ rest, c ∉ s.toList := fun s hs => hpieces s (List.mem_cons_of_mem _ hs)
    have hleft := not_mem_intercalate hc.not_mem_slash hrest
    have hnext := ht.down hpiece
    rw [Host.resolveWith] at hr
    split at hr
    · exact ih ht hrest hseen hr
    split at hr
    · exact ih (ht.up hc) hrest hseen hr
    split at hr
    · cases hr
    simp only at hr
    split at hr
    · exact ih hnext hrest hseen hr
    · rename_i target hlink
      split at hr
      · rename_i known hknown
        exact ih (hseen hknown) hrest hseen hr
      · cases hr
        exact not_mem_joinedText hc (hnext.text hc) hleft
      · -- a link that has not been met before is entered, and what comes out of it is kept
        have hstart : (if target.toList.head? = some '/' then Trail.root else t).Lacks c := by
          split
          · exact fun s hs => nomatch hs
          · exact ht
        generalize hx : enter _ _ _ = x at hr
        rcases x with f | ⟨u, seen'⟩ | s
        · cases hr
        · obtain ⟨hu, hseen'⟩ := henter hstart (not_mem_slashPieces (hh.linkAt? hlink))
            (hseen.cons_none _) hx
          exact ih hu hrest (hseen'.cons_some _ hu) hr
        · cases hr
          exact not_mem_joinedText hc (henter hstart (not_mem_slashPieces (hh.linkAt? hlink))
            (hseen.cons_none _) hx) hleft

theorem Lacks.resolveFrom (hc : Inner c) (hh : h.Lacks c) (depth : Nat) :
    Brings c (h.resolveFrom depth) := by
  induction depth with
  | zero =>
    refine hh.resolveWith hc fun ht hpieces _ hr => ?_
    cases hr
    exact not_mem_joinedText hc (ht.text hc) (not_mem_intercalate hc.not_mem_slash hpieces)
  | succ depth ih => exact hh.resolveWith hc ih

/-- **Resolving brings in no character** that is not in the path itself, in a link or in the working
directory. -/
theorem Lacks.resolve (hc : Inner c) (hh : h.Lacks c) (hp : c ∉ p.text.toList) {q : Path}
    (hq : h.resolve p = .ok q) : ∀ s ∈ q.parts, c ∉ s.toList := by
  obtain ⟨r, hr, rfl⟩ := exists_resolution hq
  have hstart : (if p.isAbsolute then Trail.root else Trail.here).Lacks c := by
    split <;> exact fun s hs => nomatch hs
  have hnone : SeenLinks.Lacks [] c := fun hlookup => by cases hlookup
  have hlacks := hh.resolveFrom hc h.depthLimit hstart (not_mem_slashPieces hp) hnone hr
  have hhere : c ∉ h.here.text.toList := Path.not_mem_text hc hh.cwd
  cases r with
  | done t seen => exact not_mem_plainPath (not_mem_joinedText hc hhere (hlacks.1.text hc))
  | looping s => exact not_mem_plainPath (not_mem_joinedText hc hhere hlacks)

/-- Nor is it brought in when a path is shown. -/
theorem Lacks.displayPath (hc : Inner c) (hh : h.Lacks c) (hp : c ∉ p.text.toList) {s : String}
    (hs : OptIn.displayPath h p root = .ok s) : c ∉ s.toList := by
  rw [OptIn.displayPath] at hs
  split at hs
  · rename_i q hseen
    cases hs
    refine Path.not_mem_text hc ?_
    rcases hq : h.resolve p with e | q'
    · rw [hq] at hseen
      cases hseen
    rcases hr : h.resolve root with e | r
    · rw [hq, hr] at hseen
      cases hseen
    rw [hq, hr] at hseen
    have hrel : q'.relativeTo? r = some q := Except.ok.inj hseen
    rw [Path.relativeTo?] at hrel
    split at hrel
    · cases hrel
      exact fun x hx => hh.resolve hc hp hq x (List.mem_of_mem_drop hx)
    · cases hrel
  · cases hs
    exact hp
  · split at hs
    · cases hs
      exact hp
    · cases hs

end Host

end OptIn
