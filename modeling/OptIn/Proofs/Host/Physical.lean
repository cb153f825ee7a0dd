import Mathlib.Data.List.Perm.Subperm
import OptIn.Proofs.Disk.Stretch
import OptIn.Proofs.Host.Checked
import OptIn.Proofs.Host.Resolving

/-!
# Resolving what is there

Resolving goes along a path by itself, and reads each link under the absolute name that it has come
to. As long as the system takes these names (`Host.Shallow`), it goes the way that the system goes:
an absolute path that leads to something resolves to the address of it, and never runs into a circle
(`resolution_of_stat`, `resolve_of_stat_absolute`). The system may follow a link several times on
its way, but never while it is following the target of the same link; that is all that resolving
needs to know to come to its end (`Entering`).
-/

namespace OptIn.Host

variable {h : Host} {links left depth : Nat} {here a b : Address} {names pieces : List String}
  {name piece target : String} {n : Node} {pending : List Address} {seen : SeenLinks}
  {t u : Trail} {rest : List String} {p : Path}

/-- Links are **shallow** when the system takes the absolute path of each of them. -/
def Shallow (h : Host) : Prop :=
  ∀ a target, h.disk.node? a = some (.link target) →
    (Path.absolute a).text.utf8ByteSize ≤ Disk.textLimit

theorem Shallow.alters {within : Address → Prop} {h' : Host} (hs : h.Shallow)
    (hg : h.Alters within h') : h'.Shallow := fun a target hl => hs a target (hg.link.mp hl)

theorem node?_holding_ne_link (directories : List Address) (files : List (Address × List UInt8))
    (a : Address) (target : String) :
    (holding directories files).disk.node? a ≠ some (.link target) := by
  intro hl
  have hmem := Disk.mem_of_node? hl
  simp [holding] at hmem

theorem shallow_holding (directories : List Address) (files : List (Address × List UInt8)) :
    (holding directories files).Shallow :=
  fun a target hl => absurd hl (node?_holding_ne_link directories files a target)

/-- An address is **spelled** out when each of its names is one that can be written in a path. -/
def Spelled (a : Address) : Prop :=
  ∀ s ∈ a, Path.ProperName s ∧ s ≠ ".." ∧ holdsNull s = false ∧ s.utf8ByteSize ≤ Disk.nameLimit

theorem spelled_root : Spelled [] := List.forall_mem_nil _

theorem Spelled.up (ha : Spelled a) : Spelled a.dropLast :=
  fun s hs => ha s (List.dropLast_subset _ hs)

theorem Spelled.down (ha : Spelled a) (hne : name ≠ "") (hdot : name ≠ ".") (hup : name ≠ "..")
    (hslash : '/' ∉ name.toList) (hnull : holdsNull name = false)
    (hshort : name.utf8ByteSize ≤ Disk.nameLimit) : Spelled (a ++ [name]) := by
  intro s hs
  rcases List.mem_append.mp hs with hs | hs
  · exact ha s hs
  · obtain rfl := List.mem_singleton.mp hs
    exact ⟨⟨hne, hdot, hslash⟩, hup, hnull, hshort⟩

theorem Spelled.notUp (ha : Spelled a) : ".." ∉ a := fun h => (ha _ h).2.1 rfl

/-- The trail that writes an address from the root. -/
abbrev trailTo (a : Address) : Trail := ⟨true, a⟩

theorem up_trailTo (ha : Spelled a) : (trailTo a).up = trailTo a.dropLast := by
  rw [Trail.up]
  rcases hlast : a.getLast? with _ | s
  · rw [List.getLast?_eq_none_iff.mp hlast]
    rfl
  · have hup : s ≠ ".." := (ha s (List.mem_of_getLast? hlast)).2.1
    simp

/-! ### Single steps -/

theorem resolveFrom_nil (h : Host) (depth : Nat) (t : Trail) (seen : SeenLinks) :
    h.resolveFrom depth t [] seen = .ok (.done t seen) := by
  cases depth <;> rfl

theorem resolveFrom_stay (hpiece : piece = "" ∨ piece = ".") :
    h.resolveFrom depth t (piece :: rest) seen = h.resolveFrom depth t rest seen := by
  have hstay : (decide (piece = "") || decide (piece = ".")) = true := by
    simpa only [Bool.or_eq_true, decide_eq_true_eq] using hpiece
  cases depth <;> rw [resolveFrom, resolveWith, if_pos hstay]

theorem resolveFrom_up :
    h.resolveFrom depth t (".." :: rest) seen = h.resolveFrom depth t.up rest seen := by
  cases depth <;> rw [resolveFrom, resolveWith, if_neg (by simp), if_pos rfl]

/-- A name that can be gone down to is refused only for a NUL. -/
theorem resolveFrom_null (hne : piece ≠ "") (hdot : piece ≠ ".") (hup : piece ≠ "..")
    (hnull : holdsNull piece = true) :
    h.resolveFrom depth t (piece :: rest) seen = .error .embeddedNull := by
  cases depth <;>
    rw [resolveFrom, resolveWith, if_neg (by simp [hne, hdot]), if_neg hup, if_pos hnull]

theorem resolveFrom_plain (hne : piece ≠ "") (hdot : piece ≠ ".") (hup : piece ≠ "..")
    (hnull : holdsNull piece = false) (hlink : h.linkAt? (t.down piece) = none) :
    h.resolveFrom depth t (piece :: rest) seen =
      h.resolveFrom depth (t.down piece) rest seen := by
  cases depth <;>
  · rw [resolveFrom, resolveWith, if_neg (by simp [hne, hdot]), if_neg hup,
      if_neg (by simp [hnull])]
    simp only [hlink]

theorem resolveFrom_known (hne : piece ≠ "") (hdot : piece ≠ ".") (hup : piece ≠ "..")
    (hnull : holdsNull piece = false) (hlink : h.linkAt? (t.down piece) = some target)
    (hseen : seen.lookup (t.down piece) = some (some u)) :
    h.resolveFrom depth t (piece :: rest) seen = h.resolveFrom depth u rest seen := by
  cases depth <;>
  · rw [resolveFrom, resolveWith, if_neg (by simp [hne, hdot]), if_neg hup,
      if_neg (by simp [hnull])]
    simp only [hlink, hseen]

/-- A new link is entered one level deeper. -/
theorem resolveFrom_enter (hne : piece ≠ "") (hdot : piece ≠ ".") (hup : piece ≠ "..")
    (hnull : holdsNull piece = false) (hlink : h.linkAt? (t.down piece) = some target)
    (hseen : seen.lookup (t.down piece) = none) :
    h.resolveFrom (depth + 1) t (piece :: rest) seen =
      match h.resolveFrom depth (if target.toList.head? = some '/' then Trail.root else t)
        (slashPieces target) ((t.down piece, none) :: seen) with
      | .error e => .error e
      | .ok (.done u seen) =>
        h.resolveFrom (depth + 1) u rest ((t.down piece, some u) :: seen)
      | .ok (.looping s) => .ok (.looping (joinedText s ("/".intercalate rest))) := by
  rw [resolveFrom, resolveWith, if_neg (by simp [hne, hdot]), if_neg hup, if_neg (by simp [hnull])]
  simp only [hlink, hseen]
  rcases h.resolveFrom depth _ (slashPieces target) _ with e | (⟨u, seen'⟩ | s) <;> rfl

/-- A link whose target is being resolved ends the way. -/
theorem resolveFrom_looping (hne : piece ≠ "") (hdot : piece ≠ ".") (hup : piece ≠ "..")
    (hnull : holdsNull piece = false) (hlink : h.linkAt? (t.down piece) = some target)
    (hseen : seen.lookup (t.down piece) = some none) :
    h.resolveFrom depth t (piece :: rest) seen =
      .ok (.looping (joinedText (t.down piece).text ("/".intercalate rest))) := by
  cases depth <;>
  · rw [resolveFrom, resolveWith, if_neg (by simp [hne, hdot]), if_neg hup,
      if_neg (by simp [hnull])]
    simp only [hlink, hseen]

theorem resolveFrom_blanks {blanks : List String} (hblanks : ∀ s ∈ blanks, s = "") :
    h.resolveFrom depth t (blanks ++ pieces) seen = h.resolveFrom depth t pieces seen := by
  induction blanks with
  | nil => rfl
  | cons s blanks ih =>
    rw [List.cons_append, resolveFrom_stay (.inl (hblanks s List.mem_cons_self)),
      ih fun s hs => hblanks s (List.mem_cons_of_mem _ hs)]

/-! ### Links on the way -/

/-- What is known of the links entered so far: where they lead, or that they are pending. -/
structure KnownLinks (h : Host) (pending : List Address) (seen : SeenLinks) : Prop where
  known : ∀ {t u}, seen.lookup t = some (some u) → ∃ here name links a n,
    t = trailTo (here ++ [name]) ∧ u = trailTo a ∧ Spelled a ∧
      h.disk.Walk .use links here [name] (.taken a n)
  pending : ∀ {t}, seen.lookup t = some none → ∃ a ∈ pending, t = trailTo a

/-- Links are **pending** while their targets are walked: each once, and none of them leads anywhere
with the number of links that may still be followed. There is room to enter all others. -/
structure Entering (h : Host) (links depth : Nat) (pending : List Address) : Prop where
  once : pending.Nodup
  isLink : ∀ a ∈ pending, ∃ target, h.disk.node? a = some (.link target)
  stuck : ∀ here name, here ++ [name] ∈ pending → h.disk.Stuck links here name
  room : h.disk.linkCount ≤ depth + pending.length

/-- Links at different addresses are no more than there are on the disk. -/
theorem length_le_linkCount (honce : pending.Nodup)
    (hlinks : ∀ a ∈ pending, ∃ target, h.disk.node? a = some (.link target)) :
    pending.length ≤ h.disk.linkCount := by
  have hsub : pending ⊆ (h.disk.entries.filter (·.2.isLink)).map (·.1) := by
    intro a ha
    obtain ⟨target, hl⟩ := hlinks a ha
    exact List.mem_map.mpr ⟨_, List.mem_filter.mpr ⟨Disk.mem_of_node? hl, rfl⟩, rfl⟩
  have hle := (List.subperm_of_subset honce hsub).length_le
  rwa [List.length_map, ← List.countP_eq_length_filter] at hle

theorem Entering.mono (he : h.Entering links depth pending) (hle : left ≤ links) :
    h.Entering left depth pending :=
  ⟨he.once, he.isLink, fun here name hmem => (he.stuck here name hmem).mono hle, he.room⟩

/-- A link that leads somewhere is not pending. -/
theorem Entering.not_mem (he : h.Entering links depth pending)
    (hwalk : h.disk.Walk .use links here [name] (.taken a n)) : here ++ [name] ∉ pending :=
  fun hmem => he.stuck here name hmem a n hwalk

/-- Such a link can be entered. -/
theorem Entering.enter (he : h.Entering links depth pending)
    (hwalk : h.disk.Walk .use links here [name] (.taken a n))
    (hl : h.disk.node? (here ++ [name]) = some (.link target)) (hle : left ≤ links)
    (hstuck : h.disk.Stuck left here name) :
    ∃ below, depth = below + 1 ∧ h.Entering left below ((here ++ [name]) :: pending) := by
  have honce : ((here ++ [name]) :: pending).Nodup :=
    List.nodup_cons.mpr ⟨he.not_mem hwalk, he.once⟩
  have hlinks : ∀ a ∈ (here ++ [name]) :: pending, ∃ target,
      h.disk.node? a = some (.link target) := by
    intro a ha
    rcases List.mem_cons.mp ha with rfl | ha
    · exact ⟨target, hl⟩
    · exact he.isLink a ha
  have hroom := he.room
  have hcount := length_le_linkCount honce hlinks
  rw [List.length_cons] at hcount
  obtain ⟨below, rfl⟩ : ∃ below, depth = below + 1 := ⟨depth - 1, by omega⟩
  refine ⟨below, rfl, honce, hlinks, fun here' name' hmem => ?_, by
    rw [List.length_cons]; omega⟩
  rcases List.mem_cons.mp hmem with heq | hmem
  · obtain ⟨rfl, hname⟩ := List.append_inj' heq rfl
    cases hname
    exact hstuck
  · exact (he.stuck here' name' hmem).mono hle

/-- Shallow links are seen under their absolute names. -/
theorem linkAt?_trailTo (hshallow : h.Shallow) (ha : Spelled a) :
    h.linkAt? (trailTo a) = some target ↔ h.disk.node? a = some (.link target) := by
  rw [linkAt?, address_root a ha.notUp]
  rcases hn : h.disk.node? a with _ | (_ | _ | target')
  · split <;> simp
  · split <;> simp
  · split <;> simp
  · have htext : (trailTo a).text = (Path.absolute a).text := rfl
    rw [htext, if_neg (Nat.not_lt.mpr (hshallow _ _ hn))]
    simp

theorem linkAt?_trailTo_of_plain (hshallow : h.Shallow) (ha : Spelled a)
    (hn : h.disk.node? a = some n) (hlink : n.isLink = false) : h.linkAt? (trailTo a) = none := by
  rw [Option.eq_none_iff_forall_ne_some]
  intro target hl
  rw [linkAt?_trailTo hshallow ha, hn] at hl
  cases hl
  cases hlink

/-! ### The whole way -/

/-- Resolving pieces behind a trail comes to an address, unless a NUL is in the way. -/
def ComesTo (h : Host) (depth : Nat) (here : Address) (pieces : List String)
    (pending : List Address) (seen : SeenLinks) (a : Address) : Prop :=
  h.resolveFrom depth (trailTo here) pieces seen = .error .embeddedNull ∨
    ∃ seen', h.resolveFrom depth (trailTo here) pieces seen = .ok (.done (trailTo a) seen') ∧
      h.KnownLinks pending seen' ∧ Spelled a

/-- Pieces **write** names when they are the same apart from empty ones, and none holds a slash. -/
structure Writes (pieces names : List String) : Prop where
  same : pieces.filter (· ≠ "") = names.filter (· ≠ "")
  noSlash : ∀ s ∈ pieces, '/' ∉ s.toList

theorem Writes.cons (hw : Writes pieces (name :: rest)) (hne : name ≠ "") :
    ∃ blanks more, pieces = blanks ++ name :: more ∧ (∀ s ∈ blanks, s = "") ∧
      '/' ∉ name.toList ∧ Writes more rest := by
  have hsame := hw.same
  rw [List.filter_cons_of_pos (by simpa using hne)] at hsame
  obtain ⟨blanks, more, rfl, hblanks, -, hmore⟩ := List.filter_eq_cons_iff.mp hsame
  have hslash := hw.noSlash
  exact ⟨blanks, more, rfl, fun s hs => by simpa using hblanks s hs, hslash name (by simp),
    hmore, fun s hs => hslash s (by simp [hs])⟩

theorem writes_slashPieces (s : String) : Writes (slashPieces s) (Disk.namesOf s) where
  same := by
    rw [Disk.namesOf]
    split <;> simp [List.filter_filter]
  noSlash _ hs := Path.noSlash_slashPieces hs

theorem knownLinks_nil (h : Host) : h.KnownLinks [] [] :=
  ⟨(fun hlookup => nomatch hlookup), (fun hlookup => nomatch hlookup)⟩

/-- A link that is entered is pending. -/
theorem KnownLinks.enter (hk : h.KnownLinks pending seen) (a : Address) :
    h.KnownLinks (a :: pending) ((trailTo a, none) :: seen) where
  known {t u} hlookup := by
    rw [List.lookup_cons] at hlookup
    split at hlookup
    · cases hlookup
    · exact hk.known hlookup
  pending {t} hlookup := by
    rw [List.lookup_cons] at hlookup
    split at hlookup
    · rename_i heq
      exact ⟨a, List.mem_cons_self, by simpa using heq⟩
    · obtain ⟨b, hb, rfl⟩ := hk.pending hlookup
      exact ⟨b, List.mem_cons_of_mem _ hb, rfl⟩

/-- A link whose target has been walked is not pending any more. -/
theorem KnownLinks.leave (hk : h.KnownLinks ((here ++ [name]) :: pending) seen) (ha : Spelled a)
    (hwalk : h.disk.Walk .use links here [name] (.taken a n)) :
    h.KnownLinks pending ((trailTo (here ++ [name]), some (trailTo a)) :: seen) where
  known {t u} hlookup := by
    rw [List.lookup_cons] at hlookup
    split at hlookup
    · rename_i heq
      cases hlookup
      exact ⟨here, name, links, a, n, by simpa using heq, rfl, ha, hwalk⟩
    · exact hk.known hlookup
  pending {t} hlookup := by
    rw [List.lookup_cons] at hlookup
    split at hlookup
    · cases hlookup
    · rename_i hne
      obtain ⟨b, hb, rfl⟩ := hk.pending hlookup
      rcases List.mem_cons.mp hb with rfl | hb
      · simp at hne
      · exact ⟨b, hb, rfl⟩

/-- With so many links, what leads to something is resolved to the address of it. -/
def GoesAlong (h : Host) (links : Nat) : Prop :=
  ∀ {here names a n pieces depth pending seen}, h.disk.Walk .use links here names (.taken a n) →
    Spelled here → Writes pieces names → h.Entering links depth pending →
    h.KnownLinks pending seen → h.ComesTo depth here pieces pending seen a

/-- A link on the way has been entered before, or it can be entered now. -/
theorem comesTo_of_link (hbelow : ∀ k < links, h.GoesAlong k) (hle : left < links)
    (hname : name ≠ "" ∧ name ≠ "." ∧ name ≠ ".." ∧ holdsNull name = false)
    (hhere : Spelled here) (hlink : h.linkAt? ((trailTo here).down name) = some target)
    (hl : h.disk.node? (here ++ [name]) = some (.link target)) {m : Node}
    (hfirst : h.disk.Walk .use links here [name] (.taken b m))
    (hsecond : h.disk.Walk .use left b rest (.taken a n)) (hpieces : Writes pieces rest)
    (he : h.Entering links depth pending) (hk : h.KnownLinks pending seen) :
    h.ComesTo depth here (name :: pieces) pending seen a := by
  obtain ⟨hne, hdot, hup, hnull⟩ := hname
  have hbehind : ∀ {seen}, Spelled b → h.KnownLinks pending seen →
      h.ComesTo depth b pieces pending seen a := fun hb hk =>
    hbelow left hle hsecond hb hpieces (he.mono hle.le) hk
  rcases hseen : seen.lookup ((trailTo here).down name) with _ | (_ | u)
  · -- the link is new: its target is found with fewer links, and not through the link itself
    obtain ⟨k, hk', hstuck, hwalk⟩ := Disk.exists_stuck hl hfirst hne hdot hup
    obtain ⟨below, rfl, he'⟩ := he.enter hfirst hl hk'.le hstuck
    have hstart : Spelled (Disk.startOf here target) := by
      rw [Disk.startOf]
      split
      · exact spelled_root
      · exact hhere
    have htrail : (if target.toList.head? = some '/' then Trail.root else trailTo here) =
        trailTo (Disk.startOf here target) := by
      rw [Disk.startOf]
      split <;> rfl
    have hinside := hbelow k hk' hwalk hstart (writes_slashPieces target) he' (hk.enter _)
    rw [ComesTo, resolveFrom_enter hne hdot hup hnull hlink hseen, htrail]
    rcases hinside with hrefused | ⟨seen', hdone, hk₁, hb⟩
    · rw [show (trailTo here).down name = trailTo (here ++ [name]) from rfl, hrefused]
      exact .inl rfl
    · rw [show (trailTo here).down name = trailTo (here ++ [name]) from rfl, hdone]
      exact hbehind hb (hk₁.leave hb hfirst)
  · -- a pending link does not lead anywhere
    obtain ⟨a', hmem, htrail⟩ := hk.pending hseen
    cases htrail
    exact absurd hmem (he.not_mem hfirst)
  · -- a link that has been entered before leads where it led then
    obtain ⟨here', name', k, b', m', htrail, rfl, hb, hwalk⟩ := hk.known hseen
    have haddress : here ++ [name] = here' ++ [name'] := congrArg Trail.names htrail
    obtain ⟨rfl, hname⟩ := List.append_inj' haddress rfl
    cases hname
    obtain ⟨rfl, -⟩ : b' = b ∧ m' = m := by simpa using hwalk.unique hfirst
    rw [ComesTo, resolveFrom_known hne hdot hup hnull hlink hseen]
    exact hbehind hb hk

/-- **Resolving goes the way of the system**, whatever number of links that takes. -/
theorem goesAlong (hshallow : h.Shallow) (links : Nat) : h.GoesAlong links := by
  -- on the number of links, and for each number on the names
  induction links using Nat.strong_induction_on with
  | _ links hbelow =>
  intro here names
  induction names generalizing here with
  | nil =>
    intro a n pieces depth pending seen hwalk hhere hpieces he hk
    cases hwalk with
    | stop hn =>
      have hblanks : ∀ s ∈ pieces, s = "" := by simpa using hpieces.same
      rw [ComesTo, ← List.append_nil pieces, resolveFrom_blanks hblanks, resolveFrom_nil]
      exact .inr ⟨seen, rfl, hk, hhere⟩
  | cons name rest ih =>
    intro a n pieces depth pending seen hwalk hhere hpieces he hk
    by_cases hempty : name = ""
    · -- an empty name need not be among the pieces
      have hrest : Writes pieces rest := ⟨by simpa [hempty] using hpieces.same, hpieces.noSlash⟩
      cases hwalk with
      | stay _ _ hwalk => exact ih hwalk hhere hrest he hk
      | up => exact absurd hempty (by decide)
      | down _ hne => exact absurd hempty hne
      | jump _ hne => exact absurd hempty hne
      | link _ hne => exact absurd hempty hne
    obtain ⟨blanks, more, rfl, hblanks, hslash, hmore⟩ := hpieces.cons hempty
    rw [ComesTo, resolveFrom_blanks hblanks]
    cases hwalk with
    | stay _ hname hwalk =>
      rw [resolveFrom_stay hname]
      exact ih hwalk hhere hmore he hk
    | up _ hwalk =>
      rw [resolveFrom_up, up_trailTo hhere]
      exact ih hwalk hhere.up hmore he hk
    | down _ hne hdot hup _ hshort hn hlink hwalk =>
      rcases hnull : holdsNull name with _ | _
      · have hnext := hhere.down hne hdot hup hslash hnull hshort
        have hplain : h.linkAt? ((trailTo here).down name) = none :=
          linkAt?_trailTo_of_plain hshallow hnext hn hlink
        rw [resolveFrom_plain hne hdot hup hnull hplain]
        exact ih hwalk hnext hmore he hk
      · exact .inl (resolveFrom_null hne hdot hup hnull)
    | jump hdir hne hdot hup _ _ hshort hl htarget hwalk =>
      rcases hnull : holdsNull name with _ | _
      · have hnext := hhere.down hne hdot hup hslash hnull hshort
        obtain ⟨left, b, m, hle, hfirst, hsecond⟩ := hwalk.split
        exact comesTo_of_link hbelow (Nat.lt_succ_of_le hle) ⟨hne, hdot, hup, hnull⟩ hhere
          ((linkAt?_trailTo hshallow hnext).mpr hl) hl
          ((Disk.walk_link_iff hdir hne hdot hup hl).mpr ⟨hshort, htarget, _, rfl, hfirst⟩)
          hsecond hmore he hk
      · exact .inl (resolveFrom_null hne hdot hup hnull)
    | link _ _ _ _ _ hpurpose => cases hpurpose

/-- An absolute path that leads to something resolves to the address of it, unless a NUL is in the
way. -/
theorem resolution_of_stat (ho : h.Orderly) (hshallow : h.Shallow) (hp : p.Proper)
    (habs : p.isAbsolute = true) (hs : h.stat p = .ok (a, n)) :
    h.resolution p = .error .embeddedNull ∨
      Spelled a ∧ ∃ seen, h.resolution p = .ok (.done (trailTo a) seen) := by
  obtain ⟨-, hwalk⟩ := (stat_eq_ok_iff ho hp).mp hs
  have hstart : h.startOf p = [] := if_pos habs
  rw [hstart, ← Path.namesOf_text_of_isAbsolute hp habs] at hwalk
  have hentering : h.Entering Disk.linkLimit h.depthLimit [] := by
    refine ⟨.nil, List.forall_mem_nil _, fun _ _ ha => absurd ha List.not_mem_nil, ?_⟩
    have hmore : h.disk.linkCount + 1 ≤ h.depthLimit :=
      Nat.le_mul_of_pos_right _ (Nat.zero_lt_succ _)
    exact Nat.le_of_succ_le hmore
  have hcomes := goesAlong hshallow _ hwalk spelled_root (writes_slashPieces p.text) hentering
    (knownLinks_nil h)
  rw [resolution, if_pos habs]
  rcases hcomes with hrefused | ⟨seen, hdone, -, ha⟩
  · exact .inl hrefused
  · exact .inr ⟨ha, seen, hdone⟩

/-- What stands at an address that is spelled out, and is no link, has no link above it. -/
theorem resolved_absolute (ho : h.Orderly) (ha : Spelled a) (hn : h.disk.node? a = some n)
    (hlink : n.isLink = false) : h.Resolved (.absolute a) where
  anchor := rfl
  proper s hs := (ha s hs).1
  noUp := ha.notUp
  noNull := Path.holdsNull_text_absolute fun s hs => (ha s hs).2.2.1
  plain {b target} hb hl := by
    obtain ⟨rest, hrest⟩ := hb
    obtain rfl : b ++ rest = a := hrest
    rcases rest with _ | ⟨s, rest⟩
    · rw [List.append_nil, hl] at hn
      cases hn
      cases hlink
    · obtain ⟨t, ht⟩ := ho.tree.directory_of_append (List.cons_ne_nil s rest) hn
      rw [ht] at hl
      cases hl

/-- **What is there resolves.** Where links are shallow, an absolute path that leads to something
resolves to the address of it, unless a NUL is in the way; it is never taken for a circle. -/
theorem resolve_of_stat_absolute (ho : h.Orderly) (hshallow : h.Shallow) (hp : p.Proper)
    (habs : p.isAbsolute = true) (hs : h.stat p = .ok (a, n)) :
    h.resolve p = .error .embeddedNull ∨ h.resolve p = .ok (.absolute a) := by
  have hn := node?_of_stat ho hp hs
  have hlink := isLink_eq_false_of_stat ho hp hs
  rcases resolution_of_stat ho hshallow hp habs hs with hrefused | ⟨ha, seen, hdone⟩
  · left
    rw [resolution] at hrefused
    rw [resolve, hrefused]
    rfl
  · right
    have hr := resolved_absolute ho ha hn hlink
    have hpath : h.pathOf (.done (trailTo a) seen) = .absolute a := hr.pathOf_eq
    have hshort : ∀ s ∈ (Path.absolute a).parts, s.utf8ByteSize ≤ Disk.nameLimit :=
      fun s hs => (ha s hs).2.2.2
    by_cases hask : (Path.absolute a).Askable
    · have hthere := hr.stat_eq ho hask hshort hn
      rw [← hpath] at hthere ⊢
      exact resolve_of_stat hdone hthere
    · -- a path that has become too long for the system is given all the same
      have htoolong : h.stat (.absolute a) =
          .error (.system .nameTooLong (Path.absolute a).text) := by
        refine stat_of_error ?_
        rw [placeOf_of_not_askable hr.proper hask, hr.noNull]
        rfl
      rw [resolution] at hdone
      rw [resolve, hdone]
      rw [pathOf] at hpath
      simp only [bind, Except.bind, pure, Except.pure, hpath, htoolong]

end OptIn.Host
