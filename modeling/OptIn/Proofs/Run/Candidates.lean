import OptIn.Driver.Builtin
import OptIn.Proofs.Host.Checked
import OptIn.Proofs.Host.Refusals
import OptIn.Proofs.Run.Selection

/-!
# Selection as a filter

Selecting candidates keeps the paths of the driver's own files and drops all others, each path at
the place where it comes first. A path that has been seen changes nothing when it comes again
(`Driver.classify_withRepeats`). The detector is asked about a path once at most, and only where the
name does not decide. Selection comes to an end exactly if every path is answered for: whether it is
a file, and whose (`Driver.exists_classify_iff`).
-/

namespace OptIn

namespace Driver

variable {d : Driver} {detect : Detector} {seen seen' ps qs : List Path} {p q : Path}
  {h : Host} {w w' : World} {cs : List Candidate}

/-! ### First places -/

/-- The paths of a list that have not been seen, each at the place where it comes first. -/
def firstsAfter : List Path → List Path → List Path
  | _, [] => []
  | seen, p :: ps =>
    if p ∈ seen then firstsAfter (p :: seen) ps else p :: firstsAfter (p :: seen) ps

theorem mem_firstsAfter : q ∈ firstsAfter seen ps ↔ q ∈ ps ∧ q ∉ seen := by
  induction ps generalizing seen with
  | nil => simp [firstsAfter]
  | cons p ps ih =>
    rw [firstsAfter]
    by_cases hq : q = p
    · subst hq
      split_ifs with hseen <;> simp [ih, hseen]
    · split_ifs <;> simp [ih, hq]

/-- The order of first places is kept. -/
theorem pairwise_firstsAfter :
    (firstsAfter seen ps).Pairwise fun p q => ps.idxOf p < ps.idxOf q := by
  induction ps generalizing seen with
  | nil => exact .nil
  | cons p ps ih =>
    have hne : ∀ q ∈ firstsAfter (p :: seen) ps, p ≠ q := fun q hq heq =>
      (mem_firstsAfter.mp hq).2 (heq ▸ List.mem_cons_self)
    have hrest : (firstsAfter (p :: seen) ps).Pairwise
        fun a b => (p :: ps).idxOf a < (p :: ps).idxOf b := by
      refine List.Pairwise.imp_of_mem (fun {a b} ha hb hab => ?_) ih
      rw [List.idxOf_cons_ne _ (hne a ha), List.idxOf_cons_ne _ (hne b hb)]
      exact Nat.succ_lt_succ hab
    rw [firstsAfter]
    split_ifs
    · exact hrest
    · refine List.pairwise_cons.mpr ⟨fun q hq => ?_, hrest⟩
      rw [List.idxOf_cons_self, List.idxOf_cons_ne _ (hne q hq)]
      exact Nat.succ_pos _

theorem firstsAfter_of_nodup (hps : ps.Nodup) (hnew : ∀ p ∈ ps, p ∉ seen) :
    firstsAfter seen ps = ps := by
  induction ps generalizing seen with
  | nil => rfl
  | cons p ps ih =>
    obtain ⟨hp, hps⟩ := List.nodup_cons.mp hps
    have hrest : ∀ q ∈ ps, q ∉ p :: seen := fun q hq hmem => by
      rcases List.mem_cons.mp hmem with rfl | hmem
      · exact hp hq
      · exact hnew q (List.mem_cons_of_mem p hq) hmem
    rw [firstsAfter, if_neg (hnew p List.mem_cons_self), ih hps hrest]

/-! ### One path -/

/-- The candidate that a path makes. -/
def candidateAt (d : Driver) (p : Path) : Candidate := { path := p, kind := d.kind }

/-- Whether a path is that of one of the driver's own files. -/
def takes (d : Driver) (detect : Detector) (h : Host) (p : Path) : Bool :=
  (h.isFile p).toOption = some true && (d.owns detect p h).toOption = some true

/-- A path is **answered for** when it is known whether it is a file, and of a file whose it is. -/
def Answered (d : Driver) (detect : Detector) (h : Host) (p : Path) : Prop :=
  ∃ file, h.isFile p = .ok file ∧ (file = true → ∃ own, d.owns detect p h = .ok own)

theorem toOption_eq_some {α : Type} {x : Except Fault α} {a : α} :
    x.toOption = some a ↔ x = .ok a := by
  cases x <;> simp [Except.toOption]

theorem owns_eq_true : d.owns detect p h = .ok true ↔
    d.accepts p = true ∨ ∃ kind, d.sniffKind = some kind ∧ detect h p = .ok (some kind) := by
  rw [owns]
  cases d.accepts p with
  | true => simp
  | false =>
    rcases d.sniffKind with _ | kind
    · simp
    · rcases detect h p with e | found <;> simp [Except.map]

theorem takes_eq_true : d.takes detect h p = true ↔
    h.isFile p = .ok true ∧ d.owns detect p h = .ok true := by
  simp [takes, toOption_eq_some]

theorem sniffs_eq_true : d.sniffs h p = true ↔
    h.isFile p = .ok true ∧ d.accepts p = false ∧ d.sniffKind ≠ none := by
  simp [sniffs, toOption_eq_some, Option.isSome_iff_ne_none, and_assoc]

theorem considered_of_mem (hp : p ∈ seen) : d.considered detect seen p h = .ok none := by
  rw [considered, if_pos (List.contains_iff_mem.mpr hp)]

/-- A path that is answered for makes a candidate exactly if it is one of the driver's own. -/
theorem considered_of_answered (hp : p ∉ seen) (ha : d.Answered detect h p) :
    d.considered detect seen p h =
      .ok (if d.takes detect h p then some (d.candidateAt p) else none) := by
  obtain ⟨file, hfile, hown⟩ := ha
  rw [considered, if_neg (by simpa using hp), hfile, takes, hfile]
  cases file with
  | false => rfl
  | true =>
    obtain ⟨own, hown⟩ := hown rfl
    rw [hown]
    cases own <;> rfl

theorem answered_of_considered {c : Option Candidate} (hp : p ∉ seen)
    (hc : d.considered detect seen p h = .ok c) : d.Answered detect h p := by
  rw [considered, if_neg (by simpa using hp)] at hc
  rcases hf : h.isFile p with e | _ | _ <;> rw [hf] at hc
  · cases hc
  · exact ⟨false, hf, fun hfile => absurd hfile (by decide)⟩
  · rcases hr : d.owns detect p h with e | own <;> rw [hr] at hc
    · cases hc
    · exact ⟨true, hf, fun _ => ⟨own, hr⟩⟩

/-- A path that is not answered for is one that cannot be looked at, or one that the detector cannot
say anything about. -/
theorem cases_of_considered_error {e : Fault} (he : d.considered detect seen p h = .error e) :
    h.isFile p = .error e ∨ d.sniffs h p = true ∧ detect h p = .error e := by
  rw [considered] at he
  split at he
  · cases he
  rcases hf : h.isFile p with f | _ | _ <;> rw [hf] at he
  · cases he
    exact .inl rfl
  · cases he
  · refine .inr ?_
    rcases hr : d.owns detect p h with f | own <;> rw [hr] at he
    · cases he
      rw [owns] at hr
      split at hr
      · cases hr
      · rename_i haccepts
        rcases hkind : d.sniffKind with _ | kind <;> rw [hkind] at hr
        · cases hr
        · refine ⟨sniffs_eq_true.mpr ⟨hf, by simpa using haccepts, by simp [hkind]⟩, ?_⟩
          rcases hd : detect h p with g | found <;> simp [hd, Except.map] at hr
          rw [hr]
    · cases he

/-! ### A list of paths -/

/-- The run of a selection in which every path is answered for. -/
theorem run_classifyAfter_of_answered (ha : ∀ p ∈ ps, p ∉ seen → d.Answered detect w.host p) :
    (d.classifyAfter detect seen ps).run w =
      (.ok (((firstsAfter seen ps).filter (d.takes detect w.host)).map d.candidateAt),
        { w with journal := w.journal ++
          ((firstsAfter seen ps).filter (d.sniffs w.host)).map .sniffed }) := by
  -- the induction is on the paths to come: those seen grow, and the host stays as it is
  induction ps generalizing seen w with
  | nil => simp [classifyAfter, firstsAfter]
  | cons p ps ih =>
    have hhost : (d.worldBehind seen p w).host = w.host := host_worldBehind d seen p w
    have hlater : ∀ q ∈ ps, q ∉ p :: seen →
        d.Answered detect (d.worldBehind seen p w).host q := fun q hq hnew => by
      rw [hhost]
      exact ha q (List.mem_cons_of_mem p hq) fun hmem => hnew (List.mem_cons_of_mem p hmem)
    have hrest := ih hlater
    rw [hhost] at hrest
    have hfirst := run_consider_eq d detect seen p w
    rw [classifyAfter]
    by_cases hp : p ∈ seen
    · rw [considered_of_mem hp] at hfirst
      rw [Action.run_bind_ok hfirst, Action.run_bind_ok hrest, firstsAfter, if_pos hp]
      simp [worldBehind, hp]
    · rw [considered_of_answered hp (ha p List.mem_cons_self hp)] at hfirst
      rw [Action.run_bind_ok hfirst, Action.run_bind_ok hrest, firstsAfter, if_neg hp,
        List.filter_cons, List.filter_cons, worldBehind]
      cases d.takes detect w.host p <;> cases d.sniffs w.host p <;> simp [hp, World.log]

theorem answered_of_classifiedAfter (hcs : d.classifiedAfter detect h seen ps = .ok cs)
    (hp : p ∈ ps) (hnew : p ∉ seen) : d.Answered detect h p := by
  induction ps generalizing seen cs with
  | nil => cases hp
  | cons q ps ih =>
    obtain ⟨c, cs', hcon, hrest⟩ : ∃ c cs', d.considered detect seen q h = .ok c ∧
        d.classifiedAfter detect h (q :: seen) ps = .ok cs' := by
      rcases cases_of_classifiedAfter_cons hcs with ⟨hcon, hrest⟩ | ⟨c, cs', hcon, -, hrest⟩
      · exact ⟨_, _, hcon, hrest⟩
      · exact ⟨_, _, hcon, hrest⟩
    by_cases hpq : p = q
    · exact answered_of_considered hnew (hpq ▸ hcon)
    · exact ih hrest ((List.mem_cons.mp hp).resolve_left hpq) (by simp [hpq, hnew])

theorem cases_of_classifiedAfter_error {e : Fault}
    (he : d.classifiedAfter detect h seen ps = .error e) :
    ∃ p ∈ ps, h.isFile p = .error e ∨ d.sniffs h p = true ∧ detect h p = .error e := by
  induction ps generalizing seen with
  | nil => cases he
  | cons p ps ih =>
    rw [classifiedAfter] at he
    rcases hcon : d.considered detect seen p h with f | c
    · rw [hcon] at he
      cases he
      exact ⟨p, List.mem_cons_self, cases_of_considered_error hcon⟩
    · rcases hrest : d.classifiedAfter detect h (p :: seen) ps with f | cs
      · rw [hcon, hrest] at he
        cases he
        obtain ⟨q, hq, hcases⟩ := ih hrest
        exact ⟨q, List.mem_cons_of_mem p hq, hcases⟩
      · rw [hcon, hrest] at he
        cases he

/-! ### Repeats -/

/-- A list **with repeats** of another: paths that have been listed are listed again further
behind. -/
inductive WithRepeats (ps : List Path) : List Path → Prop
  | same : WithRepeats ps ps
  | again {front back : List Path} {p : Path} : WithRepeats ps (front ++ back) → p ∈ front →
      WithRepeats ps (front ++ p :: back)

/-- Only which paths have been seen counts, not how often or in which order. -/
theorem classifyAfter_congr (h : ∀ p, p ∈ seen ↔ p ∈ seen') :
    d.classifyAfter detect seen ps = d.classifyAfter detect seen' ps := by
  induction ps generalizing seen seen' with
  | nil => rfl
  | cons p ps ih =>
    have hgrow : ∀ q, q ∈ p :: seen ↔ q ∈ p :: seen' := fun q => by simp [h q]
    rw [classifyAfter, classifyAfter, consider_congr (h p), ih hgrow]

theorem classifyAfter_again {front back : List Path} (hp : p ∈ front ∨ p ∈ seen) :
    d.classifyAfter detect seen (front ++ p :: back) =
      d.classifyAfter detect seen (front ++ back) := by
  induction front generalizing seen with
  | nil =>
    have hseen : p ∈ seen := hp.resolve_left List.not_mem_nil
    have hsame : ∀ q, q ∈ p :: seen ↔ q ∈ seen := fun q => by
      rw [List.mem_cons, or_iff_right_of_imp fun hq => hq ▸ hseen]
    rw [List.nil_append, classifyAfter, consider_of_mem hseen, pure_bind,
      classifyAfter_congr hsame]
    simp
  | cons q front ih =>
    -- the path may be this first one, and then it has been seen when it comes again
    have hfront : p ∈ front ∨ p ∈ q :: seen := by
      rw [List.mem_cons, or_assoc] at hp
      rw [List.mem_cons]
      tauto
    rw [List.cons_append, List.cons_append, classifyAfter, classifyAfter, ih hfront]

/-- Repeats change nothing. -/
theorem classify_withRepeats (hqs : WithRepeats ps qs) :
    d.classify detect qs = d.classify detect ps := by
  induction hqs with
  | same => rfl
  | again _ hp ih => rw [← ih, classify, classify, classifyAfter_again (.inl hp)]

/-! ### What is selected -/

/-- What the detector is **asked** about on the way: files whose names say nothing, each once, in
the order of first places. Nothing but that is noted. -/
structure Asks (d : Driver) (ps : List Path) (w w' : World) (qs : List Path) : Prop where
  behind : w' = { w with journal := w.journal ++ qs.map .sniffed }
  ordered : qs.Pairwise fun a b => ps.idxOf a < ps.idxOf b
  only : ∀ q ∈ qs,
    q ∈ ps ∧ w.host.isFile q = .ok true ∧ d.accepts q = false ∧ d.sniffKind ≠ none

/-- What a selection that comes to its end **selects**. -/
structure Selects (d : Driver) (detect : Detector) (ps : List Path) (w w' : World)
    (cs : List Candidate) : Prop where
  /-- The candidates are made by the files that the driver accepts by their names and those that
  show the kind it looks for. -/
  mem_iff : ∀ c, c ∈ cs ↔ ∃ p ∈ ps, w.host.isFile p = .ok true ∧
    (d.accepts p = true ∨ ∃ kind, d.sniffKind = some kind ∧ detect w.host p = .ok (some kind)) ∧
    c = { path := p, kind := d.kind, options := [] }
  /-- They stand in the order of first places, so that no path makes two of them. -/
  ordered : cs.Pairwise fun a b => ps.idxOf a.path < ps.idxOf b.path
  /-- The detector has been asked about all files whose names say nothing. -/
  asked : ∃ qs, d.Asks ps w w' qs ∧ ∀ q ∈ ps, w.host.isFile q = .ok true →
    d.accepts q = false → d.sniffKind ≠ none → q ∈ qs

/-- Files are looked into one after another, up to where the selection ends. -/
theorem exists_run_classifyAfter (d : Driver) (detect : Detector) (seen ps : List Path)
    (w : World) : ∃ x qs, (d.classifyAfter detect seen ps).run w =
        (x, { w with journal := w.journal ++ qs.map .sniffed }) ∧
      qs <+: (firstsAfter seen ps).filter (d.sniffs w.host) := by
  induction ps generalizing seen w with
  | nil => exact ⟨.ok [], [], by simp [classifyAfter], List.nil_prefix⟩
  | cons p ps ih =>
    obtain ⟨x, qs, hrest, hprefix⟩ := ih (p :: seen) (d.worldBehind seen p w)
    rw [host_worldBehind] at hprefix
    have hfirst := run_consider_eq d detect seen p w
    -- what is noted of the first path, and what is left to look into behind it
    obtain ⟨front, hfront, hsplit⟩ : ∃ front : List Path,
        d.worldBehind seen p w = { w with journal := w.journal ++ front.map .sniffed } ∧
        (firstsAfter seen (p :: ps)).filter (d.sniffs w.host) =
          front ++ (firstsAfter (p :: seen) ps).filter (d.sniffs w.host) := by
      rw [worldBehind, firstsAfter]
      by_cases hp : p ∈ seen
      · exact ⟨[], by simp [hp], by simp [hp]⟩
      · cases hsniffs : d.sniffs w.host p with
        | false => exact ⟨[], by simp, by simp [hp, hsniffs]⟩
        | true => exact ⟨[p], by simp [hp, World.log], by simp [hp, hsniffs]⟩
    rw [hfront] at hfirst hrest
    rw [hsplit, classifyAfter]
    rcases hc : d.considered detect seen p w.host with e | c
    · rw [hc] at hfirst
      rw [Action.run_bind_error hfirst]
      exact ⟨.error e, front, rfl, List.prefix_append _ _⟩
    · rw [hc] at hfirst
      rw [Action.run_bind_ok hfirst]
      refine ⟨x.map (c.toList ++ ·), front ++ qs, ?_, List.prefix_append_right_inj _ |>.mpr hprefix⟩
      rcases x with e | cs
      · rw [Action.run_bind_error hrest]
        simp [Except.map]
      · rw [Action.run_bind_ok hrest]
        simp [Except.map]

theorem asks_of_prefix (hqs : qs <+: (firstsAfter [] ps).filter (d.sniffs w.host)) :
    d.Asks ps w { w with journal := w.journal ++ qs.map .sniffed } qs := by
  refine ⟨rfl, (pairwise_firstsAfter.filter _).sublist hqs.sublist, fun q hq => ?_⟩
  have hmem := hqs.subset hq
  rw [List.mem_filter, mem_firstsAfter, sniffs_eq_true] at hmem
  exact ⟨hmem.1.1, hmem.2⟩

/-- Whatever comes of it, a selection asks sparingly. -/
theorem exists_asks {x : Except Fault (List Candidate)}
    (hrun : (d.classify detect ps).run w = (x, w')) : ∃ qs, d.Asks ps w w' qs := by
  obtain ⟨y, qs, hclassify, hprefix⟩ := exists_run_classifyAfter d detect [] ps w
  rw [classify, hclassify] at hrun
  cases hrun
  exact ⟨qs, asks_of_prefix hprefix⟩

theorem selects_of_answered (ha : ∀ p ∈ ps, d.Answered detect w.host p)
    (hrun : (d.classify detect ps).run w = (.ok cs, w')) : d.Selects detect ps w w' cs := by
  rw [classify, run_classifyAfter_of_answered fun p hp _ => ha p hp] at hrun
  cases hrun
  refine ⟨fun c => ?_, ?_, _, asks_of_prefix (List.prefix_refl _),
    fun q hq hfile hname hkind => ?_⟩
  · simp only [List.mem_map, List.mem_filter, mem_firstsAfter, takes_eq_true, owns_eq_true,
      List.not_mem_nil, not_false_eq_true, and_true]
    constructor
    · rintro ⟨p, ⟨hp, hfile, howns⟩, rfl⟩
      exact ⟨p, hp, hfile, howns, rfl⟩
    · rintro ⟨p, hp, hfile, howns, rfl⟩
      exact ⟨p, ⟨hp, hfile, howns⟩, rfl⟩
  · exact List.pairwise_map.mpr (pairwise_firstsAfter.filter _)
  · rw [List.mem_filter, mem_firstsAfter, sniffs_eq_true]
    exact ⟨⟨hq, List.not_mem_nil⟩, hfile, hname, hkind⟩

/-- What has been selected is selected again, and all of it. -/
theorem run_classify_again (ha : ∀ p ∈ ps, d.Answered detect w.host p)
    (hrun : (d.classify detect ps).run w = (.ok cs, w')) {v : World} (hv : v.host = w.host) :
    ∃ v', (d.classify detect (cs.map (·.path))).run v = (.ok cs, v') := by
  rw [classify, run_classifyAfter_of_answered fun p hp _ => ha p hp] at hrun
  cases hrun
  generalize hown : (firstsAfter [] ps).filter (d.takes detect w.host) = own
  have hpaths : (own.map d.candidateAt).map (·.path) = own := by
    simp [Function.comp_def, candidateAt]
  have htakes : ∀ p ∈ own, p ∈ ps ∧ d.takes detect w.host p = true := fun p hp => by
    rw [← hown, List.mem_filter, mem_firstsAfter] at hp
    exact ⟨hp.1.1, hp.2⟩
  have hnodup : own.Nodup := by
    rw [← hown]
    exact (pairwise_firstsAfter.imp fun hlt heq => absurd (heq ▸ hlt) (Nat.lt_irrefl _)).filter _
  have hanswered : ∀ p ∈ own, p ∉ [] → d.Answered detect v.host p := fun p hp _ =>
    hv ▸ ha p (htakes p hp).1
  rw [hpaths, classify, run_classifyAfter_of_answered hanswered,
    firstsAfter_of_nodup hnodup fun p _ => List.not_mem_nil, hv,
    List.filter_eq_self.mpr fun p hp => (htakes p hp).2]
  exact ⟨_, rfl⟩

theorem exists_classify_iff : (∃ cs w', (d.classify detect ps).run w = (.ok cs, w')) ↔
    ∀ p ∈ ps, d.Answered detect w.host p := by
  constructor
  · rintro ⟨cs, w', hrun⟩ p hp
    obtain ⟨v, hclassify, -⟩ := run_classifyAfter d detect [] ps w
    have hcs : d.classifiedAfter detect w.host [] ps = .ok cs :=
      congrArg Prod.fst (hclassify.symm.trans hrun)
    exact answered_of_classifiedAfter hcs hp List.not_mem_nil
  · exact fun ha => ⟨_, _, run_classifyAfter_of_answered fun p hp _ => ha p hp⟩

/-- **Selection is a filter.** It comes to an end exactly if every path is answered for, and fails
only with a path that is too long to be looked at or with what the detector fails with. When it
comes to an end, it has selected the driver's own files in the order of their first places, each
once, with the driver's kind and no arguments. In any case the detector has been asked once at most
about a file, where its name says nothing. Selecting from what has been selected gives the same
again, and repeats change nothing at all. -/
theorem classify_filters (d : Driver) (detect : Detector) (ps : List Path) (w : World) :
    ((∃ cs w', (d.classify detect ps).run w = (.ok cs, w')) ↔
      ∀ p ∈ ps, d.Answered detect w.host p) ∧
    (∀ e w', (d.classify detect ps).run w = (.error e, w') →
      (∃ qs, d.Asks ps w w' qs) ∧
        ∃ p ∈ ps, w.host.isFile p = .error e ∧ e = .system .nameTooLong p.text ∨
          d.sniffs w.host p = true ∧ detect w.host p = .error e) ∧
    (∀ cs w', (d.classify detect ps).run w = (.ok cs, w') →
      d.Selects detect ps w w' cs ∧
        ∀ v : World, v.host = w.host →
          ∃ v', (d.classify detect (cs.map (·.path))).run v = (.ok cs, v')) ∧
    ∀ qs, WithRepeats ps qs → d.classify detect qs = d.classify detect ps := by
  refine ⟨exists_classify_iff, ?_, ?_, fun qs => classify_withRepeats⟩
  · intro e w' hrun
    obtain ⟨v, hclassify, -⟩ := run_classifyAfter d detect [] ps w
    have he : d.classifiedAfter detect w.host [] ps = .error e :=
      congrArg Prod.fst (hclassify.symm.trans hrun)
    obtain ⟨p, hp, hcases⟩ := cases_of_classifiedAfter_error he
    exact ⟨exists_asks hrun, p, hp, hcases.imp_left fun hf => ⟨hf, Host.nameTooLong_of_isFile hf⟩⟩
  · intro cs w' hrun
    have ha := exists_classify_iff.mp ⟨cs, w', hrun⟩
    exact ⟨selects_of_answered ha hrun, fun v hv => run_classify_again ha hrun hv⟩

/-- A file that is known by its first line, one that is known by its name, one that is neither, a
directory and a path of nothing, with repeats. -/
theorem classify_filters_sample : ∃ (w w' : World) (cs : List Candidate),
    let file (name : String) : Path := .absolute ["r", name]
    let ps := [file "tool", file "gone.py", file "a.py", file "d.py", file "tool", file "notes"]
    (python.classify shebangDetector ps).run w = (.ok cs, w') ∧
    cs.map (·.path) = [file "tool", file "a.py"] ∧
    python.Selects shebangDetector ps w w' cs ∧
    (∃ v', (python.classify shebangDetector (cs.map (·.path))).run w = (.ok cs, v')) ∧
    python.classify shebangDetector (ps ++ [file "a.py"]) = python.classify shebangDetector ps := by
  generalize hw : (⟨.holding [["r"], ["r", "d.py"]] [(["r", "a.py"], []), (["r", "notes"], []),
    (["r", "tool"], "#!/usr/bin/env python3\n".toUTF8.toList)], []⟩ : World) = w
  generalize hps : ["tool", "gone.py", "a.py", "d.py", "tool", "notes"].map
    (fun name => Path.absolute ["r", name]) = ps
  have hx : (((python.classify shebangDetector ps).run w).1.toOption.map fun cs =>
      cs.map (·.path)) = some [.absolute ["r", "tool"], .absolute ["r", "a.py"]] := by
    subst hw hps
    decide +kernel
  rcases hrun : (python.classify shebangDetector ps).run w with ⟨_ | cs, w'⟩
  · rw [hrun] at hx
    cases hx
  rw [hrun] at hx
  have hpaths : cs.map (·.path) = [.absolute ["r", "tool"], .absolute ["r", "a.py"]] :=
    Option.some.inj hx
  obtain ⟨-, -, hselects, hrepeats⟩ := classify_filters python shebangDetector ps w
  obtain ⟨hselected, hagain⟩ := hselects cs w' hrun
  refine ⟨w, w', cs, ?_⟩
  subst hps
  refine ⟨hrun, hpaths, hselected, hagain w rfl, hrepeats _ ?_⟩
  exact .again (by rw [List.append_nil]; exact .same) (by simp)

/-- A path that is too long as a whole ends the selection, though all its names are short. -/
theorem classify_longPath :
    let w : World := ⟨.holding [["r"]] [(["r", "a.py"], [])], []⟩
    let p : Path := .absolute ["r", "a.py"]
    let long : Path := .absolute (List.replicate 2048 "d")
    (∀ s ∈ long.parts, s.utf8ByteSize ≤ 255) ∧
      ((python.classify shebangDetector [p]).run w).1.toOption =
        some [{ path := p, kind := .python }] ∧
      ((python.classify shebangDetector [long, p]).run w).1 =
        .error (.system .nameTooLong long.text) := by
  intro w p long
  have hname : ∀ s ∈ long.parts, s = "d" := fun s hs => List.eq_of_mem_replicate hs
  have hproper : long.Proper := fun s hs => hname s hs ▸ by decide
  have hnull : holdsNull long.text = false :=
    Path.holdsNull_text_absolute fun s hs => hname s hs ▸ by decide
  have hlong : Disk.textLimit < long.text.utf8ByteSize := by
    rw [Path.utf8ByteSize_text_replicate]
    decide
  have hconsidered : python.considered shebangDetector [] long w.host =
      .error (.system .nameTooLong long.text) := by
    rw [considered, Host.isFile_of_not_askable w.host hproper hnull
      fun ha => Nat.not_le.mpr hlong ha.short]
    rfl
  refine ⟨fun s hs => hname s hs ▸ by decide, by decide +kernel, ?_⟩
  have hrun := run_consider_eq python shebangDetector [] long w
  rw [hconsidered] at hrun
  rw [classify, classifyAfter, Action.run_bind_error hrun]

end Driver

end OptIn
