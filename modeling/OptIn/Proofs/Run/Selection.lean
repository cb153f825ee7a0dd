import OptIn.Proofs.Host.Files
import OptIn.Selection

/-!
# Which paths make candidates

Selecting candidates looks at the host and leaves it alone, so what a path makes is a function of
the host (`Driver.considered`). Two hosts on which a path is the same file, or no file on either,
select alike (`considered_congr`).
-/

namespace OptIn

namespace Driver

variable {d : Driver} {detect : Detector} {seen : List Path} {p : Path} {h h' : Host} {w : World}

/-- Whether a file is the driver's own, on a host. -/
def owns (d : Driver) (detect : Detector) (p : Path) (h : Host) : Except Fault Bool :=
  if d.accepts p then .ok true
  else
    match d.sniffKind with
    | none => .ok false
    | some kind => (detect h p).map fun found => found = some kind

/-- What a path makes on a host, after others that have been seen. -/
def considered (d : Driver) (detect : Detector) (seen : List Path) (p : Path) (h : Host) :
    Except Fault (Option Candidate) :=
  if seen.contains p then .ok none
  else do
    let file ← h.isFile p
    if file then
      let relevant ← d.owns detect p h
      return if relevant then some { path := p, kind := d.kind } else none
    else return none

/-- The candidates that paths make on a host, after others that have been seen. -/
def classifiedAfter (d : Driver) (detect : Detector) (h : Host) :
    List Path → List Path → Except Fault (List Candidate)
  | _, [] => return []
  | seen, p :: ps => do
    let c ← d.considered detect seen p h
    let cs ← classifiedAfter d detect h (p :: seen) ps
    return c.toList ++ cs

/-- Whether the detector is asked about a path: only about a file whose name says nothing, and only
for a driver that goes by what is found. -/
def sniffs (d : Driver) (h : Host) (p : Path) : Bool :=
  (h.isFile p).toOption = some true && !d.accepts p && d.sniffKind.isSome

/-- The world behind a path, after others that have been seen. -/
def worldBehind (d : Driver) (seen : List Path) (p : Path) (w : World) : World :=
  if !seen.contains p && d.sniffs w.host p then w.log (.sniffed p) else w

theorem host_worldBehind (d : Driver) (seen : List Path) (p : Path) (w : World) :
    (d.worldBehind seen p w).host = w.host := by
  rw [worldBehind]
  split <;> rfl

/-- A file whose name says nothing is looked into, if the driver goes by what is found. -/
theorem run_isRelevant (d : Driver) (detect : Detector) (p : Path) (w : World) :
    (d.isRelevant detect p).run w = (d.owns detect p w.host,
      if !d.accepts p && d.sniffKind.isSome then w.log (.sniffed p) else w) := by
  rw [isRelevant, owns]
  cases d.accepts p with
  | true => rfl
  | false =>
    cases d.sniffKind with
    | none => rfl
    | some kind =>
      simp only [Bool.false_eq_true, if_false, Bool.not_false, Option.isSome_some, Bool.and_self,
        if_true]
      rw [Action.run_bind_ok (World.run_record _ w)]
      have hask : (World.ask (detect · p)).run (w.log (.sniffed p)) =
          (detect w.host p, w.log (.sniffed p)) := rfl
      rcases hd : detect w.host p with e | found
      · rw [hd] at hask
        rw [Action.run_bind_error hask]
        rfl
      · rw [hd] at hask
        rw [Action.run_bind_ok hask]
        rfl

/-- A path that has been seen is not looked at. -/
theorem consider_of_mem (hp : p ∈ seen) : d.consider detect seen p = pure none := by
  rw [consider, if_pos (List.contains_iff_mem.mpr hp)]

/-- What is made of a path depends on whether it has been seen, not on others. -/
theorem consider_congr {seen' : List Path} (h : p ∈ seen ↔ p ∈ seen') :
    d.consider detect seen p = d.consider detect seen' p := by
  have hcontains : seen.contains p = seen'.contains p := by
    rw [Bool.eq_iff_iff]
    simpa using h
  rw [consider, consider, hcontains]

theorem run_consider_eq (d : Driver) (detect : Detector) (seen : List Path) (p : Path)
    (w : World) : (d.consider detect seen p).run w =
      (d.considered detect seen p w.host, d.worldBehind seen p w) := by
  rw [consider, considered, worldBehind, sniffs]
  cases seen.contains p with
  | true => rfl
  | false =>
    rw [if_neg (by simp), if_neg (by simp), candidate?, Action.run_bind, World.run_ask]
    rcases w.host.isFile p with e | _ | _
    · rfl
    · rfl
    · simp only [if_true]
      rw [Action.run_bind, run_isRelevant]
      rcases d.owns detect p w.host with e | own <;> simp [Except.toOption] <;> rfl

theorem run_consider (d : Driver) (detect : Detector) (seen : List Path) (p : Path) (w : World) :
    ∃ w', (d.consider detect seen p).run w = (d.considered detect seen p w.host, w') ∧
      w'.host = w.host :=
  ⟨_, run_consider_eq d detect seen p w, host_worldBehind d seen p w⟩

theorem run_classifyAfter (d : Driver) (detect : Detector) (seen ps : List Path) (w : World) :
    ∃ w', (d.classifyAfter detect seen ps).run w = (d.classifiedAfter detect w.host seen ps, w') ∧
      w'.host = w.host := by
  induction ps generalizing seen w with
  | nil => exact ⟨w, rfl, rfl⟩
  | cons p ps ih =>
    rw [classifyAfter, classifiedAfter]
    obtain ⟨w₁, hrun, hhost⟩ := run_consider d detect seen p w
    obtain ⟨w₂, hrest, hhost₂⟩ := ih (p :: seen) w₁
    rw [hhost] at hrest hhost₂
    rcases hc : d.considered detect seen p w.host with e | c
    · rw [hc] at hrun
      rw [Action.run_bind_error hrun]
      exact ⟨w₁, rfl, hhost⟩
    · rw [hc] at hrun
      rw [Action.run_bind_ok hrun]
      rcases hcs : d.classifiedAfter detect w.host (p :: seen) ps with e | cs
      · rw [hcs] at hrest
        rw [Action.run_bind_error hrest]
        exact ⟨w₂, rfl, hhost₂⟩
      · rw [hcs] at hrest
        rw [Action.run_bind_ok hrest]
        exact ⟨w₂, rfl, hhost₂⟩

/-! ### Hosts on which paths make the same -/

theorem considered_congr (hfile : h'.isFile p = h.isFile p)
    (hdetect : h.isFile p = .ok true → detect h' p = detect h p) :
    d.considered detect seen p h' = d.considered detect seen p h := by
  rw [considered, considered, hfile]
  rcases hf : h.isFile p with e | _ | _
  · rfl
  · rfl
  · rw [owns, owns, hdetect hf]

/-- What a path makes is at that path, and a file of the driver's kind. -/
theorem eq_of_considered {c : Candidate} (hc : d.considered detect seen p h = .ok (some c)) :
    c = { path := p, kind := d.kind } ∧ p ∉ seen ∧ h.isFile p = .ok true := by
  rw [considered] at hc
  split at hc
  · cases hc
  · rename_i hseen
    rcases hf : h.isFile p with e | _ | _
    · rw [hf] at hc
      cases hc
    · rw [hf] at hc
      cases hc
    · rw [hf] at hc
      rcases hr : d.owns detect p h with e | _ | _
      · rw [hr] at hc
        cases hc
      · rw [hr] at hc
        cases hc
      · rw [hr] at hc
        cases hc
        exact ⟨rfl, by simpa using hseen, rfl⟩

theorem classifiedAfter_of_none {ps : List Path}
    (hc : d.considered detect seen p h = .ok none) :
    d.classifiedAfter detect h seen (p :: ps) = d.classifiedAfter detect h (p :: seen) ps := by
  rw [classifiedAfter, hc]
  rcases d.classifiedAfter detect h (p :: seen) ps with e | cs <;> rfl

theorem classifiedAfter_of_some {ps : List Path} {c : Candidate}
    (hc : d.considered detect seen p h = .ok (some c)) :
    d.classifiedAfter detect h seen (p :: ps) =
      (d.classifiedAfter detect h (p :: seen) ps).map (c :: ·) := by
  rw [classifiedAfter, hc]
  rcases d.classifiedAfter detect h (p :: seen) ps with e | cs <;> rfl

theorem exists_of_classifiedAfter_cons {ps : List Path} {c : Candidate} {cs : List Candidate}
    (hc : d.considered detect seen p h = .ok (some c))
    (hcs : d.classifiedAfter detect h seen (p :: ps) = .ok cs) :
    ∃ cs', cs = c :: cs' ∧ d.classifiedAfter detect h (p :: seen) ps = .ok cs' := by
  rw [classifiedAfter_of_some hc] at hcs
  rcases hrest : d.classifiedAfter detect h (p :: seen) ps with e | cs'
  · rw [hrest] at hcs
    cases hcs
  · rw [hrest] at hcs
    cases hcs
    exact ⟨cs', rfl, rfl⟩

/-- A path makes no candidate, or the first one. -/
theorem cases_of_classifiedAfter_cons {ps : List Path} {cs : List Candidate}
    (hcs : d.classifiedAfter detect h seen (p :: ps) = .ok cs) :
    d.considered detect seen p h = .ok none ∧ d.classifiedAfter detect h (p :: seen) ps = .ok cs ∨
      ∃ c cs', d.considered detect seen p h = .ok (some c) ∧ cs = c :: cs' ∧
        d.classifiedAfter detect h (p :: seen) ps = .ok cs' := by
  rcases hc : d.considered detect seen p h with e | _ | c
  · rw [classifiedAfter, hc] at hcs
    cases hcs
  · exact .inl ⟨rfl, (classifiedAfter_of_none hc).symm.trans hcs⟩
  · obtain ⟨cs', rfl, hrest⟩ := exists_of_classifiedAfter_cons hc hcs
    exact .inr ⟨c, cs', rfl, rfl, hrest⟩

theorem classifiedAfter_congr {ps : List Path}
    (hps : ∀ p ∈ ps, ∀ seen, d.considered detect seen p h' = d.considered detect seen p h) :
    d.classifiedAfter detect h' seen ps = d.classifiedAfter detect h seen ps := by
  induction ps generalizing seen with
  | nil => rfl
  | cons p ps ih =>
    rw [classifiedAfter, classifiedAfter, hps p List.mem_cons_self,
      ih fun q hq => hps q (List.mem_cons_of_mem _ hq)]

/-! ### Detection by the first line -/

theorem exists_owns (hf : h.isFile p = .ok true) : ∃ b, d.owns shebangDetector p h = .ok b := by
  obtain ⟨a, bytes, x, t, hs⟩ := Host.isFile_eq_true_iff.mp hf
  rw [owns]
  split
  · exact ⟨true, rfl⟩
  · rcases d.sniffKind with _ | kind
    · exact ⟨false, rfl⟩
    · simp only
      rw [shebangDetector_of_stat hs]
      exact ⟨_, rfl⟩

theorem exists_considered (d : Driver) (seen : List Path) (hf : ∃ b, h.isFile p = .ok b) :
    ∃ c, d.considered shebangDetector seen p h = .ok c := by
  obtain ⟨b, hf⟩ := hf
  rw [considered]
  split
  · exact ⟨none, rfl⟩
  · rw [hf]
    cases b with
    | false => exact ⟨none, rfl⟩
    | true =>
      obtain ⟨b', hb'⟩ := exists_owns (d := d) hf
      rw [hb']
      exact ⟨_, rfl⟩

/-- Selecting by first lines comes to its end when each path is known to be a file or not. -/
theorem exists_classifiedAfter (d : Driver) (seen : List Path) {ps : List Path}
    (hps : ∀ p ∈ ps, ∃ b, h.isFile p = .ok b) :
    ∃ cs, d.classifiedAfter shebangDetector h seen ps = .ok cs := by
  induction ps generalizing seen with
  | nil => exact ⟨[], rfl⟩
  | cons p ps ih =>
    obtain ⟨c, hc⟩ := exists_considered d seen (hps p List.mem_cons_self)
    obtain ⟨cs, hcs⟩ := ih (p :: seen) fun q hq => hps q (List.mem_cons_of_mem _ hq)
    exact ⟨c.toList ++ cs, by rw [classifiedAfter, hc, hcs]; rfl⟩

theorem detect_eq_of_read (hread : h'.read p = h.read p) :
    shebangDetector h' p = shebangDetector h p := by
  rw [shebangDetector, shebangDetector, hread]

theorem mem_of_mem_classifiedAfter {ps : List Path} {cs : List Candidate} {c : Candidate}
    (hcs : d.classifiedAfter detect h seen ps = .ok cs) (hc : c ∈ cs) :
    c.path ∈ ps ∧ h.isFile c.path = .ok true := by
  induction ps generalizing seen cs with
  | nil =>
    cases hcs
    cases hc
  | cons p ps ih =>
    rcases cases_of_classifiedAfter_cons hcs with ⟨-, hrest⟩ | ⟨c', cs', hcon, rfl, hrest⟩
    · obtain ⟨hmem, hf⟩ := ih hrest hc
      exact ⟨List.mem_cons_of_mem _ hmem, hf⟩
    · rcases List.mem_cons.mp hc with rfl | hc
      · obtain ⟨rfl, -, hf⟩ := eq_of_considered hcon
        exact ⟨List.mem_cons_self, hf⟩
      · obtain ⟨hmem, hf⟩ := ih hrest hc
        exact ⟨List.mem_cons_of_mem _ hmem, hf⟩

/-- Each path makes one candidate at most. -/
theorem pairwise_of_classifiedAfter {ps : List Path} {cs : List Candidate}
    (hcs : d.classifiedAfter detect h seen ps = .ok cs) :
    cs.Pairwise (·.path ≠ ·.path) ∧ ∀ c ∈ cs, c.path ∉ seen := by
  induction ps generalizing seen cs with
  | nil =>
    cases hcs
    exact ⟨.nil, fun _ hc => nomatch hc⟩
  | cons p ps ih =>
    rcases cases_of_classifiedAfter_cons hcs with ⟨-, hrest⟩ | ⟨c', cs', hcon, rfl, hrest⟩
    · obtain ⟨hpair, hseen⟩ := ih hrest
      exact ⟨hpair, fun c hc hmem => hseen c hc (List.mem_cons_of_mem _ hmem)⟩
    · obtain ⟨rfl, hnew, -⟩ := eq_of_considered hcon
      obtain ⟨hpair, hseen⟩ := ih hrest
      refine ⟨List.pairwise_cons.mpr ⟨fun c hc heq => ?_, hpair⟩, fun c hc hmem => ?_⟩
      · exact hseen c hc (heq ▸ List.mem_cons_self)
      · rcases List.mem_cons.mp hc with rfl | hc
        · exact hnew hmem
        · exact hseen c hc (List.mem_cons_of_mem _ hmem)

end Driver

end OptIn
