import OptIn.Proofs.Host.Elsewhere
import OptIn.Proofs.Run.Course
import OptIn.Proofs.Run.Totals

/-!
# Runs in another working directory

An action respects a relation between states if from related states it comes to the same result and
to related states (`Action.Respects`). Everything that a run does on absolute paths respects the
relation between a world and the same world elsewhere, as long as its runner does: only the query of
a tool's version is performed where the run was started, and `Event.anywhere` leaves that out of the
journal. So a run in a root that is given absolutely comes to the same from everywhere
(`DriverRun.Anywhere.respects_run`).
-/

namespace OptIn

/-! ### Actions that respect a relation -/

/-- An action **respects** a relation between states: from related states it comes to the same
result, and to related states. -/
def Action.Respects {σ α : Type} (R : σ → σ → Prop) (x : Action σ α) : Prop :=
  ∀ ⦃s s'⦄, R s s' → (x.run s').1 = (x.run s).1 ∧ R (x.run s).2 (x.run s').2

namespace Action.Respects

variable {σ τ α β : Type} {R : σ → σ → Prop} {S : τ → τ → Prop} {x : Action σ α}
  {f : α → Action σ β}

theorem pure (a : α) : Respects R (Pure.pure a : Action σ α) := fun _ _ hs => ⟨rfl, hs⟩

theorem throw (e : Fault) : Respects R (MonadExceptOf.throw e : Action σ α) :=
  fun _ _ hs => ⟨rfl, hs⟩

theorem ofExcept (y : Except Fault α) : Respects R (Action.ofExcept y : Action σ α) :=
  fun _ _ hs => ⟨rfl, hs⟩

/-- What a run comes to, a run from a related state comes to. -/
theorem exists_run {s s' t : σ} {y : Except Fault α} (hx : Respects R x) (hs : R s s')
    (hrun : x.run s = (y, t)) : ∃ t', x.run s' = (y, t') ∧ R t t' := by
  obtain ⟨hresult, hstate⟩ := hx hs
  rcases hrun' : x.run s' with ⟨y', t'⟩
  rw [hrun, hrun'] at hresult hstate
  obtain rfl : y' = y := hresult
  exact ⟨t', rfl, hstate⟩

theorem bind (hx : Respects R x) (hf : ∀ a s t, x.run s = (.ok a, t) → Respects R (f a)) :
    Respects R (x >>= f) := by
  intro s s' hs
  rcases hrun : x.run s with ⟨e | a, t⟩
  · obtain ⟨t', hrun', hstate⟩ := hx.exists_run hs hrun
    rw [run_bind_error hrun, run_bind_error hrun']
    exact ⟨rfl, hstate⟩
  · obtain ⟨t', hrun', hstate⟩ := hx.exists_run hs hrun
    rw [run_bind_ok hrun, run_bind_ok hrun']
    exact hf a s t hrun hstate

theorem attempt (hx : Respects R x) : Respects R x.attempt := by
  intro s s' hs
  obtain ⟨hresult, hstate⟩ := hx hs
  rw [run_attempt, run_attempt]
  exact ⟨congrArg Except.ok hresult, hstate⟩

theorem within {part : τ → σ} {put : σ → τ → τ} (hx : Respects R x)
    (hpart : ∀ {t t'}, S t t' → R (part t) (part t'))
    (hput : ∀ {s s' t t'}, S t t' → R s s' → S (put s t) (put s' t')) :
    Respects S (x.within part put) := by
  intro t t' ht
  obtain ⟨hresult, hstate⟩ := hx (hpart ht)
  rw [run_within, run_within]
  exact ⟨hresult, hput ht hstate⟩

end Action.Respects

open OptIn.Action (Respects)
open Invoker (Invocation)

/-! ### Changes of the host -/

namespace Host

variable {p : Path}

theorem respects_makeDirectory (hp : p.isAbsolute = true) :
    Respects Elsewhere (makeDirectory p) := by
  intro h h' he
  rw [run_makeDirectory, run_makeDirectory,
    he.placeOf_eq .examine (Path.head?_text_of_isAbsolute hp), he.clock]
  rcases h.placeOf .examine p.text with e | (⟨a, n⟩ | a)
  · exact ⟨rfl, he⟩
  · exact ⟨rfl, he⟩
  · exact ⟨rfl, he.add a _⟩

theorem respects_unlessThere (hp : p.isAbsolute = true) (e : Fault) :
    Respects Elsewhere (unlessThere p e) := by
  intro h h' he
  rw [run_unlessThere, run_unlessThere, isDirectory, isDirectory, he.holds_eq hp]
  split
  · rcases h.holds Node.isDirectory p with e' | (_ | _)
    · exact ⟨rfl, he⟩
    · exact ⟨rfl, he⟩
    · exact ⟨rfl, he⟩
  · exact ⟨rfl, he⟩

theorem respects_ensureDirectory (hp : p.isAbsolute = true) :
    Respects Elsewhere (ensureDirectory p) := by
  rw [ensureDirectory]
  refine (respects_makeDirectory hp).attempt.bind fun r _ _ _ => ?_
  rcases r with e | ⟨⟩
  · simp only
    split
    · exact .throw e
    · exact respects_unlessThere hp e
  · exact .pure ()

theorem isAbsolute_parent (hp : p.isAbsolute = true) : p.parent.isAbsolute = true := hp

theorem respects_makeDirectoriesWithin (depth : Nat) (hp : p.isAbsolute = true) :
    Respects Elsewhere (makeDirectoriesWithin depth p) := by
  induction depth generalizing p with
  | zero => exact respects_ensureDirectory hp
  | succ depth ih =>
    rw [makeDirectoriesWithin]
    refine (respects_makeDirectory hp).attempt.bind fun r _ _ _ => ?_
    rcases r with e | ⟨⟩
    · simp only
      split
      · exact (ih (isAbsolute_parent hp)).bind fun _ _ _ _ => respects_ensureDirectory hp
      · exact respects_unlessThere hp e
    · exact .pure ()

theorem respects_touch (hp : p.isAbsolute = true) : Respects Elsewhere (touch p) := by
  intro h h' he
  rw [touch, Action.run_bind_ok (Action.run_get h), Action.run_bind_ok (Action.run_get h'),
    he.stat_eq hp, he.placeOf_eq .create (Path.head?_text_of_isAbsolute hp), he.clock]
  rcases h.stat p with e | ⟨a, n⟩
  · rcases h.placeOf .create p.text with e' | (⟨a, n⟩ | a)
    · exact ⟨rfl, he⟩
    · exact ⟨rfl, he.replace a _⟩
    · exact ⟨rfl, he.add a _⟩
  · exact ⟨rfl, he.replace a _⟩

end Host

/-! ### Worlds elsewhere -/

/-- An event without the place where a tool was asked for its version. -/
def Event.anywhere : Event → Event
  | launched l =>
    launched (if l.command.tail = [ToolProbe.versionFlag] then { l with directory := [] } else l)
  | e => e

namespace World

/-- The same world **elsewhere**: its host is elsewhere, and the same has happened, but for the
place where versions were asked for. -/
structure Elsewhere (w w' : World) : Prop where
  host : w.host.Elsewhere w'.host
  journal : w'.journal.map Event.anywhere = w.journal.map Event.anywhere

theorem respects_record (e : Event) : Respects Elsewhere (record e) := by
  intro w w' he
  refine ⟨rfl, he.host, ?_⟩
  rw [run_record, run_record, log, log, List.map_append, List.map_append, he.journal]

theorem respects_note (logger text : String) : Respects Elsewhere (note logger text) :=
  respects_record _

theorem respects_print (stream : Stream) (text : String) :
    Respects Elsewhere (print stream text) := respects_record _

/-- A question that has the same answer elsewhere. -/
theorem respects_ask {α : Type} {question : Host → Except Fault α}
    (h : ∀ {h h'}, Host.Elsewhere h h' → question h' = question h) :
    Respects Elsewhere (ask question) :=
  fun _ _ he => ⟨h he.host, he⟩

theorem respects_onHost {α : Type} {x : Action Host α} (hx : Respects Host.Elsewhere x) :
    Respects Elsewhere (onHost x) :=
  hx.within (fun he => he.host) fun he hh => ⟨hh, he.journal⟩

end World

open World (respects_record respects_note respects_print respects_ask respects_onHost)

/-- A runner that performs a command alike elsewhere. -/
def ToolRunner.RespectsOn (runner : ToolRunner) (c : Call) : Prop :=
  ∀ ⦃w w'⦄, World.Elsewhere w w' → (runner w' c).outcome = (runner w c).outcome ∧
    (runner w c).host.Elsewhere (runner w' c).host ∧
    (runner w' c).events.map Event.anywhere = (runner w c).events.map Event.anywhere

theorem ToolRunner.RespectsOn.perform {runner : ToolRunner} {c : Call}
    (hr : runner.RespectsOn c) : Respects World.Elsewhere (runner.perform c) := by
  intro w w' he
  obtain ⟨houtcome, hhost, hevents⟩ := hr he
  rw [run_perform, run_perform]
  refine ⟨houtcome, hhost, ?_⟩
  rw [answered, answered, List.map_append, List.map_append, List.map_cons, List.map_cons,
    he.journal, hevents]

/-- The same session **elsewhere**: its world is elsewhere, and the same is known about the tool. -/
structure Session.Elsewhere (s s' : Session) : Prop where
  world : s.world.Elsewhere s'.world
  probe : s'.probe = s.probe

namespace Session

theorem respects_onWorld {α : Type} {x : Action World α} (hx : Respects World.Elsewhere x) :
    Respects Elsewhere (onWorld x) :=
  hx.within (fun he => he.world) fun he hw => ⟨hw, he.probe⟩

theorem respects_know (p : ToolProbe) : Respects Elsewhere (know p) :=
  fun _ _ he => ⟨rfl, he.world, rfl⟩

theorem respects_begin {α : Type} {x : Action Session α} (hx : Respects Elsewhere x) :
    Respects World.Elsewhere (begin x) :=
  hx.within (fun he => ⟨he, rfl⟩) fun _ hs => hs.world

end Session

/-! ### Candidates -/

section Candidates

variable {d : Driver} {detect : Detector} {p : Path}

/-- A detector that finds the same elsewhere. -/
def Detector.Anywhere (detect : Detector) : Prop :=
  ∀ {h h' : Host} {p : Path}, h.Elsewhere h' → p.isAbsolute = true → detect h' p = detect h p

theorem anywhere_shebangDetector : Detector.Anywhere shebangDetector := by
  intro h h' p he hp
  rw [shebangDetector, shebangDetector, he.read_eq hp]

theorem Driver.respects_consider (hd : detect.Anywhere) (seen : List Path)
    (hp : p.isAbsolute = true) : Respects World.Elsewhere (d.consider detect seen p) := by
  rw [consider]
  split
  · exact .pure none
  · refine .bind (respects_ask fun he => he.holds_eq hp _) fun file _ _ _ => ?_
    split
    · refine .bind ?_ fun relevant _ _ _ => .pure _
      rw [isRelevant]
      split
      · exact .pure true
      · split
        · exact .pure false
        · exact .bind (respects_record _) fun _ _ _ _ =>
            .bind (respects_ask fun he => hd he hp) fun found _ _ _ => .pure _
    · exact .pure none

end Candidates

/-! ### The cache -/

namespace ResultCache

variable {c : ResultCache} {p : Path}

theorem isAbsolute_entry (hc : c.directory.isAbsolute = true) (p : Path) :
    (c.entry p).isAbsolute = true := by
  rw [entry, Path.child]
  exact Path.isAbsolute_join hc _

theorem respects_isValid (hc : c.directory.isAbsolute = true) (hp : p.isAbsolute = true) :
    Respects World.Elsewhere (c.isValid p) := by
  rw [isValid]
  have htimes : ∀ {h h' : Host}, h.Elsewhere h' → c.times p h' = c.times p h := fun he => by
    rw [times, times, he.changed_eq (isAbsolute_entry hc p), he.changed_eq hp]
  refine .bind (respects_ask htimes).attempt fun r _ _ _ => ?_
  rcases r with e | ⟨recorded, changed⟩
  · simp only
    split
    · exact .pure false
    · exact .throw e
  · exact .bind (respects_note _ _) fun _ _ _ _ => .pure _

theorem respects_record (hc : c.directory.isAbsolute = true) (p : Path) :
    Respects World.Elsewhere (c.record p) := by
  rw [record]
  exact .bind (respects_onHost (Host.respects_makeDirectoriesWithin _ hc)) fun _ _ _ _ =>
    .bind (respects_onHost (Host.respects_touch (isAbsolute_entry hc p))) fun _ _ _ _ =>
      respects_note _ _

end ResultCache

/-! ### Invoking the tool -/

namespace Invoker

/-- An invoker that is at home **anywhere**: its cache has an absolute path, and its runner tells
versions and lints absolute paths alike elsewhere. -/
structure Anywhere (i : Invoker) : Prop where
  stored : ∀ cache, i.cache? = some cache → cache.directory.isAbsolute = true
  queried : i.runner.RespectsOn (ToolProbe.query i.driver.tool)
  linted : ∀ c, i.runner.RespectsOn (i.lintCall c)

variable {i : Invoker} {c : Candidate} {p : Path}

theorem respects_warn (i : Invoker) (message : String) :
    Respects World.Elsewhere (i.warn message) := by
  rw [warn]
  refine .bind (respects_record _) fun _ _ _ _ => ?_
  split
  · exact .pure ()
  · exact respects_print _ _

theorem respects_readDirective (d : Driver) (hp : p.isAbsolute = true) :
    Respects World.Elsewhere (readDirective d p) := by
  rw [readDirective]
  exact .bind (respects_ask fun he => he.read_eq hp) fun bytes _ _ _ =>
    .bind (respects_note _ _) fun _ _ _ _ => .pure _

theorem Anywhere.respects_toolProbe (hi : i.Anywhere) :
    Respects Session.Elsewhere i.toolProbe := by
  have hrun : Respects World.Elsewhere (ToolProbe.run i.runner i.driver.tool) := by
    rw [ToolProbe.run]
    refine .bind hi.queried.perform.attempt fun r _ _ _ => ?_
    rcases r with e | done
    · simp only
      split
      · exact .pure _
      · exact .throw e
    · exact .ofExcept _
  intro s s' hs
  rw [toolProbe, Action.run_bind_ok (Action.run_get s), Action.run_bind_ok (Action.run_get s'),
    hs.probe]
  rcases s.probe with _ | p
  · refine Respects.bind (Session.respects_onWorld hrun) (fun p _ _ _ => ?_) hs
    refine .bind (Session.respects_know p) fun _ _ _ _ => ?_
    refine .bind (Session.respects_onWorld ?_) fun _ _ _ _ => .pure p
    refine .bind (respects_note _ _) fun _ _ _ _ => ?_
    split
    · exact .pure ()
    · exact respects_warn i _
  · exact ⟨rfl, hs⟩

theorem Anywhere.respects_vouched (hi : i.Anywhere) (hc : c.path.isAbsolute = true) :
    Respects World.Elsewhere (i.vouched c) := by
  rw [vouched]
  rcases hcache : i.cache? with _ | cache
  · exact .pure false
  · exact ResultCache.respects_isValid (hi.stored cache hcache) hc

theorem Anywhere.respects_judge (hi : i.Anywhere) (c : Candidate) (done : Completed) :
    Respects World.Elsewhere (i.judge c done) := by
  rw [judge]
  split
  · rcases hcache : i.cache? with _ | cache
    · exact .pure _
    · exact .bind (ResultCache.respects_record (hi.stored cache hcache) c.path)
        fun _ _ _ _ => .pure _
  · exact .pure _

theorem Anywhere.respects_lint (hi : i.Anywhere) (c : Candidate) :
    Respects Session.Elsewhere (i.lint c) := by
  rw [lint]
  refine .bind (Session.respects_onWorld (respects_note _ _)) fun _ _ _ _ => ?_
  refine .bind (Session.respects_onWorld (hi.linted c).perform).attempt fun r _ _ _ => ?_
  rcases r with e | done
  · simp only
    split
    · refine .bind (Session.respects_know _) fun _ _ _ _ => ?_
      exact .bind (Session.respects_onWorld (respects_warn i _)) fun _ _ _ _ => .pure _
    · exact .throw e
  · exact Session.respects_onWorld (hi.respects_judge c done)

theorem Anywhere.respects_settle (hi : i.Anywhere) (hc : c.path.isAbsolute = true)
    (d : Directive) : Respects Session.Elsewhere (i.settle c d) := by
  rw [settle]
  split
  · exact .pure _
  · rw [← path_withDirective c d] at hc
    refine .bind (Session.respects_onWorld (hi.respects_vouched hc)) fun valid _ _ _ => ?_
    split
    · exact .pure _
    · refine .bind hi.respects_toolProbe fun p _ _ _ => ?_
      split
      · exact hi.respects_lint _
      · exact .pure _

/-- Dealing with an absolute candidate comes to the same from everywhere. -/
theorem Anywhere.respects_invoke (hi : i.Anywhere) (hc : c.path.isAbsolute = true) :
    Respects Session.Elsewhere (i.invoke c) := by
  rw [invoke]
  refine .bind (Session.respects_onWorld (respects_readDirective _ hc)).attempt fun r _ _ _ => ?_
  rcases r with e | d
  · simp only
    split
    · exact .bind (Session.respects_onWorld (respects_warn i _)) fun _ _ _ _ => .pure _
    · exact .throw e
  · exact hi.respects_settle hc d

end Invoker

/-! ### What results are about -/

namespace Invoker

variable {i : Invoker} {c : Candidate} {d : Directive} {k k' : Option ToolProbe}
  {xs : List Exchange} {h h₁ h' : Host} {z : LintResult}

theorem Tried.candidate_eq (ht : Tried i c k xs h (.ok z) k' h') : z.candidate = c := by
  cases ht <;> rfl

theorem Weighed.path_eq (hw : Weighed i h c d k xs h₁ (.ok z) k' h') :
    z.candidate.path = c.path := by
  cases hw with
  | skipped => rfl
  | cached => exact path_withDirective c d
  | tried _ _ ht => rw [ht.candidate_eq, path_withDirective]

theorem Dealt.path_eq (hd : Dealt i h c k xs h₁ (.ok z) k' h') : z.candidate.path = c.path := by
  cases hd with
  | read _ hw => exact hw.path_eq
  | unread => rfl

end Invoker

/-! ### Sources and reports -/

namespace Source

/-- A source that gives the same **anywhere**: opening it and asking it for a path come to the same
elsewhere, and all its paths are absolute. -/
structure Anywhere (s : Source) : Prop where
  opening : Respects World.Elsewhere s
  pull : ∀ w pulls w', s.run w = (.ok pulls, w') → ∀ pull ∈ pulls,
    Respects World.Elsewhere pull ∧
      ∀ v p v', pull.run v = (.ok p, v') → p.isAbsolute = true

variable {root : Path}

theorem respects_found (hroot : root.isAbsolute = true) (p : Path) :
    Respects World.Elsewhere (found root p) ∧
      ∀ v q v', (found root p).run v = (.ok q, v') → q.isAbsolute = true := by
  refine ⟨respects_ask fun he => he.resolve_eq (Path.isAbsolute_join hroot p), ?_⟩
  intro v q v' hrun
  rw [found, World.run_ask] at hrun
  exact Host.isAbsolute_of_resolve (congrArg Prod.fst hrun)

theorem anywhere_of_found (hroot : root.isAbsolute = true) (ps : List Path) :
    Anywhere (pure (ps.map (found root))) where
  opening := .pure _
  pull := by
    rintro w pulls w' ⟨⟩ pull hpull
    obtain ⟨p, -, rfl⟩ := List.mem_map.mp hpull
    exact respects_found hroot p

theorem anywhere_ofEntries (hroot : root.isAbsolute = true) (ps : List Path) :
    (ofEntries root ps).Anywhere := anywhere_of_found hroot ps

theorem anywhere_ofLines (hroot : root.isAbsolute = true) (lines : List String) :
    (ofLines root lines).Anywhere := by
  have hmap : ofLines root lines =
      pure (((lines.filterMap lineName?).map Path.ofText).map (found root)) := by
    rw [ofLines, List.map_map]
    rfl
  rw [hmap]
  exact anywhere_of_found hroot _

theorem anywhere_closed : closed.Anywhere where
  opening := .throw _
  pull _ _ _ h := nomatch h

/-- The files that version control lists in an absolute root. -/
theorem anywhere_git {runner : ToolRunner} {staged : Bool} (hroot : root.isAbsolute = true)
    (hr : runner.RespectsOn { command := gitCommand staged, directory := some root, capture := true,
                              check := false }) :
    (git runner root staged).Anywhere where
  opening := by
    rw [git, ofListing, listing]
    refine .bind (.bind hr.perform.attempt fun r _ _ _ => ?_) fun lines _ _ _ =>
      (anywhere_ofLines hroot lines).opening
    rcases r with e | done
    · simp only
      split
      · exact .pure _
      · exact .throw e
    · simp only
      split
      · exact .pure _
      · exact .pure _
  pull := by
    intro w pulls w' hrun
    obtain ⟨lines, v, -, hlines⟩ := Action.exists_of_run_bind_ok hrun
    exact (anywhere_ofLines hroot lines).pull v pulls w' hlines

end Source

theorem mapM_congr {α β : Type} {f g : α → Except Fault β} {l : List α}
    (h : ∀ x ∈ l, f x = g x) : l.mapM f = l.mapM g := by
  induction l with
  | nil => rfl
  | cons x l ih =>
    rw [List.mapM_cons, List.mapM_cons, h x List.mem_cons_self,
      ih fun y hy => h y (List.mem_cons_of_mem _ hy)]

namespace Summary

variable {h h' : Host} {p root : Path} {s : Summary}

theorem displayPath_eq (he : h.Elsewhere h') (hp : p.isAbsolute = true)
    (hroot : root.isAbsolute = true) : displayPath h' p root = displayPath h p root := by
  rw [displayPath, displayPath, he.resolve_eq hp, he.resolve_eq hroot]

/-- A summary of **absolute** paths, with its totals. -/
structure Absolute (s : Summary) : Prop extends s.Tallied where
  results : ∀ x ∈ s.results, x.candidate.path.isAbsolute = true

theorem absolute_empty : Absolute {} where
  toTallied := tallied_empty
  results _ h := nomatch h

theorem Absolute.add (hs : s.Absolute) {x : LintResult}
    (hx : x.candidate.path.isAbsolute = true) : (s.add x).Absolute where
  toTallied := hs.toTallied.add x
  results y hy := by
    rw [results_add] at hy
    rcases List.mem_append.mp hy with hy | hy
    · exact hs.results y hy
    · exact List.mem_singleton.mp hy ▸ hx

theorem lines_eq (he : h.Elsewhere h') (hs : s.Absolute) (hroot : root.isAbsolute = true) :
    s.lines h' root = s.lines h root := by
  have hown : (s.results.filter (·.classification ≠ .cached)).mapM (resultLine h' root) =
      (s.results.filter (·.classification ≠ .cached)).mapM (resultLine h root) := by
    refine mapM_congr fun x hx => ?_
    rw [resultLine, resultLine, displayPath_eq he (hs.results x (List.mem_filter.mp hx).1) hroot]
  have hshared : cachedLine h' root s.cachedPaths = cachedLine h root s.cachedPaths := by
    rw [cachedLine, cachedLine, mapM_congr (f := (displayPath h' · root))]
    intro p hp
    rw [hs.cachedPaths] at hp
    obtain ⟨x, hx, rfl⟩ := List.mem_map.mp hp
    exact displayPath_eq he (hs.results x (List.mem_filter.mp hx).1) hroot
  rw [lines, lines, hown, hshared]

theorem respects_finish (hs : s.Absolute) {settings : Settings}
    (hroot : settings.root.isAbsolute = true) :
    Respects World.Elsewhere (s.finish settings) := by
  rw [finish]
  split
  · exact .bind (respects_print _ _) fun _ _ _ _ => .pure _
  · refine .bind ?_ fun _ _ _ _ => .pure _
    rw [report]
    exact .bind (respects_ask fun he => lines_eq he hs hroot) fun _ _ _ _ => respects_print _ _

end Summary

/-! ### Runs -/

/-- Courses that are **alike**: the same paths have been given, the same candidates have been dealt
with, to the same results, and the same fault has ended them. -/
structure Course.Alike (c c' : Course) : Prop where
  given : c'.given = c.given
  candidates : c'.invocations.map (·.candidate) = c.invocations.map (·.candidate)
  results : c'.invocations.map (·.result) = c.invocations.map (·.result)
  fault : c'.fault = c.fault

namespace Course.Alike

variable {c c' : Course} {v v' : Invocation}

theorem refl (c : Course) : Alike c c := ⟨rfl, rfl, rfl, rfl⟩

theorem giving (p : Path) (hc : Alike c c') : Alike (c.giving p) (c'.giving p) where
  given := congrArg (p :: ·) hc.given
  candidates := hc.candidates
  results := hc.results
  fault := hc.fault

theorem treating (hcandidate : v'.candidate = v.candidate) (hresult : v'.result = v.result)
    (hc : Alike c c') : Alike (c.treating v) (c'.treating v') where
  given := hc.given
  candidates := congrArg₂ List.cons hcandidate hc.candidates
  results := congrArg₂ List.cons hresult hc.results
  fault := hc.fault

end Course.Alike

namespace DriverRun

variable {r : DriverRun} {source : Source}

/-- A run that is at home **anywhere**: its root is absolute, its detector and its invoker are at
home anywhere. -/
structure Anywhere (r : DriverRun) : Prop where
  root : r.settings.root.isAbsolute = true
  detect : r.detect.Anywhere
  invoker : r.invoker.Anywhere

theorem Anywhere.respects_process (hr : r.Anywhere) {c : Candidate}
    (hc : c.path.isAbsolute = true) : Respects Session.Elsewhere (r.process c) := by
  rw [process]
  exact .bind (hr.invoker.respects_invoke hc) fun _ _ _ _ =>
    .bind (Session.respects_onWorld (respects_note _ _)) fun _ _ _ _ => .pure _

/-- A result is about the path of the candidate that has been dealt with. -/
theorem path_of_process {c : Candidate} {s t : Session} {x : LintResult}
    (hrun : (r.process c).run s = (.ok x, t)) : x.candidate.path = c.path := by
  rw [process] at hrun
  obtain ⟨y, u, hinvoke, hrun⟩ := Action.exists_of_run_bind_ok hrun
  obtain ⟨-, v, -, hrun⟩ := Action.exists_of_run_bind_ok hrun
  cases hrun
  obtain ⟨xs, w, -, -, hdealt⟩ := Invoker.dealt_of_run hinvoke
  exact hdealt.path_eq

theorem Anywhere.respects_collect (hr : r.Anywhere) (pulls : List (Action World Path))
    (hpulls : ∀ pull ∈ pulls, Respects World.Elsewhere pull ∧
      ∀ v p v', pull.run v = (.ok p, v') → p.isAbsolute = true)
    (seen : List Path) (summary : Summary) :
    Respects Session.Elsewhere (r.collect seen summary pulls) := by
  induction pulls generalizing seen summary with
  | nil => exact .pure _
  | cons pull pulls ih =>
    obtain ⟨hpull, habsolute⟩ := hpulls pull List.mem_cons_self
    have hrest := ih fun q hq => hpulls q (List.mem_cons_of_mem pull hq)
    rw [collect]
    refine .bind (Session.respects_onWorld hpull) fun p s t hrun => ?_
    have hp : p.isAbsolute = true := habsolute _ p _ (Session.run_of_onWorld hrun)
    refine .bind (Session.respects_onWorld (Driver.respects_consider hr.detect seen hp))
      fun c? t u hconsider => ?_
    rcases c? with _ | c
    · exact hrest _ _
    · have hc : c.path.isAbsolute = true := by rwa [(path_of_consider hconsider).1]
      exact .bind (hr.respects_process hc) fun _ _ _ _ => hrest _ _

theorem Anywhere.alike_courseFrom (hr : r.Anywhere) (pulls : List (Action World Path))
    (hpulls : ∀ pull ∈ pulls, Respects World.Elsewhere pull ∧
      ∀ v p v', pull.run v = (.ok p, v') → p.isAbsolute = true)
    (seen : List Path) {s s' : Session} (hs : s.Elsewhere s') :
    (r.courseFrom seen pulls s).Alike (r.courseFrom seen pulls s') := by
  induction pulls generalizing seen s s' with
  | nil => exact .refl _
  | cons pull pulls ih =>
    obtain ⟨hpull, habsolute⟩ := hpulls pull List.mem_cons_self
    have hrest := fun (seen : List Path) {s s' : Session} (hs : s.Elsewhere s') =>
      ih (fun q hq => hpulls q (List.mem_cons_of_mem pull hq)) seen hs
    -- each of the three steps comes to the same in both places, a fault included
    rw [courseFrom, courseFrom]
    rcases hrun : (Session.onWorld pull).run s with ⟨e | p, s₁⟩
    · obtain ⟨t, hrun', -⟩ := (Session.respects_onWorld hpull).exists_run hs hrun
      rw [hrun']
      exact .refl _
    obtain ⟨t₁, hrun', hs₁⟩ := (Session.respects_onWorld hpull).exists_run hs hrun
    have hp : p.isAbsolute = true := habsolute _ p _ (Session.run_of_onWorld hrun)
    have hconsider := Session.respects_onWorld
      (Driver.respects_consider (d := r.driver) hr.detect seen hp)
    simp only [hrun']
    rcases hrun : (Session.onWorld (r.driver.consider r.detect seen p)).run s₁ with ⟨e | _ | c, s₂⟩
    · obtain ⟨t₂, hrun', -⟩ := hconsider.exists_run hs₁ hrun
      rw [hrun']
      exact .refl _
    · obtain ⟨t₂, hrun', hs₂⟩ := hconsider.exists_run hs₁ hrun
      rw [hrun']
      exact (hrest _ hs₂).giving p
    obtain ⟨t₂, hrun', hs₂⟩ := hconsider.exists_run hs₁ hrun
    have hc : c.path.isAbsolute = true := by rwa [(path_of_consider hrun).1]
    have hcandidate : (r.invocation c t₂).candidate = (r.invocation c s₂).candidate := rfl
    have hresult : (r.invocation c t₂).result = (r.invocation c s₂).result :=
      (hr.invoker.respects_invoke hc hs₂).1
    simp only [hrun']
    rcases hrun : (r.process c).run s₂ with ⟨e | x, s₃⟩
    · obtain ⟨t₃, hrun', -⟩ := (hr.respects_process hc).exists_run hs₂ hrun
      rw [hrun']
      exact ((Course.Alike.refl { fault := some e }).treating hcandidate hresult).giving p
    · obtain ⟨t₃, hrun', hs₃⟩ := (hr.respects_process hc).exists_run hs₂ hrun
      rw [hrun']
      exact ((hrest _ hs₃).treating hcandidate hresult).giving p

/-- The course of a run is alike from everywhere. -/
theorem Anywhere.alike_course (hr : r.Anywhere) (hsource : source.Anywhere) {w w' : World}
    (he : w.Elsewhere w') : (r.course source w).Alike (r.course source w') := by
  rw [course, course]
  rcases hopen : source.run w with ⟨e | pulls, v⟩
  · obtain ⟨v', hopen', -⟩ := hsource.opening.exists_run he hopen
    rw [hopen']
    exact .refl _
  · obtain ⟨v', hopen', he'⟩ := hsource.opening.exists_run he hopen
    rw [hopen']
    exact hr.alike_courseFrom pulls (hsource.pull _ _ _ hopen) [] ⟨he', rfl⟩

theorem absolute_of_collect {pulls : List (Action World Path)}
    (hpulls : ∀ pull ∈ pulls, ∀ v p v', pull.run v = (.ok p, v') → p.isAbsolute = true)
    {seen : List Path} {summary summary' : Summary} {s t : Session} (hs : summary.Absolute)
    (hrun : (r.collect seen summary pulls).run s = (.ok summary', t)) : summary'.Absolute := by
  induction pulls generalizing seen summary s with
  | nil =>
    cases hrun
    exact hs
  | cons pull pulls ih =>
    have hrest : ∀ q ∈ pulls, ∀ v p v', q.run v = (.ok p, v') → p.isAbsolute = true :=
      fun q hq => hpulls q (List.mem_cons_of_mem pull hq)
    rw [collect] at hrun
    obtain ⟨p, s₁, hpull, hrun⟩ := Action.exists_of_run_bind_ok hrun
    obtain ⟨c?, s₂, hconsider, hrun⟩ := Action.exists_of_run_bind_ok hrun
    rcases c? with _ | c
    · exact ih hrest hs hrun
    · obtain ⟨x, s₃, hprocess, hrun⟩ := Action.exists_of_run_bind_ok hrun
      refine ih hrest (hs.add ?_) hrun
      rw [path_of_process hprocess, (path_of_consider hconsider).1]
      exact hpulls pull List.mem_cons_self _ p _ (Session.run_of_onWorld hpull)

/-- A run that is at home anywhere comes to the same from everywhere, as long as its source gives
the same. -/
theorem Anywhere.respects_run (hr : r.Anywhere) (hsource : source.Anywhere) :
    Respects World.Elsewhere (r.run source) := by
  have hsummarize : Respects World.Elsewhere (r.summarize source) := by
    refine Session.respects_begin (.bind (Session.respects_onWorld hsource.opening)
      fun pulls s t hopen => ?_)
    exact hr.respects_collect pulls (hsource.pull _ _ _ (Session.run_of_onWorld hopen)) [] {}
  rw [run]
  refine .bind hsummarize fun summary w w' hrun => ?_
  have hsummary : summary.Absolute := by
    obtain ⟨pulls, w₁, t, hopen, hcollect, -⟩ := exists_collect_of_summarize hrun
    exact absolute_of_collect (fun pull hpull => (hsource.pull _ _ _ hopen pull hpull).2)
      Summary.absolute_empty hcollect
  exact .bind (Summary.respects_finish hsummary hr.root) fun _ _ _ _ => .pure _

end DriverRun

end OptIn
