import OptIn.Proofs.Invoker.Availability
import OptIn.Proofs.Run.Totals

/-!
# The course of a run

`DriverRun.course` follows a run on any source: the paths that the source gives, and the invocations
for the candidates among them, in order. The candidates of a course are different paths among those
given (`sublist_given`, `nodup_paths`), its invocations make a history of the invoker
(`exists_history_course`), and a run that comes to its end has their results (`course_of_run`).

Besides the source, only the invocations have commands performed: with a discreet runner and a
silent source these are the commands that a run leaves in the journal (`filterMap_called_of_run`).
-/

namespace OptIn

open Invoker (Invocation History)

/-- The **course** of a run: the paths that its source has given, what has been made of the
candidates among them, and the fault that has ended it. -/
structure Course where
  given : List Path := []
  invocations : List Invocation := []
  fault : Option Fault := none

namespace Course

/-- The course with an earlier path. -/
def giving (p : Path) (c : Course) : Course := { c with given := p :: c.given }

/-- The course with an earlier invocation. -/
def treating (v : Invocation) (c : Course) : Course := { c with invocations := v :: c.invocations }

/-- The paths of the candidates, in order. -/
def paths (c : Course) : List Path := c.invocations.map (·.candidate.path)

end Course

/-! ### What actions keep -/

/-- An action **keeps** what is read off its state when that reads the same behind it. -/
def Action.Keeps {σ α β : Type} (reading : σ → β) (x : Action σ α) : Prop :=
  ∀ s, reading (x.run s).2 = reading s

section

variable {σ α β γ : Type} {reading : σ → γ} {x : Action σ α} {f : α → Action σ β}

theorem Action.Keeps.pure (a : α) : Keeps reading (Pure.pure a : Action σ α) := fun _ => rfl

theorem Action.Keeps.throw (e : Fault) : Keeps reading (throw e : Action σ α) := fun _ => rfl

theorem Action.Keeps.ofExcept (y : Except Fault α) :
    Keeps reading (Action.ofExcept y : Action σ α) := fun _ => rfl

theorem Action.Keeps.attempt (hx : Keeps reading x) : Keeps reading x.attempt := hx

theorem Action.Keeps.bind (hx : Keeps reading x) (hf : ∀ a, Keeps reading (f a)) :
    Keeps reading (x >>= f) := by
  intro s
  have hs := hx s
  rcases hrun : x.run s with ⟨e | a, t⟩
  · rw [Action.run_bind_error hrun]
    rwa [hrun] at hs
  · rw [Action.run_bind_ok hrun]
    rw [hrun] at hs
    exact (hf a t).trans hs

theorem Session.keeps_onWorld {reading : World → γ} {x : Action World α} (hx : x.Keeps reading) :
    (onWorld x).Keeps fun s => reading s.world :=
  fun s => hx s.world

end

/-- A **silent** action has no command performed. -/
def Action.Silent {α : Type} (x : Action World α) : Prop :=
  ∀ w, (x.run w).2.journal.filterMap Event.called? = w.journal.filterMap Event.called?

/-- A source is **silent** if neither opening it nor asking it for a path has a command
performed. -/
def Source.Silent (s : Source) : Prop :=
  Action.Silent s ∧ ∀ w pulls w', s.run w = (.ok pulls, w') → ∀ pull ∈ pulls, Action.Silent pull

section

variable {α β : Type} {x : Action World α} {f : α → Action World β}

theorem Action.silent_iff : x.Silent ↔ x.Keeps fun w => w.journal.filterMap Event.called? := Iff.rfl

theorem Action.Silent.pure (a : α) : Silent (Pure.pure a) := silent_iff.mpr (.pure a)

theorem Action.Silent.ask (question : Host → Except Fault α) : Silent (World.ask question) :=
  fun _ => rfl

theorem Action.Silent.record {e : Event} (he : e.called? = none) : Silent (World.record e) :=
  fun w => by simp [World.log, he]

theorem Action.Silent.bind (hx : Silent x) (hf : ∀ a, Silent (f a)) : Silent (x >>= f) :=
  silent_iff.mpr (.bind (silent_iff.mp hx) fun a => silent_iff.mp (hf a))

theorem Driver.silent_consider (d : Driver) (detect : Detector) (seen : List Path) (p : Path) :
    (d.consider detect seen p).Silent := by
  rw [consider]
  split
  · exact .pure none
  · refine .bind (.ask _) fun file => ?_
    split
    · refine .bind ?_ fun relevant => .pure _
      rw [isRelevant]
      split
      · exact .pure true
      · split
        · exact .pure false
        · exact .bind (.record rfl) fun _ => .bind (.ask _) fun found => .pure _
    · exact .pure none

theorem Summary.silent_finish (s : Summary) (settings : Settings) : (s.finish settings).Silent := by
  rw [finish]
  split
  · exact .bind (.record rfl) fun _ => .pure _
  · exact .bind (.bind (.ask _) fun ls => .record rfl) fun _ => .pure _

theorem Source.silent_ofPaths (ps : List Path) : (Source.ofPaths ps).Silent := by
  refine ⟨.pure _, ?_⟩
  rintro w pulls w' ⟨⟩ pull hpull
  obtain ⟨p, -, rfl⟩ := List.mem_map.mp hpull
  exact .pure p

theorem Session.silent_onWorld (hx : x.Silent) (s : Session) :
    ((Session.onWorld x).run s).2.world.journal.filterMap Event.called? =
      s.world.journal.filterMap Event.called? := by
  rw [Session.onWorld, Action.run_within]
  exact hx s.world

end

/-! ### Sources that only look -/

/-- A source **reads** when asking it for a path leaves the world as it is; opening it need not. -/
def Source.Reads (source : Source) : Prop :=
  ∀ w pulls w', source.run w = (.ok pulls, w') → ∀ pull ∈ pulls, pull.Keeps id

namespace Source

theorem reads_ofPaths (ps : List Path) : (ofPaths ps).Reads := by
  rintro w pulls w' ⟨⟩ pull hpull
  obtain ⟨p, -, rfl⟩ := List.mem_map.mp hpull
  exact .pure p

theorem reads_ofEntries (root : Path) (entries : List Path) : (ofEntries root entries).Reads := by
  rintro w pulls w' ⟨⟩ pull hpull
  obtain ⟨p, -, rfl⟩ := List.mem_map.mp hpull
  exact fun _ => rfl

theorem reads_ofLines (root : Path) (lines : List String) : (ofLines root lines).Reads := by
  rintro w pulls w' ⟨⟩ pull hpull
  obtain ⟨name, -, rfl⟩ := List.mem_map.mp hpull
  exact fun _ => rfl

/-- Listing files has a command performed, but asking for their paths has not. -/
theorem reads_git (run : ToolRunner) (root : Path) (staged : Bool) :
    (git run root staged).Reads := by
  intro w pulls w' hopen
  rw [git, ofListing] at hopen
  obtain ⟨lines, w₁, -, hopen⟩ := Action.exists_of_run_bind_ok hopen
  exact reads_ofLines root lines w₁ pulls w' hopen

end Source

theorem Invoker.History.run_of_mem {i : Invoker} {vs : List Invocation} {k : Option ToolProbe}
    {v : Invocation} (hh : i.History vs k) (hv : v ∈ vs) :
    (i.invoke v.candidate).run v.before = (v.result, v.after) := by
  obtain ⟨front, back, hvs⟩ := List.append_of_mem hv
  exact (hh.exists_front hvs).2

namespace DriverRun

/-- The invocation of a candidate in a session. -/
def invocation (r : DriverRun) (c : Candidate) (s : Session) : Invocation :=
  ⟨c, s, ((r.invoker.invoke c).run s).1, ((r.invoker.invoke c).run s).2⟩

/-- The course of a run on the paths to come, after those that have been seen. -/
def courseFrom (r : DriverRun) : List Path → List (Action World Path) → Session → Course
  | _, [], _ => {}
  | seen, pull :: pulls, s =>
    match (Session.onWorld pull).run s with
    | (.error e, _) => { fault := some e }
    | (.ok p, s) =>
      match (Session.onWorld (r.driver.consider r.detect seen p)).run s with
      | (.error e, _) => { given := [p], fault := some e }
      | (.ok none, s) => (courseFrom r (p :: seen) pulls s).giving p
      | (.ok (some c), s) =>
        match (r.process c).run s with
        | (.error e, _) => { given := [p], invocations := [r.invocation c s], fault := some e }
        | (.ok _, s') =>
          ((courseFrom r (p :: seen) pulls s').treating (r.invocation c s)).giving p

/-- The course of a run on a source. -/
def course (r : DriverRun) (source : Source) (w : World) : Course :=
  match source.run w with
  | (.error e, _) => { fault := some e }
  | (.ok pulls, w) => r.courseFrom [] pulls ⟨w, none⟩

/-- The exchanges with the runner in the course of a run. -/
def exchanges (r : DriverRun) (c : Course) : List Exchange :=
  c.invocations.flatMap fun v => (r.invoker.transcript v).exchanges

/-- The commands that are performed in the course of a run. -/
def commands (r : DriverRun) (c : Course) : List Call := (r.exchanges c).map Exchange.call

variable {r : DriverRun} {seen : List Path} {pulls : List (Action World Path)} {source : Source}
  {s s' : Session} {w w' : World} {c : Candidate} {p : Path}

/-! ### Candidates -/

/-- What makes a candidate has not been seen before. -/
theorem path_of_consider
    (h : (Session.onWorld (r.driver.consider r.detect seen p)).run s = (.ok (some c), s')) :
    c.path = p ∧ p ∉ seen := by
  obtain ⟨v, hrun, -⟩ := Driver.run_consider r.driver r.detect seen p s.world
  rw [Invoker.run_onWorld hrun] at h
  obtain ⟨rfl, hnew, -⟩ := Driver.eq_of_considered (congrArg Prod.fst h)
  exact ⟨rfl, hnew⟩

theorem sublist_given_courseFrom (r : DriverRun) (seen : List Path)
    (pulls : List (Action World Path)) (s : Session) :
    (r.courseFrom seen pulls s).paths.Sublist (r.courseFrom seen pulls s).given := by
  fun_induction courseFrom r seen pulls s with
  | case1 => exact .slnil
  | case2 => exact .slnil
  | case3 => exact .cons _ .slnil
  | case4 seen pull pulls s p s₁ hpull s₂ hconsider ih => exact ih.cons p
  | case5 seen pull pulls s p s₁ hpull c s₂ hconsider =>
    rw [Course.paths, List.map_singleton]
    simp only [invocation, (path_of_consider hconsider).1]
    exact .refl _
  | case6 seen pull pulls s p s₁ hpull c s₂ hconsider x s₃ hprocess ih =>
    rw [Course.paths, Course.giving, Course.treating, List.map_cons]
    simp only [invocation, (path_of_consider hconsider).1]
    exact ih.cons_cons p

/-- The candidates are among the paths given, in the same order. -/
theorem sublist_given (r : DriverRun) (source : Source) (w : World) :
    (r.course source w).paths.Sublist (r.course source w).given := by
  rw [course]
  split
  · exact .slnil
  · exact r.sublist_given_courseFrom _ _ _

theorem pairwise_courseFrom (r : DriverRun) (seen : List Path) (pulls : List (Action World Path))
    (s : Session) :
    (r.courseFrom seen pulls s).paths.Nodup ∧
      ∀ p ∈ (r.courseFrom seen pulls s).paths, p ∉ seen := by
  fun_induction courseFrom r seen pulls s with
  | case1 => simp [Course.paths]
  | case2 => simp [Course.paths]
  | case3 => simp [Course.paths]
  | case4 seen pull pulls s p s₁ hpull s₂ hconsider ih =>
    exact ⟨ih.1, fun q hq hmem => ih.2 q hq (List.mem_cons_of_mem p hmem)⟩
  | case5 seen pull pulls s p s₁ hpull c s₂ hconsider =>
    obtain ⟨hpath, hnew⟩ := path_of_consider hconsider
    simp [Course.paths, invocation, hpath, hnew]
  | case6 seen pull pulls s p s₁ hpull c s₂ hconsider x s₃ hprocess ih =>
    obtain ⟨hpath, hnew⟩ := path_of_consider hconsider
    have hpaths : (((r.courseFrom (p :: seen) pulls s₃).treating
        (r.invocation c s₂)).giving p).paths = p :: (r.courseFrom (p :: seen) pulls s₃).paths := by
      simp [Course.paths, Course.giving, Course.treating, invocation, hpath]
    rw [hpaths, List.nodup_cons]
    refine ⟨⟨fun hmem => ih.2 p hmem List.mem_cons_self, ih.1⟩, fun q hq => ?_⟩
    rcases List.mem_cons.mp hq with rfl | hq
    · exact hnew
    · exact fun hmem => ih.2 q hq (List.mem_cons_of_mem p hmem)

/-- No path makes two candidates. -/
theorem nodup_paths (r : DriverRun) (source : Source) (w : World) :
    (r.course source w).paths.Nodup := by
  rw [course]
  split
  · exact .nil
  · exact (r.pairwise_courseFrom _ _ _).1

/-! ### Invocations -/

/-- Dealing with a candidate is its invocation, and a note if that has a result. -/
theorem exists_run_process (r : DriverRun) (c : Candidate) (s : Session) :
    ∃ w, (r.process c).run s =
        ((r.invocation c s).result, ⟨w, (r.invocation c s).after.probe⟩) ∧
      w.journal.filterMap Event.called? =
        (r.invocation c s).after.world.journal.filterMap Event.called? := by
  rw [process, invocation]
  rcases hrun : (r.invoker.invoke c).run s with ⟨e | x, s'⟩
  · exact ⟨s'.world, Action.run_bind_error hrun, rfl⟩
  · refine ⟨_, Action.run_bind_ok hrun, ?_⟩
    exact Action.Silent.record (e := .noted logger _) rfl s'.world

/-- Acting on the world leaves what is known about the tool as it is. -/
theorem probe_of_run_onWorld {α : Type} {x : Action World α} {y : Except Fault α}
    (h : (Session.onWorld x).run s = (y, s')) : s'.probe = s.probe :=
  (congrArg (·.2.probe) h).symm

theorem exists_history_courseFrom (front : List Invocation)
    (hfront : History r.invoker front s.probe) :
    ∃ k, History r.invoker (front ++ (r.courseFrom seen pulls s).invocations) k := by
  fun_induction courseFrom r seen pulls s generalizing front with
  | case1 => exact ⟨_, by simpa using hfront⟩
  | case2 => exact ⟨_, by simpa using hfront⟩
  | case3 => exact ⟨_, by simpa using hfront⟩
  | case4 seen pull pulls s p s₁ hpull s₂ hconsider ih =>
    rw [← probe_of_run_onWorld hpull, ← probe_of_run_onWorld hconsider] at hfront
    exact ih front hfront
  | case5 seen pull pulls s p s₁ hpull c s₂ hconsider =>
    rw [← probe_of_run_onWorld hpull, ← probe_of_run_onWorld hconsider] at hfront
    exact ⟨_, hfront.next (v := r.invocation c s₂) rfl rfl⟩
  | case6 seen pull pulls s p s₁ hpull c s₂ hconsider x s₃ hprocess ih =>
    rw [← probe_of_run_onWorld hpull, ← probe_of_run_onWorld hconsider] at hfront
    obtain ⟨w, hrun, -⟩ := r.exists_run_process c s₂
    obtain rfl : s₃ = _ := congrArg Prod.snd (hprocess.symm.trans hrun)
    have hnext := ih _ (hfront.next (v := r.invocation c s₂) rfl rfl)
    rwa [List.append_assoc] at hnext

/-- The invocations of a course are a history of the invoker. -/
theorem exists_history_course (r : DriverRun) (source : Source) (w : World) :
    ∃ k, History r.invoker (r.course source w).invocations k := by
  rw [course]
  split
  · exact ⟨none, .start⟩
  · exact exists_history_courseFrom [] .start

/-- What makes a candidate is the path of a file, and has no arguments yet. -/
theorem fresh_of_mem_courseFrom {v : Invocation}
    (hv : v ∈ (r.courseFrom seen pulls s).invocations) :
    v.before.world.host.isFile v.candidate.path = .ok true ∧ v.candidate.options = [] := by
  -- considering a path leaves the host as it is
  have hfile : ∀ {seen : List Path} {p : Path} {c : Candidate} {s s' : Session},
      (Session.onWorld (r.driver.consider r.detect seen p)).run s = (.ok (some c), s') →
        s'.world.host.isFile c.path = .ok true ∧ c.options = [] := by
    intro seen p c s s' h
    obtain ⟨w, hrun, hhost⟩ := Driver.run_consider r.driver r.detect seen p s.world
    rw [Invoker.run_onWorld hrun] at h
    obtain ⟨rfl, -, hfile⟩ := Driver.eq_of_considered (congrArg Prod.fst h)
    have hworld : s'.world = w := congrArg (·.2.world) h.symm
    rw [hworld, hhost]
    exact ⟨hfile, rfl⟩
  fun_induction courseFrom r seen pulls s with
  | case1 => cases hv
  | case2 => cases hv
  | case3 => cases hv
  | case4 seen pull pulls s p s₁ hpull s₂ hconsider ih => exact ih hv
  | case5 seen pull pulls s p s₁ hpull c s₂ hconsider =>
    obtain rfl := List.mem_singleton.mp hv
    exact hfile hconsider
  | case6 seen pull pulls s p s₁ hpull c s₂ hconsider x s₃ hprocess ih =>
    rcases List.mem_cons.mp hv with rfl | hv
    · exact hfile hconsider
    · exact ih hv

theorem fresh_of_mem_course {v : Invocation} (hv : v ∈ (r.course source w).invocations) :
    v.before.world.host.isFile v.candidate.path = .ok true ∧ v.candidate.options = [] := by
  rw [course] at hv
  split at hv
  · cases hv
  · exact fresh_of_mem_courseFrom hv

/-- What is invoked can be read. -/
theorem exists_read_of_mem_course {v : Invocation} (hv : v ∈ (r.course source w).invocations) :
    ∃ bytes, v.before.world.host.read v.candidate.path = .ok bytes := by
  obtain ⟨a, bytes, y, t, hs⟩ := Host.isFile_eq_true_iff.mp (fresh_of_mem_course hv).1
  exact ⟨bytes, Host.read_of_stat hs⟩

theorem courseFrom_of_collect {summary summary' : Summary}
    (h : (r.collect seen summary pulls).run s = (.ok summary', s')) :
    (r.courseFrom seen pulls s).fault = none ∧ ∃ xs : List LintResult,
      summary'.results = summary.results ++ xs ∧
      (r.courseFrom seen pulls s).invocations.map (·.result) = xs.map .ok := by
  induction pulls generalizing seen summary s with
  | nil =>
    cases h
    exact ⟨rfl, [], by simp, rfl⟩
  | cons pull pulls ih =>
    rw [collect] at h
    obtain ⟨p, s₁, hpull, h⟩ := Action.exists_of_run_bind_ok h
    obtain ⟨c?, s₂, hconsider, h⟩ := Action.exists_of_run_bind_ok h
    simp only [courseFrom, hpull, hconsider]
    cases c? with
    | none => exact ih h
    | some c =>
      obtain ⟨x, s₃, hprocess, h⟩ := Action.exists_of_run_bind_ok h
      obtain ⟨w, hrun, -⟩ := r.exists_run_process c s₂
      have hresult : (r.invocation c s₂).result = .ok x :=
        congrArg Prod.fst (hrun.symm.trans hprocess)
      obtain ⟨hfault, xs, hxs, hresults⟩ := ih h
      simp only [hprocess]
      refine ⟨hfault, x :: xs, by rw [hxs, Summary.results_add, List.append_assoc]; rfl, ?_⟩
      rw [Course.giving, Course.treating, List.map_cons, hresult, hresults, List.map_cons]

/-- A run that comes to its end has given a summary of what its source gave. -/
theorem exists_collect_of_run {o : DriverOutcome} (h : (r.run source).run w = (.ok o, w')) :
    ∃ pulls w₁ s', source.run w = (.ok pulls, w₁) ∧
      (r.collect [] {} pulls).run ⟨w₁, none⟩ = (.ok o.summary, s') ∧
      ∃ status, (o.summary.finish r.settings).run s'.world = (.ok status, w') := by
  rw [run] at h
  obtain ⟨summary, w₁, hsummary, h⟩ := Action.exists_of_run_bind_ok h
  obtain ⟨status, w₂, hfinish, h⟩ := Action.exists_of_run_bind_ok h
  cases h
  obtain ⟨pulls, w₃, t, hopen, hcollect, rfl⟩ := exists_collect_of_summarize hsummary
  exact ⟨pulls, w₃, t, hopen, hcollect, status, hfinish⟩

/-- A run that comes to its end has the results of its invocations. -/
theorem course_of_run {o : DriverOutcome} (h : (r.run source).run w = (.ok o, w')) :
    (r.course source w).fault = none ∧
      (r.course source w).invocations.map (·.result) = o.summary.results.map .ok := by
  obtain ⟨pulls, w₁, s', hopen, hcollect, -⟩ := exists_collect_of_run h
  obtain ⟨hfault, xs, hxs, hresults⟩ := courseFrom_of_collect hcollect
  rw [List.nil_append] at hxs
  rw [course, hopen]
  exact ⟨hfault, by rw [hresults, hxs]⟩

theorem exists_result_of_run {o : DriverOutcome} (h : (r.run source).run w = (.ok o, w'))
    {v : Invocation} (hv : v ∈ (r.course source w).invocations) :
    ∃ x ∈ o.summary.results, v.result = .ok x := by
  have hmem : v.result ∈ o.summary.results.map .ok :=
    (course_of_run h).2 ▸ List.mem_map_of_mem (f := (·.result)) hv
  obtain ⟨x, hx, hv⟩ := List.mem_map.mp hmem
  exact ⟨x, hx, hv.symm⟩

/-! ### Commands in the journal -/

/-- Of a discreet runner an invocation leaves its commands in the journal. -/
theorem filterMap_called_invocation (hd : r.runner.Discreet) (c : Candidate) (s : Session) :
    (r.invocation c s).after.world.journal.filterMap Event.called? =
      s.world.journal.filterMap Event.called? ++ r.invoker.calls (r.invocation c s) := by
  obtain ⟨-, -, htalk, hjournal⟩ :=
    Invoker.dealt_transcript (i := r.invoker) (v := r.invocation c s) rfl
  rw [hjournal, htalk.filterMap_called hd]
  rfl

theorem filterMap_called_of_collect {summary summary' : Summary} (hd : r.runner.Discreet)
    (hpulls : ∀ pull ∈ pulls, pull.Silent)
    (h : (r.collect seen summary pulls).run s = (.ok summary', s')) :
    s'.world.journal.filterMap Event.called? =
      s.world.journal.filterMap Event.called? ++ r.commands (r.courseFrom seen pulls s) := by
  induction pulls generalizing seen summary s with
  | nil =>
    cases h
    simp [courseFrom, commands, exchanges]
  | cons pull pulls ih =>
    have hrest : ∀ pull ∈ pulls, pull.Silent := fun q hq => hpulls q (List.mem_cons_of_mem pull hq)
    rw [collect] at h
    obtain ⟨p, s₁, hpull, h⟩ := Action.exists_of_run_bind_ok h
    obtain ⟨c?, s₂, hconsider, h⟩ := Action.exists_of_run_bind_ok h
    -- no command is performed for pulling a path out of the source and considering it
    have hquiet : s₂.world.journal.filterMap Event.called? =
        s.world.journal.filterMap Event.called? := by
      have h₁ := Session.silent_onWorld (hpulls pull List.mem_cons_self) s
      have h₂ := Session.silent_onWorld (r.driver.silent_consider r.detect seen p) s₁
      rw [hpull] at h₁
      rw [hconsider] at h₂
      exact h₂.trans h₁
    simp only [courseFrom, hpull, hconsider]
    cases c? with
    | none => rw [ih hrest h, hquiet]; rfl
    | some c =>
      obtain ⟨x, s₃, hprocess, h⟩ := Action.exists_of_run_bind_ok h
      obtain ⟨w, hrun, hnote⟩ := r.exists_run_process c s₂
      obtain rfl : s₃ = _ := congrArg Prod.snd (hprocess.symm.trans hrun)
      simp only [hprocess]
      rw [ih hrest h, hnote, filterMap_called_invocation hd, hquiet, List.append_assoc]
      simp [commands, exchanges, Course.giving, Course.treating, Invoker.calls]

/-- With a discreet runner and a silent source the commands in the journal of a run are those of its
course. -/
theorem filterMap_called_of_run {o : DriverOutcome} (hd : r.runner.Discreet)
    (hsource : source.Silent) (h : (r.run source).run w = (.ok o, w')) :
    w'.journal.filterMap Event.called? =
      w.journal.filterMap Event.called? ++ r.commands (r.course source w) := by
  obtain ⟨pulls, w₁, s', hopen, hcollect, status, hfinish⟩ := exists_collect_of_run h
  have h₁ := hsource.1 w
  have h₂ := o.summary.silent_finish r.settings s'.world
  rw [hopen] at h₁
  rw [hfinish] at h₂
  rw [h₂, filterMap_called_of_collect hd (hsource.2 w pulls w₁ hopen) hcollect, h₁, course, hopen]

end DriverRun

end OptIn
