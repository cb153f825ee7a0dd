import OptIn.Proofs.Invoker.Course
import OptIn.Proofs.Run.Selection
import OptIn.Proofs.Run.Totals

/-!
# The trace of a run

A run that is ended by a fault reports nothing, but it may have linted files and recorded
successes before. `DriverRun.trace` keeps the results that a run has come to in any case; a run that
comes to its end has these results (`summarize_ofPaths`). `DriverRun.Treated` lists, path by path,
how a trace can come about under a quiet runner, for proofs by induction.
-/

namespace OptIn

open ToolRunner (Answers)

/-- What a run has come to: results in order, the fault that ended it, and the session behind. -/
structure Trace where
  results : List LintResult := []
  fault : Option Fault := none
  session : Session

/-- The trace with an earlier result. -/
def Trace.after (x : LintResult) (t : Trace) : Trace := { t with results := x :: t.results }

namespace DriverRun

/-- The **trace** of a run on the paths to come, after those that have been seen. -/
def trace (r : DriverRun) : List Path → List Path → Session → Trace
  | _, [], s => { session := s }
  | seen, p :: ps, s =>
    match (Session.onWorld (r.driver.consider r.detect seen p)).run s with
    | (.error e, s) => { fault := some e, session := s }
    | (.ok none, s) => trace r (p :: seen) ps s
    | (.ok (some c), s) =>
      match (r.process c).run s with
      | (.error e, s) => { fault := some e, session := s }
      | (.ok x, s) => (trace r (p :: seen) ps s).after x

variable {r : DriverRun} {answers : Answers} {seen ps : List Path}

/-- Collecting results is following the trace. -/
theorem run_collect (r : DriverRun) (seen : List Path) (summary : Summary) (ps : List Path)
    (s : Session) :
    (r.collect seen summary (ps.map pure)).run s =
      ((match (r.trace seen ps s).fault with
        | none => .ok ((r.trace seen ps s).results.foldl Summary.add summary)
        | some e => .error e), (r.trace seen ps s).session) := by
  induction ps generalizing seen summary s with
  | nil => rfl
  | cons p ps ih =>
    have hpull : (Session.onWorld (pure p)).run s = (.ok p, s) := rfl
    rw [List.map_cons, collect, Action.run_bind_ok hpull, trace]
    rcases hc : (Session.onWorld (r.driver.consider r.detect seen p)).run s with ⟨e | _ | c, s₁⟩
    · rw [Action.run_bind_error hc]
    · rw [Action.run_bind_ok hc]
      exact ih (p :: seen) summary s₁
    · rw [Action.run_bind_ok hc]
      simp only
      rcases hx : (r.process c).run s₁ with ⟨e | x, s₂⟩
      · rw [Action.run_bind_error hx]
      · rw [Action.run_bind_ok hx]
        exact ih (p :: seen) (summary.add x) s₂

theorem results_foldl_add (xs : List LintResult) (s : Summary) :
    (xs.foldl Summary.add s).results = s.results ++ xs := by
  induction xs generalizing s with
  | nil => simp
  | cons x xs ih => rw [List.foldl_cons, ih, Summary.results_add, List.append_assoc]; rfl

/-- The results of a run that comes to its end are those of its trace. -/
theorem summarize_ofPaths (r : DriverRun) (ps : List Path) (w : World) :
    (r.summarize (.ofPaths ps)).run w =
      ((match (r.trace [] ps ⟨w, none⟩).fault with
        | none => .ok ((r.trace [] ps ⟨w, none⟩).results.foldl Summary.add {})
        | some e => .error e), (r.trace [] ps ⟨w, none⟩).session.world) := by
  have hopen : (Session.onWorld (Source.ofPaths ps)).run ⟨w, none⟩ =
      (.ok (ps.map pure), ⟨w, none⟩) := rfl
  rw [summarize, Session.begin, Action.run_within, Action.run_bind_ok hopen, run_collect]

/-- A run that comes to its end has the results of its trace, which has no fault. -/
theorem trace_of_run {w w' : World} {o : DriverOutcome}
    (h : (r.run (.ofPaths ps)).run w = (.ok o, w')) :
    (r.trace [] ps ⟨w, none⟩).fault = none ∧
      o.summary.results = (r.trace [] ps ⟨w, none⟩).results := by
  rw [run] at h
  obtain ⟨summary, w₁, hsummary, h⟩ := Action.exists_of_run_bind_ok h
  obtain ⟨status, w₂, -, h⟩ := Action.exists_of_run_bind_ok h
  cases h
  rw [summarize_ofPaths] at hsummary
  rcases hfault : (r.trace [] ps ⟨w, none⟩).fault with _ | e
  · rw [hfault] at hsummary
    cases hsummary
    exact ⟨rfl, results_foldl_add _ _⟩
  · rw [hfault] at hsummary
    cases hsummary

/-- How a trace comes about: the paths seen and to come, what is known about the tool and the host
before, the results and the fault, and what is known and the host behind. -/
inductive Treated (r : DriverRun) (answers : Answers) :
    List Path → List Path → Option ToolProbe → Host →
      List LintResult → Option Fault → Option ToolProbe → Host → Prop
  | done {seen k h} : Treated r answers seen [] k h [] none k h
  | passedOver {seen p ps k h xs e k' h'} : r.driver.considered r.detect seen p h = .ok none →
      Treated r answers (p :: seen) ps k h xs e k' h' →
      Treated r answers seen (p :: ps) k h xs e k' h'
  | refused {seen p ps k h e} : r.driver.considered r.detect seen p h = .error e →
      Treated r answers seen (p :: ps) k h [] (some e) k h
  | judged {seen p ps c k h x k₁ h₁ xs e k' h'} :
      r.driver.considered r.detect seen p h = .ok (some c) →
      Invoker.Invoked r.invoker answers c k h (.ok x) k₁ h₁ →
      Treated r answers (p :: seen) ps k₁ h₁ xs e k' h' →
      Treated r answers seen (p :: ps) k h (x :: xs) e k' h'
  | broken {seen p ps c k h e k' h'} : r.driver.considered r.detect seen p h = .ok (some c) →
      Invoker.Invoked r.invoker answers c k h (.error e) k' h' →
      Treated r answers seen (p :: ps) k h [] (some e) k' h'

theorem invoked_of_process (hq : r.runner.Quiet answers) {c : Candidate} {s s' : Session}
    {x : Except Fault LintResult} (hrun : (r.process c).run s = (x, s')) :
    Invoker.Invoked r.invoker answers c s.probe s.world.host x s'.probe s'.world.host := by
  rw [process] at hrun
  rcases hi : (r.invoker.invoke c).run s with ⟨e | x', s₁⟩
  · rw [Action.run_bind_error hi] at hrun
    cases hrun
    exact Invoker.invoked_of_run hq hi
  · rw [Action.run_bind_ok hi] at hrun
    have hnote : ∃ w, (World.note logger ("classified path=" ++ c.path.text ++ " as=" ++
        x'.classification.name)).run s₁.world = (.ok (), w) ∧ w.host = s₁.world.host :=
      ⟨_, rfl, rfl⟩
    obtain ⟨w, hnote, hhost⟩ := hnote
    rw [Action.run_bind_ok (Invoker.run_onWorld hnote)] at hrun
    cases hrun
    simp only [hhost]
    exact Invoker.invoked_of_run hq hi

/-- Under a quiet runner every trace comes about in one of the ways that are listed. -/
theorem treated_trace (hq : r.runner.Quiet answers) (seen ps : List Path) (s : Session) :
    Treated r answers seen ps s.probe s.world.host (r.trace seen ps s).results
      (r.trace seen ps s).fault (r.trace seen ps s).session.probe
      (r.trace seen ps s).session.world.host := by
  induction ps generalizing seen s with
  | nil => exact .done
  | cons p ps ih =>
    obtain ⟨w, hconsider, hhost⟩ := Driver.run_consider r.driver r.detect seen p s.world
    have hrun := Invoker.run_onWorld hconsider
    rw [trace, hrun]
    rcases hc : r.driver.considered r.detect seen p s.world.host with e | _ | c
    · simp only [hhost]
      exact .refused hc
    · have hrest := ih (p :: seen) { s with world := w }
      simp only [hhost] at hrest
      exact .passedOver hc hrest
    · simp only
      rcases hx : (r.process c).run { s with world := w } with ⟨e | x, s₁⟩
      · have hinvoked := invoked_of_process hq hx
        simp only [hhost] at hinvoked
        exact .broken hc hinvoked
      · have hinvoked := invoked_of_process hq hx
        simp only [hhost] at hinvoked
        exact .judged hc hinvoked (ih (p :: seen) s₁)

end DriverRun

end OptIn
