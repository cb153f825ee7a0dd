import OptIn.Proofs.Run.Course

/-!
# Output

Until the report nothing is printed on the stream for output, except by a command that is performed.
`ToolRunner.Mute` says of a runner that its commands print nothing there; then dealing with the
paths of a source keeps the output as it is (`DriverRun.keeps_collect`). Warnings go to the other
stream.
-/

namespace OptIn

/-- What is printed on the stream for output. -/
def Event.output? : Event → Option String
  | printed .out text => some text
  | _ => none

/-- The texts that have been printed on the stream for output. -/
def World.output (w : World) : List String := w.journal.filterMap Event.output?

/-- The output in the world of a session. -/
def Session.output (s : Session) : List String := s.world.output

/-- A runner is **mute** when nothing is printed on the stream for output while it performs a
command. -/
def ToolRunner.Mute (runner : ToolRunner) : Prop :=
  ∀ w c, ∀ e ∈ (runner w c).events, e.output? = none

section

variable {α : Type} {i : Invoker} {c : Candidate} {r : DriverRun}

theorem World.keeps_record {e : Event} (he : e.output? = none) : (record e).Keeps World.output :=
  fun w => by simp [World.output, World.log, he]

theorem World.keeps_ask (question : Host → Except Fault α) : (ask question).Keeps World.output :=
  fun _ => rfl

theorem World.keeps_onHost (x : Action Host α) : (onHost x).Keeps World.output := fun _ => rfl

theorem Session.keeps_output {x : Action World α} (hx : x.Keeps World.output) :
    (onWorld x).Keeps Session.output := keeps_onWorld hx

theorem Session.keeps_know (p : ToolProbe) : (know p).Keeps Session.output := fun _ => rfl

theorem ToolRunner.Mute.perform {runner : ToolRunner} (hm : runner.Mute) (c : Call) :
    (runner.perform c).Keeps World.output := by
  intro w
  have hown : (runner w c).events.filterMap Event.output? = [] :=
    List.filterMap_eq_nil_iff.mpr (hm w c)
  have hcalled : (Event.called c).output? = none := rfl
  simp [run_perform, answered, World.output, hcalled, hown]

theorem Driver.keeps_consider (d : Driver) (detect : Detector) (seen : List Path) (p : Path) :
    (d.consider detect seen p).Keeps World.output := by
  rw [consider]
  split
  · exact .pure none
  · refine .bind (World.keeps_ask _) fun file => ?_
    split
    · refine .bind ?_ fun relevant => .pure _
      rw [isRelevant]
      split
      · exact .pure true
      · split
        · exact .pure false
        · exact .bind (World.keeps_record rfl) fun _ => .bind (World.keeps_ask _) fun _ => .pure _
    · exact .pure none

theorem ResultCache.keeps_isValid (cache : ResultCache) (p : Path) :
    (cache.isValid p).Keeps World.output := by
  refine .bind (World.keeps_ask _).attempt fun times => ?_
  rcases times with e | times
  · dsimp only
    split
    · exact .pure false
    · exact .throw e
  · exact .bind (World.keeps_record rfl) fun _ => .pure _

theorem ResultCache.keeps_record (cache : ResultCache) (p : Path) :
    (cache.record p).Keeps World.output :=
  .bind (World.keeps_onHost _) fun _ => .bind (World.keeps_onHost _) fun _ =>
    World.keeps_record rfl

theorem ToolProbe.keeps_run {runner : ToolRunner} (hm : runner.Mute) (tool : String) :
    (ToolProbe.run runner tool).Keeps World.output := by
  refine .bind (hm.perform _).attempt fun answer => ?_
  rcases answer with e | done
  · dsimp only
    split
    · exact .pure _
    · exact .throw e
  · exact .ofExcept _

namespace Invoker

theorem keeps_warn (i : Invoker) (message : String) : (i.warn message).Keeps World.output := by
  refine .bind (World.keeps_record rfl) fun _ => ?_
  split
  · exact .pure ()
  · exact World.keeps_record rfl

theorem keeps_toolProbe (hm : i.runner.Mute) : i.toolProbe.Keeps Session.output := by
  refine .bind (fun _ => rfl) fun s => ?_
  split
  · exact .pure _
  · refine .bind (Session.keeps_output (ToolProbe.keeps_run hm _)) fun p =>
      .bind (Session.keeps_know p) fun _ =>
        .bind (Session.keeps_output (.bind (World.keeps_record rfl) fun _ => ?_)) fun _ => .pure p
    split
    · exact .pure ()
    · exact i.keeps_warn _

theorem keeps_judge (i : Invoker) (c : Candidate) (done : Completed) :
    (i.judge c done).Keeps World.output := by
  rw [judge]
  split
  · split
    · exact .bind (.pure ()) fun _ => .pure _
    · exact .bind (ResultCache.keeps_record _ _) fun _ => .pure _
  · exact .pure _

theorem keeps_lint (hm : i.runner.Mute) (c : Candidate) : (i.lint c).Keeps Session.output := by
  refine .bind (Session.keeps_output (World.keeps_record rfl)) fun _ =>
    .bind (Session.keeps_output (hm.perform _)).attempt fun answer => ?_
  rcases answer with e | done
  · dsimp only
    split
    · exact .bind (Session.keeps_know _) fun _ =>
        .bind (Session.keeps_output (i.keeps_warn _)) fun _ => .pure _
    · exact .throw e
  · exact Session.keeps_output (i.keeps_judge c done)

theorem keeps_settle (hm : i.runner.Mute) (c : Candidate) (d : Directive) :
    (i.settle c d).Keeps Session.output := by
  have hvouched : (i.vouched (withDirective c d)).Keeps World.output := by
    rw [vouched]
    split
    · exact .pure false
    · exact ResultCache.keeps_isValid _ _
  rw [settle]
  split
  · exact .pure _
  · refine .bind (Session.keeps_output hvouched) fun vouched => ?_
    split
    · exact .pure _
    · refine .bind (keeps_toolProbe hm) fun p => ?_
      split
      · exact keeps_lint hm _
      · exact .pure _

/-- With a mute runner an invocation has nothing printed on the stream for output. -/
theorem keeps_invoke (hm : i.runner.Mute) (c : Candidate) :
    (i.invoke c).Keeps Session.output := by
  have hread : (readDirective i.driver c.path).Keeps World.output :=
    .bind (World.keeps_ask _) fun _ => .bind (World.keeps_record rfl) fun _ => .pure _
  refine .bind (Session.keeps_output hread).attempt fun directive => ?_
  rcases directive with e | d
  · dsimp only
    split
    · exact .bind (Session.keeps_output (i.keeps_warn _)) fun _ => .pure _
    · exact .throw e
  · exact keeps_settle hm c d

end Invoker

namespace DriverRun

theorem keeps_process (hm : r.runner.Mute) (c : Candidate) : (r.process c).Keeps Session.output :=
  .bind (Invoker.keeps_invoke hm c) fun _ =>
    .bind (Session.keeps_output (World.keeps_record rfl)) fun _ => .pure _

/-- With a mute runner nothing is printed on the stream for output before the report. -/
theorem keeps_collect (hm : r.runner.Mute) (seen : List Path) (summary : Summary)
    {pulls : List (Action World Path)} (hpulls : ∀ pull ∈ pulls, pull.Keeps World.output) :
    (r.collect seen summary pulls).Keeps Session.output := by
  induction pulls generalizing seen summary with
  | nil => exact .pure summary
  | cons pull pulls ih =>
    have hrest : ∀ pull ∈ pulls, pull.Keeps World.output :=
      fun q hq => hpulls q (List.mem_cons_of_mem pull hq)
    refine .bind (Session.keeps_output (hpulls pull List.mem_cons_self)) fun p =>
      .bind (Session.keeps_output (r.driver.keeps_consider r.detect seen p)) fun candidate => ?_
    rcases candidate with _ | c
    · exact ih _ _ hrest
    · exact .bind (keeps_process hm c) fun x => ih _ _ hrest

end DriverRun

end

end OptIn
