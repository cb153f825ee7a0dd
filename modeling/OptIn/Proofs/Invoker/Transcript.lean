import OptIn.Proofs.Invoker.Runner

/-!
# Transcripts of what a runner was asked

The journal of a world keeps the commands that were asked for, but not how they ended. A runner
answers alike in the same world, so the answers come back when a stretch of the journal is replayed
(`ToolRunner.replay`): this gives a **transcript**, with the exchanges in order, the remarks of
whoever asked, and the world that all this leads to. What a runner itself leaves in the journal is
not a remark, and a command which it mentions there has not been asked for.

`ToolRunner.Talk` says of two worlds that one follows from the other by remarks and commands alone,
and `Talk.exists_replay` that replaying gives exactly these. A runner is **discreet** if it never
mentions a command; then the commands can be read off the journal directly
(`Talk.filterMap_called`).
-/

namespace OptIn

namespace Event

/-- The command that was asked for. -/
def called? : Event → Option Call
  | called c => some c
  | _ => none

/-- The warning that was given. -/
def warned? : Event → Option String
  | warned m => some m
  | _ => none

end Event

/-- An **exchange**: a command, and how it ended. -/
structure Exchange where
  call : Call
  answer : Except Fault Completed

/-- A **transcript**: the exchanges with a runner, what else was left in the journal by whoever
asked, and the world behind it all. -/
structure Transcript where
  exchanges : List Exchange
  remarks : List Event
  world : World

namespace ToolRunner

/-- The world in which a command has been performed. -/
def answered (runner : ToolRunner) (w : World) (c : Call) : World :=
  { host := (runner w c).host, journal := w.journal ++ .called c :: (runner w c).events }

theorem run_perform (runner : ToolRunner) (c : Call) (w : World) :
    (runner.perform c).run w = ((runner w c).outcome, runner.answered w c) := rfl

/-- **Replays** a stretch of a journal in a world. The first events of it, as many as the number
says, are the runner's own, and are in the world's journal already. -/
def replay (runner : ToolRunner) : Nat → World → List Event → Transcript
  | _, w, [] => ⟨[], [], w⟩
  | k + 1, w, _ :: es => runner.replay k w es
  | 0, w, .called c :: es =>
    let t := runner.replay (runner w c).events.length (runner.answered w c) es
    { t with exchanges := ⟨c, (runner w c).outcome⟩ :: t.exchanges }
  | 0, w, e :: es =>
    let t := runner.replay 0 (w.log e) es
    { t with remarks := e :: t.remarks }

/-- The runner's own events are passed over. -/
theorem replay_length_append (runner : ToolRunner) (w : World) (own es : List Event) :
    runner.replay own.length w (own ++ es) = runner.replay 0 w es := by
  induction own with
  | nil => rfl
  | cons e own ih => exact ih

theorem replay_cons_of_remark (runner : ToolRunner) (w : World) {e : Event} (es : List Event)
    (he : e.called? = none) :
    runner.replay 0 w (e :: es) =
      { runner.replay 0 (w.log e) es with
        remarks := e :: (runner.replay 0 (w.log e) es).remarks } := by
  cases e with
  | called c => cases he
  | launched => rfl
  | printed => rfl
  | warned => rfl
  | sniffed => rfl
  | noted => rfl

/-- A world follows from another by a **talk** if there is nothing between them but the exchanges
with the runner and the remarks that are listed. -/
inductive Talk (runner : ToolRunner) (w : World) : List Exchange → List Event → World → Prop
  | silence : Talk runner w [] [] w
  | remark {xs es w' e} : Talk runner w xs es w' → e.called? = none →
      Talk runner w xs (es ++ [e]) (w'.log e)
  | exchange {xs es w'} (c : Call) : Talk runner w xs es w' →
      Talk runner w (xs ++ [⟨c, (runner w' c).outcome⟩]) es (runner.answered w' c)

namespace Talk

variable {runner : ToolRunner} {w w' w'' : World} {xs ys : List Exchange} {es fs : List Event}

theorem trans (ht : runner.Talk w xs es w') (ht' : runner.Talk w' ys fs w'') :
    runner.Talk w (xs ++ ys) (es ++ fs) w'' := by
  induction ht' with
  | silence => simpa using ht
  | remark _ he ih =>
    rw [← List.append_assoc]
    exact ih.remark he
  | exchange c _ ih =>
    rw [← List.append_assoc]
    exact ih.exchange c

/-- A single remark. -/
theorem of_log (runner : ToolRunner) (w : World) {e : Event} (he : e.called? = none) :
    runner.Talk w [] [e] (w.log e) := Talk.silence.remark he

/-- A single exchange. -/
theorem of_perform (runner : ToolRunner) (w : World) (c : Call) :
    runner.Talk w [⟨c, (runner w c).outcome⟩] [] (runner.answered w c) := Talk.silence.exchange c

/-- What a talk has left in the journal can be replayed, whatever stands behind it. -/
theorem exists_replay_append (ht : runner.Talk w xs es w') :
    ∃ events, w'.journal = w.journal ++ events ∧ ∀ more,
      runner.replay 0 w (events ++ more) =
        ⟨xs ++ (runner.replay 0 w' more).exchanges, es ++ (runner.replay 0 w' more).remarks,
          (runner.replay 0 w' more).world⟩ := by
  induction ht with
  | silence => exact ⟨[], by simp, fun more => rfl⟩
  | @remark xs es w' e _ he ih =>
    obtain ⟨events, hjournal, hreplay⟩ := ih
    refine ⟨events ++ [e], ?_, fun more => ?_⟩
    · rw [World.log, hjournal, List.append_assoc]
    · rw [List.append_assoc, List.singleton_append, hreplay,
        replay_cons_of_remark runner w' more he]
      simp
  | @exchange xs es w' c _ ih =>
    obtain ⟨events, hjournal, hreplay⟩ := ih
    refine ⟨events ++ .called c :: (runner w' c).events, ?_, fun more => ?_⟩
    · rw [answered, hjournal, List.append_assoc]
    · -- behind the command stand the events that the runner let happen
      have hcalled : runner.replay 0 w' (.called c :: ((runner w' c).events ++ more)) =
          { runner.replay 0 (runner.answered w' c) more with
            exchanges := ⟨c, (runner w' c).outcome⟩ ::
              (runner.replay 0 (runner.answered w' c) more).exchanges } := by
        rw [replay, replay_length_append]
      rw [List.append_assoc, List.cons_append, hreplay, hcalled]
      simp

/-- Replaying what a talk has left in the journal gives the talk. -/
theorem exists_replay (ht : runner.Talk w xs es w') :
    ∃ events, w'.journal = w.journal ++ events ∧ runner.replay 0 w events = ⟨xs, es, w'⟩ := by
  obtain ⟨events, hjournal, hreplay⟩ := ht.exists_replay_append
  refine ⟨events, hjournal, ?_⟩
  have h := hreplay []
  simpa [replay] using h

/-- Without an exchange the host stays as it is. -/
theorem host_eq (ht : runner.Talk w [] es w') : w'.host = w.host := by
  generalize hxs : ([] : List Exchange) = xs at ht
  induction ht with
  | silence => rfl
  | remark _ _ ih => exact ih hxs
  | exchange => simp at hxs

/-- What holds of all answers of a runner holds of those of a talk. -/
theorem answers (ht : runner.Talk w xs es w') {answers : Answers}
    (hanswers : ∀ w c, answers c (runner w c).outcome) : ∀ x ∈ xs, answers x.call x.answer := by
  induction ht with
  | silence => exact fun x hx => nomatch hx
  | remark _ _ ih => exact ih
  | exchange c _ ih =>
    intro x hx
    rcases List.mem_append.mp hx with hx | hx
    · exact ih x hx
    · cases List.mem_singleton.mp hx
      exact hanswers _ c

/-- In a talk with a quiet runner time passes, and nothing else changes. -/
theorem later (ht : runner.Talk w xs es w') {answers : Answers} (hq : runner.Quiet answers) :
    w.host.Later w'.host := by
  induction ht with
  | silence => exact .refl _
  | remark _ _ ih => exact ih
  | exchange c _ ih => exact ih.trans (hq _ c).2

end Talk

/-- A talk with certain warnings. -/
def Warns (runner : ToolRunner) (w : World) (xs : List Exchange) (ms : List String) (w' : World) :
    Prop :=
  ∃ es, runner.Talk w xs es w' ∧ es.filterMap Event.warned? = ms

namespace Warns

variable {runner : ToolRunner} {w w' w'' : World} {xs ys : List Exchange} {ms ns : List String}

theorem silence (runner : ToolRunner) (w : World) : runner.Warns w [] [] w :=
  ⟨[], .silence, rfl⟩

theorem trans (ht : runner.Warns w xs ms w') (ht' : runner.Warns w' ys ns w'') :
    runner.Warns w (xs ++ ys) (ms ++ ns) w'' := by
  obtain ⟨es, htalk, rfl⟩ := ht
  obtain ⟨fs, htalk', rfl⟩ := ht'
  exact ⟨es ++ fs, htalk.trans htalk', List.filterMap_append⟩

theorem of_note (runner : ToolRunner) (w : World) (logger text : String) :
    runner.Warns w [] [] (w.log (.noted logger text)) :=
  ⟨_, .of_log runner w rfl, rfl⟩

theorem of_perform (runner : ToolRunner) (w : World) (c : Call) :
    runner.Warns w [⟨c, (runner w c).outcome⟩] [] (runner.answered w c) :=
  ⟨_, .of_perform runner w c, rfl⟩

theorem host_eq (ht : runner.Warns w [] ms w') : w'.host = w.host := by
  obtain ⟨es, htalk, -⟩ := ht
  exact htalk.host_eq

end Warns

/-- A **discreet** runner never mentions a command in the journal. -/
def Discreet (runner : ToolRunner) : Prop := ∀ w c, ∀ e ∈ (runner w c).events, e.called? = none

theorem discreet_answering (status : List String → Int) : (answering status).Discreet :=
  fun _ _ _ he => nomatch he

/-- Of a discreet runner, the commands of a talk are those that the journal names. -/
theorem Talk.filterMap_called {runner : ToolRunner} {w w' : World} {xs : List Exchange}
    {es : List Event} (ht : runner.Talk w xs es w') (hd : runner.Discreet) :
    w'.journal.filterMap Event.called? =
      w.journal.filterMap Event.called? ++ xs.map Exchange.call := by
  induction ht with
  | silence => simp
  | remark _ he ih => simp [World.log, ih, he]
  | @exchange xs es w' c _ ih =>
    have hown : (runner w' c).events.filterMap Event.called? = [] :=
      List.filterMap_eq_nil_iff.mpr (hd w' c)
    simp [answered, ih, hown, Event.called?]

end ToolRunner

end OptIn
