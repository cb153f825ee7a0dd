import OptIn.Proofs.Host.Ladder
import OptIn.Proofs.Run.Faults
import OptIn.Proofs.Run.LeftBehind
import OptIn.Proofs.Run.Output
import OptIn.Proofs.Run.Progress

/-!
# Runs that break off

A fault ends a run where it happens. The paths before have been dealt with by then, as a run on just
these paths deals with them, and what follows is no more than what the fault itself leaves
(`DriverRun.Stops`): a source that gives no further path, a path that cannot be considered, or the
invocation for a candidate up to its fault. `DriverRun.breaksOff_of_fault` tells this of every run
whose source, once it is open, only looks at the world.

The run on the paths before comes to its end unless one of its results cannot be shown. On a host
whose links are shallow, with absolute paths and a root that is there, it does come to its end; with
a link so deep that the system does not take its absolute path it need not
(`DriverRun.not_exists_run_of_fault`).
-/

namespace OptIn

open ToolRunner (anything)
open Invoker (Invocation)

/-! ### Where a run stops -/

namespace DriverRun

/-- Where a run **stops** behind the paths that it has seen: the further path that it has been
given, if any, the further invocation, and the world behind the fault. -/
inductive Stops (r : DriverRun) (seen : List Path) (s : Session) (e : Fault) :
    List Path → List Invocation → World → Prop
  /-- The source gives no other path. -/
  | source : Stops r seen s e [] [] s.world
  /-- It cannot be found out whether the path makes a candidate. -/
  | considering {p w} : (r.driver.consider r.detect seen p).run s.world = (.error e, w) →
      Stops r seen s e [p] [] w
  /-- The invocation for the candidate that the path makes ends with the fault. -/
  | invoking {p c w s'} : (r.driver.consider r.detect seen p).run s.world = (.ok (some c), w) →
      (r.invoker.invoke c).run ⟨w, s.probe⟩ = (.error e, s') →
      Stops r seen s e [p] [r.invocation c ⟨w, s.probe⟩] s'.world

variable {r : DriverRun} {seen front : List Path} {pulls : List (Action World Path)}
  {source : Source} {s s' t : Session} {w w' : World} {c : Candidate} {p : Path} {e : Fault}
  {summary : Summary}

/-- What ends dealing with a candidate ends its invocation. -/
theorem invoke_of_process (h : (r.process c).run s = (.error e, s')) :
    (r.invoker.invoke c).run s = (.error e, s') := by
  rw [process] at h
  rcases hrun : (r.invoker.invoke c).run s with ⟨f | x, t⟩
  · rwa [Action.run_bind_error hrun] at h
  · rw [Action.run_bind_ok hrun] at h
    cases h

/-- A path that is there already is pulled out of nothing. -/
theorem run_collect_pure_cons (r : DriverRun) (seen : List Path) (summary : Summary) (p : Path)
    (ps : List Path) (s : Session) :
    (r.collect seen summary ((p :: ps).map pure)).run s =
      (Session.onWorld (r.driver.consider r.detect seen p) >>= fun
        | none => r.collect (p :: seen) summary (ps.map pure)
        | some c => do
          let x ← r.process c
          r.collect (p :: seen) (summary.add x) (ps.map pure)).run s := rfl

theorem courseFrom_pure_cons (r : DriverRun) (seen : List Path) (p : Path) (ps : List Path)
    (s : Session) :
    r.courseFrom seen ((p :: ps).map pure) s =
      match (Session.onWorld (r.driver.consider r.detect seen p)).run s with
      | (.error e, _) => { given := [p], fault := some e }
      | (.ok none, s) => (r.courseFrom (p :: seen) (ps.map pure) s).giving p
      | (.ok (some c), s) =>
        match (r.process c).run s with
        | (.error e, _) => { given := [p], invocations := [r.invocation c s], fault := some e }
        | (.ok _, s') =>
          ((r.courseFrom (p :: seen) (ps.map pure) s').treating (r.invocation c s)).giving p := rfl

/-- Pulling paths out of a source **halts** with a fault behind the paths in front: these are dealt
with as they are by themselves, and nothing follows but what the fault leaves. -/
structure Halts (r : DriverRun) (seen : List Path) (summary : Summary) (s : Session)
    (pulls : List (Action World Path)) (e : Fault) (front : List Path) (summary' : Summary)
    (s' : Session) (more : List Path) (vs : List Invocation) (t : Session) : Prop where
  dealt : (r.collect seen summary (front.map pure)).run s = (.ok summary', s')
  broken : (r.collect seen summary pulls).run s = (.error e, t)
  given : (r.courseFrom seen pulls s).given = front ++ more
  invocations : (r.courseFrom seen pulls s).invocations =
    (r.courseFrom seen (front.map pure) s).invocations ++ vs
  stops : r.Stops (front.reverse ++ seen) s' e more vs t.world
  /-- Paths that are there already do not run out. -/
  further : (∀ pull ∈ pulls, ∃ p, pull = pure p) → more ≠ []

section Halts

variable {pull : Action World Path} {more : List Path} {vs : List Invocation} {summary' : Summary}
  {s₁ s₂ : Session} {x : LintResult}

/-- Asking a source that only looks for a path leaves the session as it is. -/
theorem eq_of_run_pull {y : Except Fault Path} (hpull : pull.Keeps id)
    (h : (Session.onWorld pull).run s = (y, s₁)) : s₁ = s := by
  have hworld : (pull.run s.world).2 = s.world := hpull s.world
  rw [Session.onWorld, Action.run_within, hworld] at h
  exact (congrArg Prod.snd h).symm

theorem halts_of_source (summary : Summary) (pulls : List (Action World Path))
    (hpull : (Session.onWorld pull).run s = (.error e, s)) :
    r.Halts seen summary s (pull :: pulls) e [] summary s [] [] s where
  dealt := rfl
  broken := by rw [collect, Action.run_bind_error hpull]
  given := by rw [courseFrom, hpull]; rfl
  invocations := by rw [courseFrom, hpull]; rfl
  stops := .source
  further hgiven := by
    obtain ⟨p, rfl⟩ := hgiven pull List.mem_cons_self
    cases hpull

theorem halts_of_consider (summary : Summary) (pulls : List (Action World Path))
    (hpull : (Session.onWorld pull).run s = (.ok p, s))
    (hconsider : (Session.onWorld (r.driver.consider r.detect seen p)).run s = (.error e, s₁)) :
    r.Halts seen summary s (pull :: pulls) e [] summary s [p] [] s₁ where
  dealt := rfl
  broken := by rw [collect, Action.run_bind_ok hpull, Action.run_bind_error hconsider]
  given := by simp only [courseFrom, hpull, hconsider, List.nil_append]
  invocations := by simp only [courseFrom, hpull, hconsider]; rfl
  stops := .considering (Session.run_of_onWorld hconsider)
  further _ := List.cons_ne_nil p []

theorem halts_of_process (summary : Summary) (pulls : List (Action World Path))
    (hpull : (Session.onWorld pull).run s = (.ok p, s))
    (hconsider : (Session.onWorld (r.driver.consider r.detect seen p)).run s = (.ok (some c), s₁))
    (hprocess : (r.process c).run s₁ = (.error e, s₂)) :
    r.Halts seen summary s (pull :: pulls) e [] summary s [p] [r.invocation c s₁] s₂ where
  dealt := rfl
  broken := by
    rw [collect, Action.run_bind_ok hpull, Action.run_bind_ok hconsider,
      Action.run_bind_error hprocess]
  given := by simp only [courseFrom, hpull, hconsider, hprocess, List.nil_append]
  invocations := by simp only [courseFrom, hpull, hconsider, hprocess]; rfl
  stops := by
    have hs₁ : s₁ = ⟨s₁.world, s.probe⟩ := by rw [← probe_of_run_onWorld hconsider]
    have hinvoke := invoke_of_process hprocess
    rw [hs₁] at hinvoke ⊢
    exact .invoking (Session.run_of_onWorld hconsider) hinvoke
  further _ := List.cons_ne_nil p []

/-- A path that makes no candidate may come in front. -/
theorem Halts.ignoring (hpull : (Session.onWorld pull).run s = (.ok p, s))
    (hconsider : (Session.onWorld (r.driver.consider r.detect seen p)).run s = (.ok none, s₁))
    (hh : r.Halts (p :: seen) summary s₁ pulls e front summary' s' more vs t) :
    r.Halts seen summary s (pull :: pulls) e (p :: front) summary' s' more vs t where
  dealt := by
    rw [run_collect_pure_cons, Action.run_bind_ok hconsider]
    exact hh.dealt
  broken := by
    rw [collect, Action.run_bind_ok hpull, Action.run_bind_ok hconsider]
    exact hh.broken
  given := by
    simp only [courseFrom, hpull, hconsider, Course.giving, hh.given, List.cons_append]
  invocations := by
    rw [courseFrom_pure_cons, courseFrom, hpull]
    simp only [hconsider]
    exact hh.invocations
  stops := by
    rw [List.reverse_cons, List.append_assoc]
    exact hh.stops
  further hgiven := hh.further fun q hq => hgiven q (List.mem_cons_of_mem pull hq)

/-- So may one whose candidate is dealt with. -/
theorem Halts.treating (hpull : (Session.onWorld pull).run s = (.ok p, s))
    (hconsider : (Session.onWorld (r.driver.consider r.detect seen p)).run s = (.ok (some c), s₁))
    (hprocess : (r.process c).run s₁ = (.ok x, s₂))
    (hh : r.Halts (p :: seen) (summary.add x) s₂ pulls e front summary' s' more vs t) :
    r.Halts seen summary s (pull :: pulls) e (p :: front) summary' s' more vs t where
  dealt := by
    rw [run_collect_pure_cons, Action.run_bind_ok hconsider]
    exact (Action.run_bind_ok hprocess).trans hh.dealt
  broken := by
    rw [collect, Action.run_bind_ok hpull, Action.run_bind_ok hconsider,
      Action.run_bind_ok hprocess]
    exact hh.broken
  given := by
    simp only [courseFrom, hpull, hconsider, hprocess, Course.giving, Course.treating, hh.given,
      List.cons_append]
  invocations := by
    rw [courseFrom_pure_cons, courseFrom, hpull]
    simp only [hconsider, hprocess, Course.giving, Course.treating, hh.invocations,
      List.cons_append]
  stops := by
    rw [List.reverse_cons, List.append_assoc]
    exact hh.stops
  further hgiven := hh.further fun q hq => hgiven q (List.mem_cons_of_mem pull hq)

/-- **A run that breaks off deals with the paths before** its fault as it would without those that
follow, and stops there. -/
theorem exists_halts (summary : Summary) (hpulls : ∀ pull ∈ pulls, pull.Keeps id)
    (hfault : (r.courseFrom seen pulls s).fault = some e) :
    ∃ front summary' s' more vs t,
      r.Halts seen summary s pulls e front summary' s' more vs t := by
  induction pulls generalizing seen summary s with
  | nil => cases hfault
  | cons pull pulls ih =>
    have hrest : ∀ pull ∈ pulls, pull.Keeps id :=
      fun q hq => hpulls q (List.mem_cons_of_mem pull hq)
    rw [courseFrom] at hfault
    rcases hpull : (Session.onWorld pull).run s with ⟨f | p, s₁⟩ <;>
      obtain rfl := eq_of_run_pull (hpulls pull List.mem_cons_self) hpull <;>
      rw [hpull] at hfault
    · -- there is no path to be had
      cases hfault
      exact ⟨[], summary, s₁, [], [], s₁, halts_of_source summary pulls hpull⟩
    rcases hconsider : (Session.onWorld (r.driver.consider r.detect seen p)).run s₁ with
      ⟨f | _ | c, s₂⟩ <;> simp only [hconsider] at hfault
    · -- the path cannot be considered
      cases hfault
      exact ⟨[], summary, s₁, [p], [], s₂, halts_of_consider summary pulls hpull hconsider⟩
    · obtain ⟨front, summary', s', more, vs, t, hh⟩ := ih summary hrest hfault
      exact ⟨p :: front, summary', s', more, vs, t, hh.ignoring hpull hconsider⟩
    rcases hprocess : (r.process c).run s₂ with ⟨f | x, s₃⟩ <;> simp only [hprocess] at hfault
    · -- the candidate cannot be dealt with
      cases hfault
      exact ⟨[], summary, s₁, [p], [_], s₃,
        halts_of_process summary pulls hpull hconsider hprocess⟩
    · obtain ⟨front, summary', s', more, vs, t, hh⟩ := ih (summary.add x) hrest hfault
      exact ⟨p :: front, summary', s', more, vs, t, hh.treating hpull hconsider hprocess⟩

end Halts

/-- Of given paths a run is given those at the front. -/
theorem prefix_given_courseFrom (r : DriverRun) (seen ps : List Path) (s : Session) :
    (r.courseFrom seen (ps.map pure) s).given <+: ps := by
  induction ps generalizing seen s with
  | nil => exact List.nil_prefix
  | cons p ps ih =>
    rw [courseFrom_pure_cons]
    split
    · exact List.prefix_append [p] ps
    · exact List.prefix_cons_inj p |>.mpr (ih _ _)
    · split
      · exact List.prefix_append [p] ps
      · exact List.prefix_cons_inj p |>.mpr (ih _ _)

/-! ### What a run that breaks off leaves -/

/-- What follows a summary of given paths is its report. -/
theorem run_ofPaths_of_collect
    (h : (r.collect [] {} (front.map pure)).run ⟨w, none⟩ = (.ok summary, s)) :
    (r.run (.ofPaths front)).run w = (do
      let status ← summary.finish r.settings
      return (⟨r.driver.name, summary, status⟩ : DriverOutcome)).run s.world := by
  have hopen : (Session.onWorld (Source.ofPaths front)).run ⟨w, none⟩ =
      (.ok (front.map pure), ⟨w, none⟩) := rfl
  have hsummary : (r.summarize (.ofPaths front)).run w = (.ok summary, s.world) := by
    rw [summarize, Session.begin, Action.run_within, Action.run_bind_ok hopen, h]
  rw [run, Action.run_bind_ok hsummary]

theorem tallied_of_run_collect
    (h : (r.collect [] {} pulls).run t = (.ok summary, s)) : summary.Tallied :=
  tallied_of_collect Summary.tallied_empty h

/-- A run **breaks off** with a fault behind the paths in front. -/
structure BreaksOff (r : DriverRun) (source : Source) (w : World) (e : Fault) (front : List Path)
    (summary : Summary) (s : Session) (w' : World) : Prop where
  /-- The fault ends the run. -/
  broken : (r.run source).run w = (.error e, w')
  /-- The paths in front are dealt with as a run on just these deals with them. -/
  dealt : (r.collect [] {} (front.map pure)).run ⟨(source.run w).2, none⟩ = (.ok summary, s)
  /-- No other path has been asked for than the one at fault, and nothing is done behind it. -/
  stops : ∃ more vs, (r.course source w).given = front ++ more ∧
    (r.course source w).invocations =
      (r.course (.ofPaths front) (source.run w).2).invocations ++ vs ∧
    r.Stops front.reverse s e more vs w'
  /-- Of a list of paths it is the one behind those in front. -/
  listed : ∀ ps, source = .ofPaths ps →
    ∃ p rest, ps = front ++ p :: rest ∧ (r.course source w).given = front ++ [p]
  /-- There is no report. -/
  unprinted : r.runner.Mute → w'.output = (source.run w).2.output
  /-- The run on the paths in front comes to its end if and only if its results can be shown. -/
  returns : (∃ o w₁, (r.run (.ofPaths front)).run (source.run w).2 = (.ok o, w₁)) ↔
    summary.Shown s.world.host r.settings.root
  /-- At its end it prints its report, and nothing else follows. -/
  reported : ∀ o w₁, (r.run (.ofPaths front)).run (source.run w).2 = (.ok o, w₁) →
    o.summary = summary ∧ ∃ stream text, w₁ = s.world.log (.printed stream text)

theorem Stops.length_le {more : List Path} {vs : List Invocation}
    (hs : r.Stops seen s e more vs w') : more.length ≤ 1 := by
  cases hs <;> simp

theorem returns_iff (h : (r.collect [] {} (front.map pure)).run ⟨w, none⟩ = (.ok summary, s)) :
    (∃ o w₁, (r.run (.ofPaths front)).run w = (.ok o, w₁)) ↔
      summary.Shown s.world.host r.settings.root := by
  rw [run_ofPaths_of_collect h, ← Summary.exists_finish_iff _ (tallied_of_run_collect h)]
  constructor
  · rintro ⟨o, w₁, hrun⟩
    obtain ⟨status, w₂, hfinish, -⟩ := Action.exists_of_run_bind_ok hrun
    exact ⟨status, w₂, hfinish⟩
  · rintro ⟨status, w₁, hfinish⟩
    exact ⟨_, w₁, Action.run_bind_ok hfinish⟩

theorem reported_of_run
    (h : (r.collect [] {} (front.map pure)).run ⟨w, none⟩ = (.ok summary, s)) {o : DriverOutcome}
    (hrun : (r.run (.ofPaths front)).run w = (.ok o, w')) :
    o.summary = summary ∧ ∃ stream text, w' = s.world.log (.printed stream text) := by
  rw [run_ofPaths_of_collect h] at hrun
  obtain ⟨status, w₁, hfinish, hrun⟩ := Action.exists_of_run_bind_ok hrun
  cases hrun
  exact ⟨rfl, (Summary.printed_of_finish hfinish).2⟩

/-- A source that cannot be opened ends the run before anything else. -/
theorem run_of_unopened (h : source.run w = (.error e, w')) :
    (r.run source).run w = (.error e, w') := by
  have hsummary : (r.summarize source).run w = (.error e, w') := by
    rw [summarize, Session.begin, Action.run_within,
      Action.run_bind_error (Invoker.run_onWorld (s := ⟨w, none⟩) h)]
  rw [run, Action.run_bind_error hsummary]

theorem run_of_collect_error (hopen : source.run w = (.ok pulls, w'))
    (h : (r.collect [] {} pulls).run ⟨w', none⟩ = (.error e, t)) :
    (r.run source).run w = (.error e, t.world) := by
  have hsummary : (r.summarize source).run w = (.error e, t.world) := by
    rw [summarize, Session.begin, Action.run_within,
      Action.run_bind_ok (Invoker.run_onWorld (s := ⟨w, none⟩) hopen), h]
  rw [run, Action.run_bind_error hsummary]

/-- A source that cannot be opened gives nothing. -/
theorem breaksOff_of_unopened {f : Fault} (hopen : source.run w = (.error f, w')) :
    r.BreaksOff source w f [] {} ⟨w', none⟩ w' := by
  have hcourse : r.course source w = { fault := some f } := by rw [course, hopen]
  have hdealt : (r.collect [] {} ([].map pure)).run ⟨(source.run w).2, none⟩ =
      (.ok {}, ⟨w', none⟩) := by
    rw [hopen]
    rfl
  refine ⟨run_of_unopened hopen, hdealt,
    ⟨[], [], by rw [hcourse]; rfl, by rw [hcourse]; rfl, .source⟩, ?_, ?_, returns_iff hdealt,
    fun o w₁ => reported_of_run hdealt⟩
  · rintro ps rfl
    cases hopen
  · rw [hopen]
    exact fun _ => rfl

/-- The run on a source that is open breaks off where pulling paths out of it halts. -/
theorem Halts.breaksOff {more : List Path} {vs : List Invocation}
    (hopen : source.run w = (.ok pulls, w')) (hpulls : ∀ pull ∈ pulls, pull.Keeps id)
    (hh : r.Halts [] {} ⟨w', none⟩ pulls e front summary s more vs t) :
    r.BreaksOff source w e front summary s t.world := by
  have hcourse : r.course source w = r.courseFrom [] pulls ⟨w', none⟩ := by rw [course, hopen]
  have hdealt : (r.collect [] {} (front.map pure)).run ⟨(source.run w).2, none⟩ =
      (.ok summary, s) := by rw [hopen]; exact hh.dealt
  refine ⟨run_of_collect_error hopen hh.broken, hdealt,
    ⟨more, vs, by rw [hcourse, hh.given], ?_, by simpa using hh.stops⟩, ?_, ?_,
    returns_iff hdealt, fun o w₁ => reported_of_run hdealt⟩
  · rw [hcourse, hh.invocations, hopen]
    rfl
  · rintro ps rfl
    cases hopen
    have hone := hh.further fun pull hpull => by
      obtain ⟨p, -, rfl⟩ := List.mem_map.mp hpull
      exact ⟨p, rfl⟩
    obtain ⟨p, rfl⟩ : ∃ p, more = [p] := List.length_eq_one_iff.mp
      (Nat.le_antisymm hh.stops.length_le (List.length_pos_iff.mpr hone))
    obtain ⟨rest, hps⟩ := hh.given ▸ r.prefix_given_courseFrom [] ps ⟨w, none⟩
    exact ⟨p, rest, by simpa using hps.symm, by rw [hcourse, hh.given]⟩
  · intro hm
    have hkeeps := keeps_collect hm [] {} (fun pull hpull w => by
      have hworld : (pull.run w).2 = w := hpulls pull hpull w
      rw [hworld]) ⟨w', none⟩
    rw [hh.broken] at hkeeps
    rw [hopen]
    exact hkeeps

/-- **A run that a fault ends breaks off.** -/
theorem exists_breaksOff (hreads : source.Reads) (hfault : (r.course source w).fault = some e) :
    ∃ front summary s w', r.BreaksOff source w e front summary s w' := by
  rcases hopen : source.run w with ⟨f | pulls, w₀⟩ <;> rw [course, hopen] at hfault
  · cases hfault
    exact ⟨[], {}, ⟨w₀, none⟩, w₀, breaksOff_of_unopened hopen⟩
  · have hpulls := hreads w pulls w₀ hopen
    obtain ⟨front, summary, s, more, vs, t, hh⟩ := exists_halts {} hpulls hfault
    exact ⟨front, summary, s, t.world, hh.breaksOff hopen hpulls⟩

/-! ### Runs that come to their end -/

/-- The paths of a run are **plain** on a host where they are absolute, the root is there, and no
link lies so deep that the system does not take its absolute path. -/
structure Plain (r : DriverRun) (h : Host) (ps : List Path) : Prop where
  orderly : h.Orderly
  shallow : h.Shallow
  root : r.settings.root.Proper ∧ r.settings.root.isAbsolute = true ∧
    ∃ y, h.stat r.settings.root = .ok y
  cacheRoot : r.settings.cacheRoot.Proper
  paths : ∀ p ∈ ps, p.Proper ∧ p.isAbsolute = true

/-- What plain paths come to can be shown. -/
theorem Plain.shown (hplain : r.Plain w.host front) (hq : r.runner.Quiet anything)
    (h : (r.collect [] {} (front.map pure)).run ⟨w, none⟩ = (.ok summary, s)) :
    summary.Shown s.world.host r.settings.root := by
  have ho := hplain.orderly
  rw [run_collect] at h
  obtain ⟨hx, rfl⟩ := Prod.mk.inj h
  have hresults : summary.results = (r.trace [] front ⟨w, none⟩).results := by
    rcases hfault : (r.trace [] front ⟨w, none⟩).fault with _ | f
    · rw [hfault] at hx
      cases hx
      exact results_foldl_add _ _
    · rw [hfault] at hx
      cases hx
  have hcache : r.invoker.CacheProper := by
    intro cache hc
    obtain ⟨-, rfl⟩ := cache?_eq_some_iff.mp hc
    exact hplain.cacheRoot.child _
  obtain ⟨hg, hfiles⟩ := (treated_trace hq [] front ⟨w, none⟩).grows hcache ho
    fun p hp => (hplain.paths p hp).1
  obtain ⟨hproper, habs, y, hroot⟩ := hplain.root
  refine Summary.shown_of_absolute (hg.orderly ho) (hplain.shallow.alters hg.toAlters)
    ⟨hproper, habs, hg.exists_stat ho hproper hroot⟩ fun x hx => ?_
  obtain ⟨hmem, hf⟩ := hfiles x (hresults ▸ hx)
  obtain ⟨a, bytes, y, t, hs⟩ := Host.isFile_eq_true_iff.mp hf
  exact ⟨(hplain.paths _ hmem).1, (hplain.paths _ hmem).2, _, hs⟩

/-- **An aborted run is an exact prefix.** A run that a fault ends, whether of its source or over a
path, has dealt with the paths before as a run on just these paths deals with them, and stops. That
run comes to its end unless one of its results cannot be shown, and so with plain paths and a runner
that changes nothing. -/
theorem breaksOff_of_fault (hreads : source.Reads) (hfault : (r.course source w).fault = some e) :
    ∃ front summary s w', r.BreaksOff source w e front summary s w' ∧
      (r.runner.Quiet anything → r.Plain (source.run w).2.host front →
        ∃ o w₁, (r.run (.ofPaths front)).run (source.run w).2 = (.ok o, w₁)) := by
  obtain ⟨front, summary, s, w', hb⟩ := exists_breaksOff hreads hfault
  exact ⟨front, summary, s, w', hb, fun hq hplain => hb.returns.mpr (hplain.shown hq hb.dealt)⟩

end DriverRun

namespace ToolRunner

/-- The runner that changes nothing, breaks down over one file, and succeeds with all others. -/
def tripping (file : String) : ToolRunner := fun w c =>
  { outcome := if c.command.getLast? = some file then .error (.reported .runtime "broken")
      else .ok { command := c.command, status := 0 }
    host := w.host }

theorem quiet_tripping (file : String) : (tripping file).Quiet anything :=
  fun w _ => ⟨trivial, .refl w.host⟩

end ToolRunner

namespace DriverRun

theorem breaksOff_of_fault_sample :
    let w : World := ⟨.holding [["r"]] [(["r", "a.py"], sampleBytes), (["r", "b.py"], sampleBytes),
      (["r", "c.py"], sampleBytes)], []⟩
    let r := { sample 0 with runner := .tripping "/r/b.py" }
    let source := Source.ofPaths
      [.absolute ["r", "a.py"], .absolute ["r", "b.py"], .absolute ["r", "c.py"]]
    source.Reads ∧ (r.course source w).fault = some (.reported .runtime "broken") ∧
      ∃ front summary s w',
        r.BreaksOff source w (.reported .runtime "broken") front summary s w' ∧
        ∃ o w₁, (r.run (.ofPaths front)).run w = (.ok o, w₁) := by
  intro w r source
  have hreads : source.Reads := Source.reads_ofPaths _
  have hfault : (r.course source w).fault = some (.reported .runtime "broken") := by
    decide +kernel
  obtain ⟨front, summary, s, w', hb, hreturns⟩ := breaksOff_of_fault hreads hfault
  obtain ⟨p, rest, hps, -⟩ := hb.listed _ rfl
  have hpaths : ∀ q ∈ [Path.absolute ["r", "a.py"], .absolute ["r", "b.py"],
      .absolute ["r", "c.py"]], q.Proper ∧ q.isAbsolute = true := by decide
  have hplain : r.Plain w.host front :=
    ⟨by decide, Host.shallow_holding _ _, ⟨by decide, rfl, (["r"], .directory 0),
      by decide +kernel⟩, by decide, fun q hq => hpaths q (hps ▸ List.mem_append_left _ hq)⟩
  exact ⟨hreads, hfault, front, summary, s, w', hb, hreturns (ToolRunner.quiet_tripping _) hplain⟩

end DriverRun

/-! ### Paths before a fault that cannot be shown -/

namespace Host

/-- Resolving does not depend on the time. -/
theorem Later.resolve_eq {h h' : Host} (hl : h.Later h') (p : Path) :
    h'.resolve p = h.resolve p := by
  have hfrom := resolveFrom_congr fun t => hl.eq (·.linkAt? t) fun _ => rfl
  have hlimit : h'.depthLimit = h.depthLimit := hl.eq depthLimit fun _ => rfl
  have hhere : h'.here = h.here := hl.eq here fun _ => rfl
  simp only [resolve, hfrom, hlimit, hhere, hl.stat_eq]

/-- A name of 252 bytes. -/
def longName : String := String.ofList (List.replicate 63 '𝔡')

/-- A name that makes a path too long below sixteen directories of the long one. -/
def lastName : String := "𝔨𝔨𝔨𝔨𝔨𝔨𝔨𝔨𝔨𝔨𝔨𝔨"

/-- A host with a ladder of sixteen directories. From a link in the lowest one, whose own absolute
path the system does not take, it is one step up to the directory `out`; from the lowest directory
itself, `out` is a link into a circle. -/
def cavernous : Host :=
  let level := fun n => List.replicate n longName
  let plain := Host.holding
    ((List.range 16).map (fun n => level (n + 1)) ++ [["e"], ["e", "e"], ["e", "out"]])
    [(["e", "x.py"], DriverRun.sampleBytes), (["e", "y.py"], DriverRun.sampleBytes)]
  { plain with
    disk := ⟨plain.disk.entries ++
      (List.range 16).map (fun n => (level n ++ ["d"], .link longName)) ++
      [(level 16 ++ [lastName], .link "/e/e"), (level 16 ++ ["out"], .link "/loop"),
        (["loop"], .link "loop")]⟩ }

/-- The path of that directory, down the ladder and by way of the link. -/
def wayOut : Path := .absolute (List.replicate 16 "d" ++ [lastName, "..", "out"])

/-- What stands where on that host. -/
theorem node?_cavernous : cavernous.Orderly ∧
    (∀ n ∈ List.range 17,
      cavernous.disk.node? (List.replicate n longName) = some (.directory 0)) ∧
    (∀ n ∈ List.range 16,
      cavernous.disk.node? (List.replicate n longName ++ ["d"]) = some (.link longName)) ∧
    cavernous.disk.node? (List.replicate 16 longName ++ ["out"]) = some (.link "/loop") ∧
    cavernous.disk.node? ["loop"] = some (.link "loop") := by
  decide +kernel

theorem size_longName : longName.utf8ByteSize = 252 := Path.utf8ByteSize_replicate 63 '𝔡'

theorem ladder_cavernous : cavernous.Ladder "d" longName 16 where
  spelled := by
    obtain ⟨hname, hup, hnull⟩ : Path.ProperName longName ∧ longName ≠ ".." ∧
        holdsNull longName = false := Path.named_replicate (by decide) (by decide) (by decide)
    intro s hs
    rcases List.mem_cons.mp hs with rfl | hs
    · decide
    · rw [List.mem_singleton.mp hs]
      exact ⟨hname, hup, hnull, by rw [size_longName]; decide⟩
  directory n hn :=
    ⟨0, node?_cavernous.2.1 n (List.mem_range.mpr (Nat.lt_succ_of_le hn))⟩
  link n hn := node?_cavernous.2.2.1 n (List.mem_range.mpr hn)

/-- The system finds the directory. -/
theorem stat_wayOut : cavernous.stat wayOut = .ok (["e", "out"], .directory 0) := by
  have hp : wayOut.Proper := by decide
  have ha : wayOut.Askable := ⟨by decide, by decide⟩
  have hfollow : cavernous.disk.follow .use 24 (List.replicate 16 longName)
      [lastName, "..", "out"] = .ok (.taken ["e", "out"] (.directory 0)) := by decide +kernel
  have hway : cavernous.disk.follow .use Disk.linkLimit (cavernous.startOf wayOut) wayOut.parts =
      .ok (.taken ["e", "out"] (.directory 0)) :=
    (ladder_cavernous.follow_eq (Nat.le_refl 16)).trans hfollow
  rw [stat_eq_ok_iff_placeOf, placeOf_eq .use node?_cavernous.1 hp ha, hway]
  rfl

/-- The trail to the lowest directory. -/
def lowest : Trail := trailTo (List.replicate 16 longName)

theorem linkAt?_lastName : cavernous.linkAt? (lowest.down lastName) = none := by
  refine linkAt?_of_long (a := List.replicate 16 longName ++ [lastName]) _ ?_
  have hlength : lastName.utf8ByteSize = 48 := by decide
  rw [Path.utf8ByteSize_text_replicate_append, size_longName, hlength]
  decide

theorem linkAt?_out : cavernous.linkAt? (lowest.down "out") = some "/loop" := by
  obtain ⟨-, -, -, hnode, -⟩ := node?_cavernous
  refine linkAt?_of_short (a := List.replicate 16 longName ++ ["out"]) ?_ ?_ hnode
  · rw [List.mem_append, not_or]
    exact ⟨ladder_cavernous.notUp 16, by decide⟩
  · have hlength : "out".utf8ByteSize = 3 := by decide
    rw [Path.utf8ByteSize_text_replicate_append, size_longName, hlength]
    decide

theorem linkAt?_loop : cavernous.linkAt? (Trail.root.down "loop") = some "loop" :=
  linkAt?_of_short (a := ["loop"]) (by decide) (by decide) node?_cavernous.2.2.2.2

/-- Resolving does not see the link, goes up to the lowest directory, and enters `out`. -/
theorem resolveFrom_lowest (depth : Nat) :
    cavernous.resolveFrom (depth + 3) lowest [lastName, "..", "out"]
      (Ladder.rungs "d" longName 16) = .ok (.looping "/loop/") := by
  have hother : ∀ {a : Address} {name : String}, name ≠ "d" →
      (Ladder.rungs "d" longName 16).lookup (trailTo (a ++ [name])) = none := fun hname =>
    Ladder.lookup_rungs fun k _ heq =>
      hname (List.singleton_inj.mp (List.append_inj' heq rfl).2)
  have hout : (Ladder.rungs "d" longName 16).lookup (lowest.down "out") = none :=
    hother (by decide)
  have hloop : ((lowest.down "out", none) :: Ladder.rungs "d" longName 16).lookup
      (Trail.root.down "loop") = none := by
    have hne : (Trail.root.down "loop" == lowest.down "out") = false :=
      beq_false_of_ne fun heq => absurd (congrArg (·.names.length) heq) (by decide)
    rw [List.lookup_cons, hne]
    exact hother (a := []) (by decide)
  have htarget : slashPieces "/loop" = ["", "loop"] := by decide
  have htarget' : slashPieces "loop" = ["loop"] := by decide
  have hrest : joinedText (joinedText (Trail.root.down "loop").text ("/".intercalate []))
      ("/".intercalate []) = "/loop/" := by decide
  rw [resolveFrom_plain (by decide) (by decide) (by decide) (by decide) linkAt?_lastName,
    resolveFrom_up, Trail.up_down (by decide),
    resolveFrom_enter (by decide) (by decide) (by decide) (by decide) linkAt?_out hout,
    if_pos (by decide), htarget, resolveFrom_stay (.inl rfl),
    resolveFrom_enter (by decide) (by decide) (by decide) (by decide) linkAt?_loop hloop,
    if_neg (by decide), htarget', resolveFrom_looping (by decide) (by decide) (by decide)
      (by decide) linkAt?_loop List.lookup_cons_self]
  exact congrArg (fun s => Except.ok (OptIn.Resolved.looping s)) hrest

/-- The directory cannot be resolved: the way ends in a circle. -/
theorem resolve_wayOut : cavernous.resolve wayOut = .error (.linkLoop "/loop") := by
  have hrungs : ∀ k < 16, (Path.absolute (List.replicate k longName ++ ["d"])).text.utf8ByteSize ≤
      Disk.textLimit := by
    intro k hk
    have hlength : "d".utf8ByteSize = 1 := by decide
    rw [Path.utf8ByteSize_text_replicate_append, size_longName, hlength, Disk.textLimit]
    omega
  have hpieces : slashPieces wayOut.text =
      "" :: (List.replicate 16 "d" ++ [lastName, "..", "out"]) := by
    have htext : wayOut.text =
        "/" ++ "/".intercalate (List.replicate 16 "d" ++ [lastName, "..", "out"]) := rfl
    rw [htext, Path.slashPieces_append_slash, slashPieces_intercalate (by simp) (by decide)]
  have hlimit : 3 ≤ cavernous.depthLimit := by decide
  have habs : wayOut.isAbsolute = true := rfl
  have hresolution : cavernous.resolution wayOut = .ok (.looping "/loop/") := by
    rw [resolution, if_pos habs, hpieces, ← Nat.sub_add_cancel hlimit,
      resolveFrom_stay (.inl rfl), ladder_cavernous.resolveFrom_eq (Nat.le_refl 16) hrungs]
    exact resolveFrom_lowest _
  exact resolve_of_loop hresolution (by decide +kernel)

end Host

namespace DriverRun

/-- Where the root leads into a circle no path can be shown. -/
theorem lines_of_circle {h : Host} {summary : Summary} {x : LintResult} {root q : Path} {t : String}
    (hsummary : summary.results = [x]) (hx : x.classification ≠ .cached)
    (hq : h.resolve x.candidate.path = .ok q) (hroot : h.resolve root = .error (.linkLoop t)) :
    summary.lines h root = .error (.linkLoop t) := by
  have hshown : displayPath h x.candidate.path root = .error (.linkLoop t) := by
    rw [displayPath, hq, hroot]
    rfl
  rw [Summary.lines, hsummary, List.filter_cons_of_pos (by simpa using hx), List.mapM_cons,
    Summary.resultLine, hshown]
  rfl

/-- A link that the system follows is none for resolving, if its absolute path is too long; on the
other way that this takes it can run in a circle. Then the run on the paths before a fault does not
come to its end. -/
theorem not_exists_run_of_fault :
    let w : World := ⟨.cavernous, []⟩
    let r := { sample 0 with
      driver := { Driver.python with useCache := false },
      settings := { root := Host.wayOut, cacheRoot := .absolute ["e", "cache"] },
      runner := .tripping "/e/y.py" }
    let p := Path.absolute ["e", "x.py"]
    let source := Source.ofPaths [p, .absolute ["e", "y.py"]]
    w.host.Orderly ∧ r.runner.Quiet anything ∧
      w.host.stat r.settings.root = .ok (["e", "out"], .directory 0) ∧
      ((r.course source w).fault = some (.reported .runtime "broken") ∧
        (r.course source w).given = [p, .absolute ["e", "y.py"]] ∧
        ((r.run (.ofPaths [p])).run w).1 = .error (.linkLoop "/loop")) := by
  intro w r p source
  have hquiet : r.runner.Quiet anything := ToolRunner.quiet_tripping _
  refine ⟨Host.node?_cavernous.1, hquiet, Host.stat_wayOut, by decide +kernel, by decide +kernel,
    ?_⟩
  have hresults : ((r.collect [] {} ([p].map pure)).run ⟨w, none⟩).1.toOption.map (·.results) =
      some [⟨⟨p, .python, []⟩, .passed, some 0⟩] := by decide +kernel
  obtain ⟨summary, hfst, hsummary⟩ := Option.map_eq_some_iff.mp hresults
  obtain ⟨s, hcollect⟩ : ∃ s, (r.collect [] {} ([p].map pure)).run ⟨w, none⟩ = (.ok summary, s) :=
    ⟨_, Action.run_eq_of_fst (Driver.eq_ok_of_toOption hfst)⟩
  -- without a cache the run changes nothing that the report depends on
  have hlater : w.host.Later s.world.host := by
    let kept : List LintResult → Host → Prop := fun _ h => w.host.Later h
    change kept summary.results s.world.host
    exact collect_induction hquiet (fun hl _ _ he => hl.trans (he.later_of_uncached rfl))
      (Source.reads_ofPaths [p] w _ w rfl) (by decide +kernel) (.refl _) hcollect
  have hresolve : w.host.resolve p = .ok p := by decide +kernel
  have hlines := lines_of_circle hsummary (by decide) ((hlater.resolve_eq p).trans hresolve)
    ((hlater.resolve_eq Host.wayOut).trans Host.resolve_wayOut)
  have hfinish : (summary.finish r.settings).run s.world =
      (.error (.linkLoop "/loop"), s.world) := by
    rw [Summary.run_finish, hsummary, if_neg (by decide), hlines]
  rw [run_ofPaths_of_collect hcollect, Action.run_bind_error hfinish]

end DriverRun

end OptIn
