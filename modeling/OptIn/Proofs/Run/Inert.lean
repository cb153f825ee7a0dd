import OptIn.DriverRun
import OptIn.Proofs.Host.Checked
import OptIn.Proofs.Host.Refusals
import OptIn.Proofs.Run.Progress

/-!
# Lines that name no file

A line that names no regular file when a run comes to it is passed over: nothing is asked of the
tool, nothing is written, and the path that it names counts as seen. So the run goes as it would
without the line (`DriverRun.run_insert`), with two exceptions. A line whose path cannot be
resolved, or not be looked at, ends the run; this happens with circles of links, with NULs and with
names that are too long. And a path that has been passed over stays passed over when it is given
again, though it may have become a file by then.
-/

namespace OptIn

namespace Source

/-- The paths that lines **name**, each still to be found. -/
def named (root : Path) (lines : List String) : List (Action World Path) :=
  (lines.filterMap lineName?).map fun s => found root (Path.ofText s)

/-- What a line **means** on a host: the path that is found when it is resolved, or why none is. A
blank line means nothing. -/
def meaning? (root : Path) (line : String) (h : Host) : Option (Except Fault Path) :=
  (lineName? line).map fun s => h.resolve (root.join (Path.ofText s))

theorem named_append (root : Path) (lines more : List String) :
    named root (lines ++ more) = named root lines ++ named root more := by
  rw [named, List.filterMap_append, List.map_append, ← named, ← named]

theorem named_cons_of_none {root : Path} {line : String} (lines : List String)
    (h : lineName? line = none) : named root (line :: lines) = named root lines := by
  rw [named, List.filterMap_cons_none h, ← named]

theorem named_cons_of_some {root : Path} {line name : String} (lines : List String)
    (h : lineName? line = some name) :
    named root (line :: lines) = found root (Path.ofText name) :: named root lines := by
  rw [named, List.filterMap_cons_some h, List.map_cons, ← named]

/-- Each path that lines name stands on one of them. -/
theorem exists_of_named_eq_append {root : Path} {lines : List String}
    {front back : List (Action World Path)} {pull : Action World Path}
    (h : named root lines = front ++ pull :: back) :
    ∃ above line below name, lines = above ++ line :: below ∧ named root above = front ∧
      lineName? line = some name ∧ pull = found root (Path.ofText name) := by
  rw [named] at h
  obtain ⟨names, more, hnames, rfl, hmore⟩ := List.map_eq_append_iff.mp h
  obtain ⟨name, rest, rfl, rfl, -⟩ := List.map_eq_cons_iff.mp hmore
  obtain ⟨above, others, rfl, rfl, hothers⟩ := List.filterMap_eq_append_iff.mp hnames
  obtain ⟨blank, line, below, rfl, hblank, hline, -⟩ := List.filterMap_eq_cons_iff.mp hothers
  refine ⟨above ++ blank, line, below, name, by simp, ?_, hline, rfl⟩
  rw [named, List.filterMap_append, List.filterMap_eq_nil_iff.mpr hblank, List.append_nil]

end Source

namespace DriverRun

/-- Takes one path more: those seen and the summary behind it. -/
def take (r : DriverRun) (seen : List Path × Summary) (pull : Action World Path) :
    Action Session (List Path × Summary) := do
  let p ← Session.onWorld pull
  match ← Session.onWorld (r.driver.consider r.detect seen.1 p) with
  | none => return (p :: seen.1, seen.2)
  | some c => return (p :: seen.1, seen.2.add (← r.process c))

theorem collect_eq_foldlM (r : DriverRun) (seen : List Path × Summary)
    (pulls : List (Action World Path)) :
    r.collect seen.1 seen.2 pulls = (·.2) <$> pulls.foldlM r.take seen := by
  induction pulls generalizing seen with
  | nil => rw [collect, List.foldlM_nil, map_pure]
  | cons pull pulls ih =>
    rw [collect, List.foldlM_cons, take]
    simp only [bind_assoc, map_bind]
    refine bind_congr fun p => bind_congr fun c => ?_
    cases c with
    | none => simpa using ih (p :: seen.1, seen.2)
    | some c => simpa [map_bind] using bind_congr fun x => ih (p :: seen.1, seen.2.add x)

/-- A run **reaches** a session behind some lines. -/
def Reaches (r : DriverRun) (root : Path) (lines : List String) (w : World) (s : Session) : Prop :=
  ∃ seen, ((Source.named root lines).foldlM r.take ([], {})).run ⟨w, none⟩ = (.ok seen, s)

/-- A line **names a file** on a host. -/
def NamesFile (root : Path) (line : String) (h : Host) : Prop :=
  ∃ p, Source.meaning? root line h = some (.ok p) ∧ h.isFile p = .ok true

/-- A line **is refused** on a host: what it means cannot be found, or not be looked at. -/
def Refused (root : Path) (line : String) (h : Host) (e : Fault) : Prop :=
  Source.meaning? root line h = some (.error e) ∨
    ∃ p, Source.meaning? root line h = some (.ok p) ∧ h.isFile p = .error e

variable {r : DriverRun} {root p q : Path} {line : String} {w : World} {e : Fault}
  {s s' : Session} {seen : List Path × Summary} {pulls : List (Action World Path)}
  {pull : Action World Path}

/-- The reasons for which a line is refused. -/
theorem Refused.cases (h : Refused root line w.host e) :
    e = .embeddedNull ∨ (∃ t, e = .linkLoop t) ∨ ∃ t, e = .system .nameTooLong t := by
  rcases h with h | ⟨p, -, h⟩
  · rw [Source.meaning?, Option.map_eq_some_iff] at h
    obtain ⟨name, -, h⟩ := h
    exact (Host.cases_of_resolve h).imp_right .inl
  · exact .inr (.inr ⟨_, Host.nameTooLong_of_isFile h⟩)

/-! ### One path -/

theorem run_found (hq : s.world.host.resolve (root.join p) = .ok q) :
    (Session.onWorld (Source.found root p)).run s = (.ok q, s) := by
  have hask : (Source.found root p).run s.world = (.ok q, s.world) := by
    rw [Source.found, World.run_ask, hq]
  exact Invoker.run_onWorld hask

theorem run_found_error (he : s.world.host.resolve (root.join p) = .error e) :
    (Session.onWorld (Source.found root p)).run s = (.error e, s) := by
  have hask : (Source.found root p).run s.world = (.error e, s.world) := by
    rw [Source.found, World.run_ask, he]
  exact Invoker.run_onWorld hask

/-- A path that has been seen is not looked at. -/
theorem run_consider_of_mem {d : Driver} {detect : Detector} {seen : List Path} (hp : p ∈ seen) :
    (Session.onWorld (d.consider detect seen p)).run s = (.ok none, s) := by
  have hrun : (d.consider detect seen p).run s.world = (.ok none, s.world) := by
    rw [Driver.consider_of_mem hp]
    rfl
  exact Invoker.run_onWorld hrun

/-- A path without a file makes nothing. -/
theorem run_consider_of_isFile {d : Driver} {detect : Detector} {seen : List Path}
    {x : Except Fault Bool} (hf : s.world.host.isFile p = x) (hx : x ≠ .ok true) (hp : p ∉ seen) :
    (Session.onWorld (d.consider detect seen p)).run s = (x.map fun _ => none, s) := by
  have hask : (World.ask (·.isFile p)).run s.world = (x, s.world) := by
    rw [World.run_ask, hf]
  have hrun : (d.consider detect seen p).run s.world = (x.map fun _ => none, s.world) := by
    rw [Driver.consider, if_neg (by simpa using hp), Driver.candidate?]
    rcases x with f | _ | _
    · exact Action.run_bind_error hask
    · exact Action.run_bind_ok hask
    · exact absurd rfl hx
  exact Invoker.run_onWorld hrun

theorem run_take_of_none (r : DriverRun) {seen : List Path} (summary : Summary)
    (hpull : (Session.onWorld pull).run s = (.ok p, s'))
    (hnone : (Session.onWorld (r.driver.consider r.detect seen p)).run s' = (.ok none, s')) :
    (r.take (seen, summary) pull).run s = (.ok (p :: seen, summary), s') := by
  rw [take, Action.run_bind_ok hpull, Action.run_bind_ok hnone]
  rfl

/-- With the same opinion on a path, the same is made of it. -/
theorem run_take_congr (r : DriverRun) {seen seen' : List Path} (summary : Summary)
    (hpull : (Session.onWorld pull).run s = (.ok p, s')) (h : p ∈ seen ↔ p ∈ seen') :
    (∃ e t, (r.take (seen, summary) pull).run s = (.error e, t) ∧
      (r.take (seen', summary) pull).run s = (.error e, t)) ∨
    ∃ summary' t, (r.take (seen, summary) pull).run s = (.ok (p :: seen, summary'), t) ∧
      (r.take (seen', summary) pull).run s = (.ok (p :: seen', summary'), t) := by
  rw [take, take, Action.run_bind_ok hpull, Action.run_bind_ok hpull]
  simp only [← Driver.consider_congr h]
  rcases hc : (Session.onWorld (r.driver.consider r.detect seen p)).run s' with ⟨e | _ | c, t⟩
  · exact .inl ⟨e, t, Action.run_bind_error hc, Action.run_bind_error hc⟩
  · exact .inr ⟨summary, t, Action.run_bind_ok hc, Action.run_bind_ok hc⟩
  · rw [Action.run_bind_ok hc, Action.run_bind_ok hc]
    rcases hx : (r.process c).run t with ⟨e | x, t'⟩
    · exact .inl ⟨e, t', Action.run_bind_error hx, Action.run_bind_error hx⟩
    · exact .inr ⟨summary.add x, t', Action.run_bind_ok hx, Action.run_bind_ok hx⟩

/-! ### The paths behind -/

theorem foldlM_take_of_ok {st : List Path × Summary}
    (hrun : (r.take seen pull).run s = (.ok st, s')) (pulls : List (Action World Path)) :
    ((pull :: pulls).foldlM r.take seen).run s = (pulls.foldlM r.take st).run s' := by
  rw [List.foldlM_cons, Action.run_bind_ok hrun]

theorem foldlM_take_of_error (hrun : (r.take seen pull).run s = (.error e, s'))
    (pulls : List (Action World Path)) :
    ((pull :: pulls).foldlM r.take seen).run s = (.error e, s') := by
  rw [List.foldlM_cons, Action.run_bind_error hrun]

theorem run_map_congr {α β σ : Type} {f : α → β} {x y : Action σ α} {t u : σ}
    (h : x.run t = y.run u) : (f <$> x).run t = (f <$> y).run u := by
  rw [map_eq_pure_bind, map_eq_pure_bind, Action.run_bind, Action.run_bind, h]

/-- Runs that have seen the same paths, but for one that has made nothing and that makes nothing
when it is given again, go on alike. -/
theorem foldlM_take_congr {seen seen' : List Path} {summary : Summary} (hq : q ∈ seen)
    (hseen : ∀ p, p ≠ q → (p ∈ seen ↔ p ∈ seen'))
    (hagain : q ∈ seen' ∨ ∀ front pull back st t t', pulls = front ++ pull :: back →
      (front.foldlM r.take (seen, summary)).run s = (.ok st, t) →
      (Session.onWorld pull).run t = (.ok q, t') → t'.world.host.isFile q = .ok false) :
    ((·.2) <$> pulls.foldlM r.take (seen, summary)).run s =
      ((·.2) <$> pulls.foldlM r.take (seen', summary)).run s := by
  -- the induction is on the paths to come; the two sets of paths seen stay alike but for the one
  induction pulls generalizing seen seen' summary s with
  | nil => rfl
  | cons pull pulls ih =>
    have hgrow : ∀ p p', p' ≠ q → (p' ∈ p :: seen ↔ p' ∈ p :: seen') := by
      intro p p' hne
      rw [List.mem_cons, List.mem_cons, hseen p' hne]
    rcases hpull : (Session.onWorld pull).run s with ⟨e | p, s₁⟩
    · have hfault : ∀ seen, (r.take (seen, summary) pull).run s = (.error e, s₁) := fun seen => by
        rw [take, Action.run_bind_error hpull]
      refine run_map_congr ?_
      rw [foldlM_take_of_error (hfault seen), foldlM_take_of_error (hfault seen')]
    by_cases hp : p ∈ seen ↔ p ∈ seen'
    · rcases run_take_congr r summary hpull hp with
        ⟨e, t, hrun, hrun'⟩ | ⟨summary', t, hrun, hrun'⟩
      · refine run_map_congr ?_
        rw [foldlM_take_of_error hrun, foldlM_take_of_error hrun']
      · rw [run_map_congr (foldlM_take_of_ok hrun pulls),
          run_map_congr (foldlM_take_of_ok hrun' pulls)]
        refine ih (List.mem_cons_of_mem p hq) (hgrow p) (hagain.imp (List.mem_cons_of_mem p) ?_)
        intro hlater front pull' back st u u' heq hfront
        exact hlater (pull :: front) pull' back st u u' (by rw [heq, List.cons_append])
          (by rw [foldlM_take_of_ok hrun, hfront])
    · -- the one path is given again, to a run that has not seen it
      have hpq : p = q := by
        by_contra hne
        exact hp (hseen p hne)
      subst hpq
      have hnew : p ∉ seen' := fun h => hp (iff_of_true hq h)
      have hlater := hagain.resolve_left hnew
      have hfile : s₁.world.host.isFile p = .ok false :=
        hlater [] pull pulls _ s s₁ rfl rfl hpull
      have hrun := run_take_of_none r summary hpull (run_consider_of_mem hq)
      have hrun' := run_take_of_none r summary hpull
        (run_consider_of_isFile hfile (by simp) hnew)
      rw [run_map_congr (foldlM_take_of_ok hrun pulls),
        run_map_congr (foldlM_take_of_ok hrun' pulls)]
      exact ih List.mem_cons_self (hgrow p) (.inl List.mem_cons_self)

/-! ### Lines -/

/-- A line's path is **given again** when the run comes to a line further down that means the same,
and there may be a file by then. -/
def GivenAgain (r : DriverRun) (root : Path) (before : List String) (line : String)
    (after : List String) (w : World) : Prop :=
  ∃ above again below q s t, after = above ++ again :: below ∧
    r.Reaches root before w s ∧ Source.meaning? root line s.world.host = some (.ok q) ∧
    r.Reaches root (before ++ line :: above) w t ∧
    Source.meaning? root again t.world.host = some (.ok q) ∧ t.world.host.isFile q ≠ .ok false

theorem run_summarize_ofLines (r : DriverRun) (root : Path) (lines : List String) (w : World) :
    (r.summarize (.ofLines root lines)).run w =
      ((((·.2) <$> (Source.named root lines).foldlM r.take ([], {})).run ⟨w, none⟩).1,
        (((·.2) <$> (Source.named root lines).foldlM r.take ([], {})).run ⟨w, none⟩).2.world) := by
  have hopen : (Session.onWorld (Source.ofLines root lines)).run ⟨w, none⟩ =
      (.ok (Source.named root lines), ⟨w, none⟩) := rfl
  rw [summarize, Session.begin, Action.run_within, Action.run_bind_ok hopen,
    collect_eq_foldlM r ([], {})]

/-- Runs on lines are alike when all that is taken is. -/
theorem run_ofLines_congr {lines more : List String}
    (h : ((·.2) <$> (Source.named root lines).foldlM r.take ([], {})).run ⟨w, none⟩ =
      ((·.2) <$> (Source.named root more).foldlM r.take ([], {})).run ⟨w, none⟩) :
    (r.run (.ofLines root lines)).run w = (r.run (.ofLines root more)).run w := by
  have hsummary : (r.summarize (.ofLines root lines)).run w =
      (r.summarize (.ofLines root more)).run w := by
    rw [run_summarize_ofLines, run_summarize_ofLines, h]
  rw [run, run, Action.run_bind, Action.run_bind, hsummary]

/-- A fault while paths are taken is that of the run. -/
theorem run_ofLines_of_error {lines : List String}
    (h : ((Source.named root lines).foldlM r.take ([], {})).run ⟨w, none⟩ = (.error e, s)) :
    (r.run (.ofLines root lines)).run w = (.error e, s.world) := by
  have hsummary : (r.summarize (.ofLines root lines)).run w = (.error e, s.world) := by
    rw [run_summarize_ofLines, map_eq_pure_bind, Action.run_bind_error h]
  rw [run, Action.run_bind_error hsummary]

/-- What is taken from further lines follows what has been taken. -/
theorem foldlM_take_named_append {before : List String}
    (hb : ((Source.named root before).foldlM r.take ([], {})).run ⟨w, none⟩ = (.ok seen, s))
    (more : List String) :
    ((Source.named root (before ++ more)).foldlM r.take ([], {})).run ⟨w, none⟩ =
      ((Source.named root more).foldlM r.take seen).run s := by
  rw [Source.named_append, List.foldlM_append, Action.run_bind_ok hb]

/-- A line whose path makes nothing changes nothing, unless the path is given again. -/
theorem run_insert_of_take {before after : List String} {name : String}
    (hb : ((Source.named root before).foldlM r.take ([], {})).run ⟨w, none⟩ = (.ok seen, s))
    (hn : lineName? line = some name)
    (hq : s.world.host.resolve (root.join (Path.ofText name)) = .ok q)
    (htake : (r.take seen (Source.found root (Path.ofText name))).run s =
      (.ok (q :: seen.1, seen.2), s))
    (hagain : q ∈ seen.1 ∨ ¬r.GivenAgain root before line after w) :
    (r.run (.ofLines root (before ++ line :: after))).run w =
      (r.run (.ofLines root (before ++ after))).run w := by
  have hmeaning : Source.meaning? root line s.world.host = some (.ok q) := by
    rw [Source.meaning?, hn, Option.map_some, hq]
  have hline : ∀ more, ((Source.named root (line :: more)).foldlM r.take seen).run s =
      ((Source.named root more).foldlM r.take (q :: seen.1, seen.2)).run s := fun more => by
    rw [Source.named_cons_of_some more hn, foldlM_take_of_ok htake]
  apply run_ofLines_congr
  rw [run_map_congr (foldlM_take_named_append hb _), run_map_congr (foldlM_take_named_append hb _),
    run_map_congr (hline after)]
  refine foldlM_take_congr List.mem_cons_self (fun p hne => by simp [hne])
    (hagain.imp_right fun hnot front pull back st t t' heq hfront hpull => ?_)
  by_contra hfile
  -- were it a file by then, the line that gives it again would be one of those behind
  obtain ⟨above, again, below, other, rfl, rfl, hother, rfl⟩ :=
    Source.exists_of_named_eq_append heq
  rw [Source.found, Session.onWorld, Action.run_within, World.run_ask, Prod.mk.injEq] at hpull
  obtain ⟨hmeant, rfl⟩ := hpull
  refine hnot ⟨above, again, below, q, s, t, rfl, ⟨seen, hb⟩, hmeaning, ⟨st, ?_⟩, ?_, hfile⟩
  · rw [foldlM_take_named_append hb, hline, hfront]
  · rw [Source.meaning?, hother, Option.map_some]
    exact congrArg some hmeant

/-- **Lines that name no file are inert.** For every run, root, listing and world: inserting a line
that does not name a regular file when the run comes to it changes nothing, neither the outcome nor
the journal nor the host. The exceptions are a line that is refused, which ends the run, for one of
three reasons; and one whose path is given again when there may be a file. -/
theorem run_insert (r : DriverRun) (root : Path) (before : List String) (line : String)
    (after : List String) (w : World)
    (hline : ∀ s, r.Reaches root before w s → ¬NamesFile root line s.world.host) :
    (r.run (.ofLines root (before ++ line :: after))).run w =
        (r.run (.ofLines root (before ++ after))).run w ∨
      (∃ s e, r.Reaches root before w s ∧ Refused root line s.world.host e ∧
        (e = .embeddedNull ∨ (∃ t, e = .linkLoop t) ∨ ∃ t, e = .system .nameTooLong t) ∧
        (r.run (.ofLines root (before ++ line :: after))).run w = (.error e, s.world)) ∨
      r.GivenAgain root before line after w := by
  rcases hb : ((Source.named root before).foldlM r.take ([], {})).run ⟨w, none⟩ with ⟨e | seen, s⟩
  · -- the run does not come to the line
    have hfault : ∀ more, ((Source.named root (before ++ more)).foldlM r.take ([], {})).run
        ⟨w, none⟩ = (.error e, s) := fun more => by
      rw [Source.named_append, List.foldlM_append, Action.run_bind_error hb]
    exact .inl (run_ofLines_congr (run_map_congr ((hfault _).trans (hfault _).symm)))
  have hreach : r.Reaches root before w s := ⟨seen, hb⟩
  rcases hn : lineName? line with _ | name
  · refine .inl (run_ofLines_congr (run_map_congr ?_))
    rw [foldlM_take_named_append hb, foldlM_take_named_append hb,
      Source.named_cons_of_none after hn]
  have hrefuse : ∀ e, Refused root line s.world.host e →
      (r.take seen (Source.found root (Path.ofText name))).run s = (.error e, s) →
      (r.run (.ofLines root (before ++ line :: after))).run w = (.error e, s.world) := by
    intro e hrefused hrun
    refine run_ofLines_of_error ?_
    rw [foldlM_take_named_append hb, Source.named_cons_of_some after hn, foldlM_take_of_error hrun]
  rcases hq : s.world.host.resolve (root.join (Path.ofText name)) with e | q
  · have hrefused : Refused root line s.world.host e :=
      .inl (by rw [Source.meaning?, hn, Option.map_some, hq])
    have hrun := hrefuse e hrefused (by rw [take, Action.run_bind_error (run_found_error hq)])
    exact .inr (.inl ⟨s, e, hreach, hrefused, hrefused.cases, hrun⟩)
  have hmeaning : Source.meaning? root line s.world.host = some (.ok q) := by
    rw [Source.meaning?, hn, Option.map_some, hq]
  by_cases hseen : q ∈ seen.1
  · exact .inl (run_insert_of_take hb hn hq
      (run_take_of_none r _ (run_found hq) (run_consider_of_mem hseen)) (.inl hseen))
  rcases hf : s.world.host.isFile q with e | _ | _
  · have hrefused : Refused root line s.world.host e := .inr ⟨q, hmeaning, hf⟩
    have hrun := hrefuse e hrefused (by
      rw [take, Action.run_bind_ok (run_found hq),
        Action.run_bind_error (run_consider_of_isFile hf (by simp) hseen)])
    exact .inr (.inl ⟨s, e, hreach, hrefused, hrefused.cases, hrun⟩)
  · by_cases hagain : r.GivenAgain root before line after w
    · exact .inr (.inr hagain)
    · exact .inl (run_insert_of_take hb hn hq (run_take_of_none r _ (run_found hq)
        (run_consider_of_isFile hf (by simp) hseen)) (.inr hagain))
  · exact absurd ⟨q, hmeaning, hf⟩ (hline s hreach)

/-- A directory listed behind a file that is linted. -/
theorem run_insert_sample : ∃ (w : World) (o : DriverOutcome) (w' : World),
    (∀ s, (sample 1).Reaches (.absolute ["r"]) ["a.py"] w s →
      ¬NamesFile (.absolute ["r"]) "d" s.world.host) ∧
    ((sample 1).run (.ofLines (.absolute ["r"]) ["a.py"])).run w = (.ok o, w') ∧
    ((sample 1).run (.ofLines (.absolute ["r"]) ["a.py", "d"])).run w = (.ok o, w') ∧
    o.summary.results.map (·.classification) = [.failed] := by
  generalize hw : (⟨.holding [["r"], ["r", "d"]] [(["r", "a.py"], sampleBytes)], []⟩ : World) = w
  generalize ho : ((sample 1).run (.ofLines (.absolute ["r"]) ["a.py"])).run w = o
  have hresults : o.1.toOption.map (·.summary.results.map (·.classification)) =
      some [.failed] := by
    subst ho hw
    decide +kernel
  generalize hs : ((Source.named (.absolute ["r"]) ["a.py"]).foldlM (sample 1).take ([], {})).run
    ⟨w, none⟩ = x
  have hmeaning : Source.meaning? (.absolute ["r"]) "d" x.2.world.host =
      some (.ok (.absolute ["r", "d"])) := by
    subst hs hw
    decide +kernel
  have hfile : x.2.world.host.isFile (.absolute ["r", "d"]) = .ok false := by
    subst hs hw
    decide +kernel
  have hreaches : ∀ s, (sample 1).Reaches (.absolute ["r"]) ["a.py"] w s → s = x.2 := by
    rintro s ⟨seen, hseen⟩
    rw [← hs, hseen]
  have hline : ∀ s, (sample 1).Reaches (.absolute ["r"]) ["a.py"] w s →
      ¬NamesFile (.absolute ["r"]) "d" s.world.host := by
    rintro s hreach ⟨q, hq, hf⟩
    rw [hreaches s hreach, hmeaning, Option.some.injEq, Except.ok.injEq] at hq
    rw [hreaches s hreach, ← hq, hfile] at hf
    cases hf
  rcases run_insert (sample 1) (.absolute ["r"]) ["a.py"] "d" [] w hline with
    hsame | ⟨s, e, hreach, hrefused, -⟩ | ⟨above, again, below, _, _, _, hnil, -⟩
  · rcases o with ⟨_ | o, w'⟩
    · cases hresults
    · exact ⟨w, o, w', hline, ho, hsame.trans ho, Option.some.inj hresults⟩
  · rw [Refused, hreaches s hreach, hmeaning] at hrefused
    rcases hrefused with h | ⟨p, h, hf⟩
    · cases h
    · rw [Option.some.injEq, Except.ok.injEq] at h
      rw [← h, hfile] at hf
      cases hf
  · simp at hnil

/-- A link to itself and a NUL each end a run that comes to its end without them. -/
theorem run_insert_faults : ∃ w : World,
    (((sample 0).run (.ofLines (.absolute ["r"]) ["a.py"])).run w).1.toOption.isSome = true ∧
    (((sample 0).run (.ofLines (.absolute ["r"]) ["loop", "a.py"])).run w).1 =
      .error (.linkLoop "/r/loop") ∧
    (((sample 0).run (.ofLines (.absolute ["r"]) ["a\x00b", "a.py"])).run w).1 =
      .error .embeddedNull := by
  refine ⟨⟨{ Host.holding [["r"]] [(["r", "a.py"], sampleBytes)] with
    disk := ⟨(["r", "loop"], .link "loop") ::
      (Host.holding [["r"]] [(["r", "a.py"], sampleBytes)]).disk.entries⟩ }, []⟩, ?_, ?_, ?_⟩
  · decide +kernel
  · decide +kernel
  · decide +kernel

end DriverRun

end OptIn
