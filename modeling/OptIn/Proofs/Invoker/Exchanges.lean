import OptIn.DriverRun
import OptIn.Proofs.Cache.Marker
import OptIn.Proofs.Invoker.Transcript

/-!
# What an invoker asks its runner

Whatever a runner does, dealing with a candidate goes one of a few ways. Only a candidate that needs
the tool has it asked for anything: its version first, if nothing is known about it yet, and then to
lint the candidate, unless the tool is known to be unusable. `Invoker.Tried` lists the ways in which
this can go, with the exchanges, what is known about the tool before and behind, and the host that
the runner leaves; `Invoker.Dealt` adds the candidates that do not need the tool, and
`Invoker.dealt_of_run` says that nothing else happens, and what is warned of.
-/

namespace OptIn

namespace Invoker

/-- Records a success of a file, if there is a cache. -/
inductive Recorded (i : Invoker) (p : Path) : Host → Except Fault Unit → Host → Prop
  | uncached {h} : i.cache? = none → Recorded i p h (.ok ()) h
  | cached {cache w r w'} : i.cache? = some cache → (cache.record p).run w = (r, w') →
      Recorded i p w.host r w'.host

/-- What the cache says of a file, if there is one. -/
def vouchedBy (i : Invoker) (p : Path) (h : Host) : Except Fault Bool :=
  match i.cache? with
  | none => .ok false
  | some cache => cache.vouches p h

/-- Whether a candidate with a directive is to be linted at all. -/
def asks (i : Invoker) (d : Directive) : Bool := d.enabled || i.settings.forceAll

/-- What an exchange shows about a tool that cannot be used: it has not been found, or the query of
its version has failed. -/
def refutation (i : Invoker) : Exchange → Option ToolProbe
  | ⟨_, .error e⟩ => if e.isNotFound then some ⟨.missing, e.message⟩ else none
  | ⟨c, .ok done⟩ =>
    if c = ToolProbe.query i.driver.tool ∧ done.status ≠ 0 then
      some ⟨.incompatible, String.ofList (ToolProbe.output done)⟩
    else none

/-- What exchanges show about a tool that cannot be used, if they do. -/
def found (i : Invoker) (xs : List Exchange) : Option ToolProbe := xs.findSome? i.refutation

/-- What is said of a candidate that cannot be read. -/
def unreadable (i : Invoker) (h : Host) (c : Candidate) : List String :=
  match h.read c.path with
  | .ok _ => []
  | .error e =>
    if e.isSystem then [i.driver.name ++ ": cannot read " ++ c.path.text ++ ": " ++ e.message]
    else []

/-- What is said of a tool that exchanges show to be unusable. -/
def complaints (i : Invoker) (xs : List Exchange) : List String :=
  (i.found xs).toList.map (complaint i.driver)

/-- A usable tool is known already, or its version query succeeds. -/
inductive Vetted (i : Invoker) : Option ToolProbe → List Exchange → ToolProbe → Prop
  | known {p} : p.usable = true → Vetted i (some p) [] p
  | answered {done p} : done.status = 0 → ToolProbe.ofCompleted done = .ok p →
      Vetted i none [⟨ToolProbe.query i.driver.tool, .ok done⟩] p

/-- A candidate that needs the tool is **tried**: what is known about the tool before, the
exchanges, the host that the runner leaves, the result, what is known behind, and the host behind,
which is another one only if a success has been recorded. -/
inductive Tried (i : Invoker) (c : Candidate) : Option ToolProbe → List Exchange → Host →
    Except Fault LintResult → Option ToolProbe → Host → Prop
  | barred {p h} : p.usable = false → Tried i c (some p) [] h (.ok (unusable c)) (some p) h
  | refused {answer p h} : i.refutation ⟨ToolProbe.query i.driver.tool, answer⟩ = some p →
      Tried i c none [⟨ToolProbe.query i.driver.tool, answer⟩] h (.ok (unusable c)) (some p) h
  | unprobed {e h} : ¬e.isNotFound = true →
      Tried i c none [⟨ToolProbe.query i.driver.tool, .error e⟩] h (.error e) none h
  | lost {k xs p e h} : Vetted i k xs p → e.isNotFound = true →
      Tried i c k (xs ++ [⟨i.lintCall c, .error e⟩]) h (.ok (unusable c))
        (some ⟨.missing, e.message⟩) h
  | broken {k xs p e h} : Vetted i k xs p → ¬e.isNotFound = true →
      Tried i c k (xs ++ [⟨i.lintCall c, .error e⟩]) h (.error e) (some p) h
  | failed {k xs p done h} : Vetted i k xs p → done.status ≠ 0 →
      Tried i c k (xs ++ [⟨i.lintCall c, .ok done⟩]) h (.ok ⟨c, .failed, some done.status⟩)
        (some p) h
  | passed {k xs p done h h'} : Vetted i k xs p → done.status = 0 →
      Recorded i c.path h (.ok ()) h' →
      Tried i c k (xs ++ [⟨i.lintCall c, .ok done⟩]) h (.ok ⟨c, .passed, some 0⟩) (some p) h'
  | unrecorded {k xs p done e h h'} : Vetted i k xs p → done.status = 0 →
      Recorded i c.path h (.error e) h' →
      Tried i c k (xs ++ [⟨i.lintCall c, .ok done⟩]) h (.error e) (some p) h'

/-- A candidate with a header is **weighed**: it does not ask for linting, the cache vouches for it
or cannot tell, or it is tried. -/
inductive Weighed (i : Invoker) (h : Host) (c : Candidate) (d : Directive) : Option ToolProbe →
    List Exchange → Host → Except Fault LintResult → Option ToolProbe → Host → Prop
  | skipped {k} : i.asks d = false → Weighed i h c d k [] h (.ok ⟨c, .skipped, none⟩) k h
  | cached {k} : i.asks d = true → i.vouchedBy c.path h = .ok true →
      Weighed i h c d k [] h (.ok ⟨withDirective c d, .cached, none⟩) k h
  | unclear {k e} : i.asks d = true → i.vouchedBy c.path h = .error e →
      Weighed i h c d k [] h (.error e) k h
  | tried {k xs h₁ x k' h'} : i.asks d = true → i.vouchedBy c.path h = .ok false →
      Tried i (withDirective c d) k xs h₁ x k' h' → Weighed i h c d k xs h₁ x k' h'

/-- A candidate is **dealt** with: its header is read, or cannot be read. -/
inductive Dealt (i : Invoker) (h : Host) (c : Candidate) : Option ToolProbe → List Exchange → Host →
    Except Fault LintResult → Option ToolProbe → Host → Prop
  | read {bytes k xs h₁ x k' h'} : h.read c.path = .ok bytes →
      Weighed i h c (i.driver.scanFileText (Text.Utf8.decode bytes)) k xs h₁ x k' h' →
      Dealt i h c k xs h₁ x k' h'
  | unread {k e} : h.read c.path = .error e → e.isSystem = true →
      Dealt i h c k [] h (.ok ⟨c, .failed, some 1⟩) k h
  | broken {k e} : h.read c.path = .error e → ¬e.isSystem = true →
      Dealt i h c k [] h (.error e) k h

variable {i : Invoker} {c : Candidate} {k : Option ToolProbe} {xs : List Exchange}
  {x : Except Fault LintResult} {p : ToolProbe}

/-! ### What exchanges show -/

theorem lintCall_ne_query (i : Invoker) (c : Candidate) (tool : String) :
    i.lintCall c ≠ ToolProbe.query tool := by
  intro h
  have hcapture := congrArg Call.capture h
  simp [lintCall, ToolProbe.query] at hcapture

theorem refutation_error (i : Invoker) (c : Call) (e : Fault) :
    i.refutation ⟨c, .error e⟩ = if e.isNotFound then some ⟨.missing, e.message⟩ else none := rfl

theorem refutation_query_of_ok (i : Invoker) (done : Completed) :
    i.refutation ⟨ToolProbe.query i.driver.tool, .ok done⟩ =
      if done.status = 0 then none
      else some ⟨.incompatible, String.ofList (ToolProbe.output done)⟩ := by
  rw [refutation]
  split_ifs <;> simp_all

/-- A command other than the query shows nothing as long as it comes to its end. -/
theorem refutation_lintCall_of_ok (i : Invoker) (c : Candidate) (done : Completed) :
    i.refutation ⟨i.lintCall c, .ok done⟩ = none := by
  rw [refutation, if_neg fun h => i.lintCall_ne_query c _ h.1]

/-- What an exchange shows about a tool is that it is not usable. -/
theorem usable_of_refutation {e : Exchange} (h : i.refutation e = some p) : p.usable = false := by
  obtain ⟨c, e | done⟩ := e
  · rw [refutation_error] at h
    split_ifs at h
    cases h
    rfl
  · rw [refutation] at h
    split_ifs at h
    cases h
    rfl

@[simp] theorem found_nil (i : Invoker) : i.found [] = none := rfl

@[simp] theorem found_singleton (i : Invoker) (e : Exchange) : i.found [e] = i.refutation e := by
  rw [found, List.findSome?_singleton]

@[simp] theorem complaints_nil (i : Invoker) : i.complaints [] = [] := rfl

theorem Vetted.found_eq (hv : Vetted i k xs p) : i.found xs = none := by
  cases hv with
  | known => rfl
  | answered hstatus => rw [found_singleton, refutation_query_of_ok, if_pos hstatus]

theorem Vetted.usable (hv : Vetted i k xs p) : p.usable = true := by
  cases hv with
  | known husable => exact husable
  | answered hstatus hp => exact (ToolProbe.usable_of_ofCompleted hp).mpr hstatus

theorem Vetted.found_append (hv : Vetted i k xs p) (e : Exchange) :
    i.found (xs ++ [e]) = i.refutation e := by
  rw [found, List.findSome?_append, ← found, hv.found_eq, Option.none_or,
    List.findSome?_singleton]

/-! ### Talks without an exchange -/

theorem run_onWorld {α : Type} {y : Action World α} {s : Session} {r : Except Fault α} {w : World}
    (h : y.run s.world = (r, w)) : (Session.onWorld y).run s = (r, { s with world := w }) := by
  rw [Session.onWorld, Action.run_within, h]

theorem run_warn (i : Invoker) (message : String) (w : World) :
    ∃ w', (i.warn message).run w = (.ok (), w') ∧ i.runner.Warns w [] [message] w' := by
  have hwarned := ToolRunner.Talk.of_log i.runner w (e := .warned message) rfl
  rw [warn, Action.run_bind_ok (World.run_record _ w)]
  cases i.sink with
  | collected => exact ⟨_, rfl, _, hwarned, rfl⟩
  | errorStream => exact ⟨_, rfl, _, hwarned.remark rfl, rfl⟩

/-- What is said about a tool that has just been probed. -/
theorem run_tellProbe (i : Invoker) (p : ToolProbe) (w : World) :
    ∃ w', (do
        World.note logger ("probe tool=" ++ i.driver.tool ++ " status=" ++ p.status.name)
        unless p.usable do i.warn (complaint i.driver p) : Action World Unit).run w = (.ok (), w') ∧
      i.runner.Warns w [] (if p.usable then [] else [complaint i.driver p]) w' := by
  have hnote := ToolRunner.Warns.of_note i.runner w logger
    ("probe tool=" ++ i.driver.tool ++ " status=" ++ p.status.name)
  rw [World.note, Action.run_bind_ok (World.run_record _ w)]
  cases p.usable with
  | true => exact ⟨_, rfl, hnote⟩
  | false =>
    obtain ⟨w', hrun, hwarns⟩ := run_warn i (complaint i.driver p)
      (w.log (.noted logger ("probe tool=" ++ i.driver.tool ++ " status=" ++ p.status.name)))
    exact ⟨w', hrun, hnote.trans hwarns⟩

theorem run_vouched (i : Invoker) (c : Candidate) (w : World) :
    ∃ w', (i.vouched c).run w = (i.vouchedBy c.path w.host, w') ∧ i.runner.Warns w [] [] w' := by
  rw [vouched, vouchedBy]
  rcases i.cache? with _ | cache
  · exact ⟨w, rfl, .silence _ _⟩
  · obtain ⟨w', hrun, rfl | ⟨text, rfl⟩⟩ := cache.run_isValid c.path w
    · exact ⟨_, hrun, .silence _ _⟩
    · exact ⟨_, hrun, .of_note _ w _ _⟩

theorem run_readDirective_of_ok (i : Invoker) {q : Path} {w : World} {bytes : List UInt8}
    (hread : w.host.read q = .ok bytes) :
    ∃ w', (readDirective i.driver q).run w =
        (.ok (i.driver.scanFileText (Text.Utf8.decode bytes)), w') ∧
      i.runner.Warns w [] [] w' := by
  have hask : (World.ask (·.read q)).run w = (.ok bytes, w) := by rw [World.run_ask, hread]
  rw [readDirective, Action.run_bind_ok hask]
  simp only [World.note]
  rw [Action.run_bind_ok (World.run_record _ w)]
  exact ⟨_, rfl, .of_note _ w _ _⟩

theorem run_readDirective_of_error {d : Driver} {q : Path} {w : World} {e : Fault}
    (hread : w.host.read q = .error e) : (readDirective d q).run w = (.error e, w) := by
  have hask : (World.ask (·.read q)).run w = (.error e, w) := by rw [World.run_ask, hread]
  rw [readDirective, Action.run_bind_error hask]

theorem path_withDirective (c : Candidate) (d : Directive) :
    (withDirective c d).path = c.path := by
  rw [withDirective]
  split <;> rfl

/-- A candidate without arguments of its own has those of its header. -/
theorem withDirective_of_fresh {c : Candidate} {d : Directive} (hfresh : c.options = []) :
    withDirective c d = { c with options := d.options } := by
  rw [withDirective]
  split
  · rename_i hnone
    rw [List.isEmpty_iff.mp hnone, ← hfresh]
  · rfl

theorem journal_onHost {α : Type} {a : Action Host α} {w w' : World} {r : Except Fault α}
    (hrun : (World.onHost a).run w = (r, w')) : w'.journal = w.journal := by
  rw [World.onHost, Action.run_within] at hrun
  cases hrun
  rfl

/-- Recording a success changes the host, and leaves no more than a note in the journal. -/
theorem journal_record {cache : ResultCache} {q : Path} {w w' : World} {r : Except Fault Unit}
    (hrun : (cache.record q).run w = (r, w')) :
    ∃ w₁, i.runner.Warns w [] [] w₁ ∧ w'.journal = w₁.journal := by
  rw [ResultCache.record] at hrun
  rcases hmake : (World.onHost (Host.makeDirectories cache.directory)).run w with ⟨e | ⟨⟩, v⟩
  · rw [Action.run_bind_error hmake] at hrun
    cases hrun
    exact ⟨w, .silence _ _, journal_onHost hmake⟩
  · rw [Action.run_bind_ok hmake] at hrun
    rcases htouch : (World.onHost (Host.touch (cache.entry q))).run v with ⟨e | ⟨⟩, v'⟩
    · rw [Action.run_bind_error htouch] at hrun
      cases hrun
      exact ⟨w, .silence _ _, (journal_onHost htouch).trans (journal_onHost hmake)⟩
    · rw [Action.run_bind_ok htouch] at hrun
      cases hrun
      have hjournal := (journal_onHost htouch).trans (journal_onHost hmake)
      exact ⟨_, .of_note _ w ResultCache.logger _, by simp only [World.log, hjournal]; rfl⟩

/-! ### Nothing else can happen -/

/-- Asking for the version shows that the tool is unusable, or that it can be used, or neither. -/
theorem run_probe (i : Invoker) (w : World) :
    ∃ answer, i.runner.Warns w [⟨ToolProbe.query i.driver.tool, answer⟩] []
        (i.runner.answered w (ToolProbe.query i.driver.tool)) ∧
      ∃ y, (ToolProbe.run i.runner i.driver.tool).run w =
          (y, i.runner.answered w (ToolProbe.query i.driver.tool)) ∧
        ((∃ p, y = .ok p ∧ i.refutation ⟨ToolProbe.query i.driver.tool, answer⟩ = some p) ∨
          (∃ p, y = .ok p ∧ Vetted i none [⟨ToolProbe.query i.driver.tool, answer⟩] p) ∨
          ∃ e, y = .error e ∧ answer = .error e ∧ ¬e.isNotFound = true) := by
  refine ⟨_, .of_perform i.runner w (ToolProbe.query i.driver.tool), ?_⟩
  rw [ToolProbe.run, Action.run_bind_ok (Action.run_attempt _ w), ToolRunner.run_perform]
  rcases (i.runner w (ToolProbe.query i.driver.tool)).outcome with e | done
  · simp only
    split
    · rename_i hmissing
      exact ⟨_, rfl, .inl ⟨_, rfl, by rw [refutation_error, if_pos hmissing]⟩⟩
    · rename_i hmissing
      exact ⟨_, rfl, .inr (.inr ⟨e, rfl, rfl, hmissing⟩)⟩
  · simp only [Action.run_ofExcept]
    refine ⟨_, rfl, ?_⟩
    by_cases hstatus : done.status = 0
    · obtain ⟨l, hl, -⟩ := ToolProbe.ofCompleted_of_eq hstatus
      exact .inr (.inl ⟨_, hl, .answered hstatus hl⟩)
    · exact .inl ⟨_, ToolProbe.ofCompleted_of_ne hstatus,
        by rw [refutation_query_of_ok, if_neg hstatus]⟩

/-- Finding out about the tool decides what becomes of a candidate that needs it, unless the tool is
found usable. -/
theorem run_toolProbe (i : Invoker) (c : Candidate) (s : Session) :
    ∃ y xs w k, i.toolProbe.run s = (y, ⟨w, k⟩) ∧
      i.runner.Warns s.world xs (i.complaints xs) w ∧
      ((∃ p, y = .ok p ∧ p.usable = false ∧
          Tried i c s.probe xs w.host (.ok (unusable c)) k w.host) ∨
        (∃ p, y = .ok p ∧ k = some p ∧ Vetted i s.probe xs p) ∨
        ∃ e, y = .error e ∧ Tried i c s.probe xs w.host (.error e) k w.host) := by
  obtain ⟨w₀, _ | p⟩ := s
  · obtain ⟨answer, hwarns, y, hrun, hy⟩ := run_probe i w₀
    have htoolProbe : i.toolProbe.run ⟨w₀, none⟩ = (do
        let p ← Session.onWorld (ToolProbe.run i.runner i.driver.tool)
        Session.know p
        Session.onWorld do
          World.note logger ("probe tool=" ++ i.driver.tool ++ " status=" ++ p.status.name)
          unless p.usable do i.warn (complaint i.driver p)
        return p : Action Session ToolProbe).run ⟨w₀, none⟩ := rfl
    -- a probe that comes to its end is told of
    have htold : ∀ {p}, y = .ok p →
        (if p.usable then [] else [complaint i.driver p]) =
          i.complaints [⟨ToolProbe.query i.driver.tool, answer⟩] →
        ∃ w, i.toolProbe.run ⟨w₀, none⟩ = (y, ⟨w, some p⟩) ∧
          i.runner.Warns w₀ [⟨ToolProbe.query i.driver.tool, answer⟩]
            (i.complaints [⟨ToolProbe.query i.driver.tool, answer⟩]) w := by
      rintro p rfl hsaid
      obtain ⟨w, htell, hwarns'⟩ :=
        run_tellProbe i p (i.runner.answered w₀ (ToolProbe.query i.driver.tool))
      refine ⟨w, ?_, hsaid ▸ hwarns.trans hwarns'⟩
      rw [htoolProbe, Action.run_bind_ok (run_onWorld hrun), Session.know,
        Action.run_bind_ok (Action.run_modify _ _), Action.run_bind_ok (run_onWorld htell)]
      rfl
    rcases hy with ⟨p, hp, hrefuted⟩ | ⟨p, hp, hvetted⟩ | ⟨e, rfl, rfl, hmissing⟩
    · have hbad := usable_of_refutation hrefuted
      obtain ⟨w, hprobe, hwarned⟩ := htold hp (by
        rw [complaints, found_singleton, hrefuted, hbad]
        rfl)
      exact ⟨_, _, w, _, hprobe, hwarned, .inl ⟨p, hp, hbad, .refused hrefuted⟩⟩
    · obtain ⟨w, hprobe, hwarned⟩ := htold hp (by
        rw [complaints, hvetted.found_eq, hvetted.usable]
        rfl)
      exact ⟨_, _, w, _, hprobe, hwarned, .inr (.inl ⟨p, hp, rfl, hvetted⟩)⟩
    · refine ⟨_, _, i.runner.answered w₀ (ToolProbe.query i.driver.tool), none, ?_, ?_,
        .inr (.inr ⟨e, rfl, .unprobed hmissing⟩)⟩
      · rw [htoolProbe, Action.run_bind_error (run_onWorld hrun)]
      · rw [complaints, found_singleton, refutation_error, if_neg hmissing]
        exact hwarns
  · -- what has been found out once is not asked again
    refine ⟨.ok p, [], w₀, some p, rfl, .silence _ _, ?_⟩
    rcases hp : p.usable with _ | _
    · exact .inl ⟨p, rfl, hp, .barred hp⟩
    · exact .inr (.inl ⟨p, rfl, rfl, .known hp⟩)

/-- What becomes of a command that comes to its end. -/
theorem run_judge {w w' : World} {done : Completed} (hv : Vetted i k xs p)
    (hrun : (i.judge c done).run w = (x, w')) :
    ∃ w₁, i.runner.Warns w [] [] w₁ ∧ w'.journal = w₁.journal ∧
      Tried i c k (xs ++ [⟨i.lintCall c, .ok done⟩]) w₁.host x (some p) w'.host := by
  rw [judge] at hrun
  split at hrun
  · rename_i hstatus
    rcases hc : i.cache? with _ | cache
    · rw [hc] at hrun
      cases hrun
      exact ⟨w, .silence _ _, rfl, .passed hv hstatus (.uncached hc)⟩
    · rw [hc] at hrun
      simp only at hrun
      rcases hr : (cache.record c.path).run w with ⟨r, v⟩
      -- recording has nothing performed and warns of nothing, whether it succeeds or not
      obtain ⟨w₁, hwarns, hjournal⟩ := journal_record (i := i) hr
      rcases r with e | ⟨⟩
      · rw [Action.run_bind_error hr] at hrun
        cases hrun
        refine ⟨w₁, hwarns, hjournal, ?_⟩
        rw [hwarns.host_eq]
        exact .unrecorded hv hstatus (.cached hc hr)
      · rw [Action.run_bind_ok hr] at hrun
        cases hrun
        refine ⟨w₁, hwarns, hjournal, ?_⟩
        rw [hwarns.host_eq]
        exact .passed hv hstatus (.cached hc hr)
  · rename_i hstatus
    cases hrun
    exact ⟨w, .silence _ _, rfl, .failed hv hstatus⟩

/-- Having a tool that has been found usable judge a candidate. -/
theorem run_lint (hv : Vetted i k xs p) {w : World} {s' : Session}
    (hrun : (i.lint c).run ⟨w, some p⟩ = (x, s')) :
    ∃ e w₁, i.runner.Warns w [e] (i.complaints (xs ++ [e])) w₁ ∧
      s'.world.journal = w₁.journal ∧
      Tried i c k (xs ++ [e]) w₁.host x s'.probe s'.world.host := by
  have hnote := ToolRunner.Warns.of_note i.runner w logger
    ("invoke tool=" ++ i.driver.tool ++ " command=" ++ Text.quotedList (i.command c))
  rw [lint, World.note, Action.run_bind_ok (run_onWorld (World.run_record _ _))] at hrun
  simp only at hrun
  generalize w.log _ = v at hnote hrun
  -- the command is performed, whatever comes of it
  have hcall := hnote.trans (.of_perform i.runner v (i.lintCall c))
  rw [Action.run_bind_ok (Action.run_attempt _ _),
    run_onWorld (s := ⟨v, some p⟩) (ToolRunner.run_perform i.runner (i.lintCall c) v)] at hrun
  refine ⟨⟨i.lintCall c, (i.runner v (i.lintCall c)).outcome⟩, ?_⟩
  rw [complaints, hv.found_append]
  rcases hy : (i.runner v (i.lintCall c)).outcome with e | done
  · rw [hy] at hrun hcall
    simp only at hrun
    rw [refutation_error]
    split at hrun
    · -- a tool that has gone away is given up, and complained of once
      rename_i hmissing
      obtain ⟨w₁, hwarn, hwarns⟩ := run_warn i (complaint i.driver ⟨.missing, e.message⟩)
        (i.runner.answered v (i.lintCall c))
      rw [Session.know, Action.run_bind_ok (Action.run_modify _ _),
        Action.run_bind_ok (run_onWorld hwarn)] at hrun
      cases hrun
      rw [if_pos hmissing]
      exact ⟨w₁, hcall.trans hwarns, rfl, .lost hv hmissing⟩
    · rename_i hmissing
      cases hrun
      rw [if_neg hmissing]
      exact ⟨_, hcall, rfl, .broken hv hmissing⟩
  · rw [hy] at hrun hcall
    simp only at hrun
    rcases hj : (i.judge c done).run (i.runner.answered v (i.lintCall c)) with ⟨y, w'⟩
    rw [run_onWorld (s := ⟨i.runner.answered v (i.lintCall c), some p⟩) hj] at hrun
    cases hrun
    obtain ⟨w₁, hwarns, hjournal, htried⟩ := run_judge hv hj
    rw [refutation_lintCall_of_ok]
    exact ⟨w₁, hcall.trans hwarns, hjournal, htried⟩

/-- What becomes of a candidate whose header has been read. -/
theorem run_settle {d : Directive} {s s' : Session} (hrun : (i.settle c d).run s = (x, s')) :
    ∃ xs w₁, i.runner.Warns s.world xs (i.complaints xs) w₁ ∧ s'.world.journal = w₁.journal ∧
      Weighed i s.world.host c d s.probe xs w₁.host x s'.probe s'.world.host := by
  rw [settle] at hrun
  split at hrun
  · rename_i hasks
    cases hrun
    exact ⟨[], _, .silence _ _, rfl, .skipped (by simpa [asks] using hasks)⟩
  · rename_i hasks
    have hasks' : i.asks d = true := by
      simpa only [asks, Bool.not_eq_true', Bool.not_eq_false] using hasks
    simp only at hrun
    obtain ⟨w, hvouch, hwarns⟩ := run_vouched i (withDirective c d) s.world
    rw [path_withDirective] at hvouch
    rcases hv : i.vouchedBy c.path s.world.host with e | _ | _
    · rw [hv] at hvouch
      rw [Action.run_bind_error (run_onWorld hvouch)] at hrun
      cases hrun
      refine ⟨[], w, hwarns, rfl, ?_⟩
      rw [hwarns.host_eq]
      exact .unclear hasks' hv
    · -- only a file for which the cache does not vouch has the tool looked for
      rw [hv] at hvouch
      rw [Action.run_bind_ok (run_onWorld hvouch)] at hrun
      simp only [Bool.false_eq_true, if_false] at hrun
      obtain ⟨y, xs, v, k, hprobe, hwarns', hy⟩ :=
        run_toolProbe i (withDirective c d) ⟨w, s.probe⟩
      rcases hy with ⟨p, rfl, hbad, htried⟩ | ⟨p, rfl, rfl, hvetted⟩ | ⟨e, rfl, htried⟩
      · rw [Action.run_bind_ok hprobe, hbad] at hrun
        cases hrun
        exact ⟨xs, v, hwarns.trans hwarns', rfl, .tried hasks' hv htried⟩
      · rw [Action.run_bind_ok hprobe, if_pos hvetted.usable] at hrun
        obtain ⟨e, w₁, hwarns₁, hjournal, htried⟩ := run_lint hvetted hrun
        rw [complaints, hvetted.found_eq] at hwarns'
        exact ⟨xs ++ [e], w₁, hwarns.trans (hwarns'.trans hwarns₁), hjournal,
          .tried hasks' hv htried⟩
      · rw [Action.run_bind_error hprobe] at hrun
        cases hrun
        exact ⟨xs, v, hwarns.trans hwarns', rfl, .tried hasks' hv htried⟩
    · rw [hv] at hvouch
      rw [Action.run_bind_ok (run_onWorld hvouch)] at hrun
      cases hrun
      refine ⟨[], w, hwarns, rfl, ?_⟩
      rw [hwarns.host_eq]
      exact .cached hasks' hv

/-- The treatment of a candidate goes one of the ways that are listed. -/
theorem dealt_of_run {s s' : Session} (hrun : (i.invoke c).run s = (x, s')) :
    ∃ xs w₁, i.runner.Warns s.world xs (i.unreadable s.world.host c ++ i.complaints xs) w₁ ∧
      s'.world.journal = w₁.journal ∧
      Dealt i s.world.host c s.probe xs w₁.host x s'.probe s'.world.host := by
  rw [invoke, Action.run_bind_ok (Action.run_attempt _ s)] at hrun
  rcases hread : s.world.host.read c.path with e | bytes
  · rw [run_onWorld (run_readDirective_of_error (d := i.driver) hread)] at hrun
    rw [unreadable, hread]
    simp only at hrun ⊢
    split at hrun
    · rename_i hsystem
      obtain ⟨w, hwarn, hwarns⟩ := run_warn i
        (i.driver.name ++ ": cannot read " ++ c.path.text ++ ": " ++ e.message) s.world
      rw [Action.run_bind_ok (run_onWorld hwarn)] at hrun
      cases hrun
      refine ⟨[], w, ?_, rfl, ?_⟩
      · rw [if_pos hsystem]
        exact hwarns
      · rw [hwarns.host_eq]
        exact .unread hread hsystem
    · rename_i hsystem
      cases hrun
      rw [if_neg hsystem]
      exact ⟨[], _, .silence _ _, rfl, .broken hread hsystem⟩
  · obtain ⟨w, hdirective, hwarns⟩ := run_readDirective_of_ok i hread
    rw [run_onWorld hdirective] at hrun
    obtain ⟨xs, w₁, hwarns₁, hjournal, hweighed⟩ := run_settle hrun
    simp only [hwarns.host_eq] at hweighed
    rw [unreadable, hread]
    exact ⟨xs, w₁, hwarns.trans hwarns₁, hjournal, .read hread hweighed⟩

end Invoker

end OptIn
