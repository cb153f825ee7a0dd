import OptIn.Proofs.Run.Course

/-!
# The status of a missing tool

A run ends with the status of a missing tool, which is 127, if the tool is found unusable in it, but
also if a command that lints a candidate ends with this number itself
(`DriverRun.code_eq_toolMissing_iff`): a result keeps the number only, and not where it comes from.
`code_of_mistaken` is a run in which the tool is there, and can be used.
-/

namespace OptIn

namespace Invoker

/-- An exchange is **mistakable** if it is a command other than the version query that ends with the
status of a missing tool. -/
def Mistakable (i : Invoker) (e : Exchange) : Prop :=
  e.call ≠ ToolProbe.query i.driver.tool ∧
    ∃ done, e.answer = .ok done ∧ done.status = toolMissingStatus

variable {i : Invoker} {c : Candidate} {h h' h₁ : Host} {k k' : Option ToolProbe}
  {xs : List Exchange} {x : Except Fault LintResult} {z : LintResult} {p : ToolProbe}

/-! ### One candidate -/

theorem Vetted.not_mistakable (hv : Vetted i k xs p) : ∀ e ∈ xs, ¬i.Mistakable e := by
  cases hv with
  | known => exact fun e he => nomatch he
  | answered =>
    rintro e he ⟨hcall, -⟩
    rw [List.mem_singleton.mp he] at hcall
    exact hcall rfl

/-- Behind a vetted tool, a candidate that has been linted shows nothing but its status. -/
theorem Vetted.shows_iff (hv : Vetted i k xs p) (c : Candidate) (done : Completed) :
    (i.found (xs ++ [⟨i.lintCall c, .ok done⟩]) ≠ none ∨
        (∃ q, k = some q ∧ q.usable = false) ∨
          ∃ e ∈ xs ++ [⟨i.lintCall c, .ok done⟩], i.Mistakable e) ↔
      done.status = toolMissingStatus := by
  have hfound : i.found (xs ++ [⟨i.lintCall c, .ok done⟩]) = none := by
    rw [hv.found_append, refutation_lintCall_of_ok]
  have hknown : ¬∃ q, k = some q ∧ q.usable = false := by
    rintro ⟨q, rfl, hbad⟩
    cases hv with
    | known husable => cases husable.symm.trans hbad
  -- of the three signs only the status of the command itself is left
  rw [hfound]
  simp only [ne_eq, not_true_eq_false, hknown, false_or]
  constructor
  · rintro ⟨e, he, hmistakable⟩
    rcases List.mem_append.mp he with he | he
    · exact absurd hmistakable (hv.not_mistakable e he)
    · obtain ⟨-, done', hanswer, hstatus⟩ := hmistakable
      cases List.mem_singleton.mp he
      cases hanswer
      exact hstatus
  · exact fun hstatus => ⟨_, List.mem_append_right _ (List.mem_singleton.mpr rfl),
      i.lintCall_ne_query c _, done, rfl, hstatus⟩

/-- A candidate that is tried counts as one without a tool if the tool is found unusable, is known
to be, or is mistaken for it. -/
theorem Tried.toolMissing_iff (ht : Tried i c k xs h (.ok z) k' h') :
    z.toolMissing = true ↔ i.found xs ≠ none ∨ (∃ q, k = some q ∧ q.usable = false) ∨
      ∃ e ∈ xs, i.Mistakable e := by
  have hunusable : (unusable c).toolMissing = true := rfl
  cases ht with
  | barred hbad => exact iff_of_true hunusable (.inr (.inl ⟨_, rfl, hbad⟩))
  | refused hrefuted => exact iff_of_true hunusable (.inl (by simp [hrefuted]))
  | lost hv hmissing =>
    refine iff_of_true hunusable (.inl ?_)
    rw [hv.found_append, refutation_error, if_pos hmissing]
    exact Option.some_ne_none _
  | failed hv =>
    rw [hv.shows_iff]
    simp [LintResult.toolMissing]
  | passed hv hstatus =>
    rw [hv.shows_iff, hstatus]
    simp [LintResult.toolMissing, toolMissingStatus]

/-- A candidate that needs no tool has a result of its own. -/
theorem Dealt.toolMissing_iff (hd : Dealt i h c k xs h₁ (.ok z) k' h') :
    (i.found xs ≠ none ∨ (∃ e ∈ xs, i.Mistakable e) → z.toolMissing = true) ∧
      (z.toolMissing = true → i.found xs ≠ none ∨ (∃ q, k = some q ∧ q.usable = false) ∨
        ∃ e ∈ xs, i.Mistakable e) := by
  cases hd with
  | unread hread => simp [LintResult.toolMissing, toolMissingStatus]
  | read hread hweighed =>
    cases hweighed with
    | skipped => simp [LintResult.toolMissing]
    | cached => simp [LintResult.toolMissing]
    | tried _ _ htried =>
      rw [htried.toolMissing_iff]
      exact ⟨fun h => h.imp_right .inr, id⟩

theorem Vetted.not_unusable (hv : Vetted i k xs p) {q : ToolProbe} (hq : some p = some q) :
    ¬q.usable = false := by
  cases hq
  simp [hv.usable]

/-- A tool is known to be unusable only if that has been found out, now or before. -/
theorem Tried.found_or_known (ht : Tried i c k xs h x k' h')
    (hbad : ∃ q, k' = some q ∧ q.usable = false) :
    i.found xs ≠ none ∨ ∃ q, k = some q ∧ q.usable = false := by
  obtain ⟨q, hq, hunusable⟩ := hbad
  cases ht with
  | barred => exact .inr ⟨q, hq, hunusable⟩
  | refused hrefuted => exact .inl (by simp [hrefuted])
  | unprobed => cases hq
  | lost hv hmissing =>
    refine .inl ?_
    rw [hv.found_append, refutation_error, if_pos hmissing]
    exact Option.some_ne_none _
  | broken hv => exact absurd hunusable (hv.not_unusable hq)
  | failed hv => exact absurd hunusable (hv.not_unusable hq)
  | passed hv => exact absurd hunusable (hv.not_unusable hq)
  | unrecorded hv => exact absurd hunusable (hv.not_unusable hq)

/-! ### All candidates -/

/-- What is known of an unusable tool has been found out. -/
theorem History.exists_discovery {vs : List Invocation} (hh : i.History vs k)
    (hbad : ∃ q, k = some q ∧ q.usable = false) : ∃ v ∈ vs, i.discovery v ≠ none := by
  induction hh with
  | start =>
    obtain ⟨q, hq, -⟩ := hbad
    cases hq
  | @next vs k v hh hk hrun ih =>
    have hearlier : (∃ q, k = some q ∧ q.usable = false) →
        ∃ u ∈ vs ++ [v], i.discovery u ≠ none := fun hknown =>
      let ⟨u, hu, hfound⟩ := ih hknown
      ⟨u, List.mem_append_left _ hu, hfound⟩
    obtain ⟨hdealt, -⟩ := dealt_transcript hrun
    rw [hk] at hdealt
    rcases hdealt.cases_needs with ⟨-, hknown, -⟩ | ⟨c', -, htried⟩
    · rw [hknown] at hbad
      exact hearlier hbad
    · rcases htried.found_or_known hbad with hfound | hknown
      · exact ⟨v, by simp, hfound⟩
      · exact hearlier hknown

/-- Among the candidates of a history, all of which have results, one counts as one without a tool
if and only if the tool is found unusable or is mistaken for it. -/
theorem History.toolMissing_iff {vs : List Invocation} (hh : i.History vs k)
    (hok : ∀ v ∈ vs, ∃ z, v.result = .ok z) :
    (∃ v ∈ vs, ∃ z, v.result = .ok z ∧ z.toolMissing = true) ↔
      (∃ v ∈ vs, i.discovery v ≠ none) ∨
        ∃ v ∈ vs, ∃ e ∈ (i.transcript v).exchanges, i.Mistakable e := by
  have hdealt : ∀ v ∈ vs, ∀ z, v.result = .ok z →
      Dealt i v.before.world.host v.candidate v.before.probe (i.transcript v).exchanges
        (i.transcript v).world.host (.ok z) v.after.probe v.after.world.host := by
    intro v hv z hz
    rw [← hz]
    exact (dealt_transcript (hh.run_of_mem hv)).1
  constructor
  · rintro ⟨v, hv, z, hz, hmissing⟩
    rcases (hdealt v hv z hz).toolMissing_iff.2 hmissing with hfound | hknown | hmistakable
    · exact .inl ⟨v, hv, hfound⟩
    · -- the tool has been found unusable before
      obtain ⟨front, back, hvs⟩ := List.append_of_mem hv
      obtain ⟨u, hu, hfound⟩ := (hh.exists_front hvs).1.exists_discovery hknown
      exact .inl ⟨u, hvs ▸ List.mem_append_left _ hu, hfound⟩
    · exact .inr ⟨v, hv, hmistakable⟩
  · rintro (⟨v, hv, hshown⟩ | ⟨v, hv, hshown⟩)
    · obtain ⟨z, hz⟩ := hok v hv
      exact ⟨v, hv, z, hz, (hdealt v hv z hz).toolMissing_iff.1 (.inl hshown)⟩
    · obtain ⟨z, hz⟩ := hok v hv
      exact ⟨v, hv, z, hz, (hdealt v hv z hz).toolMissing_iff.1 (.inr hshown)⟩

end Invoker

/-! ### The status of a run -/

namespace Summary

variable {s : Summary}

/-- A run with results ends as one that needs none. -/
theorem exitStatus_of_ne_nil (hs : s.results ≠ []) (required : Bool) :
    s.exitStatus required = s.exitStatus false := by
  have hempty : s.results.isEmpty = false := by simpa using hs
  rw [exitStatus, exitStatus, hempty, Bool.and_false, Bool.and_false]

/-- A run ends with the status of a missing tool exactly if some result has it. -/
theorem Tallied.code_eq_iff (hs : s.Tallied) (required : Bool) :
    (s.exitStatus required).code = 127 ↔ ∃ x ∈ s.results, x.toolMissing = true := by
  by_cases hnil : s.results = []
  · have hfailed : s.failed = 0 := by rw [hs.failed, hnil]; rfl
    rw [exitStatus, hnil, hfailed]
    cases required <;> simp [ExitStatus.code]
  · rw [exitStatus_of_ne_nil hnil, hs.exitStatus_eq]
    split
    · rename_i hall
      refine iff_of_false (by simp [ExitStatus.code]) ?_
      rintro ⟨x, hx, hmissing⟩
      rw [LintResult.toolMissing, Bool.and_eq_true, decide_eq_true_eq] at hmissing
      exact hall x hx hmissing.1
    · split
      · rename_i hsome
        exact iff_of_true rfl hsome
      · rename_i hnone
        exact iff_of_false (by simp [ExitStatus.code]) hnone

/-- With a failure, a run ends with the status of a missing tool or with that of a failure. -/
theorem Tallied.code_eq_or (hs : s.Tallied) (required : Bool)
    (hfailed : ∃ x ∈ s.results, x.classification = .failed) :
    (s.exitStatus required).code = 127 ∨ (s.exitStatus required).code = 1 := by
  obtain ⟨x, hx, hclass⟩ := hfailed
  rw [exitStatus_of_ne_nil (List.ne_nil_of_mem hx), hs.exitStatus_eq,
    if_neg fun hall => hall x hx hclass]
  split
  · exact .inl rfl
  · exact .inr rfl

end Summary

namespace DriverRun

variable {r : DriverRun} {source : Source} {w w' : World} {o : DriverOutcome}

/-- **The status of a missing tool.** In a run that comes to its end each invocation warns of a file
that it cannot read, and of the tool when it finds that unusable. The run ends with the status of a
missing tool exactly if some invocation finds that out, or some command that lints a candidate ends
with this very status. -/
theorem code_eq_toolMissing_iff (h : (r.run source).run w = (.ok o, w')) :
    (∀ v ∈ (r.course source w).invocations, r.invoker.warnings v =
      r.invoker.unreadable v.before.world.host v.candidate ++
        (r.invoker.discovery v).toList.map (Invoker.complaint r.driver)) ∧
    (o.status.code = 127 ↔
      (∃ v ∈ (r.course source w).invocations, r.invoker.discovery v ≠ none) ∨
        ∃ v ∈ (r.course source w).invocations, ∃ e ∈ (r.invoker.transcript v).exchanges,
          r.invoker.Mistakable e) ∧
    (o.status.code ≠ 127 → (∃ x ∈ o.summary.results, x.classification = .failed) →
      o.status.code = 1) := by
  obtain ⟨k, hh⟩ := r.exists_history_course source w
  obtain ⟨-, htallied, hstatus⟩ := tallied_of_run h
  have hresults : (∃ x ∈ o.summary.results, x.toolMissing = true) ↔
      ∃ v ∈ (r.course source w).invocations, ∃ z, v.result = .ok z ∧ z.toolMissing = true := by
    have hmem : ∀ x : LintResult, x ∈ o.summary.results ↔
        ∃ v ∈ (r.course source w).invocations, v.result = .ok x := fun x => by
      rw [← List.mem_map_of_injective (f := Except.ok (ε := Fault)) fun _ _ => Except.ok.inj,
        ← (course_of_run h).2, List.mem_map]
    simp only [hmem]
    grind
  rw [hstatus, htallied.code_eq_iff, hresults]
  refine ⟨fun v hv => (Invoker.dealt_transcript (hh.run_of_mem hv)).2.1, ?_, fun hnot hfailed => ?_⟩
  · exact hh.toolMissing_iff fun v hv =>
      let ⟨z, _, hz⟩ := exists_result_of_run h hv
      ⟨z, hz⟩
  · exact (htallied.code_eq_or _ hfailed).resolve_left hnot

/-- A tool that vanishes before its second command: that is found out, and the run ends with 127. -/
theorem code_eq_toolMissing_iff_sample : ∃ o w',
    (({ sample 0 with runner := .vanishing 1 } : DriverRun).run
      (.ofPaths [.absolute ["r", "a.py"]])).run
      ⟨.holding [["r"]] [(["r", "a.py"], sampleBytes)], []⟩ = (.ok o, w') ∧
      o.status.code = 127 := by
  generalize hr : ({ sample 0 with runner := .vanishing 1 } : DriverRun) = r
  generalize hw : World.mk _ [] = w
  have hreturns : ((r.run (.ofPaths [.absolute ["r", "a.py"]])).run w).1.isOk = true :=
    hr ▸ hw ▸ by decide +kernel
  have hfound : ((r.course (.ofPaths [.absolute ["r", "a.py"]]) w).invocations.any fun v =>
      (r.invoker.discovery v).isSome) = true := hr ▸ hw ▸ by decide +kernel
  rcases hrun : (r.run (.ofPaths [.absolute ["r", "a.py"]])).run w with ⟨e | o, w'⟩
  · rw [hrun] at hreturns
    cases hreturns
  · obtain ⟨v, hv, hsome⟩ := List.any_eq_true.mp hfound
    exact ⟨o, w', rfl, (code_eq_toolMissing_iff hrun).2.1.mpr
      (.inl ⟨v, hv, Option.isSome_iff_ne_none.mp hsome⟩)⟩

/-- The sample run with a tool that answers the version query and rejects each file with a
status. -/
def rejecting (status : Int) : DriverRun :=
  { sample 0 with
    runner := .answering fun words => if words.contains "--version" then 0 else status }

/-- A tool that rejects a file with 127 is never found unusable, and no warning is given, but the
run ends as one without a tool. -/
theorem code_of_mistaken : ∃ w o w',
    ((rejecting 127).run (.ofPaths [.absolute ["r", "a.py"]])).run w = (.ok o, w') ∧
      o.status.code = 127 ∧ w'.journal.filterMap Event.warned? = [] ∧
      ∀ v ∈ ((rejecting 127).course (.ofPaths [.absolute ["r", "a.py"]]) w).invocations,
        (rejecting 127).invoker.discovery v = none := by
  generalize hw : World.mk (.holding [["r"]] [(["r", "a.py"], sampleBytes)]) [] = w
  have hcode : (((rejecting 127).run (.ofPaths [.absolute ["r", "a.py"]])).run w).1.toOption.map
      (·.status.code) = some 127 := hw ▸ by decide +kernel
  have hwarned : (((rejecting 127).run (.ofPaths [.absolute ["r", "a.py"]])).run
      w).2.journal.filterMap Event.warned? = [] := hw ▸ by decide +kernel
  have hfound : (((rejecting 127).course (.ofPaths [.absolute ["r", "a.py"]]) w).invocations.all
      fun v => ((rejecting 127).invoker.discovery v).isNone) = true := hw ▸ by decide +kernel
  rcases hrun : ((rejecting 127).run (.ofPaths [.absolute ["r", "a.py"]])).run w with ⟨e | o, w'⟩
  · rw [hrun] at hcode
    cases hcode
  · rw [hrun] at hcode hwarned
    exact ⟨w, o, w', hrun, Option.some.inj hcode, hwarned, fun v hv =>
      Option.isNone_iff_eq_none.mp (List.all_eq_true.mp hfound v hv)⟩

end DriverRun

end OptIn
