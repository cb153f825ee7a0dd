import OptIn.Proofs.Header.Boundary
import OptIn.Proofs.Host.Checked
import OptIn.Proofs.Text.Cuts

/-!
# What a version query shows

A version query that comes to its end says what its two streams hold between white space, if they
hold anything else. It says nothing only if both are silent (`ToolProbe.output_eq_nil_iff`), and
otherwise begins with what is no white space (`ToolProbe.isTrimmed_output`). As every line boundary
is white space, there is a first line then, and it is not empty. Of a tool that can be used this
line is shown, of one that cannot all that the query says (`ToolProbe.run_of_completed`).
-/

namespace OptIn

namespace Text

variable {cs ds : List Char}

theorem isTrimmed_nil : IsTrimmed [] := ⟨by simp, by simp⟩

/-- Trimmed texts that are not empty can have anything between them. -/
theorem IsTrimmed.append (hcs : IsTrimmed cs) (hds : IsTrimmed ds) (hcs' : cs ≠ []) (hds' : ds ≠ [])
    (es : List Char) : IsTrimmed (cs ++ (es ++ ds)) where
  head c hc := by
    rw [List.head?_append_of_ne_nil _ hcs'] at hc
    exact hcs.head c hc
  last c hc := by
    rw [List.getLast?_append_of_ne_nil _ (by simp [hds']), List.getLast?_append_of_ne_nil _ hds']
      at hc
    exact hds.last c hc

/-- A trimmed text begins on its first line. -/
theorem IsTrimmed.exists_splitLines (h : IsTrimmed cs) (hne : cs ≠ []) :
    ∃ l ls, splitLines cs = l :: ls ∧ l ≠ [] := by
  obtain ⟨ls, hls⟩ := List.head?_eq_some_iff.mp (head?_splitLines hne)
  refine ⟨_, ls, hls, ?_⟩
  obtain ⟨c, cs, rfl⟩ := List.exists_cons_of_ne_nil hne
  have hc : ¬isLineBoundary c = true := fun hc => by
    have hblank := h.head c rfl
    rw [isBlank_of_isLineBoundary hc] at hblank
    cases hblank
  rw [List.takeWhile_cons_of_pos (by simp [hc])]
  exact List.cons_ne_nil _ _

end Text

namespace ToolProbe

open Text

variable {done : Completed} {stream : Option String} {s tool : String} {a : List Char}

/-- A stream is **silent** when it is absent, or holds nothing but white space. -/
def Silent (stream : Option String) : Prop := ∀ s ∈ stream, ∀ c ∈ s.toList, isBlank c = true

/-! ### What the streams hold -/

theorem told_eq_some_iff :
    told stream = some a ↔ a ≠ [] ∧ ∃ s, stream = some s ∧ a = trim s.toList := by
  cases stream with
  | none => simp [told, trim, trimLeft, trimRightBy]
  | some s =>
    rw [told, Option.getD_some]
    split
    · rename_i hnil
      simp [hnil]
    · rename_i hne
      simp only [Option.some.injEq, exists_eq_left']
      exact ⟨fun h => ⟨h ▸ hne, h.symm⟩, fun h => h.2.symm⟩

theorem told_eq_none_iff : told stream = none ↔ Silent stream := by
  have htrim : told stream = none ↔ trim (stream.getD "").toList = [] := by
    rw [told]
    split <;> simp_all
  rw [htrim, trim_eq_nil_iff]
  cases stream <;> simp [Silent]

instance (stream : Option String) : Decidable (Silent stream) :=
  decidable_of_iff (told stream = none) told_eq_none_iff

theorem told_of_not_silent (h : ¬Silent (some s)) : told (some s) = some (trim s.toList) := by
  obtain ⟨a, ha⟩ := Option.ne_none_iff_exists'.mp (mt told_eq_none_iff.mp h)
  obtain ⟨-, s', hs, rfl⟩ := told_eq_some_iff.mp ha
  rw [ha, Option.some.inj hs]

/-- With something on the first stream, the query says that, and what is on the second behind it. -/
theorem output_of_stdout (ha : told done.stdout = some a) :
    output done = a ∨ ∃ b, told done.stderr = some b ∧ output done = a ++ '\n' :: b := by
  rw [output, ha]
  cases told done.stderr with
  | none => exact .inl (List.intercalate_singleton ..)
  | some b => exact .inr ⟨b, rfl, by simp [List.intercalate]⟩

/-- With nothing on the first stream, the query says what is on the second. -/
theorem output_of_silent (h : Silent done.stdout) : output done = (told done.stderr).getD [] := by
  rw [output, told_eq_none_iff.mpr h]
  cases told done.stderr with
  | none => rfl
  | some b => exact List.intercalate_singleton ..

theorem output_eq_nil_iff : output done = [] ↔ Silent done.stdout ∧ Silent done.stderr := by
  by_cases h : Silent done.stdout
  · have hnone : told done.stderr = none ↔ Silent done.stderr := told_eq_none_iff
    rw [output_of_silent h, ← hnone, and_iff_right h]
    cases hb : told done.stderr with
    | none => simp
    | some b => simpa using (told_eq_some_iff.mp hb).1
  · obtain ⟨a, ha⟩ := Option.ne_none_iff_exists'.mp (mt told_eq_none_iff.mp h)
    have hne := (told_eq_some_iff.mp ha).1
    refine iff_of_false ?_ fun hs => h hs.1
    rcases output_of_stdout ha with heq | ⟨b, -, heq⟩ <;> simp [heq, hne]

theorem isTrimmed_of_told (ha : told stream = some a) : IsTrimmed a := by
  obtain ⟨-, s, -, rfl⟩ := told_eq_some_iff.mp ha
  exact isTrimmed_trim _

/-- What a query says begins and ends with what is no white space. -/
theorem isTrimmed_output (done : Completed) : IsTrimmed (output done) := by
  cases ha : told done.stdout with
  | none =>
    rw [output_of_silent (told_eq_none_iff.mp ha)]
    cases hb : told done.stderr with
    | none => exact isTrimmed_nil
    | some b => exact isTrimmed_of_told hb
  | some a =>
    rcases output_of_stdout ha with heq | ⟨b, hb, heq⟩
    · exact heq ▸ isTrimmed_of_told ha
    · exact heq ▸ (isTrimmed_of_told ha).append (isTrimmed_of_told hb)
        (told_eq_some_iff.mp ha).1 (told_eq_some_iff.mp hb).1 ['\n']

/-! ### What is shown -/

/-- What is shown of a tool that can be used: the **first line** of what its query says. It is the
first line on the first stream, or on the second if the first is silent. -/
structure ShowsFirstLine (done : Completed) (detail : String) : Prop where
  one_line : ∀ c ∈ detail.toList, isLineBoundary c = false
  eq_empty_iff : detail = "" ↔ Silent done.stdout ∧ Silent done.stderr
  of_output : output done ≠ [] → (splitLines (output done)).head? = some detail.toList
  of_stdout : ∀ s, done.stdout = some s → ¬Silent done.stdout →
    (splitLines (trim s.toList)).head? = some detail.toList
  of_stderr : ∀ s, Silent done.stdout → done.stderr = some s → ¬Silent done.stderr →
    (splitLines (trim s.toList)).head? = some detail.toList

/-- What is shown of a tool that cannot be used: **all** that its query says. -/
structure ShowsAll (done : Completed) (detail : String) : Prop where
  eq_empty_iff : detail = "" ↔ Silent done.stdout ∧ Silent done.stderr
  trimmed : IsTrimmed detail.toList

theorem head?_splitLines_output_of_stdout (hs : done.stdout = some s) (h : ¬Silent done.stdout) :
    (splitLines (output done)).head? = (splitLines (trim s.toList)).head? := by
  have ha : told done.stdout = some (trim s.toList) := hs ▸ told_of_not_silent (hs ▸ h)
  rcases output_of_stdout ha with heq | ⟨b, -, heq⟩
  · rw [heq]
  · rw [heq, head?_splitLines_append (told_eq_some_iff.mp ha).1 isLineBoundary_newline]

theorem showsFirstLine_of_silent (hnil : output done = []) : ShowsFirstLine done "" := by
  have hsilent := output_eq_nil_iff.mp hnil
  exact ⟨by simp, by simp [hsilent], fun h => absurd hnil h, fun s hs h => absurd hsilent.1 h,
    fun s hs hs' h => absurd hsilent.2 h⟩

theorem showsFirstLine_of_head? {l : List Char}
    (hhead : (splitLines (output done)).head? = some l) :
    ShowsFirstLine done (String.ofList l) := by
  have hsaid : output done ≠ [] := fun hnil => by simp [hnil, splitLines] at hhead
  obtain ⟨l', ls, hlines, hl⟩ := (isTrimmed_output done).exists_splitLines hsaid
  obtain rfl : l' = l := by simpa [hlines] using hhead
  refine ⟨?_, ?_, fun _ => ?_, fun s hs h => ?_, fun s hs hs' h => ?_⟩
  · rw [String.toList_ofList]
    exact not_boundary_of_mem_splitLines l' (hlines ▸ List.mem_cons_self)
  · rw [← output_eq_nil_iff]
    refine iff_of_false (fun h => hl ?_) hsaid
    simpa using congrArg String.toList h
  · rw [hhead, String.toList_ofList]
  · rw [← head?_splitLines_output_of_stdout hs h, hhead, String.toList_ofList]
  · have hb : output done = trim s.toList := by
      rw [output_of_silent hs, hs', told_of_not_silent (hs' ▸ h), Option.getD_some]
    rw [← hb, hhead, String.toList_ofList]

theorem showsAll (done : Completed) : ShowsAll done (String.ofList (output done)) where
  eq_empty_iff := by
    rw [← output_eq_nil_iff, ← String.toList_eq_nil_iff, String.toList_ofList]
  trimmed := by
    rw [String.toList_ofList]
    exact isTrimmed_output done

/-- **Version queries.** Whatever a completed query holds on its streams, the probe comes to its
end. With status 0 the tool can be used, and the first line is shown of what the query says; with
any other it cannot, and all of that is shown. -/
theorem run_of_completed {runner : ToolRunner} {w : World}
    (hdone : (runner w (query tool)).outcome = .ok done) :
    ∃ p w', (run runner tool).run w = (.ok p, w') ∧
      (done.status = 0 → p.status = .available ∧ ShowsFirstLine done p.detail) ∧
      (done.status ≠ 0 → p.status = .incompatible ∧ ShowsAll done p.detail) := by
  have hperform : (runner.perform (query tool)).attempt.run w =
      (.ok (.ok done), ((runner.perform (query tool)).run w).2) := by
    rw [Action.run_attempt, ← hdone]
    rfl
  have hrun : (run runner tool).run w =
      (ofCompleted done, ((runner.perform (query tool)).run w).2) := by
    rw [run, Action.run_bind_ok hperform]
    rfl
  by_cases h : done.status = 0
  · -- the first line is there to be shown, as long as the query says anything
    obtain ⟨l, hl, hshown⟩ := ofCompleted_of_eq h
    rw [hl] at hrun
    refine ⟨_, _, hrun, fun _ => ⟨rfl, ?_⟩, absurd h⟩
    rcases hshown with ⟨hnothing, rfl⟩ | hhead
    · exact showsFirstLine_of_silent hnothing
    · exact showsFirstLine_of_head? hhead
  · rw [ofCompleted_of_ne h] at hrun
    exact ⟨_, _, hrun, fun hzero => absurd hzero h, fun _ => ⟨rfl, showsAll done⟩⟩

/-- A runner that gives every command the same end. -/
def replying (done : Completed) : ToolRunner := fun w _ => { outcome := .ok done, host := w.host }

/-- Separators of lines stand on both sides of the first line of a tool that can be used, and one
that cannot speaks on its second stream only. -/
theorem run_of_completed_sample :
    ∃ (w : World) (fine broken : Completed),
      w = ⟨.holding [] [], []⟩ ∧
      fine = ⟨["t"], 0, some "\x1c\u2028 t 1.0\x85more\n", some "\tnote\x0b"⟩ ∧
      broken = ⟨["t"], 3, none, some "\x1fbad\nflag\u2029"⟩ ∧
      (∃ p w', (run (replying fine) "t").run w = (.ok p, w') ∧ p.status = .available ∧
        p.detail = "t 1.0") ∧
      ∃ p w', (run (replying broken) "t").run w = (.ok p, w') ∧ p.status = .incompatible ∧
        p.detail ≠ "" := by
  generalize hfine : (⟨["t"], 0, some "\x1c\u2028 t 1.0\x85more\n", some "\tnote\x0b"⟩ :
    Completed) = fine
  generalize hbroken : (⟨["t"], 3, none, some "\x1fbad\nflag\u2029"⟩ : Completed) = broken
  have hanswer : ∀ (done : Completed) (w : World),
      (replying done w (query "t")).outcome = .ok done := fun done w => rfl
  refine ⟨⟨.holding [] [], []⟩, fine, broken, rfl, rfl, rfl, ?_, ?_⟩
  · obtain ⟨p, w', hrun, hzero, -⟩ := run_of_completed (hanswer fine ⟨.holding [] [], []⟩)
    obtain ⟨hstatus, hshown⟩ := hzero (hfine ▸ rfl)
    have hfirst := hshown.of_stdout "\x1c\u2028 t 1.0\x85more\n" (hfine ▸ rfl)
      (hfine ▸ by decide +kernel)
    have hline : (splitLines (trim "\x1c\u2028 t 1.0\x85more\n".toList)).head? =
        some "t 1.0".toList := by decide +kernel
    have hdetail := Option.some.inj (hfirst.symm.trans hline)
    exact ⟨p, w', hrun, hstatus, String.toList_inj.mp hdetail⟩
  · obtain ⟨p, w', hrun, -, hother⟩ := run_of_completed (hanswer broken ⟨.holding [] [], []⟩)
    obtain ⟨hstatus, hshown⟩ := hother (hbroken ▸ by decide)
    refine ⟨p, w', hrun, hstatus, fun hempty => ?_⟩
    have hspoken : ¬Silent broken.stderr := hbroken ▸ by decide +kernel
    exact hspoken (hshown.eq_empty_iff.mp hempty).2

end ToolProbe

end OptIn
