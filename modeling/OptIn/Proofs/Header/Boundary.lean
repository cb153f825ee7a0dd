import Mathlib.Data.List.DropRight
import OptIn.Invoker

/-!
# Where a header ends

A header ends at its first bare line: a line of blanks, with at most one comment mark among them
(`isHeaderBoundary_iff`). What is left of a bare line when its end is cut off is bare as well
(`Bare.of_isPrefix`), and lines behind a bare one have no part in the header
(`headerLines_append_of_exists`). The directive of a file is that of its header
(`fst_run_readDirective`).
-/

namespace OptIn

/-! ### Bare lines -/

/-- A line is **bare** when it holds nothing but blanks, or a comment mark between blanks. -/
def Bare (line : List Char) : Prop :=
  (∀ c ∈ line, Text.isBlank c = true) ∨
    ∃ before after, line = before ++ '#' :: after ∧ (∀ c ∈ before, Text.isBlank c = true) ∧
      ∀ c ∈ after, Text.isBlank c = true

namespace Text

theorem trim_eq (cs : List Char) : trim cs = (cs.dropWhile isBlank).rdropWhile isBlank := rfl

theorem trim_eq_nil_iff {cs : List Char} : trim cs = [] ↔ ∀ c ∈ cs, isBlank c = true := by
  rw [trim_eq, List.rdropWhile_eq_nil_iff]
  constructor
  · intro h c hc
    rw [← List.takeWhile_append_dropWhile (p := isBlank) (l := cs)] at hc
    rcases List.mem_append.mp hc with hc | hc
    · exact List.mem_takeWhile_imp hc
    · exact h c hc
  · exact fun h c hc => h c ((List.dropWhile_suffix _).mem hc)

/-- Trimming leaves a character that is not blank alone when all others are blank. -/
theorem trim_eq_singleton_iff {cs : List Char} {m : Char} (hm : isBlank m = false) :
    trim cs = [m] ↔
      ∃ before after, cs = before ++ m :: after ∧ (∀ c ∈ before, isBlank c = true) ∧
        ∀ c ∈ after, isBlank c = true := by
  rw [trim_eq]
  constructor
  · intro h
    refine ⟨cs.takeWhile isBlank, (cs.dropWhile isBlank).rtakeWhile isBlank, ?_,
      fun c hc => List.mem_takeWhile_imp hc, fun c hc => List.mem_rtakeWhile_imp hc⟩
    calc cs = cs.takeWhile isBlank ++ cs.dropWhile isBlank := by
          rw [List.takeWhile_append_dropWhile]
      _ = cs.takeWhile isBlank ++ ([m] ++ (cs.dropWhile isBlank).rtakeWhile isBlank) := by
          rw [← h, List.rdropWhile_append_rtakeWhile]
  · rintro ⟨before, after, rfl, hbefore, hafter⟩
    have hmark : ¬isBlank m = true := by simp [hm]
    rw [List.dropWhile_append_of_pos hbefore, List.dropWhile_cons_of_neg hmark, List.rdropWhile,
      List.reverse_cons, List.dropWhile_append_of_pos (by simpa using hafter),
      List.dropWhile_cons_of_neg hmark, List.reverse_singleton]

/-- A text is **trimmed** when neither its first nor its last character is blank. -/
structure IsTrimmed (cs : List Char) : Prop where
  head : ∀ c ∈ cs.head?, isBlank c = false
  last : ∀ c ∈ cs.getLast?, isBlank c = false

/-- Trimming leaves no blank at either end. -/
theorem isTrimmed_trim (cs : List Char) : IsTrimmed (trim cs) where
  head c h := by
    obtain ⟨ds, hds⟩ := List.head?_eq_some_iff.mp h
    obtain ⟨es, hes⟩ : trim cs <+: cs.dropWhile isBlank := List.rdropWhile_prefix isBlank _
    have hfirst := List.head?_dropWhile_not isBlank cs
    rw [← hes, hds] at hfirst
    simpa using hfirst
  last c h := by
    rw [trim, trimRightBy, List.getLast?_reverse] at h
    have hfirst := List.head?_dropWhile_not isBlank (trimLeft cs).reverse
    rw [Option.mem_def.mp h] at hfirst
    simpa using hfirst

/-- A text without blanks at its ends is kept as it is. -/
theorem trim_eq_self {cs : List Char} (h : IsTrimmed cs) : trim cs = cs := by
  have hleft : trimLeft cs = cs := by
    cases cs with
    | nil => rfl
    | cons c cs => exact List.dropWhile_cons_of_neg (by simp [h.head c rfl])
  rw [trim, hleft]
  refine List.rdropWhile_eq_self_iff.mpr fun hne => ?_
  simp [h.last _ (List.getLast?_eq_some_getLast hne)]

end Text

theorem isHeaderBoundary_iff {line : List Char} : isHeaderBoundary line = true ↔ Bare line := by
  rw [isHeaderBoundary, Bare, ← Text.trim_eq_nil_iff,
    ← Text.trim_eq_singleton_iff (show Text.isBlank '#' = false by decide), Bool.or_eq_true,
    decide_eq_true_eq, decide_eq_true_eq]

/-- The start of a bare line is bare: it lies before the mark, or has all of it. -/
theorem Bare.of_isPrefix {line start : List Char} (h : Bare line) (hstart : start <+: line) :
    Bare start := by
  rcases h with h | ⟨before, after, rfl, hbefore, hafter⟩
  · exact .inl fun c hc => h c (hstart.mem hc)
  · rcases List.prefix_or_prefix_of_prefix hstart (List.prefix_append before ('#' :: after)) with
      hshort | hlong
    · exact .inl fun c hc => hbefore c (hshort.mem hc)
    · obtain ⟨rest, rfl⟩ := hlong
      rw [List.prefix_append_right_inj] at hstart
      rcases List.prefix_cons_iff.mp hstart with rfl | ⟨tail, rfl, htail⟩
      · exact .inl (by simpa using hbefore)
      · exact .inr ⟨before, tail, rfl, hbefore, fun c hc => hafter c (htail.mem hc)⟩

/-! ### The lines of a header -/

theorem withoutNewline_isPrefix (line : List Char) : withoutNewline line <+: line :=
  List.rdropWhile_prefix _ line

/-- Nothing is taken from a line that holds no newline character. -/
theorem withoutNewline_eq_self {line : List Char} (h : ∀ c ∈ line, c ≠ '\r' ∧ c ≠ '\n') :
    withoutNewline line = line := by
  refine List.rdropWhile_eq_self_iff.mpr fun hne => ?_
  have hlast := h _ (List.getLast_mem hne)
  simp [hlast.1, hlast.2]

theorem headerLines_cons (line : List Char) (lines : List (List Char)) :
    headerLines (line :: lines) =
      if isHeaderBoundary (withoutNewline line) then []
      else withoutNewline line :: headerLines lines := by
  rw [headerLines, List.map_cons, List.takeWhile_cons]
  cases isHeaderBoundary (withoutNewline line) <;> rfl

/-- A bare line ends the header, whatever stands behind it. -/
theorem headerLines_cons_of_bare {line : List Char} (h : Bare line) (lines : List (List Char)) :
    headerLines (line :: lines) = [] := by
  rw [headerLines_cons,
    if_pos (isHeaderBoundary_iff.mpr (h.of_isPrefix (withoutNewline_isPrefix line)))]

/-- Lines behind a bare one have no part in the header. -/
theorem headerLines_append_of_exists {lines : List (List Char)} (h : ∃ line ∈ lines, Bare line)
    (below : List (List Char)) : headerLines (lines ++ below) = headerLines lines := by
  induction lines with
  | nil => simp at h
  | cons line lines ih =>
    rw [List.cons_append, headerLines_cons, headerLines_cons]
    split
    · rfl
    · rename_i hline
      obtain ⟨bare, hmem, hbare⟩ := h
      rcases List.mem_cons.mp hmem with rfl | hmem
      · exact absurd
          (isHeaderBoundary_iff.mpr (hbare.of_isPrefix (withoutNewline_isPrefix bare))) hline
      · rw [ih ⟨bare, hmem, hbare⟩]

/-- An empty line at the end has no part in the header. -/
theorem headerLines_append_nil (lines : List (List Char)) :
    headerLines (lines ++ [[]]) = headerLines lines := by
  induction lines with
  | nil => decide
  | cons line lines ih => rw [List.cons_append, headerLines_cons, headerLines_cons, ih]

theorem mem_of_mem_headerLines {line : List Char} {lines : List (List Char)}
    (h : line ∈ headerLines lines) : ∃ l ∈ lines, line = withoutNewline l := by
  obtain ⟨l, hl, rfl⟩ := List.mem_map.mp ((List.takeWhile_prefix _).mem h)
  exact ⟨l, hl, rfl⟩

/-! ### The header of a file -/

/-- The directive of a file that can be read is that of the lines of its text. -/
theorem Invoker.fst_run_readDirective (d : Driver) {p : Path} {w : World} {bytes : List UInt8}
    (hread : w.host.read p = .ok bytes) :
    ((readDirective d p).run w).1 =
      .ok (d.scanLines (Text.fileLines (Text.Utf8.decode bytes))) := by
  have hask : (World.ask (·.read p)).run w = (.ok bytes, w) := by rw [World.run_ask, hread]
  rw [readDirective, Action.run_bind_ok hask]
  rfl

/-- A driver looks at nothing but the header. -/
theorem Driver.scanLines_congr (d : Driver) {ls ms : List (List Char)}
    (h : headerLines ls = headerLines ms) : d.scanLines ls = d.scanLines ms := by
  rw [scanLines, scanLines, Directive.scanLines, h, Directive.scanLines]

end OptIn
