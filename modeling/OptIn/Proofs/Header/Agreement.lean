import OptIn.Proofs.Header.Meaning
import OptIn.Proofs.Host.Checked
import OptIn.Proofs.Pattern.Greedy
import OptIn.Proofs.Text.Cuts
import OptIn.Proofs.Text.Encoding

/-!
# Scanning a file and scanning its text

The header of a file is cut into lines at newlines, that of a text at every line boundary. They are
the same header when no line of the file's header holds a boundary
(`headerLines_splitLines`), and only then do all drivers find the same directive in both
(`readDirective_eq_scanText_iff`): there is one for each line that sees the difference.
-/

namespace OptIn

/-! ### The same header -/

/-- Cutting lines at the other boundaries leaves a header as it is that holds none of these. The
bare line below it is cut into bare ones. -/
theorem headerLines_flatMap_pieces {lines : List (List Char)}
    (hclean : ∀ l ∈ lines, withoutNewline l = l)
    (hplain : ∀ l ∈ headerLines lines, ∀ c ∈ l, Text.isLineBoundary c = false) :
    headerLines (lines.flatMap (Text.pieces Text.isLineBoundary)) = headerLines lines := by
  induction lines with
  | nil => rfl
  | cons line lines ih =>
    have hline : withoutNewline line = line := hclean line List.mem_cons_self
    rw [headerLines_cons, hline] at hplain ⊢
    rw [List.flatMap_cons]
    split at hplain
    · -- the first piece of a bare line is bare: both headers end here
      rename_i hend
      obtain ⟨w, ws, hpieces, hw⟩ := Text.exists_pieces_eq_cons Text.isLineBoundary line
      rw [if_pos hend, hpieces, List.cons_append,
        headerLines_cons_of_bare ((isHeaderBoundary_iff.mp hend).of_isPrefix hw)]
    · -- a line of the header is its own only piece
      rename_i hend
      rw [if_neg hend, Text.pieces_of_forall_not (hplain line List.mem_cons_self),
        List.singleton_append, headerLines_cons, hline, if_neg hend,
        ih (fun l hl => hclean l (List.mem_cons_of_mem line hl))
          fun l hl => hplain l (List.mem_cons_of_mem line hl)]

/-- A header without boundaries inside its lines is the same in the text and in the file. -/
theorem headerLines_splitLines {cs : List Char}
    (h : ∀ l ∈ headerLines (Text.fileLines cs), ∀ c ∈ l, Text.isLineBoundary c = false) :
    headerLines (Text.splitLines cs) = headerLines (Text.fileLines cs) := by
  have hclean : ∀ l ∈ Text.fileLines cs, withoutNewline l = l := fun l hl =>
    withoutNewline_eq_self (Text.not_newline_of_mem_fileLines hl)
  obtain ⟨tail, htail, hcut⟩ := Text.flatMap_pieces_fileLines cs
  rw [← headerLines_flatMap_pieces hclean h, hcut]
  rcases htail with rfl | rfl
  · rw [List.append_nil]
  · rw [headerLines_append_nil]

/-! ### A mark that sees the difference -/

namespace Pattern

/-- The pattern of a text matches where the text stands. -/
theorem isSome_run_literals {cs : List Char} {s : Cursor} :
    ((row (cs.map .char)).run some s).isSome = true ↔ cs <+: s.rest := by
  induction cs generalizing s with
  | nil => simp [row, run]
  | cons c cs ih =>
    rw [List.map_cons, run_row_cons, run, takeOne]
    rcases hrest : s.rest with _ | ⟨d, ds⟩
    · simp
    · by_cases hd : d = c
      · simpa [hd] using ih (s := { s with before := d :: s.before, rest := ds })
      · simp [hd, List.cons_prefix_cons, Ne.symm hd]

/-- The mark of the lines that **start with** a text. -/
def startingWith (cs : List Char) : Pattern := .row (.spot .textStart :: cs.map .char)

theorem matchesLine_startingWith {cs line : List Char} :
    (startingWith cs).matchesLine line = true ↔ cs <+: line := by
  rw [matchesLine, matchLine?, startingWith, run_row_cons]
  exact isSome_run_literals (s := ⟨[], line, []⟩)

end Pattern

namespace Directive

/-- Without an options pattern a header asks for linting when the mark is on one of its lines. -/
theorem enabled_scanLines_iff {mark : Pattern} {lines : List (List Char)} :
    (scanLines mark none lines).enabled = true ↔
      ∃ l ∈ headerLines lines, mark.matchesLine l = true := by
  rw [scanLines_eq_meaning, meaning, if_neg (by simp)]
  split
  · rename_i hline
    exact iff_of_true rfl hline
  · rename_i hline
    exact iff_of_false Bool.false_ne_true hline

end Directive

/-! ### Files and texts -/

/-- A driver that looks for lines starting with a given text. -/
def Driver.seeking (cs : List Char) : Driver :=
  { name := "seeking", kind := .python, tool := "true", mark := .startingWith cs }

section

variable {p : Path} {t : String} {w : World}

/-- **Agreement.** Every driver finds in the file what it finds in the text exactly if no line of
the file's header holds a line boundary other than the newline at its end. -/
theorem Invoker.readDirective_eq_scanText_iff
    (hread : w.host.read p = .ok (Text.Utf8.encode t.toList)) :
    (∀ d : Driver, ((readDirective d p).run w).1 = .ok (d.scanText t)) ↔
      ∀ l ∈ headerLines (Text.fileLines t.toList), ∀ c ∈ l, Text.isLineBoundary c = false := by
  have hfile : ∀ d : Driver,
      ((readDirective d p).run w).1 = .ok (d.scanLines (Text.fileLines t.toList)) := fun d => by
    rw [fst_run_readDirective d hread, Text.Utf8.decode_encode]
  constructor
  · intro h l hl c hc
    by_contra hboundary
    -- the driver that looks for the line up to the boundary finds it in the file only
    obtain ⟨before, after, rfl⟩ := List.append_of_mem hc
    have heq : (Driver.seeking (before ++ [c])).scanLines (Text.fileLines t.toList) =
        (Driver.seeking (before ++ [c])).scanText t :=
      Except.ok.inj ((hfile _).symm.trans (h _))
    have hseen : ((Driver.seeking (before ++ [c])).scanText t).enabled = true := by
      rw [← heq]
      exact Directive.enabled_scanLines_iff.mpr
        ⟨_, hl, Pattern.matchesLine_startingWith.mpr ⟨after, by simp⟩⟩
    obtain ⟨line, hline, hmatch⟩ := Directive.enabled_scanLines_iff.mp hseen
    obtain ⟨whole, hwhole, rfl⟩ := mem_of_mem_headerLines hline
    have hc' : c ∈ whole :=
      (withoutNewline_isPrefix whole).mem
        ((Pattern.matchesLine_startingWith.mp hmatch).mem (by simp))
    exact hboundary (Text.not_boundary_of_mem_splitLines whole hwhole c hc')
  · intro h d
    rw [hfile d, d.scanLines_congr (headerLines_splitLines h).symm]
    rfl

/-- A boundary below the header does no harm. -/
theorem Invoker.readDirective_eq_scanText_iff_sample :
    ∃ w : World, w.host.read ⟨.root, ["r", "a.py"]⟩ =
        .ok (Text.Utf8.encode "# pylint: é\r\n \r\na\x0cb".toList) ∧
      ∀ d : Driver, ((readDirective d ⟨.root, ["r", "a.py"]⟩).run w).1 =
        .ok (d.scanText "# pylint: é\r\n \r\na\x0cb") := by
  have hread : (Host.holding [["r"]] [(["r", "a.py"],
      Text.Utf8.encode "# pylint: é\r\n \r\na\x0cb".toList)]).read ⟨.root, ["r", "a.py"]⟩ =
        .ok (Text.Utf8.encode "# pylint: é\r\n \r\na\x0cb".toList) := by decide +kernel
  have hclear : ((headerLines (Text.fileLines "# pylint: é\r\n \r\na\x0cb".toList)).all fun l =>
      l.all fun c => !Text.isLineBoundary c) = true := by decide +kernel
  exact ⟨⟨_, []⟩, hread, (readDirective_eq_scanText_iff hread).mpr fun l hl c hc => by
    simpa using List.all_eq_true.mp (List.all_eq_true.mp hclear l hl) c hc⟩

/-- A form feed in the header opens a line in the text, but none in the file, where the mark behind
it is not seen. -/
theorem Invoker.readDirective_ne_scanText :
    ∃ w : World, w.host.read ⟨.root, ["r", "a.py"]⟩ =
        .ok (Text.Utf8.encode "# x\x0c# pylint: y\n".toList) ∧
      ((readDirective .python ⟨.root, ["r", "a.py"]⟩).run w).1 = .ok ⟨.absent, []⟩ ∧
      Driver.python.scanText "# x\x0c# pylint: y\n" = ⟨.present, []⟩ :=
  ⟨⟨.holding [["r"]] [(["r", "a.py"], Text.Utf8.encode "# x\x0c# pylint: y\n".toList)], []⟩,
    by decide +kernel, by decide +kernel, by decide +kernel⟩

end

end OptIn
