import OptIn.Driver.Builtin
import OptIn.Proofs.Header.Boundary
import OptIn.Proofs.Host.Checked
import OptIn.Proofs.Text.Encoding
import OptIn.Proofs.Text.Newlines

/-!
# Newline conventions and headers

The same lines can be written to a file with newlines of three conventions, and with or without one
behind the last line. An empty last line without a newline is lost when the file is read, but an
empty line at the end has no part in a header. So the directive of the file is that of the lines, in
whichever way they are written (`Invoker.readDirective_of_writes`).
-/

namespace OptIn

variable {n : Text.Newline} {lines : List (List Char)} {text : List Char}

/-- The header of a file is that of the lines which its text writes. -/
theorem Text.Newline.Writes.headerLines_fileLines (hw : n.Writes lines text)
    (h : ∀ l ∈ lines, Text.Unbroken l) :
    headerLines (Text.fileLines text) = headerLines lines := by
  cases hw with
  | ended => rw [Text.fileLines_ended n h]
  | joined =>
    rcases Text.fileLines_joined_cases n h with hread | hlost
    · rw [hread]
    · calc headerLines (Text.fileLines (n.joined lines))
          = headerLines (Text.fileLines (n.joined lines) ++ [[]]) :=
            (headerLines_append_nil _).symm
        _ = headerLines lines := by rw [← hlost]

/-- **Newline conventions do not matter.** Every driver finds in a file the directive of the lines
that the file's text writes, by whichever convention it writes them. -/
theorem Invoker.readDirective_of_writes (h : ∀ l ∈ lines, Text.Unbroken l)
    (hw : n.Writes lines text) {p : Path} {w : World}
    (hread : w.host.read p = .ok (Text.Utf8.encode text)) (d : Driver) :
    ((readDirective d p).run w).1 = .ok (d.scanLines lines) := by
  rw [fst_run_readDirective d hread, Text.Utf8.decode_encode,
    d.scanLines_congr (hw.headerLines_fileLines h)]

/-- Carriage returns between a line that gives options and two empty ones. -/
theorem Invoker.readDirective_of_writes_sample :
    ∃ (lines : List (List Char)) (w : World),
      lines = ["# pylint-options: -é".toList, [], []] ∧
      w.host.read ⟨.root, ["r", "a.py"]⟩ =
        .ok (Text.Utf8.encode "# pylint-options: -é\r\r".toList) ∧
      (∀ d : Driver, ((readDirective d ⟨.root, ["r", "a.py"]⟩).run w).1 =
        .ok (d.scanLines lines)) ∧
      Driver.python.scanLines lines = ⟨.presentWithOptions, ["-é"]⟩ := by
  generalize hlines : ["# pylint-options: -é".toList, [], []] = lines
  have hunbroken : ∀ l ∈ lines, Text.Unbroken l := hlines ▸ by decide
  have htext : Text.Newline.cr.joined lines = "# pylint-options: -é\r\r".toList :=
    hlines ▸ by decide
  have hwrites : Text.Newline.Writes .cr lines "# pylint-options: -é\r\r".toList :=
    htext ▸ Text.Newline.Writes.joined
  have hread : (Host.holding [["r"]] [(["r", "a.py"],
      Text.Utf8.encode "# pylint-options: -é\r\r".toList)]).read ⟨.root, ["r", "a.py"]⟩ =
        .ok (Text.Utf8.encode "# pylint-options: -é\r\r".toList) := by decide +kernel
  exact ⟨lines, ⟨_, []⟩, rfl, hread, readDirective_of_writes hunbroken hwrites hread,
    hlines ▸ by decide +kernel⟩

end OptIn
