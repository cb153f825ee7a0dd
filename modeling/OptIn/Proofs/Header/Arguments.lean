import OptIn.Proofs.Header.Meaning
import OptIn.Proofs.Host.Checked
import OptIn.Proofs.Invoker.Availability
import OptIn.Proofs.Pattern.Greedy
import OptIn.Proofs.Text.Encoding
import OptIn.Proofs.Text.Newlines
import OptIn.Proofs.Text.Quoting

/-!
# Arguments in a header

Lines of a Python file's header can pass any arguments to the tool, written in quotes behind the
word that asks for options. The directive of the file holds all of them, in the order of the lines,
and the command that lints the file has them between the arguments of the configuration and the
path (`Invoker.arguments_passed`). Other lines of the header may stand anywhere, as long as they do
not ask for options, and the file may go on below its header as it likes.
-/

namespace OptIn

/-! ### Lines with options -/

namespace Directive

variable {mark pattern : Pattern} {lines : List (List Char)}

/-- A header in which a line matches the options pattern gives all options on its lines. -/
theorem scanLines_of_matchesLine {line : List Char} (hline : line ∈ headerLines lines)
    (hmatch : pattern.matchesLine line = true) :
    scanLines mark (some pattern) lines = ⟨.presentWithOptions,
      (headerLines lines).flatMap fun l => (optionsOn pattern l).getD []⟩ := by
  rw [scanLines_eq_meaning, meaning, if_pos ⟨pattern, rfl, line, hline, hmatch⟩, ← flatMap_given]
  rfl

end Directive

namespace Driver

/-- The line that **asks for options** with what stands behind the word. -/
def optionsLine (tail : List Char) : List Char := "# pylint-options: ".toList ++ tail

/-- What stands behind the word is captured up to the end of the line, but for the blanks before
it. -/
theorem optionsOn_optionsLine {tail : List Char}
    (htail : ∀ c ∈ tail, c ≠ '\n') (hhead : ∀ c ∈ tail.head?, Text.isBlank c = false) :
    Directive.optionsOn pythonOptions (optionsLine tail) = some (Text.optionWords tail) := by
  have hline : optionsLine tail =
      '#' :: ([' '] ++ ("pylint-options:".toList ++ ([' '] ++ tail))) := rfl
  have hgap : ∀ c ∈ [' '], Text.isBlank c = true := List.forall_mem_singleton.mpr rfl
  have hmatch : pythonOptions.matchLine? (optionsLine tail) =
      some ⟨tail.reverse ++ (optionsLine []).reverse, [], [(1, tail)]⟩ := by
    rw [hline, pythonOptions]
    refine Pattern.matchLine?_commentWord ⟨'p', rfl, by decide⟩ hgap ?_
    rw [Pattern.run_row_cons]
    refine Pattern.run_blanks hgap hhead ?_
    rw [Pattern.run_row_cons]
    exact Pattern.run_captureRest htail rfl
  rw [Directive.optionsOn, hmatch]
  rfl

end Driver

/-! ### Lines of a header -/

/-- A line of a Python file's header that passes arguments to the tool, or another one. -/
inductive HeaderLine where
  | passing (args : List String)
  | other (line : List Char)
  deriving DecidableEq, Repr

namespace HeaderLine

/-- A line as it is written. -/
def text : HeaderLine → List Char
  | passing args => Driver.optionsLine (Text.quotedRow (args.map String.toList))
  | other line => line

/-- The arguments that a line passes. -/
def arguments : HeaderLine → List String
  | passing args => args
  | other _ => []

/-- A **plain** line holds no newline. If it is another one, it neither ends the header nor asks for
options. -/
def Plain : HeaderLine → Prop
  | passing args => ∀ arg ∈ args, Text.Unbroken arg.toList
  | other line => Text.Unbroken line ∧ isHeaderBoundary line = false ∧
      Driver.pythonOptions.matchesLine line = false

instance (l : HeaderLine) : Decidable l.Plain :=
  match l with
  | passing args => inferInstanceAs (Decidable (∀ arg ∈ args, Text.Unbroken arg.toList))
  | other line => inferInstanceAs (Decidable (Text.Unbroken line ∧ isHeaderBoundary line = false ∧
      Driver.pythonOptions.matchesLine line = false))

variable {l : HeaderLine}

theorem Plain.unbroken (h : l.Plain) : Text.Unbroken l.text := by
  cases l with
  | other line => exact h.1
  | passing args =>
    have hword : Text.Unbroken "# pylint-options: ".toList := by decide
    have hrow : Text.Unbroken (Text.quotedRow (args.map String.toList)) := by
      refine Text.forall_mem_quotedRow (by decide) (by decide) (by decide) fun w hw => ?_
      obtain ⟨arg, harg, rfl⟩ := List.mem_map.mp hw
      exact h arg harg
    intro c hc
    rcases List.mem_append.mp hc with hc | hc
    · exact hword c hc
    · exact hrow c hc

/-- A plain line does not end the header. -/
theorem Plain.not_boundary (h : l.Plain) : isHeaderBoundary l.text = false := by
  cases l with
  | other line => exact h.2.1
  | passing args =>
    -- the start of a bare line is bare, but the word is not
    rw [Bool.eq_false_iff]
    intro hend
    have hbare := (isHeaderBoundary_iff.mp hend).of_isPrefix (List.prefix_append _ _)
    exact absurd (isHeaderBoundary_iff.mpr hbare) (by decide)

/-- The arguments that a plain line passes are found on it, even if there are none. -/
theorem Plain.optionsOn_passing {args : List String} (h : (passing args).Plain) :
    Directive.optionsOn Driver.pythonOptions (passing args).text = some args := by
  have hfeed : ∀ c ∈ Text.quotedRow (args.map String.toList), c ≠ '\n' := by
    refine Text.forall_mem_quotedRow (by decide) (by decide) (by decide) fun w hw c hc => ?_
    obtain ⟨arg, harg, rfl⟩ := List.mem_map.mp hw
    exact (h arg harg c hc).2
  have hhead : ∀ c ∈ (Text.quotedRow (args.map String.toList)).head?, Text.isBlank c = false := by
    intro c hc
    rw [Text.head?_quotedRow hc]
    decide
  rw [text, Driver.optionsOn_optionsLine hfeed hhead, Text.optionWords_quotedRow]

/-- What the options pattern finds on a plain line is what the line passes. -/
theorem Plain.optionsOn (h : l.Plain) :
    (Directive.optionsOn Driver.pythonOptions l.text).getD [] = l.arguments := by
  cases l with
  | passing args => rw [h.optionsOn_passing, Option.getD_some, arguments]
  | other line =>
    have hnone : (Directive.optionsOn Driver.pythonOptions line).isSome = false := by
      rw [Directive.isSome_optionsOn]
      exact h.2.2
    rw [text, Option.not_isSome_iff_eq_none.mp (Bool.eq_false_iff.mp hnone)]
    rfl

end HeaderLine

/-- Lines **head** a content: it holds them alone, with a newline behind each or between any two, or
has a bare line below them and anything further down. -/
inductive Heads (n : Text.Newline) (lines : List (List Char)) : List UInt8 → Prop
  | ended : Heads n lines (Text.Utf8.encode (n.ended lines))
  | joined : Heads n lines (Text.Utf8.encode (n.joined lines))
  | above {bare : List Char} (below : List UInt8) : Text.Unbroken bare → Bare bare →
      Heads n lines (Text.Utf8.encode (n.ended (lines ++ [bare])) ++ below)

/-- Lines that do not end a header are its first ones. -/
theorem headerLines_append_of_not_boundary {lines : List (List Char)}
    (hunbroken : ∀ l ∈ lines, Text.Unbroken l) (hplain : ∀ l ∈ lines, isHeaderBoundary l = false)
    (below : List (List Char)) : headerLines (lines ++ below) = lines ++ headerLines below := by
  induction lines with
  | nil => rfl
  | cons line lines ih =>
    have hline : withoutNewline line = line :=
      withoutNewline_eq_self (hunbroken line List.mem_cons_self)
    rw [List.cons_append, headerLines_cons, hline,
      if_neg (Bool.eq_false_iff.mp (hplain line List.mem_cons_self)),
      ih (fun l hl => hunbroken l (List.mem_cons_of_mem line hl))
        fun l hl => hplain l (List.mem_cons_of_mem line hl), List.cons_append]

/-- Lines that head a content are its header, if none of them ends it. -/
theorem Heads.headerLines_eq {n : Text.Newline} {lines : List (List Char)} {content : List UInt8}
    (h : Heads n lines content) (hunbroken : ∀ l ∈ lines, Text.Unbroken l)
    (hplain : ∀ l ∈ lines, isHeaderBoundary l = false) :
    headerLines (Text.fileLines (Text.Utf8.decode content)) = lines := by
  have hall : headerLines lines = lines := by
    have happend := headerLines_append_of_not_boundary hunbroken hplain []
    rwa [List.append_nil, show headerLines [] = [] from rfl, List.append_nil] at happend
  cases h with
  | ended => rw [Text.Utf8.decode_encode, Text.fileLines_ended n hunbroken, hall]
  | joined =>
    have hlast : lines.getLast? ≠ some [] := by
      intro hlast
      have hempty := hplain [] (List.mem_of_getLast? hlast)
      exact absurd hempty (by decide)
    rw [Text.Utf8.decode_encode, Text.fileLines_joined n hunbroken hlast, hall]
  | @above bare below hline hbare =>
    obtain ⟨ls, hls⟩ := Text.exists_fileLines_ended_concat n hunbroken hline
      (Text.Utf8.decode below)
    rw [Text.Utf8.decode_encode_append, hls, headerLines_append_of_not_boundary hunbroken hplain,
      headerLines_cons_of_bare hbare, List.append_nil]

/-- The directive of a file headed by plain lines, one of which passes arguments, holds the
arguments of all of them. -/
theorem Heads.scanLines_python {n : Text.Newline} {lines : List HeaderLine} {content : List UInt8}
    (hcontent : Heads n (lines.map (·.text)) content) (hplain : ∀ l ∈ lines, l.Plain)
    (hsome : ∃ args, .passing args ∈ lines) :
    Driver.python.scanLines (Text.fileLines (Text.Utf8.decode content)) =
      ⟨.presentWithOptions, lines.flatMap (·.arguments)⟩ := by
  have hheader : headerLines (Text.fileLines (Text.Utf8.decode content)) =
      lines.map (·.text) := by
    refine hcontent.headerLines_eq ?_ ?_
    · simpa using fun l hl => (hplain l hl).unbroken
    · simpa using fun l hl => (hplain l hl).not_boundary
  obtain ⟨args, hargs⟩ := hsome
  have hline : (HeaderLine.passing args).text ∈
      headerLines (Text.fileLines (Text.Utf8.decode content)) := by
    rw [hheader]
    exact List.mem_map_of_mem hargs
  have hmatch : Driver.pythonOptions.matchesLine (HeaderLine.passing args).text = true := by
    rw [← Directive.isSome_optionsOn, (hplain _ hargs).optionsOn_passing, Option.isSome_some]
  have hoptions : (lines.map (·.text)).flatMap
      (fun l => (Directive.optionsOn Driver.pythonOptions l).getD []) =
        lines.flatMap (·.arguments) := by
    rw [List.flatMap_map]
    exact List.flatMap_congr fun l hl => (hplain l hl).optionsOn
  rw [← hoptions, ← hheader]
  exact Directive.scanLines_of_matchesLine hline hmatch

namespace Invoker

variable {i : Invoker} {c : Candidate} {k k' : Option ToolProbe} {xs : List Exchange}
  {x : Except Fault LintResult} {h h' : Host}

/-! ### The command -/

/-- The answers of a tool that **tells its version** when it is asked to. -/
def tellsVersion (tool : String) : ToolRunner.Answers := fun c x =>
  c = ToolProbe.query tool → ∃ done, x = .ok done ∧ done.status = 0

/-- What is asked for a candidate that needs the tool: its version, if nothing is known yet, and the
command that lints the candidate, if the tool can be used. -/
structure Commands (i : Invoker) (c : Candidate) (k : Option ToolProbe) (xs : List Exchange) :
    Prop where
  only : ∀ y ∈ xs, y.call = ToolProbe.query i.driver.tool ∨ y.call = i.lintCall c
  known : ∀ p, k = some p → p.usable = true → xs.map Exchange.call = [i.lintCall c]
  unknown : k = none → (∀ y ∈ xs, tellsVersion i.driver.tool y.call y.answer) →
    xs.map Exchange.call = [ToolProbe.query i.driver.tool, i.lintCall c]

theorem Vetted.commands {p : ToolProbe} (hv : Vetted i k xs p) (answer : Except Fault Completed) :
    i.Commands c k (xs ++ [⟨i.lintCall c, answer⟩]) where
  only := by cases hv <;> simp
  known := by cases hv <;> simp
  unknown := by cases hv <;> simp

theorem Tried.commands (ht : Tried i c k xs h x k' h') : i.Commands c k xs := by
  cases ht with
  | @barred p _ hbad =>
    refine ⟨fun y hy => (nomatch hy), fun q hq husable => ?_, fun hk => nomatch hk⟩
    cases hq
    cases hbad.symm.trans husable
  | @refused answer p _ hrefuted =>
    refine ⟨by simp, fun q hq => (nomatch hq), fun _ hanswers => ?_⟩
    -- a query that succeeds shows nothing against the tool
    obtain ⟨done, rfl, hstatus⟩ := hanswers _ (List.mem_singleton.mpr rfl) rfl
    rw [refutation_query_of_ok, if_pos hstatus] at hrefuted
    cases hrefuted
  | unprobed =>
    refine ⟨by simp, fun q hq => (nomatch hq), fun _ hanswers => ?_⟩
    obtain ⟨done, hdone, -⟩ := hanswers _ (List.mem_singleton.mpr rfl) rfl
    cases hdone
  | lost hv => exact hv.commands _
  | broken hv => exact hv.commands _
  | failed hv => exact hv.commands _
  | passed hv => exact hv.commands _
  | unrecorded hv => exact hv.commands _

/-- **Any arguments can be passed.** Let plain lines head the content of a file, at least one of
them passing arguments. The directive of the file holds the arguments of all these lines, in order,
and nothing else. Whatever the runner does, an invoker that deals with a candidate for the file
without arguments of its own asks for nothing but the version of the tool and the command that has
exactly these arguments between those of the configuration and the path. It does ask for that
command when the cache does not vouch for the file and the tool is known to be usable, or answers to
its version. -/
theorem arguments_passed {n : Text.Newline} {lines : List HeaderLine} {content : List UInt8}
    (hplain : ∀ l ∈ lines, l.Plain) (hsome : ∃ args, .passing args ∈ lines)
    (hcontent : Heads n (lines.map (·.text)) content) :
    (∀ (p : Path) (w : World), w.host.read p = .ok content →
      ((readDirective .python p).run w).1 =
        .ok ⟨.presentWithOptions, lines.flatMap (·.arguments)⟩) ∧
    ∀ (i : Invoker) (v : Invocation) (call : Call), i.driver = .python →
      v.candidate.options = [] → v.before.world.host.read v.candidate.path = .ok content →
      (i.invoke v.candidate).run v.before = (v.result, v.after) →
      call = { command := ["pylint"] ++ Driver.python.configArguments i.settings.environ ++
                lines.flatMap (·.arguments) ++ [v.candidate.path.text]
               directory := some i.settings.root, check := false } →
      (∀ d ∈ i.calls v, d = ToolProbe.query "pylint" ∨ d = call) ∧
      (i.vouchedBy v.candidate.path v.before.world.host = .ok false →
        (∀ p, v.before.probe = some p → p.usable = true → i.calls v = [call]) ∧
        (v.before.probe = none → (∀ w c, tellsVersion "pylint" c (i.runner w c).outcome) →
          i.calls v = [ToolProbe.query "pylint", call])) := by
  have hscan := hcontent.scanLines_python hplain hsome
  refine ⟨fun p w hread => ?_, ?_⟩
  · rw [fst_run_readDirective _ hread, hscan]
  rintro i ⟨c, s, x, t⟩ call hdriver hfresh hread hrun rfl
  obtain ⟨hdealt, -, htalk, -⟩ := dealt_transcript hrun
  generalize hd : (⟨.presentWithOptions, lines.flatMap (·.arguments)⟩ : Directive) = d at hscan
  have hscan' : i.driver.scanFileText (Text.Utf8.decode content) = d := by
    rw [hdriver]
    exact hscan
  have hcall : i.lintCall (withDirective c d) =
      { command := ["pylint"] ++ Driver.python.configArguments i.settings.environ ++
          lines.flatMap (·.arguments) ++ [c.path.text]
        directory := some i.settings.root, check := false } := by
    rw [lintCall, command, withDirective_of_fresh hfresh, hdriver, ← hd, List.singleton_append]
    rfl
  have hquery : ToolProbe.query i.driver.tool = ToolProbe.query "pylint" := by
    rw [hdriver]
    rfl
  have hneeds : i.vouchedBy c.path s.world.host = .ok false →
      i.Needs s.world.host c (withDirective c d) := fun hv =>
    ⟨d, ⟨content, hread, hscan', by rw [← hd]; rfl⟩, hv, rfl⟩
  rw [← hcall, ← hquery]
  rcases hdealt.cases_needs with ⟨hnothing, -, -, hidle⟩ | ⟨c', hneeds', htried⟩
  · rw [calls, hnothing]
    exact ⟨fun _ hy => absurd hy List.not_mem_nil, fun hv => absurd (hneeds hv) (hidle _)⟩
  · have hv : i.vouchedBy c.path s.world.host = .ok false := by
      obtain ⟨-, -, hv, -⟩ := hneeds'
      exact hv
    rw [(hneeds hv).unique hneeds'] at htried
    obtain ⟨honly, hknown, hunknown⟩ := htried.commands
    refine ⟨by simpa [calls] using honly, fun _ => ⟨hknown, fun hk hanswers => ?_⟩⟩
    refine hunknown hk (htalk.answers ?_)
    rw [hdriver]
    exact hanswers

/-- Quotes, blanks, a comment mark and an empty argument are passed over two lines, with a third
line that passes nothing, other lines between them, and bytes below that are no text. -/
theorem arguments_passed_sample :
    ∃ (lines : List HeaderLine) (content : List UInt8) (i : Invoker) (v : Invocation),
      lines = [.other "#!/bin/x\x0c".toList, .passing ["--m=it\x27s", "", "a \x22b"], .passing [],
        .other "# pylint: x".toList, .passing ["#"]] ∧
      content = Text.Utf8.encode (Text.Newline.crlf.ended (lines.map (·.text) ++ ["#".toList])) ++
        [0xFF, 0x0A] ∧
      (∀ (p : Path) (w : World), w.host.read p = .ok content →
        ((readDirective .python p).run w).1 =
          .ok ⟨.presentWithOptions, ["--m=it\x27s", "", "a \x22b", "#"]⟩) ∧
      v.before.world.host.read (.absolute ["r", "a.py"]) = .ok content ∧
      (i.invoke ⟨.absolute ["r", "a.py"], .python, []⟩).run v.before = (v.result, v.after) ∧
      i.calls v = [ToolProbe.query "pylint",
        { command := ["pylint", "--rcfile=rc", "--m=it\x27s", "", "a \x22b", "#", "/r/a.py"]
          directory := some (.absolute ["r"]), check := false }] := by
  generalize hlines : ([.other "#!/bin/x\x0c".toList, .passing ["--m=it\x27s", "", "a \x22b"],
    .passing [], .other "# pylint: x".toList, .passing ["#"]] : List HeaderLine) = lines
  generalize hcontent : Text.Utf8.encode
    (Text.Newline.crlf.ended (lines.map (·.text) ++ ["#".toList])) ++ [0xFF, 0x0A] = content
  have hplain : ∀ l ∈ lines, l.Plain := hlines ▸ by decide +kernel
  have hsome : ∃ args, .passing args ∈ lines := ⟨[], hlines ▸ by decide⟩
  have hheads : Heads .crlf (lines.map (·.text)) content := by
    rw [← hcontent]
    exact .above _ (by decide) (.inr ⟨[], [], rfl, by simp, by simp⟩)
  have harguments : lines.flatMap (·.arguments) = ["--m=it\x27s", "", "a \x22b", "#"] :=
    hlines ▸ rfl
  obtain ⟨hdirective, hcalls⟩ := arguments_passed hplain hsome hheads
  let i : Invoker := { (DriverRun.sample 0).invoker with
    settings := { root := .absolute ["r"], cacheRoot := .absolute ["r", "cache"],
                  environ := [("PYLINTRC", " rc ")] } }
  let s : Session := ⟨⟨.holding [["r"]] [(["r", "a.py"], content)], []⟩, none⟩
  let c : Candidate := ⟨.absolute ["r", "a.py"], .python, []⟩
  let v : Invocation := ⟨c, s, ((i.invoke c).run s).1, ((i.invoke c).run s).2⟩
  have hrun : (i.invoke c).run v.before = (v.result, v.after) := rfl
  have hread : v.before.world.host.read c.path = .ok content := by
    subst hlines hcontent
    decide +kernel
  have hconfig : Driver.python.configArguments i.settings.environ = ["--rcfile=rc"] := by
    decide +kernel
  have hunvouched : i.vouchedBy c.path v.before.world.host = .ok false := by
    subst hlines hcontent
    decide +kernel
  obtain ⟨-, hasked⟩ := hcalls i v _ rfl rfl hread hrun rfl
  have hasked := (hasked hunvouched).2 rfl fun w d _ => ⟨_, rfl, rfl⟩
  rw [harguments] at hdirective hasked
  rw [hconfig] at hasked
  exact ⟨lines, content, i, v, rfl, hcontent.symm, hdirective, hread, hrun, hasked⟩

end Invoker

end OptIn
