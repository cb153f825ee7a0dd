import OptIn.Driver.Builtin
import OptIn.Proofs.Host.Checked
import OptIn.Proofs.Text.Encoding
import OptIn.Proofs.Text.Words
import OptIn.Shebang

/-!
# First lines that name a program

A first line names a program itself or has `env` start it. With `env` the program is the first word
behind it that is neither an option nor the setting of a variable, and the kind of the file is the
one that it has when its first line names the program itself. Of a file the detector looks at the
first line only, as far as that is short enough to be looked at as a whole
(`kindOfBytes_append`); what comes of both is `firstLine_decides`.
-/

namespace OptIn

open Text

variable {w e : List Char} {ws F R : List (List Char)} {cs : List Char}

/-! ### Words of a first line -/

/-- The kind of a first line is that of the program that its words start. -/
theorem interpreterKind_append (cs : List Char) : interpreterKind ("#!".toList ++ cs) =
    (interpreter? (words cs)).bind kindOfProgram := rfl

/-- A program that a line names itself. -/
theorem interpreter?_direct (hw : programName w ≠ "env") :
    interpreter? (w :: R) = some (programName w) := by
  rw [interpreter?, if_neg hw]

/-- Behind `env` the words that are not the program are passed over. -/
theorem interpreter?_env (he : programName e = "env") (hF : ∀ f ∈ F, isEnvArgument f = true)
    (hw : isEnvArgument w = false) :
    interpreter? (e :: (F ++ w :: R)) = some (programName w) := by
  have hnone : (F.filter fun f => !isEnvArgument f) = [] := by
    simpa [List.filter_eq_nil_iff] using hF
  rw [interpreter?, if_pos he, List.filter_append, hnone, List.nil_append,
    List.filter_cons_of_pos (by simp [hw])]
  rfl

theorem isEnvArgument_eq_true : isEnvArgument w = true ↔ w.head? = some '-' ∨ '=' ∈ w := by
  simp [isEnvArgument]

theorem kindOfProgram_eq_python {name : String} :
    kindOfProgram name = some .python ↔ "python".toList <+: name.toList := by
  rw [kindOfProgram, ← List.isPrefixOf_iff_prefix]
  split
  · exact iff_of_true rfl ‹_›
  · exact iff_of_false (by simp) ‹_›

/-! ### Bytes of a first line -/

variable {first rest : List UInt8}

/-- What is looked at is the first line, with its line feed if that is among the bytes. -/
theorem firstLine_take (hfirst : 0x0A ∉ first) (hrest : ∀ b ∈ rest.head?, b = 0x0A) (n : Nat)
    (hn : first.length ≤ n) :
    firstLine ((first ++ rest).take n) = first ∨
      firstLine ((first ++ rest).take n) = first ++ [0x0A] := by
  -- with exactly `n` bytes in the line, the line feed is cut off
  induction first generalizing n with
  | nil =>
    rw [List.nil_append]
    rcases rest with _ | ⟨b, rest⟩
    · exact .inl (by rw [List.take_nil, firstLine])
    · obtain rfl : b = 0x0A := hrest b rfl
      cases n with
      | zero => exact .inl rfl
      | succ n => exact .inr rfl
  | cons b first ih =>
    obtain ⟨hb, hfirst⟩ := not_or.mp (mt List.mem_cons.mpr hfirst)
    cases n with
    | zero => cases hn
    | succ n =>
      rw [List.cons_append, List.take_succ_cons, firstLine, if_neg (Ne.symm hb)]
      rcases ih hfirst n (Nat.le_of_succ_le_succ hn) with h | h <;> simp [h]

/-- The bytes of `#!`. -/
def markBytes : List UInt8 := [0x23, 0x21]

theorem decode_markBytes_append (bs : List UInt8) :
    Utf8.decode (markBytes ++ bs) = "#!".toList ++ Utf8.decode bs := rfl

/-- The kind that a first line stands for, as the bytes in front of its line feed. -/
def kindOfFirstLine (first : List UInt8) : Option LinterKind :=
  if markBytes <+: first then interpreterKind (Utf8.decode first) else none

theorem kindOfFirstLine_append (bs : List UInt8) : kindOfFirstLine (markBytes ++ bs) =
    (interpreter? (words (Utf8.decode bs))).bind kindOfProgram := by
  rw [kindOfFirstLine, if_pos ⟨bs, rfl⟩, decode_markBytes_append, interpreterKind_append]

/-- The line feed is not one of the marks, and as a blank it adds no word. -/
theorem kindOfFirstLine_newline (first : List UInt8) :
    kindOfFirstLine (first ++ [0x0A]) = kindOfFirstLine first := by
  by_cases h : markBytes <+: first
  · obtain ⟨bs, rfl⟩ := h
    have hwords : words (Utf8.decode (bs ++ [0x0A])) = words (Utf8.decode bs) := by
      have hnil : Utf8.decode [] = [] := rfl
      rw [Utf8.decode_append, hnil, words_concat_blank (by decide)]
    rw [List.append_assoc, kindOfFirstLine_append, kindOfFirstLine_append, hwords]
  · have hnone : ¬markBytes <+: first ++ [0x0A] := by
      intro hmark
      rcases List.prefix_concat_iff.mp hmark with heq | hmark
      · have hlast := congrArg List.getLast? heq
        simp [markBytes] at hlast
      · exact h hmark
    rw [kindOfFirstLine, kindOfFirstLine, if_neg hnone, if_neg h]

/-- The kind of a file is that of its first line, if this is short enough. -/
theorem kindOfBytes_append (hfirst : 0x0A ∉ first) (hrest : ∀ b ∈ rest.head?, b = 0x0A)
    (hshort : first.length ≤ shebangLimit) :
    kindOfBytes (first ++ rest) = kindOfFirstLine first := by
  have hkind : kindOfBytes (first ++ rest) =
      kindOfFirstLine (firstLine ((first ++ rest).take shebangLimit)) := by
    simp [kindOfBytes, kindOfFirstLine, markBytes, ← List.isPrefixOf_iff_prefix]
  rcases firstLine_take hfirst hrest shebangLimit hshort with h | h
  · rw [hkind, h]
  · rw [hkind, h, kindOfFirstLine_newline]

/-! ### Both together -/

/-- **First lines decide.** A line that has `env` start a program, behind any options and settings
of variables and with any arguments, stands for the same kind as one that names the program itself,
which is Python exactly if the program's name begins with `python`. The detector gives a file the
kind that its first line stands for, if that has 256 bytes at most, whatever the file holds behind
it; whether the line feed counts as a part of the line makes no difference. -/
theorem firstLine_decides :
    (∀ {w e : List Char} {F R : List (List Char)} {line direct : List Char},
      Spells (e :: (F ++ w :: R)) line → Spells [w] direct →
      programName e = "env" → (∀ f ∈ F, f.head? = some '-' ∨ '=' ∈ f) →
      programName w ≠ "env" → w.head? ≠ some '-' → '=' ∉ w →
      interpreterKind ("#!".toList ++ line) = interpreterKind ("#!".toList ++ direct) ∧
        (interpreterKind ("#!".toList ++ direct) = some .python ↔
          "python".toList <+: (programName w).toList)) ∧
    ∀ {h : Host} {p : Path} {first rest : List UInt8},
      h.read p = .ok (first ++ rest) → 0x0A ∉ first → (∀ b ∈ rest.head?, b = 0x0A) →
      first.length ≤ 256 →
      shebangDetector h p = .ok (kindOfFirstLine first) ∧
        kindOfFirstLine (first ++ [0x0A]) = kindOfFirstLine first := by
  constructor
  · intro w e F R line direct hline hdirect he hF hw hoption hsetting
    have hprogram : isEnvArgument w = false := by
      rw [Bool.eq_false_iff, ne_eq, isEnvArgument_eq_true, not_or]
      exact ⟨hoption, hsetting⟩
    have hpassed : ∀ f ∈ F, isEnvArgument f = true := fun f hf =>
      isEnvArgument_eq_true.mpr (hF f hf)
    rw [interpreterKind_append, interpreterKind_append, words_of_spells hline,
      words_of_spells hdirect, interpreter?_env he hpassed hprogram, interpreter?_direct hw,
      Option.bind_some]
    exact ⟨rfl, kindOfProgram_eq_python⟩
  · intro h p first rest hread hfirst hrest hshort
    refine ⟨?_, kindOfFirstLine_newline first⟩
    have hlimit : first.length ≤ shebangLimit := hshort
    rw [shebangDetector, hread, ← kindOfBytes_append hfirst hrest hlimit]

/-- `env` with an option and the setting of a variable in front of the program, and a file that
begins with this line and goes on with what is no text. -/
theorem firstLine_decides_sample :
    ∃ (line : List Char) (first : List UInt8) (h : Host),
      line = " /usr/bin/env\t-S A=1 /opt/python3 -u ".toList ∧
      Spells ["/usr/bin/env".toList, "-S".toList, "A=1".toList, "/opt/python3".toList,
        "-u".toList] line ∧
      first = Utf8.encode ("#!".toList ++ line) ∧
      h.read ⟨.root, ["r", "tool"]⟩ = .ok (first ++ [0x0A, 0xFF]) ∧
      interpreterKind ("#!".toList ++ line) = some .python ∧
      shebangDetector h ⟨.root, ["r", "tool"]⟩ = .ok (some .python) := by
  generalize hline : " /usr/bin/env\t-S A=1 /opt/python3 -u ".toList = line
  generalize hfirst : Utf8.encode ("#!".toList ++ line) = first
  generalize hh : Host.holding [["r"]] [(["r", "tool"], first ++ [0x0A, 0xFF])] = h
  have hspells : Spells ["/usr/bin/env".toList, "-S".toList, "A=1".toList, "/opt/python3".toList,
      "-u".toList] line := words_eq_iff.mp (hline ▸ by decide +kernel)
  have hdirect : Spells ["/opt/python3".toList] "/opt/python3".toList :=
    words_eq_iff.mp (by decide +kernel)
  have hread : h.read ⟨.root, ["r", "tool"]⟩ = .ok (first ++ [0x0A, 0xFF]) :=
    hh ▸ hfirst ▸ hline ▸ Driver.eq_ok_of_toOption (by decide +kernel)
  obtain ⟨hsame, hpython⟩ := firstLine_decides.1
    (F := ["-S".toList, "A=1".toList]) (R := ["-u".toList]) hspells hdirect (by decide +kernel)
    (by decide) (by decide +kernel) (by decide) (by decide)
  have hkind := hsame.trans (hpython.mpr (by decide +kernel))
  obtain ⟨hdetect, -⟩ := firstLine_decides.2 hread (hfirst ▸ hline ▸ by decide +kernel) (by simp)
    (hfirst ▸ hline ▸ by decide +kernel)
  have hmark : kindOfFirstLine first = some .python :=
    hfirst ▸ hline ▸ (by decide +kernel)
  exact ⟨line, first, h, rfl, hspells, hfirst.symm, hread, hkind, hmark ▸ hdetect⟩

end OptIn
