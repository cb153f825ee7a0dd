import OptIn.Proofs.Text.Cuts

/-!
# Lines and the newlines behind them

A file ends its lines by one of three conventions. Lines that hold no newline character are read
back from the text that they make with newlines of one convention, whichever it is
(`fileLines_ended`). The last newline may be missing if the last line is not empty
(`fileLines_joined`).
-/

namespace OptIn.Text

/-- A **newline** of one of the three conventions. -/
inductive Newline where
  | lf
  | crlf
  | cr
  deriving DecidableEq, Repr

/-- An **unbroken** line holds no newline character. -/
def Unbroken (line : List Char) : Prop := ∀ c ∈ line, c ≠ '\r' ∧ c ≠ '\n'

instance (line : List Char) : Decidable (Unbroken line) :=
  List.decidableBAll (fun c => c ≠ '\r' ∧ c ≠ '\n') line

namespace Newline

/-- The characters of a newline. -/
def chars : Newline → List Char
  | lf => ['\n']
  | crlf => ['\r', '\n']
  | cr => ['\r']

/-- The text of lines with a newline behind each. -/
def ended (n : Newline) (lines : List (List Char)) : List Char := lines.flatMap (· ++ n.chars)

/-- The text of lines with a newline between any two. -/
def joined (n : Newline) (lines : List (List Char)) : List Char := n.chars.intercalate lines

theorem ended_cons (n : Newline) (line : List Char) (lines : List (List Char)) :
    n.ended (line :: lines) = line ++ (n.chars ++ n.ended lines) := by
  rw [ended, List.flatMap_cons, List.append_assoc, ← ended]

/-- A text **writes** lines with newlines of one convention, behind each line or between any two. -/
inductive Writes (n : Newline) (lines : List (List Char)) : List Char → Prop
  | ended : Writes n lines (n.ended lines)
  | joined : Writes n lines (n.joined lines)

/-- Joined lines lack the newline behind the last one only. -/
theorem joined_concat (n : Newline) (lines : List (List Char)) (last : List Char) :
    n.joined (lines ++ [last]) = n.ended lines ++ last := by
  induction lines with
  | nil => exact List.intercalate_singleton
  | cons line lines ih =>
    have hne : lines ++ [last] ≠ [] := by simp
    obtain ⟨next, rest, hrest⟩ := List.exists_cons_of_ne_nil hne
    rw [joined, List.cons_append, hrest, List.intercalate_cons_cons, ← hrest, ← joined, ih,
      ended_cons]
    simp only [List.append_assoc]

end Newline

variable {n : Newline} {line last cs : List Char} {lines : List (List Char)}

/-- A line up to its newline is read on its own. A carriage return would make one newline with a
line feed behind it. -/
theorem fileLines_line (hline : Unbroken line) (hcs : n = .cr → cs.head? ≠ some '\n') :
    fileLines (line ++ (n.chars ++ cs)) = line :: fileLines cs := by
  induction line with
  | nil =>
    cases n with
    | lf => exact fileLines_cons fun h => absurd h (by decide)
    | crlf => exact fileLines_crlf cs
    | cr => exact fileLines_cons fun _ => hcs rfl
  | cons c line ih =>
    have hc : c ≠ '\r' ∧ c ≠ '\n' := hline c List.mem_cons_self
    have hrest : Unbroken line := fun d hd => hline d (List.mem_cons_of_mem c hd)
    rw [List.cons_append, fileLines_cons fun h => absurd h hc.1, if_neg (by simp [hc]), ih hrest]
    rfl

/-- What stands behind the last newline is the last line, if it is anything. -/
theorem fileLines_of_unbroken (hlast : Unbroken last) :
    fileLines last = if last = [] then [] else [last] := by
  induction last with
  | nil => rfl
  | cons c last ih =>
    have hc : c ≠ '\r' ∧ c ≠ '\n' := hlast c List.mem_cons_self
    have hrest : Unbroken last := fun d hd => hlast d (List.mem_cons_of_mem c hd)
    rw [fileLines_cons fun h => absurd h hc.1, if_neg (by simp [hc]), ih hrest,
      if_neg (List.cons_ne_nil c last)]
    split
    · rename_i hnil
      rw [hnil, onFirstLine]
    · rfl

theorem Unbroken.head?_ne (h : Unbroken line) (hcs : cs.head? ≠ some '\n') :
    (line ++ cs).head? ≠ some '\n' := by
  rcases line with _ | ⟨c, line⟩
  · exact hcs
  · have hc := (h c List.mem_cons_self).2
    simpa using hc

/-- Lines with newlines of one convention behind them are read on their own. -/
theorem fileLines_ended_append (h : ∀ l ∈ lines, Unbroken l)
    (hcs : n = .cr → cs.head? ≠ some '\n') :
    fileLines (n.ended lines ++ cs) = lines ++ fileLines cs := by
  induction lines with
  | nil => rfl
  | cons line lines ih =>
    have hrest : ∀ l ∈ lines, Unbroken l := fun l hl => h l (List.mem_cons_of_mem line hl)
    have hhead : n = .cr → (n.ended lines ++ cs).head? ≠ some '\n' := by
      rintro rfl
      cases lines with
      | nil => exact hcs rfl
      | cons next lines =>
        rw [Newline.ended_cons, List.append_assoc]
        exact (hrest next List.mem_cons_self).head?_ne (by simp [Newline.chars])
    rw [Newline.ended_cons, List.append_assoc, List.append_assoc,
      fileLines_line (h line List.mem_cons_self) hhead, ih hrest, List.cons_append]

/-- Lines with newlines of one convention behind them are read back. -/
theorem fileLines_ended (n : Newline) (h : ∀ l ∈ lines, Unbroken l) :
    fileLines (n.ended lines) = lines := by
  have hread : fileLines (n.ended lines ++ []) = lines ++ fileLines [] :=
    fileLines_ended_append h (by simp)
  have hnone : fileLines [] = [] := rfl
  rwa [hnone, List.append_nil, List.append_nil] at hread

/-- Lines with newlines of one convention between them are read back, if the last is not empty. -/
theorem fileLines_joined (n : Newline) (h : ∀ l ∈ lines, Unbroken l)
    (hlast : lines.getLast? ≠ some []) : fileLines (n.joined lines) = lines := by
  rcases List.eq_nil_or_concat lines with rfl | ⟨front, last, rfl⟩
  · rfl
  · rw [List.concat_eq_append] at h hlast ⊢
    have hne : last ≠ [] := by simpa using hlast
    have hunbroken : Unbroken last := h last (by simp)
    have hhead : last.head? ≠ some '\n' := by
      have hplain : (last ++ []).head? ≠ some '\n' := hunbroken.head?_ne (by simp)
      rwa [List.append_nil] at hplain
    rw [Newline.joined_concat,
      fileLines_ended_append (fun l hl => h l (List.mem_append_left _ hl)) fun _ => hhead,
      fileLines_of_unbroken hunbroken, if_neg hne]

/-- Lines with newlines between them are read back, but for an empty last one. -/
theorem fileLines_joined_cases (n : Newline) (h : ∀ l ∈ lines, Unbroken l) :
    fileLines (n.joined lines) = lines ∨ lines = fileLines (n.joined lines) ++ [[]] := by
  by_cases hlast : lines.getLast? = some []
  · right
    obtain ⟨front, rfl⟩ := List.getLast?_eq_some_iff.mp hlast
    rw [Newline.joined_concat, List.append_nil,
      fileLines_ended n fun l hl => h l (List.mem_append_left _ hl)]
  · exact .inl (fileLines_joined n h hlast)

/-- Lines are read back from a text that writes them, unless the last one is empty. -/
theorem Newline.Writes.fileLines_eq (hw : n.Writes lines cs) (h : ∀ l ∈ lines, Unbroken l)
    (hlast : lines.getLast? ≠ some []) : fileLines cs = lines := by
  cases hw with
  | ended => exact fileLines_ended n h
  | joined => exact fileLines_joined n h hlast

/-- What writes lines lacks the last newline at most. -/
theorem Newline.Writes.isPrefix (hw : n.Writes lines cs) : cs <+: n.ended lines := by
  cases hw with
  | ended => exact List.prefix_rfl
  | joined =>
    rcases List.eq_nil_or_concat lines with rfl | ⟨front, last, rfl⟩
    · exact List.nil_prefix
    · rw [List.concat_eq_append, Newline.joined_concat]
      exact ⟨n.chars, by simp [Newline.ended]⟩

/-- Lines that end by line feeds are written without a carriage return. -/
theorem Newline.Writes.return_not_mem (hw : lf.Writes lines cs) (h : ∀ l ∈ lines, Unbroken l) :
    '\r' ∉ cs := by
  intro hmem
  obtain ⟨l, hl, hr⟩ := List.mem_flatMap.mp (hw.isPrefix.mem hmem)
  rcases List.mem_append.mp hr with hr | hr
  · exact (h l hl _ hr).1 rfl
  · exact absurd hr (by decide)

/-- The line behind others is read as one, whatever stands behind its newline. -/
theorem exists_fileLines_ended_concat (n : Newline) (h : ∀ l ∈ lines, Unbroken l)
    (hlast : Unbroken last) (cs : List Char) :
    ∃ below, fileLines (n.ended (lines ++ [last]) ++ cs) = lines ++ last :: below := by
  have hended : n.ended (lines ++ [last]) ++ cs = n.ended lines ++ (last ++ (n.chars ++ cs)) := by
    simp [Newline.ended]
  have hhead : n = .cr → (last ++ (n.chars ++ cs)).head? ≠ some '\n' := by
    rintro rfl
    exact hlast.head?_ne (by simp [Newline.chars])
  obtain ⟨below, hbelow⟩ : ∃ below, fileLines (last ++ (n.chars ++ cs)) = last :: below := by
    by_cases hfeed : n = .cr ∧ cs.head? = some '\n'
    · -- the line feed belongs to the carriage return
      obtain ⟨rfl, hfeed⟩ := hfeed
      obtain ⟨rest, rfl⟩ := List.head?_eq_some_iff.mp hfeed
      exact ⟨fileLines rest, fileLines_line (n := .crlf) hlast fun hn => nomatch hn⟩
    · exact ⟨fileLines cs, fileLines_line hlast fun hn hcs => hfeed ⟨hn, hcs⟩⟩
  exact ⟨below, by rw [hended, fileLines_ended_append h hhead, hbelow]⟩

end OptIn.Text
