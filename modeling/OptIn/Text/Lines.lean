/-!
# Lines of a text

Three ways to cut a text into lines. `splitLines` cuts at every line boundary that Unicode knows
of, `feedLines` at line feeds only, and `fileLines` at the three newline conventions of files: LF,
CR LF and CR. In all three the last line needs no terminator, and a terminator at the very end
opens no further line.
-/

namespace OptIn.Text

/-- The characters that end a line when every convention counts. -/
def isLineBoundary (c : Char) : Bool :=
  let n := c.toNat
  (0x0A ≤ n && n ≤ 0x0D) || (0x1C ≤ n && n ≤ 0x1E) || n == 0x85 || n == 0x2028 || n == 0x2029

/-- Puts a character in front of the first line, which it opens if there is none. -/
def onFirstLine (c : Char) : List (List Char) → List (List Char)
  | [] => [[c]]
  | l :: ls => (c :: l) :: ls

/-- The lines of a text, cut at every line boundary; CR LF is one boundary. -/
def splitLines : List Char → List (List Char)
  | [] => []
  | '\r' :: '\n' :: cs => [] :: splitLines cs
  | c :: cs => if isLineBoundary c then [] :: splitLines cs else onFirstLine c (splitLines cs)

/-- A text that is not empty has a first line. -/
theorem splitLines_ne_nil {cs : List Char} (h : cs ≠ []) : splitLines cs ≠ [] := by
  fun_cases splitLines cs with
  | case1 => exact absurd rfl h
  | case2 => simp
  | case3 => simp
  | case4 c cs =>
    cases splitLines cs <;> simp [onFirstLine]

/-- The lines of a text, cut at line feeds only. -/
def feedLines : List Char → List (List Char)
  | [] => []
  | c :: cs => if c = '\n' then [] :: feedLines cs else onFirstLine c (feedLines cs)

/-- The text with CR LF and CR written as LF. -/
def unifyNewlines : List Char → List Char
  | [] => []
  | '\r' :: '\n' :: cs => '\n' :: unifyNewlines cs
  | c :: cs => (if c = '\r' then '\n' else c) :: unifyNewlines cs

/-- The lines of a file's text, whichever of the three newline conventions it uses. -/
def fileLines (cs : List Char) : List (List Char) := feedLines (unifyNewlines cs)

/-- No line cut at line feeds holds one. -/
theorem newline_not_mem_of_mem_feedLines {cs l : List Char} (h : l ∈ feedLines cs) :
    '\n' ∉ l := by
  induction cs generalizing l with
  | nil => simp [feedLines] at h
  | cons c cs ih =>
    rw [feedLines] at h
    split at h
    · rcases List.mem_cons.mp h with rfl | h
      · simp
      · exact ih h
    · rename_i hc
      cases hl : feedLines cs with
      | nil =>
        simp only [hl, onFirstLine, List.mem_singleton] at h
        subst h
        simpa using fun h => hc h.symm
      | cons l' ls =>
        simp only [hl, onFirstLine, List.mem_cons] at h
        rcases h with rfl | h
        · have := ih (hl ▸ List.mem_cons_self : l' ∈ feedLines cs)
          simp only [List.mem_cons, not_or]
          exact ⟨fun h => hc h.symm, this⟩
        · exact ih (hl ▸ List.mem_cons_of_mem _ h)

end OptIn.Text
