import OptIn.Proofs.Path.Written
import OptIn.Text.Lines

/-!
# Laws of cutting a text into lines

What stands behind a line feed has no say in the lines of a file before it (`fileLines_append`).
Cutting at every line boundary cuts these lines further, at the boundaries that are no newlines
(`flatMap_pieces_fileLines`), so that the two cuts differ only where a line of the file holds such a
boundary.
-/

namespace OptIn.Text

/-! ### Putting a character in front -/

theorem onFirstLine_append {ls : List (List Char)} (hne : ls ≠ []) (c : Char)
    (ms : List (List Char)) : onFirstLine c (ls ++ ms) = onFirstLine c ls ++ ms := by
  cases ls with
  | nil => exact absurd rfl hne
  | cons l ls => rfl

theorem onFirstLine_ne_nil (c : Char) (ls : List (List Char)) : onFirstLine c ls ≠ [] := by
  cases ls <;> simp [onFirstLine]

/-- What holds of every line still does if the character in front has the property itself. -/
theorem forall_mem_onFirstLine {P : Char → Prop} {c : Char} {ls : List (List Char)} (hc : P c)
    (h : ∀ l ∈ ls, ∀ d ∈ l, P d) : ∀ l ∈ onFirstLine c ls, ∀ d ∈ l, P d := by
  cases ls with
  | nil => simpa [onFirstLine] using hc
  | cons l ls =>
    simp only [onFirstLine, List.mem_cons, forall_eq_or_imp] at h ⊢
    exact ⟨⟨hc, h.1⟩, h.2⟩

theorem pieces_cons_of_not {p : Char → Bool} {c : Char} (hc : p c = false) (cs : List Char) :
    pieces p (c :: cs) = onFirstLine c (pieces p cs) := by
  rw [pieces, if_neg (by simp [hc])]
  cases pieces p cs <;> rfl

/-- What holds of every character of a text holds of those of its pieces. -/
theorem forall_mem_pieces {P : Char → Prop} {p : Char → Bool} {cs : List Char}
    (h : ∀ c ∈ cs, P c) : ∀ w ∈ pieces p cs, ∀ c ∈ w, P c := by
  induction cs with
  | nil => simp [pieces]
  | cons c cs ih =>
    have hrest := ih fun d hd => h d (List.mem_cons_of_mem c hd)
    by_cases hc : p c = true
    · rw [pieces, if_pos hc]
      simpa using hrest
    · rw [pieces_cons_of_not (Bool.eq_false_iff.mpr hc)]
      exact forall_mem_onFirstLine (h c List.mem_cons_self) hrest

/-- The first piece is a start of the text. -/
theorem exists_pieces_eq_cons (p : Char → Bool) (cs : List Char) :
    ∃ w ws, pieces p cs = w :: ws ∧ w <+: cs := by
  induction cs with
  | nil => exact ⟨[], [], rfl, List.nil_prefix⟩
  | cons c cs ih =>
    obtain ⟨w, ws, hpieces, hw⟩ := ih
    cases hc : p c with
    | true => exact ⟨[], pieces p cs, by rw [pieces, if_pos hc], List.nil_prefix⟩
    | false =>
      exact ⟨c :: w, ws, by rw [pieces_cons_of_not hc, hpieces, onFirstLine],
        List.cons_prefix_cons.mpr ⟨rfl, hw⟩⟩

/-- Cutting at a boundary cuts what is before it and what is behind. -/
theorem pieces_append {p : Char → Bool} {c : Char} (hc : p c = true) (cs ds : List Char) :
    pieces p (cs ++ c :: ds) = pieces p cs ++ pieces p ds := by
  induction cs with
  | nil => simp [pieces, hc]
  | cons b cs ih =>
    rw [List.cons_append]
    by_cases hb : p b = true
    · rw [pieces, if_pos hb, ih, pieces, if_pos hb, List.cons_append]
    · rw [pieces_cons_of_not (Bool.eq_false_iff.mpr hb), ih,
        onFirstLine_append (pieces_ne_nil p cs), ← pieces_cons_of_not (Bool.eq_false_iff.mpr hb)]

/-- Every character that is no boundary is on a piece. -/
theorem exists_mem_pieces {p : Char → Bool} {c : Char} {cs : List Char} (h : c ∈ cs)
    (hc : p c = false) : ∃ l ∈ pieces p cs, c ∈ l := by
  induction cs with
  | nil => cases h
  | cons b cs ih =>
    by_cases hb : p b = true
    · rw [pieces, if_pos hb]
      rcases List.mem_cons.mp h with rfl | h
      · rw [hc] at hb
        cases hb
      · obtain ⟨l, hl, hcl⟩ := ih h
        exact ⟨l, List.mem_cons_of_mem _ hl, hcl⟩
    · obtain ⟨w, ws, hws⟩ := List.exists_cons_of_ne_nil (pieces_ne_nil p cs)
      rw [pieces_cons_of_not (Bool.eq_false_iff.mpr hb), hws, onFirstLine]
      rcases List.mem_cons.mp h with rfl | h
      · exact ⟨c :: w, List.mem_cons_self, List.mem_cons_self⟩
      · obtain ⟨l, hl, hcl⟩ := ih h
        rcases List.mem_cons.mp (hws ▸ hl) with rfl | hl
        · exact ⟨b :: l, List.mem_cons_self, List.mem_cons_of_mem b hcl⟩
        · exact ⟨l, List.mem_cons_of_mem _ hl, hcl⟩

theorem pieces_congr {p q : Char → Bool} {cs : List Char} (h : ∀ c ∈ cs, p c = q c) :
    pieces p cs = pieces q cs := by
  induction cs with
  | nil => rfl
  | cons c cs ih =>
    rw [pieces, pieces, h c List.mem_cons_self, ih fun d hd => h d (List.mem_cons_of_mem c hd)]

/-- Cutting drops the characters that it cuts at, and no others. -/
theorem flatten_pieces (p : Char → Bool) (cs : List Char) :
    (pieces p cs).flatten = cs.filter fun c => !p c := by
  induction cs with
  | nil => rfl
  | cons c cs ih =>
    by_cases hc : p c = true
    · rw [pieces, if_pos hc, List.flatten_cons, List.nil_append, ih,
        List.filter_cons_of_neg (by simp [hc])]
    · have hflatten : (onFirstLine c (pieces p cs)).flatten = c :: (pieces p cs).flatten := by
        cases pieces p cs <;> rfl
      rw [pieces_cons_of_not (Bool.eq_false_iff.mpr hc), hflatten, ih,
        List.filter_cons_of_pos (by simp [hc])]

/-! ### Cutting at line feeds -/

/-- The lines up to a line feed are cut on their own. -/
theorem feedLines_append (cs : List Char) :
    ∃ ls, ls ≠ [] ∧ ∀ es, feedLines (cs ++ '\n' :: es) = ls ++ feedLines es := by
  induction cs with
  | nil => exact ⟨[[]], by simp, fun es => rfl⟩
  | cons c cs ih =>
    obtain ⟨ls, hne, hls⟩ := ih
    by_cases hc : c = '\n'
    · refine ⟨[] :: ls, by simp, fun es => ?_⟩
      rw [List.cons_append, feedLines, if_pos hc, hls, List.cons_append]
    · refine ⟨onFirstLine c ls, onFirstLine_ne_nil c ls, fun es => ?_⟩
      rw [List.cons_append, feedLines, if_neg hc, hls, onFirstLine_append hne]

/-! ### Newlines of three conventions -/

theorem unifyNewlines_cons {c : Char} {cs : List Char} (h : c = '\r' → cs.head? ≠ some '\n') :
    unifyNewlines (c :: cs) = (if c = '\r' then '\n' else c) :: unifyNewlines cs := by
  rw [unifyNewlines]
  rintro ds rfl rfl
  exact h rfl rfl

theorem unifyNewlines_append (cs : List Char) :
    ∃ ds, ∀ es, unifyNewlines (cs ++ '\n' :: es) = ds ++ '\n' :: unifyNewlines es := by
  -- a carriage return right before the line feed makes one newline with it
  fun_induction unifyNewlines cs with
  | case1 => exact ⟨[], fun es => rfl⟩
  | case2 cs ih =>
    obtain ⟨ds, hds⟩ := ih
    exact ⟨'\n' :: ds, fun es => congrArg ('\n' :: ·) (hds es)⟩
  | case3 c cs h ih =>
    obtain ⟨ds, hds⟩ := ih
    by_cases hlast : c = '\r' ∧ cs = []
    · obtain ⟨rfl, rfl⟩ := hlast
      exact ⟨[], fun es => rfl⟩
    · refine ⟨(if c = '\r' then '\n' else c) :: ds, fun es => ?_⟩
      have hhead : c = '\r' → (cs ++ '\n' :: es).head? ≠ some '\n' := by
        rintro rfl
        cases cs with
        | nil => exact absurd ⟨rfl, rfl⟩ hlast
        | cons d cs =>
          rintro ⟨⟩
          exact h cs rfl rfl
      rw [List.cons_append, unifyNewlines_cons hhead, hds, List.cons_append]

/-- No carriage return is left. -/
theorem return_not_mem_unifyNewlines (cs : List Char) : '\r' ∉ unifyNewlines cs := by
  fun_induction unifyNewlines cs with
  | case1 => simp
  | case2 cs ih => simpa using ih
  | case3 c cs h ih =>
    split
    · simpa using ih
    · rename_i hc
      simpa using ⟨fun h => hc h.symm, ih⟩

theorem unifyNewlines_eq_self {cs : List Char} (h : '\r' ∉ cs) : unifyNewlines cs = cs := by
  induction cs with
  | nil => rfl
  | cons c cs ih =>
    rw [List.mem_cons, not_or] at h
    have hc : c ≠ '\r' := Ne.symm h.1
    rw [unifyNewlines_cons fun h => absurd h hc, if_neg hc, ih h.2]

/-! ### The lines of a file -/

/-- Without carriage returns a file is cut at line feeds only. -/
theorem fileLines_eq_feedLines {cs : List Char} (h : '\r' ∉ cs) : fileLines cs = feedLines cs := by
  rw [fileLines, unifyNewlines_eq_self h]

/-- The lines of a file up to a line feed do not depend on what stands behind. -/
theorem fileLines_append (cs : List Char) :
    ∃ ls, ∀ es, fileLines (cs ++ '\n' :: es) = ls ++ fileLines es := by
  obtain ⟨ds, hds⟩ := unifyNewlines_append cs
  obtain ⟨ls, -, hls⟩ := feedLines_append ds
  exact ⟨ls, fun es => by rw [fileLines, hds, hls, fileLines]⟩

theorem fileLines_crlf (cs : List Char) :
    fileLines ('\r' :: '\n' :: cs) = [] :: fileLines cs := rfl

theorem fileLines_cons {c : Char} {cs : List Char} (h : c = '\r' → cs.head? ≠ some '\n') :
    fileLines (c :: cs) =
      if c = '\r' ∨ c = '\n' then [] :: fileLines cs else onFirstLine c (fileLines cs) := by
  rw [fileLines, unifyNewlines_cons h, feedLines, ← fileLines]
  by_cases hc : c = '\r'
  · simp [hc]
  · simp [hc]

/-- The characters of a line cut at line feeds are those of the text. -/
theorem mem_of_mem_feedLines {cs l : List Char} (h : l ∈ feedLines cs) : ∀ c ∈ l, c ∈ cs := by
  induction cs generalizing l with
  | nil => simp [feedLines] at h
  | cons c cs ih =>
    have hrest : ∀ l ∈ feedLines cs, ∀ d ∈ l, d ∈ c :: cs := fun l hl d hd =>
      List.mem_cons_of_mem c (ih hl d hd)
    rw [feedLines] at h
    split at h
    · rcases List.mem_cons.mp h with rfl | h
      · simp
      · exact hrest l h
    · exact forall_mem_onFirstLine List.mem_cons_self hrest l h

/-- No line of a file holds one of the newline characters. -/
theorem not_newline_of_mem_fileLines {cs l : List Char} (h : l ∈ fileLines cs) :
    ∀ c ∈ l, c ≠ '\r' ∧ c ≠ '\n' := by
  refine fun c hc => ⟨?_, ?_⟩
  · rintro rfl
    exact return_not_mem_unifyNewlines cs (mem_of_mem_feedLines h _ hc)
  · rintro rfl
    exact newline_not_mem_of_mem_feedLines h hc

/-! ### Cutting at every boundary -/

theorem isBlank_of_isLineBoundary {c : Char} (h : isLineBoundary c = true) : isBlank c = true := by
  simp only [isLineBoundary, Bool.or_eq_true, Bool.and_eq_true, decide_eq_true_eq, beq_iff_eq] at h
  simp only [isBlank, Bool.or_eq_true, Bool.and_eq_true, decide_eq_true_eq, beq_iff_eq]
  omega

/-- No line cut at every boundary holds one. -/
theorem not_boundary_of_mem_splitLines {cs : List Char} :
    ∀ l ∈ splitLines cs, ∀ c ∈ l, isLineBoundary c = false := by
  fun_induction splitLines cs with
  | case1 => simp
  | case2 cs ih => simpa using ih
  | case3 c cs h hc ih => simpa using ih
  | case4 c cs h hc ih => exact forall_mem_onFirstLine (by simpa using hc) ih

/-- The first line is what stands in front of the first boundary. -/
theorem head?_splitLines {cs : List Char} (hne : cs ≠ []) :
    (splitLines cs).head? = some (cs.takeWhile fun c => !isLineBoundary c) := by
  fun_induction splitLines cs with
  | case1 => exact absurd rfl hne
  | case2 cs ih => rfl
  | case3 c cs h hc ih => rw [List.takeWhile_cons_of_neg (by simp [hc]), List.head?_cons]
  | case4 c cs h hc ih =>
    rw [List.takeWhile_cons_of_pos (by simp [hc])]
    cases cs with
    | nil => rfl
    | cons d cs =>
      obtain ⟨l, hl⟩ := List.head?_eq_some_iff.mp (ih (List.cons_ne_nil d cs))
      rw [hl, onFirstLine, List.head?_cons]

/-- What stands behind a boundary is not on the first line. -/
theorem head?_splitLines_append {cs : List Char} {b : Char} (hne : cs ≠ [])
    (hb : isLineBoundary b = true) (ds : List Char) :
    (splitLines (cs ++ b :: ds)).head? = (splitLines cs).head? := by
  rw [head?_splitLines (List.append_ne_nil_of_left_ne_nil hne _), head?_splitLines hne,
    List.takeWhile_append, List.takeWhile_cons_of_neg (by simp [hb]), List.append_nil]
  split
  · rename_i hlength
    rw [(List.takeWhile_prefix _).eq_of_length hlength]
  · rfl

theorem isLineBoundary_return : isLineBoundary '\r' = true := by decide

theorem isLineBoundary_newline : isLineBoundary '\n' = true := by decide

/-- Cutting the lines of a file at the other boundaries gives the lines between all boundaries, but
for an empty one behind a boundary at the very end. -/
theorem flatMap_pieces_fileLines (cs : List Char) :
    ∃ tail, (tail = [] ∨ tail = [[]]) ∧
      (fileLines cs).flatMap (pieces isLineBoundary) = splitLines cs ++ tail := by
  fun_induction splitLines cs with
  | case1 => exact ⟨[], .inl rfl, rfl⟩
  | case2 cs ih =>
    obtain ⟨tail, htail, hcut⟩ := ih
    refine ⟨tail, htail, ?_⟩
    rw [fileLines_crlf, List.flatMap_cons, hcut]
    rfl
  | case3 c cs h hc ih =>
    obtain ⟨tail, htail, hcut⟩ := ih
    have hhead : c = '\r' → cs.head? ≠ some '\n' := by
      rintro rfl hcs
      obtain ⟨ds, rfl⟩ := List.head?_eq_some_iff.mp hcs
      exact h ds rfl rfl
    rw [fileLines_cons hhead]
    split
    · -- a newline ends a line in both cuts
      refine ⟨tail, htail, ?_⟩
      rw [List.flatMap_cons, hcut]
      rfl
    · -- any other boundary opens the rest of its line
      cases hlines : fileLines cs with
      | nil =>
        rw [hlines, List.flatMap_nil] at hcut
        refine ⟨[[]], .inr rfl, ?_⟩
        rw [List.nil_eq, List.append_eq_nil_iff] at hcut
        rw [hcut.1, onFirstLine, List.flatMap_singleton, pieces, if_pos hc]
        rfl
      | cons l ls =>
        rw [hlines, List.flatMap_cons] at hcut
        refine ⟨tail, htail, ?_⟩
        rw [onFirstLine, List.flatMap_cons, pieces, if_pos hc, List.cons_append, hcut,
          List.cons_append]
  | case4 c cs h hc ih =>
    obtain ⟨tail, htail, hcut⟩ := ih
    have hc' : isLineBoundary c = false := by simpa using hc
    have hnewline : ¬(c = '\r' ∨ c = '\n') := by
      rintro (rfl | rfl)
      · exact hc isLineBoundary_return
      · exact hc isLineBoundary_newline
    rw [fileLines_cons fun h => absurd (.inl h) hnewline, if_neg hnewline]
    have hfront : (onFirstLine c (fileLines cs)).flatMap (pieces isLineBoundary) =
        onFirstLine c ((fileLines cs).flatMap (pieces isLineBoundary)) := by
      cases fileLines cs with
      | nil => rw [onFirstLine, List.flatMap_singleton, pieces_cons_of_not hc']; rfl
      | cons l ls =>
        rw [onFirstLine, List.flatMap_cons, pieces_cons_of_not hc', List.flatMap_cons,
          onFirstLine_append (pieces_ne_nil _ l)]
    rw [hfront, hcut]
    cases hsplit : splitLines cs with
    | nil =>
      refine ⟨[], .inl rfl, ?_⟩
      rcases htail with rfl | rfl <;> rfl
    | cons l ls => exact ⟨tail, htail, onFirstLine_append (List.cons_ne_nil l ls) c tail⟩

end OptIn.Text
