import OptIn.Proofs.Text.Words
import OptIn.Text.ShellWords

/-!
# Arguments without quotes

Where nothing is quoted, the shell-style words of a text are the runs between the blanks that
separate them (`shellWords_of_unquoted`), so a comment mark is a character like any other. They are
the words of the text exactly if it is plain, that is if it has no quotes, no backslash and no other
white space (`shellWords_eq_words_iff`): any quote that is read as one is missing from the words,
and any other white space stands within one.
-/

namespace OptIn.Text

/-- The characters that can quote others: the backslash and both kinds of quotes. -/
def isQuoting (c : Char) : Bool := c = '\x5c' || c = '\x27' || c = '\x22'

/-- A text is **plain** when it has no quotes and no backslash, and all of its white space are
blanks, tabs, carriage returns and line feeds. -/
structure IsPlain (cs : List Char) : Prop where
  unquoted : ∀ c ∈ cs, c ≠ '\x27' ∧ c ≠ '\x22' ∧ c ≠ '\x5c'
  blank : ∀ c ∈ cs, isBlank c = true → c = ' ' ∨ c = '\t' ∨ c = '\r' ∨ c = '\n'

variable {s : ShellState} {c : Char} {cs : List Char} {ws : List (List Char)}

/-! ### Reading what is not quoted -/

theorem isQuoting_eq_false_iff :
    isQuoting c = false ↔ c ≠ '\x27' ∧ c ≠ '\x22' ∧ c ≠ '\x5c' := by
  simp only [isQuoting, Bool.or_eq_false_iff, decide_eq_false_iff_not]
  tauto

theorem isShellBlank_iff :
    isShellBlank c = true ↔ c = ' ' ∨ c = '\t' ∨ c = '\r' ∨ c = '\n' := by
  simp [isShellBlank, or_assoc]

theorem isBlank_of_isShellBlank (h : isShellBlank c = true) : isBlank c = true := by
  rcases isShellBlank_iff.mp h with rfl | rfl | rfl | rfl <;> decide

theorem isBlank_of_isQuoting (h : isQuoting c = true) : isBlank c = false := by
  simp only [isQuoting, Bool.or_eq_true, decide_eq_true_eq] at h
  rcases h with (rfl | rfl) | rfl <;> decide

theorem not_isShellBlank_of_isQuoting (h : isQuoting c = true) : ¬isShellBlank c = true := by
  intro hblank
  have hnot := isBlank_of_isQuoting h
  rw [isBlank_of_isShellBlank hblank] at hnot
  cases hnot

theorem openWith_of_not_isQuoting (h : isQuoting c = false) (word : List Char) :
    openWith word c = .plain (c :: word) := by
  obtain ⟨hsingle, hdouble, hslash⟩ := isQuoting_eq_false_iff.mp h
  rw [openWith, if_neg hslash, if_neg hsingle, if_neg hdouble]

/-- Between words the runs are what is left to be read; in a word that has been opened the first of
them, which may be empty, goes on with it. -/
theorem shellWordsFrom_of_unquoted (h : ∀ c ∈ cs, isQuoting c = false) :
    shellWordsFrom .between cs = some ((pieces isShellBlank cs).filter fun w => !w.isEmpty) ∧
      ∀ word w ws, pieces isShellBlank cs = w :: ws →
        shellWordsFrom (.plain word) cs =
          some ((word.reverse ++ w) :: ws.filter fun w => !w.isEmpty) := by
  -- each state leads to the other, so both are in the induction, for any word that has been opened
  induction cs with
  | nil =>
    refine ⟨rfl, fun word w ws hpieces => ?_⟩
    obtain ⟨rfl, rfl⟩ := List.cons.inj hpieces
    rw [List.append_nil, shellWordsFrom, List.filter_nil]
  | cons c cs ih =>
    obtain ⟨hbetween, hplain⟩ := ih fun d hd => h d (List.mem_cons_of_mem c hd)
    have hopen := openWith_of_not_isQuoting (h c List.mem_cons_self)
    by_cases hc : isShellBlank c = true
    · -- the word that has been opened ends here
      rw [pieces, if_pos hc, shellWordsFrom, if_pos hc, hbetween]
      refine ⟨rfl, fun word w ws hpieces => ?_⟩
      obtain ⟨rfl, rfl⟩ := List.cons.inj hpieces
      rw [shellWordsFrom, if_pos hc, hbetween, List.append_nil, Option.map_some]
    · -- the character goes to the word that has been opened, or opens one
      obtain ⟨v, vs, hv⟩ := List.exists_cons_of_ne_nil (pieces_ne_nil isShellBlank cs)
      rw [pieces_cons_of_not (Bool.eq_false_iff.mpr hc), hv, onFirstLine, shellWordsFrom,
        if_neg hc, hopen, hplain [c] v vs hv]
      refine ⟨rfl, fun word w ws hpieces => ?_⟩
      obtain ⟨rfl, rfl⟩ := List.cons.inj hpieces
      rw [shellWordsFrom, if_neg hc, hopen, hplain (c :: word) v _ hv, List.reverse_cons,
        List.append_assoc, List.singleton_append]

/-- Without quotes the shell-style words are the runs between the blanks that separate them. -/
theorem shellWords_of_unquoted (h : ∀ c ∈ cs, isQuoting c = false) :
    shellWords cs = some ((pieces isShellBlank cs).filter fun w => !w.isEmpty) :=
  (shellWordsFrom_of_unquoted h).1

/-! ### What becomes of quotes -/

/-- The quoting characters in the word that has been opened. A backslash between double quotes is
one of them, as the character behind it may turn out not to be quoted by it. -/
def ShellState.quoting : ShellState → Nat
  | .between => 0
  | .plain word | .escaped word | .single word | .double word => word.countP isQuoting
  | .doubleEscaped word => word.countP isQuoting + 1

/-- A character outside quotes adds at most itself to the word. -/
theorem quoting_openWith_le (word : List Char) (c : Char) :
    (openWith word c).quoting ≤ (c :: word).countP isQuoting := by
  rw [openWith]
  split_ifs <;> simp [ShellState.quoting, List.countP_cons]

/-- A character that begins to quote does not come into the word. -/
theorem quoting_openWith_of_isQuoting (h : isQuoting c = true) (word : List Char) :
    (openWith word c).quoting = word.countP isQuoting := by
  simp only [isQuoting, Bool.or_eq_true, decide_eq_true_eq] at h
  rcases h with (rfl | rfl) | rfl <;> rfl

/-- A step that adds at most the character that is read keeps the count. -/
theorem le_quoting_add_countP_cons {t : ShellState} {n : Nat}
    (hstep : t.quoting ≤ s.quoting + [c].countP isQuoting)
    (hrest : n ≤ t.quoting + cs.countP isQuoting) :
    n ≤ s.quoting + (c :: cs).countP isQuoting := by
  rw [← List.singleton_append, List.countP_append]
  omega

/-- The words hold no more quoting characters than have been read. -/
theorem countP_flatten_le (h : shellWordsFrom s cs = some ws) :
    ws.flatten.countP isQuoting ≤ s.quoting + cs.countP isQuoting := by
  fun_induction shellWordsFrom s cs generalizing ws with
  | case1 =>
    cases h
    exact Nat.zero_le _
  | case2 word =>
    cases h
    simp [ShellState.quoting]
  | case3 | case4 | case5 | case6 => cases h
  | case9 word c cs hc ih =>
    -- the word ends, and its characters are counted among the words
    obtain ⟨vs, hvs, rfl⟩ := Option.map_eq_some_iff.mp h
    have hrest := ih hvs
    simp only [ShellState.quoting, List.countP_cons, List.flatten_cons, List.countP_append,
      List.countP_reverse] at hrest ⊢
    omega
  | case8 c cs hc ih =>
    refine le_quoting_add_countP_cons (Nat.le_trans (quoting_openWith_le [] c) ?_) (ih h)
    simp [ShellState.quoting]
  | case10 word c cs hc ih =>
    refine le_quoting_add_countP_cons (Nat.le_trans (quoting_openWith_le word c) ?_) (ih h)
    simp [ShellState.quoting, List.countP_cons]
  | case7 c cs hc ih | case11 word c cs ih | case12 word cs ih | case13 word c cs hc ih
  | case14 word cs ih | case15 word cs hc ih | case16 word c cs hc hc' ih
  | case17 word c cs hc ih | case18 word c cs hc ih =>
    refine le_quoting_add_countP_cons ?_ (ih h)
    simp [ShellState.quoting, List.countP_cons, isQuoting]

/-- A state outside quotes, between words or in one. -/
def ShellState.IsOpen (s : ShellState) : Prop := s = .between ∨ ∃ word, s = .plain word

/-- Outside quotes, a character that is no blank goes to the word that has been opened, or opens
one. -/
theorem ShellState.IsOpen.exists_openWith (hs : s.IsOpen) (hc : ¬isShellBlank c = true)
    (cs : List Char) : ∃ word, word.countP isQuoting = s.quoting ∧
      shellWordsFrom s (c :: cs) = shellWordsFrom (openWith word c) cs := by
  rcases hs with rfl | ⟨word, rfl⟩
  · exact ⟨[], rfl, by rw [shellWordsFrom, if_neg hc]⟩
  · exact ⟨word, rfl, by rw [shellWordsFrom, if_neg hc]⟩

/-- Outside quotes, the next character that quotes is missing from the words. -/
theorem countP_flatten_lt (hs : s.IsOpen) (hq : ∃ c ∈ cs, isQuoting c = true)
    (h : shellWordsFrom s cs = some ws) :
    ws.flatten.countP isQuoting < s.quoting + cs.countP isQuoting := by
  induction cs generalizing s ws with
  | nil => simp at hq
  | cons c cs ih =>
    -- the first character that quotes is dropped, and what is behind it adds nothing
    by_cases hc : isQuoting c = true
    · obtain ⟨word, hword, hread⟩ := hs.exists_openWith (not_isShellBlank_of_isQuoting hc) cs
      have hle := countP_flatten_le (hread ▸ h)
      rw [quoting_openWith_of_isQuoting hc, hword] at hle
      rw [List.countP_cons_of_pos hc]
      omega
    · have hrest : ∃ c ∈ cs, isQuoting c = true := by simpa [hc] using hq
      rw [List.countP_cons_of_neg hc]
      by_cases hblank : isShellBlank c = true
      · rcases hs with rfl | ⟨word, rfl⟩
        · rw [shellWordsFrom, if_pos hblank] at h
          exact ih (.inl rfl) hrest h
        · rw [shellWordsFrom, if_pos hblank, Option.map_eq_some_iff] at h
          obtain ⟨vs, hvs, rfl⟩ := h
          have hlt := ih (.inl rfl) hrest hvs
          simp only [ShellState.quoting, List.flatten_cons, List.countP_append,
            List.countP_reverse] at hlt ⊢
          omega
      · obtain ⟨word, hword, hread⟩ := hs.exists_openWith hblank cs
        rw [hread, openWith_of_not_isQuoting (Bool.eq_false_iff.mpr hc)] at h
        have hlt := ih (.inr ⟨c :: word, rfl⟩) hrest h
        rwa [ShellState.quoting, List.countP_cons_of_neg hc, hword] at hlt

/-! ### Both readings -/

/-- In a plain text nothing quotes, and both readings take the same characters for blanks. -/
theorem isPlain_iff :
    IsPlain cs ↔ ∀ c ∈ cs, isQuoting c = false ∧ isShellBlank c = isBlank c := by
  constructor
  · exact fun h c hc => ⟨isQuoting_eq_false_iff.mpr (h.unquoted c hc), Bool.eq_iff_iff.mpr
      ⟨isBlank_of_isShellBlank, fun hb => isShellBlank_iff.mpr (h.blank c hc hb)⟩⟩
  · exact fun h => ⟨fun c hc => isQuoting_eq_false_iff.mp (h c hc).1,
      fun c hc hb => isShellBlank_iff.mp ((h c hc).2.trans hb)⟩

instance (cs : List Char) : Decidable (IsPlain cs) :=
  decidable_of_iff ((cs.all fun c => !isQuoting c && isShellBlank c == isBlank c) = true) <| by
    simp [isPlain_iff]

/-- No text with quotes or backslashes is read as its words. -/
theorem isQuoting_eq_false_of_shellWords (h : shellWords cs = some (words cs)) :
    ∀ c ∈ cs, isQuoting c = false := by
  by_contra hquoting
  have hq : ∃ c ∈ cs, isQuoting c = true := by simpa using hquoting
  have hlt := countP_flatten_lt (.inl rfl) hq h
  have hkept : (words cs).flatten.countP isQuoting = cs.countP isQuoting := by
    rw [flatten_words, List.countP_filter]
    refine List.countP_congr fun c _ => ?_
    rw [Bool.and_eq_true, and_iff_left_iff_imp]
    exact fun hc => by rw [isBlank_of_isQuoting hc]; rfl
  rw [hkept, ShellState.quoting] at hlt
  omega

/-- **Shell-style words and words.** A text has the one as its other exactly if it is plain. -/
theorem shellWords_eq_words_iff : shellWords cs = some (words cs) ↔ IsPlain cs := by
  rw [isPlain_iff]
  constructor
  · intro h c hc
    have hquoting := isQuoting_eq_false_of_shellWords h
    refine ⟨hquoting c hc, Bool.eq_iff_iff.mpr ⟨isBlank_of_isShellBlank, fun hblank => ?_⟩⟩
    -- any other white space would stand in a shell-style word, but stands in no word
    have hruns := Option.some.inj ((shellWords_of_unquoted hquoting).symm.trans h)
    have hkept := congrArg List.flatten hruns
    rw [List.flatten_filter_not_isEmpty, flatten_pieces, flatten_words] at hkept
    by_contra hother
    have hmem : c ∈ cs.filter fun c => !isShellBlank c :=
      List.mem_filter.mpr ⟨hc, by simpa using hother⟩
    rw [hkept] at hmem
    simp [hblank] at hmem
  · intro h
    rw [shellWords_of_unquoted fun c hc => (h c hc).1, pieces_congr fun c hc => (h c hc).2, words]

/-- A vertical tab separates words, but no shell-style words. -/
example : shellWords "a\x0bb #".toList = some ["a\x0bb".toList, "#".toList] ∧
    words "a\x0bb #".toList = ["a".toList, "b".toList, "#".toList] := by
  decide +kernel

/-- **Plain arguments.** A plain text has a shell-style reading, and the arguments written in it are
its words: the runs of characters that are not blank, in order. No argument is empty, and nothing
but the blanks is missing from them. -/
theorem optionWords_of_isPlain (h : IsPlain cs) :
    ∃ ws, shellWords cs = some ws ∧ words cs = ws ∧ optionWords cs = ws.map String.ofList ∧
      (∀ us, Spells us cs ↔ us = ws) ∧ (∀ w ∈ ws, w ≠ []) ∧
      ws.flatten = cs.filter fun c => !isBlank c := by
  have hread := shellWords_eq_words_iff.mpr h
  refine ⟨words cs, hread, rfl, ?_, fun us => words_eq_iff.symm.trans eq_comm, ?_,
    flatten_words cs⟩
  · rw [optionWords, hread, Option.getD_some]
  · intro w hw
    simpa using (List.mem_filter.mp hw).2

/-- Comment marks, what a shell would expand, and characters of no width are kept as they are. -/
theorem optionWords_of_isPlain_sample :
    ∃ cs : List Char, cs = "\t--rc=#1  # $(x)\r\n\u200b;\x00 ".toList ∧ IsPlain cs ∧
      shellWords cs = some (words cs) ∧
      optionWords cs = ["--rc=#1", "#", "$(x)", "\u200b;\x00"] := by
  generalize hcs : "\t--rc=#1  # $(x)\r\n\u200b;\x00 ".toList = cs
  have hplain : IsPlain cs := hcs ▸ by decide +kernel
  obtain ⟨ws, hread, hwords, hoption, -, -⟩ := optionWords_of_isPlain hplain
  have hlist : words cs = ["--rc=#1".toList, "#".toList, "$(x)".toList, "\u200b;\x00".toList] :=
    hcs ▸ by decide +kernel
  refine ⟨cs, rfl, hplain, hwords ▸ hread, ?_⟩
  rw [hoption, ← hwords, hlist]
  simp

end OptIn.Text
