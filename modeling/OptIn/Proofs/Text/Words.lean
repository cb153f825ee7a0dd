import OptIn.Proofs.Text.Cuts

/-!
# Words of a text

A text spells words when it consists of them with blanks in between, and perhaps with blanks in
front of the first and behind the last. The words of a text are what it spells, and nothing else is
(`words_eq_iff`), so the blanks have no say but for where they stand.
-/

namespace OptIn.Text

/-- A **word** has characters, none of which is blank. -/
structure IsWord (w : List Char) : Prop where
  ne_nil : w ≠ []
  not_blank : ∀ c ∈ w, isBlank c = false

/-- A text **spells** words. Behind a word it ends or goes on with a blank. -/
inductive Spells : List (List Char) → List Char → Prop
  | blanks {gap : List Char} : (∀ c ∈ gap, isBlank c = true) → Spells [] gap
  | word {gap w cs : List Char} {ws : List (List Char)} : (∀ c ∈ gap, isBlank c = true) →
      IsWord w → (∀ c ∈ cs.head?, isBlank c = true) → Spells ws cs →
      Spells (w :: ws) (gap ++ (w ++ cs))

variable {gap w cs ds : List Char} {ws : List (List Char)} {c : Char}

theorem words_cons_blank (hc : isBlank c = true) (cs : List Char) : words (c :: cs) = words cs := by
  simp [words, pieces, hc]

theorem words_blanks_append (hgap : ∀ c ∈ gap, isBlank c = true) (cs : List Char) :
    words (gap ++ cs) = words cs := by
  induction gap with
  | nil => rfl
  | cons c gap ih =>
    rw [List.cons_append, words_cons_blank (hgap c List.mem_cons_self),
      ih fun d hd => hgap d (List.mem_cons_of_mem c hd)]

theorem words_word_append (hw : IsWord w) (hcs : ∀ c ∈ cs.head?, isBlank c = true) :
    words (w ++ cs) = w :: words cs := by
  cases cs with
  | nil => simp [words, pieces_of_forall_not hw.not_blank, hw.ne_nil, pieces]
  | cons c cs =>
    have hc : isBlank c = true := hcs c rfl
    rw [words_cons_blank hc, words, pieces_append_cons hw.not_blank hc]
    simp [words, hw.ne_nil]

/-- A blank at the end adds no word. -/
theorem words_concat_blank (hc : isBlank c = true) (cs : List Char) :
    words (cs ++ [c]) = words cs := by
  rw [words, pieces_append hc, List.filter_append, ← words]
  simp [pieces]

/-- The words of a text hold all of its characters that are not blank. -/
theorem flatten_words (cs : List Char) : (words cs).flatten = cs.filter fun c => !isBlank c := by
  rw [words, List.flatten_filter_not_isEmpty, flatten_pieces]

theorem words_of_spells (h : Spells ws cs) : words cs = ws := by
  induction h with
  | @blanks gap hgap =>
    rw [← List.append_nil gap, words_blanks_append hgap]
    rfl
  | word hgap hw hhead _ ih => rw [words_blanks_append hgap, words_word_append hw hhead, ih]

theorem Spells.cons_blank (h : Spells ws cs) (hc : isBlank c = true) : Spells ws (c :: cs) := by
  cases h with
  | blanks hgap => exact .blanks (List.forall_mem_cons.mpr ⟨hc, hgap⟩)
  | word hgap hw hhead hrest => exact .word (List.forall_mem_cons.mpr ⟨hc, hgap⟩) hw hhead hrest

theorem IsWord.cons (hw : IsWord w) (hc : isBlank c = false) : IsWord (c :: w) :=
  ⟨List.cons_ne_nil c w, List.forall_mem_cons.mpr ⟨hc, hw.not_blank⟩⟩

/-- Every text spells some words. -/
theorem exists_spells (cs : List Char) : ∃ ws, Spells ws cs := by
  induction cs with
  | nil => exact ⟨[], .blanks (by simp)⟩
  | cons c cs ih =>
    obtain ⟨ws, hws⟩ := ih
    cases hc : isBlank c with
    | true => exact ⟨ws, hws.cons_blank hc⟩
    | false =>
      have hnone : ∀ d ∈ ([] : List Char), isBlank d = true := fun d hd => nomatch hd
      have hsingle : IsWord [c] := ⟨by simp, by simpa using hc⟩
      -- a word begins here: a new one, or the first of the others if there is no blank in between
      cases hws with
      | blanks hgap =>
        have hhead : ∀ d ∈ cs.head?, isBlank d = true := fun d hd =>
          hgap d (List.mem_of_mem_head? hd)
        exact ⟨[[c]], .word hnone hsingle hhead (.blanks hgap)⟩
      | @word gap w cs ws hgap hw hhead hrest =>
        cases gap with
        | nil => exact ⟨(c :: w) :: ws, .word hnone (hw.cons hc) hhead hrest⟩
        | cons b gap =>
          have hb : isBlank b = true := hgap b List.mem_cons_self
          exact ⟨[c] :: w :: ws, .word hnone hsingle (by simpa using hb)
            (.word hgap hw hhead hrest)⟩

/-- **Words of a text.** They are what the text spells, and it spells nothing else. -/
theorem words_eq_iff : words cs = ws ↔ Spells ws cs := by
  refine ⟨?_, words_of_spells⟩
  rintro rfl
  obtain ⟨ws, hws⟩ := exists_spells cs
  rwa [words_of_spells hws]

end OptIn.Text
