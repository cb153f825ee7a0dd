import OptIn.Proofs.Header.Boundary

/-!
# What a header means

The lines of a header are read one after the other, with what has been found so far, and the reading
may stop at the first mark. What comes of it can be said about the header as a whole
(`readLines_eq`): the options pattern comes first, on whichever line it matches, and the mark counts
if no line gives options (`scanLines_eq_meaning`). The lines below the header do not count at all
(`scanLines_means`).
-/

namespace OptIn

namespace Directive

variable {mark pattern : Pattern} {options : Option Pattern} {lines header : List (List Char)}

/-- The **meaning** of a header. If there is an options pattern and some line matches it, the header
gives to the tool the words in the first group of each match, in the order of the lines. Otherwise
it asks for the tool if some line matches the mark. -/
def meaning (mark : Pattern) (options : Option Pattern) (header : List (List Char)) : Directive :=
  if ∃ pattern ∈ options, ∃ line ∈ header, pattern.matchesLine line = true then
    ⟨.presentWithOptions, (header.filterMap fun line => options.bind (·.matchLine? line)).flatMap
      fun c => Text.optionWords ((c.captured? 1).getD [])⟩
  else if ∃ line ∈ header, mark.matchesLine line = true then ⟨.present, []⟩
  else ⟨.absent, []⟩

/-! ### Reading line by line -/

/-- The arguments on a line, if there is an options pattern and the line matches it. -/
def given (options : Option Pattern) (line : List Char) : Option (List String) :=
  options.bind (optionsOn · line)

theorem isSome_optionsOn (pattern : Pattern) (line : List Char) :
    (optionsOn pattern line).isSome = pattern.matchesLine line := by
  rw [optionsOn, Option.isSome_map, Pattern.matchesLine]

/-- What has been found behind some lines is what was found before and what is on each of them. A
mark counts on lines without options only. -/
theorem readLines_eq (f : Findings) :
    readLines mark options f lines =
      { enabled := f.enabled || lines.any fun l => (given options l).isNone && mark.matchesLine l
        sawOptions := f.sawOptions || lines.any fun l => (given options l).isSome
        options := f.options ++ lines.flatMap fun l => (given options l).getD [] } := by
  induction lines generalizing f with
  | nil => simp [readLines]
  | cons line lines ih =>
    rw [readLines, ← given]
    cases hgiven : given options line with
    | some found => simp [ih, hgiven]
    | none =>
      by_cases hmark : mark.matchesLine line = true
      · cases options with
        -- without an options pattern nothing can be found behind the first mark
        | none => simp [given, hmark]
        | some pattern => simp [ih, hgiven, hmark]
      · simp [ih, hgiven, hmark]

/-! ### The whole header -/

theorem given_eq_map (options : Option Pattern) (line : List Char) :
    given options line = (options.bind (·.matchLine? line)).map fun c =>
      Text.optionWords ((c.captured? 1).getD []) := by
  cases options <;> rfl

/-- The arguments found are those of the matches, in order. -/
theorem flatMap_given (options : Option Pattern) (header : List (List Char)) :
    (header.flatMap fun l => (given options l).getD []) =
      (header.filterMap fun l => options.bind (·.matchLine? l)).flatMap fun c =>
        Text.optionWords ((c.captured? 1).getD []) := by
  induction header with
  | nil => rfl
  | cons line header ih =>
    rw [List.flatMap_cons, List.filterMap_cons, ih, given_eq_map]
    cases options.bind (·.matchLine? line) <;> rfl

/-- Reading the lines of a header one by one finds its meaning. -/
theorem ofFindings_readLines (mark : Pattern) (options : Option Pattern)
    (header : List (List Char)) :
    ofFindings (readLines mark options {} header) = meaning mark options header := by
  rw [readLines_eq, ofFindings, meaning]
  by_cases hgiven : ∃ pattern ∈ options, ∃ line ∈ header, pattern.matchesLine line = true
  · have hsaw : (header.any fun l => (given options l).isSome) = true := by
      obtain ⟨pattern, rfl, hline⟩ := hgiven
      simpa only [List.any_eq_true, given, Option.bind_some, isSome_optionsOn] using hline
    rw [if_pos hgiven, if_pos (by simp [hsaw]), List.nil_append, flatMap_given]
  · -- no line gives options, so every mark counts
    have hnone : ∀ l ∈ header, given options l = none := by
      intro l hl
      rw [given_eq_map, Option.map_eq_none_iff, Option.bind_eq_none_iff]
      intro pattern hpattern
      by_contra hmatch
      exact hgiven ⟨pattern, hpattern, l, hl, Option.isSome_iff_ne_none.mpr hmatch⟩
    have henabled : (header.any fun l => (given options l).isNone && mark.matchesLine l) = true ↔
        ∃ l ∈ header, mark.matchesLine l = true := by
      rw [List.any_eq_true]
      exact exists_congr fun l => and_congr_right fun hl => by simp [hnone l hl]
    rw [if_neg hgiven, if_neg (by simpa using hnone)]
    simp only [Bool.false_or, henabled]

/-- The directive of some lines is the meaning of their header. -/
theorem scanLines_eq_meaning (mark : Pattern) (options : Option Pattern)
    (lines : List (List Char)) :
    scanLines mark options lines = meaning mark options (headerLines lines) :=
  ofFindings_readLines mark options (headerLines lines)

end Directive

end OptIn
