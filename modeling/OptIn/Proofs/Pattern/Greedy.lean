import OptIn.Driver.Builtin

/-!
# Longest runs

A greedy repetition of one character's pattern takes the longest run of such characters if what
follows it matches behind the run (`run_many_greedy`). A pattern that opens with a comment mark and
a word therefore matches a line in one way only, and hands on what stands behind the word
(`matchLine?_commentWord`).
-/

namespace OptIn

namespace Pattern

variable {p : Char → Bool} {k : Continuation} {t : Cursor} {before cs rest : List Char}
  {groups : List (Nat × List Char)}

theorem run_row_cons (q : Pattern) (ps : List Pattern) (k : Continuation) :
    (row (q :: ps)).run k = q.run ((row ps).run k) := by
  cases ps <;> rfl

/-- The pattern of a text moves the cursor over that text. -/
theorem run_literals_append (cs : List Char) (ps : List Pattern) (k : Continuation) :
    (row (cs.map .char ++ ps)).run k ⟨before, cs ++ rest, groups⟩ =
      (row ps).run k ⟨cs.reverse ++ before, rest, groups⟩ := by
  induction cs generalizing before with
  | nil => rfl
  | cons c cs ih =>
    have hstep : takeOne (· = c) ((row (cs.map .char ++ ps)).run k)
        ⟨before, c :: (cs ++ rest), groups⟩ =
          (row (cs.map .char ++ ps)).run k ⟨c :: before, cs ++ rest, groups⟩ := by
      simp [takeOne]
    rw [List.map_cons, List.cons_append, List.cons_append, run_row_cons, run, hstep, ih,
      List.reverse_cons, List.append_assoc, List.singleton_append]

/-- A greedy repetition of a step over one character takes a run of such characters as a whole. -/
theorem repeated_takeOne (hcs : ∀ c ∈ cs, p c = true) (hrest : ∀ c ∈ rest.head?, p c = false)
    (hk : k ⟨cs.reverse ++ before, rest, groups⟩ = some t) {fuel : Nat} (hfuel : cs.length < fuel) :
    repeated (takeOne p) true fuel 0 none k ⟨before, cs ++ rest, groups⟩ = some t := by
  -- the induction is on the run; each turn uses up one character and one unit of fuel
  induction cs generalizing before fuel with
  | nil =>
    obtain ⟨fuel, rfl⟩ := Nat.exists_eq_succ_of_ne_zero (Nat.ne_of_gt hfuel)
    have hstop : ∀ k', takeOne p k' ⟨before, rest, groups⟩ = none := by
      intro k'
      cases rest with
      | nil => rfl
      | cons c rest => simp [takeOne, hrest c rfl]
    have hk' : k ⟨before, rest, groups⟩ = some t := hk
    simp only [List.nil_append, repeated, hstop, hk', reduceCtorEq, if_true, if_false,
      Option.none_or]
  | cons c cs ih =>
    obtain ⟨fuel, rfl⟩ := Nat.exists_eq_succ_of_ne_zero (Nat.ne_of_gt (Nat.zero_lt_of_lt hfuel))
    have hc : p c = true := hcs c List.mem_cons_self
    have hturn : repeated (takeOne p) true fuel 0 none k ⟨c :: before, cs ++ rest, groups⟩ =
        some t := by
      refine ih (fun d hd => hcs d (List.mem_cons_of_mem c hd)) ?_ (Nat.lt_of_succ_lt_succ hfuel)
      rwa [List.reverse_cons, List.append_assoc] at hk
    have hshorter : (cs ++ rest).length < (c :: (cs ++ rest)).length := Nat.lt_succ_self _
    simp only [List.cons_append, repeated, takeOne, hc, if_true, if_pos hshorter, Option.map_none,
      hturn, reduceCtorEq, if_false, Option.some_or]

/-- A greedy repetition takes the longest run if the rest matches behind it. -/
theorem run_many_greedy {q : Pattern} (hq : q.run = takeOne p) (hcs : ∀ c ∈ cs, p c = true)
    (hrest : ∀ c ∈ rest.head?, p c = false)
    (hk : k ⟨cs.reverse ++ before, rest, groups⟩ = some t) :
    (many 0 none .greedy q).run k ⟨before, cs ++ rest, groups⟩ = some t := by
  have hfuel : cs.length < 0 + (cs ++ rest).length + 1 := by
    rw [List.length_append]
    omega
  rw [run, hq]
  exact repeated_takeOne hcs hrest hk hfuel

/-- Blanks are passed over as a whole. -/
theorem run_blanks (hcs : ∀ c ∈ cs, Text.isBlank c = true)
    (hrest : ∀ c ∈ rest.head?, Text.isBlank c = false)
    (hk : k ⟨cs.reverse ++ before, rest, groups⟩ = some t) :
    blanks.run k ⟨before, cs ++ rest, groups⟩ = some t := by
  have hset : (set false [.ofClass .space false]).run = takeOne Text.isBlank := by
    funext k
    simp [run, SetMember.contains, CharClass.contains]
  exact run_many_greedy hset hcs hrest hk

/-- All that is left of a line is captured. -/
theorem run_captureRest (hcs : ∀ c ∈ cs, c ≠ '\n')
    (hk : k ⟨cs.reverse ++ before, [], (1, cs) :: groups⟩ = some t) :
    (capture 1 (many 0 none .greedy anyButNewline)).run k ⟨before, cs, groups⟩ = some t := by
  have hbetween : Cursor.between ⟨before, cs, groups⟩ ⟨cs.reverse ++ before, [], groups⟩ = cs := by
    simp [Cursor.between]
  have hany : anyButNewline.run = takeOne fun c => c ≠ '\n' := rfl
  have hrun : (many 0 none .greedy anyButNewline).run
      (fun u => k { u with groups := (1, Cursor.between ⟨before, cs, groups⟩ u) :: u.groups })
      ⟨before, cs ++ [], groups⟩ = some t :=
    run_many_greedy hany (by simpa using hcs) (by simp) (by rwa [hbetween])
  rwa [List.append_nil] at hrun

/-- A pattern that opens with a comment mark and a word goes on behind the word. -/
theorem matchLine?_commentWord {word : String} {ps : List Pattern} {gap rest : List Char}
    (hword : ∃ c ∈ word.toList.head?, Text.isBlank c = false)
    (hgap : ∀ c ∈ gap, Text.isBlank c = true)
    (h : (row ps).run some ⟨word.toList.reverse ++ (gap.reverse ++ ['#']), rest, []⟩ = some t) :
    (row (commentWord word ++ ps)).matchLine? ('#' :: (gap ++ (word.toList ++ rest))) = some t := by
  obtain ⟨c, hhead, hc⟩ := hword
  obtain ⟨ws, hws⟩ : ∃ ws, word.toList = c :: ws := List.head?_eq_some_iff.mp hhead
  have hblank : ∀ d ∈ (word.toList ++ rest).head?, Text.isBlank d = false := by
    simpa [hws] using hc
  have hliterals : (row (literals word ++ ps)).run some
      ⟨gap.reverse ++ ['#'], word.toList ++ rest, []⟩ = some t := by
    rw [literals, run_literals_append, h]
  have hblanks := run_blanks hgap hblank hliterals
  have hmark : takeOne (· = '#') (blanks.run ((row (literals word ++ ps)).run some))
      ⟨[], '#' :: (gap ++ (word.toList ++ rest)), []⟩ = some t := by
    simpa [takeOne] using hblanks
  have hstart : Spot.textStart.holds ⟨[], '#' :: (gap ++ (word.toList ++ rest)), []⟩ = true := rfl
  simp only [matchLine?, commentWord, List.cons_append, List.nil_append, run_row_cons, run, hstart,
    if_true]
  exact hmark

end Pattern

end OptIn
