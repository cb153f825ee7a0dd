import Mathlib.Data.List.Basic
import OptIn.Text.ShellWords

/-!
# Arguments in quotes

Any text can be passed as one shell-style word: it stands in single quotes, and each single quote in
it closes these, stands in double quotes, and opens them again. Reading such words gives back the
texts they were made from, empty ones included (`shellWords_quotedRow`).
-/

namespace OptIn.Text

/-- A character between single quotes. -/
def quotedChar (c : Char) : List Char :=
  if c = '\x27' then ['\x27', '\x22', '\x27', '\x22', '\x27'] else [c]

/-- A text **in quotes**. -/
def inQuotes (cs : List Char) : List Char := '\x27' :: (cs.flatMap quotedChar ++ ['\x27'])

/-- Texts in quotes, with a blank between any two. -/
def quotedRow (ws : List (List Char)) : List Char := [' '].intercalate (ws.map inQuotes)

/-! ### What is written -/

theorem quotedRow_singleton (w : List Char) : quotedRow [w] = inQuotes w := by
  rw [quotedRow, List.map_singleton, List.intercalate_singleton]

theorem quotedRow_cons_cons (w v : List Char) (ws : List (List Char)) :
    quotedRow (w :: v :: ws) = inQuotes w ++ ' ' :: quotedRow (v :: ws) := by
  rw [quotedRow, List.map_cons, List.map_cons, List.intercalate_cons_cons, ← List.map_cons,
    ← quotedRow, List.append_assoc, List.singleton_append]

/-- Quoting adds nothing but quotes and blanks. -/
theorem forall_mem_quotedRow {P : Char → Prop} {ws : List (List Char)} (hblank : P ' ')
    (hsingle : P '\x27') (hdouble : P '\x22') (hws : ∀ w ∈ ws, ∀ c ∈ w, P c) :
    ∀ c ∈ quotedRow ws, P c := by
  have hchar : ∀ d, P d → ∀ c ∈ quotedChar d, P c := by
    intro d hd
    rw [quotedChar]
    split
    · simp [hsingle, hdouble]
    · simpa using hd
  have hword : ∀ w ∈ ws, ∀ c ∈ inQuotes w, P c := by
    intro w hw c hc
    rw [inQuotes, List.mem_cons, List.mem_append, List.mem_singleton, List.mem_flatMap] at hc
    rcases hc with rfl | ⟨d, hd, hc⟩ | rfl
    · exact hsingle
    · exact hchar d (hws w hw d hd) c hc
    · exact hsingle
  induction ws with
  | nil => exact fun c hc => nomatch hc
  | cons w ws ih =>
    have hfirst : ∀ c ∈ inQuotes w, P c := hword w List.mem_cons_self
    have hrest : ∀ c ∈ quotedRow ws, P c :=
      ih (fun v hv => hws v (List.mem_cons_of_mem w hv))
        fun v hv => hword v (List.mem_cons_of_mem w hv)
    cases ws with
    | nil => rwa [quotedRow_singleton]
    | cons v ws =>
      intro c hc
      rw [quotedRow_cons_cons, List.mem_append, List.mem_cons] at hc
      rcases hc with hc | rfl | hc
      · exact hfirst c hc
      · exact hblank
      · exact hrest c hc

/-- A row begins with a quote, if it is anything. -/
theorem head?_quotedRow {ws : List (List Char)} {c : Char} (h : c ∈ (quotedRow ws).head?) :
    c = '\x27' := by
  rcases ws with _ | ⟨w, _ | ⟨v, ws⟩⟩
  · cases h
  · rw [quotedRow_singleton] at h
    exact (Option.some.inj h).symm
  · rw [quotedRow_cons_cons] at h
    exact (Option.some.inj h).symm

/-! ### Reading back -/

/-- Between single quotes a character is read back. -/
theorem shellWordsFrom_quotedChar (word : List Char) (c : Char) (cs : List Char) :
    shellWordsFrom (.single word) (quotedChar c ++ cs) =
      shellWordsFrom (.single (c :: word)) cs := by
  rw [quotedChar]
  split
  · rename_i hquote
    subst hquote
    rfl
  · rename_i hquote
    rw [List.singleton_append, shellWordsFrom, if_neg hquote]

theorem shellWordsFrom_flatMap (word w cs : List Char) :
    shellWordsFrom (.single word) (w.flatMap quotedChar ++ cs) =
      shellWordsFrom (.single (w.reverse ++ word)) cs := by
  induction w generalizing word with
  | nil => rfl
  | cons c w ih =>
    rw [List.flatMap_cons, List.append_assoc, shellWordsFrom_quotedChar, ih, List.reverse_cons,
      List.append_assoc, List.singleton_append]

/-- A text in quotes opens a word and gives it its characters. -/
theorem shellWordsFrom_inQuotes (w cs : List Char) :
    shellWordsFrom .between (inQuotes w ++ cs) = shellWordsFrom (.plain w.reverse) cs := by
  have hopen : ∀ ds, shellWordsFrom .between ('\x27' :: ds) = shellWordsFrom (.single []) ds :=
    fun ds => rfl
  have hclose : shellWordsFrom (.single w.reverse) ('\x27' :: cs) =
      shellWordsFrom (.plain w.reverse) cs := rfl
  rw [inQuotes, List.cons_append, hopen, List.append_assoc, shellWordsFrom_flatMap,
    List.append_nil, List.singleton_append, hclose]

/-- Texts in quotes are read back. -/
theorem shellWords_quotedRow (ws : List (List Char)) : shellWords (quotedRow ws) = some ws := by
  rw [shellWords]
  induction ws with
  | nil => rfl
  | cons w ws ih =>
    cases ws with
    | nil =>
      have hread := shellWordsFrom_inQuotes w []
      rw [List.append_nil] at hread
      rw [quotedRow_singleton, hread, shellWordsFrom, List.reverse_reverse]
    | cons v ws =>
      have hblank : ∀ cs, shellWordsFrom (.plain w.reverse) (' ' :: cs) =
          (shellWordsFrom .between cs).map (w.reverse.reverse :: ·) := fun cs => rfl
      rw [quotedRow_cons_cons, shellWordsFrom_inQuotes, hblank, ih, List.reverse_reverse,
        Option.map_some]

/-- The arguments written in quotes are those they were made from. -/
theorem optionWords_quotedRow (args : List String) :
    optionWords (quotedRow (args.map String.toList)) = args := by
  rw [optionWords, shellWords_quotedRow, Option.getD_some, List.map_map]
  simp [Function.comp_def]

example : quotedRow ["a b".toList, [], "\x27".toList] =
    "\x27a b\x27 \x27\x27 \x27\x27\x22\x27\x22\x27\x27".toList := by
  decide

end OptIn.Text
