import Mathlib.Data.List.Basic
import OptIn.Console.Message
import OptIn.Proofs.Text.Cuts

/-!
# Colour is only escape sequences

A text in colour is the plain text with escape sequences between its characters, if the text itself
holds no ESC. `withoutEscapes` deletes these sequences. Cutting a text to lines, expanding its tabs
and dropping control characters is done before a style is put around what is left, so deleting the
sequences of a line gives the line as it is printed in no style (`strips_printedLine`), and the same
holds of whole messages (`strips_message`, `withoutEscapes_spoken`) and of texts with a label in
style (`strips_labelled`).
-/

namespace OptIn.Console

/-- The character that starts an escape sequence. -/
def esc : Char := '\x1b'

/-- How many characters lie between `ESC [` and the next `m`, if a text starts with such a
sequence. -/
def sequenceAhead? : List Char → Option Nat
  | '\x1b' :: '[' :: cs =>
    if cs.contains 'm' then some (cs.takeWhile (· ≠ 'm')).length else none
  | _ => none

/-- The characters of a text without its escape sequences `ESC [ … m`; `skip` counts those that
still belong to a sequence. -/
def withoutEscapesFrom : (skip : Nat) → List Char → List Char
  | _, [] => []
  | skip + 1, _ :: cs => withoutEscapesFrom skip cs
  | 0, c :: cs =>
    match sequenceAhead? (c :: cs) with
    | some n => withoutEscapesFrom (n + 2) cs
    | none => c :: withoutEscapesFrom 0 cs

/-- A text without its escape sequences. -/
def withoutEscapes (s : String) : String := String.ofList (withoutEscapesFrom 0 s.toList)

example : withoutEscapes "\x1b[1;31mfailed\x1b[0m a.py \x1b[ x" = "failed a.py \x1b[ x" := by decide

/-- Characters **strip** to others when these are left of them without their escape sequences,
whatever stands behind. -/
def Strips (cs ds : List Char) : Prop :=
  ∀ rest, withoutEscapesFrom 0 (cs ++ rest) = ds ++ withoutEscapesFrom 0 rest

variable {cs cs' ds ds' line : List Char} {style : Style} {s t : String}

theorem Strips.withoutEscapes_eq (h : Strips s.toList t.toList) : withoutEscapes s = t := by
  have hnil := h []
  rw [List.append_nil] at hnil
  rw [withoutEscapes, hnil, withoutEscapesFrom, List.append_nil, String.ofList_toList]

theorem strips_nil : Strips [] [] := fun _ => rfl

theorem Strips.append (h : Strips cs ds) (h' : Strips cs' ds') :
    Strips (cs ++ cs') (ds ++ ds') := fun rest => by
  rw [List.append_assoc, h, h', List.append_assoc]

theorem strips_flatMap {α : Type} {l : List α} {f g : α → List Char}
    (h : ∀ x ∈ l, Strips (f x) (g x)) : Strips (l.flatMap f) (l.flatMap g) := by
  induction l with
  | nil => exact strips_nil
  | cons x l ih =>
    rw [List.flatMap_cons, List.flatMap_cons]
    exact (h x List.mem_cons_self).append (ih fun y hy => h y (List.mem_cons_of_mem x hy))

theorem sequenceAhead?_of_ne {c : Char} (hc : c ≠ esc) (cs : List Char) :
    sequenceAhead? (c :: cs) = none := by
  rw [sequenceAhead?]
  rintro ds heq
  exact hc (List.cons.inj heq).1

/-- Nothing is deleted from characters without ESC. -/
theorem strips_self (h : esc ∉ cs) : Strips cs cs := by
  intro rest
  induction cs with
  | nil => rfl
  | cons c cs ih =>
    have hc : c ≠ esc := fun hc => h (hc ▸ List.mem_cons_self)
    rw [List.cons_append, withoutEscapesFrom, sequenceAhead?_of_ne hc]
    exact congrArg (c :: ·) (ih fun hm => h (List.mem_cons_of_mem c hm))

theorem withoutEscapesFrom_length (cs rest : List Char) :
    withoutEscapesFrom cs.length (cs ++ rest) = withoutEscapesFrom 0 rest := by
  induction cs with
  | nil => rfl
  | cons c cs ih => exact ih

/-- An escape sequence is deleted. -/
theorem strips_sequence {code : List Char} (h : 'm' ∉ code) :
    Strips ('\x1b' :: '[' :: code ++ ['m']) [] := by
  intro rest
  have htake : (code ++ 'm' :: rest).takeWhile (· ≠ 'm') = code := by
    rw [List.takeWhile_append_of_pos, List.takeWhile_cons_of_neg (by simp), List.append_nil]
    exact fun c hc => by simpa using fun hm : c = 'm' => h (hm ▸ hc)
  have hahead : sequenceAhead? ('\x1b' :: '[' :: (code ++ 'm' :: rest)) = some code.length := by
    rw [sequenceAhead?, if_pos (by simp), htake]
  have hlist : '\x1b' :: '[' :: code ++ ['m'] ++ rest =
      '\x1b' :: '[' :: (code ++ 'm' :: rest) := by simp
  have hskip : '[' :: (code ++ 'm' :: rest) = ('[' :: code ++ ['m']) ++ rest := by simp
  have hlength : code.length + 2 = ('[' :: code ++ ['m']).length := by simp
  rw [hlist, withoutEscapesFrom, hahead]
  simp only
  rw [hskip, hlength, withoutEscapesFrom_length, List.nil_append]

theorem m_not_mem_code (style : Style) : 'm' ∉ style.code.toList := by
  cases style <;> decide

/-- A span in style strips to the characters in it. -/
theorem strips_wrap (style : Style) (h : esc ∉ cs) : Strips (style.wrap cs) cs := by
  rw [Style.wrap]
  split
  · rename_i hempty
    rw [List.isEmpty_iff.mp hempty]
    exact strips_nil
  · have hstart := strips_sequence (m_not_mem_code style)
    have hend : Strips "\x1b[0m".toList [] := @strips_sequence ['0'] (by decide)
    simpa using (hstart.append (strips_self h)).append hend

theorem strips_wrapIf (style : Option Style) (h : esc ∉ cs) : Strips (wrapIf style cs) cs := by
  cases style with
  | none => exact strips_self h
  | some style => exact strips_wrap style h

/-! ### Where the characters of a line come from -/

theorem mem_of_mem_fillTabs {c : Char} {w : List Char} {ps : List (List Char)} {cell : Nat}
    (hw : w ∈ fillTabs cell ps) (hc : c ∈ w) : c = ' ' ∨ ∃ p ∈ ps, c ∈ p := by
  fun_induction fillTabs cell ps with
  | case1 => cases hw
  | case2 cell last =>
    rw [List.mem_singleton.mp hw] at hc
    exact .inr ⟨last, List.mem_singleton_self last, hc⟩
  | case3 cell p rest hrest reached pad ih =>
    rcases List.mem_cons.mp hw with rfl | hw
    · rcases List.mem_append.mp hc with hc | hc
      · rcases List.mem_append.mp hc with hc | hc
        · exact .inr ⟨p, List.mem_cons_self, hc⟩
        · exact .inl (List.mem_singleton.mp hc)
      · exact .inl (List.eq_of_mem_replicate hc)
    · exact (ih hw).imp_right fun ⟨q, hq, hcq⟩ => ⟨q, List.mem_cons_of_mem p hq, hcq⟩

theorem esc_not_mem_linePieces (h : esc ∉ line) {w : List Char} (hw : w ∈ linePieces line) :
    esc ∉ w := by
  intro hc
  rcases mem_of_mem_fillTabs hw hc with hspace | ⟨p, hp, hc⟩
  · exact absurd hspace (by decide)
  · exact h (Text.forall_mem_pieces (fun _ hd => hd) p hp esc hc)

/-- The lines of a text without ESC hold none. -/
theorem esc_not_mem_lines (h : esc ∉ s.toList) :
    ∀ line ∈ Text.pieces (· = '\n') (shown s), esc ∉ line := fun line hline hc =>
  h (List.mem_filter.mp (Text.forall_mem_pieces (fun _ hd => hd) line hline esc hc)).1

/-! ### Lines and messages -/

theorem strips_printedLine (style : Option Style) (h : esc ∉ line) :
    Strips (printedLine style line) (printedLine none line) := by
  refine Strips.append (strips_flatMap fun w hw => ?_) (strips_self (by decide))
  exact strips_wrapIf style (esc_not_mem_linePieces h hw)

theorem strips_printedLabelled (style : Option Style) (n : Nat) (h : esc ∉ line) :
    Strips (printedLabelled style n line) (printedLabelled none n line) := by
  have hpieces : ∀ w ∈ linePieces line, esc ∉ w := fun w => esc_not_mem_linePieces h
  rw [printedLabelled, printedLabelled]
  rcases hline : linePieces line with _ | ⟨p, ps⟩
  · exact @strips_self ['\n'] (by decide)
  · rw [hline] at hpieces
    have hp : esc ∉ p := hpieces p List.mem_cons_self
    have hps : esc ∉ ps.flatten := by
      intro hc
      obtain ⟨w, hw, hc⟩ := List.mem_flatten.mp hc
      exact hpieces w (List.mem_cons_of_mem p hw) hc
    have hlabel : Strips (wrapIf style (p.take n)) (p.take n) :=
      strips_wrapIf style fun hc => hp (List.mem_of_mem_take hc)
    have hvalue : Strips (p.drop n) (p.drop n) :=
      strips_self fun hc => hp (List.mem_of_mem_drop hc)
    exact ((hlabel.append hvalue).append (strips_self hps)).append (strips_self (by decide))

/-- A message without ESC is printed in a style as it is printed in none, escape sequences apart. -/
theorem strips_message (style : Option Style) (h : esc ∉ s.toList) :
    Strips (message style s).toList (message none s).toList := by
  rw [message, message, String.toList_ofList, String.toList_ofList]
  exact strips_flatMap fun line hline => strips_printedLine style (esc_not_mem_lines h line hline)

/-- So is a label with a text behind it. -/
theorem strips_labelled (style : Option Style) {label value : String}
    (h : esc ∉ (label ++ " " ++ value).toList) :
    Strips (labelled style label value).toList (labelled none label value).toList := by
  have hlines := esc_not_mem_lines h
  rw [labelled, labelled, String.toList_ofList, String.toList_ofList]
  rcases htext : Text.pieces (· = '\n') (shown (label ++ " " ++ value)) with _ | ⟨first, rest⟩
  · exact strips_nil
  · rw [htext] at hlines
    refine Strips.append (strips_printedLabelled style _ (hlines first List.mem_cons_self)) ?_
    exact strips_flatMap fun line hline =>
      strips_printedLine none (hlines line (List.mem_cons_of_mem first hline))

example : labelled (some .green) "passed" "a.py" = "\x1b[32mpassed\x1b[0m a.py\n" := by decide

theorem esc_not_mem_emblem (tone : Tone) : esc ∉ tone.emblem.toList := by
  cases tone <;> decide

/-- What is spoken in colour is what is spoken without, escape sequences apart. -/
theorem withoutEscapes_spoken (tone : Tone) (emoji : Bool) (h : esc ∉ s.toList) :
    withoutEscapes (spoken tone emoji true s) = spoken tone emoji false s := by
  refine (strips_message (some tone.style) ?_).withoutEscapes_eq
  rw [String.toList_append, List.mem_append]
  rintro (hc | hc)
  · cases emoji with
    | false => cases hc
    | true => exact esc_not_mem_emblem tone hc
  · exact h hc

end OptIn.Console
