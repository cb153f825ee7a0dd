import OptIn.Proofs.Console.Escapes
import OptIn.Proofs.Host.Characters
import OptIn.Proofs.Run.Faithful

/-!
# Reports in colour

Finishing a run in colour prints what it prints without, escape sequences apart, and ends alike
(`Summary.finish_color`), as long as no path is shown with an ESC in it. That is so when neither the
paths of the results nor the links they lead through hold one (`Host.Lacks.displayPath`). The same
is true of whatever is said in a tone.
-/

namespace OptIn

open Console (esc Strips strips_flatMap strips_labelled strips_message withoutEscapes
  withoutEscapes_spoken)

/-- An event, with the escape sequences deleted from what is printed. -/
def Event.withoutEscapes : Event → Event
  | printed stream text => printed stream (Console.withoutEscapes text)
  | e => e

/-- Two ends of an action in a world **look alike** when the outcome and the host are the same and
what has happened since differs only in escape sequences, which the second does without. -/
structure LooksAlike {α : Type} (w : World) (colored plain : Except Fault α × World) : Prop where
  outcome : colored.1 = plain.1
  host : colored.2.host = plain.2.host
  journal : ∃ es, colored.2.journal = w.journal ++ es ∧
    plain.2.journal = w.journal ++ es.map Event.withoutEscapes

theorem looksAlike_refl {α : Type} (x : Except Fault α) (w : World) :
    LooksAlike w (x, w) (x, w) :=
  ⟨rfl, rfl, [], (List.append_nil _).symm, (List.append_nil _).symm⟩

theorem looksAlike_log {α : Type} (x : Except Fault α) (w : World) (stream : Stream)
    {text text' : String} (htext : withoutEscapes text = text') :
    LooksAlike w (x, w.log (.printed stream text)) (x, w.log (.printed stream text')) :=
  ⟨rfl, rfl, [.printed stream text], rfl, htext ▸ rfl⟩

theorem esc_not_mem_label (c : Classification) : esc ∉ c.label.toList := by
  cases c <;> decide

theorem esc_not_mem_toString (n : Nat) : esc ∉ (toString n).toList := by
  intro hmem
  have hdigits : esc ∈ Nat.toDigits 10 n := by simpa [toString, Nat.repr] using hmem
  exact absurd (Nat.isDigit_of_mem_toDigits (by decide) (by decide) hdigits) (by decide)

theorem inner_esc : Inner esc := ⟨by decide, by decide⟩

namespace Summary

variable {s : Summary} {h : Host} {root : Path} {ls : List ReportLine} {w : World}
  {settings : Settings} {xs : List LintResult}

/-- Lines **lack ESC** when none of their texts holds it. -/
def LacksEsc (ls : List ReportLine) : Prop := ∀ l ∈ ls, esc ∉ l.text.toList

/-- The texts of a report hold no ESC if no path is shown with one. -/
theorem lacksEsc_of_lines (hs : s.Tallied) (hlines : s.lines h root = .ok ls)
    (hshown : ∀ x ∈ s.results, ∀ t, displayPath h x.candidate.path root = .ok t →
      esc ∉ t.toList) : LacksEsc ls := by
  obtain ⟨shown, hpaths, htold⟩ := (tells_of_lines hs hlines).told
  have hlacks : ∀ x ∈ s.results, esc ∉ (shown x.candidate.path).toList :=
    fun x hx => hshown x hx _ (hpaths x hx)
  intro l hl
  have hreading : l.reading ∈ told shown s.results := htold ▸ List.mem_map_of_mem hl
  have htext : l.text = l.reading.2 := rfl
  rw [htext]
  rcases List.mem_append.mp hreading with hown | hshared
  · obtain ⟨x, hx, heq⟩ := List.mem_map.mp hown
    rw [← heq]
    exact hlacks x (List.mem_filter.mp hx).1
  · split at hshared
    · rw [List.mem_singleton.mp hshared]
      refine not_mem_intercalate (by decide) fun t ht => ?_
      obtain ⟨x, hx, rfl⟩ := List.mem_map.mp ht
      exact hlacks x (List.mem_filter.mp hx).1
    · cases hshared

theorem esc_not_mem_totals (s : Summary) : esc ∉ s.totals.toList := by
  have hnumber := esc_not_mem_toString
  simp only [totals, String.toList_append, List.mem_append, not_or]
  exact ⟨⟨⟨⟨⟨hnumber _, by decide⟩, hnumber _⟩, by decide⟩, hnumber _⟩, by decide⟩

theorem strips_printedLine (l : ReportLine) (hl : esc ∉ l.text.toList) :
    Strips (printedLine true l).toList (printedLine false l).toList := by
  refine strips_labelled _ ?_
  simp only [String.toList_append, List.mem_append, not_or]
  exact ⟨⟨esc_not_mem_label _, by decide⟩, hl⟩

/-- A report in colour is the report without, escape sequences apart. -/
theorem withoutEscapes_printed (s : Summary) (hls : LacksEsc ls) :
    withoutEscapes (s.printed true ls) = s.printed false ls := by
  have hlines : Strips (ls.flatMap fun l => (printedLine true l).toList)
      (ls.flatMap fun l => (printedLine false l).toList) :=
    strips_flatMap fun l hl => strips_printedLine l (hls l hl)
  refine (?_ : Strips _ _).withoutEscapes_eq
  simpa [printed, String.toList_join, List.flatMap_map] using
    hlines.append (strips_message none s.esc_not_mem_totals)

/-- Finishing a run in colour looks like finishing it without. -/
theorem finish_looksAlike (hs : s.Tallied)
    (hshown : ∀ x ∈ s.results, ∀ t, displayPath w.host x.candidate.path settings.root = .ok t →
      esc ∉ t.toList) :
    LooksAlike w ((s.finish { settings with color := true }).run w)
      ((s.finish { settings with color := false }).run w) := by
  rw [run_finish, run_finish]
  dsimp only
  by_cases hempty : (settings.requireCandidates && s.results.isEmpty) = true
  · rw [if_pos hempty, if_pos hempty]
    exact looksAlike_log _ w .err
      (withoutEscapes_spoken .failure settings.emoji (s := nothingFound) (by decide))
  · rw [if_neg hempty, if_neg hempty]
    rcases hlines : s.lines w.host settings.root with e | ls
    · exact looksAlike_refl _ w
    · exact looksAlike_log _ w .out
        (withoutEscapes_printed s (lacksEsc_of_lines hs hlines hshown))

/-- **Colour never changes the text.** -/
theorem finish_color (xs : List LintResult) (settings : Settings) (w : World)
    (hshown : ∀ x ∈ xs, ∀ t, displayPath w.host x.candidate.path settings.root = .ok t →
      esc ∉ t.toList) :
    let s := xs.foldl add {}
    LooksAlike w ((s.finish { settings with color := true }).run w)
        ((s.finish { settings with color := false }).run w) ∧
      ∀ tone emoji message, esc ∉ message.toList →
        withoutEscapes (Console.spoken tone emoji true message) =
          Console.spoken tone emoji false message := by
  intro s
  have hs : s.Accounts xs := accounts_foldl xs
  exact ⟨finish_looksAlike hs.toTallied (hs.results ▸ hshown),
    fun tone emoji _ => withoutEscapes_spoken tone emoji⟩

theorem finish_color_sample :
    let xs : List LintResult := [⟨⟨.absolute ["r", "a.py"], .python, []⟩, .passed, some 0⟩,
      ⟨⟨.absolute ["r", "b.py"], .python, []⟩, .cached, none⟩,
      ⟨⟨.absolute ["r", "c\td.py"], .python, []⟩, .failed, some 1⟩]
    let settings : Settings := { root := .absolute ["r"], cacheRoot := .absolute ["c"] }
    let w : World := ⟨.holding [["r"]] [], []⟩
    let s := xs.foldl add {}
    (∀ x ∈ xs, ∀ t, displayPath w.host x.candidate.path settings.root = .ok t →
        esc ∉ t.toList) ∧
      LooksAlike w ((s.finish { settings with color := true }).run w)
        ((s.finish { settings with color := false }).run w) ∧
      withoutEscapes (Console.spoken .failure true true "a\tb") =
        Console.spoken .failure true false "a\tb" := by
  intro xs settings w s
  have hlacks : w.host.Lacks esc :=
    ⟨fun hl => absurd hl (Host.node?_holding_ne_link _ _ _ _), fun s hs => nomatch hs⟩
  have hshown : ∀ x ∈ xs, ∀ t, displayPath w.host x.candidate.path settings.root = .ok t →
      esc ∉ t.toList := by
    intro x hx t ht
    have hpath : ∀ x ∈ xs, esc ∉ x.candidate.path.text.toList := by decide
    exact hlacks.displayPath inner_esc (hpath x hx) ht
  obtain ⟨hfinish, hspoken⟩ := finish_color xs settings w hshown
  exact ⟨hshown, hfinish, hspoken .failure true "a\tb" (by decide)⟩

end Summary

end OptIn
